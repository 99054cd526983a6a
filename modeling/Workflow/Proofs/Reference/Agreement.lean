import Workflow.Proofs.Expr.Names
import Workflow.Reference.Binding

/-!
# What tokens read of a scope

A path reads one name of the scope, the one it begins with, and the paths of time and
identifiers read none.  Resolving and binding give the same in two scopes that agree on
the names that the tokens read.
-/

namespace Workflow

namespace Reference

open Workflow.Expr (AgreeOn)

variable {P : String -> Prop} {s t : List (Value × Value)}

/-- The name of the scope that a path begins with. -/
def origin (path : String) : String :=
  (segments path).headD ""

/-- A path that reads nothing of a scope but names of a set. -/
def Reads (P : String -> Prop) (path : String) : Prop :=
  path = "now" ∨ path = "uuid" ∨ P (origin path)

/-- Some paths that read nothing of a scope but names of a set. -/
def Within (P : String -> Prop) (paths : List String) : Prop :=
  ∀ path ∈ paths, Reads P path

instance [DecidablePred P] (path : String) : Decidable (Reads P path) :=
  inferInstanceAs (Decidable (path = "now" ∨ path = "uuid" ∨ P (origin path)))

instance [DecidablePred P] (paths : List String) : Decidable (Within P paths) :=
  inferInstanceAs (Decidable (∀ path ∈ paths, Reads P path))

namespace Within

theorem left {ps qs : List String} (h : Within P (ps ++ qs)) : Within P ps :=
  fun path hp => h path (List.mem_append_left qs hp)

theorem right {ps qs : List String} (h : Within P (ps ++ qs)) : Within P qs :=
  fun path hp => h path (List.mem_append_right ps hp)

theorem head {p : String} {ps : List String} (h : Within P (p :: ps)) : Reads P p :=
  h p List.mem_cons_self

theorem tail {p : String} {ps : List String} (h : Within P (p :: ps)) : Within P ps :=
  fun path hp => h path (List.mem_cons_of_mem p hp)

end Within

theorem segments_ne_nil (path : String) : segments path ≠ [] := by
  simp only [segments, ne_eq, List.map_eq_nil_iff]
  cases path.length with
  | zero => simp [Text.splitAll]
  | succ limit =>
      simp only [Text.splitAll]
      split <;> simp

theorem lookup?_agree (agree : AgreeOn P s t) {path : String} (hp : P (origin path)) :
    lookup? (.dict s) path = lookup? (.dict t) path := by
  unfold lookup?
  unfold origin at hp
  cases hs : segments path with
  | nil => exact absurd hs (segments_ne_nil path)
  | cons key rest =>
      have hp : P key := by simpa only [hs, List.headD_cons] using hp
      simp only [descend?, child?, Value.bare, agree key hp]

theorem valueAt?_agree (agree : AgreeOn P s t) {path : String} (hp : Reads P path) :
    valueAt? (.dict s) path = valueAt? (.dict t) path := by
  rcases hp with rfl | rfl | hp
  · rfl
  · rfl
  · simp only [valueAt?, lookup?_agree agree hp]

/-! ## Resolving -/

/-- The path of a stretch that is a token. -/
def Piece.path? : Piece -> Option String
  | .token inside => some (pathOf inside)
  | .char _ => none

theorem pathsOf_eq (s : String) : pathsOf s = (pieces s.toList).filterMap Piece.path? :=
  rfl

theorem piecesText_agree (agree : AgreeOn P s t) (ps : List Piece)
    (hp : Within P (ps.filterMap Piece.path?)) :
    piecesText (.dict s) ps = piecesText (.dict t) ps := by
  induction ps with
  | nil => rfl
  | cons p rest ih =>
      cases p with
      | char c => simp only [piecesText, pieceText, ih hp]
      | token inside =>
          have here : Reads P (pathOf inside) := hp.head
          simp only [piecesText, pieceText, valueAt?_agree agree here, ih hp.tail]

theorem resolveText_agree (agree : AgreeOn P s t) {text : String} (hp : Within P (pathsOf text)) :
    resolveText (.dict s) text = resolveText (.dict t) text := by
  rw [pathsOf_eq] at hp
  unfold resolveText
  split
  · next inside heq =>
      rw [heq] at hp
      have here : Reads P (pathOf inside) := hp.head
      simp only [valueAt?_agree agree here]
  · simp only [piecesText_agree agree _ hp]

mutual

/-- A value resolves to the same in scopes that agree on what its tokens read. -/
theorem resolve_agree (agree : AgreeOn P s t) (v : Value) (hp : Within P (unresolved v)) :
    resolve (.dict s) v = resolve (.dict t) v := by
  match v with
  | .str text => exact resolveText_agree agree hp
  | .list items => simp only [resolve, resolveItems_agree agree items hp]
  | .tuple items => simp only [resolve, resolveItems_agree agree items hp]
  | .dict entries => simp only [resolve, resolveEntries_agree agree entries hp]
  | .object mark content =>
      have inner := resolve_agree agree content hp
      cases content with
      | float x => simp only [resolve]
      | set items => simp only [resolve]
      | _ => exact inner
  | .null | .bool _ | .int _ | .float _ | .sealed _ | .set _ | .bytes _ | .datetime _ | .date _
  | .complex .. | .span _ | .function _ | .converter _ | .method .. | .view .. | .range ..
  | .undefined .. | .markup _ | .stream .. | .slot .. | .foreign _ => simp only [resolve]

theorem resolveItems_agree (agree : AgreeOn P s t) (items : List Value)
    (hp : Within P (unresolvedItems items)) :
    resolveItems (.dict s) items = resolveItems (.dict t) items := by
  match items with
  | [] => rfl
  | x :: rest =>
      simp only [resolveItems, resolve_agree agree x hp.left,
        resolveItems_agree agree rest hp.right]

theorem resolveEntries_agree (agree : AgreeOn P s t) (entries : List (Value × Value))
    (hp : Within P (unresolvedEntries entries)) :
    resolveEntries (.dict s) entries = resolveEntries (.dict t) entries := by
  match entries with
  | [] => rfl
  | (k, v) :: rest =>
      simp only [resolveEntries, resolve_agree agree v hp.left,
        resolveEntries_agree agree rest hp.right]

end

/-! ## Binding -/

/-- The paths of the tokens of a stretch of an expression. -/
def Part.paths : Part -> List String
  | .char _ => []
  | .quoted _ body => (pieces body).filterMap Piece.path?
  | .token inside => [pathOf inside]

/-- The paths of the tokens of an expression, those in its quoted literals included. -/
def boundPaths (expression : String) : List String :=
  (parts expression.toList).flatMap Part.paths

theorem bindLiteral_agree (agree : AgreeOn P s t) (b : Bound) (ps : List Piece)
    (hp : Within P (ps.filterMap Piece.path?)) :
    bindLiteral (.dict s) b ps = bindLiteral (.dict t) b ps := by
  induction ps generalizing b with
  | nil => rfl
  | cons p rest ih =>
      cases p with
      | char c => simp only [bindLiteral, ih _ hp]
      | token inside =>
          have here : Reads P (pathOf inside) := hp.head
          simp only [bindLiteral, valueAt?_agree agree here, ih _ hp.tail]

theorem bindPart_agree (agree : AgreeOn P s t) (reserved : List String) (b : Bound) (p : Part)
    (hp : Within P p.paths) :
    bindPart (.dict s) reserved b p = bindPart (.dict t) reserved b p := by
  cases p with
  | char c => rfl
  | quoted q body => simp only [bindPart, bindLiteral_agree agree b (pieces body) hp]
  | token inside =>
      have here : Reads P (pathOf inside) := hp.head
      simp only [bindPart, valueAt?_agree agree here]

/-- An expression is bound the same in scopes that agree on what its tokens read. -/
theorem bind_agree (agree : AgreeOn P s t) (reserved : List String) {expression : String}
    (hp : Within P (boundPaths expression)) :
    bind (.dict s) reserved expression = bind (.dict t) reserved expression := by
  have all (b : Bound) (ps : List Part) (hp : Within P (ps.flatMap Part.paths)) :
      bindParts (.dict s) reserved b ps = bindParts (.dict t) reserved b ps := by
    induction ps generalizing b with
    | nil => rfl
    | cons p rest ih =>
        simp only [bindParts, bindPart_agree agree reserved b p hp.left, ih _ hp.right]
  exact all .empty _ hp

end Reference

end Workflow
