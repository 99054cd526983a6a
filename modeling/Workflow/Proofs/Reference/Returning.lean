import Workflow.Proofs.Reference.Literals

/-!
# When resolving has a result

Resolving fails where a path cannot be looked up, or where what a token inside of other
text leads to has no text.  Nothing else stops it, whichever fresh values are drawn.
-/

namespace Workflow

open Effect (bind_ok ok_bind)

namespace Value

mutual

/-- The texts in a value whose tokens are resolved: all that are no keys. -/
def texts : Value -> List String
  | .str s => [s]
  | .list items => textsOfItems items
  | .tuple items => textsOfItems items
  | .dict entries => textsOfEntries entries
  | .object _ content => texts content
  | _ => []

/-- The texts in items. -/
def textsOfItems : List Value -> List String
  | [] => []
  | x :: rest => texts x ++ textsOfItems rest

/-- The texts in the values of entries. -/
def textsOfEntries : List (Value × Value) -> List String
  | [] => []
  | (_, v) :: rest => texts v ++ textsOfEntries rest

end

end Value

namespace Reference

/-! ## Computations that may fail -/

/-- A computation has a result exactly if something holds, whichever fresh values it draws. -/
def ReturnsIff {α : Type} (m : Resolving α) (P : Prop) : Prop :=
  ∀ f, (∃ a g, m f = .ok a g) ↔ P

namespace ReturnsIff

variable {α β : Type} {m : Resolving α} {P Q : Prop}

theorem pure (a : α) : ReturnsIff (Pure.pure a) True :=
  fun f => iff_true_intro ⟨a, f, rfl⟩

theorem congr (h : ReturnsIff m P) (same : P ↔ Q) : ReturnsIff m Q :=
  fun f => (h f).trans same

theorem bind {k : α -> Resolving β} (hm : ReturnsIff m P) (hk : ∀ a, ReturnsIff (k a) Q) :
    ReturnsIff (m >>= k) (P ∧ Q) := by
  intro f
  constructor
  · rintro ⟨b, g, h⟩
    obtain ⟨a, t, first, second⟩ := bind_ok h
    exact ⟨(hm f).mp ⟨a, t, first⟩, (hk a t).mp ⟨b, g, second⟩⟩
  · rintro ⟨hp, hq⟩
    obtain ⟨a, t, first⟩ := (hm f).mpr hp
    obtain ⟨b, g, second⟩ := (hk a t).mpr hq
    exact ⟨b, g, ok_bind first second⟩

/-- What is done with a result at the end does not fail. -/
theorem map (h : ReturnsIff m P) (k : α -> β) : ReturnsIff (do Pure.pure (k (<- m))) P :=
  (h.bind fun a => pure (k a)).congr (and_iff_left trivial)

end ReturnsIff

theorem returnsIff_liftOutcome {α : Type} (r : Outcome α) :
    ReturnsIff (liftOutcome r) (∃ a, r = .ok a) := by
  intro f
  cases r with
  | ok a => exact ⟨fun _ => ⟨a, rfl⟩, fun _ => ⟨a, f, rfl⟩⟩
  | error e => exact ⟨fun ⟨_, _, h⟩ => (nomatch h), fun ⟨_, h⟩ => (nomatch h)⟩

theorem liftOutcome_ok {α : Type} {r : Outcome α} {a : α} {f g : Fresh}
    (h : liftOutcome r f = .ok a g) : r = .ok a ∧ f = g := by
  cases r with
  | ok b => cases h; exact ⟨rfl, rfl⟩
  | error e => cases h

/-! ## Paths -/

/-- The paths of the time and of identifiers, which are drawn and not looked up. -/
def isDrawn (path : String) : Bool :=
  path == "now" || path == "uuid"

/-- A path can be followed, to a value or to where there is none. -/
def Looks (scope : Value) (path : String) : Prop :=
  isDrawn path = true ∨ ∃ found, lookup? scope path = .ok found

variable {scope : Value} {path : String}

theorem valueAt?_of_drawn (drawn : isDrawn path = true) (f : Fresh) :
    ∃ s g, valueAt? scope path f = .ok (some (.str s)) g := by
  unfold valueAt?
  split
  · exact ⟨_, _, rfl⟩
  · next other =>
      rw [isDrawn, Bool.eq_false_iff.mpr other, Bool.false_or] at drawn
      rw [drawn]
      exact ⟨_, _, rfl⟩

theorem valueAt?_of_not_drawn (looked : isDrawn path = false) :
    valueAt? scope path = liftOutcome (lookup? scope path) := by
  obtain ⟨now, uuid⟩ := Bool.or_eq_false_iff.mp looked
  simp only [valueAt?, now, uuid, Bool.false_eq_true, if_false]

theorem returnsIff_valueAt : ReturnsIff (valueAt? scope path) (Looks scope path) := by
  intro f
  cases drawn : isDrawn path with
  | true =>
      obtain ⟨s, g, h⟩ := valueAt?_of_drawn drawn f
      exact ⟨fun _ => .inl drawn, fun _ => ⟨_, g, h⟩⟩
  | false =>
      rw [valueAt?_of_not_drawn drawn, returnsIff_liftOutcome]
      simp [Looks, drawn]

theorem shows_iff : Shows scope path ↔ isDrawn path = true ∨
    ∀ v, lookup? scope path = .ok (some v) -> ∃ text, inlineText v = .ok text := by
  cases drawn : isDrawn path with
  | true =>
      refine iff_of_true (fun f v g found => ?_) (.inl rfl)
      obtain ⟨s, t, h⟩ : ∃ s t, valueAt? scope path f = .ok (some (.str s)) t :=
        valueAt?_of_drawn drawn f
      rw [h] at found
      cases found
      exact ⟨s, rfl⟩
  | false =>
      simp only [Shows, valueAt?_of_not_drawn drawn, Bool.false_eq_true, false_or]
      constructor
      · intro shows v found
        have here : liftOutcome (lookup? scope path) morning = .ok (some v) morning := by
          rw [found]
          rfl
        exact shows _ v _ here
      · intro shows f v g found
        exact shows v (liftOutcome_ok found).1

/-! ## Texts -/

/-- The paths of the tokens of a text, unless it is one token by itself. -/
def embedded (s : String) : List String :=
  match pieces s.toList with
  | [.token _] => []
  | ps => ps.filterMap Piece.path?

theorem returnsIff_pieceText {inside : List Char} :
    ReturnsIff (pieceText scope (.token inside))
      (Looks scope (pathOf inside) ∧ Shows scope (pathOf inside)) := by
  intro f
  constructor
  · rintro ⟨cs, g, h⟩
    obtain ⟨found, t, looked, rest⟩ := bind_ok h
    refine ⟨(returnsIff_valueAt f).mp ⟨found, t, looked⟩, shows_iff.mpr ?_⟩
    cases drawn : isDrawn (pathOf inside) with
    | true => exact .inl rfl
    | false =>
        refine .inr fun v there => ?_
        rw [valueAt?_of_not_drawn drawn, there] at looked
        cases looked
        obtain ⟨text, u, given, -⟩ := bind_ok rest
        exact ⟨text, (liftOutcome_ok given).1⟩
  · rintro ⟨looks, shows⟩
    obtain ⟨found, t, looked⟩ := (returnsIff_valueAt f).mpr looks
    cases found with
    | none => exact ⟨_, _, ok_bind looked rfl⟩
    | some v =>
        obtain ⟨text, given⟩ := shows f v t looked
        have shown : liftOutcome (inlineText v) t = .ok text t := by rw [given]; rfl
        exact ⟨_, _, ok_bind looked (ok_bind shown rfl)⟩

theorem returnsIff_piecesText (ps : List Piece) :
    ReturnsIff (piecesText scope ps)
      (∀ path ∈ ps.filterMap Piece.path?, Looks scope path ∧ Shows scope path) := by
  induction ps with
  | nil => exact (ReturnsIff.pure []).congr (by simp)
  | cons p rest ih =>
      have both {P : Prop} (here : ReturnsIff (pieceText scope p) P) :
          ReturnsIff (piecesText scope (p :: rest))
            (P ∧ ∀ path ∈ rest.filterMap Piece.path?, Looks scope path ∧ Shows scope path) :=
        here.bind fun front => ih.map (front ++ ·)
      cases p with
      | char c => exact (both (ReturnsIff.pure [c])).congr (by simp [Piece.path?])
      | token inside => exact (both returnsIff_pieceText).congr (by simp [Piece.path?])

theorem resolveText_alone {s : String} {inside : List Char}
    (alone : pieces s.toList = [.token inside]) :
    resolveText scope s = (do
      match <- valueAt? scope (pathOf inside) with
      | none => pure (.str s)
      | some v => pure v) := by
  unfold resolveText
  rewrite [alone]
  rfl

theorem resolveText_mixed {s : String} (several : ∀ inside, pieces s.toList ≠ [.token inside]) :
    resolveText scope s =
      (do pure (.str (String.ofList (<- piecesText scope (pieces s.toList))))) := by
  unfold resolveText
  split
  · next inside alone => exact absurd alone (several inside)
  · rfl

theorem embedded_alone {s : String} {inside : List Char}
    (alone : pieces s.toList = [.token inside]) : embedded s = [] := by
  rw [embedded, alone]

theorem embedded_mixed {s : String} (several : ∀ inside, pieces s.toList ≠ [.token inside]) :
    embedded s = pathsOf s := by
  unfold embedded
  split
  · next inside alone => exact absurd alone (several inside)
  · rfl

/-- All paths of a text can be followed, and what is put in other text has a text. -/
def Readable (scope : Value) (s : String) : Prop :=
  (∀ path ∈ pathsOf s, Looks scope path) ∧ ∀ path ∈ embedded s, Shows scope path

theorem returnsIff_resolveText (s : String) :
    ReturnsIff (resolveText scope s) (Readable scope s) := by
  by_cases alone : ∃ inside, pieces s.toList = [.token inside]
  · obtain ⟨inside, alone⟩ := alone
    have ended : ∀ found : Option Value, ReturnsIff
        (match found with
          | none => pure (.str s)
          | some v => pure v) True := fun found => by
      cases found <;> exact .pure _
    rw [resolveText_alone alone]
    refine (returnsIff_valueAt.bind ended).congr ?_
    simp [Readable, embedded_alone alone, pathsOf_eq, alone, Piece.path?]
  · have several : ∀ inside, pieces s.toList ≠ [.token inside] := fun inside same =>
      alone ⟨inside, same⟩
    rw [resolveText_mixed several]
    refine ((returnsIff_piecesText _).map _).congr ?_
    rw [Readable, embedded_mixed several, ← forall₂_and]
    rfl

/-! ## Values -/

mutual

/-- A value resolves exactly if all its texts do. -/
theorem returnsIff_resolve (v : Value) :
    ReturnsIff (resolve scope v) (∀ s ∈ v.texts, Readable scope s) := by
  match v with
  | .str s => exact (returnsIff_resolveText s).congr (by simp [Value.texts])
  | .list items => exact (returnsIff_resolveItems items).map _
  | .tuple items => exact (returnsIff_resolveItems items).map _
  | .dict entries => exact (returnsIff_resolveEntries entries).map _
  | .object mark content =>
      have within := returnsIff_resolve content
      cases content with
      | float x => exact (ReturnsIff.pure _).congr (by simp [Value.texts])
      | set items => exact (ReturnsIff.pure _).congr (by simp [Value.texts])
      | _ => exact within
  | .null | .bool _ | .int _ | .float _ | .sealed _ | .set _ | .bytes _ | .datetime _ | .date _
  | .complex .. | .span _ | .function _ | .converter _ | .method .. | .view .. | .range ..
  | .undefined .. | .markup _ | .stream .. | .slot .. | .foreign _ =>
      exact (ReturnsIff.pure _).congr (by simp [Value.texts])

theorem returnsIff_resolveItems (items : List Value) :
    ReturnsIff (resolveItems scope items)
      (∀ s ∈ Value.textsOfItems items, Readable scope s) := by
  match items with
  | [] => exact (ReturnsIff.pure []).congr (by simp [Value.textsOfItems])
  | x :: rest =>
      have both : ReturnsIff (resolveItems scope (x :: rest)) _ :=
        (returnsIff_resolve x).bind fun y => (returnsIff_resolveItems rest).map (y :: ·)
      exact both.congr List.forall_mem_append.symm

theorem returnsIff_resolveEntries (entries : List (Value × Value)) :
    ReturnsIff (resolveEntries scope entries)
      (∀ s ∈ Value.textsOfEntries entries, Readable scope s) := by
  match entries with
  | [] => exact (ReturnsIff.pure []).congr (by simp [Value.textsOfEntries])
  | (k, v) :: rest =>
      have both : ReturnsIff (resolveEntries scope ((k, v) :: rest)) _ :=
        (returnsIff_resolve v).bind fun w => (returnsIff_resolveEntries rest).map ((k, w) :: ·)
      exact both.congr List.forall_mem_append.symm

end

end Reference

end Workflow
