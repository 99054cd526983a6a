import Workflow.Expr.Statement
import Workflow.Proofs.Expr.Names
import Workflow.Proofs.Expr.Token

/-!
# Expressions have the names of their text

Reading takes the names of an expression from tokens, and an embedded text from a stretch
of the text around it.  Names that no run of the text stands for are not read.
-/

namespace Workflow

namespace Reading

variable {P : String -> Prop} {cs : List Char} {ts : List Token} {fuel : Nat}

/-- What a reader gives, if it gives anything, has a property. -/
def Gives {α : Type} (Q : α -> Prop) (r : Option α) : Prop :=
  ∀ a, r = some a -> Q a

namespace Gives

variable {α β : Type} {Q : α -> Prop} {R : β -> Prop}

theorem none : Gives Q none :=
  nofun

theorem some {a : α} (h : Q a) : Gives Q (some a) := by
  intro b hb
  cases hb
  exact h

theorem bind {r : Option α} {f : α -> Option β} (h : Gives Q r) (hf : ∀ a, Q a -> Gives R (f a)) :
    Gives R (r >>= f) := by
  intro b hb
  obtain ⟨a, ha, hb⟩ := Option.bind_eq_some_iff.mp hb
  exact hf a (h a ha) b hb

/-- What is read before does not matter. -/
theorem after {r : Option α} {f : α -> Option β} (hf : ∀ a, Gives R (f a)) : Gives R (r >>= f) :=
  bind (Q := fun _ => True) (fun _ _ => trivial) fun a _ => hf a

end Gives

/-! ## Pieces -/

/-- The runs of the expressions in a piece stand for names within a set. -/
inductive Piece.Within (P : String -> Prop) : Piece -> Prop where
  | literal (cs : List Char) : Within P (.literal cs)
  | embedded {source : List Char} {spec : Option (List Piece)} :
      RunsWithin P source -> (∀ ps ∈ spec, ∀ p ∈ ps, Within P p) -> Within P (.embedded source spec)

/-- A quoted text and what follows it make up the text it was split off. -/
theorem spanQuoted_append_cons {quote : Char} {triple : Bool} {rest b tail : List Char} {c : Char}
    (ih : ∀ b, spanQuoted quote triple tail = some (b, rest) -> b ++ rest = tail)
    (h : (spanQuoted quote triple tail).map (fun (s, r) => (c :: s, r)) = some (b, rest)) :
    b ++ rest = c :: tail := by
  obtain ⟨⟨b, r⟩, hb, h⟩ := Option.map_eq_some_iff.mp h
  cases h
  simpa using ih b hb

theorem spanQuoted_append {quote : Char} {triple : Bool} {body rest : List Char}
    (h : spanQuoted quote triple cs = some (body, rest)) : body ++ rest = cs := by
  fun_induction spanQuoted quote triple cs generalizing body with
  | case1 => cases h
  | case2 => cases h
  | case3 => cases h; rfl
  | case4 _ _ _ _ _ _ _ _ ih => exact spanQuoted_append_cons (fun _ => ih) h
  | case5 => cases h
  | case6 => cases h; rfl
  | case7 _ _ _ _ ih => exact spanQuoted_append_cons (fun _ => ih) h

theorem spanLiteral_suffix_map {raw outer named : Bool} {tail rest l : List Char}
    (f : List Char -> List Char)
    (ih : ∀ l, spanLiteral raw outer named tail = some (l, rest) -> rest <:+ tail)
    (h : (spanLiteral raw outer named tail).map (fun (l, r) => (f l, r)) = some (l, rest)) :
    rest <:+ tail := by
  obtain ⟨⟨l, r⟩, hl, h⟩ := Option.map_eq_some_iff.mp h
  cases h
  exact ih l hl

theorem spanLiteral_suffix {raw outer named : Bool} {literal rest : List Char}
    (h : spanLiteral raw outer named cs = some (literal, rest)) : rest <:+ cs := by
  fun_induction spanLiteral raw outer named cs generalizing literal with
  | case1 => cases h; exact List.suffix_rfl
  | case2 c tail keep =>
      rename_i ih
      exact (spanLiteral_suffix_map (c :: ·) (fun _ => ih _) h).trans (List.suffix_cons c tail)
  | case3 => cases h; exact List.suffix_rfl
  | case4 => cases h
  | case5 => cases h; exact List.suffix_rfl
  | case6 _ c =>
      rename_i ih
      exact (spanLiteral_suffix_map (c :: ·) (fun _ => ih _) h).trans (List.suffix_cons c [])
  | case7 _ c _ d tail =>
      rename_i ih
      have left := spanLiteral_suffix_map (fun l => c :: d :: l) (fun _ => ih _) h
      exact left.trans (List.suffix_append [c, d] tail)
  | case8 _ c _ d tail =>
      rename_i ih
      have left := spanLiteral_suffix_map (fun l => c :: d :: l) (fun _ => ih _) h
      exact left.trans (List.suffix_append [c, d] tail)
  | case9 _ c _ d tail _ _ _ _ _ _ ih =>
      exact (spanLiteral_suffix_map _ (fun _ => ih) h).trans (List.suffix_append [c, d] tail)
  | case10 => cases h
  | case11 => cases h; exact List.suffix_rfl
  | case12 _ c _ d tail _ _ _ _ ih =>
      exact (spanLiteral_suffix_map (c :: ·) (fun _ => ih _) h).trans (List.suffix_cons c _)

theorem splits_take {split : Option (List Char × List Char)} (n : Nat)
    (ih : Text.Splits (cs.drop n) split) :
    Text.Splits cs (split.map fun (s, r) => (cs.take n ++ s, r)) := by
  simpa only [List.take_append_drop] using ih.append (cs.take n)

theorem spanSource_splits (fuel : Nat) (brackets cs : List Char) :
    Text.Splits cs (spanSource fuel brackets cs) := by
  fun_induction spanSource fuel brackets cs with
  | case1 => exact .none
  | case2 => exact .none
  | case3 => exact .none
  | case4 => exact .none
  | case5 fuel brackets c tail _ _ triple front body more hq _ ih =>
      have whole : front ++ body ++ more = c :: tail := by
        rw [List.append_assoc, spanQuoted_append hq]
        unfold front
        split
        · next tripled =>
            unfold triple at tripled
            split at tripled
            · next a b _ =>
                obtain ⟨ha, hb⟩ := Bool.and_eq_true_iff.mp tripled
                cases eq_of_beq ha
                cases eq_of_beq hb
                rfl
            · cases tripled
        · rfl
      rw [← whole]
      exact ih.append (front ++ body)
  | case6 _ _ c _ _ _ _ _ _ ih => exact ih.cons c
  | case7 _ _ _ _ _ _ _ _ _ _ _ ih => exact splits_take 2 (ih 2)
  | case8 _ _ _ _ _ _ _ _ _ _ _ _ ih => exact splits_take 1 (ih 1)
  | case9 => exact .nil List.suffix_rfl
  | case10 _ c _ _ _ _ _ _ _ _ _ _ ih => exact ih.cons c
  | case11 => exact .none
  | case12 => exact .none
  | case13 _ _ _ _ _ _ _ _ _ _ ih => exact splits_take 1 (ih 1)

/-- A literal is a piece unless it is empty, and holds no expression. -/
theorem literalPiece_within (literal : List Char) :
    ∀ p ∈ (if literal.isEmpty then [] else [Piece.literal literal]), p.Within P := by
  split
  · exact nofun
  · exact List.forall_mem_singleton.mpr (.literal literal)

/-- A mark that shows an expression, and the blanks after it, are cut off the front. -/
theorem shown_suffix (source cs : List Char) :
    (match cs with
      | '=' :: more =>
          let blanks := more.takeWhile Text.isBlank
          (source ++ '=' :: blanks, more.dropWhile Text.isBlank)
      | _ => ([], cs)).2 <:+ cs := by
  split
  · next more => exact (List.dropWhile_suffix _).trans (List.suffix_cons '=' more)
  · exact List.suffix_rfl

/-- Pieces that were cut off a text, and what is left of it. -/
structure Cut (P : String -> Prop) (cs : List Char) (x : List Piece × List Char) : Prop where
  pieces : ∀ p ∈ x.1, p.Within P
  left : x.2 <:+ cs

/-- The expressions in the pieces of a text are stretches of it. -/
theorem piecesOf_within (raw : Bool) (fuel depth : Nat) {cs : List Char} (h : RunsWithin P cs) :
    Gives (Cut P cs) (piecesOf raw fuel depth cs) := by
  induction fuel generalizing depth cs with
  | zero => exact .none
  | succ fuel ih =>
      unfold piecesOf
      refine Gives.bind (fun _ => spanLiteral_suffix) fun ⟨literal, tail⟩ afterLiteral => ?_
      dsimp -zeta only at afterLiteral ⊢
      split
      · next inner =>
          have inside : inner <:+ cs := (List.suffix_cons _ inner).trans afterLiteral
          split
          · exact .none
          refine Gives.bind (Q := fun x => RunsWithin P x.1 ∧ x.2 <:+ cs) ?_ ?_
          · rintro ⟨source, rest⟩ hs
            obtain ⟨front, back⟩ := spanSource_splits _ _ _ source rest hs
            exact ⟨h.of_stretch (front.isInfix.trans inside.isInfix), back.trans inside⟩
          rintro ⟨source, rest⟩ ⟨runs, left⟩
          dsimp -zeta only at runs left ⊢
          extract_lets before closing spec
          -- The steps after the source, last first: closing brace, specification, conversion.
          have closed (x : Option (List Piece) × List Char) (hx : x.2 <:+ cs)
              (inner : ∀ ps ∈ x.1, ∀ p ∈ ps, p.Within P) : Gives (Cut P cs) (closing x) := by
            unfold closing
            split
            · next more heq =>
                have after : more <:+ cs := (List.suffix_cons _ more).trans (heq ▸ hx)
                split
                · exact .none
                · refine (ih depth (h.of_suffix after)).bind fun ⟨others, rest⟩ cut => ?_
                  refine .some ⟨?_, cut.left.trans after⟩
                  have first := literalPiece_within (P := P) before
                  have here : (Piece.embedded source x.1).Within P := .embedded runs inner
                  exact List.forall_mem_append.mpr
                    ⟨first, List.forall_mem_cons.mpr ⟨here, cut.pieces⟩⟩
            · exact .none
          have specified (rest : List Char) (hr : rest <:+ cs) : Gives (Cut P cs) (spec rest) := by
            unfold spec
            split
            · next more =>
                have after : more <:+ cs := (List.suffix_cons ':' more).trans hr
                refine (ih (depth + 1) (h.of_suffix after)).bind fun ⟨ps, rest⟩ cut => ?_
                refine closed _ (cut.left.trans after) fun _ hm => ?_
                cases hm
                exact cut.pieces
            · exact closed _ hr nofun
          have shown := (shown_suffix source rest).trans left
          split
          · next c more heq =>
              have whole : '!' :: c :: more <:+ cs := (congrArg (· <:+ cs) heq).mp shown
              have inner : more <:+ cs := (List.suffix_append ['!', c] more).trans whole
              split
              · exact specified more inner
              · exact .none
          · exact specified _ shown
      · exact .some ⟨literalPiece_within literal, afterLiteral⟩

/-! ## Expressions -/

/-- All names of some expressions are within a set. -/
def AllWithin (P : String -> Prop) (es : List Expr) : Prop :=
  ∀ e ∈ es, e.Within P

/-- All names of the clauses of a collection are within a set. -/
def ClausesWithin (P : String -> Prop) (clauses : List (Target × Expr × List Expr)) : Prop :=
  (∀ c ∈ clauses, c.2.1.Within P) ∧ ∀ c ∈ clauses, AllWithin P c.2.2

/-- What is read from tokens, and the tokens that are left, are within a set. -/
def Reads {α : Type} (P : String -> Prop) (Q : α -> Prop) (r : Option (α × List Token)) : Prop :=
  Gives (fun x => Q x.1 ∧ TokensWithin P x.2) r

/-- Some expressions, whether a comma was met, and the tokens that are left, within a set. -/
def ReadsItems (P : String -> Prop) (r : Option (List Expr × Bool × List Token)) : Prop :=
  Gives (fun x => AllWithin P x.1 ∧ TokensWithin P x.2.2) r

namespace AllWithin

variable {e : Expr} {es rest : List Expr}

theorem nil : AllWithin P [] :=
  nofun

theorem cons (h : e.Within P) (hes : AllWithin P es) : AllWithin P (e :: es) :=
  List.forall_mem_cons.mpr ⟨h, hes⟩

theorem singleton (h : e.Within P) : AllWithin P [e] :=
  cons h nil

theorem head (h : AllWithin P (e :: es)) : e.Within P :=
  h e List.mem_cons_self

theorem append (h : AllWithin P es) (hr : AllWithin P rest) : AllWithin P (es ++ rest) :=
  List.forall_mem_append.mpr ⟨h, hr⟩

end AllWithin

theorem takeMark_within (h : TokensWithin P ts) (m : String) :
    Gives (TokensWithin P) (takeMark m ts) := by
  unfold takeMark
  split
  · split
    · exact .some h.tail
    · exact .none
  · exact .none

theorem takeWord_within (h : TokensWithin P ts) (w : String) :
    Gives (TokensWithin P) (takeWord w ts) := by
  unfold takeWord
  split
  · split
    · exact .some h.tail
    · exact .none
  · exact .none

theorem takeName_within (h : TokensWithin P ts) : Reads P P (takeName ts) := by
  unfold takeName
  split
  · split
    · exact .none
    · exact .some ⟨h.head, h.tail⟩
  · exact .none

theorem takeComparison_within (h : TokensWithin P ts) :
    Reads P (fun _ => True) (takeComparison ts) := by
  unfold takeComparison
  split
  all_goals first
    | exact .none
    | exact .some ⟨trivial, h.tail⟩
    | exact .some ⟨trivial, h.tail.tail⟩

/-- A reader keeps to the names of its tokens, in what it gives and in what it leaves. -/
def Keeps {α : Type} (P : String -> Prop) (Q : α -> Prop) (reader : Reader α) : Prop :=
  ∀ ⦃ts⦄, TokensWithin P ts -> Reads P Q (reader ts)

/-- The readers of expressions keep to the names of their tokens up to some depth. -/
structure Readers (P : String -> Prop) (fuel : Nat) : Prop where
  expression : Keeps P (Expr.Within P) (readExpression fuel)
  parameters (met : Parameters) (close : String) : ∀ ⦃ts⦄, TokensWithin P ts ->
    Gives (TokensWithin P) (readParameters fuel met close ts)
  disjunction : Keeps P (Expr.Within P) (readDisjunction fuel)
  moreDisjuncts : Keeps P (AllWithin P) (readMoreDisjuncts fuel)
  conjunction : Keeps P (Expr.Within P) (readConjunction fuel)
  moreConjuncts : Keeps P (AllWithin P) (readMoreConjuncts fuel)
  inversion : Keeps P (Expr.Within P) (readInversion fuel)
  comparisons : Keeps P (fun rest => ∀ p ∈ rest, p.2.Within P) (readComparisons fuel)
  binary (level : Nat) : Keeps P (Expr.Within P) (readBinary fuel level)
  moreBinary (level : Nat) {left : Expr} : left.Within P ->
    Keeps P (Expr.Within P) (readMoreBinary fuel level left)
  factor : Keeps P (Expr.Within P) (readFactor fuel)
  trailers {e : Expr} : e.Within P -> Keeps P (Expr.Within P) (readTrailers fuel e)
  keys : ∀ ⦃ts⦄, TokensWithin P ts -> ReadsItems P (readKeys fuel ts)
  key : Keeps P (Expr.Within P) (readKey fuel)
  named : Keeps P (Expr.Within P) (readNamed fuel)
  item : Keeps P (Expr.Within P) (readItem fuel)
  items (close : String) : ∀ ⦃ts⦄, TokensWithin P ts -> ReadsItems P (readItems fuel close ts)
  clauses : Keeps P (ClausesWithin P) (readClauses fuel)
  conditions : Keeps P (AllWithin P) (readConditions fuel)
  targets : Keeps P (Expr.Within P) (readTargets fuel)
  targetList : ∀ ⦃ts⦄, TokensWithin P ts -> ReadsItems P (readTargetList fuel ts)
  arguments (alone named spread : Bool) :
    Keeps P (fun a => AllWithin P a.1 ∧ ∀ p ∈ a.2, p.2.Within P)
      (readArguments fuel alone named spread)
  atom : Keeps P (Expr.Within P) (readAtom fuel)
  group : Keeps P (Expr.Within P) (readGroup fuel)
  yield : Keeps P (Expr.Within P) (readYield fuel)
  list : Keeps P (Expr.Within P) (readList fuel)
  listItems : ∀ ⦃ts⦄, TokensWithin P ts -> ReadsItems P (readListItems fuel ts)
  braces : Keeps P (Expr.Within P) (readBraces fuel)
  entries : Keeps P (fun es => (Expr.dict es).Within P) (readEntries fuel)
  texts : Keeps P (Expr.Within P) (readTexts fuel)
  parts : ∀ ⦃ts⦄, TokensWithin P ts -> Gives (AllWithin P) (readParts fuel ts)
  pieces (raw : Bool) : ∀ ⦃ps⦄, (∀ p ∈ ps, Piece.Within P p) ->
    Gives (AllWithin P) (readPieces fuel raw ps)

section

variable (read : Readers P fuel)

include read

theorem readExpression_within : Keeps P (Expr.Within P) (readExpression (fuel + 1)) := by
  intro ts h
  unfold readExpression
  split
  · next rest hw =>
      refine (read.parameters _ _ (takeWord_within h _ rest hw)).bind fun rest hrest => ?_
      refine (read.expression hrest).bind fun ⟨_, rest⟩ ⟨_, hrest⟩ => ?_
      exact .some ⟨.excluded "Lambda", hrest⟩
  · refine (read.disjunction h).bind fun ⟨yes, rest⟩ ⟨hyes, hrest⟩ => ?_
    dsimp only
    split
    · exact .some ⟨hyes, hrest⟩
    · next after hw =>
        have hafter := takeWord_within hrest _ after hw
        refine (read.disjunction hafter).bind fun ⟨test, rest⟩ ⟨htest, hrest⟩ => ?_
        refine (takeWord_within hrest _).bind fun rest hrest => ?_
        refine (read.expression hrest).bind fun ⟨no, rest⟩ ⟨hno, hrest⟩ => ?_
        exact .some ⟨.choice htest hyes hno, hrest⟩

theorem readParameters_within (met : Parameters) (close : String) (h : TokensWithin P ts) :
    Gives (TokensWithin P) (readParameters (fuel + 1) met close ts) := by
  unfold readParameters
  split
  · next rest hm => exact .some (takeMark_within h _ rest hm)
  · dsimp -zeta only
    extract_lets plain
    have hplain {ts : List Token} (h : TokensWithin P ts) : Gives (TokensWithin P) (plain ts) := by
      refine (takeName_within h).bind fun ⟨_, rest⟩ ⟨_, hrest⟩ => ?_
      dsimp only
      split
      · next after hm =>
          split at hm
          · cases hm
          · refine (read.expression (takeMark_within hrest _ after hm)).bind fun _ hx => ?_
            exact .some hx.2
      · exact .some hrest
    refine Gives.bind (Q := fun x => TokensWithin P x.2) ?_ fun ⟨met, rest⟩ hrest => ?_
    · split
      · split
        · exact .some h.tail
        · exact .none
      · split
        · exact .none
        · split
          · exact .some h.tail
          · exact (hplain h.tail).bind fun rest hrest => .some hrest
      · exact (hplain h.tail).bind fun rest hrest => .some hrest
      · refine (hplain h).bind fun rest hrest => ?_
        split
        · next after hm =>
            exact (read.expression (takeMark_within hrest _ after hm)).bind fun _ hx => .some hx.2
        · split
          · exact .none
          · exact .some hrest
    · dsimp only at hrest ⊢
      split
      · next after hm =>
          have hafter := takeMark_within hrest _ after hm
          split
          · exact takeMark_within hafter _
          · exact read.parameters _ _ hafter
      · exact takeMark_within hrest _

theorem readDisjunction_within : Keeps P (Expr.Within P) (readDisjunction (fuel + 1)) := by
  intro ts h
  unfold readDisjunction
  refine (read.conjunction h).bind fun ⟨first, rest⟩ ⟨hfirst, hrest⟩ => ?_
  refine (read.moreDisjuncts hrest).bind fun ⟨more, rest⟩ ⟨hmore, hrest⟩ => ?_
  refine .some ⟨?_, hrest⟩
  dsimp only
  split
  · exact hfirst
  · exact .disj (hmore.cons hfirst)

theorem readMoreDisjuncts_within : Keeps P (AllWithin P) (readMoreDisjuncts (fuel + 1)) := by
  intro ts h
  unfold readMoreDisjuncts
  split
  · exact .some ⟨.nil, h⟩
  · next rest hw =>
      refine (read.conjunction (takeWord_within h _ rest hw)).bind fun ⟨e, rest⟩ ⟨he, hrest⟩ => ?_
      refine (read.moreDisjuncts hrest).bind fun ⟨more, rest⟩ ⟨hmore, hrest⟩ => ?_
      exact .some ⟨hmore.cons he, hrest⟩

theorem readConjunction_within : Keeps P (Expr.Within P) (readConjunction (fuel + 1)) := by
  intro ts h
  unfold readConjunction
  refine (read.inversion h).bind fun ⟨first, rest⟩ ⟨hfirst, hrest⟩ => ?_
  refine (read.moreConjuncts hrest).bind fun ⟨more, rest⟩ ⟨hmore, hrest⟩ => ?_
  refine .some ⟨?_, hrest⟩
  dsimp only
  split
  · exact hfirst
  · exact .conj (hmore.cons hfirst)

theorem readMoreConjuncts_within : Keeps P (AllWithin P) (readMoreConjuncts (fuel + 1)) := by
  intro ts h
  unfold readMoreConjuncts
  split
  · exact .some ⟨.nil, h⟩
  · next rest hw =>
      refine (read.inversion (takeWord_within h _ rest hw)).bind fun ⟨e, rest⟩ ⟨he, hrest⟩ => ?_
      refine (read.moreConjuncts hrest).bind fun ⟨more, rest⟩ ⟨hmore, hrest⟩ => ?_
      exact .some ⟨hmore.cons he, hrest⟩

theorem readInversion_within : Keeps P (Expr.Within P) (readInversion (fuel + 1)) := by
  intro ts h
  unfold readInversion
  split
  · next rest hw =>
      refine (read.inversion (takeWord_within h _ rest hw)).bind fun ⟨e, rest⟩ ⟨he, hrest⟩ => ?_
      exact .some ⟨.unary .not he, hrest⟩
  · refine (read.binary 0 h).bind fun ⟨first, rest⟩ ⟨hfirst, hrest⟩ => ?_
    refine (read.comparisons hrest).bind fun ⟨more, rest⟩ ⟨hmore, hrest⟩ => ?_
    refine .some ⟨?_, hrest⟩
    dsimp only
    split
    · exact hfirst
    · exact .compare hfirst hmore

theorem readComparisons_within :
    Keeps P (fun rest => ∀ p ∈ rest, p.2.Within P) (readComparisons (fuel + 1)) := by
  intro ts h
  unfold readComparisons
  split
  · exact .some ⟨nofun, h⟩
  · next op rest hc =>
      have hrest := (takeComparison_within h (op, rest) hc).2
      refine (read.binary 0 hrest).bind fun ⟨e, rest⟩ ⟨he, hrest⟩ => ?_
      refine (read.comparisons hrest).bind fun ⟨more, rest⟩ ⟨hmore, hrest⟩ => ?_
      exact .some ⟨List.forall_mem_cons.mpr ⟨he, hmore⟩, hrest⟩

theorem readBinary_within (level : Nat) :
    Keeps P (Expr.Within P) (readBinary (fuel + 1) level) := by
  intro ts h
  unfold readBinary
  split
  · exact read.factor h
  · refine (read.binary (level + 1) h).bind fun ⟨left, rest⟩ ⟨hleft, hrest⟩ => ?_
    exact read.moreBinary level hleft hrest

theorem readMoreBinary_within (level : Nat) {left : Expr} (hleft : left.Within P) :
    Keeps P (Expr.Within P) (readMoreBinary (fuel + 1) level left) := by
  intro ts h
  unfold readMoreBinary
  split
  · split
    · next op _ =>
        refine (read.binary (level + 1) h.tail).bind fun ⟨right, rest⟩ ⟨hright, hrest⟩ => ?_
        exact read.moreBinary level (.binary op hleft hright) hrest
    · exact .some ⟨hleft, h⟩
  · exact .some ⟨hleft, h⟩

theorem readSigned_within (op : UnaryOp) (h : TokensWithin P ts) :
    Reads P (Expr.Within P) (do
      let (e, rest) <- readFactor fuel ts
      some (.unary op e, rest)) := by
  refine (read.factor h).bind ?_
  rintro ⟨e, rest⟩ ⟨he, hrest⟩
  exact .some ⟨.unary op he, hrest⟩

theorem readFactor_within : Keeps P (Expr.Within P) (readFactor (fuel + 1)) := by
  intro ts h
  unfold readFactor
  dsimp only
  split
  · exact readSigned_within read .neg h.tail
  · exact readSigned_within read .pos h.tail
  · exact readSigned_within read .invert h.tail
  · have hrest : TokensWithin P ((takeWord "await" ts).getD ts) := by
      cases hw : takeWord "await" ts with
      | none => exact h
      | some rest => exact takeWord_within h _ rest hw
    refine (read.atom hrest).bind ?_
    rintro ⟨atom, rest⟩ ⟨hatom, hrest⟩
    refine (read.trailers hatom hrest).bind ?_
    rintro ⟨e, rest⟩ ⟨he, hrest⟩
    have hbase : (if (takeWord "await" ts).isSome then Expr.excluded "Await" else e).Within P := by
      split
      · exact .excluded "Await"
      · exact he
    dsimp only
    split
    · exact .some ⟨hbase, hrest⟩
    · next after hm =>
        refine (read.factor (takeMark_within hrest _ after hm)).bind ?_
        rintro ⟨power, rest⟩ ⟨hpower, hrest⟩
        exact .some ⟨.binary .pow hbase hpower, hrest⟩

theorem readTrailers_within {e : Expr} (he : e.Within P) :
    Keeps P (Expr.Within P) (readTrailers (fuel + 1) e) := by
  intro ts h
  unfold readTrailers
  split
  · refine (takeName_within h.tail).bind fun ⟨name, rest⟩ ⟨_, hrest⟩ => ?_
    exact read.trailers (.field name he) hrest
  · refine (read.arguments true false false h.tail).bind
      fun ⟨⟨args, named⟩, rest⟩ ⟨⟨hargs, hnamed⟩, hrest⟩ => ?_
    exact read.trailers (.call he hargs hnamed) hrest
  · refine (read.keys h.tail).bind fun ⟨keys, comma, rest⟩ ⟨hkeys, hrest⟩ => ?_
    refine read.trailers (.subscript he ?_) hrest
    dsimp only at hkeys ⊢
    split
    · exact .tuple hkeys
    · exact hkeys.head
    · exact .tuple hkeys
  · exact .some ⟨he, h⟩

theorem readKeys_within (h : TokensWithin P ts) : ReadsItems P (readKeys (fuel + 1) ts) := by
  unfold readKeys
  dsimp -zeta only
  extract_lets after
  have hafter {key : Expr} {rest : List Token} (hkey : key.Within P) (hrest : TokensWithin P rest) :
      ReadsItems P (after (key, rest)) := by
    unfold after
    dsimp only
    split
    · next rest hm => exact .some ⟨.singleton hkey, takeMark_within hrest _ rest hm⟩
    · refine (takeMark_within hrest _).bind fun rest hrest => ?_
      split
      · next rest hm => exact .some ⟨.singleton hkey, takeMark_within hrest _ rest hm⟩
      · refine (read.keys hrest).bind fun ⟨keys, _, rest⟩ ⟨hkeys, hrest⟩ => ?_
        exact .some ⟨hkeys.cons hkey, hrest⟩
  split
  · next rest hm =>
      refine (read.binary 0 (takeMark_within h _ rest hm)).bind fun ⟨e, rest⟩ ⟨he, hrest⟩ => ?_
      exact hafter (.starred he) hrest
  · exact (read.key h).bind fun ⟨key, rest⟩ ⟨hkey, hrest⟩ => hafter hkey hrest

theorem readKey_within : Keeps P (Expr.Within P) (readKey (fuel + 1)) := by
  intro ts h
  unfold readKey
  dsimp -zeta only
  extract_lets bound after
  have hbound {ts : List Token} (h : TokensWithin P ts) :
      Reads P (fun o => ∀ e ∈ o, e.Within P) (bound ts) := by
    unfold bound
    split
    · exact .some ⟨nofun, h⟩
    · refine (read.expression h).bind fun ⟨e, rest⟩ ⟨he, hrest⟩ => ?_
      exact .some ⟨fun _ hm => by cases hm; exact he, hrest⟩
  have hafter {lower : Option Expr} {rest : List Token} (hlower : ∀ e ∈ lower, e.Within P)
      (hrest : TokensWithin P rest) : Reads P (Expr.Within P) (after (lower, rest)) := by
    unfold after
    dsimp only
    split
    · exact Gives.bind (r := lower) hlower fun e he => .some ⟨he, hrest⟩
    · next rest hm =>
        refine (hbound (takeMark_within hrest _ rest hm)).bind
          fun ⟨upper, rest⟩ ⟨hupper, hrest⟩ => ?_
        dsimp only
        split
        · exact .some ⟨.slice hlower hupper nofun, hrest⟩
        · next rest hm =>
            refine (hbound (takeMark_within hrest _ rest hm)).bind
              fun ⟨step, rest⟩ ⟨hstep, hrest⟩ => ?_
            exact .some ⟨.slice hlower hupper hstep, hrest⟩
  split
  · exact .none
  · split
    · exact hafter nofun h
    · refine (read.named h).bind fun ⟨e, rest⟩ ⟨he, hrest⟩ => ?_
      exact hafter (fun _ hm => by cases hm; exact he) hrest

theorem readNamed_within : Keeps P (Expr.Within P) (readNamed (fuel + 1)) := by
  intro ts h
  unfold readNamed
  split
  · refine (takeName_within h).bind fun _ _ => ?_
    refine (read.expression h.tail.tail).bind fun ⟨_, rest⟩ ⟨_, hrest⟩ => ?_
    exact .some ⟨.excluded "NamedExpr", hrest⟩
  · exact read.expression h

theorem readItem_within : Keeps P (Expr.Within P) (readItem (fuel + 1)) := by
  intro ts h
  unfold readItem
  split
  · next rest hm =>
      refine (read.binary 0 (takeMark_within h _ rest hm)).bind fun ⟨e, rest⟩ ⟨he, hrest⟩ => ?_
      exact .some ⟨.starred he, hrest⟩
  · exact read.named h

theorem readItems_within (close : String) (h : TokensWithin P ts) :
    ReadsItems P (readItems (fuel + 1) close ts) := by
  unfold readItems
  split
  · next rest hm => exact .some ⟨.nil, takeMark_within h _ rest hm⟩
  · refine (read.item h).bind fun ⟨e, rest⟩ ⟨he, hrest⟩ => ?_
    dsimp only
    split
    · next after hm =>
        refine (read.items close (takeMark_within hrest _ after hm)).bind
          fun ⟨more, _, rest⟩ ⟨hmore, hrest⟩ => ?_
        exact .some ⟨hmore.cons he, hrest⟩
    · refine (takeMark_within hrest _).bind fun rest hrest => ?_
      exact .some ⟨.singleton he, hrest⟩

theorem readClauses_within : Keeps P (ClausesWithin P) (readClauses (fuel + 1)) := by
  intro ts h
  have hts : TokensWithin P ((takeWord "async" ts).getD ts) := by
    cases hw : takeWord "async" ts with
    | none => exact h
    | some rest => exact takeWord_within h _ rest hw
  unfold readClauses
  dsimp only
  split
  · split
    · exact .none
    · exact .some ⟨⟨nofun, nofun⟩, h⟩
  · next rest hw =>
      have hrest := takeWord_within hts _ rest hw
      refine (read.targets hrest).bind fun ⟨target, rest⟩ ⟨_, hrest⟩ => ?_
      refine (takeWord_within hrest _).bind fun rest hrest => ?_
      refine (read.disjunction hrest).bind fun ⟨source, rest⟩ ⟨hsource, hrest⟩ => ?_
      refine (read.conditions hrest).bind fun ⟨conditions, rest⟩ ⟨hconditions, hrest⟩ => ?_
      refine (read.clauses hrest).bind fun ⟨more, rest⟩ ⟨⟨sources, tests⟩, hrest⟩ => ?_
      exact .some ⟨⟨List.forall_mem_cons.mpr ⟨hsource, sources⟩,
        List.forall_mem_cons.mpr ⟨hconditions, tests⟩⟩, hrest⟩

theorem readConditions_within : Keeps P (AllWithin P) (readConditions (fuel + 1)) := by
  intro ts h
  unfold readConditions
  split
  · exact .some ⟨.nil, h⟩
  · next rest hw =>
      refine (read.disjunction (takeWord_within h _ rest hw)).bind fun ⟨e, rest⟩ ⟨he, hrest⟩ => ?_
      refine (read.conditions hrest).bind fun ⟨more, rest⟩ ⟨hmore, hrest⟩ => ?_
      exact .some ⟨hmore.cons he, hrest⟩

theorem readTargets_within : Keeps P (Expr.Within P) (readTargets (fuel + 1)) := by
  intro ts h
  unfold readTargets
  refine (read.targetList h).bind fun ⟨items, comma, rest⟩ ⟨hitems, hrest⟩ => ?_
  dsimp only at hitems ⊢
  split
  · exact .some ⟨hitems.head, hrest⟩
  · exact .some ⟨.tuple hitems, hrest⟩

theorem readTargetList_within (h : TokensWithin P ts) :
    ReadsItems P (readTargetList (fuel + 1) ts) := by
  unfold readTargetList
  dsimp -zeta only
  extract_lets after
  have hafter {e : Expr} {rest : List Token} (he : e.Within P) (hrest : TokensWithin P rest) :
      ReadsItems P (after (e, rest)) := by
    unfold after
    dsimp only
    split
    · exact .none
    · split
      · exact .some ⟨.singleton he, hrest⟩
      · next rest hm =>
          have hrest := takeMark_within hrest _ rest hm
          split
          · exact .some ⟨.singleton he, hrest⟩
          · refine (read.targetList hrest).bind fun ⟨more, _, rest⟩ ⟨hmore, hrest⟩ => ?_
            exact .some ⟨hmore.cons he, hrest⟩
  split
  · next rest hm =>
      refine (read.binary 0 (takeMark_within h _ rest hm)).bind fun ⟨e, rest⟩ ⟨he, hrest⟩ => ?_
      exact hafter (.starred he) hrest
  · exact (read.binary 0 h).bind fun ⟨e, rest⟩ ⟨he, hrest⟩ => hafter he hrest

theorem readArguments_within (alone named spread : Bool) :
    Keeps P (fun a => AllWithin P a.1 ∧ ∀ p ∈ a.2, p.2.Within P)
      (readArguments (fuel + 1) alone named spread) := by
  intro ts h
  unfold readArguments
  split
  · exact .some ⟨⟨.nil, nofun⟩, h.tail⟩
  · refine Gives.bind (Q := fun x : (List Expr × List (Option String × Expr)) × Bool ×
        List Token × Bool => (AllWithin P x.1.1 ∧ ∀ p ∈ x.1.2, p.2.Within P) ∧
          TokensWithin P x.2.2.1) ?_ fun ⟨⟨args, names⟩, spread', rest, sole⟩ ⟨given, hrest⟩ => ?_
    · split
      · refine (read.expression h.tail).bind fun ⟨e, rest⟩ ⟨he, hrest⟩ => ?_
        exact .some ⟨⟨.nil, List.forall_mem_singleton.mpr he⟩, hrest⟩
      · split
        · exact .none
        · refine (read.expression h.tail).bind fun ⟨e, rest⟩ ⟨he, hrest⟩ => ?_
          exact .some ⟨⟨.singleton (.starred he), nofun⟩, hrest⟩
      · split
        · exact .none
        · refine (read.expression h.tail.tail).bind fun ⟨e, rest⟩ ⟨he, hrest⟩ => ?_
          exact .some ⟨⟨.nil, List.forall_mem_singleton.mpr he⟩, hrest⟩
      · split
        · exact .none
        · refine (read.named h).bind fun ⟨e, rest⟩ ⟨he, hrest⟩ => ?_
          refine (read.clauses hrest).bind fun ⟨clauses, rest⟩ ⟨⟨sources, tests⟩, hrest⟩ => ?_
          dsimp only
          split
          · exact .some ⟨⟨.singleton he, nofun⟩, hrest⟩
          · split
            · exact .some ⟨⟨.singleton (.listOf he sources tests), nofun⟩, hrest⟩
            · exact .none
    · dsimp only at given hrest ⊢
      split
      · exact .some ⟨given, hrest.tail⟩
      · split
        · exact .none
        · refine (read.arguments _ _ _ hrest.tail).bind
            fun ⟨⟨moreArgs, moreNames⟩, rest⟩ ⟨⟨hargs, hnames⟩, hrest⟩ => ?_
          exact .some ⟨⟨given.1.append hargs, List.forall_mem_append.mpr ⟨given.2, hnames⟩⟩, hrest⟩
      · exact .none

theorem readAtom_within : Keeps P (Expr.Within P) (readAtom (fuel + 1)) := by
  intro ts h
  unfold readAtom
  split
  · exact .some ⟨.const _, h.tail⟩
  · exact .some ⟨.const _, h.tail⟩
  · exact .some ⟨.const _, h.tail⟩
  · split
    · exact .none
    · exact .some ⟨.name h.head, h.tail⟩
  · exact .some ⟨.const _, h.tail⟩
  · exact .some ⟨.const _, h.tail⟩
  · exact read.texts h
  · exact read.texts h
  · exact read.texts h
  · exact read.group h.tail
  · split
    · next rest hm => exact .some ⟨.list nofun, takeMark_within h.tail _ rest hm⟩
    · refine (read.item h.tail).bind fun ⟨e, after⟩ ⟨he, hafter⟩ => ?_
      refine (read.clauses hafter).bind fun ⟨clauses, after⟩ ⟨⟨sources, tests⟩, hafter⟩ => ?_
      dsimp only at he ⊢
      split
      · split
        · exact .none
        · refine (takeMark_within hafter _).bind fun rest hrest => ?_
          exact .some ⟨.listOf he sources tests, hrest⟩
      · refine (read.items "]" h.tail).bind fun ⟨items, _, rest⟩ ⟨hitems, hrest⟩ => ?_
        exact .some ⟨.list hitems, hrest⟩
  · exact read.braces h.tail
  · exact .none

theorem readGroup_within : Keeps P (Expr.Within P) (readGroup (fuel + 1)) := by
  intro ts h
  unfold readGroup
  split
  · next rest hw =>
      refine (read.yield (takeWord_within h _ rest hw)).bind fun ⟨e, rest⟩ ⟨he, hrest⟩ => ?_
      exact (takeMark_within hrest _).bind fun rest hrest => .some ⟨he, hrest⟩
  · split
    · next rest hm => exact .some ⟨.tuple nofun, takeMark_within h _ rest hm⟩
    · refine (read.item h).bind fun ⟨e, rest⟩ ⟨he, hrest⟩ => ?_
      refine (read.clauses hrest).bind fun ⟨clauses, after⟩ ⟨⟨sources, tests⟩, hafter⟩ => ?_
      dsimp only at he ⊢
      split
      · split
        · exact .none
        · refine (takeMark_within hafter _).bind fun rest hrest => ?_
          exact .some ⟨.listOf he sources tests, hrest⟩
      · split
        · exact .none
        · next rest hm _ _ => exact .some ⟨he, takeMark_within hafter _ rest hm⟩
        · refine (read.items ")" h).bind fun ⟨items, _, rest⟩ ⟨hitems, hrest⟩ => ?_
          exact .some ⟨.tuple hitems, hrest⟩

theorem readYield_within : Keeps P (Expr.Within P) (readYield (fuel + 1)) := by
  intro ts h
  unfold readYield
  split
  · next rest hw =>
      refine (read.expression (takeWord_within h _ rest hw)).bind fun ⟨_, rest⟩ ⟨_, hrest⟩ => ?_
      exact .some ⟨.excluded "YieldFrom", hrest⟩
  · split
    · next e rest hl => exact .some ⟨.excluded "Yield", (read.list h (e, rest) hl).2⟩
    · exact .some ⟨.excluded "Yield", h⟩

theorem readList_within : Keeps P (Expr.Within P) (readList (fuel + 1)) := by
  intro ts h
  unfold readList
  refine (read.listItems h).bind fun ⟨items, comma, rest⟩ ⟨hitems, hrest⟩ => ?_
  dsimp only at hitems ⊢
  split
  · exact .some ⟨hitems.head, hrest⟩
  · exact .some ⟨.tuple hitems, hrest⟩

theorem readListItems_within (h : TokensWithin P ts) :
    ReadsItems P (readListItems (fuel + 1) ts) := by
  unfold readListItems
  dsimp -zeta only
  extract_lets after
  have hafter {e : Expr} {rest : List Token} (he : e.Within P) (hrest : TokensWithin P rest) :
      ReadsItems P (after (e, rest)) := by
    unfold after
    dsimp only
    split
    · exact .some ⟨.singleton he, hrest⟩
    · next rest hm =>
        have hrest := takeMark_within hrest _ rest hm
        split
        · next more _ rest hl =>
            have others := read.listItems hrest _ hl
            exact .some ⟨others.1.cons he, others.2⟩
        · exact .some ⟨.singleton he, hrest⟩
  split
  · next rest hm =>
      refine (read.binary 0 (takeMark_within h _ rest hm)).bind fun ⟨e, rest⟩ ⟨he, hrest⟩ => ?_
      exact hafter (.starred he) hrest
  · exact (read.expression h).bind fun ⟨e, rest⟩ ⟨he, hrest⟩ => hafter he hrest

theorem readDict_within (h : TokensWithin P ts) :
    Reads P (Expr.Within P) (do
      let (entries, rest) <- readEntries fuel ts
      some (.dict entries, rest)) := by
  refine (read.entries h).bind ?_
  rintro ⟨entries, rest⟩ ⟨hentries, hrest⟩
  exact .some ⟨hentries, hrest⟩

theorem readBraces_within : Keeps P (Expr.Within P) (readBraces (fuel + 1)) := by
  intro ts h
  unfold readBraces
  split
  · next rest hm => exact .some ⟨.dict (by simp) (by simp), takeMark_within h _ rest hm⟩
  · split
    · exact readDict_within read h
    · refine (read.item h).bind ?_
      rintro ⟨e, after⟩ ⟨he, hafter⟩
      dsimp only at he hafter ⊢
      split
      · next after hm =>
          have hafter := takeMark_within hafter _ after hm
          split
          · exact .none
          · exact .none
          · refine (read.expression hafter).bind ?_
            rintro ⟨v, after⟩ ⟨hv, hafter⟩
            refine (read.clauses hafter).bind ?_
            rintro ⟨clauses, after⟩ ⟨⟨sources, tests⟩, hafter⟩
            dsimp only
            split
            · refine (takeMark_within hafter _).bind fun rest hrest => ?_
              exact .some ⟨.dictOf he hv sources tests, hrest⟩
            · exact readDict_within read h
      · refine (read.clauses hafter).bind ?_
        rintro ⟨clauses, after⟩ ⟨_, hafter⟩
        dsimp only
        split
        · split
          · exact .none
          · refine (takeMark_within hafter _).bind fun rest hrest => ?_
            exact .some ⟨.excluded "SetComp", hrest⟩
        · refine (read.items "\x7d" h).bind ?_
          rintro ⟨items, _, rest⟩ ⟨hitems, hrest⟩
          exact .some ⟨.set hitems, hrest⟩

theorem readEntries_within :
    Keeps P (fun es => (Expr.dict es).Within P) (readEntries (fuel + 1)) := by
  intro ts h
  unfold readEntries
  split
  · next rest hm => exact .some ⟨.dict nofun nofun, takeMark_within h _ rest hm⟩
  · refine Gives.bind (Q := fun x : (Option Expr × Expr) × List Token =>
        ((∀ k ∈ x.1.1, k.Within P) ∧ x.1.2.Within P) ∧ TokensWithin P x.2) ?_
        fun ⟨entry, rest⟩ ⟨hentry, hrest⟩ => ?_
    · split
      · next rest hm =>
          refine (read.binary 0 (takeMark_within h _ rest hm)).bind fun ⟨e, rest⟩ ⟨he, hrest⟩ => ?_
          exact .some ⟨⟨nofun, he⟩, hrest⟩
      · refine (read.expression h).bind fun ⟨k, rest⟩ ⟨hk, hrest⟩ => ?_
        refine (takeMark_within hrest _).bind fun rest hrest => ?_
        refine (read.expression hrest).bind fun ⟨v, rest⟩ ⟨hv, hrest⟩ => ?_
        exact .some ⟨⟨fun _ hm => by cases hm; exact hk, hv⟩, hrest⟩
    · dsimp only at hentry hrest ⊢
      split
      · next rest hm =>
          refine (read.entries (takeMark_within hrest _ rest hm)).bind
            fun ⟨more, rest⟩ ⟨hmore, hrest⟩ => ?_
          cases hmore with
          | dict keys values =>
              exact .some ⟨.dict (List.forall_mem_cons.mpr ⟨hentry.1, keys⟩)
                (List.forall_mem_cons.mpr ⟨hentry.2, values⟩), hrest⟩
      · refine (takeMark_within hrest _).bind fun rest hrest => ?_
        exact .some ⟨.dict (List.forall_mem_singleton.mpr hentry.1)
          (List.forall_mem_singleton.mpr hentry.2), hrest⟩

theorem readTexts_within : Keeps P (Expr.Within P) (readTexts (fuel + 1)) := by
  intro ts h
  unfold readTexts
  dsimp only
  have left (p : Token -> Bool) : TokensWithin P (ts.dropWhile p) :=
    fun t ht => h t ((List.dropWhile_suffix p).subset ht)
  split
  · exact .some ⟨.const _, left _⟩
  · split
    · exact .none
    · split
      · refine (read.parts fun t ht => h t ((List.takeWhile_sublist _).subset ht)).bind
          fun parts hparts => ?_
        exact .some ⟨.joined hparts, left _⟩
      · exact .some ⟨.const _, left _⟩

theorem readParts_within (h : TokensWithin P ts) :
    Gives (AllWithin P) (readParts (fuel + 1) ts) := by
  cases ts with
  | nil => exact .some AllWithin.nil
  | cons t rest =>
      unfold readParts
      dsimp -zeta only
      extract_lets after
      have hafter {parts : List Expr} (hparts : AllWithin P parts) :
          Gives (AllWithin P) (after parts) :=
        (read.parts h.tail).bind fun others hothers => .some (hparts.append hothers)
      split
      · exact hafter (.singleton (.const _))
      · next raw body =>
          refine (piecesOf_within raw _ 0 h.head).bind fun ⟨pieces, _⟩ cut => ?_
          exact (read.pieces raw cut.pieces).bind fun parts hparts => hafter hparts
      · exact hafter .nil

theorem readPieces_within (raw : Bool) {ps : List Piece} (h : ∀ p ∈ ps, p.Within P) :
    Gives (AllWithin P) (readPieces (fuel + 1) raw ps) := by
  cases ps with
  | nil => exact .some AllWithin.nil
  | cons piece rest =>
      unfold readPieces
      dsimp -zeta only
      extract_lets after
      have hafter {part : Expr} (hpart : part.Within P) : Gives (AllWithin P) (after part) := by
        refine (read.pieces raw fun p hp => h p (List.mem_cons_of_mem piece hp)).bind
          fun others hothers => ?_
        exact .some (hothers.cons hpart)
      split
      · exact Gives.after fun _ => hafter (.const _)
      · next source spec =>
          cases h _ List.mem_cons_self with
          | embedded runs inner =>
              refine Gives.bind (Q := TokensWithin P) (fun ts => tokens?_within ?_) fun ts hts => ?_
              · exact (runs.concat rfl).cons rfl
              refine (read.list hts).bind fun ⟨e, left⟩ ⟨he, _⟩ => ?_
              dsimp only at he ⊢
              split
              · split
                · exact hafter (.formatted he nofun)
                · next pieces =>
                    refine (read.pieces raw (inner pieces rfl)).bind fun parts hparts => ?_
                    exact hafter (.formatted he fun _ hm => by cases hm; exact .joined hparts)
              · exact .none

end

/-- Every reader keeps to the names of its tokens, however deep it goes. -/
theorem readers_within (P : String -> Prop) (fuel : Nat) : Readers P fuel := by
  induction fuel with
  | zero => constructor <;> intros <;> first | exact Gives.none | exact fun _ _ => Gives.none
  | succ fuel read =>
      exact {
        expression := readExpression_within read
        parameters := fun met close _ => readParameters_within read met close
        disjunction := readDisjunction_within read
        moreDisjuncts := readMoreDisjuncts_within read
        conjunction := readConjunction_within read
        moreConjuncts := readMoreConjuncts_within read
        inversion := readInversion_within read
        comparisons := readComparisons_within read
        binary := readBinary_within read
        moreBinary := readMoreBinary_within read
        factor := readFactor_within read
        trailers := readTrailers_within read
        keys := fun _ => readKeys_within read
        key := readKey_within read
        named := readNamed_within read
        item := readItem_within read
        items := fun close _ => readItems_within read close
        clauses := readClauses_within read
        conditions := readConditions_within read
        targets := readTargets_within read
        targetList := fun _ => readTargetList_within read
        arguments := readArguments_within read
        atom := readAtom_within read
        group := readGroup_within read
        yield := readYield_within read
        list := readList_within read
        listItems := fun _ => readListItems_within read
        braces := readBraces_within read
        entries := readEntries_within read
        texts := readTexts_within read
        parts := fun _ => readParts_within read
        pieces := fun raw _ => readPieces_within read raw }

/-! ## Statements -/

/-- The value that a statement is has its names within a set. -/
def Statement.Within (P : String -> Prop) (s : Statement) : Prop :=
  ∀ e, s = .value e -> e.Within P

/-- The first of some statements, of which there is one, has its names within a set. -/
def FirstWithin (P : String -> Prop) (statements : List Statement) : Prop :=
  ∃ s others, statements = s :: others ∧ s.Within P

theorem readRight_within : Keeps P (Expr.Within P) (readRight fuel) := by
  intro ts h
  unfold readRight
  split
  · next rest hw => exact (readers_within P fuel).yield (takeWord_within h _ rest hw)
  · exact (readers_within P fuel).list h

theorem readAssigned_within (n : Nat) {target : Expr} (htarget : target.Within P)
    (h : TokensWithin P ts) : Reads P (Expr.Within P) (readAssigned fuel n target ts) := by
  induction n generalizing target ts with
  | zero => exact .none
  | succ n ih =>
      unfold readAssigned
      split
      · exact .some ⟨htarget, h⟩
      · next rest hm =>
          split
          · exact .none
          · refine (readRight_within (takeMark_within h _ rest hm)).bind
              fun ⟨e, rest⟩ ⟨he, hrest⟩ => ?_
            exact ih he hrest

theorem readSimple_within (h : TokensWithin P ts) :
    Gives (fun x => Statement.Within P x.1) (readSimple fuel ts) := by
  have read := readers_within P fuel
  have value {e : Expr} {rest : List Token} (he : e.Within P) :
      Gives (fun x : Statement × List Token => x.1.Within P) (some (.value e, rest)) := by
    refine .some fun f hf => ?_
    cases hf
    exact he
  unfold readSimple
  dsimp only
  split
  case h_12 =>
    exact (read.yield h.tail).bind fun ⟨e, rest⟩ ⟨he, _⟩ => value he
  case h_13 =>
    refine (read.list h).bind fun ⟨e, rest⟩ ⟨he, hrest⟩ => ?_
    dsimp only at he hrest ⊢
    split
    · split
      · exact .none
      · refine Gives.after fun _ => ?_
        split <;> first | exact .some nofun | exact Gives.after fun _ => .some nofun
    · next m after =>
        split
        · refine (readAssigned_within fuel he hrest).bind fun ⟨e, rest⟩ ⟨he, _⟩ => ?_
          exact value he
        · split
          · split
            · exact (readRight_within hrest.tail).bind fun ⟨e, rest⟩ ⟨he, _⟩ => value he
            · exact .none
          · exact value he
    · exact value he
  -- every other form is no value, whatever is read of it
  all_goals
    repeat' first
      | exact .some nofun
      | exact .none
      | refine Gives.after fun _ => ?_
      | split

theorem readLine_within (n : Nat) (h : TokensWithin P ts) :
    Gives (fun x => FirstWithin P x.1) (readLine fuel n ts) := by
  cases n with
  | zero => exact .none
  | succ n =>
      unfold readLine
      refine (readSimple_within h).bind fun ⟨s, rest⟩ hs => ?_
      dsimp only
      split
      · exact .some ⟨s, [], rfl, hs⟩
      · exact .some ⟨s, [], rfl, hs⟩
      · exact Gives.after fun ⟨more, _⟩ => .some ⟨s, more, rfl, hs⟩
      · exact .none

theorem readStatements_within (h : TokensWithin P ts) :
    Gives (fun x => FirstWithin P x.1) (readStatements fuel ts) := by
  induction fuel generalizing ts with
  | zero => exact .none
  | succ fuel ih =>
      have excluded (form : String) (r : Option (List Token)) :
          Gives (fun x : List Statement × List Token => FirstWithin P x.1)
            (r.map fun rest => ([.excluded form], rest)) := by
        intro x hx
        obtain ⟨rest, -, rfl⟩ := Option.map_eq_some_iff.mp hx
        exact ⟨_, [], rfl, nofun⟩
      unfold readStatements
      dsimp only
      split
      all_goals try exact excluded _ _
      · refine Gives.after fun body => ?_
        split <;> first | exact excluded _ _ | exact .none
      · split
        · exact excluded _ _
        · exact readLine_within fuel h
      · refine ((readers_within P fuel).named h.tail).bind fun ⟨_, rest⟩ ⟨_, hrest⟩ => ?_
        dsimp only at hrest ⊢
        split
        · split <;> first | exact ih hrest.tail | exact .none
        · exact .none
      · exact readLine_within fuel h

theorem readAll_within (h : TokensWithin P ts) :
    Gives (fun ss => ∀ s ∈ ss.head?, Statement.Within P s) (readAll fuel ts) := by
  unfold readAll
  split
  · exact .none
  · exact .some nofun
  · refine (readStatements_within h).bind fun ⟨ss, rest⟩ hs => ?_
    obtain ⟨s, others, rfl, hs⟩ := hs
    refine Gives.after fun more => .some ?_
    intro t ht
    cases ht
    exact hs

/-- The value that a text is has its names among those that runs of the text stand for. -/
theorem read_within {source : String} (h : RunsWithin P source.toList) {e : Expr}
    (hr : read source = .statement (.value e)) : e.Within P := by
  unfold read at hr
  dsimp only at hr
  split at hr
  · cases hr
  · next ts ht =>
      have within := tokens?_within (h.of_stretch (Text.trim_stretch _ _)) ht
      split at hr
      · cases hr
      · cases hr
      · next s others hs =>
          cases hr
          exact readAll_within within _ hs _ rfl e rfl

end Reading

/-- The names of an expression are among those that runs of its source stand for. -/
theorem Expr.statementOf_within {P : String -> Prop} {source : String}
    (h : Reading.RunsWithin P source.toList) {e : Expr} (hs : Expr.statementOf source = .ok e) :
    e.Within P := by
  unfold Expr.statementOf at hs
  dsimp only at hs
  split at hs
  · cases hs
  · split at hs <;> cases hs
    next hr => exact Reading.read_within h hr

end Workflow
