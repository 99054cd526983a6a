import Workflow.Proofs.Template.Names
import Workflow.Proofs.Template.Token
import Workflow.Template.Reading

/-!
# Templates have the names of their text

Reading takes every name that a template looks up from a token.
-/

namespace Workflow

namespace Template

variable {P : String -> Prop} {fuel : Nat}

/-- What is read from tokens has a property, and the tokens that are left are within a set. -/
def Keeps {α : Type} (P : String -> Prop) (Q : α -> Prop) (p : Parse α) : Prop :=
  ∀ ts a rest, TokensWithin P ts -> p ts = .ok (a, rest) -> Q a ∧ TokensWithin P rest

/-- What is read from tokens leaves tokens within a set. -/
abbrev Leaves {α : Type} (P : String -> Prop) (p : Parse α) : Prop :=
  Keeps P (fun _ => True) p

namespace Keeps

variable {α β : Type} {Q : α -> Prop} {R : β -> Prop}

theorem pure {a : α} (h : Q a) : Keeps P Q (pure a) := by
  intro ts b rest hts hb
  cases hb
  exact ⟨h, hts⟩

theorem bind {p : Parse α} {f : α -> Parse β} (h : Keeps P Q p) (hf : ∀ a, Q a -> Keeps P R (f a)) :
    Keeps P R (p >>= f) := by
  intro ts b rest hts hb
  simp only [Bind.bind, StateT.bind, Except.bind] at hb
  split at hb
  · cases hb
  · next x hx =>
      obtain ⟨ha, hmore⟩ := h ts x.1 x.2 hts hx
      exact hf x.1 ha x.2 b rest hmore hb

/-- What is given before does not matter. -/
theorem after {p : Parse α} {f : α -> Parse β} (h : Keeps P Q p) (hf : ∀ a, Keeps P R (f a)) :
    Keeps P R (p >>= f) :=
  bind h fun a _ => hf a

/-- What a value is bound to goes on with the value. -/
theorem given {a : α} {f : α -> Parse β} (h : Keeps P R (f a)) : Keeps P R (Pure.pure a >>= f) := by
  rwa [pure_bind]

/-- What may be read in between does not matter. -/
theorem maybe {c : Prop} [Decidable c] {p : Parse PUnit} {f : PUnit -> Parse β} (hp : Leaves P p)
    (hf : Keeps P R (f ⟨⟩)) : Keeps P R (if c then p >>= f else f ⟨⟩) := by
  split
  · exact hp.after fun _ => hf
  · exact hf

theorem leaves {p : Parse α} (h : Keeps P Q p) : Leaves P p :=
  fun ts a rest hts ha => ⟨trivial, (h ts a rest hts ha).2⟩

end Keeps

namespace Parse

variable {α : Type} {Q : α -> Prop}

theorem get_keeps : Keeps P (TokensWithin P) get := by
  intro ts a rest hts ha
  cases ha
  exact ⟨hts, hts⟩

theorem set_leaves {ts : List Token} (h : TokensWithin P ts) : Leaves P (set ts) := by
  intro us a rest _ ha
  cases ha
  exact ⟨trivial, h⟩

theorem throw_keeps (f : SourceFault) : Keeps P Q (throw f) :=
  nofun

theorem failAt_keeps (line : Nat) : Keeps P Q (failAt line) :=
  throw_keeps _

theorem current_keeps : Keeps P (fun t => t.kind.Within P) current := by
  refine get_keeps.bind fun ts hts => ?_
  split
  · exact failAt_keeps 1
  · split
    · exact failAt_keeps _
    · exact .pure hts.head

theorem skip_leaves : Leaves P skip := by
  refine get_keeps.bind fun ts hts => ?_
  split
  · exact .pure trivial
  · split
    · exact .pure trivial
    · exact set_leaves hts.tail

theorem fail_keeps : Keeps P Q fail :=
  current_keeps.after fun t => failAt_keeps t.line

theorem look_leaves : Leaves P look := by
  refine current_keeps.after fun t => get_keeps.after fun ts => ?_
  split <;> exact .pure trivial

theorem atMark_leaves (m : String) : Leaves P (atMark m) := by
  refine current_keeps.after fun t => ?_
  split <;> exact .pure trivial

theorem atWord_leaves (w : String) : Leaves P (atWord w) := by
  refine current_keeps.after fun t => ?_
  split <;> exact .pure trivial

theorem lookWord_leaves (w : String) : Leaves P (lookWord w) := by
  refine look_leaves.after fun t => ?_
  split <;> exact .pure trivial

theorem lookMark_leaves (m : String) : Leaves P (lookMark m) := by
  refine look_leaves.after fun t => ?_
  split <;> exact .pure trivial

theorem skipMark_leaves (m : String) : Leaves P (skipMark m) := by
  refine (atMark_leaves m).after fun b => ?_
  split
  · exact skip_leaves.after fun _ => .pure trivial
  · exact .pure trivial

theorem skipWord_leaves (w : String) : Leaves P (skipWord w) := by
  refine (atWord_leaves w).after fun b => ?_
  split
  · exact skip_leaves.after fun _ => .pure trivial
  · exact .pure trivial

theorem expectMark_leaves (m : String) : Leaves P (expectMark m) := by
  refine (skipMark_leaves m).after fun b => ?_
  split
  · exact fail_keeps
  · exact .pure trivial

theorem expectWord_leaves (w : String) : Leaves P (expectWord w) := by
  refine (skipWord_leaves w).after fun b => ?_
  split
  · exact fail_keeps
  · exact .pure trivial

theorem expectName_keeps : Keeps P P expectName := by
  refine current_keeps.bind fun t ht => ?_
  split
  · next s hk =>
      rw [hk] at ht
      exact skip_leaves.after fun _ => .pure ht
  · exact fail_keeps

theorem atBlockEnd_leaves : Leaves P atBlockEnd := by
  refine current_keeps.after fun t => ?_
  split <;> exact .pure trivial

theorem expectBlockEnd_leaves : Leaves P expectBlockEnd := by
  refine atBlockEnd_leaves.after fun b => ?_
  split
  · exact skip_leaves
  · exact fail_keeps

end Parse

theorem atTupleEnd_leaves (words : List String) : Leaves P (atTupleEnd words) := by
  refine Parse.current_keeps.after fun t => ?_
  split <;> exact .pure trivial

theorem atTestArgument_leaves : Leaves P atTestArgument := by
  refine Parse.current_keeps.after fun t => ?_
  split <;> exact .pure trivial

open Parse

/-! ## Terms -/

/-- All names of some terms are within a set. -/
def TermsWithin (P : String -> Prop) (es : List Term) : Prop :=
  ∀ e ∈ es, e.Within P

namespace TermsWithin

variable {e : Term} {es : List Term}

theorem nil : TermsWithin P [] :=
  nofun

theorem cons (h : e.Within P) (hes : TermsWithin P es) : TermsWithin P (e :: es) :=
  List.forall_mem_cons.mpr ⟨h, hes⟩

theorem singleton (h : e.Within P) : TermsWithin P [e] :=
  cons h nil

end TermsWithin

/-- All names of a key, or of a slice with its owner, are within a set. -/
def KeyWithin (P : String -> Prop) : Term ⊕ Term -> Prop
  | .inl key => key.Within P
  | .inr slice => slice.Within P

/-- The readers of terms keep to the names of their tokens up to some depth. -/
structure TermReaders (P : String -> Prop) (fuel : Nat) : Prop where
  term (choices : Bool) : Keeps P (Term.Within P) (readTerm choices fuel)
  choices (start : Token) {yes : Term} : yes.Within P ->
    Keeps P (Term.Within P) (readChoices start fuel yes)
  disjunction : Keeps P (Term.Within P) (readDisjunction fuel)
  disjuncts {left : Term} : left.Within P -> Keeps P (Term.Within P) (readDisjuncts fuel left)
  conjunction : Keeps P (Term.Within P) (readConjunction fuel)
  conjuncts {left : Term} : left.Within P -> Keeps P (Term.Within P) (readConjuncts fuel left)
  negation : Keeps P (Term.Within P) (readNegation fuel)
  comparisons : Keeps P (fun rest => ∀ p ∈ rest, p.2.Within P) (readComparisons fuel)
  operators (level : Level) : Keeps P (Term.Within P) (readOperators level fuel)
  moreOperators (level : Level) {left : Term} : left.Within P ->
    Keeps P (Term.Within P) (readMoreOperators level fuel left)
  operand (level : Level) : Keeps P (Term.Within P) (readOperand level fuel)
  concatenated : Keeps P (TermsWithin P) (readConcatenated fuel)
  unary (filters : Bool) : Keeps P (Term.Within P) (readUnary filters fuel)
  primary : Keeps P (Term.Within P) (readPrimary fuel)
  texts : Leaves P (readTexts fuel)
  items : Keeps P (TermsWithin P) (readItems fuel)
  entries : Keeps P (fun es => (Term.dict es).Within P) (readEntries fuel)
  tuple (choices brackets : Bool) (words : List String) :
    Keeps P (Term.Within P) (readTuple choices brackets words fuel)
  moreItems (choices : Bool) (words : List String) :
    Keeps P (TermsWithin P) (readMoreItems choices words fuel)
  parts {e : Term} : e.Within P -> Keeps P (Term.Within P) (readPostfix fuel e)
  filters {e : Term} : e.Within P -> Keeps P (Term.Within P) (readFilters fuel e)
  filter {subject : Option Term} : (∀ e ∈ subject, e.Within P) ->
    Keeps P (Term.Within P) (readFilter fuel subject)
  dotted (name : String) : Leaves P (readDotted fuel name)
  test {subject : Term} : subject.Within P -> Keeps P (Term.Within P) (readTest fuel subject)
  part {owner : Term} : owner.Within P -> Keeps P (Term.Within P) (readPart fuel owner)
  keys {owner : Term} : owner.Within P ->
    Keeps P (fun ks => ∀ k ∈ ks, KeyWithin P k) (readKeys owner fuel)
  key {owner : Term} : owner.Within P -> Keeps P (KeyWithin P) (readKey owner fuel)
  bound : Keeps P (fun o => ∀ e ∈ o, e.Within P) (readBound fuel)
  call : Keeps P (Call.Within P) (readCall fuel)
  arguments (opening : Token) (first : Bool) {a : Call Term} : a.Within P ->
    Keeps P (Call.Within P) (readArguments opening first a fuel)

section

variable (read : TermReaders P fuel)

include read

theorem readTerm_keeps (choices : Bool) :
    Keeps P (Term.Within P) (readTerm choices (fuel + 1)) := by
  unfold readTerm
  refine current_keeps.after fun start => ?_
  refine read.disjunction.bind fun first hfirst => ?_
  split
  · exact read.choices start hfirst
  · exact .pure hfirst

theorem readChoices_keeps (start : Token) {yes : Term} (hyes : yes.Within P) :
    Keeps P (Term.Within P) (readChoices start (fuel + 1) yes) := by
  unfold readChoices
  refine (skipWord_leaves "if").after fun b => ?_
  split
  · refine read.disjunction.bind fun test htest => ?_
    refine (skipWord_leaves "else").after fun b => ?_
    split
    · refine (read.term true).bind fun no hno => ?_
      refine current_keeps.after fun t => read.choices t (.choice _ htest hyes ?_)
      exact fun _ hm => by cases hm; exact hno
    · exact current_keeps.after fun t => read.choices t (.choice _ htest hyes nofun)
  · exact .pure hyes

theorem readDisjunction_keeps : Keeps P (Term.Within P) (readDisjunction (fuel + 1)) := by
  unfold readDisjunction
  exact read.conjunction.bind fun first hfirst => read.disjuncts hfirst

theorem readDisjuncts_keeps {left : Term} (hleft : left.Within P) :
    Keeps P (Term.Within P) (readDisjuncts (fuel + 1) left) := by
  unfold readDisjuncts
  refine (skipWord_leaves "or").after fun b => ?_
  split
  · exact read.conjunction.bind fun right hright => read.disjuncts (.disj hleft hright)
  · exact .pure hleft

theorem readConjunction_keeps : Keeps P (Term.Within P) (readConjunction (fuel + 1)) := by
  unfold readConjunction
  exact read.negation.bind fun first hfirst => read.conjuncts hfirst

theorem readConjuncts_keeps {left : Term} (hleft : left.Within P) :
    Keeps P (Term.Within P) (readConjuncts (fuel + 1) left) := by
  unfold readConjuncts
  refine (skipWord_leaves "and").after fun b => ?_
  split
  · exact read.negation.bind fun right hright => read.conjuncts (.conj hleft hright)
  · exact .pure hleft

theorem readNegation_keeps : Keeps P (Term.Within P) (readNegation (fuel + 1)) := by
  unfold readNegation
  refine (skipWord_leaves "not").after fun b => ?_
  split
  · exact read.negation.bind fun e he => .pure (.unary .not he)
  · refine (read.operators .sum).bind fun first hfirst => ?_
    refine read.comparisons.bind fun rest hrest => ?_
    split
    · exact .pure hfirst
    · exact .pure (.compare hfirst hrest)

theorem readComparisons_keeps :
    Keeps P (fun rest => ∀ p ∈ rest, p.2.Within P) (readComparisons (fuel + 1)) := by
  unfold readComparisons
  refine current_keeps.after fun t => ?_
  extract_lets rest
  have hrest (op : Option CompareOp) :
      Keeps P (fun rest => ∀ p ∈ rest, p.2.Within P) (rest op) := by
    unfold rest
    split
    · exact .pure nofun
    · refine (read.operators .sum).bind fun right hright => ?_
      refine read.comparisons.bind fun others hothers => ?_
      exact .pure (List.forall_mem_cons.mpr ⟨hright, hothers⟩)
  clear_value rest
  split
  · split
    · exact skip_leaves.after fun _ => .given (hrest _)
    · exact .given (hrest _)
  · exact skip_leaves.after fun _ => .given (hrest _)
  · refine (lookWord_leaves "in").after fun b => ?_
    split
    · exact skip_leaves.after fun _ => skip_leaves.after fun _ => .given (hrest _)
    · exact .given (hrest _)
  · exact .given (hrest _)

theorem readOperators_keeps (level : Level) :
    Keeps P (Term.Within P) (readOperators level (fuel + 1)) := by
  unfold readOperators
  exact (read.operand level).bind fun first hfirst => read.moreOperators level hfirst

theorem readMoreOperators_keeps (level : Level) {left : Term} (hleft : left.Within P) :
    Keeps P (Term.Within P) (readMoreOperators level (fuel + 1) left) := by
  unfold readMoreOperators
  refine current_keeps.after fun t => ?_
  split
  · split
    · next op _ =>
        refine skip_leaves.after fun _ => (read.operand level).bind fun right hright => ?_
        exact read.moreOperators level (.binary op hleft hright)
    · exact .pure hleft
  · exact .pure hleft

theorem readOperand_keeps (level : Level) :
    Keeps P (Term.Within P) (readOperand level (fuel + 1)) := by
  unfold readOperand
  cases level with
  | sum =>
      refine (read.operators .product).bind fun first hfirst => ?_
      refine read.concatenated.bind fun rest hrest => ?_
      split
      · exact .pure hfirst
      · exact .pure (.concat (hrest.cons hfirst))
  | product => exact read.operators .power
  | power => exact read.unary true

theorem readConcatenated_keeps : Keeps P (TermsWithin P) (readConcatenated (fuel + 1)) := by
  unfold readConcatenated
  refine (skipMark_leaves "~").after fun b => ?_
  split
  · refine (read.operators .product).bind fun part hpart => ?_
    exact read.concatenated.bind fun rest hrest => .pure (hrest.cons hpart)
  · exact .pure .nil

theorem readUnary_keeps (filters : Bool) :
    Keeps P (Term.Within P) (readUnary filters (fuel + 1)) := by
  unfold readUnary
  extract_lets rest
  have hrest {base : Term} (hbase : base.Within P) : Keeps P (Term.Within P) (rest base) := by
    refine (read.parts hbase).bind fun e he => ?_
    split
    · exact read.filters he
    · exact .pure he
  refine (skipMark_leaves "-").after fun b => ?_
  split
  · exact (read.unary false).bind fun e he => .given (hrest (.unary .neg he))
  · refine (skipMark_leaves "+").after fun b => ?_
    split
    · exact (read.unary false).bind fun e he => .given (hrest (.unary .pos he))
    · exact read.primary.bind fun e he => hrest he

theorem readPrimary_keeps : Keeps P (Term.Within P) (readPrimary (fuel + 1)) := by
  unfold readPrimary
  refine current_keeps.bind fun t ht => ?_
  split
  · next s hk =>
      rw [hk] at ht
      refine skip_leaves.after fun _ => ?_
      split
      · exact .pure (.const _)
      · split
        · exact .pure (.const _)
        · split
          · exact .pure (.const _)
          · exact .pure (.name ht)
  · exact skip_leaves.after fun _ => read.texts.after fun more => .pure (.const _)
  · exact skip_leaves.after fun _ => .pure (.const _)
  · refine skip_leaves.after fun _ => (read.tuple true true []).bind fun e he => ?_
    exact (expectMark_leaves ")").after fun _ => .pure he
  · exact skip_leaves.after fun _ => read.items.bind fun items hitems => .pure (.list hitems)
  · exact skip_leaves.after fun _ => read.entries.bind fun entries hentries => .pure hentries
  · exact failAt_keeps _

theorem readTexts_leaves : Leaves P (readTexts (fuel + 1)) := by
  unfold readTexts
  refine current_keeps.after fun t => ?_
  split
  · exact skip_leaves.after fun _ => read.texts.after fun more => .pure trivial
  · exact .pure trivial

theorem readItems_keeps : Keeps P (TermsWithin P) (readItems (fuel + 1)) := by
  unfold readItems
  refine (skipMark_leaves "]").after fun b => ?_
  split
  · exact .pure .nil
  · refine (read.term true).bind fun e he => (atMark_leaves "]").after fun b => ?_
    refine .maybe (expectMark_leaves ",") ?_
    exact read.items.bind fun others hothers => .pure (hothers.cons he)

theorem readEntries_keeps :
    Keeps P (fun es => (Term.dict es).Within P) (readEntries (fuel + 1)) := by
  unfold readEntries
  refine (skipMark_leaves "\x7d").after fun b => ?_
  split
  · exact .pure (.dict nofun nofun)
  · refine (read.term true).bind fun key hkey => (expectMark_leaves ":").after fun _ => ?_
    refine (read.term true).bind fun value hvalue => (atMark_leaves "\x7d").after fun b => ?_
    refine .maybe (expectMark_leaves ",") (read.entries.bind fun others hothers => ?_)
    cases hothers with
    | dict keys values =>
        exact .pure (.dict (List.forall_mem_cons.mpr ⟨hkey, keys⟩)
          (List.forall_mem_cons.mpr ⟨hvalue, values⟩))

theorem readTuple_keeps (choices brackets : Bool) (words : List String) :
    Keeps P (Term.Within P) (readTuple choices brackets words (fuel + 1)) := by
  unfold readTuple
  refine (atTupleEnd_leaves words).after fun b => ?_
  split
  · split
    · exact .pure (.tuple nofun)
    · exact fail_keeps
  · refine (read.term choices).bind fun e he => (skipMark_leaves ",").after fun b => ?_
    split
    · exact (read.moreItems choices words).bind fun rest hrest => .pure (.tuple (hrest.cons he))
    · exact .pure he

theorem readMoreItems_keeps (choices : Bool) (words : List String) :
    Keeps P (TermsWithin P) (readMoreItems choices words (fuel + 1)) := by
  unfold readMoreItems
  refine (atTupleEnd_leaves words).after fun b => ?_
  split
  · exact .pure .nil
  · refine (read.term choices).bind fun e he => (skipMark_leaves ",").after fun b => ?_
    split
    · exact (read.moreItems choices words).bind fun rest hrest => .pure (hrest.cons he)
    · exact .pure (.singleton he)

theorem readPostfix_keeps {e : Term} (he : e.Within P) :
    Keeps P (Term.Within P) (readPostfix (fuel + 1) e) := by
  unfold readPostfix
  refine current_keeps.after fun t => ?_
  split
  · exact (read.part he).bind fun e he => read.parts he
  · exact (read.part he).bind fun e he => read.parts he
  · exact read.call.bind fun a ha => read.parts (.call he ha)
  · exact .pure he

theorem readFilters_keeps {e : Term} (he : e.Within P) :
    Keeps P (Term.Within P) (readFilters (fuel + 1) e) := by
  unfold readFilters
  refine current_keeps.after fun t => ?_
  split
  · refine skip_leaves.after fun _ => (read.filter ?_).bind fun e he => read.filters he
    exact fun _ hm => by cases hm; exact he
  · exact (read.test he).bind fun e he => read.filters he
  · exact read.call.bind fun a ha => read.filters (.call he ha)
  · exact .pure he

theorem readFilter_keeps {subject : Option Term} (h : ∀ e ∈ subject, e.Within P) :
    Keeps P (Term.Within P) (readFilter (fuel + 1) subject) := by
  unfold readFilter
  refine current_keeps.after fun t => expectName_keeps.after fun name => ?_
  refine (read.dotted name).after fun name => (atMark_leaves "(").after fun b => ?_
  split
  · exact read.call.bind fun a ha => .pure (.filter _ _ h ha)
  · exact .given (.pure (.filter _ _ h (.mk nofun nofun nofun nofun)))

theorem readDotted_leaves (name : String) : Leaves P (readDotted (fuel + 1) name) := by
  unfold readDotted
  refine (skipMark_leaves ".").after fun b => ?_
  split
  · exact expectName_keeps.after fun part => read.dotted _
  · exact .pure trivial

theorem readTest_keeps {subject : Term} (hs : subject.Within P) :
    Keeps P (Term.Within P) (readTest (fuel + 1) subject) := by
  unfold readTest
  refine current_keeps.after fun t => skip_leaves.after fun _ => ?_
  refine (skipWord_leaves "not").after fun negated => expectName_keeps.after fun name => ?_
  refine (read.dotted name).after fun name => ?_
  extract_lets rest bare
  have hrest {a : Call Term} (ha : a.Within P) : Keeps P (Term.Within P) (rest a) := by
    refine .pure ?_
    split
    · exact .unary .not (.test name _ hs ha)
    · exact .test name _ hs ha
  refine (atMark_leaves "(").after fun b => atTestArgument_leaves.after fun _ => ?_
  split
  · exact read.call.bind fun a ha => hrest ha
  · split
    · refine (atWord_leaves "is").after fun _ => .maybe fail_keeps ?_
      refine read.primary.bind fun e he => (read.parts he).bind fun e he => .given (hrest ?_)
      exact .mk (TermsWithin.singleton he) nofun nofun nofun
    · exact .given (hrest (.mk nofun nofun nofun nofun))

theorem readPart_keeps {owner : Term} (ho : owner.Within P) :
    Keeps P (Term.Within P) (readPart (fuel + 1) owner) := by
  unfold readPart
  refine (skipMark_leaves ".").after fun b => ?_
  split
  · refine current_keeps.after fun t => skip_leaves.after fun _ => ?_
    split
    · exact .pure (.field _ ho)
    · exact .pure (.item ho (.const _))
    · exact failAt_keeps _
  · refine skip_leaves.after fun _ => (read.keys ho).bind fun keys hkeys => ?_
    split
    · exact .pure (.item ho (hkeys _ List.mem_cons_self))
    · exact .pure (hkeys _ List.mem_cons_self)
    · refine .pure (.item ho (.tuple fun e he => ?_))
      obtain ⟨k, hk, rfl⟩ := List.mem_map.mp he
      have hkey := hkeys k hk
      cases k <;> exact hkey

theorem readKeys_keeps {owner : Term} (ho : owner.Within P) :
    Keeps P (fun ks => ∀ k ∈ ks, KeyWithin P k) (readKeys owner (fuel + 1)) := by
  unfold readKeys
  refine (skipMark_leaves "]").after fun b => ?_
  split
  · exact .pure nofun
  · refine (read.key ho).bind fun k hk => (atMark_leaves "]").after fun b => ?_
    refine .maybe (expectMark_leaves ",") ?_
    exact (read.keys ho).bind fun others hothers => .pure (List.forall_mem_cons.mpr ⟨hk, hothers⟩)

theorem readKey_keeps {owner : Term} (ho : owner.Within P) :
    Keeps P (KeyWithin P) (readKey owner (fuel + 1)) := by
  unfold readKey
  refine read.bound.bind fun lower hlower => (skipMark_leaves ":").after fun b => ?_
  split
  · refine read.bound.bind fun upper hupper => (skipMark_leaves ":").after fun b => ?_
    split
    · exact read.bound.bind fun step hstep => .pure (.slice ho hlower hupper hstep)
    · exact .given (.pure (.slice ho hlower hupper nofun))
  · split
    · exact .pure (hlower _ rfl)
    · exact (read.term true).bind fun key hkey => .pure hkey

theorem readBound_keeps : Keeps P (fun o => ∀ e ∈ o, e.Within P) (readBound (fuel + 1)) := by
  unfold readBound
  refine current_keeps.after fun t => ?_
  split
  · exact .pure nofun
  · exact .pure nofun
  · exact .pure nofun
  · exact (read.term true).bind fun e he => .pure fun _ hm => by cases hm; exact he

theorem readCall_keeps : Keeps P (Call.Within P) (readCall (fuel + 1)) := by
  unfold readCall
  refine current_keeps.after fun opening => (expectMark_leaves "(").after fun _ => ?_
  exact read.arguments opening true (.mk nofun nofun nofun nofun)

theorem readArguments_keeps (opening : Token) (first : Bool) {a : Call Term} (ha : a.Within P) :
    Keeps P (Call.Within P) (readArguments opening first a (fuel + 1)) := by
  obtain ⟨positional, named, spread, spreadNamed⟩ := a
  obtain ⟨hpositional, hnamed, hspread, hspreadNamed⟩ := ha
  have one {e : Term} (he : e.Within P) : ∀ f ∈ some e, f.Within P := by
    intro _ hm
    cases hm
    exact he
  unfold readArguments
  refine (skipMark_leaves ")").after fun b => ?_
  split
  · exact .pure (.mk hpositional hnamed hspread hspreadNamed)
  · refine .maybe (expectMark_leaves ",") ((skipMark_leaves ")").after fun b => ?_)
    split
    · exact .pure (.mk hpositional hnamed hspread hspreadNamed)
    · refine (atMark_leaves "*").after fun b => ?_
      split
      · refine .maybe (failAt_keeps _) (skip_leaves.after fun _ => ?_)
        refine (read.term true).bind fun e he => ?_
        exact read.arguments opening false (.mk hpositional hnamed (one he) hspreadNamed)
      · refine (atMark_leaves "**").after fun b => ?_
        split
        · refine .maybe (failAt_keeps _) (skip_leaves.after fun _ => ?_)
          refine (read.term true).bind fun e he => ?_
          exact read.arguments opening false (.mk hpositional hnamed hspread (one he))
        · refine current_keeps.after fun t => (lookMark_leaves "=").after fun b => ?_
          split
          · refine .maybe (failAt_keeps _) ?_
            refine skip_leaves.after fun _ => skip_leaves.after fun _ => ?_
            refine (read.term true).bind fun e he => read.arguments opening false ?_
            refine .mk hpositional (List.forall_mem_append.mpr ⟨hnamed, ?_⟩) hspread hspreadNamed
            exact List.forall_mem_singleton.mpr he
          · refine .maybe (failAt_keeps _) ((read.term true).bind fun e he => ?_)
            refine read.arguments opening false ?_
            refine .mk (List.forall_mem_append.mpr ⟨hpositional, ?_⟩) hnamed hspread hspreadNamed
            exact List.forall_mem_singleton.mpr he

end

/-- Every reader of terms keeps to the names of its tokens, however deep it goes. -/
theorem termReaders (P : String -> Prop) (fuel : Nat) : TermReaders P fuel := by
  induction fuel with
  | zero => constructor <;> intros <;> exact fail_keeps
  | succ fuel read =>
      exact {
        term := readTerm_keeps read
        choices := readChoices_keeps read
        disjunction := readDisjunction_keeps read
        disjuncts := readDisjuncts_keeps read
        conjunction := readConjunction_keeps read
        conjuncts := readConjuncts_keeps read
        negation := readNegation_keeps read
        comparisons := readComparisons_keeps read
        operators := readOperators_keeps read
        moreOperators := readMoreOperators_keeps read
        operand := readOperand_keeps read
        concatenated := readConcatenated_keeps read
        unary := readUnary_keeps read
        primary := readPrimary_keeps read
        texts := readTexts_leaves read
        items := readItems_keeps read
        entries := readEntries_keeps read
        tuple := readTuple_keeps read
        moreItems := readMoreItems_keeps read
        parts := readPostfix_keeps read
        filters := readFilters_keeps read
        filter := readFilter_keeps read
        dotted := readDotted_leaves read
        test := readTest_keeps read
        part := readPart_keeps read
        keys := readKeys_keeps read
        key := readKey_keeps read
        bound := readBound_keeps read
        call := readCall_keeps read
        arguments := readArguments_keeps read }

/-! ## Places -/

mutual

/-- The place a term stands for assigns to names, and looks none up. -/
theorem placeOf?_within (line : Nat) (e : Term) : ∀ p ∈ placeOf? line e, p.Within P := by
  intro p hp
  match e with
  | .name id =>
      simp only [placeOf?] at hp
      cases hp
      exact .name id line
  | .tuple items =>
      simp only [placeOf?] at hp
      obtain ⟨places, hplaces, rfl⟩ := Option.map_eq_some_iff.mp hp
      exact .several (placesOf?_within line items places hplaces)
  | .const _ | .unary .. | .binary .. | .conj .. | .disj .. | .concat _ | .compare .. | .choice ..
  | .call .. | .field .. | .item .. | .slice .. | .list _ | .dict _ | .filter .. | .test .. =>
      simp only [placeOf?] at hp
      cases hp

theorem placesOf?_within (line : Nat) (es : List Term) :
    ∀ places ∈ placeOf?.placesOf? line es, ∀ p ∈ places, p.Within P := by
  intro places hp
  match es with
  | [] =>
      simp only [placeOf?.placesOf?] at hp
      cases hp
      exact nofun
  | e :: rest =>
      simp only [placeOf?.placesOf?] at hp
      obtain ⟨p, hfirst, hp⟩ := Option.bind_eq_some_iff.mp hp
      obtain ⟨others, hothers, hp⟩ := Option.bind_eq_some_iff.mp hp
      cases hp
      exact List.forall_mem_cons.mpr
        ⟨placeOf?_within line e p hfirst, placesOf?_within line rest others hothers⟩

end

theorem readNewName_leaves : Leaves P readNewName := by
  refine current_keeps.after fun t => expectName_keeps.after fun name => ?_
  split
  · exact failAt_keeps _
  · exact .pure trivial

theorem readPrimaries_leaves (words : List String) : Leaves P (readPrimaries words fuel) := by
  induction fuel with
  | zero => exact fail_keeps
  | succ fuel ih =>
      unfold readPrimaries
      refine (atTupleEnd_leaves words).after fun b => ?_
      split
      · exact .pure trivial
      · refine (termReaders P fuel).primary.after fun e => (skipMark_leaves ",").after fun b => ?_
        split
        · exact ih.after fun _ => .pure trivial
        · exact .pure trivial

theorem readPlace_keeps (words : List String) (fuel : Nat) :
    Keeps P (Place.Within P) (readPlace words fuel) := by
  unfold readPlace
  refine current_keeps.after fun t => (readPrimaries_leaves words).after fun ⟨items, several⟩ => ?_
  dsimp -zeta only
  extract_lets rest
  have hrest (e : Term) : Keeps P (Place.Within P) (rest e) := by
    unfold rest
    split
    · next p hp => exact .pure (placeOf?_within _ e p hp)
    · exact failAt_keeps _
  split
  · exact (fail_keeps (Q := fun _ => True)).after hrest
  · exact .given (hrest _)
  · exact .given (hrest _)

theorem readSetPlace_keeps (fuel : Nat) : Keeps P (Place.Within P) (readSetPlace fuel) := by
  unfold readSetPlace
  refine (lookMark_leaves ".").after fun b => ?_
  split
  · refine expectName_keeps.bind fun owner howner => skip_leaves.after fun _ => ?_
    exact expectName_keeps.after fun name => .pure (.field name howner)
  · exact readPlace_keeps [] fuel

/-! ## Statements -/

theorem readParameters_keeps (first defaulted : Bool) :
    Keeps P (ParametersWithin P) (readParameters first defaulted fuel) := by
  induction fuel generalizing first defaulted with
  | zero => exact fail_keeps
  | succ fuel ih =>
      unfold readParameters
      refine (skipMark_leaves ")").after fun b => ?_
      split
      · exact .pure nofun
      · refine .maybe (expectMark_leaves ",") (readNewName_leaves.after fun name => ?_)
        refine (skipMark_leaves "=").after fun b => ?_
        split
        · refine ((termReaders P fuel).term true).bind fun e he => ?_
          refine (ih false true).bind fun ps hps => ?_
          exact .pure (List.forall_mem_cons.mpr ⟨fun _ hm => by cases hm; exact he, hps⟩)
        · split
          · exact fail_keeps
          · refine (ih false false).bind fun ps hps => ?_
            exact .pure (List.forall_mem_cons.mpr ⟨nofun, hps⟩)

theorem readSignature_keeps (fuel : Nat) : Keeps P (ParametersWithin P) (readSignature fuel) :=
  (expectMark_leaves "(").after fun _ => readParameters_keeps true false

theorem readBindings_keeps (first : Bool) :
    Keeps P (fun bs => (∀ b ∈ bs, b.1.Within P) ∧ ∀ b ∈ bs, b.2.Within P)
      (readBindings first fuel) := by
  induction fuel generalizing first with
  | zero => exact fail_keeps
  | succ fuel ih =>
      unfold readBindings
      refine atBlockEnd_leaves.after fun b => ?_
      split
      · exact .pure ⟨nofun, nofun⟩
      · refine .maybe (expectMark_leaves ",") ?_
        refine (readPlace_keeps [] fuel).bind fun place hplace => ?_
        refine (expectMark_leaves "=").after fun _ => ?_
        refine ((termReaders P fuel).term true).bind fun e he => (ih false).bind fun bs hbs => ?_
        exact .pure ⟨List.forall_mem_cons.mpr ⟨hplace, hbs.1⟩, List.forall_mem_cons.mpr ⟨he, hbs.2⟩⟩

theorem readPrinted_keeps (first : Bool) : Keeps P (TermsWithin P) (readPrinted first fuel) := by
  induction fuel generalizing first with
  | zero => exact fail_keeps
  | succ fuel ih =>
      unfold readPrinted
      refine atBlockEnd_leaves.after fun b => ?_
      split
      · exact .pure .nil
      · refine .maybe (expectMark_leaves ",") ?_
        refine ((termReaders P fuel).term true).bind fun e he => (ih false).bind fun es hes => ?_
        exact .pure (hes.cons he)

theorem readFilterRow_keeps {subject : Option Term} (h : ∀ e ∈ subject, e.Within P) :
    Keeps P (fun o => ∀ e ∈ o, e.Within P) (readFilterRow subject fuel) := by
  induction fuel generalizing subject with
  | zero => exact fail_keeps
  | succ fuel ih =>
      unfold readFilterRow
      refine (skipMark_leaves "|").after fun b => ?_
      split
      · exact ((termReaders P fuel).filter h).bind fun e he => ih fun _ hm => by cases hm; exact he
      · exact .pure h

theorem readSharing_leaves : Leaves P readSharing := by
  refine (atWord_leaves "with").after fun b => (atWord_leaves "without").after fun c => ?_
  refine (lookWord_leaves "context").after fun d => ?_
  split
  · exact skip_leaves.after fun _ => skip_leaves.after fun _ => .pure trivial
  · exact .pure trivial

theorem readImports_leaves (first : Bool) : Leaves P (readImports first fuel) := by
  induction fuel generalizing first with
  | zero => exact fail_keeps
  | succ fuel ih =>
      unfold readImports
      refine .maybe (expectMark_leaves ",") (current_keeps.after fun t => ?_)
      split
      · refine readSharing_leaves.after fun b => ?_
        split
        · exact .pure trivial
        · refine current_keeps.after fun t => readNewName_leaves.after fun name => ?_
          extract_lets others rest
          have hothers (u : Unit) : Leaves P (others u) := by
            refine readSharing_leaves.after fun b => ?_
            split
            · exact .pure trivial
            · refine (atMark_leaves ",").after fun b => ?_
              split
              · exact ih false
              · exact .pure trivial
          refine .maybe (throw_keeps _) ((skipWord_leaves "as").after fun b => ?_)
          split
          · exact readNewName_leaves.after fun _ => hothers ⟨⟩
          · exact hothers ⟨⟩
      · exact fail_keeps

/-- The readers of statements keep to the names of their tokens up to some depth. -/
structure StatementReaders (P : String -> Prop) (fuel : Nat) : Prop where
  body (ends : List String) : Keeps P (BodyWithin P) (readBody ends fuel)
  whole (stop : String) : Keeps P (BodyWithin P) (readWhole stop fuel)
  statements (ends : Option (List String)) : Keeps P (BodyWithin P) (readStatements ends fuel)
  statement : Keeps P (Statement.Within P) (readStatement fuel)
  branches : Keeps P
    (fun x => ((∀ b ∈ x.1, b.1.Within P) ∧ ∀ b ∈ x.1, BodyWithin P b.2) ∧ BodyWithin P x.2)
    (readBranches fuel)

section

variable (read : StatementReaders P fuel)

include read

theorem readBody_keeps (ends : List String) :
    Keeps P (BodyWithin P) (readBody ends (fuel + 1)) := by
  unfold readBody
  refine (skipMark_leaves ":").after fun _ => expectBlockEnd_leaves.after fun _ => ?_
  refine (read.statements (some ends)).bind fun body hbody => current_keeps.after fun t => ?_
  split
  · exact fail_keeps
  · exact .pure hbody

theorem readWhole_keeps (stop : String) : Keeps P (BodyWithin P) (readWhole stop (fuel + 1)) := by
  unfold readWhole
  exact (read.body [stop]).bind fun body hbody => skip_leaves.after fun _ => .pure hbody

theorem readStatements_keeps (ends : Option (List String)) :
    Keeps P (BodyWithin P) (readStatements ends (fuel + 1)) := by
  have cons {s : Statement} (hs : s.Within P) {body : List Statement} (hbody : BodyWithin P body) :
      BodyWithin P (s :: body) :=
    List.forall_mem_cons.mpr ⟨hs, hbody⟩
  unfold readStatements
  refine current_keeps.after fun t => ?_
  split
  · exact .pure .nil
  · refine skip_leaves.after fun _ => (read.statements ends).bind fun rest hrest => ?_
    exact .pure (cons (.text _) hrest)
  · refine skip_leaves.after fun _ => ((termReaders P fuel).tuple true false []).bind fun e he => ?_
    refine current_keeps.after fun t => ?_
    extract_lets rest
    have hrest (u : PUnit) : Keeps P (BodyWithin P) (rest u) := by
      refine (read.statements ends).bind fun others hothers => ?_
      exact .pure (cons (.print (TermsWithin.singleton he)) hothers)
    split
    · exact skip_leaves.after hrest
    · exact (fail_keeps (Q := fun _ => True)).after hrest
  · refine skip_leaves.after fun _ => current_keeps.after fun t => ?_
    extract_lets rest
    have hrest (ended : Bool) : Keeps P (BodyWithin P) (rest ended) := by
      unfold rest
      split
      · exact .pure .nil
      · refine read.statement.bind fun s hs => expectBlockEnd_leaves.after fun _ => ?_
        exact (read.statements ends).bind fun others hothers => .pure (cons hs hothers)
    split
    · exact .given (hrest _)
    · exact .given (hrest _)
  · exact fail_keeps

theorem readBranches_keeps : Keeps P
    (fun x => ((∀ b ∈ x.1, b.1.Within P) ∧ ∀ b ∈ x.1, BodyWithin P b.2) ∧ BodyWithin P x.2)
    (readBranches (fuel + 1)) := by
  unfold readBranches
  refine ((termReaders P fuel).tuple false false []).bind fun test htest => ?_
  refine (read.body _).bind fun body hbody => (skipWord_leaves "elif").after fun b => ?_
  have one : (∀ b ∈ [(test, body)], b.1.Within P) ∧ ∀ b ∈ [(test, body)], BodyWithin P b.2 :=
    ⟨List.forall_mem_singleton.mpr htest, List.forall_mem_singleton.mpr hbody⟩
  split
  · refine read.branches.bind fun ⟨branches, otherwise⟩ ⟨hbranches, hotherwise⟩ => ?_
    exact .pure ⟨⟨List.forall_mem_cons.mpr ⟨htest, hbranches.1⟩,
      List.forall_mem_cons.mpr ⟨hbody, hbranches.2⟩⟩, hotherwise⟩
  · refine (skipWord_leaves "else").after fun b => ?_
    split
    · exact (read.whole "endif").bind fun otherwise hotherwise => .pure ⟨one, hotherwise⟩
    · exact skip_leaves.after fun _ => .pure ⟨one, .nil⟩

theorem readStatement_keeps : Keeps P (Statement.Within P) (readStatement (fuel + 1)) := by
  have terms := termReaders P fuel
  have absent : ∀ e ∈ (none : Option Term), e.Within P := nofun
  unfold readStatement
  refine current_keeps.after fun t => ?_
  extract_lets called worded
  have hcalled {parameters : List (String × Option Term)} (hp : ParametersWithin P parameters) :
      Keeps P (Statement.Within P) (called parameters) := by
    refine (terms.term true).bind fun e he => ?_
    split
    · cases he with
      | call hcallee ha =>
          refine (read.whole "endcall").bind fun body hbody => ?_
          exact .pure (.callWith _ hp hcallee ha hbody)
    · exact failAt_keeps _
  have hworded (word : String) : Keeps P (Statement.Within P) (worded word) := by
    unfold worded
    split
    case h_1 =>
      refine skip_leaves.after fun _ => (readPlace_keeps ["in"] fuel).bind fun place hplace => ?_
      refine (expectWord_leaves "in").after fun _ => ?_
      refine (terms.tuple false false ["recursive"]).bind fun source hsource => ?_
      refine (skipWord_leaves "if").after fun b => ?_
      extract_lets rest
      have hrest {test : Option Term} (htest : ∀ e ∈ test, e.Within P) :
          Keeps P (Statement.Within P) (rest test) := by
        refine (skipWord_leaves "recursive").after fun recursive => ?_
        refine (read.body _).bind fun body hbody => (skipWord_leaves "endfor").after fun b => ?_
        split
        · exact .given (.pure (.forEach _ hplace hsource htest hbody BodyWithin.nil))
        · refine skip_leaves.after fun _ => (read.whole "endfor").bind fun otherwise ho => ?_
          exact .pure (.forEach _ hplace hsource htest hbody ho)
      split
      · exact (terms.term true).bind fun e he => .given (hrest fun _ hm => by cases hm; exact he)
      · exact .given (hrest nofun)
    case h_2 =>
      refine skip_leaves.after fun _ => read.branches.bind fun ⟨branches, otherwise⟩ ⟨hb, ho⟩ => ?_
      exact .pure (.cond hb.1 hb.2 ho)
    case h_3 =>
      refine skip_leaves.after fun _ => (readBindings_keeps true).bind fun bindings hb => ?_
      exact (read.whole "endwith").bind fun body hbody => .pure (.within hb.1 hb.2 hbody)
    case h_4 =>
      refine skip_leaves.after fun _ => (terms.term true).bind fun on hon => ?_
      exact (read.whole "endautoescape").bind fun body hbody => .pure (.escaping hon hbody)
    case h_5 =>
      refine skip_leaves.after fun _ => expectName_keeps.after fun name => ?_
      refine (skipWord_leaves "scoped").after fun inherits => ?_
      refine (skipWord_leaves "required").after fun required => ?_
      refine (atMark_leaves "-").after fun b => ?_
      refine .maybe fail_keeps ((read.whole "endblock").bind fun body hbody => ?_)
      refine .maybe fail_keeps ((skipWord_leaves name).after fun _ => ?_)
      exact .pure (.block _ _ _ _ hbody)
    case h_6 =>
      exact skip_leaves.after fun _ => (terms.term true).bind fun e he => .pure (.load he)
    case h_7 =>
      refine skip_leaves.after fun _ => (terms.term true).bind fun e he => ?_
      refine (atWord_leaves "ignore").after fun b => (lookWord_leaves "missing").after fun c => ?_
      extract_lets rest
      have hrest (u : Unit) : Keeps P (Statement.Within P) (rest u) :=
        readSharing_leaves.after fun _ => .pure (.load he)
      split
      · exact skip_leaves.after fun _ => skip_leaves.after hrest
      · exact hrest ⟨⟩
    case h_8 =>
      refine skip_leaves.after fun _ => (terms.term true).bind fun e he => ?_
      refine (expectWord_leaves "as").after fun _ => readNewName_leaves.after fun _ => ?_
      exact readSharing_leaves.after fun _ => .pure (.load he)
    case h_9 =>
      refine skip_leaves.after fun _ => (terms.term true).bind fun e he => ?_
      refine (expectWord_leaves "import").after fun _ => ?_
      exact (readImports_leaves true).after fun _ => .pure (.load he)
    case h_10 =>
      refine skip_leaves.after fun _ => (readSetPlace_keeps fuel).bind fun place hplace => ?_
      refine (skipMark_leaves "=").after fun b => ?_
      split
      · exact (terms.tuple true false []).bind fun e he => .pure (.assign hplace he)
      · refine (readFilterRow_keeps absent).bind fun filter hfilter => ?_
        exact (read.whole "endset").bind fun body hbody => .pure (.assignText hplace hfilter hbody)
    case h_11 =>
      refine skip_leaves.after fun _ => ?_
      exact (readPrinted_keeps true).bind fun items hi => .pure (.print hi)
    case h_12 =>
      refine skip_leaves.after fun _ => readNewName_leaves.after fun name => ?_
      refine (readSignature_keeps fuel).bind fun parameters hp => ?_
      exact (read.whole "endmacro").bind fun body hbody => .pure (.defineMacro _ _ hp hbody)
    case h_13 =>
      refine skip_leaves.after fun _ => (atMark_leaves "(").after fun b => ?_
      split
      · exact (readSignature_keeps fuel).bind fun parameters hp => hcalled hp
      · exact .given (hcalled nofun)
    case h_14 =>
      refine skip_leaves.after fun _ => (terms.filter absent).bind fun first hfirst => ?_
      refine (readFilterRow_keeps fun _ hm => by cases hm; exact hfirst).bind fun o ho => ?_
      split
      · next e =>
            refine (read.whole "endfilter").bind fun body hbody => ?_
            exact .pure (.filtered (ho e rfl) hbody)
      · exact fail_keeps
    case h_15 => exact failAt_keeps _
  split
  · exact .given (hworded _)
  · exact (failAt_keeps (Q := fun _ => True) _).after hworded

end

/-- Every reader of statements keeps to the names of its tokens, however deep it goes. -/
theorem statementReaders (P : String -> Prop) (fuel : Nat) : StatementReaders P fuel := by
  induction fuel with
  | zero => constructor <;> intros <;> exact fail_keeps
  | succ fuel read =>
      exact {
        body := readBody_keeps read
        whole := readWhole_keeps read
        statements := readStatements_keeps read
        statement := readStatement_keeps read
        branches := readBranches_keeps read }

/-- The names that a template looks up are words of its source. -/
theorem read_within {source : String} (h : WordsWithin P source.toList) {body : List Statement}
    (hr : read source = .ok body) : BodyWithin P body := by
  unfold read at hr
  simp only [bind, Except.bind] at hr
  split at hr
  · cases hr
  · next x hx =>
      cases hr
      exact ((statementReaders P _).statements none _ x.1 x.2 (tokens_within h) hx).1

end Template

end Workflow
