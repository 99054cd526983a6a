import Workflow.Proofs.Template.Streams
import Workflow.Proofs.Value.Alike

/-!
# Renderings that see few names

The value of a term and the text of a statement depend on the names that are written in
them.  The text of a template among variables is thus the same as among others that
agree on its names.
-/

namespace Workflow

namespace Template

variable {P : String -> Prop}

section Values

variable {judge : Judge} (hj : JudgeBlind P judge) (escaping : Bool) (fuel : Nat)

include hj in
theorem blind_gathered (a : Value.Arguments) : Blind P (gathered judge escaping fuel a) := by
  refine (Blind.mapM (fun v => ?_) _).bind fun _ => .pure _
  split
  · exact ((streams_blind hj escaping fuel).drain _).map _
  · exact .pure _

theorem blind_callGlobal (name : String) (a : Value.Arguments) :
    Blind P (callGlobal name a) := by
  unfold callGlobal
  split
  · refine (blind_lift _).bind fun numbers => ?_
    extract_lets rest
    have ranged (r : Int × Int × Int) : Blind P (rest r) := by
      dsimp only [rest]
      split
      · exact .throw _
      · split
        · exact .throw _
        · exact .pure _
    split
    · exact (Blind.pure _).bind ranged
    · exact (Blind.pure _).bind ranged
    · exact (Blind.pure _).bind ranged
    · exact (Blind.throw _).bind ranged
    · exact (Blind.throw _).bind ranged
  · refine (blind_lift _).bind fun v => ?_
    split
    · exact (blind_newCell (.fields _)).map _
    · exact .pure _
  · split
    · exact .throw _
    · exact (blind_newCell (.cycler _ _)).map _
  · refine (blind_lift _).bind fun b => ?_
    exact (blind_newCell (.joiner _ _)).map _
  · exact blind_perform _

theorem blind_callSlotMethod (place : Nat) (name : String) (a : Value.Arguments) :
    Blind P (callSlotMethod place name a) := by
  unfold callSlotMethod
  refine Blind.read (fun m n h => by simp only [h.cells]) fun m hm => ?_
  split
  · split
    · exact .pure _
    · exact .throw _
  · next l heq =>
      refine (Blind.mapM blind_current _).bind fun _ => ?_
      refine (Blind.mapM blind_current _).bind fun _ => ?_
      dsimp only
      split
      · exact .pure _
      · cases hm _ _ heq with
        | loop again =>
            refine (blind_putCell place ?_).bind fun _ => .pure _
            exact .loop again
  · exact (blind_putCell place (.cycler _ _)).bind fun _ => .pure _
  · exact (blind_putCell place (.cycler _ _)).bind fun _ => .pure _
  · exact .throw _

include hj in
theorem blind_callPlain (f : Value) (a : Value.Arguments) :
    Blind P (callPlain judge escaping fuel f a) := by
  unfold callPlain
  extract_lets rest
  have called (b : Value.Arguments) : Blind P (rest b) := by
    dsimp only [rest]
    split
    · exact (blind_lift _).bind fun _ => .pure _
    · exact blind_callGlobal _ _
    · exact blind_callSlotMethod _ _ _
    · exact (blind_currentArguments _).bind fun _ => blind_make _
    · exact (blind_currentArguments _).bind fun _ => blind_make _
    · exact (blind_currentArguments _).bind fun _ => blind_make _
    · refine Blind.read (fun m n h => by simp only [h.cells]) fun m _ => ?_
      split
      · exact (blind_putCell _ (.joiner _ _)).bind fun _ => .pure _
      · exact .pure _
    · exact .throw _
    · exact .throw _
    · exact (blind_currentArguments _).bind fun _ => blind_perform _
  split
  · exact (blind_gathered hj escaping fuel a).bind called
  · exact (Blind.pure a).bind called

include hj in
theorem blind_compareCurrent (op : CompareOp) (v w : Value) :
    Blind P (compareCurrent judge escaping fuel op v w) := by
  unfold compareCurrent
  split
  · exact (streams_blind hj escaping fuel).isMemberOf _ _
  · exact ((streams_blind hj escaping fuel).isMemberOf _ _).map _
  · exact (blind_current _).bind fun _ => (blind_current _).bind fun _ => blind_lift _

include hj in
theorem blind_unpacked (v : Value) : Blind P (unpacked judge escaping fuel v) := by
  unfold unpacked
  split
  · exact (streams_blind hj escaping fuel).drain _
  · refine (blind_look _).bind fun _ => ?_
    split
    · exact .pure _
    · exact .throw _
    · exact .throw _

include hj in
theorem blind_spreadItems (v : Value) : Blind P (spreadItems judge escaping fuel v) := by
  unfold spreadItems
  split
  · exact (streams_blind hj escaping fuel).drain _
  · refine (blind_lift _).bind fun _ => (blind_look _).bind fun _ => ?_
    split
    · exact .pure _
    · exact .throw _

include hj in
theorem blind_assignTo (s : Surroundings) (p : Place) (hp : p.Within P) (v : Value) :
    Blind P (assignTo judge s fuel p v) := by
  induction fuel generalizing p v with
  | zero => exact .throw _
  | succ fuel ih =>
      unfold assignTo
      cases hp with
      | name id line => exact blind_assign s id v
      | field name howner =>
          refine (blind_lookup s howner).bind fun v => ?_
          split
          · refine Blind.read (fun m n h => by simp only [h.cells]) fun m _ => ?_
            split
            · exact blind_putCell _ (.fields _)
            · exact .pure _
          · exact .throw _
      | several hps =>
          refine (blind_unpacked hj _ fuel v).bind fun xs => ?_
          split
          · exact .throw _
          · split
            · exact .throw _
            · exact Blind.forM _ fun q hq => ih q.1 (hps _ (List.of_mem_zip hq).1) q.2

end Values

/-- Evaluation in surroundings without other names is blind at a depth of calls. -/
structure EvaluationBlind (P : String -> Prop) (fuel : Nat) : Prop where
  term : ∀ (s : Surroundings) (e : Term), s.Within P -> e.Within P -> Blind P (evalTerm s fuel e)
  terms : ∀ (s : Surroundings) (es : List Term), s.Within P -> (∀ e ∈ es, e.Within P) ->
    Blind P (evalTerms s fuel es)
  optional : ∀ (s : Surroundings) (o : Option Term), s.Within P -> (∀ e ∈ o, e.Within P) ->
    Blind P (evalOptional s fuel o)
  entries : ∀ (s : Surroundings) acc (ps : List (Term × Term)), s.Within P ->
    (∀ p ∈ ps, p.1.Within P) -> (∀ p ∈ ps, p.2.Within P) -> Blind P (evalEntries s fuel acc ps)
  comparisons : ∀ (s : Surroundings) v (rest : List (CompareOp × Term)), s.Within P ->
    (∀ p ∈ rest, p.2.Within P) -> Blind P (evalComparisons s fuel v rest)
  arguments : ∀ (s : Surroundings) (a : Call Term), s.Within P -> a.Within P ->
    Blind P (evalArguments s fuel a)
  method : ∀ (s : Surroundings) (owner : Term) name (a : Call Term), s.Within P ->
    owner.Within P -> a.Within P -> Blind P (evalMethod s fuel owner name a)
  value : ∀ (s : Surroundings) f a, s.Within P -> Blind P (callValue s fuel f a)
  closure : ∀ (s : Surroundings) (c : Closure) a, s.Within P -> c.Within P ->
    Blind P (callClosure s fuel c a)
  defaults : ∀ (s : Surroundings) (c : Closure) bound, s.Within P -> c.Within P ->
    Blind P (bindDefaults s fuel c bound)
  body : ∀ (s : Surroundings) body out, s.Within P -> BodyWithin P body ->
    Blind P (evalBody s fuel body out)
  printed : ∀ (s : Surroundings) (es : List Term) out, s.Within P -> (∀ e ∈ es, e.Within P) ->
    Blind P (evalPrinted s fuel es out)
  statement : ∀ (s : Surroundings) (st : Statement) out, s.Within P -> st.Within P ->
    Blind P (evalStatement s fuel st out)
  branches : ∀ (s : Surroundings) (branches : List (Term × List Statement)) otherwise out,
    s.Within P -> (∀ b ∈ branches, b.1.Within P) -> (∀ b ∈ branches, BodyWithin P b.2) ->
      BodyWithin P otherwise -> Blind P (evalBranches s fuel branches otherwise out)
  block : ∀ (s : Surroundings) (b : Block) out, s.Within P -> BodyWithin P b.body ->
    Blind P (evalBlock s fuel b out)
  loop : ∀ (s : Surroundings) (again : LoopBody) source out, s.Within P -> again.Within P ->
    Blind P (evalLoop s fuel again source out)
  keeps : JudgeBlind P (keeps fuel)
  items : ∀ (s : Surroundings) (again : LoopBody) place out, s.Within P -> again.Within P ->
    Blind P (evalItems s fuel again place out)

namespace EvaluationBlind

variable {fuel : Nat} (q : EvaluationBlind P fuel) {s : Surroundings} (hs : s.Within P)
include q hs

theorem term_succ {e : Term} (he : e.Within P) : Blind P (evalTerm s (fuel + 1) e) := by
  cases he with
  | const v => exact .pure v
  | name hid => exact blind_lookup s hid
  | unary op he =>
      cases op <;> unfold evalTerm
      all_goals first
        | exact (q.term s _ hs he).bind fun _ => (blind_holds _).map _
        | exact (q.term s _ hs he).bind fun _ => (blind_current _).bind fun _ =>
            (blind_lift _).bind fun _ => blind_make _
  | binary op hl hr =>
      unfold evalTerm
      refine (q.term s _ hs hl).bind fun _ => (q.term s _ hs hr).bind fun _ => ?_
      refine (blind_current _).bind fun _ => (blind_current _).bind fun _ => ?_
      refine (blind_make _).bind fun _ => ?_
      split
      · exact blind_make _
      · exact .pure _
  | conj hl hr =>
      unfold evalTerm
      refine (q.term s _ hs hl).bind fun _ => (blind_holds _).bind fun _ => ?_
      split
      · exact q.term s _ hs hr
      · exact .pure _
  | disj hl hr =>
      unfold evalTerm
      refine (q.term s _ hs hl).bind fun _ => (blind_holds _).bind fun _ => ?_
      split
      · exact .pure _
      · exact q.term s _ hs hr
  | concat hparts =>
      unfold evalTerm
      refine (q.terms s _ hs hparts).bind fun _ => ?_
      exact (Blind.mapM blind_current _).bind fun _ => blind_lift _
  | compare hfirst hrest =>
      unfold evalTerm
      exact (q.term s _ hs hfirst).bind fun _ => q.comparisons s _ _ hs hrest
  | choice line htest hyes hno =>
      unfold evalTerm
      refine (q.term s _ hs htest).bind fun _ => (blind_holds _).bind fun _ => ?_
      split
      · exact q.term s _ hs hyes
      · split
        · exact q.term s _ hs (hno _ rfl)
        · exact .pure _
  | @call callee a hcallee ha =>
      have called : Blind P (do
          let f <- evalTerm s fuel callee
          let a <- evalArguments s fuel a
          callValue s fuel f a) :=
        (q.term s _ hs hcallee).bind fun f => (q.arguments s _ hs ha).bind fun a => q.value s f a hs
      unfold evalTerm
      cases hcallee with
      | field name howner => exact q.method s _ name _ hs howner ha
      | _ => exact called
  | field name howner =>
      unfold evalTerm
      exact (q.term s _ hs howner).bind fun _ => blind_partOf q.keeps _ _ _ _
  | item howner hkey =>
      unfold evalTerm
      exact (q.term s _ hs howner).bind fun _ => (q.term s _ hs hkey).bind fun _ =>
        blind_itemIn q.keeps _ _ _ _
  | slice howner hlower hupper hstep =>
      unfold evalTerm
      refine (q.term s _ hs howner).bind fun _ => (q.optional s _ hs hlower).bind fun _ => ?_
      refine (q.optional s _ hs hupper).bind fun _ => (q.optional s _ hs hstep).bind fun _ => ?_
      exact (blind_look _).bind fun _ => blind_make _
  | list hitems =>
      unfold evalTerm
      exact (q.terms s _ hs hitems).bind fun _ => blind_make _
  | tuple hitems =>
      unfold evalTerm
      exact (q.terms s _ hs hitems).map _
  | dict hkeys hvalues =>
      unfold evalTerm
      exact (q.entries s _ _ hs hkeys hvalues).bind fun _ => blind_make _
  | filter name line hsubject ha =>
      unfold evalTerm
      dsimp -zeta only
      extract_lets quoted rest
      have applied (v : Value) : Blind P (rest v) := by
        refine (q.arguments s _ hs ha).bind fun _ => ?_
        split
        · exact (streams_blind q.keeps _ _).applyFilter _ _ _
        · exact .throw _
      split
      · exact (q.term s _ hs (hsubject _ rfl)).bind applied
      · exact (Blind.pure _).bind applied
  | test name line hsubject ha =>
      unfold evalTerm
      refine (q.term s _ hs hsubject).bind fun _ => (q.arguments s _ hs ha).bind fun _ => ?_
      split
      · exact ((streams_blind q.keeps _ _).testValue _ _ _).map _
      · exact .throw _

theorem terms_succ {es : List Term} (hes : ∀ e ∈ es, e.Within P) :
    Blind P (evalTerms s (fuel + 1) es) := by
  unfold evalTerms
  split
  · exact .pure _
  · next e rest =>
      refine (q.term s e hs (hes e List.mem_cons_self)).bind fun _ => ?_
      exact (q.terms s rest hs fun e he => hes e (List.mem_cons_of_mem _ he)).map _

theorem optional_succ {o : Option Term} (ho : ∀ e ∈ o, e.Within P) :
    Blind P (evalOptional s (fuel + 1) o) := by
  unfold evalOptional
  split
  · exact q.term s _ hs (ho _ rfl)
  · exact .pure _

theorem entries_succ (acc : List (Value × Value)) {ps : List (Term × Term)}
    (hkeys : ∀ p ∈ ps, p.1.Within P) (hvalues : ∀ p ∈ ps, p.2.Within P) :
    Blind P (evalEntries s (fuel + 1) acc ps) := by
  unfold evalEntries
  split
  · exact .pure _
  · refine (q.term s _ hs (hkeys _ List.mem_cons_self)).bind fun _ => ?_
    refine (q.term s _ hs (hvalues _ List.mem_cons_self)).bind fun _ => ?_
    refine (blind_current _).bind fun _ => (blind_lift _).bind fun _ => ?_
    exact q.entries s _ _ hs (fun p hp => hkeys p (List.mem_cons_of_mem _ hp))
      fun p hp => hvalues p (List.mem_cons_of_mem _ hp)

theorem comparisons_succ (v : Value) {rest : List (CompareOp × Term)}
    (hrest : ∀ p ∈ rest, p.2.Within P) : Blind P (evalComparisons s (fuel + 1) v rest) := by
  unfold evalComparisons
  split
  · exact .pure _
  · refine (q.term s _ hs (hrest _ List.mem_cons_self)).bind fun _ => ?_
    refine (blind_compareCurrent q.keeps _ _ _ _ _).bind fun _ => ?_
    split
    · exact q.comparisons s _ _ hs fun p hp => hrest p (List.mem_cons_of_mem _ hp)
    · exact .pure _

theorem arguments_succ {a : Call Term} (ha : a.Within P) :
    Blind P (evalArguments s (fuel + 1) a) := by
  obtain ⟨hpositional, hnamed, hspread, hspreadNamed⟩ := ha
  unfold evalArguments
  refine (q.terms s _ hs hpositional).bind fun positional => ?_
  refine (q.terms s _ hs fun e he => ?_).bind fun values => ?_
  · obtain ⟨p, hp, rfl⟩ := List.mem_map.mp he
    exact hnamed p hp
  extract_lets named rest
  have spread (more : List Value) : Blind P (rest more) := by
    dsimp -zeta only [rest]
    extract_lets last
    have ended (moreNamed : List (String × Value)) : Blind P (last moreNamed) := .pure _
    split
    · refine (q.term s _ hs (hspreadNamed _ rfl)).bind fun _ => (blind_look _).bind fun _ => ?_
      exact (blind_lift _).bind ended
    · exact (Blind.pure _).bind ended
  split
  · next e heq =>
      refine (q.term s e hs (hspread e heq)).bind fun _ => ?_
      exact (blind_spreadItems q.keeps _ _ _).bind spread
  · exact (Blind.pure _).bind spread

theorem method_succ {owner : Term} (howner : owner.Within P) (name : String) {a : Call Term}
    (ha : a.Within P) : Blind P (evalMethod s (fuel + 1) owner name a) := by
  unfold evalMethod
  split
  · next b heq => exact (q.block s b _ hs (hs b (List.mem_of_find?_eq_some heq))).map _
  · refine (q.term s _ hs howner).bind fun _ => (blind_partOf q.keeps _ _ _ _).bind fun _ => ?_
    exact (q.arguments s _ hs ha).bind fun _ => q.value s _ _ hs

theorem value_succ (f : Value) (a : Value.Arguments) : Blind P (callValue s (fuel + 1) f a) := by
  unfold callValue
  split
  · refine Blind.read (fun m n h => by simp only [h.cells]) fun m hm => ?_
    split
    · next c heq =>
        cases hm _ _ heq with
        | closure hc => exact q.closure s c a hs hc
    · next l heq =>
        cases hm _ _ heq with
        | loop hl =>
            split
            · next again v _ hagain _ =>
                have ha : again.Within P := hl again hagain
                extract_lets src inner rest
                have repeated (u : Unit) : Blind P (rest u) :=
                  (q.loop inner again _ _ ha.surroundings ha).map _
                split
                · exact (Blind.throw _).bind repeated
                · exact repeated ()
            · exact .throw _
    · exact blind_callPlain q.keeps _ _ _ _
  · exact blind_callPlain q.keeps _ _ _ _

omit hs in
theorem closure_succ {c : Closure} (hc : c.Within P) (a : Value.Arguments) :
    Blind P (callClosure s (fuel + 1) c a) := by
  unfold callClosure
  extract_lets src rest
  have called (u : Unit) : Blind P (rest u) := by
    refine (blind_lift _).bind fun (bound, _) => ?_
    refine blind_inner ?_ [] fun inner hinner => ?_
    · exact hc.defined
    refine (q.defaults inner c bound hinner hc).bind fun _ => ?_
    exact (q.body inner _ _ hinner hc.body).map _
  split
  · exact (Blind.throw _).bind called
  · exact called ()

theorem defaults_succ {c : Closure} (hc : c.Within P) (bound : List (String × Option Value)) :
    Blind P (bindDefaults s (fuel + 1) c bound) := by
  unfold bindDefaults
  split
  · exact .pure _
  · exact (blind_assign s _ _).bind fun _ => q.defaults s c _ hs hc
  · next name _ =>
      extract_lets rest
      have assigned (v : Value) : Blind P (rest v) :=
        (blind_assign s _ _).bind fun _ => q.defaults s c _ hs hc
      split
      · next e heq =>
          have he : e.Within P := by
            obtain ⟨front, back, hp, -⟩ := List.lookup_eq_some_iff.mp heq
            exact hc.parameters (name, some e) (by simp [hp]) e rfl
          exact (q.term s e hs he).bind assigned
      · exact (Blind.pure _).bind assigned

theorem body_succ {body : List Statement} (hbody : BodyWithin P body) (out : String) :
    Blind P (evalBody s (fuel + 1) body out) := by
  unfold evalBody
  split
  · exact .pure _
  · refine (q.statement s _ _ hs (hbody _ List.mem_cons_self)).bind fun _ => ?_
    exact q.body s _ _ hs fun st hst => hbody st (List.mem_cons_of_mem _ hst)

theorem printed_succ {es : List Term} (hes : ∀ e ∈ es, e.Within P) (out : String) :
    Blind P (evalPrinted s (fuel + 1) es out) := by
  unfold evalPrinted
  split
  · exact .pure _
  · refine (q.term s _ hs (hes _ List.mem_cons_self)).bind fun _ => ?_
    refine (blind_printed q.keeps _ _ _).bind fun _ => ?_
    exact q.printed s _ _ hs fun e he => hes e (List.mem_cons_of_mem _ he)

theorem branches_succ {branches : List (Term × List Statement)}
    (htests : ∀ b ∈ branches, b.1.Within P) (hbodies : ∀ b ∈ branches, BodyWithin P b.2)
    {otherwise : List Statement} (hotherwise : BodyWithin P otherwise) (out : String) :
    Blind P (evalBranches s (fuel + 1) branches otherwise out) := by
  unfold evalBranches
  split
  · exact q.body s _ _ hs hotherwise
  · refine (q.term s _ hs (htests _ List.mem_cons_self)).bind fun _ => ?_
    refine (blind_holds _).bind fun _ => ?_
    split
    · exact q.body s _ _ hs (hbodies _ List.mem_cons_self)
    · exact q.branches s _ _ _ hs (fun b hb => htests b (List.mem_cons_of_mem _ hb))
        (fun b hb => hbodies b (List.mem_cons_of_mem _ hb)) hotherwise

theorem block_succ {b : Block} (hb : BodyWithin P b.body) (out : String) :
    Blind P (evalBlock s (fuel + 1) b out) := by
  unfold evalBlock
  extract_lets quoted parent scopes rest next'
  have written (u : Unit) : Blind P (rest u) :=
    blind_inner (by exact hs) _ fun inner hinner => q.body inner _ _ hinner hb
  have checked (u : Unit) : Blind P (next' u) := by
    dsimp only [next']
    split
    · exact (Blind.throw _).bind written
    · exact written ()
  split
  · exact (Blind.throw _).bind checked
  · exact checked ()

theorem loop_succ {again : LoopBody} (ha : again.Within P) (source : Nat × Value) (out : String) :
    Blind P (evalLoop s (fuel + 1) again source out) := by
  unfold evalLoop
  extract_lets again' rest
  have ha' : again'.Within P := ⟨ha.place, ha.test, ha.body, ha.otherwise, hs⟩
  have looped (items : Value) : Blind P (rest items) := by
    refine (blind_courseOf _).bind fun _ => ?_
    extract_lets l
    have hl : ∀ b ∈ l.again, LoopBody.Within P b := by
      intro b hb
      by_cases hr : again'.recursive = true
      · simp only [l, LoopState.start, if_pos hr, Option.mem_some] at hb
        exact hb ▸ ha'
      · simp only [l, LoopState.start, if_neg hr, Option.not_mem_none] at hb
    refine (blind_newCell (.loop hl)).bind fun place => ?_
    refine (q.items s again' place _ hs ha').bind fun _ => ?_
    refine blind_loopAt? place fun l? _ => ?_
    cases l? with
    | none => exact .pure _
    | some l =>
        dsimp only
        split
        · exact blind_inner hs [] fun inner hinner => q.body inner _ _ hinner ha'.otherwise
        · exact .pure _
  split
  · exact (blind_newStream _ (.chosen ha') _).bind looped
  · exact (Blind.pure _).bind looped

theorem items_succ {again : LoopBody} (ha : again.Within P) (place : Nat) (out : String) :
    Blind P (evalItems s (fuel + 1) again place out) := by
  unfold evalItems
  refine blind_loopAt? place fun l? hl => ?_
  cases l? with
  | none => exact .pure _
  | some l =>
      refine (blind_takeItem q.keeps _ _ place (hl l rfl)).bind fun x? => ?_
      cases x? with
      | none => exact .pure _
      | some x =>
          refine blind_inner hs _ fun inner hinner => ?_
          refine (blind_assignTo q.keeps fuel inner _ ha.place x).bind fun _ => ?_
          refine (q.body inner _ _ hinner ha.body).bind fun _ => ?_
          exact q.items s again place _ hs ha

theorem statement_succ {st : Statement} (hst : st.Within P) (out : String) :
    Blind P (evalStatement s (fuel + 1) st out) := by
  unfold evalStatement
  cases hst with
  | text t => exact .pure _
  | print hitems => exact q.printed s _ _ hs hitems
  | forEach recursive hplace hsource htest hbody hotherwise =>
      refine (q.term s _ hs hsource).bind fun _ => ?_
      exact q.loop s _ _ _ hs ⟨hplace, htest, hbody, hotherwise, hs⟩
  | cond htests hbodies hotherwise => exact q.branches s _ _ _ hs htests hbodies hotherwise
  | within hplaces hvalues hbody =>
      refine (q.terms s _ hs fun e he => ?_).bind fun values => ?_
      · obtain ⟨b, hb, rfl⟩ := List.mem_map.mp he
        exact hvalues b hb
      refine blind_inner hs [] fun inner hinner => ?_
      refine (Blind.forM _ fun (place, v) hm => ?_).bind fun _ => q.body inner _ _ hinner hbody
      obtain ⟨b, hb, rfl⟩ := List.mem_map.mp (List.of_mem_zip hm).1
      exact blind_assignTo q.keeps fuel inner _ (hplaces b hb) v
  | escaping hon hbody =>
      refine (q.term s _ hs hon).bind fun _ => (blind_holds _).bind fun b => ?_
      exact blind_inner hs [] fun inner hinner => q.body _ _ _ hinner hbody
  | block name inherits required line hbody => exact q.block s _ _ hs hbody
  | defineMacro name line hparameters hbody =>
      refine (blind_newCell ?_).bind fun _ => (blind_assign s _ _).bind fun _ => .pure _
      exact .closure ⟨hparameters, hbody, hs⟩
  | callWith line hparameters hcallee ha hbody =>
      refine (blind_newCell ?_).bind fun _ => ?_
      · exact .closure ⟨hparameters, hbody, hs⟩
      refine (q.term s _ hs hcallee).bind fun f => (q.arguments s _ hs ha).bind fun a => ?_
      exact (q.value s f _ hs).bind fun _ => (blind_printed q.keeps _ _ _).map _
  | filtered hfilter hbody =>
      refine blind_inner hs [] fun inner hinner => ?_
      refine (q.body inner _ _ hinner hbody).bind fun text => ?_
      refine (q.term _ _ ?_ hfilter).bind fun _ => (blind_printed q.keeps _ _ _).map _
      exact hinner
  | assign hplace hvalue =>
      refine (q.term s _ hs hvalue).bind fun v => ?_
      exact (blind_assignTo q.keeps fuel s _ hplace v).bind fun _ => .pure _
  | assignText hplace hfilter hbody =>
      refine blind_inner hs [] fun inner hinner => ?_
      refine (q.body inner _ _ hinner hbody).bind fun text => ?_
      extract_lets v rest
      have assigned (w : Value) : Blind P (rest w) :=
        (blind_assignTo q.keeps fuel s _ hplace w).bind fun _ => .pure _
      split
      · refine (q.term _ _ ?_ (hfilter _ rfl)).bind assigned
        exact hinner
      · exact (Blind.pure _).bind assigned
  | load htemplate =>
      refine (q.term s _ hs htemplate).bind fun _ => (blind_lift _).bind fun _ => .throw _

omit hs in
theorem keeps_succ : JudgeBlind P (Template.keeps (fuel + 1)) := by
  intro again x ha
  unfold Template.keeps
  split
  · exact .pure _
  · next test heq =>
      refine blind_inner ha.surroundings [] fun inner hinner => ?_
      refine (blind_assignTo q.keeps fuel inner _ ha.place x).bind fun _ => ?_
      exact (q.term inner test hinner (ha.test test heq)).bind fun _ => blind_holds _

end EvaluationBlind

/-- Evaluation in surroundings without other names is blind at every depth of calls. -/
theorem evaluation_blind (P : String -> Prop) (fuel : Nat) : EvaluationBlind P fuel := by
  induction fuel with
  | zero =>
      constructor <;> intros <;> first | exact .throw tooDeep | exact fun _ _ _ => .throw tooDeep
  | succ fuel q =>
      exact {
        term := fun _ _ hs he => q.term_succ hs he
        terms := fun _ _ hs hes => q.terms_succ hs hes
        optional := fun _ _ hs ho => q.optional_succ hs ho
        entries := fun _ acc _ hs hk hv => q.entries_succ hs acc hk hv
        comparisons := fun _ v _ hs hrest => q.comparisons_succ hs v hrest
        arguments := fun _ _ hs ha => q.arguments_succ hs ha
        method := fun _ _ name _ hs howner ha => q.method_succ hs howner name ha
        value := fun _ f a hs => q.value_succ hs f a
        closure := fun s _ a _ hc => q.closure_succ hc a
        defaults := fun _ _ bound hs hc => q.defaults_succ hs hc bound
        body := fun _ _ out hs hbody => q.body_succ hs hbody out
        printed := fun _ _ out hs hes => q.printed_succ hs hes out
        statement := fun _ _ out hs hst => q.statement_succ hs hst out
        branches := fun _ _ _ out hs ht hb ho => q.branches_succ hs ht hb ho out
        block := fun _ _ out hs hb => q.block_succ hs hb out
        loop := fun _ _ source out hs ha => q.loop_succ hs ha source out
        keeps := q.keeps_succ
        items := fun _ _ place out hs ha => q.items_succ hs ha place out }

theorem lookup_seenVariables (values : List (String × Value)) (id : String) :
    (seenVariables values).lookup id = if id = "self" then none else values.lookup id := by
  induction values with
  | nil => simp [seenVariables]
  | cons e rest ih =>
      obtain ⟨name, v⟩ := e
      unfold seenVariables at ih ⊢
      grind [List.lookup_cons]

/-- A template that does not name what is hidden gives the same text whatever it is. -/
theorem render_alike {name source : String} {values others : List (String × Value)}
    (alike : AlikeBut name values others)
    (h : ∀ body, compile source = .ok body -> BodyWithin (· ≠ name) body) :
    render source values = render source others := by
  funext o
  unfold render
  cases hc : compile source with
  | error f => rfl
  | ok body =>
      have hbody := h body hc
      obtain ⟨s, t, p, hs, ht, names⟩ := alike.ownVariables o
      have start : Memory.Alike (· ≠ name) ⟨#[seenVariables s, []], #[], p⟩
          ⟨#[seenVariables t, []], #[], p⟩ := by
        refine ⟨rfl, rfl, rfl, ?_, fun _ _ hc => by simp at hc⟩
        intro place id hid
        match place with
        | 0 => simp [lookup_seenVariables, names.lookup hid]
        | 1 => simp
        | place + 2 => simp
      have written := (evaluation_blind (· ≠ name) (renderFuel source)).body
        ⟨[1, 0], false, blocksOf (source.length + 8) body, 0, .null⟩ body ""
        (blocksOf_within _ hbody) hbody _ _ start
      simp only [renderBody, Bind.bind, EStateM.bind, hs, ht]
      generalize evalBody _ _ body "" ⟨#[seenVariables s, []], #[], p⟩ = r at written
      generalize evalBody _ _ body "" ⟨#[seenVariables t, []], #[], p⟩ = u at written
      cases written with
      | ok out h => simp only [h.objects]
      | error f h => simp only [h.objects]

end Template

end Workflow
