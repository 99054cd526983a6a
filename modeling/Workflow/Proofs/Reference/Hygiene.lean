import Workflow.Proofs.Execution.Isolation
import Workflow.Proofs.Expr.Absence
import Workflow.Proofs.Expr.Unknown
import Workflow.Proofs.Reference.Literals

/-!
# Which names an expression loses to its tokens

Each token gets a name that says its place, with as few underscores as keep it apart from
the names of the scope.  A name of the expression that nothing knows stays unknown, unless
it is one of these.
-/

namespace Workflow

open Value (field? putField)

namespace Reference

/-! ## The names for tokens -/

/-- The name for the value in a place, with some underscores behind it. -/
def tokenName (place underscores : Nat) : String :=
  s!"token_{place}" ++ String.ofList (List.replicate underscores '_')

theorem tokenName_zero (place : Nat) : tokenName place 0 = s!"token_{place}" := by
  rw [tokenName, List.replicate_zero, String.ofList_nil, String.append_empty]

theorem tokenName_succ (place underscores : Nat) :
    tokenName place (underscores + 1) = tokenName place underscores ++ "_" := by
  rw [tokenName, tokenName, List.replicate_succ', String.ofList_append, ← String.append_assoc]

/-- The digits of a name for a token end at its underscores. -/
theorem tokenName_injective {i j k l : Nat} (h : tokenName i k = tokenName j l) : i = j := by
  have read (place underscores : Nat) : Nat.ofDigitChars 10
      (((tokenName place underscores).toList.drop 6).takeWhile Char.isDigit) 0 = place := by
    have digits : ∀ c ∈ Nat.toDigits 10 place, c.isDigit := fun c hc =>
      Nat.isDigit_of_mem_toDigits (by decide) (by decide) hc
    have written : (tokenName place underscores).toList.drop 6 =
        Nat.toDigits 10 place ++ List.replicate underscores '_' := by
      rw [tokenName, String.toList_append, String.toList_append, String.toList_ofList]
      exact congrArg (· ++ List.replicate underscores '_') Nat.toList_repr
    have ended : (List.replicate underscores '_').takeWhile Char.isDigit = [] := by
      cases underscores <;> rfl
    rw [written, List.takeWhile_append_of_pos digits, ended, List.append_nil,
      Nat.ofDigitChars_ten_toDigits]
  rw [← read i k, h, read j l]

/-- A name for a token is free, and those with fewer underscores are not. -/
structure FirstFree (reserved : List String) (place underscores : Nat) : Prop where
  free : tokenName place underscores ∉ reserved
  taken : ∀ fewer < underscores, tokenName place fewer ∈ reserved

theorem FirstFree.unique {reserved : List String} {place k l : Nat}
    (hk : FirstFree reserved place k) (hl : FirstFree reserved place l) : k = l := by
  rcases Nat.lt_trichotomy k l with less | same | more
  · exact absurd (hl.taken k less) hk.free
  · exact same
  · exact absurd (hk.taken l more) hl.free

/-- Underscores are added only to names that are taken. -/
theorem freeName_tokenName (taken : List String) (place k n : Nat) :
    ∃ l, freeName taken n (tokenName place k) = tokenName place l ∧
      ∀ m, k ≤ m -> m < l -> tokenName place m ∈ taken := by
  induction n generalizing k with
  | zero => exact ⟨k, rfl, fun m low high => absurd high (by omega)⟩
  | succ n ih =>
      unfold freeName
      split
      · next inside =>
          obtain ⟨l, free, rest⟩ := ih (k + 1)
          refine ⟨l, by rw [← tokenName_succ, free], fun m low high => ?_⟩
          rcases Nat.eq_or_lt_of_le low with rfl | above
          · exact List.contains_iff_mem.mp inside
          · exact rest m above high
      · exact ⟨k, rfl, fun m low high => absurd high (by omega)⟩

/-- The names for some values: one for each place, the first one that is free. -/
theorem mem_newNames_iff {reserved : List String} {n : Nat} {name : String} :
    name ∈ newNames reserved n ↔
      ∃ place < n, ∃ k, name = tokenName place k ∧ FirstFree reserved place k := by
  induction n generalizing name with
  | zero => exact ⟨nofun, fun ⟨_, below, _⟩ => absurd below (Nat.not_lt_zero _)⟩
  | succ n ih =>
      -- a name for an earlier place is no name for this one
      have apart (l : Nat) : tokenName n l ∉ newNames reserved n := fun inside => by
        obtain ⟨place, below, k, same, -⟩ := ih.mp inside
        exact absurd (tokenName_injective same) (by omega)
      have outside := next_not_mem reserved (newNames reserved n) s!"token_{n}"
      obtain ⟨l, chosen, skipped⟩ := freeName_tokenName (reserved ++ newNames reserved n) n 0
        ((reserved ++ newNames reserved n).length + 1)
      rw [tokenName_zero] at chosen
      have first : FirstFree reserved n l := by
        rw [chosen] at outside
        refine ⟨fun inside => outside (List.mem_append_left _ inside), fun m below => ?_⟩
        exact (List.mem_append.mp (skipped m (Nat.zero_le m) below)).resolve_right (apart m)
      rw [newNames, List.mem_append, List.mem_singleton, chosen, ih]
      constructor
      · rintro (⟨place, below, k, rfl, free⟩ | rfl)
        · exact ⟨place, Nat.lt_succ_of_lt below, k, rfl, free⟩
        · exact ⟨n, Nat.lt_succ_self n, l, rfl, first⟩
      · rintro ⟨place, below, k, rfl, free⟩
        rcases Nat.lt_succ_iff_lt_or_eq.mp below with earlier | rfl
        · exact .inl ⟨place, earlier, k, rfl, free⟩
        · exact .inr (by rw [free.unique first])

end Reference

/-! ## Names that nothing knows -/

namespace Condition

open Reference

/-- The names that a condition may read without a token. -/
def knownNames (scope : List (Value × Value)) : List String :=
  scope.filterMap fun (k, _) => k.asText?

variable {σ : Type} {text : String} {scope other : List (Value × Value)} {b : Bound}
  {w : World σ}

/-- Of two scopes that one name tells apart, the name tells apart what is bound over them. -/
theorem supplies_bindOver {name : String} (unbound : field? scope name = none)
    (plain : Expr.callable? name = none) (fresh : name ∉ b.names) (v : Value) :
    Expr.Supplies name (bindOver scope b.values) (bindOver (putField scope name v) b.values) where
  unbound := by rw [field?_bindOver_of_not_mem fresh, unbound]
  plain := plain
  agree := by
    have agree : Expr.AgreeOn (· ≠ name) scope (putField scope name v) := fun read hr =>
      (Value.field?_putField_of_ne scope v (Ne.symm hr)).symm
    exact fun read hr => (agree.overlay b.values) read (.inl hr)

/-- The warning on a condition that reads a name which nothing knows. -/
def unknownWarning (text : String) (b : Bound) (name : String) : String :=
  missingWarning text (Expr.Failure.message (String.ofList b.text) (.fault (.unknownName name)))

/-- A condition reads a name that nothing knows and is false, or a value would change nothing. -/
theorem decideBound_unknown {name : String}
    (h : Expr.Supplies name (bindOver scope b.values) (bindOver other b.values)) :
    decideBound text scope b w = decideBound text other b w ∨
      ∃ objects, decideBound text scope b w =
        .ok false { w.logged .warning (unknownWarning text b name) with objects } := by
  unfold decideBound
  cases b.missing with
  | cons path rest => exact .inl rfl
  | nil =>
      simp only [Bind.bind, EStateM.bind, Run.tried, Expression.evaluateBool, Expression.evaluate]
      rcases Expr.evaluate_unknown h (String.ofList b.text) w.objects with same | ⟨o, stopped⟩
      · rw [same]
        exact .inl rfl
      · rw [stopped]
        exact .inr ⟨o, rfl⟩

section Decide

variable {c : Context} {name : String} {g : Fresh}
  (visible : (Text.strip text).isEmpty = false)
  (bound : Reference.bind (.dict (c.current w.objects).scope)
    (knownNames (c.current w.objects).conditionScope) text w.fresh = .ok b g)
include visible bound

theorem decide_of_bound : decide c (.str text) w =
    decideBound text (c.current w.objects).conditionScope b { w with fresh := g } := by
  have here : (get : Run σ (World σ)) w = .ok w w := rfl
  simp only [knownNames] at bound
  simp only [decide, visible, Bool.false_eq_true, if_false, Bind.bind, EStateM.bind, here,
    Run.resolving, bound]

/--
Which names of a condition are lost to its tokens.  A name that nothing knows is bound to
the value of a token exactly when it is the first free name for the place of one of the
tokens.  Every other one stays unknown: a value for it changes nothing, or the condition
is false and the log says that the name is not defined.
-/
theorem decide_unknown (unbound : field? (c.current w.objects).conditionScope name = none)
    (plain : Expr.callable? name = none) :
    (name ∈ b.names ↔ ∃ place < (boundParts (.dict (c.current w.objects).scope)
        (parts text.toList)).length, ∃ k, name = tokenName place k ∧
          FirstFree (knownNames (c.current w.objects).conditionScope) place k) ∧
      (∀ v, (name, v) ∈ b.values ->
        field? (bindOver (c.current w.objects).conditionScope b.values) name = some v) ∧
      (name ∉ b.names -> ∀ v,
        decide c (.str text) w = decideBound text
            (putField (c.current w.objects).conditionScope name v) b { w with fresh := g } ∨
          ∃ objects, decide c (.str text) w = .ok false
            { w.logged .warning (unknownWarning text b name) with fresh := g, objects }) := by
  have binds := bind_binds bound
  refine ⟨?_, fun v carried => ?_, fun fresh v => ?_⟩
  · rw [binds.names]
    exact mem_newNames_iff
  · have distinct : b.names.Nodup := binds.names ▸ nodup_newNames ..
    exact field?_bindOver_of_mem distinct carried
  · rw [decide_of_bound visible bound]
    exact decideBound_unknown (supplies_bindOver unbound plain fresh v)

end Decide

/-- A name that nothing knows, and a token. -/
def unknownFirst : String :=
  "nope and \x7b\x7b inputs.x \x7d\x7d"

/-- The name of the first token, and a token. -/
def tokenFirst : String :=
  "token_0 and \x7b\x7b inputs.x \x7d\x7d"

theorem bind_unknownFirst : Reference.bind (.dict (fetched.current still.objects).scope)
    (knownNames (fetched.current still.objects).conditionScope) unknownFirst still.fresh =
      .ok ⟨"nope and token_0".toList, [("token_0", .int 1)], []⟩ still.fresh := by
  have cut : parts unknownFirst.toList =
      "nope and ".toList.map .char ++ [.token " inputs.x ".toList] := by decide +kernel
  rw [Reference.bind, cut]
  rfl

/-- The answer of a condition, if it has one. -/
def answer? (r : EStateM.Result Raised (World Unit) Bool) : Option Bool :=
  match r with
  | .ok b _ => some b
  | .error _ _ => none

/-- A value for the name would make the condition true, so it is the name that makes it false. -/
theorem decide_unknown_first : ∃ objects, decide fetched (.str unknownFirst) still =
    .ok false { still.logged .warning (unknownWarning unknownFirst
      ⟨"nope and token_0".toList, [("token_0", .int 1)], []⟩ "nope") with objects } := by
  have supplied : answer? (decideBound unknownFirst
      (putField (fetched.current still.objects).conditionScope "nope" (.bool true))
      ⟨"nope and token_0".toList, [("token_0", .int 1)], []⟩ still) = some true := by
    decide +kernel
  have denied : answer? (decide fetched (.str unknownFirst) still) = some false := by
    decide +kernel
  have visible : (Text.strip unknownFirst).isEmpty = false := by decide +kernel
  have unbound : field? (fetched.current still.objects).conditionScope "nope" = none := rfl
  obtain ⟨-, -, unknown⟩ := decide_unknown visible bind_unknownFirst unbound rfl
  rcases unknown (by decide) (.bool true) with same | stopped
  · rw [same, supplied] at denied
    cases denied
  · exact stopped

/-- A name of the condition that nothing knows is taken for the token, and makes it true. -/
theorem decide_captured :
    lexemes false tokenFirst.toList =
        "token_0 and ".toList.map .char ++ [.token " inputs.x ".toList] ∧
      field? (fetched.current still.objects).conditionScope "token_0" = none ∧
      Expr.callable? "token_0" = none ∧
      (∃ b g, Reference.bind (.dict (fetched.current still.objects).scope)
          (knownNames (fetched.current still.objects).conditionScope) tokenFirst still.fresh =
            .ok b g ∧ "token_0" ∈ b.names) ∧
      ∃ after, decide fetched (.str tokenFirst) still = .ok true after := by
  have cut : parts tokenFirst.toList =
      "token_0 and ".toList.map .char ++ [.token " inputs.x ".toList] := by decide +kernel
  have held : answer? (decide fetched (.str tokenFirst) still) = some true := by decide +kernel
  refine ⟨by decide +kernel, rfl, rfl, ?_, ?_⟩
  · refine ⟨⟨"token_0 and token_0".toList, [("token_0", .int 1)], []⟩, still.fresh, ?_,
      by decide⟩
    rw [Reference.bind, cut]
    rfl
  · cases ended : decide fetched (.str tokenFirst) still with
    | ok b after =>
        rw [ended] at held
        cases held
        exact ⟨after, rfl⟩
    | error e after =>
        rw [ended] at held
        cases held

end Condition

end Workflow
