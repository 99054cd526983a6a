import Mathlib.Data.List.TakeDrop
import Workflow.Expr.Token
import Workflow.Proofs.Text.Occurrence

/-!
# The names in the text of an expression

A name stands in the text as a run of characters, which it is the normal form of.  What
the lexer has not read is an end of what it was given, so all tokens come from the text.
-/

namespace Workflow

namespace Reading

variable {P : String -> Prop} {cs rest : List Char}

/-- The names that runs of characters in a text stand for are within a set. -/
def RunsWithin (P : String -> Prop) (cs : List Char) : Prop :=
  ∀ run, run <:+: cs -> run.all Text.isIdentifierPart -> P (String.ofList (Text.normalName run))

namespace RunsWithin

theorem of_stretch {part : List Char} (h : RunsWithin P cs) (hi : part <:+: cs) :
    RunsWithin P part :=
  fun run hr => h run (hr.trans hi)

theorem of_suffix (h : RunsWithin P cs) (hs : rest <:+ cs) : RunsWithin P rest :=
  h.of_stretch hs.isInfix

/-- A character that is no part of a name ends the run before it and begins none. -/
theorem cons (h : RunsWithin P cs) {c : Char} (hc : Text.isIdentifierPart c = false) :
    RunsWithin P (c :: cs) := by
  intro run hr part
  rcases List.infix_cons_iff.mp hr with hp | hr
  · cases run with
    | nil => exact h [] List.nil_infix part
    | cons d run =>
        obtain ⟨rfl, -⟩ := List.cons_prefix_cons.mp hp
        simp [hc] at part
  · exact h run hr part

theorem concat (h : RunsWithin P cs) {c : Char} (hc : Text.isIdentifierPart c = false) :
    RunsWithin P (cs ++ [c]) := by
  intro run hr part
  rcases List.infix_concat_iff.mp hr with hs | hr
  · rcases List.suffix_concat_iff.mp hs with rfl | ⟨front, rfl, -⟩
    · exact h [] List.nil_infix part
    · simp [hc] at part
  · exact h run hr part

/-- In a text of plain letters a name is its own normal form. -/
theorem of_lacks {word text : String} (h : Text.Lacks word text)
    (plain : text.toList.all fun c => c.toNat < 128) : RunsWithin (· ≠ word) text.toList := by
  intro run hr _
  have same : Text.normalName run = run :=
    if_pos (List.all_eq_true.mpr fun c hc => List.all_eq_true.mp plain c (hr.subset hc))
  rw [same]
  exact h.ne_of_stretch hr

end RunsWithin

/-! ## Line ends -/

theorem unifyLineEnds_front {run : List Char} (hr : '\n' ∉ run) (cs : List Char)
    (h : run <+: unifyLineEnds cs) : run <+: cs := by
  induction run generalizing cs with
  | nil => exact List.nil_prefix
  | cons d run ih =>
      have here : d ≠ '\n' := fun hd => hr (hd ▸ List.mem_cons_self)
      have later : '\n' ∉ run := fun hm => hr (List.mem_cons_of_mem d hm)
      unfold unifyLineEnds at h
      split at h
      · exact absurd (List.cons_prefix_cons.mp h).1 here
      · exact absurd (List.cons_prefix_cons.mp h).1 here
      · next c tail _ _ =>
          obtain ⟨rfl, ht⟩ := List.cons_prefix_cons.mp h
          exact List.cons_prefix_cons.mpr ⟨rfl, ih later tail ht⟩
      · cases List.prefix_nil.mp h

/-- A stretch without line ends stands in the text as it was. -/
theorem unifyLineEnds_stretch {run : List Char} (hr : '\n' ∉ run) (cs : List Char)
    (h : run <:+: unifyLineEnds cs) : run <:+: cs := by
  have front (cs : List Char) (hp : run <+: unifyLineEnds cs) : run <:+: cs :=
    (unifyLineEnds_front hr cs hp).isInfix
  fun_induction unifyLineEnds cs with
  | case1 tail ih =>
      rcases List.infix_cons_iff.mp h with hp | hi
      · exact front _ hp
      · exact (ih hi).trans (List.suffix_append ['\r', '\n'] tail).isInfix
  | case2 tail hn ih =>
      rcases List.infix_cons_iff.mp h with hp | hi
      · refine front ('\r' :: tail) ?_
        rwa [unifyLineEnds]
        exact hn
      · exact (ih hi).trans (List.suffix_cons ..).isInfix
  | case3 c tail h₁ h₂ ih =>
      rcases List.infix_cons_iff.mp h with hp | hi
      · refine front (c :: tail) ?_
        rwa [unifyLineEnds]
        · exact h₁
        · exact h₂
      · exact (ih hi).trans (List.suffix_cons ..).isInfix
  | case4 => exact h

/-! ## Numbers -/

theorem span_suffix (p : Char -> Bool) (cs : List Char) : (cs.span p).2 <:+ cs := by
  rw [List.span_eq_takeWhile_dropWhile]
  exact List.dropWhile_suffix p

theorem splitSign_suffix (cs : List Char) : (Number.splitSign cs).2 <:+ cs := by
  unfold Number.splitSign
  split
  · exact List.suffix_cons ..
  · exact List.suffix_cons ..
  · exact List.suffix_rfl

theorem readBased_suffix {base : Nat} {v : Value} (h : readBased base cs = some (v, rest)) :
    rest <:+ cs := by
  have left : (spanBase base cs).2 <:+ cs := span_suffix _ cs
  unfold readBased at h
  dsimp only at h
  split at h
  · split at h <;> cases h
    exact left
  · cases h

theorem readExponent_suffix {e : Option (Bool × List Char)}
    (h : readExponent cs = some (e, rest)) : rest <:+ cs := by
  unfold readExponent at h
  split at h
  · next c tail =>
      have left : (spanBase 10 (Number.splitSign tail).2).2 <:+ c :: tail :=
        ((span_suffix _ _).trans (splitSign_suffix tail)).trans (List.suffix_cons c tail)
      dsimp only at h
      split at h
      · split at h
        · split at h <;> cases h
          exact List.suffix_rfl
        · split at h <;> cases h
          exact left
      · cases h
        exact List.suffix_rfl
  · cases h
    exact List.suffix_rfl

theorem readDecimal_suffix {v : Value} (h : readDecimal cs = some (v, rest)) : rest <:+ cs := by
  have whole : (spanBase 10 cs).2 <:+ cs := span_suffix _ cs
  unfold readDecimal at h
  dsimp only at h
  obtain ⟨-, h⟩ := Option.ite_none_left_eq_some.mp h
  obtain ⟨⟨exponent, tail⟩, he, h⟩ := Option.bind_eq_some_iff.mp h
  have left : tail <:+ cs := by
    refine (readExponent_suffix he).trans ?_
    split
    · next more heq =>
        rw [heq] at whole
        exact ((span_suffix _ more).trans (List.suffix_cons '.' more)).trans whole
    · exact whole
  have last (imaginary : Bool) : (if imaginary then tail.drop 1 else tail) <:+ cs := by
    split
    · exact (List.drop_suffix 1 tail).trans left
    · exact left
  dsimp only at h
  obtain ⟨-, h⟩ := Option.ite_none_left_eq_some.mp h
  rcases ite_eq_iff.mp h with ⟨-, h⟩ | ⟨-, h⟩
  · obtain ⟨n, -, h⟩ := Option.bind_eq_some_iff.mp h
    obtain ⟨-, h⟩ := Option.ite_none_left_eq_some.mp h
    obtain ⟨-, h⟩ := Option.ite_none_left_eq_some.mp h
    cases h
    exact last _
  · cases h
    exact last _

theorem readNumber_suffix {v : Value} (h : readNumber cs = some (v, rest)) : rest <:+ cs := by
  unfold readNumber at h
  split at h
  · next m tail =>
      have inner : tail <:+ '0' :: m :: tail := List.suffix_append ['0', m] tail
      split at h
      · exact (readBased_suffix h).trans inner
      · split at h
        · exact (readBased_suffix h).trans inner
        · split at h
          · exact (readBased_suffix h).trans inner
          · exact readDecimal_suffix h
  · exact readDecimal_suffix h

/-! ## Texts -/

theorem spanText_splits (quote : Char) (triple : Bool) (cs : List Char) :
    Text.Splits cs (spanText quote triple cs) := by
  fun_induction spanText quote triple cs with
  | case1 => exact .none
  | case2 c tail ih => exact ih.append ['\\', c]
  | case3 c _ _ a b more => exact .nil (List.suffix_append [c, a, b] more)
  | case4 c _ _ a b more _ _ ih => exact ih.cons c
  | case5 => exact .none
  | case6 c tail => exact .nil (List.suffix_cons c tail)
  | case7 => exact .none
  | case8 c tail _ _ _ ih => exact ih.cons c

/-! ## Tokens -/

/-- The names that a token may bring into an expression are within a set. -/
def Token.Within (P : String -> Prop) : Token -> Prop
  | .name s => P s
  | .template _ body => RunsWithin P body
  | _ => True

/-- All tokens have their names within a set. -/
def TokensWithin (P : String -> Prop) (ts : List Token) : Prop :=
  ∀ t ∈ ts, t.Within P

namespace TokensWithin

variable {t : Token} {ts : List Token}

theorem cons (ht : t.Within P) (h : TokensWithin P ts) : TokensWithin P (t :: ts) :=
  List.forall_mem_cons.mpr ⟨ht, h⟩

theorem head (h : TokensWithin P (t :: ts)) : t.Within P :=
  h t List.mem_cons_self

theorem tail (h : TokensWithin P (t :: ts)) : TokensWithin P ts :=
  fun u hu => h u (List.mem_cons_of_mem t hu)

end TokensWithin

theorem textToken_within (k : TextKind) {body : List Char} {t : Token} (h : RunsWithin P body)
    (ht : textToken k body = some t) : t.Within P := by
  unfold textToken at ht
  split at ht
  · cases ht
    exact h
  · split at ht
    · split at ht
      · cases ht
      · obtain ⟨cs, -, ht⟩ := Option.map_eq_some_iff.mp ht
        cases ht
        trivial
    · obtain ⟨cs, -, ht⟩ := Option.map_eq_some_iff.mp ht
      cases ht
      trivial

theorem readBody_within {k : TextKind} {t : Token} (h : RunsWithin P cs) {tail : List Char}
    {split : Option (List Char × List Char)} (inner : tail <:+ cs) (hs : Text.Splits tail split)
    (ht : (split >>= fun (body, rest) => do some ((<- textToken k body), rest)) = some (t, rest)) :
    t.Within P ∧ rest <:+ cs := by
  obtain ⟨⟨body, back⟩, hb, ht⟩ := Option.bind_eq_some_iff.mp ht
  obtain ⟨u, hu, ht⟩ := Option.bind_eq_some_iff.mp ht
  cases ht
  obtain ⟨front, left⟩ := hs body rest hb
  have within := h.of_stretch (front.isInfix.trans inner.isInfix)
  exact ⟨textToken_within k within hu, left.trans inner⟩

theorem readText_within {k : TextKind} {t : Token} (h : RunsWithin P cs)
    (ht : readText k cs = some (t, rest)) : t.Within P ∧ rest <:+ cs := by
  unfold readText at ht
  split at ht
  · next q a b more =>
      rcases ite_eq_iff.mp ht with ⟨-, ht⟩ | ⟨-, ht⟩
      · exact readBody_within h (List.suffix_append [q, a, b] more) (spanText_splits q true more) ht
      · exact readBody_within h (List.suffix_cons q _) (spanText_splits q false _) ht
  · next q tail _ =>
      exact readBody_within h (List.suffix_cons q tail) (spanText_splits q false tail) ht
  · cases ht

theorem indentation_suffix (column : Nat) (cs : List Char) : (indentation column cs).2 <:+ cs := by
  fun_induction indentation column cs with
  | case1 column tail ih => exact ih.trans (List.suffix_cons ..)
  | case2 column tail ih => exact ih.trans (List.suffix_cons ..)
  | case3 column tail ih => exact ih.trans (List.suffix_cons ..)
  | case4 => exact List.suffix_rfl

theorem leaveBlocks_within (column : Nat) (indents : List Nat) :
    TokensWithin P (leaveBlocks column indents).1 := by
  induction indents with
  | nil => exact nofun
  | cons k more ih =>
      unfold leaveBlocks
      split
      · exact ih.cons trivial
      · exact nofun

theorem endTokens_within {layout : Layout} {ts : List Token} (h : endTokens layout = some ts) :
    TokensWithin P ts := by
  obtain ⟨-, h⟩ := Option.ite_none_left_eq_some.mp h
  cases h
  intro t ht
  rcases List.mem_append.mp ht with ht | ht
  · split at ht
    · cases List.mem_singleton.mp ht
      trivial
    · cases ht
  · obtain ⟨_, -, rfl⟩ := List.mem_map.mp ht
    trivial

/-- A lexer whose tokens have names from the text only. -/
def Lexes (P : String -> Prop) (go : Layout -> List Char -> Option (List Token)) : Prop :=
  ∀ layout cs ts, RunsWithin P cs -> go layout cs = some ts -> TokensWithin P ts

theorem lineTokens_within {go : Layout -> List Char -> Option (List Token)} (hgo : Lexes P go) :
    Lexes P (lineTokens go) := by
  intro layout cs ts h ht
  have after {layout : Layout} {t : Token} {tail : List Char} (inner : tail <:+ cs)
      (here : t.Within P) (ht : (go layout tail).map (t :: ·) = some ts) : TokensWithin P ts := by
    obtain ⟨us, hu, rfl⟩ := Option.map_eq_some_iff.mp ht
    exact (hgo _ _ us (h.of_suffix inner) hu).cons here
  unfold lineTokens at ht
  dsimp only at ht
  split at ht
  · exact endTokens_within ht
  · next tail =>
      have inner : tail <:+ '\n' :: tail := List.suffix_cons ..
      rcases ite_eq_iff.mp ht with ⟨-, ht⟩ | ⟨-, ht⟩
      · obtain ⟨us, hu, rfl⟩ := Option.map_eq_some_iff.mp ht
        have rest := hgo _ _ us (h.of_suffix inner) hu
        split
        · exact rest.cons trivial
        · exact rest
      · exact hgo _ _ ts (h.of_suffix inner) ht
  · next tail =>
      obtain ⟨-, ht⟩ := Option.ite_none_left_eq_some.mp ht
      exact hgo _ _ ts (h.of_suffix (List.suffix_append ['\\', '\n'] tail)) ht
  · next tail =>
      refine hgo _ _ ts (h.of_suffix ?_) ht
      exact (List.dropWhile_suffix _).trans (List.suffix_cons '#' tail)
  · next c tail _ _ _ =>
      rcases ite_eq_iff.mp ht with ⟨-, ht⟩ | ⟨-, ht⟩
      · exact hgo _ _ ts (h.of_suffix (List.suffix_cons c tail)) ht
      rcases ite_eq_iff.mp ht with ⟨-, ht⟩ | ⟨-, ht⟩
      · obtain ⟨⟨t, rest⟩, hr, ht⟩ := Option.bind_eq_some_iff.mp ht
        obtain ⟨here, inner⟩ := readText_within h hr
        exact after inner here ht
      rcases ite_eq_iff.mp ht with ⟨-, ht⟩ | ⟨-, ht⟩
      · have named :
            P (String.ofList (Text.normalName ((c :: tail).takeWhile Text.isIdentifierPart))) :=
          h _ (Text.takeWhile_stretch _ _) List.all_takeWhile
        have inner : (c :: tail).dropWhile Text.isIdentifierPart <:+ c :: tail :=
          List.dropWhile_suffix _
        split at ht
        · obtain ⟨⟨t, rest⟩, hr, ht⟩ := Option.bind_eq_some_iff.mp ht
          obtain ⟨here, left⟩ := readText_within (h.of_suffix inner) hr
          exact after (left.trans inner) here ht
        · exact after (t := .name _) inner named ht
      rcases ite_eq_iff.mp ht with ⟨-, ht⟩ | ⟨-, ht⟩
      · obtain ⟨⟨v, rest⟩, hr, ht⟩ := Option.bind_eq_some_iff.mp ht
        exact after (t := .number v) (readNumber_suffix hr) trivial ht
      split at ht
      · cases ht
      · next m _ =>
          obtain ⟨brackets, -, ht⟩ := Option.bind_eq_some_iff.mp ht
          exact after (t := .mark m) (List.drop_suffix _ _) trivial ht

theorem tokensFrom_within (fuel : Nat) : Lexes P (tokensFrom fuel) := by
  induction fuel with
  | zero => exact nofun
  | succ fuel ih =>
      intro layout cs ts h ht
      have inner : (indentation 0 cs).2 <:+ cs := indentation_suffix 0 cs
      unfold tokensFrom at ht
      rcases ite_eq_iff.mp ht with ⟨-, ht⟩ | ⟨-, ht⟩
      · dsimp only at ht
        have left {rest : List Char} (hr : rest <:+ (indentation 0 cs).2) : RunsWithin P rest :=
          h.of_suffix (hr.trans inner)
        split at ht
        · exact endTokens_within ht
        · next more heq => exact ih _ _ ts (left (heq ▸ List.suffix_cons ..)) ht
        · next more heq =>
            refine ih _ _ ts (left ?_) ht
            exact heq ▸ (List.dropWhile_suffix _).trans (List.suffix_cons ..)
        · rcases ite_eq_iff.mp ht with ⟨-, ht⟩ | ⟨-, ht⟩
          · obtain ⟨us, hu, rfl⟩ := Option.map_eq_some_iff.mp ht
            exact (lineTokens_within ih _ _ us (left List.suffix_rfl) hu).cons trivial
          · obtain ⟨-, ht⟩ := Option.ite_none_right_eq_some.mp ht
            obtain ⟨us, hu, rfl⟩ := Option.map_eq_some_iff.mp ht
            have later := lineTokens_within ih _ _ us (left List.suffix_rfl) hu
            intro t ht
            rcases List.mem_append.mp ht with ht | ht
            · exact leaveBlocks_within _ _ t ht
            · exact later t ht
      · exact lineTokens_within ih layout cs ts h ht

/-- The tokens of a text have the names that its runs of characters stand for. -/
theorem tokens?_within {ts : List Token} (h : RunsWithin P cs) (ht : tokens? cs = some ts) :
    TokensWithin P ts := by
  refine tokensFrom_within _ _ _ ts (fun run hr part => h run ?_ part) ht
  refine unifyLineEnds_stretch (fun hn => ?_) cs hr
  exact absurd (List.all_eq_true.mp part '\n' hn) (by decide)

end Reading

end Workflow
