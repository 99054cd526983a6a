import Workflow.Proofs.Expr.Token
import Workflow.Template.Token

/-!
# The names in the text of a template

A name stands in the text as it is.  What the lexer has not read is an end of what it was
given, so all names come from the text.
-/

namespace Workflow

namespace Template

variable {P : String -> Prop} {cs rest : List Char}

/-- The words in a text are within a set. -/
def WordsWithin (P : String -> Prop) (cs : List Char) : Prop :=
  ∀ word, word <:+: cs -> word.all isWordChar -> P (String.ofList word)

theorem WordsWithin.of_suffix (h : WordsWithin P cs) (hs : rest <:+ cs) : WordsWithin P rest :=
  fun word hw => h word (hw.trans hs.isInfix)

theorem unifyLineEnds_eq (cs : List Char) : unifyLineEnds cs = Reading.unifyLineEnds cs := by
  fun_induction unifyLineEnds cs with
  | case1 => rfl
  | case2 tail ih => rw [Reading.unifyLineEnds, ih]
  | case3 tail hn ih =>
      rw [Reading.unifyLineEnds, ih]
      exact hn
  | case4 c tail h₁ h₂ ih =>
      rw [Reading.unifyLineEnds, ih]
      · exact h₁
      · exact h₂

/-! ## Numbers -/

theorem after?_suffix {s : String} (h : after? s cs = some rest) : rest <:+ cs := by
  obtain ⟨-, h⟩ := Option.ite_none_right_eq_some.mp h
  cases h
  exact List.drop_suffix _ cs

theorem dropBlank_suffix (cs : List Char) : dropBlank cs <:+ cs :=
  List.dropWhile_suffix _

theorem spanGrouped_suffix (cs : List Char) : (spanGrouped cs).2 <:+ cs := by
  have go (taken cs : List Char) : (spanGrouped.go taken cs).2 <:+ cs := by
    fun_induction spanGrouped.go taken cs with
    | case1 taken d tail _ ih => exact ih.trans (List.suffix_append ['_', d] tail)
    | case2 => exact List.suffix_rfl
    | case3 taken d tail _ _ ih => exact ih.trans (List.suffix_cons d tail)
    | case4 => exact List.suffix_rfl
    | case5 => exact List.suffix_rfl
  unfold spanGrouped
  split
  · exact List.suffix_rfl
  · split
    · exact (go _ _).trans (List.suffix_cons ..)
    · exact List.suffix_rfl

theorem spanExponent?_suffix {negative : Bool} {digits : List Char}
    (h : spanExponent? cs = some (negative, digits, rest)) : rest <:+ cs := by
  unfold spanExponent? at h
  split at h
  · next e tail =>
      obtain ⟨-, h⟩ := Option.ite_none_right_eq_some.mp h
      have left := (spanGrouped_suffix (Number.splitSign tail).2).trans
        ((Reading.splitSign_suffix tail).trans (List.suffix_cons e tail))
      dsimp only at h
      split at h
      · cases h
      · next heq =>
          cases h
          rwa [heq] at left
  · cases h

theorem readFraction?_suffix {v : Value} (h : readFraction? cs = some (v, rest)) : rest <:+ cs := by
  have whole := spanGrouped_suffix cs
  unfold readFraction? at h
  dsimp only at h
  split at h
  · cases h
  · next tail _ heq =>
      rw [heq] at whole
      have inner : tail <:+ cs := (List.suffix_cons '.' tail).trans whole
      have fraction := (spanGrouped_suffix tail).trans inner
      split at h
      · cases h
      · next heq =>
          rw [heq] at fraction
          split at h
          · next he =>
              cases h
              exact (spanExponent?_suffix he).trans fraction
          · cases h
            exact fraction
  · next heq =>
      rw [heq] at whole
      obtain ⟨⟨negative, digits, back⟩, he, h⟩ := Option.map_eq_some_iff.mp h
      cases h
      exact (spanExponent?_suffix he).trans whole

theorem spanMarked_suffix (isDigit : Char -> Bool) (cs : List Char) :
    (spanMarked isDigit cs).2 <:+ cs := by
  fun_induction spanMarked isDigit cs with
  | case1 d tail _ _ _ heq ih =>
      rw [heq] at ih
      exact ih.trans (List.suffix_append ['_', d] tail)
  | case2 => exact List.suffix_rfl
  | case3 d tail _ _ _ _ heq ih =>
      rw [heq] at ih
      exact ih.trans (List.suffix_cons d tail)
  | case4 => exact List.suffix_rfl
  | case5 => exact List.suffix_rfl

theorem readMarked_suffix {tail : List Char} (base : Nat) (isDigit : Char -> Bool)
    {u : Value × List Char}
    (h : (match spanMarked isDigit tail with
      | ([], _) => none
      | (ds, rest) => some (digitsInt base ds, rest)) = some u) : u.2 <:+ tail := by
  have left := spanMarked_suffix isDigit tail
  split at h
  · cases h
  · next heq =>
      cases h
      rwa [heq] at left

theorem readWhole?_suffix {v : Value} (h : readWhole? cs = some (v, rest)) : rest <:+ cs := by
  unfold readWhole? at h
  dsimp only at h
  split at h
  · next m tail =>
      have inner : tail <:+ '0' :: m :: tail := List.suffix_append ['0', m] tail
      rw [Option.orElse_eq_or, Option.or_eq_some_iff] at h
      rcases h with h | ⟨-, h⟩
      · rcases ite_eq_iff.mp h with ⟨-, h⟩ | ⟨-, h⟩
        · exact (readMarked_suffix _ _ h).trans inner
        rcases ite_eq_iff.mp h with ⟨-, h⟩ | ⟨-, h⟩
        · exact (readMarked_suffix _ _ h).trans inner
        rcases ite_eq_iff.mp h with ⟨-, h⟩ | ⟨-, h⟩
        · exact (readMarked_suffix _ _ h).trans inner
        · cases h
      · cases h
        exact (spanMarked_suffix _ _).trans (List.suffix_cons '0' _)
  · cases h
    exact List.nil_suffix
  · next c tail _ _ =>
      obtain ⟨-, h⟩ := Option.ite_none_right_eq_some.mp h
      cases h
      exact (spanMarked_suffix _ tail).trans (List.suffix_cons c tail)
  · cases h

/-! ## Texts and marks -/

theorem spanQuoted_splits (quote : Char) (cs : List Char) :
    Text.Splits cs (spanQuoted quote cs) := by
  fun_induction spanQuoted quote cs with
  | case1 => exact .none
  | case2 c tail ih => exact ih.append ['\\', c]
  | case3 c tail => exact .nil (List.suffix_cons c tail)
  | case4 => exact .none
  | case5 c tail _ _ _ ih => exact ih.cons c

theorem insertionEnd?_suffix {closing : String} {plus : Bool}
    (h : insertionEnd? closing plus cs = some rest) : rest <:+ cs := by
  unfold insertionEnd? at h
  split at h
  · next ha =>
      cases h
      exact (dropBlank_suffix _).trans (after?_suffix ha)
  · split at h
    · rw [Option.orElse_eq_or, Option.or_eq_some_iff] at h
      rcases h with h | ⟨-, h⟩
      · exact after?_suffix h
      · exact after?_suffix h
    · exact after?_suffix h

theorem takeSign_suffix (cs : List Char) : (takeSign cs).2 <:+ cs := by
  unfold takeSign
  split
  · exact List.suffix_cons ..
  · exact List.suffix_cons ..
  · exact List.suffix_rfl

theorem wordStatement?_suffix {word : String} {plus : Bool} {sign : Option Char}
    (h : wordStatement? word plus cs = some (sign, rest)) : rest <:+ cs := by
  unfold wordStatement? at h
  obtain ⟨afterMark, hm, h⟩ := Option.bind_eq_some_iff.mp h
  obtain ⟨afterWord, hw, h⟩ := Option.bind_eq_some_iff.mp h
  obtain ⟨afterEnd, he, h⟩ := Option.bind_eq_some_iff.mp h
  cases h
  have signed := (takeSign_suffix afterMark).trans (after?_suffix hm)
  have worded := (after?_suffix hw).trans ((dropBlank_suffix _).trans signed)
  exact (insertionEnd?_suffix he).trans ((dropBlank_suffix _).trans worded)

theorem opening?_suffix {kind : Opening} {sign : Option Char}
    (h : opening? cs = some (kind, sign, rest)) : rest <:+ cs := by
  have signed (a b : Char) (tail : List Char) : (takeSign tail).2 <:+ a :: b :: tail :=
    (takeSign_suffix tail).trans (List.suffix_append [a, b] tail)
  unfold opening? at h
  split at h
  · split at h
    · next hw =>
        cases h
        exact wordStatement?_suffix hw
    · cases h
      exact signed ..
  · cases h
    exact signed ..
  · cases h
    exact signed ..
  · cases h

/-- What a search finds is found at an end of the text. -/
theorem spanUntil_suffix {α : Type} {stop? : List Char -> Option α} {text : List Char} {found : α}
    (h : spanUntil stop? cs = (text, some found)) :
    ∃ tail, tail <:+ cs ∧ stop? tail = some found := by
  induction cs generalizing text with
  | nil => exact ⟨[], List.suffix_rfl, congrArg Prod.snd h⟩
  | cons c tail ih =>
      unfold spanUntil at h
      split at h
      · next hs =>
          cases h
          exact ⟨_, List.suffix_rfl, hs⟩
      · next hs =>
          rcases hu : spanUntil stop? tail with ⟨front, f⟩
          rw [hu] at h
          cases h
          obtain ⟨inner, hi, hf⟩ := ih hu
          exact ⟨inner, hi.trans (List.suffix_cons c tail), hf⟩

/-! ## Tokens -/

/-- The name that a token is, if it is one, is within a set. -/
def TokenKind.Within (P : String -> Prop) : TokenKind -> Prop
  | .name s => P s
  | _ => True

/-- All tokens have their names within a set. -/
def TokensWithin (P : String -> Prop) (ts : List Token) : Prop :=
  ∀ t ∈ ts, t.kind.Within P

namespace TokensWithin

variable {t : Token} {ts us : List Token}

theorem nil : TokensWithin P [] :=
  nofun

theorem cons (ht : t.kind.Within P) (h : TokensWithin P ts) : TokensWithin P (t :: ts) :=
  List.forall_mem_cons.mpr ⟨ht, h⟩

theorem append (h : TokensWithin P ts) (hu : TokensWithin P us) : TokensWithin P (ts ++ us) :=
  List.forall_mem_append.mpr ⟨h, hu⟩

theorem head (h : TokensWithin P (t :: ts)) : t.kind.Within P :=
  h t List.mem_cons_self

theorem tail (h : TokensWithin P (t :: ts)) : TokensWithin P ts :=
  fun u hu => h u (List.mem_cons_of_mem t hu)

end TokensWithin

theorem dataToken_within (line : Nat) (text : List Char) :
    TokensWithin P (dataToken line text) := by
  unfold dataToken
  split
  · exact .nil
  · exact .cons trivial .nil

theorem readToken?_within {afterDot : Bool} {kind : TokenKind} (h : WordsWithin P cs)
    (hk : readToken? afterDot cs = some (kind, rest)) : kind.Within P ∧ rest <:+ cs := by
  unfold readToken? at hk
  dsimp only at hk
  split at hk
  · next v tail hf =>
      cases hk
      refine ⟨trivial, ?_⟩
      split at hf
      · cases hf
      · exact readFraction?_suffix hf
  · split at hk
    · next hw =>
        cases hk
        exact ⟨trivial, readWhole?_suffix hw⟩
    · split at hk
      · cases hk
      · next c tail _ _ =>
          split at hk
          · obtain ⟨-, hk⟩ := Option.ite_none_right_eq_some.mp hk
            cases hk
            exact ⟨h _ (Text.takeWhile_stretch _ _) List.all_takeWhile, List.dropWhile_suffix _⟩
          · split at hk
            · obtain ⟨⟨body, back⟩, hq, hk⟩ := Option.bind_eq_some_iff.mp hk
              obtain ⟨text, -, hk⟩ := Option.bind_eq_some_iff.mp hk
              cases hk
              have left := (spanQuoted_splits c tail body _ hq).2
              exact ⟨trivial, left.trans (List.suffix_cons c tail)⟩
            · obtain ⟨m, -, hk⟩ := Option.bind_eq_some_iff.mp hk
              cases hk
              exact ⟨trivial, List.drop_suffix _ _⟩

/-- From any place and in any mode, the words of what is left give the names of its tokens. -/
def Lexes (P : String -> Prop) (fuel : Nat) : Prop :=
  ∀ (mode : Mode) (afterDot : Bool) (line : Nat) {cs : List Char}, WordsWithin P cs ->
    TokensWithin P (tokensFrom fuel mode afterDot line cs)

namespace Lexes

variable {fuel line : Nat} {afterDot : Bool}

theorem text_succ (lexes : Lexes P fuel) (h : WordsWithin P cs) :
    TokensWithin P (tokensFrom (fuel + 1) .text afterDot line cs) := by
  unfold tokensFrom
  split
  · exact dataToken_within _ _
  · next text kind sign rest hs =>
      obtain ⟨tail, ht, ho⟩ := spanUntil_suffix hs
      have inner := h.of_suffix ((opening?_suffix ho).trans ht)
      dsimp only
      split
      · exact (dataToken_within _ _).append (lexes _ _ _ inner)
      · exact (dataToken_within _ _).append (lexes _ _ _ inner)
      · exact (dataToken_within _ _).append (.cons trivial (lexes _ _ _ inner))
      · exact (dataToken_within _ _).append (.cons trivial (lexes _ _ _ inner))

theorem raw_succ (lexes : Lexes P fuel) (h : WordsWithin P cs) :
    TokensWithin P (tokensFrom (fuel + 1) .raw afterDot line cs) := by
  unfold tokensFrom
  split
  · next text sign rest hs =>
      obtain ⟨tail, ht, hw⟩ := spanUntil_suffix hs
      have inner := h.of_suffix ((wordStatement?_suffix hw).trans ht)
      exact (dataToken_within _ _).append (lexes _ _ _ inner)
  · split
    · exact .nil
    · exact .cons trivial .nil

theorem comment_succ (lexes : Lexes P fuel) (h : WordsWithin P cs) :
    TokensWithin P (tokensFrom (fuel + 1) .comment afterDot line cs) := by
  unfold tokensFrom
  split
  · next rest hs =>
      obtain ⟨tail, ht, he⟩ := spanUntil_suffix hs
      exact lexes _ _ _ (h.of_suffix ((insertionEnd?_suffix he).trans ht))
  · split
    · exact .nil
    · exact .cons trivial .nil

theorem inside_succ (lexes : Lexes P fuel) (print : Bool) (brackets : List Char)
    (h : WordsWithin P cs) :
    TokensWithin P (tokensFrom (fuel + 1) (.inside print brackets) afterDot line cs) := by
  unfold tokensFrom
  dsimp only
  split
  · next rest he =>
      have left : rest <:+ cs := by
        rcases ite_eq_iff.mp he with ⟨-, he⟩ | ⟨-, he⟩
        · cases he
        · rcases ite_eq_iff.mp he with ⟨-, he⟩ | ⟨-, he⟩
          · exact insertionEnd?_suffix he
          · exact insertionEnd?_suffix he
      refine .cons ?_ (lexes _ _ _ (h.of_suffix left))
      split <;> trivial
  · split
    · exact .nil
    · next c tail _ =>
        split
        · exact lexes _ _ _ (h.of_suffix (List.suffix_cons c tail))
        · split
          · exact .cons trivial .nil
          · next kind rest hr =>
              obtain ⟨hkind, left⟩ := readToken?_within h hr
              have inner := h.of_suffix left
              split
              · split
                · exact .cons trivial .nil
                · exact .cons trivial (lexes _ _ _ inner)
              · exact .cons hkind (lexes _ _ _ inner)

end Lexes

theorem tokensFrom_within (fuel : Nat) : Lexes P fuel := by
  induction fuel with
  | zero => exact fun _ _ _ _ _ => .cons trivial .nil
  | succ fuel lexes =>
      intro mode afterDot line cs h
      cases mode with
      | text => exact lexes.text_succ h
      | raw => exact lexes.raw_succ h
      | comment => exact lexes.comment_succ h
      | inside print brackets => exact lexes.inside_succ print brackets h

/-- The tokens of a template have names that are words of its source. -/
theorem tokens_within {source : String} (h : WordsWithin P source.toList) :
    TokensWithin P (tokens source) := by
  refine .append (tokensFrom_within _ _ _ _ fun word hw part => h word ?_ part) (.cons trivial .nil)
  rw [unifyLineEnds_eq] at hw
  refine Reading.unifyLineEnds_stretch (fun hn => ?_) _ hw
  exact absurd (List.all_eq_true.mp part '\n' hn) (by decide +kernel)

end Template

end Workflow
