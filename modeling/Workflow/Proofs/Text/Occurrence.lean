import Workflow.Text.Search

/-!
# Occurrences in texts

What a text is cut into are stretches of it.  A word that does not occur in the text
occurs in none of them.
-/

namespace Workflow

namespace Text

/-- A word does not occur in a text. -/
def Lacks (word text : String) : Prop :=
  ¬ word.toList <:+: text.toList

instance (word text : String) : Decidable (Lacks word text) :=
  inferInstanceAs (Decidable (¬ word.toList <:+: text.toList))

/-- A stretch of a text that lacks a word is another word. -/
theorem Lacks.ne_of_stretch {word text : String} (h : Lacks word text) {piece : List Char}
    (hp : piece <:+: text.toList) : String.ofList piece ≠ word := by
  rintro rfl
  exact h (by simpa only [String.toList_ofList] using hp)

theorem takeWhile_stretch (p : Char -> Bool) (cs : List Char) : cs.takeWhile p <:+: cs :=
  have front : cs.takeWhile p <+: cs := List.takeWhile_prefix p
  front.isInfix

theorem dropWhile_stretch (p : Char -> Bool) (cs : List Char) : cs.dropWhile p <:+: cs :=
  (List.dropWhile_suffix p).isInfix

theorem trim_stretch (p : Char -> Bool) (cs : List Char) : trim p cs <:+: cs := by
  have front : trimEnd p (trimStart p cs) <+: trimStart p cs := by
    have kept := List.dropWhile_suffix p (l := (trimStart p cs).reverse)
    simpa only [trimEnd, List.reverse_reverse] using List.reverse_prefix.mpr kept
  exact front.isInfix.trans (dropWhile_stretch p cs)

/-- A text is cut into its front and its end. -/
theorem cutAt?_stretches {separator cs front back : List Char}
    (h : cutAt? separator cs = some (front, back)) : front <:+: cs ∧ back <:+: cs := by
  obtain ⟨i, _, hi⟩ := Option.map_eq_some_iff.mp h
  cases hi
  have taken : cs.take i <+: cs := List.take_prefix i cs
  exact ⟨taken.isInfix, (List.drop_suffix _ cs).isInfix⟩

theorem splitAll_stretch (separator : List Char) (limit : Nat) (cs : List Char) :
    ∀ piece ∈ splitAll separator limit cs, piece <:+: cs := by
  induction limit generalizing cs with
  | zero =>
      intro piece hp
      cases List.mem_singleton.mp hp
      exact List.infix_rfl
  | succ limit ih =>
      intro piece hp
      unfold splitAll at hp
      split at hp
      · cases List.mem_singleton.mp hp
        exact List.infix_rfl
      · next front back hc =>
          obtain ⟨hfront, hback⟩ := cutAt?_stretches hc
          rcases List.mem_cons.mp hp with rfl | hp
          · exact hfront
          · exact (ih back piece hp).trans hback

/-! ## Splitting off the front -/

/-- What is split off a text, if anything, is its front, and what is left is its end. -/
def Splits (cs : List Char) (split : Option (List Char × List Char)) : Prop :=
  ∀ front back, split = some (front, back) -> front <+: cs ∧ back <:+ cs

namespace Splits

variable {cs : List Char} {split : Option (List Char × List Char)}

theorem none : Splits cs none :=
  nofun

theorem nil {back : List Char} (h : back <:+ cs) : Splits cs (some ([], back)) := by
  intro front rest heq
  cases heq
  exact ⟨List.prefix_append [] cs, h⟩

/-- What is split off the end of a text belongs to what was split off before it. -/
theorem append (before : List Char) (h : Splits cs split) :
    Splits (before ++ cs) (split.map fun (front, back) => (before ++ front, back)) := by
  intro front rest heq
  obtain ⟨⟨inner, back⟩, hs, heq⟩ := Option.map_eq_some_iff.mp heq
  cases heq
  obtain ⟨hf, hb⟩ := h inner rest hs
  exact ⟨(List.prefix_append_right_inj before).mpr hf, hb.trans (List.suffix_append before cs)⟩

theorem cons (c : Char) (h : Splits cs split) :
    Splits (c :: cs) (split.map fun (front, back) => (c :: front, back)) :=
  h.append [c]

end Splits

end Text

end Workflow
