import Workflow.Proofs.Reference.Alike
import Workflow.Proofs.Text.Occurrence

/-!
# Tokens are stretches of their text

The path of a token and the name it begins with stand in the text.  Where a word occurs
in no string of a value, no token of the value begins with it.
-/

namespace Workflow

namespace Value

mutual

/-- The strings in data, those that are keys included. -/
def strings : Value -> List String
  | .str s => [s]
  | .list items => stringsOfItems items
  | .tuple items => stringsOfItems items
  | .set items => stringsOfItems items
  | .dict entries => stringsOfEntries entries
  | .sealed entries => stringsOfEntries entries
  | .object _ content => strings content
  | _ => []

/-- The strings in items. -/
def stringsOfItems : List Value -> List String
  | [] => []
  | x :: rest => strings x ++ stringsOfItems rest

/-- The strings in the keys and values of entries. -/
def stringsOfEntries : List (Value × Value) -> List String
  | [] => []
  | (k, v) :: rest => strings k ++ strings v ++ stringsOfEntries rest

end

end Value

namespace Reference

variable {word : String}

theorem tokenAt?_stretches {cs inside after : List Char} (h : tokenAt? cs = some (inside, after)) :
    inside <:+: cs ∧ after <:+: cs := by
  unfold tokenAt? at h
  split at h
  · next rest =>
      have back : rest.dropWhile (· != '\x7d') <:+ '\x7b' :: '\x7b' :: rest :=
        (List.dropWhile_suffix _).trans (List.suffix_append ['\x7b', '\x7b'] rest)
      dsimp only at h
      split at h
      · next tail heq =>
          split at h
          · cases h
          · cases h
            rw [heq] at back
            refine ⟨?_, ((List.suffix_append ['\x7d', '\x7d'] _).trans back).isInfix⟩
            exact (Text.takeWhile_stretch _ _).trans
              (List.suffix_append ['\x7b', '\x7b'] rest).isInfix
      · cases h
  · cases h

/-- The insides of the tokens of a text are stretches of it. -/
theorem pieces_stretch (cs : List Char) :
    ∀ inside, .token inside ∈ pieces cs -> inside <:+: cs := by
  fun_induction pieces cs with
  | case1 => nofun
  | case2 c rest inside after h ih =>
      obtain ⟨front, back⟩ := tokenAt?_stretches h
      intro other ho
      rcases List.mem_cons.mp ho with ho | ho
      · cases ho
        exact front
      · exact (ih other ho).trans back
  | case3 c rest h ih =>
      intro other ho
      rcases List.mem_cons.mp ho with ho | ho
      · cases ho
      · exact (ih other ho).trans (List.suffix_cons c rest).isInfix

/-- A path begins with a stretch of the text that its token stands in. -/
theorem origin_pathOf_ne {inside : List Char} {text : String} (h : Text.Lacks word text)
    (hi : inside <:+: text.toList) : origin (pathOf inside) ≠ word := by
  have first : ∃ piece ∈ Text.splitAll ['.'] (pathOf inside).length (pathOf inside).toList,
      origin (pathOf inside) = String.ofList piece := by
    unfold origin
    cases hs : segments (pathOf inside) with
    | nil => exact absurd hs (segments_ne_nil _)
    | cons key rest =>
        obtain ⟨piece, hp, rfl⟩ := List.mem_map.mp (hs ▸ List.mem_cons_self)
        exact ⟨piece, hp, rfl⟩
  obtain ⟨piece, hp, same⟩ := first
  have front := Text.splitAll_stretch _ _ _ piece hp
  rw [pathOf, String.toList_ofList] at front
  rw [same]
  exact h.ne_of_stretch ((front.trans (Text.trim_stretch _ inside)).trans hi)

theorem paths_avoid {text : String} (h : Text.Lacks word text) {cs : List Char}
    (hc : cs <:+: text.toList) : Avoids word ((pieces cs).filterMap Piece.path?) := by
  intro path hp
  obtain ⟨piece, hm, hpath⟩ := List.mem_filterMap.mp hp
  cases piece with
  | char c => cases hpath
  | token inside =>
      cases hpath
      exact origin_pathOf_ne h ((pieces_stretch cs inside hm).trans hc)

theorem pathsOf_avoid {text : String} (h : Text.Lacks word text) : Avoids word (pathsOf text) :=
  paths_avoid h List.infix_rfl

mutual

/-- No token of a value begins with a word that occurs in none of its strings. -/
theorem unresolved_avoid (v : Value) (h : ∀ text ∈ v.strings, Text.Lacks word text) :
    Avoids word (unresolved v) := by
  match v with
  | .str text => exact pathsOf_avoid (h text List.mem_cons_self)
  | .list items => exact unresolvedItems_avoid items h
  | .tuple items => exact unresolvedItems_avoid items h
  | .dict entries => exact unresolvedEntries_avoid entries h
  | .object _ content => exact unresolved_avoid content h
  | .null | .bool _ | .int _ | .float _ | .sealed _ | .set _ | .bytes _ | .datetime _ | .date _
  | .complex .. | .span _ | .function _ | .converter _ | .method .. | .view .. | .range ..
  | .undefined .. | .markup _ | .stream .. | .slot .. | .foreign _ => exact nofun

theorem unresolvedItems_avoid (items : List Value)
    (h : ∀ text ∈ Value.stringsOfItems items, Text.Lacks word text) :
    Avoids word (unresolvedItems items) := by
  match items with
  | [] => exact nofun
  | x :: rest =>
      intro path hp
      rcases List.mem_append.mp hp with hp | hp
      · exact unresolved_avoid x (fun text ht => h text (List.mem_append_left _ ht)) path hp
      · refine unresolvedItems_avoid rest (fun text ht => ?_) path hp
        exact h text (List.mem_append_right _ ht)

theorem unresolvedEntries_avoid (entries : List (Value × Value))
    (h : ∀ text ∈ Value.stringsOfEntries entries, Text.Lacks word text) :
    Avoids word (unresolvedEntries entries) := by
  match entries with
  | [] => exact nofun
  | (k, v) :: rest =>
      have front (text : String) (ht : text ∈ v.strings) : Text.Lacks word text :=
        h text (List.mem_append_left _ (List.mem_append_right _ ht))
      intro path hp
      rcases List.mem_append.mp hp with hp | hp
      · exact unresolved_avoid v front path hp
      · exact unresolvedEntries_avoid rest (fun text ht => h text (List.mem_append_right _ ht))
          path hp

end

/-! ## Expressions of conditions -/

theorem quotedAt?_stretches {cs : List Char} {q : Char} {body after : List Char}
    (h : quotedAt? cs = some (q, body, after)) : body <:+: cs ∧ after <:+: cs := by
  unfold quotedAt? at h
  split at h
  · cases h
  · next c rest =>
      have back : rest.dropWhile (· != c) <:+ c :: rest :=
        (List.dropWhile_suffix _).trans (List.suffix_cons c rest)
      split at h
      · split at h
        · cases h
        · next heq =>
            cases h
            rw [heq] at back
            refine ⟨?_, ((List.suffix_cons _ _).trans back).isInfix⟩
            exact (Text.takeWhile_stretch _ _).trans (List.suffix_cons q rest).isInfix
      · cases h

/-- The characters of a stretch of an expression that hold its tokens. -/
def Part.inside : Part -> List Char
  | .char c => [c]
  | .quoted _ body => body
  | .token inside => inside

theorem parts_stretch (cs : List Char) : ∀ p ∈ parts cs, p.inside <:+: cs := by
  fun_induction parts cs with
  | case1 => nofun
  | case2 c rest q body after h ih =>
      obtain ⟨front, back⟩ := quotedAt?_stretches h
      intro p hp
      rcases List.mem_cons.mp hp with rfl | hp
      · exact front
      · exact (ih p hp).trans back
  | case3 c rest _ inside after h ih =>
      obtain ⟨front, back⟩ := tokenAt?_stretches h
      intro p hp
      rcases List.mem_cons.mp hp with rfl | hp
      · exact front
      · exact (ih p hp).trans back
  | case4 c rest _ _ ih =>
      intro p hp
      rcases List.mem_cons.mp hp with rfl | hp
      · exact (List.prefix_append [c] rest).isInfix
      · exact (ih p hp).trans (List.suffix_cons c rest).isInfix

theorem boundPaths_avoid {text : String} (h : Text.Lacks word text) :
    Avoids word (boundPaths text) := by
  intro path hp
  obtain ⟨p, hm, hp⟩ := List.mem_flatMap.mp hp
  have inside := parts_stretch text.toList p hm
  cases p with
  | char c => cases hp
  | quoted q body => exact paths_avoid h inside path hp
  | token token =>
      cases List.mem_singleton.mp hp
      exact origin_pathOf_ne h inside

end Reference

end Workflow
