import Mathlib.Data.List.TakeWhile
import Workflow.Definition.Loading
import Workflow.Proofs.Json.RoundTrip
import Workflow.Reference.Lookup

/-!
# Definitions as texts

A definition can be handed over as a dictionary or as the text that it is written as.  The
text is found to be JSON and holds the dictionary, so loading comes to the same with both.
-/

namespace Workflow

/-- A text is not blank where it begins with a character that is none. -/
theorem Text.strip_ne_empty {c : Char} (visible : Text.isBlank c = false) (cs : List Char) :
    (Text.strip (String.ofList (c :: cs))).isEmpty = false := by
  have front : Text.trimStart Text.isBlank (c :: cs) = c :: cs :=
    List.dropWhile_cons_of_neg (by rw [visible]; exact Bool.false_ne_true)
  have kept : Text.trimEnd Text.isBlank (c :: cs) ≠ [] := by
    intro gone
    rw [Text.trimEnd, List.reverse_eq_nil_iff, List.dropWhile_eq_nil_iff] at gone
    have blank := gone c (List.mem_reverse.mpr List.mem_cons_self)
    rw [visible] at blank
    cases blank
  rw [Text.strip, String.toList_ofList, Text.trim, front, String.isEmpty_eq_false_iff]
  exact mt String.ofList_eq_empty_iff.mp kept

theorem Format.detect_of_brace (cs : List Char) :
    Format.detect (String.ofList ('\x7b' :: cs)) = .json := by
  have visible : Text.isBlank '\x7b' = false := by decide
  rw [Format.detect, String.toList_ofList, List.dropWhile_cons_of_neg (by simp [visible])]
  rfl

namespace Loading

open Json

/-- The text of a dictionary is parsed as the dictionary. -/
theorem parse_dataText (source : String) {entries : List (Value × Value)}
    (data : IsData (.dict entries)) (flat : nesting (.dict entries) ≤ maxNesting) :
    parse none source (String.ofList (dataText (.dict entries))) = .ok entries := by
  have read := read_dataText data flat
  have visible : Text.isBlank '\x7b' = false := by decide
  have json : Format.detect (String.ofList (dataText (.dict entries))) = .json :=
    Format.detect_of_brace _
  have some : (Text.strip (String.ofList (dataText (.dict entries)))).isEmpty = false :=
    Text.strip_ne_empty visible _
  simp only [parse, Option.getD_none, json, parseJson, some, read]
  rfl

/--
Loading the text of a dictionary comes to the same as loading the dictionary: the same
definition and warnings, or the same error.  A dictionary has a text unless values lie too
deep in it.
-/
theorem ofText_inlineText (env : Environment) (source : Option String)
    {entries : List (Value × Value)} (data : IsData (.dict entries)) :
    (nesting (.dict entries) ≤ maxNesting ->
      ∃ text, Reference.inlineText (.dict entries) = .ok text ∧
        ofText env none source text = ofValue env source (.dict entries)) ∧
    (maxNesting < nesting (.dict entries) ->
      Reference.inlineText (.dict entries) = .error (tooDeep lineStyle)) := by
  have written : Reference.inlineText (.dict entries) =
      shallow 0 (nesting (.dict entries)) (String.ofList (dataText (.dict entries))) :=
    write_data data
  rw [written]
  constructor
  · intro flat
    refine ⟨String.ofList (dataText (.dict entries)), if_pos (by omega), ?_⟩
    rw [ofText, parse_dataText (label source) data flat]
  · intro deep
    exact if_neg (by omega)

/-- A definition with characters that are escaped, and values in others. -/
def greeting : List (Value × Value) :=
  [(.str "name", .str "tab\tquote\" café 😀"),
    (.str "steps", .list [.dict [(.str "id", .str "a"), (.str "type", .str "transform"),
      (.str "config", .dict [(.str "value", .list [.int (-120), .bool true, .null, .list []])])]])]

theorem isData_greeting : IsData (.dict greeting) := by
  have short : (Value.int (-120)).exceedsDigits = false := exceedsDigits_of_lt (by decide)
  simp [greeting, IsData, AllData, MembersData, short]

theorem ofText_inlineText_greeting :
    (IsData (.dict greeting) ∧ nesting (.dict greeting) ≤ maxNesting) ∧
    ∃ text, Reference.inlineText (.dict greeting) = .ok text ∧
      ofText [] none none text = ofValue [] none (.dict greeting) :=
  ⟨⟨isData_greeting, by decide⟩, (ofText_inlineText [] none isData_greeting).1 (by decide)⟩

end Loading

end Workflow
