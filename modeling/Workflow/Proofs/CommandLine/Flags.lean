import Mathlib.Data.List.Induction
import Workflow.CommandLine.Flags
import Workflow.Proofs.Json.RoundTrip
import Workflow.Proofs.Number.Digits
import Workflow.Proofs.Reference.Position

/-!
# Values written as flags

A value that is no text can be given on the command line in the text form that it has inside
other text.  A flag is cut at its first equals sign, and the text behind it looks like the value
it was written for: a word, a number, or JSON.  So a list of such flags is read as the dictionary
of the last value of each name.
-/

namespace Workflow

/-! ## Texts that are trimmed -/

namespace Text

/-- Nothing is dropped from a text between two characters that stay. -/
theorem trim_between {p : Char -> Bool} {c d : Char} (first : p c = false) (last : p d = false)
    (inner : List Char) : trim p (c :: (inner ++ [d])) = c :: (inner ++ [d]) := by
  have front : (c :: (inner ++ [d])).dropWhile p = c :: (inner ++ [d]) :=
    List.dropWhile_cons_of_neg (by simp [first])
  have back : (d :: (c :: inner).reverse).dropWhile p = d :: (c :: inner).reverse :=
    List.dropWhile_cons_of_neg (by simp [last])
  have reversed : (c :: (inner ++ [d])).reverse = d :: (c :: inner).reverse := by simp
  rw [trim, trimEnd, trimStart, front, reversed, back, ← reversed, List.reverse_reverse]

/-- A plain character that is no capital letter begins the small form of its text. -/
theorem lower_cons {c : Char} (ascii : c.toNat < 128) (small : c.toLower = c) (rest : List Char) :
    lower (c :: rest) = c :: lower.go [c] rest := by
  have sigma : c ≠ 'Σ' := by
    rintro rfl
    exact absurd ascii (by decide)
  have here : lowerBetween [] c rest = [c] := by
    rw [lowerBetween, beq_false_of_ne sigma, lowerChar, if_pos ascii, small]
    rfl
  rw [lower, lower.go, here]
  rfl

end Text

namespace CommandLine

open Json

/-! ## What a text looks like -/

/-- No word stands for a value of its own. -/
def IsWordless (s : String) : Prop :=
  String.ofList (Text.lower s.toList) ∉ ["true", "false", "null"]

theorem isWordless_of_begins {c : Char} (ascii : c.toNat < 128) (small : c.toLower = c)
    (other : c ∉ ['t', 'f', 'n']) (cs : List Char) : IsWordless (String.ofList (c :: cs)) := by
  intro word
  rw [String.toList_ofList, Text.lower_cons ascii small] at word
  have first : ∀ w ∈ ["true", "false", "null"],
      w.toList.head?.all (['t', 'f', 'n'].contains ·) = true := by
    decide +kernel
  have begun := first _ word
  rw [String.toList_ofList] at begun
  exact other (List.contains_iff_mem.mp begun)

theorem startsWith_mark (mark c : Char) (cs : List Char) :
    (String.ofList (c :: cs)).startsWith (String.ofList [mark]) = (mark == c) := by
  rw [Bool.eq_iff_iff, String.startsWith_string_iff, String.toList_ofList, String.toList_ofList,
    List.cons_prefix_cons, beq_iff_eq, and_iff_left (List.nil_prefix)]

/-- A document is opened by a bracket or a brace. -/
theorem opens_eq (c : Char) (cs : List Char) :
    ((String.ofList (c :: cs)).startsWith "[" || (String.ofList (c :: cs)).startsWith "\x7b") =
      ('[' == c || '\x7b' == c) := by
  rw [← startsWith_mark '[' c cs, ← startsWith_mark '\x7b' c cs]

section Wordless

variable {s : String} {v : Value}

/-- A text that is no word is JSON or a number by the way it begins, or else itself. -/
theorem valueOf_of_wordless (wordless : IsWordless s) :
    valueOf s = if s.startsWith "[" || s.startsWith "\x7b" then
        match Json.read s with
        | .ok v => .ok v
        | .error (.refused f) => .error f
        | .error (.malformed ..) => .ok ((numberOf? s).getD (.str s))
      else .ok ((numberOf? s).getD (.str s)) := by
  simp only [IsWordless, List.mem_cons, List.not_mem_nil, or_false, not_or] at wordless
  unfold valueOf
  split
  · next same => exact absurd same wordless.1
  · next same => exact absurd same wordless.2.1
  · next same => exact absurd same wordless.2.2
  · rfl

theorem valueOf_document (wordless : IsWordless s)
    (opens : (s.startsWith "[" || s.startsWith "\x7b") = true) (read : Json.read s = .ok v) :
    valueOf s = .ok v := by
  rw [valueOf_of_wordless wordless, if_pos opens, read]

theorem valueOf_number (wordless : IsWordless s)
    (plain : (s.startsWith "[" || s.startsWith "\x7b") = false) (number : numberOf? s = some v) :
    valueOf s = .ok v := by
  rw [valueOf_of_wordless wordless, if_neg (Bool.not_eq_true _ ▸ plain), number]
  rfl

end Wordless

/-- Characters of integers. -/
def IsNumeral (c : Char) : Prop :=
  c = '-' ∨ c.isDigit = true

theorem IsNumeral.ascii {c : Char} (numeral : IsNumeral c) : c.toNat < 128 := by
  rcases numeral with rfl | digit
  · decide
  · have bounds := toNat_of_isDigit digit
    omega

/-- What sets the characters of integers apart. -/
theorem IsNumeral.other {c : Char} (numeral : IsNumeral c) :
    Text.isBlank c = false ∧ c.toLower = c ∧ c ∉ ['.', 't', 'f', 'n', '[', '\x7b'] := by
  have all := of_ascii (p := fun c => !(c == '-' || c.isDigit) ||
    (!Text.isBlank c && c.toLower == c && !(['.', 't', 'f', 'n', '[', '\x7b'].contains c)))
    (by decide +kernel) numeral.ascii
  have known : (c == '-' || c.isDigit) = true := by simpa [IsNumeral] using numeral
  simpa [known, and_assoc] using all

theorem numerals_toString (n : Int) : ∀ c ∈ (toString n).toList, IsNumeral c := by
  have digits : ∀ c ∈ Nat.toDigits 10 n.natAbs, IsNumeral c := fun c hc =>
    .inr (isDigit_toDigits _ c hc)
  rw [toList_toString]
  split
  · exact List.forall_mem_cons.mpr ⟨.inl rfl, digits⟩
  · exact digits

theorem readInt_toString {n : Int} (short : (Value.int n).exceedsDigits = false) :
    Number.readInt 10 (toString n) = .value n := by
  have trimmed : Text.trim Number.isNumberBlank (toString n).toList = (toString n).toList :=
    Number.trim_of_none fun c hc => by
      rw [Number.isNumberBlank, (numerals_toString n c hc).other.1, Bool.false_and]
  rw [Value.exceedsDigits, decide_eq_false_iff_not, Nat.not_le] at short
  have few : ¬ Number.maxDigits < ((Nat.toDigits 10 n.natAbs).filter (· != '_')).length := by
    have fits := length_toDigits_le (by decide) short
    have less := List.length_filter_le (· != '_') (Nat.toDigits 10 n.natAbs)
    omega
  have sign : Number.splitSign (toString n).toList =
      (decide (n < 0), Nat.toDigits 10 n.natAbs) := by
    rw [toList_toString]
    by_cases negative : n < 0
    · simp [negative, Number.splitSign]
    · simp [negative, Number.splitSign_digits fun c hc =>
        Reference.isDigitSign_of_isDigit (isDigit_toDigits _ c hc)]
  have value : (if n < 0 then -(n.natAbs : Int) else n.natAbs) = n := by
    split <;> omega
  generalize n.natAbs = m at few sign value
  simp only [Number.readInt, trimmed, sign]
  simp [digitsValue?_toDigits, few, value]

theorem numberOf?_toString {n : Int} (short : (Value.int n).exceedsDigits = false) :
    numberOf? (toString n) = some (.int n) := by
  have whole : (toString n).toList.contains '.' = false := by
    rw [← Bool.not_eq_true, List.contains_iff_mem]
    intro point
    exact (numerals_toString n _ point).other.2.2 List.mem_cons_self
  rw [numberOf?, whole, readInt_toString short]
  rfl

/-! ## Values as texts -/

/-- A value that a flag can give in its text form. -/
def IsGiven (v : Value) : Prop :=
  IsData v ∧ ∀ s, v ≠ .str s

/-- A text stands between characters that are no white space. -/
theorem trim_dataText {v : Value} (given : IsGiven v) :
    Text.trim Text.isBlank (dataText v) = dataText v := by
  have word {cs : List Char} (h : cs.all (fun c => !Text.isBlank c) = true) :
      Text.trim Text.isBlank cs = cs := Number.trim_of_none (by simpa using h)
  cases v with
  | null => exact word (by decide +kernel)
  | bool b =>
      cases b with
      | true => exact word (by decide +kernel)
      | false => exact word (by decide +kernel)
  | int n => exact Number.trim_of_none fun c hc => (numerals_toString n c hc).other.1
  | str s => exact absurd rfl (given.2 s)
  | list items => exact Text.trim_between (by decide +kernel) (by decide +kernel) (itemsText items)
  | dict entries =>
      exact Text.trim_between (by decide +kernel) (by decide +kernel) (membersText entries)
  | _ => cases given.1

/-- A text looks like the value it was written for. -/
theorem valueOf_dataText {v : Value} (given : IsGiven v) (flat : nesting v ≤ maxNesting) :
    valueOf (String.ofList (dataText v)) = .ok v := by
  have read := read_dataText given.1 flat
  cases v with
  | null => rfl
  | bool b =>
      cases b with
      | true => rfl
      | false => rfl
  | int n =>
      obtain ⟨c, cs, begins, numeral⟩ := toString_begins n
      have whole : String.ofList (dataText (.int n)) = toString n := String.ofList_toList
      have other := IsNumeral.other numeral
      simp only [List.mem_cons, List.not_mem_nil, or_false, not_or] at other
      obtain ⟨-, small, -, t, f, n, bracket, brace⟩ := other
      refine valueOf_number ?_ ?_ (whole ▸ numberOf?_toString given.1)
      · rw [dataText, begins]
        exact isWordless_of_begins (IsNumeral.ascii numeral) small (by simp [t, f, n]) cs
      · rw [dataText, begins, opens_eq]
        simp [Ne.symm bracket, Ne.symm brace]
  | str s => exact absurd rfl (given.2 s)
  | list items =>
      have wordless := isWordless_of_begins (c := '[') (by decide) rfl (by decide)
      exact valueOf_document (wordless _) (opens_eq '[' _) read
  | dict entries =>
      have wordless := isWordless_of_begins (c := '\x7b') (by decide) rfl (by decide)
      exact valueOf_document (wordless _) (opens_eq '\x7b' _) read
  | _ => cases given.1

/-! ## Flags -/

/-- A name for a flag: some text without equals signs and without white space around it. -/
structure IsFlagName (name : String) : Prop where
  some : name ≠ ""
  whole : '=' ∉ name.toList
  trimmed : Text.strip name = name

/-- The flag that gives a value under a name. -/
def flagOf (input : String × Value) : Outcome String := do
  pure (input.1 ++ "=" ++ (<- Reference.inlineText input.2))

/-- The dictionary of what was given under names, the last value of each. -/
def gathered (inputs : List (String × Value)) : List (Value × Value) :=
  inputs.foldl (fun entries input => Value.putField entries input.1 input.2) []

theorem inlineText_given {v : Value} (given : IsGiven v) :
    Reference.inlineText v = shallow 0 (nesting v) (String.ofList (dataText v)) := by
  obtain ⟨data, other⟩ := given
  have written := write_data data
  cases v with
  | int n =>
      have short : (Value.int n).exceedsDigits = false := data
      have written : String.ofList (dataText (.int n)) = toString n := String.ofList_toList
      rw [Reference.inlineText, Value.bare, Value.textOf, short, written]
      · exact (shallow_zero (Nat.zero_le _) _).symm
      · simp
  | str s => exact absurd rfl (other s)
  | null | bool _ | list _ | dict _ => exact written
  | _ => cases data

/-- The text after the first equals sign is put under the name in front of it. -/
theorem addInput_flag {name : String} (plain : IsFlagName name) {v : Value} (given : IsGiven v)
    (flat : nesting v ≤ maxNesting) (entries : List (Value × Value)) :
    addInput entries (name ++ "=" ++ String.ofList (dataText v)) =
      .ok (Value.putField entries name v) := by
  have cut : halves? (name ++ "=" ++ String.ofList (dataText v)) =
      some (name, String.ofList (dataText v)) := by
    have chars : (name ++ "=" ++ String.ofList (dataText v)).toList =
        name.toList ++ '=' :: dataText v := by
      simp [String.toList_append]
    have text : Text.strip (String.ofList (dataText v)) = String.ofList (dataText v) := by
      rw [Text.strip, String.toList_ofList, trim_dataText given]
    rw [halves?, chars, Text.cutAt?_append plain.whole]
    simp only [Option.map_some, String.ofList_toList, plain.trimmed, text]
  have filled : name.isEmpty = false := String.isEmpty_eq_false_iff.mpr plain.some
  rw [addInput, cut]
  simp only [filled, Bool.false_eq_true, if_false, valueOf_dataText given flat]

section Gathering

variable {inputs : List (String × Value)}

theorem gathered_append (input : String × Value) :
    gathered (inputs ++ [input]) = Value.putField (gathered inputs) input.1 input.2 := by
  rw [gathered, gathered, List.foldl_append]
  rfl

/-- Each name has the last value that was given for it. -/
theorem field?_gathered (name : String) :
    Value.field? (gathered inputs) name = inputs.reverse.lookup name := by
  induction inputs using List.reverseRecOn with
  | nil => rfl
  | append_singleton front input ih =>
      rw [gathered_append, List.reverse_append, List.reverse_singleton, List.singleton_append,
        List.lookup_cons]
      by_cases same : name = input.1
      · simp [same, Value.field?_putField_self]
      · rw [Value.field?_putField_of_ne _ _ (Ne.symm same), ih, beq_false_of_ne same]

theorem keys_putField_of_mem {entries : List (Value × Value)} {name : String}
    (known : .str name ∈ entries.map Prod.fst) (v : Value) :
    (Value.putField entries name v).map Prod.fst = entries.map Prod.fst := by
  induction entries with
  | nil => cases known
  | cons entry rest ih =>
      obtain ⟨k, old⟩ := entry
      by_cases same : k = .str name
      · rw [same, Value.putField, if_pos rfl]
        rfl
      · have later := (List.mem_cons.mp known).resolve_left (Ne.symm same)
        have kept : Value.putField ((k, old) :: rest) name v =
            (k, old) :: Value.putField rest name v := by
          cases k with
          | str key => exact if_neg fun equal => same (by rw [equal])
          | _ => rfl
        rw [kept, List.map_cons, List.map_cons, ih later]

/-- The names stand in the order in which they were first given. -/
theorem keys_gathered :
    (gathered inputs).map Prod.fst = (inputs.map Prod.fst).eraseDups.map Value.str := by
  induction inputs using List.reverseRecOn with
  | nil => rfl
  | append_singleton front input ih =>
      have mem_iff : .str input.1 ∈ (gathered front).map Prod.fst ↔
          input.1 ∈ front.map Prod.fst := by
        rw [ih, List.mem_map_of_injective fun _ _ => Value.str.inj, List.mem_eraseDups]
      rw [gathered_append, List.map_append, List.eraseDups_append, List.map_append, ← ih]
      by_cases known : input.1 ∈ front.map Prod.fst
      · have nothing : ([input].map Prod.fst).removeAll (front.map Prod.fst) = [] := by
          simp [List.removeAll, known]
        rw [keys_putField_of_mem (mem_iff.mpr known), nothing]
        exact (List.append_nil _).symm
      · have single : ([input].map Prod.fst).removeAll (front.map Prod.fst) = [input.1] := by
          simp [List.removeAll, known]
        rw [putField_of_not_mem (mt mem_iff.mp known), List.map_append, single]
        rfl

end Gathering

section Flags

variable {given : List (String × Value)}

/-- A flag is a name and a text, unless values lie too deep in its value. -/
theorem flagOf_eq {input : String × Value} (h : IsGiven input.2) :
    flagOf input = shallow 0 (nesting input.2)
      (input.1 ++ "=" ++ String.ofList (dataText input.2)) := by
  rw [flagOf, inlineText_given h, shallow, shallow]
  split <;> rfl

/-- The flags of values are read one by one into the entries that are there. -/
theorem foldlM_addInput (plain : ∀ input ∈ given, IsFlagName input.1 ∧ IsGiven input.2)
    (flat : ∀ input ∈ given, nesting input.2 ≤ maxNesting) (entries : List (Value × Value)) :
    ∃ flags, given.mapM flagOf = .ok flags ∧ flags.foldlM addInput entries =
      .ok (given.foldl (fun entries input => Value.putField entries input.1 input.2) entries) := by
  induction given generalizing entries with
  | nil => exact ⟨[], rfl, rfl⟩
  | cons input rest ih =>
      obtain ⟨⟨name, value⟩, plain⟩ := List.forall_mem_cons.mp plain
      obtain ⟨shallow, flat⟩ := List.forall_mem_cons.mp flat
      have first : flagOf input = .ok (input.1 ++ "=" ++ String.ofList (dataText input.2)) := by
        rw [flagOf_eq value]
        exact if_pos (by omega)
      obtain ⟨flags, written, read⟩ := ih plain flat (Value.putField entries input.1 input.2)
      refine ⟨(input.1 ++ "=" ++ String.ofList (dataText input.2)) :: flags, ?_, ?_⟩
      · rw [List.mapM_cons, first, written]
        rfl
      · rw [List.foldlM_cons, addInput_flag name value shallow]
        exact read

theorem mapM_flagOf_of_deep (plain : ∀ input ∈ given, IsFlagName input.1 ∧ IsGiven input.2)
    (deep : ∃ input ∈ given, maxNesting < nesting input.2) :
    given.mapM flagOf = .error (tooDeep lineStyle) := by
  induction given with
  | nil => simp at deep
  | cons input rest ih =>
      obtain ⟨⟨-, value⟩, plain⟩ := List.forall_mem_cons.mp plain
      rw [List.mapM_cons, flagOf_eq value]
      by_cases flat : nesting input.2 ≤ maxNesting
      · have later : ∃ input ∈ rest, maxNesting < nesting input.2 := by
          obtain ⟨found, mem, below⟩ := deep
          rcases List.mem_cons.mp mem with rfl | mem
          · exact absurd flat (Nat.not_le.mpr below)
          · exact ⟨found, mem, below⟩
        rw [shallow, if_pos (by omega), ih plain later]
        rfl
      · rw [shallow, if_neg (by omega)]
        rfl

/--
Values that are written as flags are read back: each name has the last value that was given for
it, and the names stand in the order in which they were first given.  A value has a flag unless
values lie too deep in it.
-/
theorem inputs_flagOf (named : ∀ input ∈ given, IsFlagName input.1)
    (data : ∀ input ∈ given, IsGiven input.2) :
    ((∀ input ∈ given, nesting input.2 ≤ maxNesting) ->
      ∃ flags entries, given.mapM flagOf = .ok flags ∧ inputs flags = .ok entries ∧
        entries.map Prod.fst = (given.map Prod.fst).eraseDups.map Value.str ∧
        ∀ name, Value.field? entries name = given.reverse.lookup name) ∧
    ((∃ input ∈ given, maxNesting < nesting input.2) ->
      given.mapM flagOf = .error (tooDeep lineStyle)) := by
  have plain : ∀ input ∈ given, IsFlagName input.1 ∧ IsGiven input.2 := fun input h =>
    ⟨named input h, data input h⟩
  constructor
  · intro flat
    obtain ⟨flags, written, read⟩ := foldlM_addInput plain flat []
    exact ⟨flags, gathered given, written, read, keys_gathered, field?_gathered⟩
  · exact mapM_flagOf_of_deep plain

end Flags

/-- A name given twice, and values with equals signs, quotes, blanks and words in them. -/
def regional : List (String × Value) :=
  [("region", .null), ("max size", .int (-120)),
    ("region", .dict [(.str "a=b", .list [.bool true, .str " null 'x' \"=\" 😀", .null])])]

theorem isFlagName_regional : ∀ input ∈ regional, IsFlagName input.1 := by
  have region : IsFlagName "region" := ⟨by decide, by decide, by decide +kernel⟩
  have size : IsFlagName "max size" := ⟨by decide, by decide, by decide +kernel⟩
  simp [regional, region, size]

theorem isGiven_regional : ∀ input ∈ regional, IsGiven input.2 := by
  have short : (Value.int (-120)).exceedsDigits = false := exceedsDigits_of_lt (by decide)
  simp [regional, IsGiven, IsData, AllData, MembersData, short]

theorem inputs_flagOf_regional :
    ((∀ input ∈ regional, IsFlagName input.1) ∧ ∀ input ∈ regional, IsGiven input.2) ∧
    ∃ flags entries, regional.mapM flagOf = .ok flags ∧ inputs flags = .ok entries ∧
      entries.map Prod.fst = [.str "region", .str "max size"] ∧
      Value.field? entries "region" = some
        (.dict [(.str "a=b", .list [.bool true, .str " null 'x' \"=\" 😀", .null])]) := by
  refine ⟨⟨isFlagName_regional, isGiven_regional⟩, ?_⟩
  obtain ⟨flags, entries, written, read, names, last⟩ :=
    (inputs_flagOf isFlagName_regional isGiven_regional).1 (by decide)
  exact ⟨flags, entries, written, read, names.trans (by rfl), (last "region").trans (by rfl)⟩

end CommandLine

end Workflow
