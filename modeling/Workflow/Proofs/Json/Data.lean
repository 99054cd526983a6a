import Workflow.Proofs.Json.Scalar

/-!
# Reading a JSON document that was written

A value of null, truth values, integers, strings, lists and dictionaries is written on one
line, and this line is read as the same value.  Both ways end where values lie too deep in
others.
-/

namespace Workflow

namespace Json

/-! ## Data and their texts -/

mutual

/-- A value that a document holds as it is: dictionaries have names for keys, each one once. -/
def IsData : Value -> Prop
  | .null => True
  | .bool _ => True
  | .int n => (Value.int n).exceedsDigits = false
  | .str _ => True
  | .list items => AllData items
  | .dict entries => (entries.map Prod.fst).Nodup ∧ MembersData entries
  | _ => False

/-- All items are such values. -/
def AllData : List Value -> Prop
  | [] => True
  | x :: rest => IsData x ∧ AllData rest

/-- All entries have names for keys, and such values. -/
def MembersData : List (Value × Value) -> Prop
  | [] => True
  | (k, v) :: rest => (∃ name, k = .str name) ∧ IsData v ∧ MembersData rest

end

mutual

/-- How deep values lie in a value. -/
def nesting : Value -> Nat
  | .list items => nestingAll items + 1
  | .dict entries => nestingMembers entries + 1
  | _ => 0

/-- How deep values lie in items. -/
def nestingAll : List Value -> Nat
  | [] => 0
  | x :: rest => max (nesting x) (nestingAll rest)

/-- How deep values lie in the values of entries. -/
def nestingMembers : List (Value × Value) -> Nat
  | [] => 0
  | (_, v) :: rest => max (nesting v) (nestingMembers rest)

end

/-- A string between quotes. -/
def quotedText (s : String) : List Char :=
  '"' :: (s.toList.flatMap (stringChar true) ++ ['"'])

/-- The name of a member. -/
def nameText : Value -> List Char
  | .str s => quotedText s
  | _ => []

mutual

/-- A value on one line. -/
def dataText : Value -> List Char
  | .null => "null".toList
  | .bool true => "true".toList
  | .bool false => "false".toList
  | .int n => (toString n).toList
  | .str s => quotedText s
  | .list items => '[' :: (itemsText items ++ [']'])
  | .dict entries => '\x7b' :: (membersText entries ++ ['\x7d'])
  | _ => []

/-- Items with commas between them. -/
def itemsText : List Value -> List Char
  | [] => []
  | x :: rest => dataText x ++ laterItems rest

/-- Items behind another one. -/
def laterItems : List Value -> List Char
  | [] => []
  | x :: rest => ',' :: ' ' :: (dataText x ++ laterItems rest)

/-- Members with commas between them. -/
def membersText : List (Value × Value) -> List Char
  | [] => []
  | (k, v) :: rest => nameText k ++ ':' :: ' ' :: (dataText v ++ laterMembers rest)

/-- Members behind another one. -/
def laterMembers : List (Value × Value) -> List Char
  | [] => []
  | (k, v) :: rest => ',' :: ' ' :: (nameText k ++ ':' :: ' ' :: (dataText v ++ laterMembers rest))

end

/-! ## What stands in front -/

/-- No white space stands in front. -/
def Visible (cs : List Char) : Prop :=
  ∀ place, skipSpace place cs = (cs, place)

theorem visible_cons {c : Char} (h : isSpace c = false) (rest : List Char) :
    Visible (c :: rest) := by
  intro place
  rw [skipSpace, h]
  rfl

/-- The blank behind a comma or a colon is passed over. -/
theorem Visible.skipSpace_blank {cs : List Char} (h : Visible cs) (place : Nat) :
    skipSpace place (' ' :: cs) = (cs, place + 1) :=
  h (place + 1)

theorem endsNumber_cons {c : Char} (other : c = ',' ∨ c = ']' ∨ c = '\x7d') (rest : List Char) :
    EndsNumber (c :: rest) := by
  intro d first
  obtain rfl : c = d := Option.some.inj first
  rcases other with rfl | rfl | rfl <;> decide

/-- An integer begins with its sign or a digit. -/
theorem toString_begins (n : Int) :
    ∃ c cs, (toString n).toList = c :: cs ∧ (c = '-' ∨ c.isDigit = true) := by
  rw [toList_toString]
  split
  · exact ⟨'-', _, rfl, .inl rfl⟩
  · obtain ⟨c, cs, written, digit⟩ := toDigits_begins n.natAbs
    exact ⟨c, cs, written, .inr digit⟩

theorem other_of_number {c d : Char} (number : c = '-' ∨ c.isDigit = true) (sign : d ≠ '-')
    (digit : d.isDigit = false) : c ≠ d := by
  rintro rfl
  rcases number with rfl | number
  · exact sign rfl
  · rw [number] at digit
    cases digit

theorem isSpace_of_number {c : Char} (number : c = '-' ∨ c.isDigit = true) :
    isSpace c = false := by
  have blank : c ≠ ' ' := other_of_number number (by decide) rfl
  have tab : c ≠ '\t' := other_of_number number (by decide) rfl
  have line : c ≠ '\n' := other_of_number number (by decide) rfl
  have back : c ≠ '\r' := other_of_number number (by decide) rfl
  simp [isSpace, blank, tab, line, back]

/--
A value does not begin with white space, not with the end of an array, and not with a byte
order mark.
-/
theorem dataText_begins {v : Value} (data : IsData v) :
    ∃ c cs, dataText v = c :: cs ∧ isSpace c = false ∧ c ≠ ']' ∧ c ≠ '\ufeff' := by
  cases v with
  | null => exact ⟨'n', _, rfl, rfl, by decide, by decide⟩
  | bool b =>
      cases b with
      | true => exact ⟨'t', _, rfl, rfl, by decide, by decide⟩
      | false => exact ⟨'f', _, rfl, rfl, by decide, by decide⟩
  | int n =>
      obtain ⟨c, cs, begins, number⟩ := toString_begins n
      exact ⟨c, cs, begins, isSpace_of_number number, other_of_number number (by decide) rfl,
        other_of_number number (by decide) rfl⟩
  | str s => exact ⟨'"', _, rfl, rfl, by decide, by decide⟩
  | list items => exact ⟨'[', _, rfl, rfl, by decide, by decide⟩
  | dict entries => exact ⟨'\x7b', _, rfl, rfl, by decide, by decide⟩
  | _ => cases data

theorem length_dataText_pos {v : Value} (data : IsData v) : 0 < (dataText v).length := by
  obtain ⟨c, cs, begins, -⟩ := dataText_begins data
  rw [begins]
  exact Nat.succ_pos _

theorem visible_dataText {v : Value} (data : IsData v) (rest : List Char) :
    Visible (dataText v ++ rest) := by
  obtain ⟨c, cs, begins, visible, -⟩ := dataText_begins data
  rw [begins]
  exact visible_cons visible (cs ++ rest)

theorem itemsText_begins {items : List Value} (data : AllData items) (some : items ≠ [])
    (rest : List Char) : Visible (itemsText items ++ rest) ∧
      (itemsText items ++ rest).head? ≠ .some ']' := by
  cases items with
  | nil => exact absurd rfl some
  | cons x more =>
      obtain ⟨c, cs, begins, visible, other, -⟩ := dataText_begins data.1
      rw [itemsText, begins]
      exact ⟨visible_cons visible _, fun same => other (Option.some.inj same)⟩

theorem membersText_begins {entries : List (Value × Value)} (data : MembersData entries)
    (some : entries ≠ []) (rest : List Char) : Visible (membersText entries ++ rest) ∧
      (membersText entries ++ rest).head? ≠ .some '\x7d' := by
  cases entries with
  | nil => exact absurd rfl some
  | cons entry more =>
      obtain ⟨k, v⟩ := entry
      obtain ⟨⟨name, rfl⟩, -⟩ := data
      exact ⟨visible_cons rfl _, fun same => absurd (Option.some.inj same) (by decide)⟩

theorem laterItems_eq {items : List Value} (some : items ≠ []) :
    laterItems items = ',' :: ' ' :: itemsText items := by
  cases items with
  | nil => exact absurd rfl some
  | cons x rest => rfl

theorem laterMembers_eq {entries : List (Value × Value)} (some : entries ≠ []) :
    laterMembers entries = ',' :: ' ' :: membersText entries := by
  cases entries with
  | nil => exact absurd rfl some
  | cons entry rest => rfl

theorem endsNumber_laterItems (items : List Value) (rest : List Char) :
    EndsNumber (laterItems items ++ ']' :: rest) := by
  cases items with
  | nil => exact endsNumber_cons (.inr (.inl rfl)) rest
  | cons x more => exact endsNumber_cons (.inl rfl) _

theorem endsNumber_laterMembers (entries : List (Value × Value)) (rest : List Char) :
    EndsNumber (laterMembers entries ++ '\x7d' :: rest) := by
  cases entries with
  | nil => exact endsNumber_cons (.inr (.inr rfl)) rest
  | cons entry more => exact endsNumber_cons (.inl rfl) _

/-! ## Reading -/

theorem stringChar_ne_nil (c : Char) : stringChar true c ≠ [] := by
  unfold stringChar unitEscape
  split
  iterate 7 exact List.cons_ne_nil _ _
  split
  · exact List.cons_ne_nil _ _
  · split
    · exact List.cons_ne_nil _ _
    · split
      · exact List.cons_ne_nil _ _
      · exact List.cons_ne_nil _ _

/-- No character is written as nothing. -/
theorem length_le_flatMap_stringChar (cs : List Char) :
    cs.length ≤ (cs.flatMap (stringChar true)).length := by
  induction cs with
  | nil => exact Nat.le_refl 0
  | cons c cs ih =>
      have written := List.length_pos_iff.mpr (stringChar_ne_nil c)
      rw [List.flatMap_cons, List.length_append, List.length_cons]
      omega

theorem length_quotedText (s : String) :
    (quotedText s).length = (s.toList.flatMap (stringChar true)).length + 2 := by
  rw [quotedText, List.length_cons, List.length_append]
  rfl

/-- A string is read as it was written, with the fuel that its text gives. -/
theorem readString_quotedText (s : String) (place : Nat) (rest : List Char) :
    readString place ((s.toList.flatMap (stringChar true) ++ '"' :: rest).length + 1) [] (place + 1)
        (s.toList.flatMap (stringChar true) ++ '"' :: rest) =
      .ok (s, rest, place + (quotedText s).length) := by
  have enough := length_le_flatMap_stringChar s.toList
  have whole : place + 1 + (s.toList.flatMap (stringChar true)).length + 1 =
      place + (quotedText s).length := by
    rw [length_quotedText]
    omega
  rw [readString_flatMap s.toList (by rw [List.length_append]; omega), whole, List.reverse_nil,
    List.nil_append, String.ofList_toList]

/-- A new field is the last one. -/
theorem putField_of_not_mem {entries : List (Value × Value)} {name : String}
    (fresh : .str name ∉ entries.map Prod.fst) (v : Value) :
    Value.putField entries name v = entries ++ [(.str name, v)] := by
  induction entries with
  | nil => rfl
  | cons entry rest ih =>
      obtain ⟨k, old⟩ := entry
      obtain ⟨other, later⟩ := not_or.mp (List.mem_cons.not.mp fresh)
      unfold Value.putField
      split
      · next same => cases same
      · next key _ _ same =>
          obtain ⟨entry, rfl⟩ := List.cons.inj same
          obtain ⟨rfl, rfl⟩ := Prod.mk.inj entry
          have different : key ≠ name := fun same => other (by rw [same])
          rw [if_neg different, ih later]
          rfl
      · next same =>
          obtain ⟨rfl, rfl⟩ := List.cons.inj same
          rw [ih later]
          rfl

section Values

variable {depth fuel place : Nat} {rest : List Char}

theorem readValue_null : readValue depth (fuel + 1) place (dataText .null ++ rest) =
    .ok (.null, rest, place + (dataText .null).length) := by
  rw [dataText]
  unfold readValue
  exact readWord_null place rest

theorem readValue_bool (b : Bool) :
    readValue depth (fuel + 1) place (dataText (.bool b) ++ rest) =
      .ok (.bool b, rest, place + (dataText (.bool b)).length) := by
  cases b with
  | true =>
      rw [dataText]
      unfold readValue
      exact readWord_true place rest
  | false =>
      rw [dataText]
      unfold readValue
      exact readWord_false place rest

theorem readValue_string (s : String) :
    readValue depth (fuel + 1) place (quotedText s ++ rest) =
      .ok (.str s, rest, place + (quotedText s).length) := by
  have read := readString_quotedText s place rest
  rw [quotedText, List.cons_append, List.append_assoc, List.singleton_append]
  simp only [readValue, read]
  rfl

theorem readValue_number {n : Int} (short : (Value.int n).exceedsDigits = false)
    (ends : EndsNumber rest) :
    readValue depth (fuel + 1) place ((toString n).toList ++ rest) =
      .ok (.int n, rest, place + (toString n).toList.length) := by
  rw [← readWordOrNumber_toString short ends]
  obtain ⟨c, cs, begins, number⟩ := toString_begins n
  rw [begins, List.cons_append]
  have quote : c ≠ '"' := other_of_number number (by decide) rfl
  have brace : c ≠ '\x7b' := other_of_number number (by decide) rfl
  have bracket : c ≠ '[' := other_of_number number (by decide) rfl
  unfold readValue
  split
  · next same => exact absurd (List.cons.inj same).1 quote
  · next same => exact absurd (List.cons.inj same).1 brace
  · next same => exact absurd (List.cons.inj same).1 bracket
  · rfl

theorem readValue_noItems (flat : depth < maxNesting) :
    readValue depth (fuel + 1) place ('[' :: ']' :: rest) = .ok (.list [], rest, place + 2) := by
  rw [readValue, if_neg (Nat.not_le.mpr flat)]
  rfl

theorem readValue_noMembers (flat : depth < maxNesting) :
    readValue depth (fuel + 1) place ('\x7b' :: '\x7d' :: rest) =
      .ok (.dict [], rest, place + 2) := by
  rw [readValue, if_neg (Nat.not_le.mpr flat)]
  rfl

/-- An array that has items is read as they are. -/
theorem readValue_array {cs : List Char} {items : List Value} {later : Nat}
    (flat : depth < maxNesting) (visible : Visible cs) (more : cs.head? ≠ some ']')
    (read : readItems (depth + 1) fuel (place + 1) cs = .ok (items, rest, later)) :
    readValue depth (fuel + 1) place ('[' :: cs) = .ok (.list items, rest, later) := by
  rw [readValue, if_neg (Nat.not_le.mpr flat)]
  simp only [visible (place + 1)]
  split
  · exact absurd rfl more
  · rw [read]
    rfl

/-- An object that has members is read as they are. -/
theorem readValue_object {cs : List Char} {entries : List (Value × Value)} {later : Nat}
    (flat : depth < maxNesting) (visible : Visible cs) (more : cs.head? ≠ some '\x7d')
    (read : readMembers (depth + 1) fuel [] (place + 1) cs = .ok (entries, rest, later)) :
    readValue depth (fuel + 1) place ('\x7b' :: cs) = .ok (.dict entries, rest, later) := by
  rw [readValue, if_neg (Nat.not_le.mpr flat)]
  simp only [visible (place + 1)]
  split
  · exact absurd rfl more
  · rw [read]
    rfl

/-! ### Items and members -/

section Parts

variable {cs more : List Char} {v : Value} {later : Nat}

theorem readItems_last (read : readValue depth fuel place cs = .ok (v, ']' :: rest, later)) :
    readItems depth (fuel + 1) place cs = .ok ([v], rest, later + 1) := by
  rw [readItems, read]
  rfl

theorem readItems_more {items : List Value} {last : Nat} (visible : Visible more)
    (read : readValue depth fuel place cs = .ok (v, ',' :: ' ' :: more, later))
    (readMore : readItems depth fuel (later + 2) more = .ok (items, rest, last)) :
    readItems depth (fuel + 1) place cs = .ok (v :: items, rest, last) := by
  have comma : skipSpace later (',' :: ' ' :: more) = (',' :: ' ' :: more, later) := rfl
  rw [readItems, read]
  simp only [bind, Except.bind, comma, visible.skipSpace_blank (later + 1), readMore]

variable {acc : List (Value × Value)} {name : String}

/-- The name of a member and its value, which end where the next member or none follows. -/
theorem readMembers_name (visible : Visible cs)
    (read : readValue depth fuel (place + (quotedText name).length + 2) cs =
      .ok (v, rest, later)) :
    readMembers depth (fuel + 1) acc place (quotedText name ++ ':' :: ' ' :: cs) =
      let (rest, place) := skipSpace later rest
      match rest with
      | '\x7d' :: rest => .ok (Value.putField acc name v, rest, place + 1)
      | ',' :: rest =>
          let (rest, place) := skipSpace (place + 1) rest
          readMembers depth fuel (Value.putField acc name v) place rest
      | _ => fail .expectingComma place := by
  have named := readString_quotedText name place (':' :: ' ' :: cs)
  have colon (p : Nat) : skipSpace p (':' :: ' ' :: cs) = (':' :: ' ' :: cs, p) := rfl
  have blank (p : Nat) : skipSpace p (' ' :: cs) = (cs, p + 1) := visible.skipSpace_blank p
  rw [quotedText, List.cons_append, List.append_assoc, List.singleton_append, readMembers, named]
  simp only [bind, Except.bind, colon, blank]
  rewrite [read]
  rfl

theorem readMembers_last (visible : Visible cs)
    (read : readValue depth fuel (place + (quotedText name).length + 2) cs =
      .ok (v, '\x7d' :: rest, later)) :
    readMembers depth (fuel + 1) acc place (quotedText name ++ ':' :: ' ' :: cs) =
      .ok (Value.putField acc name v, rest, later + 1) :=
  readMembers_name visible read

theorem readMembers_more (visible : Visible cs) (next : Visible more)
    (read : readValue depth fuel (place + (quotedText name).length + 2) cs =
      .ok (v, ',' :: ' ' :: more, later)) :
    readMembers depth (fuel + 1) acc place (quotedText name ++ ':' :: ' ' :: cs) =
      readMembers depth fuel (Value.putField acc name v) (later + 2) more := by
  have comma : skipSpace later (',' :: ' ' :: more) = (',' :: ' ' :: more, later) := rfl
  rw [readMembers_name visible read]
  simp only [comma, next.skipSpace_blank (later + 1)]

end Parts

end Values

mutual

/-- A value is read as it was written, up to what follows it. -/
theorem readValue_dataText (v : Value) (data : IsData v) {depth fuel place : Nat}
    {rest : List Char} (flat : depth + nesting v ≤ maxNesting)
    (enough : (dataText v).length ≤ fuel) (ends : EndsNumber rest) :
    readValue depth fuel place (dataText v ++ rest) =
      .ok (v, rest, place + (dataText v).length) := by
  have written := length_dataText_pos data
  obtain ⟨fuel, rfl⟩ : ∃ n, fuel = n + 1 := ⟨fuel - 1, by omega⟩
  cases v with
  | null => exact readValue_null
  | bool b => exact readValue_bool b
  | int n => exact readValue_number data ends
  | str s => exact readValue_string s
  | list items =>
      rw [nesting] at flat
      have below : depth < maxNesting := by omega
      rw [dataText, List.length_cons, List.length_append, List.length_singleton] at enough ⊢
      rw [List.cons_append, List.append_assoc, List.singleton_append]
      by_cases none : items = []
      · subst none
        exact readValue_noItems below
      · have last : place + 1 + (itemsText items).length + 1 =
            place + ((itemsText items).length + 1 + 1) := by omega
        have read : readItems (depth + 1) fuel (place + 1) (itemsText items ++ ']' :: rest) =
            .ok (items, rest, place + 1 + (itemsText items).length + 1) :=
          readItems_itemsText items data none (by omega) (by omega)
        obtain ⟨visible, more⟩ := itemsText_begins data none (']' :: rest)
        rw [last] at read
        exact readValue_array below visible more read
  | dict entries =>
      obtain ⟨once, data⟩ := data
      rw [nesting] at flat
      have below : depth < maxNesting := by omega
      rw [dataText, List.length_cons, List.length_append, List.length_singleton] at enough ⊢
      rw [List.cons_append, List.append_assoc, List.singleton_append]
      by_cases none : entries = []
      · subst none
        exact readValue_noMembers below
      · have last : place + 1 + (membersText entries).length + 1 =
            place + ((membersText entries).length + 1 + 1) := by omega
        have read : readMembers (depth + 1) fuel [] (place + 1)
              (membersText entries ++ '\x7d' :: rest) =
            .ok ([] ++ entries, rest, place + 1 + (membersText entries).length + 1) :=
          readMembers_membersText entries data none once (by omega) (by omega)
        obtain ⟨visible, more⟩ := membersText_begins data none ('\x7d' :: rest)
        rw [last] at read
        exact readValue_object below visible more read
  | _ => cases data

/-- The items of an array are read up to its end. -/
theorem readItems_itemsText (items : List Value) (data : AllData items) (some : items ≠ [])
    {depth fuel place : Nat} {rest : List Char} (flat : depth + nestingAll items ≤ maxNesting)
    (enough : (itemsText items).length < fuel) :
    readItems depth fuel place (itemsText items ++ ']' :: rest) =
      .ok (items, rest, place + (itemsText items).length + 1) := by
  obtain ⟨fuel, rfl⟩ : ∃ n, fuel = n + 1 := ⟨fuel - 1, by omega⟩
  match items, data with
  | x :: more, ⟨item, later⟩ =>
      have written := length_dataText_pos item
      rw [nestingAll] at flat
      rw [itemsText, List.length_append] at enough ⊢
      rw [List.append_assoc]
      have read : readValue depth fuel place (dataText x ++ (laterItems more ++ ']' :: rest)) =
          .ok (x, laterItems more ++ ']' :: rest, place + (dataText x).length) :=
        readValue_dataText x item (by omega) (by omega) (endsNumber_laterItems more rest)
      by_cases none : more = []
      · subst none
        exact readItems_last read
      · rw [laterItems_eq none, List.length_cons, List.length_cons] at enough ⊢
        rw [laterItems_eq none] at read
        have last : place + (dataText x).length + 2 + (itemsText more).length + 1 =
            place + ((dataText x).length + ((itemsText more).length + 1 + 1)) + 1 := by omega
        have readMore : readItems depth fuel (place + (dataText x).length + 2)
              (itemsText more ++ ']' :: rest) =
            .ok (more, rest, place + (dataText x).length + 2 + (itemsText more).length + 1) :=
          readItems_itemsText more later none (by omega) (by omega)
        rw [last] at readMore
        exact readItems_more (itemsText_begins later none _).1 read readMore

/-- The members of an object are read up to its end. -/
theorem readMembers_membersText (entries : List (Value × Value)) (data : MembersData entries)
    (some : entries ≠ []) {depth fuel place : Nat} {acc : List (Value × Value)} {rest : List Char}
    (once : ((acc ++ entries).map Prod.fst).Nodup)
    (flat : depth + nestingMembers entries ≤ maxNesting)
    (enough : (membersText entries).length < fuel) :
    readMembers depth fuel acc place (membersText entries ++ '\x7d' :: rest) =
      .ok (acc ++ entries, rest, place + (membersText entries).length + 1) := by
  obtain ⟨fuel, rfl⟩ : ∃ n, fuel = n + 1 := ⟨fuel - 1, by omega⟩
  match entries, data with
  | (_, v) :: more, ⟨⟨name, rfl⟩, value, later⟩ =>
      rw [nestingMembers] at flat
      rw [membersText, nameText, List.length_append, List.length_cons, List.length_cons,
        List.length_append] at enough ⊢
      have fresh : Value.str name ∉ acc.map Prod.fst := by
        rw [List.map_append] at once
        exact fun old => (List.nodup_append.mp once).2.2 _ old _ List.mem_cons_self rfl
      have put := putField_of_not_mem fresh v
      have visible := visible_dataText value (laterMembers more ++ '\x7d' :: rest)
      have read : readValue depth fuel (place + (quotedText name).length + 2)
            (dataText v ++ (laterMembers more ++ '\x7d' :: rest)) =
          .ok (v, laterMembers more ++ '\x7d' :: rest,
            place + (quotedText name).length + 2 + (dataText v).length) :=
        readValue_dataText v value (by omega) (by omega) (endsNumber_laterMembers more rest)
      simp only [List.append_assoc, List.cons_append]
      by_cases none : more = []
      · subst none
        have last : place + (quotedText name).length + 2 + (dataText v).length + 1 =
            place + ((quotedText name).length
              + ((dataText v).length + (laterMembers []).length + 1 + 1)) + 1 := by
          rw [laterMembers, List.length_nil]
          omega
        rw [← put, ← last]
        exact readMembers_last visible read
      · rw [laterMembers_eq none, List.length_cons, List.length_cons] at enough ⊢
        rw [laterMembers_eq none] at read visible
        have last : place + (quotedText name).length + 2 + (dataText v).length + 2
              + (membersText more).length + 1 =
            place + ((quotedText name).length + ((dataText v).length
              + ((membersText more).length + 1 + 1) + 1 + 1)) + 1 := by omega
        have whole : acc ++ (Value.str name, v) :: more =
            acc ++ [(Value.str name, v)] ++ more := by
          rw [List.append_assoc]
          rfl
        have readMore : readMembers depth fuel (acc ++ [(Value.str name, v)])
              (place + (quotedText name).length + 2 + (dataText v).length + 2)
              (membersText more ++ '\x7d' :: rest) =
            .ok (acc ++ [(Value.str name, v)] ++ more, rest,
              place + (quotedText name).length + 2 + (dataText v).length + 2
                + (membersText more).length + 1) :=
          readMembers_membersText more later none (whole ▸ once) (by omega) (by omega)
        rw [whole, ← last, ← readMore, ← put]
        exact readMembers_more visible (membersText_begins later none _).1 read

end

end Json

end Workflow
