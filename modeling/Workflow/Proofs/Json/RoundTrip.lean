import Workflow.Proofs.Json.Data

/-!
# Writing data and reading it back

Data are written as their text on one line, so they are read back as they were.  Where
values lie too deep in others nothing is written.
-/

namespace Workflow

namespace Json

/-! ## Parts between brackets -/

theorem quote_eq (s : String) : quote true s = String.ofList (quotedText s) :=
  rfl

theorem enclose_line (level : Nat) (opening closing : String) (parts : List String) :
    enclose lineStyle level opening closing parts =
      opening ++ ", ".intercalate parts ++ closing := by
  cases parts with
  | nil => simp [enclose]
  | cons part rest => simp [enclose, lineStyle, breakLine]

/-- Texts with commas between them. -/
theorem intercalate_comma {α : Type} (text : α -> List Char) (x : α) (rest : List α) :
    ", ".intercalate ((x :: rest).map fun y => String.ofList (text y)) =
      String.ofList (text x ++ rest.flatMap fun y => ',' :: ' ' :: text y) := by
  induction rest generalizing x with
  | nil =>
      rw [List.flatMap_nil, List.append_nil]
      exact String.intercalate_singleton
  | cons y more ih =>
      have comma : ", " = String.ofList [',', ' '] := rfl
      have later := ih y
      rw [List.map_cons] at later
      rw [List.map_cons, List.map_cons, String.intercalate_cons_cons, later, comma,
        ← String.ofList_append, ← String.ofList_append, List.flatMap_cons, List.append_assoc]
      rfl

theorem laterItems_eq_flatMap (items : List Value) :
    laterItems items = items.flatMap fun x => ',' :: ' ' :: dataText x := by
  induction items with
  | nil => rfl
  | cons x rest ih =>
      rw [laterItems, ih]
      rfl

theorem intercalate_itemsText (items : List Value) :
    ", ".intercalate (items.map fun x => String.ofList (dataText x)) =
      String.ofList (itemsText items) := by
  cases items with
  | nil => rfl
  | cons x rest => rw [intercalate_comma, itemsText, laterItems_eq_flatMap]

/-- A member on one line. -/
def memberText (entry : Value × Value) : List Char :=
  nameText entry.1 ++ ':' :: ' ' :: dataText entry.2

theorem laterMembers_eq_flatMap (entries : List (Value × Value)) :
    laterMembers entries = entries.flatMap fun entry => ',' :: ' ' :: memberText entry := by
  induction entries with
  | nil => rfl
  | cons entry rest ih =>
      rw [laterMembers, ih, List.flatMap_cons, memberText]
      simp

theorem intercalate_membersText (entries : List (Value × Value)) :
    ", ".intercalate (entries.map fun entry => String.ofList (memberText entry)) =
      String.ofList (membersText entries) := by
  cases entries with
  | nil => rfl
  | cons entry rest =>
      rw [intercalate_comma, membersText, laterMembers_eq_flatMap, memberText]
      simp

theorem enclose_itemsText (level : Nat) (items : List Value) :
    enclose lineStyle level "[" "]" (items.map fun x => String.ofList (dataText x)) =
      String.ofList (dataText (.list items)) := by
  have opening : "[" = String.ofList ['['] := rfl
  have closing : "]" = String.ofList [']'] := rfl
  rw [enclose_line, intercalate_itemsText, dataText, opening, closing, ← String.ofList_append,
    ← String.ofList_append]
  rfl

theorem enclose_membersText (level : Nat) (entries : List (Value × Value)) :
    enclose lineStyle level "\x7b" "\x7d"
        (entries.map fun entry => String.ofList (memberText entry)) =
      String.ofList (dataText (.dict entries)) := by
  have opening : "\x7b" = String.ofList ['\x7b'] := rfl
  have closing : "\x7d" = String.ofList ['\x7d'] := rfl
  rw [enclose_line, intercalate_membersText, dataText, opening, closing, ← String.ofList_append,
    ← String.ofList_append]
  rfl

/-! ## Writing -/

/-- A result, unless values lie too deep. -/
def shallow {α : Type} (level depth : Nat) (a : α) : Outcome α :=
  if level + depth ≤ maxNesting then .ok a else .error (tooDeep lineStyle)

section Shallow

variable {α β γ : Type} {level : Nat}

theorem shallow_zero (flat : level ≤ maxNesting) (a : α) : shallow level 0 a = .ok a :=
  if_pos flat

/-- Of two parts the deeper one decides. -/
theorem shallow_max (m n : Nat) (a : α) (b : β) (f : α -> β -> γ) :
    (do
      let x <- shallow level m a
      .ok (f x (<- shallow level n b))) = shallow level (max m n) (f a b) := by
  unfold shallow
  by_cases first : level + m ≤ maxNesting
  · by_cases second : level + n ≤ maxNesting
    · rw [if_pos first, if_pos second, if_pos (by omega)]
      rfl
    · rw [if_pos first, if_neg second, if_neg (by omega)]
      rfl
  · have deeper : ¬ level + max m n ≤ maxNesting := by omega
    rw [if_neg first, if_neg deeper]
    rfl

/-- Parts between brackets lie one level deeper. -/
theorem nested_shallow {made : Outcome α} {n : Nat} {a : α} (f : α -> String)
    (inside : level + 1 ≤ maxNesting -> made = shallow (level + 1) n a) :
    nested lineStyle level (do .ok (f (<- made))) = shallow level (n + 1) (f a) := by
  unfold nested
  by_cases deep : maxNesting ≤ level
  · rw [shallow, if_pos deep, if_neg (by omega)]
  · rw [if_neg deep, inside (by omega), shallow, shallow]
    by_cases fits : level + 1 + n ≤ maxNesting
    · rw [if_pos fits, if_pos (by omega)]
      rfl
    · rw [if_neg fits, if_neg (by omega)]
      rfl

end Shallow

/-- The members of an object on one line, as far as they have texts. -/
def memberTexts (level : Nat) (entries : List (Value × Value)) : Outcome (List String) := do
  let members <- ((writeMembers lineStyle level entries).map Prod.snd).mapM id
  .ok (members.map fun (name, text) => quote true name ++ ": " ++ text)

theorem memberTexts_cons (level : Nat) (name : String) (v : Value)
    (rest : List (Value × Value)) :
    memberTexts level ((.str name, v) :: rest) =
      (do
        let text <- writeAt lineStyle level v
        .ok ((quote true name ++ ": " ++ text) :: (<- memberTexts level rest))) := by
  have key : keyText (.str name) = .ok name := rfl
  simp only [memberTexts, writeMembers, List.map_cons, List.mapM_cons, id, key]
  cases writeAt lineStyle level v with
  | error e => rfl
  | ok text =>
      cases ((writeMembers lineStyle level rest).map Prod.snd).mapM id with
      | error e => rfl
      | ok members => rfl

theorem writeAt_dict (level : Nat) (entries : List (Value × Value)) :
    writeAt lineStyle level (.dict entries) = nested lineStyle level (do
      .ok (enclose lineStyle level "\x7b" "\x7d" (<- memberTexts (level + 1) entries))) := by
  have unsorted : arranged lineStyle (writeMembers lineStyle (level + 1) entries) =
      .ok ((writeMembers lineStyle (level + 1) entries).map Prod.snd) := rfl
  rw [writeAt, memberTexts, unsorted]
  simp only [bind, Except.bind]
  cases ((writeMembers lineStyle (level + 1) entries).map Prod.snd).mapM id with
  | error e => rfl
  | ok members => rfl

mutual

/-- A value is written on one line, unless values lie too deep in it. -/
theorem writeAt_data (v : Value) (data : IsData v) {level : Nat} (flat : level ≤ maxNesting) :
    writeAt lineStyle level v = shallow level (nesting v) (String.ofList (dataText v)) := by
  cases v with
  | null => exact (shallow_zero flat _).symm
  | bool b =>
      cases b with
      | true => exact (shallow_zero flat _).symm
      | false => exact (shallow_zero flat _).symm
  | int n =>
      have short : ¬ (Value.int n).exceedsDigits = true := by
        rw [data]
        exact Bool.false_ne_true
      have single : nesting (.int n) = 0 := rfl
      rw [writeAt, if_neg short, single, shallow_zero flat, dataText, String.ofList_toList]
  | str s => exact (shallow_zero flat _).symm
  | list items =>
      rw [writeAt, nesting, ← enclose_itemsText level items]
      exact nested_shallow (enclose lineStyle level "[" "]") (writeItems_data items data)
  | dict entries =>
      rw [writeAt_dict, nesting, ← enclose_membersText level entries]
      exact nested_shallow (enclose lineStyle level "\x7b" "\x7d")
        (memberTexts_data entries data.2)
  | _ => cases data

theorem writeItems_data (items : List Value) (data : AllData items) {level : Nat}
    (flat : level ≤ maxNesting) :
    writeItems lineStyle level items =
      shallow level (nestingAll items) (items.map fun x => String.ofList (dataText x)) := by
  match items, data with
  | [], _ => exact (shallow_zero flat _).symm
  | x :: rest, ⟨item, later⟩ =>
      rw [writeItems, nestingAll, writeAt_data x item flat, writeItems_data rest later flat]
      exact shallow_max _ _ _ _ List.cons

theorem memberTexts_data (entries : List (Value × Value)) (data : MembersData entries)
    {level : Nat} (flat : level ≤ maxNesting) :
    memberTexts level entries = shallow level (nestingMembers entries)
      (entries.map fun entry => String.ofList (memberText entry)) := by
  match entries, data with
  | [], _ => exact (shallow_zero flat _).symm
  | (_, v) :: rest, ⟨⟨name, rfl⟩, value, later⟩ =>
      have colon : ": " = String.ofList [':', ' '] := rfl
      have member : String.ofList (memberText (.str name, v)) =
          quote true name ++ ": " ++ String.ofList (dataText v) := by
        rw [memberText, nameText, quote_eq, colon, ← String.ofList_append, ← String.ofList_append,
          List.append_assoc]
        rfl
      rw [memberTexts_cons, nestingMembers, writeAt_data v value flat,
        memberTexts_data rest later flat, List.map_cons, member]
      exact shallow_max _ _ _ _ fun text more => (quote true name ++ ": " ++ text) :: more

end

/-! ## The whole document -/

theorem write_data {v : Value} (data : IsData v) :
    write lineStyle v = shallow 0 (nesting v) (String.ofList (dataText v)) :=
  writeAt_data v data (Nat.zero_le maxNesting)

/-- The text of a value is a document, and the value is what it holds. -/
theorem read_dataText {v : Value} (data : IsData v) (flat : nesting v ≤ maxNesting) :
    read (String.ofList (dataText v)) = .ok v := by
  obtain ⟨c, cs, begins, visible, -, unmarked⟩ := dataText_begins data
  have whole : readValue 0 ((dataText v).length + 1) 0 (dataText v ++ []) =
      .ok (v, [], 0 + (dataText v).length) :=
    readValue_dataText v data (by omega) (Nat.le_succ _) fun c first => nomatch first
  have front : skipSpace 0 (c :: cs) = (c :: cs, 0) := visible_cons visible cs 0
  rw [List.append_nil, begins] at whole
  rw [read, String.toList_ofList, begins]
  split
  · next same => exact absurd (List.cons.inj same).1 unmarked
  · simp only [front, whole]
    rfl

/-- What was written is read as what it was written for. -/
theorem read_write {v : Value} {text : String} (data : IsData v)
    (written : write lineStyle v = .ok text) : read text = .ok v := by
  rw [write_data data, shallow] at written
  split at written
  · next flat =>
      cases written
      exact read_dataText data (by omega)
  · cases written

end Json

end Workflow
