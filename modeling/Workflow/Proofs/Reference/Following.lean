import Workflow.Proofs.Number.Digits
import Workflow.Proofs.Reference.Returning

/-!
# Where a path ends

A path is followed key by key.  It ends early where a value has nothing under the next key.
It cannot be followed at all where a sequence is to be read at a place whose number is none.
-/

namespace Workflow

open Text (isDecimal isDigitSign)

namespace Reference

/-! ## Positions -/

/-- A key that is no number: one that is empty, or has another character than signs for digits. -/
def IsWordKey (key : String) : Prop :=
  key = "" ∨ ∃ c ∈ key.toList, isDigitSign c = false

/--
A key that looks like a number and is none: it has signs for digits alone, of which one is
no decimal digit, or more digits than an integer may have.
-/
structure IsFalseNumber (key : String) : Prop where
  filled : key ≠ ""
  signs : ∀ c ∈ key.toList, isDigitSign c = true
  unread : (∃ c ∈ key.toList, isDecimal c = false) ∨ Number.maxDigits < key.toList.length

theorem position?_of_word {key : String} (word : IsWordKey key) : position? key = .ok none := by
  have odd : (key.isEmpty || !key.toList.all isDigitSign) = true := by
    rcases word with rfl | ⟨c, hc, other⟩
    · rfl
    · have some : ¬ key.toList.all isDigitSign = true := fun all => by
        rw [List.all_eq_true.mp all c hc] at other
        cases other
      simp [some]
  rw [position?, if_pos odd]

theorem position?_of_signs {key : String} (filled : key ≠ "")
    (signs : ∀ c ∈ key.toList, isDigitSign c = true) :
    position? key = (do
      match <- Value.intOfText 10 key (.str key) with
      | .int n => .ok (some n.toNat)
      | _ => .ok none) := by
  have all : (key.isEmpty || !key.toList.all isDigitSign) = false := by
    rw [List.all_eq_true.mpr signs, Bool.not_true, Bool.or_false, String.isEmpty_eq_false_iff]
    exact filled
  rewrite [position?, all, if_neg Bool.false_ne_true]
  rfl

theorem position?_of_value {key : String} (filled : key ≠ "")
    (signs : ∀ c ∈ key.toList, isDigitSign c = true) {n : Int}
    (read : Number.readInt 10 key = .value n) : position? key = .ok (some n.toNat) := by
  rw [position?_of_signs filled signs, Value.intOfText, read]
  rfl

theorem position?_of_false {key : String} (h : IsFalseNumber key) :
    ∃ e, position? key = .error e := by
  have unread : ¬ ∃ n, Number.readInt 10 key = .value n := by
    rw [Number.readInt_digits h.filled h.signs]
    rintro ⟨decimal, short⟩
    rcases h.unread with ⟨c, hc, other⟩ | long
    · rw [decimal c hc] at other
      cases other
    · omega
  rw [position?_of_signs h.filled h.signs, Value.intOfText]
  cases read : Number.readInt 10 key with
  | value n => exact absurd ⟨n, read⟩ unread
  | tooLong digits => exact ⟨_, rfl⟩
  | invalid => exact ⟨_, rfl⟩

/-- A key is a word, a number or looks like one. -/
theorem position?_cases (key : String) :
    (IsWordKey key ∧ position? key = .ok none) ∨ (∃ n, position? key = .ok (some n)) ∨
      IsFalseNumber key := by
  by_cases word : IsWordKey key
  · exact .inl ⟨word, position?_of_word word⟩
  · obtain ⟨filled, plain⟩ := not_or.mp word
    have signs : ∀ c ∈ key.toList, isDigitSign c = true := by simpa using plain
    by_cases read : ∃ n, Number.readInt 10 key = .value n
    · obtain ⟨n, read⟩ := read
      exact .inr (.inl ⟨_, position?_of_value filled signs read⟩)
    · refine .inr (.inr ⟨filled, signs, ?_⟩)
      rw [Number.readInt_digits filled signs, not_and_or] at read
      rcases read with odd | long
      · exact .inl (by simpa using odd)
      · exact .inr (Nat.not_le.mp long)

/-! ## One key -/

/-- A value that is read by key. -/
def IsMapping (v : Value) (entries : List (Value × Value)) : Prop :=
  v.bare = .dict entries ∨ v.bare = .sealed entries

/-- A value that is read by position. -/
def IsSequence (v : Value) (items : List Value) : Prop :=
  v.bare = .list items ∨ v.bare = .tuple items

/-- A value that is read by attribute. -/
structure IsPlain (v : Value) : Prop where
  something : v.bare ≠ .null
  keyless : ∀ entries, ¬ IsMapping v entries
  single : ∀ items, ¬ IsSequence v items

/-- A value has nothing under a key. -/
inductive Ends (v : Value) (key : String) : Prop where
  | null (nothing : v.bare = .null)
  | key {entries : List (Value × Value)} (mapping : IsMapping v entries)
      (absent : Value.field? entries key = none)
  | word {items : List Value} (sequence : IsSequence v items) (word : IsWordKey key)
  | beyond {items : List Value} {n : Nat} (sequence : IsSequence v items)
      (position : position? key = .ok (some n)) (beyond : items.length ≤ n)
  | field (plain : IsPlain v)
      (absent : key.startsWith "_" = true ∨ Value.attribute? v key = none)

/-- A sequence is read at a place whose number is none. -/
def Trips (v : Value) (key : String) : Prop :=
  (∃ items, IsSequence v items) ∧ IsFalseNumber key

variable {v : Value} {key : String}

theorem child?_mapping {entries : List (Value × Value)} (h : IsMapping v entries) :
    child? v key = .ok (Value.field? entries key) := by
  rcases h with h | h <;> rw [child?, h]

theorem child?_sequence {items : List Value} (h : IsSequence v items) :
    child? v key = (do .ok ((<- position? key).bind fun n => items[n]?)) := by
  rcases h with h | h <;> rw [child?, h]

theorem child?_plain (h : IsPlain v) :
    child? v key = .ok (if key.startsWith "_" then none else Value.attribute? v key) := by
  unfold child?
  split
  · next nothing => exact absurd nothing h.something
  · next entries same => exact absurd (.inl same) (h.keyless entries)
  · next entries same => exact absurd (.inr same) (h.keyless entries)
  · next items same => exact absurd (.inl same) (h.single items)
  · next items same => exact absurd (.inr same) (h.single items)
  · rfl

theorem sort_cases (v : Value) : v.bare = .null ∨ (∃ entries, IsMapping v entries) ∨
    (∃ items, IsSequence v items) ∨ IsPlain v := by
  by_cases nothing : v.bare = .null
  · exact .inl nothing
  by_cases mapping : ∃ entries, IsMapping v entries
  · exact .inr (.inl mapping)
  by_cases sequence : ∃ items, IsSequence v items
  · exact .inr (.inr (.inl sequence))
  · exact .inr (.inr (.inr ⟨nothing, not_exists.mp mapping, not_exists.mp sequence⟩))

theorem child?_of_ends (h : Ends v key) : child? v key = .ok none := by
  cases h with
  | null nothing => rw [child?, nothing]
  | key mapping absent => rw [child?_mapping mapping, absent]
  | word sequence word => rw [child?_sequence sequence, position?_of_word word]; rfl
  | beyond sequence position beyond =>
      rw [child?_sequence sequence, position]
      exact congrArg Except.ok (List.getElem?_eq_none beyond)
  | field plain absent =>
      rw [child?_plain plain]
      rcases absent with hidden | absent
      · rw [if_pos hidden]
      · rw [absent, ite_self]

theorem child?_of_trips (h : Trips v key) : ∃ e, child? v key = .error e := by
  obtain ⟨⟨items, sequence⟩, no⟩ := h
  obtain ⟨e, failed⟩ := position?_of_false no
  exact ⟨e, by rw [child?_sequence sequence, failed]; rfl⟩

/-- Under a key there is something or nothing, or it is no number. -/
theorem child?_cases (v : Value) (key : String) :
    Ends v key ∨ (∃ w, child? v key = .ok (some w)) ∨ Trips v key := by
  rcases sort_cases v with nothing | ⟨entries, mapping⟩ | ⟨items, sequence⟩ | plain
  · exact .inl (.null nothing)
  · cases found : Value.field? entries key with
    | none => exact .inl (.key mapping found)
    | some w => exact .inr (.inl ⟨w, by rw [child?_mapping mapping, found]⟩)
  · rcases position?_cases key with ⟨word, -⟩ | ⟨n, position⟩ | no
    · exact .inl (.word sequence word)
    · cases found : items[n]? with
      | none => exact .inl (.beyond sequence position (List.getElem?_eq_none_iff.mp found))
      | some w =>
          refine .inr (.inl ⟨w, ?_⟩)
          rw [child?_sequence sequence, position]
          exact congrArg Except.ok found
    · exact .inr (.inr ⟨⟨items, sequence⟩, no⟩)
  · by_cases hidden : key.startsWith "_" = true
    · exact .inl (.field plain (.inl hidden))
    · cases found : Value.attribute? v key with
      | none => exact .inl (.field plain (.inr found))
      | some w => exact .inr (.inl ⟨w, by rw [child?_plain plain, if_neg hidden, found]⟩)

theorem child?_none_iff : child? v key = .ok none ↔ Ends v key := by
  refine ⟨fun h => ?_, child?_of_ends⟩
  rcases child?_cases v key with ends | ⟨w, found⟩ | trips
  · exact ends
  · rw [h] at found
    cases found
  · obtain ⟨e, failed⟩ := child?_of_trips trips
    rw [h] at failed
    cases failed

theorem child?_error_iff : (∃ e, child? v key = .error e) ↔ Trips v key := by
  refine ⟨fun ⟨e, h⟩ => ?_, child?_of_trips⟩
  rcases child?_cases v key with ends | ⟨w, found⟩ | trips
  · rw [child?_of_ends ends] at h
    cases h
  · rw [h] at found
    cases found
  · exact trips

/-! ## Whole paths -/

/-- Following keys from a value leads to a value and a key of which something holds. -/
inductive Meets (P : Value -> String -> Prop) : Value -> List String -> Prop where
  | here {v : Value} {key : String} {rest : List String} (here : P v key) :
      Meets P v (key :: rest)
  | there {v w : Value} {key : String} {rest : List String} (found : child? v key = .ok (some w))
      (later : Meets P w rest) : Meets P v (key :: rest)

/-- A path leads nowhere in a scope. -/
def Stops (scope : Value) (path : String) : Prop :=
  Meets Ends scope (segments path)

/-- A path cannot be followed in a scope. -/
def Falls (scope : Value) (path : String) : Prop :=
  Meets Trips scope (segments path)

theorem descend?_cons (v : Value) (key : String) (rest : List String) :
    descend? v (key :: rest) = match child? v key with
      | .ok none => .ok none
      | .ok (some w) => descend? w rest
      | .error e => .error e := by
  rw [descend?]
  cases child? v key with
  | error e => rfl
  | ok found => cases found <;> rfl

theorem descend?_none_iff {keys : List String} :
    descend? v keys = .ok none ↔ Meets Ends v keys := by
  induction keys generalizing v with
  | nil => exact ⟨nofun, nofun⟩
  | cons key rest ih =>
      rw [descend?_cons]
      constructor
      · intro h
        split at h
        · next ends => exact .here (child?_none_iff.mp ends)
        · next w found => exact .there found (ih.mp h)
        · cases h
      · intro meets
        cases meets with
        | here ends => rw [child?_of_ends ends]
        | there found later =>
            rw [found]
            exact ih.mpr later

theorem descend?_error_iff {keys : List String} :
    (∃ e, descend? v keys = .error e) ↔ Meets Trips v keys := by
  induction keys generalizing v with
  | nil => exact ⟨nofun, nofun⟩
  | cons key rest ih =>
      rw [descend?_cons]
      constructor
      · rintro ⟨e, h⟩
        split at h
        · cases h
        · next w found => exact .there found (ih.mp ⟨e, h⟩)
        · next e failed => exact .here (child?_error_iff.mp ⟨e, failed⟩)
      · intro meets
        cases meets with
        | here trips =>
            obtain ⟨e, failed⟩ := child?_of_trips trips
            exact ⟨e, by rw [failed]⟩
        | there found later =>
            rw [found]
            exact ih.mpr later

variable {scope : Value} {path : String}

theorem lookup?_none_iff : lookup? scope path = .ok none ↔ Stops scope path :=
  descend?_none_iff

theorem looks_iff : Looks scope path ↔ isDrawn path = true ∨ ¬ Falls scope path := by
  have follows : (∃ found, lookup? scope path = .ok found) ↔ ¬ Falls scope path := by
    rw [Falls, ← descend?_error_iff]
    constructor
    · rintro ⟨found, here⟩ ⟨e, failed⟩
      rw [lookup?, failed] at here
      cases here
    · intro follows
      cases ended : lookup? scope path with
      | ok found => exact ⟨found, rfl⟩
      | error e => exact absurd ⟨e, ended⟩ follows
  rw [Looks, follows]

end Reference

end Workflow
