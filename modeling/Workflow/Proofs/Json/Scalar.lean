import Mathlib.Data.List.TakeDrop
import Workflow.Json.Writing

/-!
# Scalars in JSON documents

Strings and integers are read as they were written.  A character of a string is written as
itself, as a letter after a backslash, or by one or two units of four hexadecimal digits.
An integer is its decimal digits, which end where no part of a number follows.
-/

namespace Workflow

namespace Json

/-! ## Escapes -/

theorem hexDigit?_digitChar {d : Nat} (small : d < 16) : hexDigit? d.digitChar = some d := by
  have all : ∀ d : Fin 16, hexDigit? (Nat.digitChar d) = some d.val := by decide
  exact all ⟨d, small⟩

/-- The last digit of a padded number, and those in front of it. -/
theorem hexPadded_succ (width n : Nat) :
    Text.hexPadded (width + 2) n = Text.hexPadded (width + 1) (n / 16) ++ [(n % 16).digitChar] := by
  unfold Text.hexPadded Number.zeroPad
  by_cases single : n < 16
  · have none : n / 16 = 0 := Nat.div_eq_of_lt single
    have zero : Nat.toDigits 16 0 = ['0'] := rfl
    rw [none, zero, Nat.toDigits_of_lt_base single, Nat.mod_eq_of_lt single]
    simp [List.replicate_succ']
  · rw [Nat.toDigits_of_base_le (by decide) (Nat.le_of_not_lt single), ← List.append_assoc]
    simp

/-- A unit is written with four hexadecimal digits. -/
theorem hexPadded_four {n : Nat} (small : n < 65536) :
    Text.hexPadded 4 n = [(n / 4096).digitChar, (n / 256 % 16).digitChar, (n / 16 % 16).digitChar,
      (n % 16).digitChar] := by
  have first : Text.hexPadded 1 (n / 4096) = [(n / 4096).digitChar] := by
    rw [Text.hexPadded, Nat.toDigits_of_lt_base (by omega)]
    rfl
  have second : n / 16 / 16 = n / 256 := Nat.div_div_eq_div_mul n 16 16
  have third : n / 256 / 16 = n / 4096 := Nat.div_div_eq_div_mul n 256 16
  rw [hexPadded_succ, hexPadded_succ, hexPadded_succ, second, third, first]
  rfl

theorem length_hexPadded {n : Nat} (small : n < 65536) : (Text.hexPadded 4 n).length = 4 := by
  rw [hexPadded_four small]
  rfl

theorem hexQuad?_hexPadded {n : Nat} (small : n < 65536) (rest : List Char) :
    hexQuad? (Text.hexPadded 4 n ++ rest) = some n := by
  rw [hexPadded_four small]
  simp only [List.cons_append, List.nil_append, hexQuad?]
  rw [hexDigit?_digitChar (by omega), hexDigit?_digitChar (Nat.mod_lt _ (by decide)),
    hexDigit?_digitChar (Nat.mod_lt _ (by decide)), hexDigit?_digitChar (Nat.mod_lt _ (by decide))]
  simp only [bind, Option.bind_some, Option.some.injEq]
  omega

/-! ## Strings -/

section Strings

variable {start fuel place : Nat} {acc rest : List Char}

/-- A unit that is no half of a pair is read as its character. -/
theorem readString_unit {n : Nat} (small : n < 65536) (whole : ¬ (0xd800 ≤ n ∧ n ≤ 0xdbff))
    (more : rest ≠ []) :
    readString start (fuel + 1) acc place (unitEscape n ++ rest) =
      readString start fuel (charOf n :: acc) (place + 6) rest := by
  have enough : ¬ (Text.hexPadded 4 n ++ rest).length ≤ 4 := by
    have some := List.length_pos_iff.mpr more
    rw [List.length_append, length_hexPadded small]
    omega
  have behind : (Text.hexPadded 4 n ++ rest).drop 4 = rest := by
    rw [List.drop_left' (length_hexPadded small)]
  have high : (decide (0xd800 ≤ n) && decide (n ≤ 0xdbff)) = false := by
    simpa using whole
  simp only [unitEscape, List.cons_append, readString, enough, hexQuad?_hexPadded small, behind,
    high]
  rfl

/-- Two halves of a pair are read as one character. -/
theorem readString_pair {h l : Nat} (high : 0xd800 ≤ h ∧ h ≤ 0xdbff)
    (low : 0xdc00 ≤ l ∧ l ≤ 0xdfff) :
    readString start (fuel + 1) acc place (unitEscape h ++ (unitEscape l ++ rest)) =
      readString start fuel (Char.ofNat (0x10000 + (h - 0xd800) * 1024 + (l - 0xdc00)) :: acc)
        (place + 12) rest := by
  have small : h < 65536 := by omega
  have tiny : l < 65536 := by omega
  have enough : ¬ (Text.hexPadded 4 h ++ (unitEscape l ++ rest)).length ≤ 4 := by
    rw [List.length_append, length_hexPadded small]
    simp [unitEscape]
  have behind : (Text.hexPadded 4 h ++ (unitEscape l ++ rest)).drop 4 = unitEscape l ++ rest := by
    rw [List.drop_left' (length_hexPadded small)]
  have isHigh : (decide (0xd800 ≤ h) && decide (h ≤ 0xdbff)) = true := by
    simpa using high
  have isLow : (decide (0xdc00 ≤ l) && decide (l ≤ 0xdfff)) = true := by
    simpa using low
  have read : lowHalf? (unitEscape l ++ rest) = some l := by
    simp only [unitEscape, List.cons_append, lowHalf?, hexQuad?_hexPadded tiny, Option.filter,
      isLow, if_true]
  have good : badLowHalf (unitEscape l ++ rest) = false := by
    simp only [unitEscape, List.cons_append, badLowHalf, hexQuad?_hexPadded tiny,
      Option.isNone_some, Bool.and_false]
  have left : (unitEscape l ++ rest).drop 6 = rest := by
    rw [List.drop_left']
    simp [unitEscape, length_hexPadded tiny]
  rw [unitEscape]
  simp only [List.cons_append, readString, enough, hexQuad?_hexPadded small, behind, isHigh, read,
    good, left]
  rfl

/-- A character is no half of a pair. -/
theorem toNat_of_char (c : Char) : c.toNat < 0xd800 ∨ 0xdfff < c.toNat ∧ c.toNat < 0x110000 :=
  c.valid

theorem charOf_toNat (c : Char) : charOf c.toNat = c := by
  have half : (decide (0xd800 ≤ c.toNat) && decide (c.toNat ≤ 0xdfff)) = false := by
    rcases toNat_of_char c with small | large
    · simp; omega
    · simp; omega
  rw [charOf, half]
  exact Char.ofNat_toNat c

theorem length_unitEscape {n : Nat} (small : n < 65536) : (unitEscape n).length = 6 := by
  simp [unitEscape, length_hexPadded small]

theorem readString_escapedChar {c : Char} (small : c.toNat < 65536) (more : rest ≠ []) :
    readString start (fuel + 1) acc place (unitEscape c.toNat ++ rest) =
      readString start fuel (c :: acc) (place + (unitEscape c.toNat).length) rest := by
  have valid := toNat_of_char c
  rw [readString_unit small (by omega) more, charOf_toNat, length_unitEscape small]

/-- Each character of a string is read as it was written. -/
theorem readString_stringChar (c : Char) (more : rest ≠ []) :
    readString start (fuel + 1) acc place (stringChar true c ++ rest) =
      readString start fuel (c :: acc) (place + (stringChar true c).length) rest := by
  unfold stringChar
  split
  iterate 7 rfl
  next quote backslash _ _ _ _ _ =>
    split
    · next control => exact readString_escapedChar (Nat.lt_trans control (by decide)) more
    · next control =>
        split
        · have plain : c ≠ '"' ∧ c ≠ '\\' := ⟨quote, backslash⟩
          simp [readString, plain, control]
        · split
          · next small => exact readString_escapedChar small more
          · next large =>
              have valid := toNat_of_char c
              have code : 0x10000 + (0xd800 + (c.toNat - 0x10000) / 1024 - 0xd800) * 1024 +
                  (0xdc00 + (c.toNat - 0x10000) % 1024 - 0xdc00) = c.toNat := by omega
              rw [List.append_assoc, readString_pair ⟨by omega, by omega⟩ ⟨by omega, by omega⟩, code,
                Char.ofNat_toNat, List.length_append, length_unitEscape (by omega),
                length_unitEscape (by omega)]

/-- The characters of a string up to the quote behind them. -/
theorem readString_flatMap (cs : List Char) (enough : cs.length < fuel) :
    readString start fuel acc place (cs.flatMap (stringChar true) ++ '"' :: rest) =
      .ok (String.ofList (acc.reverse ++ cs), rest,
        place + (cs.flatMap (stringChar true)).length + 1) := by
  induction cs generalizing fuel acc place with
  | nil =>
      obtain ⟨fuel, rfl⟩ : ∃ n, fuel = n + 1 := ⟨fuel - 1, by simp at enough; omega⟩
      simp [readString]
  | cons c cs ih =>
      obtain ⟨fuel, rfl⟩ : ∃ n, fuel = n + 1 := ⟨fuel - 1, by simp at enough; omega⟩
      rw [List.flatMap_cons, List.append_assoc, readString_stringChar c (by simp),
        ih (by simpa using enough)]
      simp [Nat.add_assoc]

end Strings

/-! ## Integers -/

theorem toNat_of_isDigit {c : Char} (h : c.isDigit = true) : 48 ≤ c.toNat ∧ c.toNat ≤ 57 := by
  simpa [Char.isDigit, UInt32.le_iff_toNat_le] using h

theorem digitValue?_of_isDigit {c : Char} (h : c.isDigit = true) :
    Number.digitValue? c = some (c.toNat - '0'.toNat) ∧ c.toNat - '0'.toNat < 10 ∧ c ≠ '_' := by
  have all : ∀ d : Fin 10, Number.digitValue? (Char.ofNat (48 + d)) = some d.val ∧
      Char.ofNat (48 + d) ≠ '_' := by decide +kernel
  have bounds := toNat_of_isDigit h
  have known := all ⟨c.toNat - 48, by omega⟩
  have same : 48 + (c.toNat - 48) = c.toNat := by omega
  simp only [same, Char.ofNat_toNat] at known
  have zero : '0'.toNat = 48 := rfl
  rw [zero]
  exact ⟨known.1, by omega, known.2⟩

theorem digitsValue?_go {ds : List Char} (digits : ∀ c ∈ ds, c.isDigit = true) (acc : Nat) :
    Number.digitsValue?.go 10 true acc ds = some (Nat.ofDigitChars 10 ds acc) := by
  induction ds generalizing acc with
  | nil => rfl
  | cons c rest ih =>
      obtain ⟨value, small, other⟩ := digitValue?_of_isDigit (digits c List.mem_cons_self)
      have later := ih (fun d hd => digits d (List.mem_cons_of_mem c hd))
        (acc * 10 + (c.toNat - '0'.toNat))
      rw [Number.digitsValue?.go.eq_3 _ _ _ _ _ other, value]
      simp only [small, if_true, later, Nat.ofDigitChars, List.foldl_cons, Nat.mul_comm 10 acc]

theorem isDigit_toDigits (n : Nat) : ∀ c ∈ Nat.toDigits 10 n, c.isDigit = true :=
  fun _ hc => Nat.isDigit_of_mem_toDigits (by decide) (by decide) hc

/-- A number begins with a digit. -/
theorem toDigits_begins (n : Nat) :
    ∃ c rest, Nat.toDigits 10 n = c :: rest ∧ c.isDigit = true := by
  have digits := isDigit_toDigits n
  cases written : Nat.toDigits 10 n with
  | nil => exact absurd written Nat.toDigits_ne_nil
  | cons c rest =>
      rw [written] at digits
      exact ⟨c, rest, rfl, digits c List.mem_cons_self⟩

/-- The digits of a number have its value. -/
theorem digitsValue?_toDigits (n : Nat) : Number.digitsValue? 10 (Nat.toDigits 10 n) = some n := by
  have whole := digitsValue?_go (isDigit_toDigits n) 0
  rw [Nat.ofDigitChars_ten_toDigits] at whole
  obtain ⟨c, rest, written, digit⟩ := toDigits_begins n
  obtain ⟨-, -, other⟩ := digitValue?_of_isDigit digit
  rw [written, Number.digitsValue?.go.eq_3 _ _ _ _ _ other] at whole
  rw [written, Number.digitsValue?, Number.digitsValue?.go.eq_3 _ _ _ _ _ other, whole]

/-- What no number goes on with stands next. -/
def EndsNumber (rest : List Char) : Prop :=
  ∀ c ∈ rest.head?, c.isDigit = false ∧ c ≠ '.' ∧ c ≠ 'e' ∧ c ≠ 'E'

theorem spanDigits_append {ds rest : List Char} (digits : ∀ c ∈ ds, c.isDigit = true)
    (ends : EndsNumber rest) : spanDigits (ds ++ rest) = (ds, rest) := by
  have taken : rest.takeWhile Char.isDigit = [] := by
    cases rest with
    | nil => rfl
    | cons c more => rw [List.takeWhile_cons_of_neg (by simp [(ends c rfl).1])]
  have dropped : rest.dropWhile Char.isDigit = rest := by
    cases rest with
    | nil => rfl
    | cons c more => rw [List.dropWhile_cons_of_neg (by simp [(ends c rfl).1])]
  rw [spanDigits, List.span_eq_takeWhile_dropWhile, List.takeWhile_append_of_pos digits,
    List.dropWhile_append_of_pos digits, taken, dropped, List.append_nil]

/-- The digits of a number do not begin with a zero, unless it is zero. -/
theorem head?_toDigits {n : Nat} (h : n ≠ 0) : (Nat.toDigits 10 n).head? ≠ some '0' := by
  induction n using Nat.strongRecOn with
  | ind n ih =>
      by_cases single : n < 10
      · have all : ∀ d : Fin 10, d.val ≠ 0 → Nat.digitChar d ≠ '0' := by decide
        rw [Nat.toDigits_of_lt_base single, List.head?_cons]
        exact fun same => all ⟨n, single⟩ h (Option.some.inj same)
      · rw [Nat.toDigits_of_base_le (by decide) (Nat.le_of_not_lt single),
          List.head?_append]
        have front := ih (n / 10) (by omega) (by omega)
        obtain ⟨c, rest, written, -⟩ := toDigits_begins (n / 10)
        rw [written] at front ⊢
        exact front

theorem wholePart?_toDigits (n : Nat) {rest : List Char} (ends : EndsNumber rest) :
    wholePart? (Nat.toDigits 10 n ++ rest) = some (Nat.toDigits 10 n, rest) := by
  by_cases zero : n = 0
  · subst zero
    rfl
  · have first := head?_toDigits zero
    have split := spanDigits_append (isDigit_toDigits n) ends
    obtain ⟨c, more, written, digit⟩ := toDigits_begins n
    rw [written] at first split ⊢
    unfold wholePart?
    split
    · next same =>
        obtain ⟨rfl, -⟩ := List.cons.inj same
        exact absurd rfl first
    · next same =>
        obtain ⟨rfl, -⟩ := List.cons.inj same
        rw [if_pos digit, split]
    · next same => cases same

theorem fractionPart_of_ends {rest : List Char} (ends : EndsNumber rest) :
    fractionPart rest = ([], rest) := by
  unfold fractionPart
  split
  · exact absurd rfl (ends '.' rfl).2.1
  · rfl

theorem exponentPart?_of_ends {rest : List Char} (ends : EndsNumber rest) :
    exponentPart? rest = none := by
  cases rest with
  | nil => rfl
  | cons c more =>
      obtain ⟨-, -, small, large⟩ := ends c rfl
      simp [exponentPart?, small, large]

theorem length_toDigits_le {n k : Nat} (some : 0 < k) (short : n < Nat.pow 10 k) :
    (Nat.toDigits 10 n).length ≤ k :=
  (Nat.length_toDigits_le_iff (by decide) some).mpr short

theorem integerOf_toDigits (negative : Bool) {n : Nat} (short : n < Nat.pow 10 Number.maxDigits) :
    integerOf negative (Nat.toDigits 10 n) = .ok (.int (if negative then -n else n)) := by
  have fits : ¬ Number.maxDigits < (Nat.toDigits 10 n).length :=
    Nat.not_lt.mpr (length_toDigits_le (by decide) short)
  rw [integerOf, if_neg fits, digitsValue?_toDigits]
  rfl

theorem lt_limit_of_lt {n : Nat} (few : n < 1000) : n < Nat.pow 10 Number.maxDigits := by
  have more {k m : Nat} (h : k ≤ m) : Nat.pow 10 k ≤ Nat.pow 10 m :=
    Nat.pow_le_pow_right (by decide) h
  have three : n < Nat.pow 10 3 := few
  exact Nat.lt_of_lt_of_le three (more (by decide))

/-- An integer of up to three digits is not too long. -/
theorem exceedsDigits_of_lt {n : Int} (few : n.natAbs < 1000) :
    (Value.int n).exceedsDigits = false := by
  rw [Value.exceedsDigits, decide_eq_false_iff_not, Nat.not_le]
  exact lt_limit_of_lt few

/-- An integer that is not too long is read as far as its digits go. -/
theorem readUnsigned?_toDigits (negative : Bool) {n : Nat} {rest : List Char}
    (short : n < Nat.pow 10 Number.maxDigits) (ends : EndsNumber rest) :
    readUnsigned? negative (Nat.toDigits 10 n ++ rest) =
      some (.ok (.int (if negative then -n else n)), rest) := by
  simp only [readUnsigned?, wholePart?_toDigits n ends, bind, Option.bind_some,
    fractionPart_of_ends ends, exponentPart?_of_ends ends, integerOf_toDigits negative short]
  rfl

/-- The digits of an integer, behind its sign. -/
theorem toList_toString (n : Int) :
    (toString n).toList = if n < 0 then '-' :: Nat.toDigits 10 n.natAbs
      else Nat.toDigits 10 n.natAbs := by
  cases n with
  | ofNat n =>
      have positive : ¬ Int.ofNat n < 0 := Int.not_lt.mpr (Int.natCast_nonneg n)
      rw [if_neg positive]
      exact Nat.toList_repr
  | negSucc n =>
      rw [if_pos (Int.negSucc_lt_zero n)]
      have sign : toString (Int.negSucc n) = "-" ++ (n + 1).repr := rfl
      rw [sign, String.toList_append, Nat.toList_repr]
      rfl

theorem readNumber?_toString {n : Int} {rest : List Char}
    (short : (Value.int n).exceedsDigits = false) (ends : EndsNumber rest) :
    readNumber? ((toString n).toList ++ rest) =
      some (.ok (.int n), rest, (toString n).toList.length) := by
  rw [Value.exceedsDigits, decide_eq_false_iff_not, Nat.not_le] at short
  rw [toList_toString]
  by_cases negative : n < 0
  · have value : -(n.natAbs : Int) = n := by omega
    have used : ('-' :: (Nat.toDigits 10 n.natAbs ++ rest)).length - rest.length =
        ('-' :: Nat.toDigits 10 n.natAbs).length := by
      simp only [List.length_cons, List.length_append]
      omega
    rw [if_pos negative, List.cons_append, readNumber?, readUnsigned?_toDigits true short ends,
      if_pos rfl, value, ← used]
    rfl
  · have value : (n.natAbs : Int) = n := by omega
    rw [if_neg negative]
    have unsigned := readUnsigned?_toDigits false short ends
    unfold readNumber?
    split
    · next same =>
        -- a number does not begin with a sign of its own
        obtain ⟨c, more, written, digit⟩ := toDigits_begins n.natAbs
        rw [written] at same
        obtain ⟨rfl, -⟩ := List.cons.inj same
        cases digit
    · have used : (Nat.toDigits 10 n.natAbs ++ rest).length - rest.length =
          (Nat.toDigits 10 n.natAbs).length := by
        rw [List.length_append, Nat.add_sub_cancel]
      rw [unsigned, value, ← used]
      rfl

/-! ## Words -/

theorem readWord_null (place : Nat) (rest : List Char) :
    readWordOrNumber place ("null".toList ++ rest) = .ok (.null, rest, place + 4) :=
  rfl

theorem readWord_true (place : Nat) (rest : List Char) :
    readWordOrNumber place ("true".toList ++ rest) = .ok (.bool true, rest, place + 4) :=
  rfl

theorem readWord_false (place : Nat) (rest : List Char) :
    readWordOrNumber place ("false".toList ++ rest) = .ok (.bool false, rest, place + 5) :=
  rfl

/-- No word begins with a digit, and none with a digit behind a sign. -/
theorem find?_words_of_digit {c : Char} (digit : c.isDigit = true) (rest : List Char) :
    (words.find? fun (w, _) => w.toList.isPrefixOf (c :: rest)) = none ∧
      (words.find? fun (w, _) => w.toList.isPrefixOf ('-' :: c :: rest)) = none := by
  have other {x : Char} (h : x.isDigit = false) : (x == c) = false := by
    rw [beq_eq_false_iff_ne]
    rintro rfl
    rw [digit] at h
    cases h
  have n := other (x := 'n') rfl
  have t := other (x := 't') rfl
  have f := other (x := 'f') rfl
  have N := other (x := 'N') rfl
  have I := other (x := 'I') rfl
  have minus := other (x := '-') rfl
  constructor
  · simp [words, List.isPrefixOf, n, t, f, N, I, minus]
  · simp [words, List.isPrefixOf, I]

theorem readWordOrNumber_toString {n : Int} {place : Nat} {rest : List Char}
    (short : (Value.int n).exceedsDigits = false) (ends : EndsNumber rest) :
    readWordOrNumber place ((toString n).toList ++ rest) =
      .ok (.int n, rest, place + (toString n).toList.length) := by
  have wordless : (words.find? fun (w, _) =>
      w.toList.isPrefixOf ((toString n).toList ++ rest)) = none := by
    obtain ⟨c, more, written, digit⟩ := toDigits_begins n.natAbs
    have none := find?_words_of_digit digit (more ++ rest)
    rw [toList_toString, written]
    split
    · exact none.2
    · exact none.1
  rw [readWordOrNumber, wordless, readNumber?_toString short ends]

end Json

end Workflow
