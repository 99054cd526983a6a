import Workflow.Number.Reading
import Workflow.Proofs.Expr.Chain

/-!
# Integers of every script

Some signs for digits, such as superscripts, cannot stand in a decimal number.  A text of
signs for digits is an integer exactly if it has none of these and is not too long.
-/

namespace Workflow

open Text (isBlank isDecimal isDigitSign decimalValue?)

/-! ## Signs for digits -/

/-- The code points of white space. -/
def blankCodes : List Nat :=
  [9, 10, 11, 12, 13, 28, 29, 30, 31, 32, 0x85, 0xa0, 0x1680, 0x2000, 0x2001, 0x2002, 0x2003,
    0x2004, 0x2005, 0x2006, 0x2007, 0x2008, 0x2009, 0x200a, 0x2028, 0x2029, 0x202f, 0x205f, 0x3000]

theorem mem_blankCodes {c : Char} (h : isBlank c = true) : c.toNat ∈ blankCodes := by
  -- the table is searched by halving, so the code point is compared to its bounds first
  simp [isBlank, Text.inClass, Text.countAtMost, Text.countAtMost.go, Text.Table.blank] at h
  simp only [blankCodes, List.mem_cons, List.not_mem_nil, or_false]
  grind

theorem isBlank_of_isDigitSign {c : Char} (h : isDigitSign c = true) : isBlank c = false := by
  have apart : ∀ n ∈ blankCodes, isDigitSign (Char.ofNat n) = false := by decide +kernel
  rw [Bool.eq_false_iff]
  intro blank
  have none := apart _ (mem_blankCodes blank)
  rw [Char.ofNat_toNat, h] at none
  cases none

theorem isSome_decimalValue? (c : Char) : (decimalValue? c).isSome = isDecimal c := by
  by_cases low : c.toNat < 128
  · have all := of_ascii (p := fun c => (decimalValue? c).isSome == isDecimal c)
      (by decide +kernel) low
    exact beq_iff_eq.mp all
  · rw [isDecimal, if_neg low, decimalValue?, Text.inClass]
    split <;> simp_all

theorem decimalValue?_lt {c : Char} {d : Nat} (h : decimalValue? c = some d) : d < 10 := by
  simp only [decimalValue?] at h
  split at h
  · exact Option.some.inj h ▸ Nat.mod_lt _ (by decide)
  · cases h

/-- A sign for a digit is no letter. -/
theorem digitValue?_of_isDigitSign {c : Char} (h : isDigitSign c = true) :
    Number.digitValue? c = decimalValue? c := by
  by_cases low : c.toNat < 128
  · have all := of_ascii
      (p := fun c => !isDigitSign c || Number.digitValue? c == decimalValue? c)
      (by decide +kernel) low
    simpa [h] using all
  · have above {d : Char} (hd : d.toNat < 128) : ¬ c ≤ d := fun le =>
      low (Nat.lt_of_le_of_lt (UInt32.le_iff_toNat_le.mp le) hd)
    have small : ¬ c ≤ 'z' := above (by decide)
    have capital : ¬ c ≤ 'Z' := above (by decide)
    simp [Number.digitValue?, small, capital]

namespace Number

/-! ## Reading -/

theorem digitsValue?_go_of_decimal {cs : List Char} (decimal : ∀ c ∈ cs, isDecimal c = true)
    (afterDigit : Bool) (acc : Nat) (filled : afterDigit = true ∨ cs ≠ []) :
    ∃ n, digitsValue?.go 10 afterDigit acc cs = some n := by
  induction cs generalizing afterDigit acc with
  | nil =>
      obtain rfl := filled.resolve_right (· rfl)
      exact ⟨acc, rfl⟩
  | cons c rest ih =>
      obtain ⟨here, later⟩ := List.forall_mem_cons.mp decimal
      have sign : isDigitSign c = true := by rw [isDigitSign, here, Bool.true_or]
      obtain ⟨d, value⟩ := Option.isSome_iff_exists.mp (isSome_decimalValue? c ▸ here)
      have other : c ≠ '_' := by
        rintro rfl
        exact absurd sign (by decide +kernel)
      obtain ⟨n, read⟩ := ih later true (acc * 10 + d) (.inl rfl)
      refine ⟨n, ?_⟩
      simp only [digitsValue?.go, digitValue?_of_isDigitSign sign, value, decimalValue?_lt value,
        if_true, read]

theorem digitsValue?_go_of_not_decimal {cs : List Char} (signs : ∀ c ∈ cs, isDigitSign c = true)
    (odd : ∃ c ∈ cs, isDecimal c = false) (afterDigit : Bool) (acc : Nat) :
    digitsValue?.go 10 afterDigit acc cs = none := by
  induction cs generalizing afterDigit acc with
  | nil => obtain ⟨c, hc, -⟩ := odd; cases hc
  | cons c rest ih =>
      obtain ⟨here, later⟩ := List.forall_mem_cons.mp signs
      have other : c ≠ '_' := by
        rintro rfl
        exact absurd here (by decide +kernel)
      simp only [digitsValue?.go, digitValue?_of_isDigitSign here]
      cases value : decimalValue? c with
      | none => rfl
      | some d =>
          have decimal : isDecimal c = true := by rw [← isSome_decimalValue?, value]; rfl
          obtain ⟨e, he, not⟩ := odd
          rcases List.mem_cons.mp he with rfl | he
          · rw [decimal] at not
            cases not
          · simp only [decimalValue?_lt value, if_true]
            exact ih later ⟨e, he, not⟩ true _

theorem trim_of_none {p : Char -> Bool} {cs : List Char} (h : ∀ c ∈ cs, p c = false) :
    Text.trim p cs = cs := by
  have start (ds : List Char) (hd : ∀ c ∈ ds, p c = false) : ds.dropWhile p = ds := by
    cases ds with
    | nil => rfl
    | cons d ds => exact List.dropWhile_cons_of_neg (by simp [hd d List.mem_cons_self])
  have reversed : cs.reverse.dropWhile p = cs.reverse :=
    start cs.reverse fun c hc => h c (List.mem_reverse.mp hc)
  rw [Text.trim, Text.trimEnd, Text.trimStart, start cs h, reversed, List.reverse_reverse]

theorem splitSign_digits {cs : List Char} (signs : ∀ c ∈ cs, isDigitSign c = true) :
    splitSign cs = (false, cs) := by
  cases cs with
  | nil => rfl
  | cons c rest =>
      have sign := signs c List.mem_cons_self
      unfold splitSign
      split
      · next same => cases same; exact absurd sign (by decide +kernel)
      · next same => cases same; exact absurd sign (by decide +kernel)
      · rfl

/-- Signs for digits are read as their value, unless there are too many. -/
theorem readInt_eq {s : String} (signs : ∀ c ∈ s.toList, isDigitSign c = true) :
    readInt 10 s = match digitsValue? 10 s.toList with
      | none => .invalid
      | some n => if maxDigits < s.toList.length then .tooLong s.toList.length else .value n := by
  have trimmed : Text.trim isNumberBlank s.toList = s.toList := trim_of_none fun c hc => by
    rw [isNumberBlank, isBlank_of_isDigitSign (signs c hc), Bool.false_and]
  have counted : s.toList.filter (· != '_') = s.toList := List.filter_eq_self.mpr fun c hc => by
    refine bne_iff_ne.mpr ?_
    rintro rfl
    exact absurd (signs _ hc) (by decide +kernel)
  cases value : digitsValue? 10 s.toList with
  | none => simp [readInt, trimmed, splitSign_digits signs, value]
  | some n => simp [readInt, trimmed, splitSign_digits signs, counted, value]

/-- Signs for digits are an integer if all are decimal and they are not too many. -/
theorem readInt_digits {s : String} (filled : s ≠ "")
    (signs : ∀ c ∈ s.toList, isDigitSign c = true) :
    (∃ n, readInt 10 s = .value n) ↔
      (∀ c ∈ s.toList, isDecimal c = true) ∧ s.toList.length ≤ maxDigits := by
  rw [readInt_eq signs]
  by_cases decimal : ∀ c ∈ s.toList, isDecimal c = true
  · have some : s.toList ≠ [] := by simpa using filled
    obtain ⟨n, read⟩ := digitsValue?_go_of_decimal decimal false 0 (.inr some)
    rw [digitsValue?, read]
    by_cases long : maxDigits < s.toList.length
    · simp only [long, if_true]
      exact iff_of_false nofun fun h => absurd h.2 (Nat.not_le.mpr long)
    · simp only [long, if_false]
      exact iff_of_true ⟨n, rfl⟩ ⟨decimal, Nat.not_lt.mp long⟩
  · have odd : ∃ c ∈ s.toList, isDecimal c = false := by simpa using decimal
    rw [digitsValue?, digitsValue?_go_of_not_decimal signs odd]
    exact iff_of_false nofun fun h => decimal h.1

end Number

end Workflow
