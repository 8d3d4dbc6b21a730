import Mathlib.Data.Nat.Bitwise

/-! Natural numbers as sets of bits, and the fields of bits in them. -/

namespace Lcom.Lib

theorem exists_bit_below (n m : Nat) : 0 < n % 2 ^ m ↔ ∃ i, n.testBit i = true ∧ i < m := by
  constructor
  · intro positive
    obtain ⟨i, bit⟩ := Nat.exists_testBit_of_ne_zero (Nat.pos_iff_ne_zero.mp positive)
    rw [Nat.testBit_mod_two_pow, Bool.and_eq_true, decide_eq_true_eq] at bit
    exact ⟨i, bit.2, bit.1⟩
  · rintro ⟨i, bit, below⟩
    apply Nat.pos_of_ne_zero
    intro zero
    have clear : (n % 2 ^ m).testBit i = false := by rw [zero, Nat.zero_testBit]
    rw [Nat.testBit_mod_two_pow, bit, decide_eq_true below] at clear
    cases clear

theorem exists_bit_from (n m : Nat) : 0 < n / 2 ^ m ↔ ∃ i, n.testBit i = true ∧ m ≤ i := by
  constructor
  · intro positive
    obtain ⟨i, bit⟩ := Nat.exists_testBit_of_ne_zero (Nat.pos_iff_ne_zero.mp positive)
    rw [Nat.testBit_div_two_pow] at bit
    exact ⟨i + m, bit, Nat.le_add_left m i⟩
  · rintro ⟨i, bit, above⟩
    apply Nat.pos_of_ne_zero
    intro zero
    have clear : (n / 2 ^ m).testBit (i - m) = false := by rw [zero, Nat.zero_testBit]
    rw [Nat.testBit_div_two_pow, Nat.sub_add_cancel above, bit] at clear
    cases clear

theorem testBit_bound {n m i : Nat} (size : n < 2 ^ m) (bit : n.testBit i = true) : i < m := by
  by_contra beyond
  have clear := Nat.testBit_lt_two_pow
    (Nat.lt_of_lt_of_le size (Nat.pow_le_pow_right (by decide) (Nat.le_of_not_lt beyond)))
  exact absurd (clear.symm.trans bit) (by decide)

theorem testBit_xor_two_pow {n i : Nat} (member : n.testBit i = true) (j : Nat) :
    (n ^^^ 2 ^ i).testBit j = (n.testBit j && decide (i ≠ j)) := by
  rw [Nat.testBit_xor, Nat.testBit_two_pow]
  by_cases same : i = j
  · subst j
    simp [member]
  · simp [same]

def field (n pos size : Nat) : Nat := (n >>> pos) % 2 ^ size

theorem testBit_field (n pos size i : Nat) :
    (field n pos size).testBit i = (decide (i < size) && n.testBit (pos + i)) := by
  rw [field, Nat.testBit_mod_two_pow, Nat.testBit_shiftRight]

theorem field_or (n m pos size : Nat) :
    field (n ||| m) pos size = field n pos size ||| field m pos size := by
  rw [field, Nat.shiftRight_or_distrib, Nat.or_mod_two_pow]
  rfl

theorem field_shiftLeft {value size : Nat} (fits : value < 2 ^ size) (pos : Nat) :
    field (value <<< pos) pos size = value := by
  rw [field, Nat.shiftLeft_shiftRight, Nat.mod_eq_of_lt fits]

theorem testBit_shiftLeft_outside {value size : Nat} (fits : value < 2 ^ size) {pos i : Nat}
    (outside : i < pos ∨ pos + size ≤ i) : (value <<< pos).testBit i = false := by
  rw [Nat.testBit_shiftLeft]
  rcases outside with before | after
  · rw [decide_eq_false (by omega), Bool.false_and]
  · rw [Nat.testBit_lt_two_pow, Bool.and_false]
    exact Nat.lt_of_lt_of_le fits (Nat.pow_le_pow_right (by decide) (by omega))

theorem field_shiftLeft_apart {value size : Nat} (fits : value < 2 ^ size) {pos pos' size' : Nat}
    (apart : pos + size ≤ pos' ∨ pos' + size' ≤ pos) :
    field (value <<< pos) pos' size' = 0 := by
  apply Nat.eq_of_testBit_eq
  intro i
  rw [testBit_field, Nat.zero_testBit]
  by_cases inside : i < size'
  · rw [testBit_shiftLeft_outside fits (by omega), Bool.and_false]
  · rw [decide_eq_false inside, Bool.false_and]

theorem field_and_eq_iff (n mask pos size : Nat) :
    field (n &&& mask) pos size = field n pos size ↔
      ∀ i < size, n.testBit (pos + i) = true → mask.testBit (pos + i) = true := by
  constructor
  · intro same i inside bit
    have bits : (field (n &&& mask) pos size).testBit i = (field n pos size).testBit i := by
      rw [same]
    rw [testBit_field, testBit_field, Nat.testBit_and, bit] at bits
    simpa [inside] using bits
  · intro kept
    apply Nat.eq_of_testBit_eq
    intro i
    rw [testBit_field, testBit_field, Nat.testBit_and]
    by_cases inside : i < size
    · cases bit : n.testBit (pos + i) with
      | false => rfl
      | true => rw [kept i inside bit, Bool.and_true]
    · rw [decide_eq_false inside, Bool.false_and, Bool.false_and]

end Lcom.Lib
