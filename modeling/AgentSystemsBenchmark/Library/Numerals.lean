import Mathlib

/-!
# Numerals as identifiers

Facts about `Nat.repr`, used where counters are rendered into names, and
hexadecimal texts of a fixed width.
-/

namespace Numerals

open List

variable {n : Nat}

/-- Decimal numerals are read back by their digits. -/
theorem repr_injective (h : m.repr = n.repr) : m = n := by
  have digits : Nat.toDigits 10 m = Nat.toDigits 10 n := by
    rw [← Nat.toList_repr, ← Nat.toList_repr, h]
  rw [← Nat.ofDigitChars_ten_toDigits (n := m), digits, Nat.ofDigitChars_ten_toDigits]

theorem isDigit_of_mem_repr (h : c ∈ n.repr.toList) : c.isDigit = true := by
  rw [Nat.toList_repr] at h
  exact Nat.isDigit_of_mem_toDigits (by decide) (by decide) h

theorem digitChar_utf8Size (h : d < 10) : d.digitChar.utf8Size = 1 := by
  have small : d = 0 ∨ d = 1 ∨ d = 2 ∨ d = 3 ∨ d = 4 ∨ d = 5 ∨ d = 6 ∨ d = 7 ∨ d = 8 ∨ d = 9 := by
    omega
  rcases small with rfl | rfl | rfl | rfl | rfl | rfl | rfl | rfl | rfl | rfl <;> rfl

/-- A numeral below `10 ^ k` takes at most `k` bytes. -/
theorem repr_utf8ByteSize_le (positive : 0 < k) (h : n < 10 ^ k) : n.repr.utf8ByteSize ≤ k := by
  induction k generalizing n with
  | zero => omega
  | succ k ih =>
    by_cases hn : n < 10
    · have one : n.repr.utf8ByteSize = 1 := by
        rw [Nat.repr_of_lt hn, String.utf8ByteSize_singleton, digitChar_utf8Size hn]
      omega
    · have hk : 0 < k := by
        by_contra hz
        obtain rfl : k = 0 := by omega
        omega
      have hd : n / 10 < 10 ^ k := by
        rw [Nat.div_lt_iff_lt_mul (by decide)]
        rwa [Nat.pow_succ] at h
      have front := ih hk hd
      rw [Nat.repr_of_ge (by omega), String.utf8ByteSize_append, String.utf8ByteSize_singleton,
        digitChar_utf8Size (Nat.mod_lt n (by decide))]
      omega

theorem digitChar_toNat (digit : c.isDigit = true) :
    c.toNat - 48 < 10 ∧ Nat.digitChar (c.toNat - 48) = c := by
  rw [Char.isDigit, Bool.and_eq_true, decide_eq_true_iff, decide_eq_true_iff] at digit
  have low : 48 ≤ c.toNat := digit.1
  have high : c.toNat ≤ 57 := digit.2
  refine ⟨by omega, ?_⟩
  have back : Nat.digitChar (c.toNat - 48) = Char.ofNat c.toNat := by
    generalize c.toNat = n at low high
    interval_cases n <;> rfl
  rw [back, Char.ofNat_toNat]

/-- Digits without a leading zero are the numeral of what they spell. -/
theorem toDigits_ofDigitChars (all : ∀ c ∈ digits, c.isDigit = true) (nonempty : digits ≠ [])
    (leading : digits.head? ≠ some '0') :
    0 < Nat.ofDigitChars 10 digits 0 ∧ Nat.toDigits 10 (Nat.ofDigitChars 10 digits 0) = digits := by
  induction digits using reverseRecOn with
  | nil => exact absurd rfl nonempty
  | append_singleton front c ih =>
    obtain ⟨small, back⟩ :=
      digitChar_toNat (all c (mem_append_right _ (mem_singleton.mpr rfl)))
    rw [Nat.ofDigitChars_append, Nat.ofDigitChars_cons, Nat.ofDigitChars_nil]
    change 0 < 10 * _ + (c.toNat - 48) ∧ Nat.toDigits 10 (10 * _ + (c.toNat - 48)) = _
    by_cases first : front = []
    · subst first
      rw [Nat.ofDigitChars_nil, Nat.mul_zero, Nat.zero_add, Nat.toDigits_of_lt_base small, back]
      refine ⟨?_, rfl⟩
      rcases Nat.eq_zero_or_pos (c.toNat - 48) with zero | positive
      · rw [zero] at back
        exact absurd (congrArg some back.symm) leading
      · exact positive
    · rw [head?_append, Option.or_of_isSome (isSome_head?.mpr first)] at leading
      obtain ⟨positive, same⟩ := ih (fun d mem => all d (mem_append_left _ mem)) first leading
      refine ⟨by omega, ?_⟩
      rw [← Nat.toDigits_append_toDigits (by decide) positive small, same,
        Nat.toDigits_of_lt_base small, back]

theorem head?_toDigits (positive : 0 < n) : (Nat.toDigits 10 n).head? ≠ some '0' := by
  induction n using Nat.strongRecOn with
  | ind n ih =>
    by_cases small : n < 10
    · rw [Nat.toDigits_of_lt_base small]
      interval_cases n <;> decide
    · rw [Nat.toDigits_of_base_le (by decide) (Nat.not_lt.mp small), head?_append,
        Option.or_of_isSome (isSome_head?.mpr Nat.toDigits_ne_nil)]
      exact ih (n / 10) (by omega) (by omega)

/-- A numeral without a leading zero. -/
theorem canonical_digits :
    (¬ (digits = [] ∨ digits.all Char.isDigit = false ∨
      (digits.head? = some '0' ∧ digits.length ≠ 1)) ∧ Nat.ofDigitChars 10 digits 0 = n) ↔
      digits = Nat.toDigits 10 n := by
  constructor
  · rintro ⟨canonical, rfl⟩
    rw [not_or, not_or, Bool.not_eq_false, all_eq_true] at canonical
    obtain ⟨nonempty, all, leading⟩ := canonical
    by_cases zero : digits.head? = some '0'
    · have one : digits.length = 1 := by
        by_contra longer
        exact leading ⟨zero, longer⟩
      obtain ⟨c, rfl⟩ := length_eq_one_iff.mp one
      obtain rfl := Option.some.inj zero
      rfl
    · exact (toDigits_ofDigitChars all nonempty zero).2.symm
  · rintro rfl
    refine ⟨?_, Nat.ofDigitChars_ten_toDigits⟩
    rw [not_or, not_or, Bool.not_eq_false, all_eq_true]
    refine ⟨Nat.toDigits_ne_nil, fun c mem =>
      Nat.isDigit_of_mem_toDigits (by decide) (by decide) mem, ?_⟩
    rintro ⟨zero, longer⟩
    rcases Nat.eq_zero_or_pos n with rfl | positive
    · exact longer rfl
    · exact head?_toDigits positive zero

theorem utf8ByteSize_append_le {a b : String} {m : Nat} (ha : a.utf8ByteSize ≤ m)
    (hb : b.utf8ByteSize ≤ n) : (a ++ b).utf8ByteSize ≤ m + n := by
  rw [String.utf8ByteSize_append]
  exact Nat.add_le_add ha hb

/-- The UTF-8 bytes of a text. -/
def bytes (s : String) : List UInt8 := s.toUTF8.data.toList

@[simp] theorem bytes_append (a b : String) : bytes (a ++ b) = bytes a ++ bytes b := by
  simp [bytes]

theorem bytes_injective (h : bytes a = bytes b) : a = b :=
  String.toByteArray_inj.mp (ByteArray.ext (Array.toList_inj.mp h))

theorem length_bytes (s : String) : (bytes s).length = s.utf8ByteSize := by
  simp [bytes]

/-- The lowest `k` hexadecimal digits of a number. -/
def hexText : Nat → Nat → String
  | 0, _ => ""
  | k + 1, n => hexText k (n / 16) ++ String.singleton (Nat.digitChar (n % 16))

theorem hexText_utf8ByteSize (k n : Nat) : (hexText k n).utf8ByteSize = k := by
  have one : ∀ d < 16, (Nat.digitChar d).utf8Size = 1 := by decide
  induction k generalizing n with
  | zero => rfl
  | succ k ih =>
    rw [hexText, String.utf8ByteSize_append, ih, String.utf8ByteSize_singleton,
      one _ (Nat.mod_lt n (by decide))]

theorem hexText_all (digits : ∀ d < 16, (bytes (String.singleton (Nat.digitChar d))).all p = true)
    (k n : Nat) : (bytes (hexText k n)).all p = true := by
  induction k generalizing n with
  | zero => rfl
  | succ k ih =>
    rw [hexText, bytes_append, all_append, ih, digits _ (Nat.mod_lt n (by decide))]
    rfl

end Numerals
