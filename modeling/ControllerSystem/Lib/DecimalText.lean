import ControllerSystem.Lib.Words

/-!
# Decimal texts

The decimal text of a number, as bytes: digits only, the value of the digits is the number, and a
number of more than one digit has a text of more than one byte. A negative number has a minus sign
in front. The lengths of the texts bound the numbers, and are bounded by them.
-/

open Words

namespace DecimalText

/-- A decimal digit. -/
def IsDigit (b : UInt8) : Prop := 48 ≤ b ∧ b ≤ 57

instance (b : UInt8) : Decidable (IsDigit b) := inferInstanceAs (Decidable (_ ∧ _))

/-- The decimal text of a natural number. -/
def natText (n : ℕ) : Bytes := ascii (toString n)

/-- One more digit in a run of digits of the value `n`. -/
def addDigit (n : ℕ) (d : UInt8) : ℕ := 10 * n + (d.toNat - 48)

/-- The last digit comes off the end. -/
theorem natText_eq (n : ℕ) :
    natText n = (if n < 10 then [] else natText (n / 10)) ++ [UInt8.ofNat (48 + n % 10)] := by
  simp only [natText, ascii, Nat.toString_eq_repr, Nat.toList_repr]
  rw [Nat.toDigits_eq_if (by omega)]
  split
  · next hlt => simp [Nat.toNat_digitChar_of_lt_ten hlt, Nat.mod_eq_of_lt hlt]
  · simp [Nat.toNat_digitChar_of_lt_ten (Nat.mod_lt n (by omega))]

/-- The byte of a digit. -/
theorem isDigit_ofNat {d : ℕ} (hd : d < 10) : IsDigit (.ofNat (48 + d)) := by
  constructor
  · rw [UInt8.le_iff_toNat_le, UInt8.toNat_ofNat']
    show 48 ≤ _
    omega
  · rw [UInt8.le_iff_toNat_le, UInt8.toNat_ofNat']
    show _ ≤ 57
    omega

theorem natText_digits (n : ℕ) : ∀ b ∈ natText n, IsDigit b := by
  induction n using Nat.strong_induction_on with
  | _ n ih =>
    intro b hb
    rw [natText_eq, List.mem_append, List.mem_singleton] at hb
    rcases hb with hb | rfl
    · split at hb
      · simp at hb
      · exact ih (n / 10) (by omega) b hb
    · exact isDigit_ofNat (Nat.mod_lt n (by omega))

/-- The value of the digits is the number. -/
theorem foldl_natText (n : ℕ) : (natText n).foldl addDigit 0 = n := by
  induction n using Nat.strong_induction_on with
  | _ n ih =>
    have hlast : (UInt8.ofNat (48 + n % 10)).toNat - 48 = n % 10 := by
      rw [UInt8.toNat_ofNat']
      omega
    rw [natText_eq, List.foldl_append]
    split
    · simp only [List.foldl_nil, List.foldl_cons, addDigit, hlast]
      omega
    · rw [ih (n / 10) (by omega)]
      simp only [List.foldl_nil, List.foldl_cons, addDigit, hlast]
      omega

theorem natText_ne_nil (n : ℕ) : natText n ≠ [] := by
  rw [natText_eq]
  simp

/-- A number of more than one digit has a text of more than one byte. -/
theorem two_le_length_natText {n : ℕ} (hn : 10 ≤ n) : 2 ≤ (natText n).length := by
  have hfront := List.length_pos_of_ne_nil (natText_ne_nil (n / 10))
  rw [natText_eq, if_neg (by omega), List.length_append, List.length_singleton]
  omega

/-- The text of an integer. -/
theorem ascii_toString (i : ℤ) :
    ascii (toString i) = if 0 ≤ i then natText i.toNat else 45 :: natText (-i).toNat := by
  rw [Int.toString_eq_repr, Int.repr_eq_if]
  split
  · rfl
  · rw [ascii, String.toList_append, List.map_append]
    rfl

/-- The text of an integer other than the ten digits has more than one byte. -/
theorem two_le_length_ascii_toString {i : ℤ} (hi : i < 0 ∨ 10 ≤ i) :
    2 ≤ (ascii (toString i)).length := by
  rw [ascii_toString]
  split
  · exact two_le_length_natText (by omega)
  · have hdigits := List.length_pos_of_ne_nil (natText_ne_nil (-i).toNat)
    rw [List.length_cons]
    omega

/-! ### Lengths -/

theorem length_natText_le_iff {n k : ℕ} (hk : 0 < k) : (natText n).length ≤ k ↔ n < 10 ^ k := by
  rw [natText, ascii, List.length_map, String.length_toList]
  exact Nat.length_repr_le_iff hk

/-- The number of digits. -/
theorem length_natText {n k : ℕ} (hlow : 10 ^ k ≤ n) (hhigh : n < 10 ^ (k + 1)) :
    (natText n).length = k + 1 := by
  refine Nat.le_antisymm ((length_natText_le_iff (Nat.succ_pos k)).mpr hhigh) ?_
  rcases Nat.eq_zero_or_pos k with rfl | hk
  · exact List.length_pos_of_ne_nil (natText_ne_nil n)
  · -- with `k` digits the number would be smaller
    by_contra hlt
    have hle := (length_natText_le_iff hk).mp (Nat.le_of_lt_succ (Nat.lt_of_not_le hlt))
    omega

/-- A sign, and as many digits as the absolute value may have. -/
theorem length_ascii_toString_le {i : ℤ} {k : ℕ} (hk : 0 < k) (hi : i.natAbs < 10 ^ k) :
    (ascii (toString i)).length ≤ k + 1 := by
  rw [ascii_toString]
  split
  · have hdigits := (length_natText_le_iff hk).mpr (show i.toNat < 10 ^ k by omega)
    omega
  · have hdigits := (length_natText_le_iff hk).mpr (show (-i).toNat < 10 ^ k by omega)
    rw [List.length_cons]
    omega

end DecimalText
