import Mathlib.Data.List.TakeWhile
import Mathlib.Data.BitVec

/-!
# Bytes, 32-bit words and C strings

The raw data a C program handles: lists of bytes, 32-bit words stored most significant byte
first, and strings ended by a zero byte. Memory behind the end of a list reads as zero.

* `wordAt_beBytes` — reading back a stored word gives that word;
* `wordAt_eq_iff` — words are equal when their bytes are;
* `toInt_sub_ofNat` — subtracting a constant from a signed word, which wraps at the low end;
* `cstr_append`, `cstr_eq_self` — a text is read up to its zero byte, and as it is without one.
-/

namespace Words

/-- A string of bytes. -/
abbrev Bytes := List UInt8

/-- A 32-bit word; `toInt` is its signed reading. -/
abbrev Word := BitVec 32

/-- The bytes of an ASCII text. -/
def ascii (s : String) : Bytes := s.toList.map fun c => UInt8.ofNat c.toNat

/-! ### Big-endian words -/

/-- The four bytes of a word, most significant first. -/
def beBytes (w : Word) : Bytes :=
  [.ofNat (w.toNat / 16777216), .ofNat (w.toNat / 65536), .ofNat (w.toNat / 256), .ofNat w.toNat]

/-- The word stored at offset `off`, most significant byte first. -/
def wordAt (m : Bytes) (off : ℕ) : Word :=
  (m.getD off 0).toBitVec ++ (m.getD (off + 1) 0).toBitVec ++ (m.getD (off + 2) 0).toBitVec ++
    (m.getD (off + 3) 0).toBitVec

@[simp] theorem length_beBytes (w : Word) : (beBytes w).length = 4 := rfl

/-- Appending a byte to a bit vector, as numbers. -/
theorem toNat_append_byte {n : ℕ} (x : BitVec n) (b : UInt8) :
    (x ++ b.toBitVec).toNat = x.toNat * 256 + b.toNat := by
  -- the appended bits are below the shifted ones, so the disjunction is a sum
  rw [BitVec.toNat_append, ← Nat.shiftLeft_add_eq_or_of_lt b.toBitVec.isLt, Nat.shiftLeft_eq]
  rfl

/-- The number a stored word is. -/
theorem toNat_wordAt (m : Bytes) (off : ℕ) :
    (wordAt m off).toNat = (m.getD off 0).toNat * 16777216 + (m.getD (off + 1) 0).toNat * 65536
      + (m.getD (off + 2) 0).toNat * 256 + (m.getD (off + 3) 0).toNat := by
  rw [wordAt, toNat_append_byte, toNat_append_byte, toNat_append_byte, UInt8.toNat_toBitVec]
  omega

/-- A stored word reads back, wherever it is stored. -/
theorem wordAt_append (pre : Bytes) (w : Word) (post : Bytes) :
    wordAt (pre ++ (beBytes w ++ post)) pre.length = w := by
  have hlt := w.isLt
  apply BitVec.eq_of_toNat_eq
  simp only [toNat_wordAt, beBytes, List.getD_eq_getElem?_getD, List.cons_append, List.nil_append]
  -- all four bytes are read behind `pre`
  rw [List.getElem?_append_right (by omega), List.getElem?_append_right (by omega),
    List.getElem?_append_right (by omega), List.getElem?_append_right (by omega)]
  simp only [Nat.sub_self, Nat.add_sub_cancel_left, List.getElem?_cons_zero,
    List.getElem?_cons_succ, Option.getD_some, UInt8.toNat_ofNat']
  omega

/-- A stored word reads back from the front. -/
@[simp] theorem wordAt_beBytes (w : Word) (post : Bytes) : wordAt (beBytes w ++ post) 0 = w :=
  wordAt_append [] w post

/-- Two pieces of memory have the same word at an offset when they have the same four bytes
there. -/
theorem wordAt_eq_iff {m m' : Bytes} {off : ℕ} :
    wordAt m off = wordAt m' off ↔ ∀ j < 4, m.getD (off + j) 0 = m'.getD (off + j) 0 := by
  constructor
  · intro h
    have hnat : (wordAt m off).toNat = (wordAt m' off).toNat := congrArg BitVec.toNat h
    rw [toNat_wordAt, toNat_wordAt] at hnat
    -- the bytes are the digits of the number to the base 256
    have hlt (k : ℕ) : (m.getD k 0).toNat < 256 := UInt8.toNat_lt _
    have hlt' (k : ℕ) : (m'.getD k 0).toNat < 256 := UInt8.toNat_lt _
    have h₀ := hlt off
    have h₁ := hlt (off + 1)
    have h₂ := hlt (off + 2)
    have h₃ := hlt (off + 3)
    have h₀' := hlt' off
    have h₁' := hlt' (off + 1)
    have h₂' := hlt' (off + 2)
    have h₃' := hlt' (off + 3)
    intro j hj
    apply UInt8.toNat_inj.mp
    obtain rfl | rfl | rfl | rfl : j = 0 ∨ j = 1 ∨ j = 2 ∨ j = 3 := by omega
    · rw [Nat.add_zero]
      omega
    all_goals omega
  · intro h
    have h₀ := h 0 (by decide)
    have h₁ := h 1 (by decide)
    have h₂ := h 2 (by decide)
    have h₃ := h 3 (by decide)
    rw [Nat.add_zero] at h₀
    rw [wordAt, wordAt, h₀, h₁, h₂, h₃]

/-- A byte reads the same from the front of a piece of memory when it is part of the front, or
zero. -/
theorem getD_take_eq_iff {m : Bytes} {n i : ℕ} :
    (m.take n).getD i 0 = m.getD i 0 ↔ (n ≤ i → m.getD i 0 = 0) := by
  rcases Nat.lt_or_ge i n with hi | hi
  · -- the byte was copied
    have hcopy : (m.take n).getD i 0 = m.getD i 0 := by
      rw [List.getD_eq_getElem?_getD, List.getElem?_take_of_lt hi, List.getD_eq_getElem?_getD]
    exact iff_of_true hcopy fun hle => absurd hi (Nat.not_lt.mpr hle)
  · have hzero : (m.take n).getD i 0 = 0 := by
      rw [List.getD_eq_getElem?_getD, List.getElem?_take_eq_none hi, Option.getD_none]
    rw [hzero]
    exact ⟨fun h _ => h.symm, fun h => (h hi).symm⟩

/-- A word that was copied in part is the word itself when what is missing is zero. -/
theorem wordAt_take_eq_iff {m : Bytes} {n off : ℕ} :
    wordAt (m.take n) off = wordAt m off ↔
      ∀ i, off ≤ i → i < off + 4 → n ≤ i → m.getD i 0 = 0 := by
  rw [wordAt_eq_iff]
  constructor
  · intro h i hlo hhi
    obtain ⟨j, rfl⟩ := Nat.exists_eq_add_of_le hlo
    exact getD_take_eq_iff.mp (h j (by omega))
  · intro h j hj
    exact getD_take_eq_iff.mpr (h (off + j) (Nat.le_add_right off j) (by omega))

/-! ### Signed readings -/

/-- Subtracting a small constant from a signed word wraps only at the low end of the range. -/
theorem toInt_sub_ofNat (w : Word) (k : ℕ) (hk : k < 2147483648) :
    (w - BitVec.ofNat 32 k).toInt
      = if w.toInt < -2147483648 + k then w.toInt - k + 4294967296 else w.toInt - k := by
  have hlt := w.isLt
  simp only [BitVec.toInt_eq_toNat_cond, BitVec.toNat_sub, BitVec.toNat_ofNat]
  -- the signs of the difference and of `w`, and whether the subtraction wraps
  split <;> split <;> split <;> omega

/-! ### C strings -/

/-- The C string at the front of a piece of memory: the bytes before the first zero byte. -/
def cstr (m : Bytes) : Bytes := m.takeWhile (· ≠ 0)

/-- `strlen`. -/
def strlen (m : Bytes) : ℕ := (cstr m).length

theorem strlen_le_length (m : Bytes) : strlen m ≤ m.length :=
  (List.takeWhile_prefix _).length_le

/-- A text up to its zero byte. -/
theorem cstr_append {s : Bytes} (hs : 0 ∉ s) (rest : Bytes) : cstr (s ++ 0 :: rest) = s := by
  have hall : ∀ b ∈ s, (decide (b ≠ 0)) = true := by
    intro b hb
    exact decide_eq_true fun h => hs (h ▸ hb)
  rw [cstr, List.takeWhile_append_of_pos hall]
  simp

theorem strlen_append {s : Bytes} (hs : 0 ∉ s) (rest : Bytes) :
    strlen (s ++ 0 :: rest) = s.length := by
  rw [strlen, cstr_append hs]

theorem zero_notMem_cstr (m : Bytes) : 0 ∉ cstr m := by
  intro h
  have hne := List.mem_takeWhile_imp h
  simp at hne

theorem cstr_eq_self {s : Bytes} (hs : 0 ∉ s) : cstr s = s := by
  have hall : ∀ b ∈ s, (decide (b ≠ 0)) = true := by
    intro b hb
    exact decide_eq_true fun h => hs (h ▸ hb)
  exact List.takeWhile_eq_self_iff.mpr hall

theorem cstr_cstr (m : Bytes) : cstr (cstr m) = cstr m := cstr_eq_self (zero_notMem_cstr m)

end Words
