import ControllerSystem.CJson.Item
import Mathlib.Algebra.Order.BigOperators.Group.List
import Mathlib.Data.List.Flatten
import Mathlib.Tactic.IntervalCases

/-!
# Strings in JSON texts

`parse_string` reads a string twice: the first pass looks for the closing quote and counts, the
second writes the bytes that are meant into a block of the size counted. `print_string_ptr` writes
a string with quotes around it, and with backslashes where there have to be some.

A string literal is a list of pieces, each with its text and with the bytes it stands for. As long
as every escape sequence is complete, the two passes stop at the same quote and the block is large
enough. An escape `\u` skips four bytes, whatever they are, so one that is not complete takes the
second pass past the closing quote.

* `parseString_meaning` — a literal is read to its end, and gives what its pieces stand for: a
  `\uXXXX` or a pair of surrogates the UTF-8 encoding of the character.
* `parseString_printStringPtr` — what `print_string_ptr` prints is read back.
-/

open Words TextPointer

namespace ControllerSystem.CJson

/-! ### Hexadecimal digits and UTF-8 -/

/-- The value of a hexadecimal digit. -/
def hexDigit (c : UInt8) : Option ℕ :=
  if 48 ≤ c ∧ c ≤ 57 then some (c.toNat - 48)
  else if 65 ≤ c ∧ c ≤ 70 then some (10 + c.toNat - 65)
  else if 97 ≤ c ∧ c ≤ 102 then some (10 + c.toNat - 97)
  else none

/-- `parse_hex4`: zero where one of the four is not a digit. -/
def parseHex4 (str : Bytes) : ℕ :=
  (do
    let a ← hexDigit (peek str)
    let b ← hexDigit (peek (str.drop 1))
    let c ← hexDigit (peek (str.drop 2))
    let d ← hexDigit (peek (str.drop 3))
    return ((a * 16 + b) * 16 + c) * 16 + d).getD 0

/-- A continuation byte of UTF-8, `(uc | 0x80) & 0xBF`. -/
def continuation (uc : ℕ) : UInt8 := .ofNat ((uc ||| 0x80) &&& 0xBF)

/-- A character as UTF-8, from the back: `firstByteMark[len]` in the first byte. -/
def utf8 (uc : ℕ) : Bytes :=
  if uc < 0x80 then [.ofNat uc]
  else if uc < 0x800 then [.ofNat (uc >>> 6 ||| 0xC0), continuation uc]
  else if uc < 0x10000 then
    [.ofNat (uc >>> 12 ||| 0xE0), continuation (uc >>> 6), continuation uc]
  else
    [.ofNat (uc >>> 18 ||| 0xF0), continuation (uc >>> 12), continuation (uc >>> 6),
      continuation uc]

/-! ### `parse_string` -/

/-- The first pass: the number of bytes up to the closing quote, where an escaped character goes
with its backslash. A backslash at the end of the text takes the pointer past the terminator. -/
def scan : Bytes → ℕ → Option ℕ
  | [], len => some len
  | c :: ptr, len =>
    if c = 34 then some len
    else if c = 92 then
      match ptr with
      | [] => none
      | _ :: ptr => scan ptr (len + 1)
    else scan ptr (len + 1)

/-- The case `'u'`, with the text behind the letter: the bytes written, and the text where the
reading goes on. The four digits are skipped even where there are fewer, and then the pointer leaves
the text. -/
def unicode (ptr : Bytes) : Option (Bytes × Bytes) :=
  let uc := parseHex4 ptr
  if ptr.length < 4 then none
  else if 0xDC00 ≤ uc ∧ uc ≤ 0xDFFF ∨ uc = 0 then some ([], ptr.drop 4)
  else if 0xD800 ≤ uc ∧ uc ≤ 0xDBFF then
    -- the first half of a surrogate pair
    if peek (ptr.drop 4) ≠ 92 ∨ peek (ptr.drop 5) ≠ 117 then some ([], ptr.drop 4)
    else if ptr.length < 10 then none
    else
      let uc2 := parseHex4 (ptr.drop 6)
      if uc2 < 0xDC00 ∨ 0xDFFF < uc2 then some ([], ptr.drop 10)
      else
        some (utf8 (0x10000 + ((uc &&& 0x3FF) <<< 10 ||| (uc2 &&& 0x3FF))), ptr.drop 10)
  else some (utf8 uc, ptr.drop 4)

/-- The `switch` on the character behind a backslash. -/
def escape : Bytes → Option (Bytes × Bytes)
  | [] => none
  | c :: ptr =>
    if c = 98 then some ([8], ptr)
    else if c = 102 then some ([12], ptr)
    else if c = 110 then some ([10], ptr)
    else if c = 114 then some ([13], ptr)
    else if c = 116 then some ([9], ptr)
    else if c = 117 then unicode ptr
    else some ([c], ptr)

theorem unicode_suffix {ptr : Bytes} {r : Bytes × Bytes} (h : unicode ptr = some r) :
    r.2 <:+ ptr := by
  simp only [unicode] at h
  split_ifs at h <;> cases h <;> exact List.drop_suffix _ _

theorem escape_suffix {ptr : Bytes} {r : Bytes × Bytes} (h : escape ptr = some r) :
    r.2 <:+ ptr ∧ r.2.length < ptr.length := by
  rcases ptr with - | ⟨c, ptr⟩
  · cases h
  have hsuffix : r.2 <:+ ptr := by
    by_cases hu : c = 117
    · rw [hu] at h
      exact unicode_suffix h
    · simp only [escape, if_neg hu] at h
      split_ifs at h <;> cases h <;> exact List.suffix_rfl
  exact ⟨hsuffix.trans (List.suffix_cons c ptr), Nat.lt_succ_of_le hsuffix.length_le⟩

/-- The second pass: the bytes written, and the text from the closing quote on. -/
def unescape : Bytes → Option (Bytes × Bytes)
  | [] => some ([], [])
  | c :: ptr =>
    if c = 34 then some ([], c :: ptr)
    else if c ≠ 92 then (unescape ptr).map fun r => (c :: r.1, r.2)
    else
      match h : escape ptr with
      | none => none
      | some e =>
        have := (escape_suffix h).2
        (unescape e.2).map fun r => (e.1 ++ r.1, r.2)
termination_by ptr => ptr.length

/-- An escape sequence that goes wrong. -/
theorem unescape_none {t : Bytes} (h : escape t = none) : unescape (92 :: t) = none := by
  rw [unescape, if_neg (by decide), if_neg (by decide)]
  split
  · rfl
  · next e he => rw [h] at he; cases he

theorem unescape_escape {t : Bytes} {e : Bytes × Bytes} (h : escape t = some e) :
    unescape (92 :: t) = (unescape e.2).map fun r => (e.1 ++ r.1, r.2) := by
  rw [unescape, if_neg (by decide), if_neg (by decide)]
  split
  · next hnone => rw [h] at hnone; cases hnone
  · next e' he' => rw [h] at he'; cases he'; rfl

theorem unescape_suffix (ptr : Bytes) {r : Bytes × Bytes} (h : unescape ptr = some r) :
    r.2 <:+ ptr := by
  induction ptr using unescape.induct generalizing r with
  | case1 =>
    rw [unescape] at h
    cases h
    exact List.suffix_rfl
  | case2 ptr =>
    rw [unescape, if_pos rfl] at h
    cases h
    exact List.suffix_rfl
  | case3 c ptr h34 h92 ih =>
    rw [unescape, if_neg h34, if_pos h92, Option.map_eq_some_iff] at h
    obtain ⟨r', hr', rfl⟩ := h
    exact (ih hr').trans (List.suffix_cons c ptr)
  | case4 c ptr h34 h92 hnone =>
    obtain rfl := not_not.mp h92
    rw [unescape_none hnone] at h
    cases h
  | case5 c ptr h34 h92 e he hlt ih =>
    obtain rfl := not_not.mp h92
    rw [unescape_escape he, Option.map_eq_some_iff] at h
    obtain ⟨r', hr', rfl⟩ := h
    exact (ih hr').trans ((escape_suffix he).1.trans (List.suffix_cons 92 ptr))

variable {D : Type}

/-- `parse_string`. The block is `len + 1` bytes long, an `int`, and the terminator goes into it,
too. -/
def parseString (item : CJSON D) (str : Bytes) : Outcome (CJSON D × Bytes) :=
  if peek str ≠ 34 then .failed str
  else
    match scan (str.drop 1) 0, unescape (str.drop 1) with
    | some len, some (out, ptr) =>
      if len + 1 ≤ sizeMax ∧ out.length + 1 ≤ len + 1 then
        .done ({ item with valuestring := some out, type := typeString },
          if peek ptr = 34 then ptr.drop 1 else ptr)
      else .undefined
    | _, _ => .undefined

/-! ### `print_string_ptr` -/

/-- Why nothing is printed. -/
inductive PrintError
  /-- The result is `NULL`. -/
  | null
  /-- An access through `NULL`, or behind the end of a block, or a size that is not an `int`. -/
  | undefined
  deriving DecidableEq

/-- Write a text with its terminator into a block, whose size has been added up in an `int`. -/
def fill (size : ℕ) (text : Bytes) : Except PrintError Bytes :=
  if size ≤ sizeMax ∧ text.length + 1 ≤ size then .ok text else .error .undefined

/-- A digit of `"%x"`. -/
def lowerHex (n : ℕ) : UInt8 := .ofNat (if n < 10 then 48 + n else 87 + n)

/-- The digits of `"%04x"` for a byte. -/
def hex04 (token : UInt8) : Bytes :=
  [48, 48, lowerHex (token.toNat / 16), lowerHex (token.toNat % 16)]

/-- A character that needs no backslash. -/
def Verbatim (c : UInt8) : Prop := 31 < c ∧ c ≠ 34 ∧ c ≠ 92

instance (c : UInt8) : Decidable (Verbatim c) := inferInstanceAs (Decidable (_ ∧ _))

/-- What is written for a character. -/
def printChar (token : UInt8) : Bytes :=
  if Verbatim token then [token]
  else 92 ::
    if token = 92 then [92]
    else if token = 34 then [34]
    else if token = 8 then [98]
    else if token = 12 then [102]
    else if token = 10 then [110]
    else if token = 13 then [114]
    else if token = 9 then [116]
    else 117 :: hex04 token

/-- The length counted for a character. -/
def printCharLen (token : UInt8) : ℕ :=
  if token = 34 ∨ token = 92 ∨ token = 8 ∨ token = 12 ∨ token = 10 ∨ token = 13 ∨ token = 9 then 2
  else if token < 32 then 6
  else 1

/-- `print_string_ptr`. The text goes to `out`, with the size asked for. -/
def printStringPtr {R : Type} (out : ℕ → Bytes → Except PrintError R) :
    Option Bytes → Except PrintError R
  | none => .error .undefined
  | some str =>
    if str.all fun c => decide (Verbatim c) then out (str.length + 3) (34 :: str ++ [34])
    else out ((str.map printCharLen).sum + 3) (34 :: str.flatMap printChar ++ [34])

/-! ### Literals -/

/-- Four hexadecimal digits. -/
structure Hex4 where
  a : UInt8
  b : UInt8
  c : UInt8
  d : UInt8
  isSome : ∀ x ∈ [a, b, c, d], (hexDigit x).isSome

namespace Hex4

/-- The digits as they stand in the text. -/
def text (x : Hex4) : Bytes := [x.a, x.b, x.c, x.d]

/-- The number that the digits are. -/
def value (x : Hex4) : ℕ :=
  x.text.foldl (fun n c => n * 16 + (hexDigit c).getD 0) 0

/-- The first half of a surrogate pair. -/
def IsHigh (x : Hex4) : Prop := 0xD800 ≤ x.value ∧ x.value ≤ 0xDBFF

/-- The second half of a surrogate pair. -/
def IsLow (x : Hex4) : Prop := 0xDC00 ≤ x.value ∧ x.value ≤ 0xDFFF

instance (x : Hex4) : Decidable x.IsHigh := inferInstanceAs (Decidable (_ ∧ _))

instance (x : Hex4) : Decidable x.IsLow := inferInstanceAs (Decidable (_ ∧ _))

end Hex4

/-- A piece of a string literal. -/
inductive Piece
  | plain (c : UInt8) (hc : c ≠ 0 ∧ c ≠ 34 ∧ c ≠ 92)
  /-- A backslash with a letter or another character. -/
  | short (c : UInt8) (hc : c ≠ 0 ∧ c ≠ 117)
  /-- `\uXXXX`. -/
  | unit (x : Hex4)

/-- The text of a piece. -/
def Piece.text : Piece → Bytes
  | plain c _ => [c]
  | short c _ => [92, c]
  | unit x => 92 :: 117 :: x.text

theorem Piece.text_ne_nil (p : Piece) : p.text ≠ [] := by
  cases p <;> exact List.cons_ne_nil _ _

/-- What the first pass counts for a piece. -/
def Piece.count : Piece → ℕ
  | plain _ _ => 1
  | short _ _ => 1
  | unit _ => 5

theorem Piece.count_le (p : Piece) : p.count ≤ p.text.length := by
  cases p <;> simp [count, text, Hex4.text]

/-- The character that a letter behind a backslash stands for. -/
def shortValue (c : UInt8) : UInt8 :=
  if c = 98 then 8 else if c = 102 then 12 else if c = 110 then 10 else if c = 114 then 13
  else if c = 116 then 9 else c

/-- The UTF-8 encoding of a character. -/
def encode (n : ℕ) : Bytes := String.utf8EncodeChar (Char.ofNat n)

/-- What a literal stands for. Code units of UTF-16 go together where the first is the first half of
a surrogate pair; a half without its other half is left out, and so is a NUL. -/
def decode : List Piece → Bytes
  | [] => []
  | .plain c _ :: ps => c :: decode ps
  | .short c _ :: ps => shortValue c :: decode ps
  | .unit x :: .unit y :: ps =>
    if x.IsHigh then
      (if y.IsLow then encode (0x10000 + (x.value - 0xD800) * 0x400 + (y.value - 0xDC00))
        else []) ++ decode ps
    else (if x.IsLow ∨ x.value = 0 then [] else encode x.value) ++ decode (.unit y :: ps)
  | .unit x :: ps =>
    (if x.IsHigh ∨ x.IsLow ∨ x.value = 0 then [] else encode x.value) ++ decode ps

/-- The text of a literal, without its quotes. -/
def literalText (ps : List Piece) : Bytes := ps.flatMap Piece.text

/-! ### The encoding -/

/-- A mark above the bits of a number is added to it. -/
theorem or_mark {n m i : ℕ} (hn : n < 2 ^ i) (hm : 2 ^ i ∣ m) : n ||| m = n + m := by
  obtain ⟨k, rfl⟩ := hm
  rw [Nat.or_comm, Nat.add_comm]
  exact (Nat.two_pow_add_eq_or_of_lt hn k).symm

theorem continuation_eq (uc : ℕ) : continuation uc = .ofNat (uc % 64 + 128) := by
  have hbits : (uc ||| 128) &&& 191 = uc % 64 ||| 128 := by
    rw [← Nat.and_two_pow_sub_one_eq_mod uc 6]
    refine Nat.eq_of_testBit_eq fun i => ?_
    simp only [Nat.testBit_and, Nat.testBit_or]
    rcases Nat.lt_or_ge i 8 with hi | hi
    · interval_cases i <;> generalize uc.testBit _ = b <;> revert b <;> decide
    · -- no mask reaches so far
      have hmask : ∀ m < 256, Nat.testBit m i = false := fun m hm =>
        Nat.testBit_lt_two_pow (lt_of_lt_of_le hm (Nat.pow_le_pow_right (n := 2) (by omega) hi))
      simp [hmask 191, hmask 128, hmask 63]
  have hlt : uc % 64 < 2 ^ 6 := Nat.mod_lt uc (by omega)
  rw [continuation, hbits, or_mark hlt (by decide)]

theorem utf8_eq {n : ℕ} (h : n.isValidChar) : utf8 n = encode n := by
  have hval : (Char.ofNat n).val.toNat = n := by
    rw [Char.ofNat, dif_pos h]
    rfl
  have hlt : n < 0x110000 := by
    rcases h with h | h <;> omega
  simp only [utf8, encode, String.utf8EncodeChar, hval, continuation_eq, Nat.shiftRight_eq_div_pow,
    Nat.reducePow]
  split_ifs with h1 h2 h3 <;> try omega
  · rfl
  · rw [or_mark (i := 6) (by omega) (by decide), Nat.mod_eq_of_lt (show n / 64 < 32 by omega)]
  · rw [or_mark (i := 5) (by omega) (by decide), Nat.mod_eq_of_lt (show n / 4096 < 16 by omega)]
  · rw [or_mark (i := 4) (by omega) (by decide), Nat.mod_eq_of_lt (show n / 262144 < 8 by omega)]

theorem length_encode_le (n : ℕ) : (encode n).length ≤ 4 := by
  rw [encode, String.length_utf8EncodeChar]
  exact Char.utf8Size_le_four _

/-- A character in one code unit takes three bytes at most. -/
theorem length_encode_le_three {n : ℕ} (h : n.isValidChar) (hn : n < 0x10000) :
    (encode n).length ≤ 3 := by
  rw [← utf8_eq h, utf8]
  split_ifs <;> simp

/-! ### The two passes over a literal -/

theorem hexDigit_bounds {c : UInt8} (h : (hexDigit c).isSome) : 48 ≤ c ∧ c ≤ 102 ∧ c ≠ 92 := by
  simp only [hexDigit] at h
  simp only [UInt8.le_iff_toNat_le, ne_eq, ← UInt8.toNat_inj] at h ⊢
  split_ifs at h with h1 h2 h3
  · simp only [UInt8.reduceToNat] at h1 ⊢
    omega
  · simp only [UInt8.reduceToNat] at h2 ⊢
    omega
  · simp only [UInt8.reduceToNat] at h3 ⊢
    omega
  · cases h

theorem hexDigit_lt (c : UInt8) : (hexDigit c).getD 0 < 16 := by
  simp only [hexDigit, UInt8.le_iff_toNat_le]
  split_ifs with h1 h2 h3 <;> simp only [UInt8.reduceToNat, Option.getD_some, Option.getD_none] at *
    <;> omega

theorem parseHex4_text (x : Hex4) (t : Bytes) : parseHex4 (x.text ++ t) = x.value := by
  obtain ⟨a, b, c, d, h⟩ := x
  obtain ⟨va, ha⟩ := Option.isSome_iff_exists.mp (h a (by simp))
  obtain ⟨vb, hb⟩ := Option.isSome_iff_exists.mp (h b (by simp))
  obtain ⟨vc, hc⟩ := Option.isSome_iff_exists.mp (h c (by simp))
  obtain ⟨vd, hd⟩ := Option.isSome_iff_exists.mp (h d (by simp))
  simp [parseHex4, Hex4.value, Hex4.text, ha, hb, hc, hd]

theorem Hex4.value_lt (x : Hex4) : x.value < 0x10000 := by
  have ha := hexDigit_lt x.a
  have hb := hexDigit_lt x.b
  have hc := hexDigit_lt x.c
  have hd := hexDigit_lt x.d
  simp only [value, text, List.foldl_cons, List.foldl_nil]
  omega

theorem scan_quote (t : Bytes) (len : ℕ) : scan (34 :: t) len = some len := by
  cases t <;> simp [scan]

theorem scan_plain {c : UInt8} (h34 : c ≠ 34) (h92 : c ≠ 92) (t : Bytes) (len : ℕ) :
    scan (c :: t) len = scan t (len + 1) := by
  cases t <;> simp [scan, h34, h92]

theorem scan_escape (c : UInt8) (t : Bytes) (len : ℕ) :
    scan (92 :: c :: t) len = scan t (len + 1) := by
  simp [scan]

/-- The first pass counts a piece and goes on behind it. -/
theorem scan_text (p : Piece) (t : Bytes) (len : ℕ) :
    scan (p.text ++ t) len = scan t (len + p.count) := by
  cases p with
  | plain c hc => exact scan_plain hc.2.1 hc.2.2 t len
  | short c hc => exact scan_escape c t len
  | unit x =>
    have hdigit : ∀ c ∈ [x.a, x.b, x.c, x.d], c ≠ 34 ∧ c ≠ 92 := fun c hc => by
      obtain ⟨h48, -, h92⟩ := hexDigit_bounds (x.isSome c hc)
      exact ⟨fun h => absurd (h ▸ h48) (by decide), h92⟩
    obtain ⟨ha, ha'⟩ := hdigit x.a (by simp)
    obtain ⟨hb, hb'⟩ := hdigit x.b (by simp)
    obtain ⟨hc, hc'⟩ := hdigit x.c (by simp)
    obtain ⟨hd, hd'⟩ := hdigit x.d (by simp)
    show scan (92 :: 117 :: x.a :: x.b :: x.c :: x.d :: t) len = scan t (len + 5)
    rw [scan_escape, scan_plain ha ha', scan_plain hb hb', scan_plain hc hc', scan_plain hd hd']

/-- A literal ends with its quote, or with the text. -/
def LiteralEnd (t : Bytes) : Prop := t = [] ∨ peek t = 34

theorem LiteralEnd.scan {t : Bytes} (ht : LiteralEnd t) (len : ℕ) : scan t len = some len := by
  rcases t with - | ⟨c, t⟩
  · rfl
  · rcases ht with h | rfl
    · cases h
    · exact scan_quote t len

/-- The first pass stops at the end of the literal. -/
theorem scan_literal (ps : List Piece) {t : Bytes} (ht : LiteralEnd t) (len : ℕ) :
    scan (literalText ps ++ t) len = some (len + (ps.map Piece.count).sum) := by
  induction ps generalizing len with
  | nil => exact ht.scan len
  | cons p ps ih =>
    rw [literalText, List.flatMap_cons, List.append_assoc, scan_text, ← literalText, ih,
      List.map_cons, List.sum_cons, Nat.add_assoc]

theorem LiteralEnd.unescape {t : Bytes} (ht : LiteralEnd t) : unescape t = some ([], t) := by
  rcases t with - | ⟨c, t⟩
  · rw [CJson.unescape]
  · rcases ht with h | rfl
    · cases h
    · exact (CJson.unescape.eq_def _).trans (if_pos rfl)

theorem unescape_plain {c : UInt8} (h34 : c ≠ 34) (h92 : c ≠ 92) (t : Bytes) :
    unescape (c :: t) = (unescape t).map fun r => (c :: r.1, r.2) := by
  rw [unescape, if_neg h34, if_pos h92]

theorem unescape_unicode {t : Bytes} {e : Bytes × Bytes} (h : unicode t = some e) :
    unescape (92 :: 117 :: t) = (unescape e.2).map fun r => (e.1 ++ r.1, r.2) :=
  unescape_escape h

theorem escape_short {c : UInt8} (hc : c ≠ 117) (t : Bytes) :
    escape (c :: t) = some ([shortValue c], t) := by
  simp only [escape, shortValue, if_neg hc]
  split_ifs <;> rfl

/-- A code unit that is not the first half of a pair. -/
theorem unicode_unit {x : Hex4} (hx : ¬ x.IsHigh) (t : Bytes) :
    unicode (x.text ++ t) = some (if x.IsLow ∨ x.value = 0 then [] else encode x.value, t) := by
  have hlen : ¬ (x.text ++ t).length < 4 := by simp [Hex4.text]
  have hdrop : (x.text ++ t).drop 4 = t := rfl
  simp only [Hex4.IsHigh] at hx
  simp only [unicode, parseHex4_text, hdrop, if_neg hlen, if_neg hx]
  by_cases hlow : x.IsLow ∨ x.value = 0
  · have hout : 0xDC00 ≤ x.value ∧ x.value ≤ 0xDFFF ∨ x.value = 0 := hlow
    rw [if_pos hout, if_pos hlow]
  · have hin : ¬ (0xDC00 ≤ x.value ∧ x.value ≤ 0xDFFF ∨ x.value = 0) := hlow
    have hlt := x.value_lt
    rw [if_neg hin, if_neg hlow, utf8_eq]
    simp only [Nat.isValidChar]
    omega

/-- The first half of a pair, with the other half behind it or not. -/
theorem unicode_pair {x : Hex4} (hx : x.IsHigh) (y : Hex4) (t : Bytes) :
    unicode (x.text ++ 92 :: 117 :: (y.text ++ t)) = some
      (if y.IsLow then encode (0x10000 + (x.value - 0xD800) * 0x400 + (y.value - 0xDC00)) else [],
        t) := by
  have hlen : ¬ (x.text ++ 92 :: 117 :: (y.text ++ t)).length < 4 := by simp [Hex4.text]
  have hlen' : ¬ (x.text ++ 92 :: 117 :: (y.text ++ t)).length < 10 := by simp [Hex4.text]
  have hdrop : (x.text ++ 92 :: 117 :: (y.text ++ t)).drop 4 = 92 :: 117 :: (y.text ++ t) := rfl
  have hdrop5 : (x.text ++ 92 :: 117 :: (y.text ++ t)).drop 5 = 117 :: (y.text ++ t) := rfl
  have hdrop6 : (x.text ++ 92 :: 117 :: (y.text ++ t)).drop 6 = y.text ++ t := rfl
  have hdrop10 : (x.text ++ 92 :: 117 :: (y.text ++ t)).drop 10 = t := rfl
  simp only [Hex4.IsHigh] at hx
  simp only [unicode, parseHex4_text, hdrop, hdrop5, hdrop6, hdrop10, if_neg hlen, if_neg hlen',
    peek_cons]
  rw [if_neg (by omega), if_pos hx, if_neg (by simp)]
  by_cases hlow : y.IsLow
  · have hy : 0xDC00 ≤ y.value ∧ y.value ≤ 0xDFFF := hlow
    -- ten bits of either half
    have hbits : (x.value &&& 0x3FF) <<< 10 ||| (y.value &&& 0x3FF) =
        (x.value - 0xD800) * 0x400 + (y.value - 0xDC00) := by
      rw [Nat.and_two_pow_sub_one_eq_mod x.value 10, Nat.and_two_pow_sub_one_eq_mod y.value 10,
        Nat.shiftLeft_eq, Nat.or_comm,
        or_mark (i := 10) (Nat.mod_lt _ (by omega)) (Nat.dvd_mul_left ..)]
      omega
    rw [if_neg (by omega), if_pos hlow, hbits, utf8_eq, Nat.add_assoc]
    simp only [Nat.isValidChar]
    omega
  · have hy : ¬ (0xDC00 ≤ y.value ∧ y.value ≤ 0xDFFF) := hlow
    rw [if_neg hlow, if_pos (by omega)]

/-- The first half of a pair without a second one. -/
theorem unicode_half {x : Hex4} (hx : x.IsHigh) {t : Bytes}
    (ht : peek t ≠ 92 ∨ peek (t.drop 1) ≠ 117) : unicode (x.text ++ t) = some ([], t) := by
  have hlen : ¬ (x.text ++ t).length < 4 := by simp [Hex4.text]
  have hdrop : (x.text ++ t).drop 4 = t := rfl
  have hdrop5 : (x.text ++ t).drop 5 = t.drop 1 := rfl
  simp only [Hex4.IsHigh] at hx
  simp only [unicode, parseHex4_text, hdrop, hdrop5, if_neg hlen]
  rw [if_neg (by omega), if_pos hx, if_pos ht]

/-- No code unit comes next. -/
theorem peek_literal {ps : List Piece} (hps : ∀ y ps', ps = .unit y :: ps' → False) {t : Bytes}
    (ht : LiteralEnd t) :
    peek (literalText ps ++ t) ≠ 92 ∨ peek ((literalText ps ++ t).drop 1) ≠ 117 := by
  rcases ps with - | ⟨⟨c, hc⟩ | ⟨c, hc⟩ | y, ps⟩
  · left
    rcases ht with rfl | h
    · decide
    · exact h.trans_ne (by decide)
  · exact Or.inl hc.2.2
  · exact Or.inr hc.2
  · exact absurd rfl fun h => hps y ps h

/-- The second pass stops there, too. -/
theorem unescape_literal (ps : List Piece) {t : Bytes} (ht : LiteralEnd t) :
    unescape (literalText ps ++ t) = some (decode ps, t) := by
  induction ps using decode.induct with
  | case1 => exact ht.unescape
  | case2 c hc ps ih =>
    show unescape (c :: (literalText ps ++ t)) = _
    rw [unescape_plain hc.2.1 hc.2.2, ih]
    rfl
  | case3 c hc ps ih =>
    show unescape (92 :: c :: (literalText ps ++ t)) = _
    rw [unescape_escape (escape_short hc.2 _), ih]
    rfl
  | case4 x y ps hx ih =>
    have htext : literalText (.unit x :: .unit y :: ps) ++ t =
        92 :: 117 :: (x.text ++ 92 :: 117 :: (y.text ++ (literalText ps ++ t))) := rfl
    rw [htext, unescape_unicode (unicode_pair hx y _), ih, decode, if_pos hx]
    rfl
  | case5 x y ps hx ih =>
    have htext : literalText (.unit x :: .unit y :: ps) ++ t =
        92 :: 117 :: (x.text ++ (literalText (.unit y :: ps) ++ t)) := rfl
    rw [htext, unescape_unicode (unicode_unit hx _), ih, decode, if_neg hx]
    rfl
  | case6 x ps hps ih =>
    have htext : literalText (.unit x :: ps) ++ t =
        92 :: 117 :: (x.text ++ (literalText ps ++ t)) := rfl
    rw [htext, decode]
    · by_cases hx : x.IsHigh
      · rw [unescape_unicode (unicode_half hx (peek_literal hps ht)), ih, if_pos (Or.inl hx)]
        rfl
      · rw [unescape_unicode (unicode_unit hx _), ih]
        simp [hx]
    · exact hps

theorem isValidChar_unit {x : Hex4} (hhigh : ¬ x.IsHigh) (hlow : ¬ x.IsLow) :
    x.value.isValidChar := by
  have hlt := x.value_lt
  simp only [Hex4.IsHigh, Hex4.IsLow] at hhigh hlow
  simp only [Nat.isValidChar]
  omega

/-- The block has room for what a literal stands for. -/
theorem length_decode_le (ps : List Piece) : (decode ps).length ≤ (ps.map Piece.count).sum := by
  induction ps using decode.induct with
  | case1 => exact Nat.le_refl 0
  | case2 c hc ps ih =>
    simp only [decode, List.length_cons, List.map_cons, List.sum_cons, Piece.count]
    omega
  | case3 c hc ps ih =>
    simp only [decode, List.length_cons, List.map_cons, List.sum_cons, Piece.count]
    omega
  | case4 x y ps hx ih =>
    have hpair := length_encode_le (0x10000 + (x.value - 0xD800) * 0x400 + (y.value - 0xDC00))
    simp only [decode, if_pos hx, List.length_append, List.map_cons, List.sum_cons, Piece.count]
    split_ifs
    · omega
    · rw [List.length_nil]
      omega
  | case5 x y ps hx ih =>
    simp only [decode, if_neg hx, List.length_append, List.map_cons, List.sum_cons,
      Piece.count] at ih ⊢
    split_ifs with hlow
    · rw [List.length_nil]
      omega
    · have hunit := length_encode_le_three
        (isValidChar_unit hx fun h => hlow (Or.inl h)) x.value_lt
      omega
  | case6 x ps hps ih =>
    rw [decode]
    · simp only [List.length_append, List.map_cons, List.sum_cons, Piece.count]
      split_ifs with hnot
      · rw [List.length_nil]
        omega
      · have hunit := length_encode_le_three
          (isValidChar_unit (fun h => hnot (Or.inl h)) fun h => hnot (Or.inr (Or.inl h)))
          x.value_lt
        omega
    · exact hps

/-- The first pass counts no more bytes than there are. -/
theorem sum_count_le (ps : List Piece) : (ps.map Piece.count).sum ≤ (literalText ps).length := by
  rw [literalText, List.length_flatMap]
  exact List.sum_le_sum fun p _ => p.count_le

/-- For every list of pieces whose text is not longer than an `int`, `parse_string` stops behind the
closing quote and gives the bytes that the pieces stand for: it writes no more than it has
allocated. -/
theorem parseString_literal (item : CJSON D) (ps : List Piece) {t : Bytes} (ht : LiteralEnd t)
    (hsize : (literalText ps).length + 1 ≤ sizeMax) :
    parseString item (34 :: (literalText ps ++ t)) =
      .done ({ item with valuestring := some (decode ps), type := typeString }, t.drop 1) := by
  have hroom := length_decode_le ps
  have hint : (ps.map Piece.count).sum + 1 ≤ sizeMax :=
    (Nat.succ_le_succ (sum_count_le ps)).trans hsize
  have hscan := scan_literal ps ht 0
  have hdrop : List.drop 1 (34 :: (literalText ps ++ t)) = literalText ps ++ t := rfl
  have hend : (if peek t = 34 then t.drop 1 else t) = t.drop 1 := by
    rcases ht with rfl | h
    · rfl
    · rw [if_pos h]
  rw [Nat.zero_add] at hscan
  rw [parseString, if_neg (by simp), hdrop, hscan, unescape_literal ps ht]
  simp only [if_pos (And.intro hint (Nat.succ_le_succ hroom)), hend]

/-- Every backslash in a text has a character behind it, and every `\u` four digits. -/
def EscapesComplete (t : Bytes) : Prop :=
  ∀ s, 92 :: s <:+ t → s ≠ [] ∧ ∀ s', s = 117 :: s' → ∃ (x : Hex4) (s'' : Bytes), s' = x.text ++ s''

/-- The escape at the start of a text, if there is one, is complete. -/
def escapeComplete : Bytes → Bool
  | [92] => false
  | 92 :: 117 :: s => decide (4 ≤ s.length) && (s.take 4).all fun c => (hexDigit c).isSome
  | _ => true

theorem exists_hex4_iff (s : Bytes) :
    (∃ (x : Hex4) (s' : Bytes), s = x.text ++ s') ↔
      4 ≤ s.length ∧ ∀ c ∈ s.take 4, (hexDigit c).isSome := by
  constructor
  · rintro ⟨x, s', rfl⟩
    exact ⟨by simp [Hex4.text], x.isSome⟩
  · rintro ⟨hlen, hdigits⟩
    match s, hlen with
    | a :: b :: c :: d :: s', _ => exact ⟨⟨a, b, c, d, hdigits⟩, s', rfl⟩

theorem escapeComplete_cons (s : Bytes) :
    escapeComplete (92 :: s) = true ↔
      s ≠ [] ∧ ∀ s', s = 117 :: s' → ∃ (x : Hex4) (s'' : Bytes), s' = x.text ++ s'' := by
  rcases s with - | ⟨c, s⟩
  · exact ⟨nofun, fun h => absurd rfl h.1⟩
  by_cases hc : c = 117
  · subst hc
    rw [escapeComplete, Bool.and_eq_true, decide_eq_true_iff, List.all_eq_true, ← exists_hex4_iff]
    exact ⟨fun h => ⟨List.cons_ne_nil _ _, fun s' hs' => (List.cons.inj hs').2 ▸ h⟩,
      fun h => h.2 s rfl⟩
  · have htrue : escapeComplete (92 :: c :: s) = true := by
      unfold escapeComplete
      split
      · next h => cases h
      · next h => exact absurd (List.cons.inj (List.cons.inj h).2).1 hc
      · rfl
    exact ⟨fun _ => ⟨List.cons_ne_nil _ _, fun s' hs' => absurd (List.cons.inj hs').1 hc⟩,
      fun _ => htrue⟩

theorem escapesComplete_iff (t : Bytes) :
    EscapesComplete t ↔ ∀ r ∈ t.tails, escapeComplete r = true := by
  constructor
  · intro ht r hr
    rw [List.mem_tails] at hr
    rcases r with - | ⟨c, s⟩
    · rfl
    by_cases hc : c = 92
    · rw [hc] at hr ⊢
      exact (escapeComplete_cons s).mpr (ht s hr)
    · unfold escapeComplete
      split
      · next h => exact absurd (List.cons.inj h).1 hc
      · next h => exact absurd (List.cons.inj h).1 hc
      · rfl
  · exact fun h s hs => (escapeComplete_cons s).mp (h _ ((List.mem_tails _ _).mpr hs))

instance (t : Bytes) : Decidable (EscapesComplete t) :=
  decidable_of_iff _ (escapesComplete_iff t).symm

/-- Behind some quote of the text there are pieces, and then an escape that is not complete. -/
def BadLiteral (t : Bytes) : Prop :=
  ∃ (ps : List Piece) (s : Bytes), 34 :: (literalText ps ++ 92 :: s) <:+ t ∧
    escapeComplete (92 :: s) = false

theorem BadLiteral.mono {s t : Bytes} (h : BadLiteral s) (hs : s <:+ t) : BadLiteral t :=
  let ⟨ps, r, hr, hescape⟩ := h
  ⟨ps, r, hr.trans hs, hescape⟩

theorem EscapesComplete.not_badLiteral {t : Bytes} (ht : EscapesComplete t) : ¬ BadLiteral t := by
  rintro ⟨ps, s, hs, hescape⟩
  have hback : 92 :: s <:+ t := (List.suffix_append (34 :: literalText ps) (92 :: s)).trans hs
  rw [(escapeComplete_cons s).mpr (ht s hback)] at hescape
  cases hescape

/-- A text starts with the pieces of a literal, up to its end or to an escape that is not
complete. -/
theorem exists_literal (t : Bytes) (hnul : 0 ∉ t) :
    ∃ (ps : List Piece) (t' : Bytes), t = literalText ps ++ t' ∧
      (LiteralEnd t' ∨ ∃ s, t' = 92 :: s ∧ escapeComplete t' = false) := by
  induction hn : t.length using Nat.strong_induction_on generalizing t with
  | _ n ih =>
    -- what is behind a piece starts with the rest of the literal
    have hmore : ∀ (p : Piece) (s : Bytes), t = p.text ++ s →
        ∃ (ps : List Piece) (t' : Bytes), t = literalText ps ++ t' ∧
          (LiteralEnd t' ∨ ∃ s, t' = 92 :: s ∧ escapeComplete t' = false) := by
      intro p s hp
      have hlt : s.length < n := by
        rw [← hn, hp, List.length_append]
        have := List.length_pos_iff.mpr p.text_ne_nil
        omega
      have hsuffix : s <:+ t := ⟨p.text, hp.symm⟩
      obtain ⟨ps, t', hs, hend⟩ := ih s.length hlt s (fun h => hnul (hsuffix.subset h)) rfl
      refine ⟨p :: ps, t', ?_, hend⟩
      rw [hp, literalText, List.flatMap_cons, List.append_assoc, ← literalText, ← hs]
    rcases t with - | ⟨c, s⟩
    · exact ⟨[], [], rfl, .inl (.inl rfl)⟩
    obtain ⟨hc, hs⟩ := not_or.mp (List.mem_cons.not.mp hnul)
    by_cases h34 : c = 34
    · exact ⟨[], c :: s, rfl, .inl (.inr h34)⟩
    by_cases h92 : c = 92
    · subst h92
      by_cases hescape : escapeComplete (92 :: s) = true
      · obtain ⟨hne, hunit⟩ := (escapeComplete_cons s).mp hescape
        rcases s with - | ⟨d, s⟩
        · exact absurd rfl hne
        obtain ⟨hd, -⟩ := not_or.mp (List.mem_cons.not.mp hs)
        by_cases h117 : d = 117
        · obtain ⟨x, s', rfl⟩ := hunit s (h117 ▸ rfl)
          exact hmore (.unit x) s' (h117 ▸ rfl)
        · exact hmore (.short d ⟨Ne.symm hd, h117⟩) s rfl
      · exact ⟨[], 92 :: s, rfl, .inr ⟨s, rfl, Bool.eq_false_iff.mpr hescape⟩⟩
    · exact hmore (.plain c ⟨Ne.symm hc, h34, h92⟩) s rfl

/-- In a text whose length is an `int`, `parse_string` leaves its memory only where the literal it
reads has an escape that is not complete. -/
theorem parseString_undefined {item : CJSON D} {s : Bytes} (hnul : 0 ∉ s)
    (hsize : s.length ≤ sizeMax) (h : parseString item s = .undefined) : BadLiteral s := by
  by_cases hquote : peek s = 34
  · obtain ⟨r, rfl⟩ : ∃ r, s = 34 :: r := by
      rcases s with - | ⟨c, r⟩
      · cases hquote
      · exact ⟨r, by rw [← hquote, peek_cons]⟩
    obtain ⟨ps, t', rfl, hend | ⟨r, rfl, hescape⟩⟩ :=
      exists_literal r fun hmem => hnul (List.mem_cons_of_mem 34 hmem)
    · rw [parseString_literal item ps hend (le_trans (by simp) hsize)] at h
      cases h
    · exact ⟨ps, r, List.suffix_rfl, hescape⟩
  · rw [parseString, if_pos hquote] at h
    cases h

/-- **The string literals.** Without NUL bytes, with every escape complete and with a length that is
an `int`, what stands behind a quote is a list of pieces up to another quote or the end of the text.
`parse_string` returns the pointer behind it, and the string is what the pieces stand for. -/
theorem parseString_meaning (item : CJSON D) {t : Bytes} (hnul : 0 ∉ t) (ht : EscapesComplete t)
    (hsize : t.length + 1 ≤ sizeMax) :
    ∃ (ps : List Piece) (t' : Bytes), t = literalText ps ++ t' ∧ LiteralEnd t' ∧
      parseString item (34 :: t) =
        .done ({ item with valuestring := some (decode ps), type := typeString }, t'.drop 1) := by
  obtain ⟨ps, t', rfl, hend | ⟨s, rfl, hescape⟩⟩ := exists_literal t hnul
  · exact ⟨ps, t', rfl, hend, parseString_literal item ps hend (le_trans (by simp) hsize)⟩
  · -- every escape is complete
    rw [(escapeComplete_cons s).mpr (ht s (List.suffix_append _ _))] at hescape
    cases hescape

/-- A line end, and the two halves of a surrogate pair. -/
theorem parseString_meaning_surrogates :
    ∃ (ps : List Piece) (t' : Bytes),
      ascii "\\n\\uD83D\\uDE00\"," = literalText ps ++ t' ∧ LiteralEnd t' ∧
        parseString (newItem : CJSON ℚ) (34 :: ascii "\\n\\uD83D\\uDE00\",") =
          .done ({ newItem with valuestring := some (decode ps), type := typeString },
            t'.drop 1) :=
  parseString_meaning newItem (by decide) (by decide +kernel) (by decide)

/-! ### What is printed -/

/-- A code unit that is not the first half of a pair stands for itself. -/
theorem decode_unit {x : Hex4} (hx : ¬ x.IsHigh) (ps : List Piece) :
    decode (.unit x :: ps) =
      (if x.IsLow ∨ x.value = 0 then [] else encode x.value) ++ decode ps := by
  rcases ps with - | ⟨- | - | y, ps⟩ <;> simp [decode, hx]

/-- The digits of a byte, with two zeros in front. -/
theorem exists_hex04 (token : UInt8) :
    ∃ x : Hex4, x.text = hex04 token ∧ x.value = token.toNat := by
  have hdigit : ∀ n : ℕ, n < 16 → hexDigit (lowerHex n) = some n := by decide
  have hlt := token.toNat_lt
  have hhi := hdigit (token.toNat / 16) (by omega)
  have hlo := hdigit (token.toNat % 16) (by omega)
  refine ⟨⟨48, 48, lowerHex (token.toNat / 16), lowerHex (token.toNat % 16), ?_⟩, rfl, ?_⟩
  · intro c hc
    simp only [List.mem_cons, List.not_mem_nil, or_false] at hc
    rcases hc with rfl | rfl | rfl | rfl
    · decide
    · decide
    · simp [hhi]
    · simp [hlo]
  · have hzero : hexDigit 48 = some 0 := by decide
    simp only [Hex4.value, Hex4.text, List.foldl_cons, List.foldl_nil, hhi, hlo, hzero,
      Option.getD_some]
    omega

/-- What is printed for a character is a piece that stands for it. -/
theorem exists_piece {b : UInt8} (hb : b ≠ 0) :
    ∃ p : Piece, p.text = printChar b ∧ ∀ ps, decode (p :: ps) = b :: decode ps := by
  by_cases hverb : Verbatim b
  · exact ⟨.plain b ⟨hb, hverb.2⟩, by simp [Piece.text, printChar, hverb], fun ps => rfl⟩
  -- the characters with a letter of their own
  have hshort : ∀ c (hc : c ≠ 0 ∧ c ≠ 117), shortValue c = b → printChar b = [92, c] →
      ∃ p : Piece, p.text = printChar b ∧ ∀ ps, decode (p :: ps) = b :: decode ps :=
    fun c hc hval htext => ⟨.short c hc, htext.symm, fun ps => by rw [decode, hval]⟩
  by_cases h92 : b = 92
  · exact hshort 92 (by decide) h92.symm (by subst h92; rfl)
  by_cases h34 : b = 34
  · exact hshort 34 (by decide) h34.symm (by subst h34; rfl)
  by_cases h8 : b = 8
  · exact hshort 98 (by decide) h8.symm (by subst h8; rfl)
  by_cases h12 : b = 12
  · exact hshort 102 (by decide) h12.symm (by subst h12; rfl)
  by_cases h10 : b = 10
  · exact hshort 110 (by decide) h10.symm (by subst h10; rfl)
  by_cases h13 : b = 13
  · exact hshort 114 (by decide) h13.symm (by subst h13; rfl)
  by_cases h9 : b = 9
  · exact hshort 116 (by decide) h9.symm (by subst h9; rfl)
  -- another control character
  obtain ⟨x, htext, hval⟩ := exists_hex04 b
  have hpos : 0 < b.toNat := Nat.pos_of_ne_zero fun h => hb (UInt8.toNat_inj.mp h)
  have hlt : b.toNat < 32 := by
    have h31 : ¬ 31 < b := fun h => hverb ⟨h, h34, h92⟩
    simp only [UInt8.lt_iff_toNat_lt, UInt8.reduceToNat] at h31
    omega
  have hhigh : ¬ x.IsHigh := by
    simp only [Hex4.IsHigh]
    omega
  have hlow : ¬ (x.IsLow ∨ x.value = 0) := by
    simp only [Hex4.IsLow]
    omega
  refine ⟨.unit x, ?_, fun ps => ?_⟩
  · simp [Piece.text, printChar, hverb, h92, h34, h8, h12, h10, h13, h9, htext]
  · rw [decode_unit hhigh, if_neg hlow, hval, ← utf8_eq (Or.inl (by omega)), utf8,
      if_pos (by omega)]
    simp

/-- What is printed between the quotes is a literal that stands for the string. -/
theorem exists_pieces {s : Bytes} (hs : 0 ∉ s) :
    ∃ ps : List Piece, literalText ps = s.flatMap printChar ∧ decode ps = s := by
  induction s with
  | nil => exact ⟨[], rfl, rfl⟩
  | cons b s ih =>
    obtain ⟨hb, hs⟩ := not_or.mp (List.mem_cons.not.mp hs)
    obtain ⟨ps, htext, hdecode⟩ := ih hs
    obtain ⟨p, hp, hpd⟩ := exists_piece (Ne.symm hb)
    refine ⟨p :: ps, ?_, by rw [hpd, hdecode]⟩
    rw [literalText, List.flatMap_cons, List.flatMap_cons, hp, ← literalText, htext]

theorem length_printChar (b : UInt8) : (printChar b).length = printCharLen b := by
  by_cases hverb : Verbatim b
  · have hnot : ¬ b < 32 := by
      have h31 := hverb.1
      simp only [UInt8.lt_iff_toNat_lt, UInt8.reduceToNat] at h31 ⊢
      omega
    have hshort : ¬ (b = 34 ∨ b = 92 ∨ b = 8 ∨ b = 12 ∨ b = 10 ∨ b = 13 ∨ b = 9) := by
      rintro (rfl | rfl | rfl | rfl | rfl | rfl | rfl) <;> revert hverb <;> decide
    rw [printChar, if_pos hverb, printCharLen, if_neg hshort, if_neg hnot, List.length_singleton]
  · by_cases hshort : b = 34 ∨ b = 92 ∨ b = 8 ∨ b = 12 ∨ b = 10 ∨ b = 13 ∨ b = 9
    · rcases hshort with rfl | rfl | rfl | rfl | rfl | rfl | rfl <;> rfl
    · have hlt : b < 32 := by
        obtain ⟨h34, h92, -⟩ := not_or.mp hshort |>.imp id (not_or.mp ·)
        have h31 : ¬ 31 < b := fun h => hverb ⟨h, h34, h92⟩
        simp only [UInt8.lt_iff_toNat_lt, UInt8.reduceToNat] at h31 ⊢
        omega
      rw [printCharLen, if_neg hshort, if_pos hlt]
      obtain ⟨h34, h92, h8, h12, h10, h13, h9⟩ :
          b ≠ 34 ∧ b ≠ 92 ∧ b ≠ 8 ∧ b ≠ 12 ∧ b ≠ 10 ∧ b ≠ 13 ∧ b ≠ 9 := by
        simpa only [not_or] using hshort
      simp [printChar, hverb, h92, h34, h8, h12, h10, h13, h9, hex04]

/-- A string printed: with quotes, and with backslashes where there have to be some. -/
def quoted (s : Bytes) : Bytes := 34 :: s.flatMap printChar ++ [34]

/-- Both ways of `print_string_ptr` print the same, and ask for as much room as it takes. -/
theorem printStringPtr_some {R : Type} (out : ℕ → Bytes → Except PrintError R) (s : Bytes) :
    printStringPtr out (some s) = out ((quoted s).length + 1) (quoted s) := by
  rw [printStringPtr]
  split
  · next hall =>
    have hsame : s.flatMap printChar = s := by
      rw [List.all_eq_true] at hall
      conv_rhs => rw [← List.flatMap_singleton' s]
      refine List.flatMap_congr fun c hc => ?_
      rw [printChar, if_pos (of_decide_eq_true (hall c hc))]
    rw [quoted, hsame, List.length_append, List.length_cons, List.length_singleton]
  · have hlen : (s.flatMap printChar).length = (s.map printCharLen).sum := by
      simp [List.length_flatMap, length_printChar]
    rw [quoted, List.length_append, List.length_cons, List.length_singleton, hlen]

theorem fill_eq {size : ℕ} {text : Bytes} (hsize : size ≤ sizeMax) (h : text.length + 1 ≤ size) :
    fill size text = .ok text :=
  if_pos ⟨hsize, h⟩

theorem fill_ok {size : ℕ} {text text' : Bytes} (h : fill size text = .ok text') :
    text' = text ∧ size ≤ sizeMax ∧ text.length + 1 ≤ size := by
  rw [fill] at h
  split_ifs at h with hroom
  cases h
  exact ⟨rfl, hroom⟩

theorem parseString_quoted (item : CJSON D) {s : Bytes} (hs : 0 ∉ s)
    (hsize : (quoted s).length ≤ sizeMax) (rest : Bytes) :
    parseString item (quoted s ++ rest) =
      .done ({ item with valuestring := some s, type := typeString }, rest) := by
  obtain ⟨ps, htext, hdecode⟩ := exists_pieces hs
  have hquoted : quoted s ++ rest = 34 :: (literalText ps ++ 34 :: rest) := by
    simp [quoted, htext]
  have hlen : (literalText ps).length + 1 ≤ (quoted s).length := by
    simp [quoted, htext]
  rw [hquoted, parseString_literal item ps (Or.inr rfl) (hlen.trans hsize), hdecode,
    List.drop_succ_cons, List.drop_zero]

theorem zero_notMem_printChar {c : UInt8} (hc : c ≠ 0) : 0 ∉ printChar c := by
  have hdigit : ∀ n < 16, lowerHex n ≠ 0 := by decide
  have hlow := hdigit (c.toNat % 16) (Nat.mod_lt _ (by decide))
  have hhigh := hdigit (c.toNat / 16) (by have := c.toNat_lt; omega)
  simp only [printChar, hex04]
  split_ifs <;> simp [hc.symm, hlow.symm, hhigh.symm]

/-- **The round trip of the strings.** Where the size of its text is an `int`, what
`print_string_ptr` prints for a string, `parse_string` reads as that string, and it stops behind it,
whatever comes there. -/
theorem parseString_printStringPtr (item : CJSON D) {s : Bytes} (hs : 0 ∉ s)
    (hsize : (quoted s).length + 1 ≤ sizeMax) (rest : Bytes) :
    ∃ text, printStringPtr fill (some s) = .ok text ∧
      parseString item (text ++ rest) =
        .done ({ item with valuestring := some s, type := typeString }, rest) :=
  ⟨quoted s, (printStringPtr_some fill s).trans (fill_eq hsize (Nat.le_refl _)),
    parseString_quoted item hs (Nat.le_of_succ_le hsize) rest⟩

/-- A quote, a backslash, a line end and a control character. -/
theorem parseString_printStringPtr_escaped :
    ∃ text, printStringPtr fill (some [34, 92, 10, 1, 200]) = .ok text ∧
      parseString (newItem : CJSON ℚ) (text ++ [44]) =
        .done ({ newItem with valuestring := some [34, 92, 10, 1, 200], type := typeString },
          [44]) :=
  parseString_printStringPtr newItem (by decide) (by decide) [44]

end ControllerSystem.CJson
