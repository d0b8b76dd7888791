import ControllerSystem.CmpHandler
import ControllerSystem.Lib.AssocList
import ControllerSystem.Lib.DecimalText

/-!
# What a body reads as

The fields that `parseBody` finds in a body, for each of the operations of `BodyReader`: what is
stored under a name (`lookup_takeByte` and the lemmas beside it, for any body), and how a body that
was written field by field reads back (`takeStr_append`, `takeInt_append`). The decimal text under
which a number is stored converts back to the number (`convertFromString_convertToString`).
-/

open Words DecimalText

namespace ControllerSystem

/-! ### The receive buffer -/

/-- The memory of a `CMP_PACKET` that was zeroed before the bytes of a packet were received into
it. -/
def receiveBuffer (pBuf : Bytes) : Bytes :=
  pBuf ++ List.replicate (sizeofCmpHeader + maxDataLen - pBuf.length) 0

theorem receiveBuffer_append (h : CmpHeader) (body : Bytes) :
    receiveBuffer (h.bytes ++ body) = packetImage h body := by
  rw [receiveBuffer, packetImage, List.append_assoc, List.length_append, h.length_bytes,
    sizeofCmpHeader, Nat.add_sub_add_left]

@[simp] theorem getCommand_packetImage (h : CmpHeader) (body : Bytes) :
    getCommand (packetImage h body) = h.commandId := getCommand_append h _

/-- What follows a few bytes in zeroed memory. -/
theorem getD_append_replicate (l : Bytes) (n i : ℕ) :
    (l ++ List.replicate n 0).getD i 0 = l.getD i 0 := by
  rw [List.getD_eq_getElem?_getD, List.getD_eq_getElem?_getD]
  rcases Nat.lt_or_ge i l.length with hlt | hge
  · rw [List.getElem?_append_left hlt]
  · rw [List.getElem?_append_right hge, List.getElem?_replicate, List.getElem?_eq_none hge]
    split <;> rfl

/-- The command of a packet is that of the buffer it is received into. -/
@[simp] theorem getCommand_receiveBuffer (pBuf : Bytes) :
    getCommand (receiveBuffer pBuf) = getCommand pBuf := by
  simp only [getCommand, CmpHeader.ofBytes, wordAt, receiveBuffer, getD_append_replicate]

/-- The cases of `parseBody` see the body, with the zero bytes behind it. -/
theorem parseBodyWith_packetImage (fields : BodyReader → BodyReader) {h : CmpHeader}
    (hlen : 0 < nBodyLen h) (body : Bytes) :
    parseBodyWith fields (packetImage h body) =
      ((fields ⟨[], body ++ List.replicate (maxDataLen - body.length) 0⟩).rData.size,
        (fields ⟨[], body ++ List.replicate (maxDataLen - body.length) 0⟩).rData) := by
  have hdrop : (packetImage h body).drop sizeofCmpHeader =
      body ++ List.replicate (maxDataLen - body.length) 0 := List.drop_left' h.length_bytes
  rw [parseBodyWith, hdrop, packetImage, CmpHeader.ofBytes_bytes, if_pos hlen]

/-! ### C strings -/

/-- A text ends before any place where there is a zero byte. -/
theorem strlen_lt_of_mem {m : Bytes} {n : ℕ} (h : 0 ∈ m.take n) : strlen m < n := by
  induction m generalizing n with
  | nil => simp at h
  | cons b m ih =>
    cases n with
    | zero => simp at h
    | succ n =>
      rw [List.take_succ_cons, List.mem_cons] at h
      by_cases hb : b = 0
      · simp [strlen, cstr, hb]
      · have hmem : 0 ∈ m.take n := h.resolve_left (Ne.symm hb)
        have := ih hmem
        simp only [strlen, cstr] at this ⊢
        rw [List.takeWhile_cons_of_pos (by simpa using hb), List.length_cons]
        omega

/-- Zeroed memory holds no text. -/
theorem strlen_append_replicate_le (l : Bytes) (n : ℕ) :
    strlen (l ++ List.replicate n 0) ≤ l.length := by
  induction l with
  | nil => cases n <;> simp [strlen, cstr, List.replicate_succ]
  | cons b l ih =>
    by_cases hb : b = 0
    · simp [strlen, cstr, hb]
    · simp only [strlen, cstr] at ih ⊢
      rw [List.cons_append, List.takeWhile_cons_of_pos (by simpa using hb), List.length_cons,
        List.length_cons]
      omega

/-- A single byte is a valid string unless it is the zero byte. -/
theorem isValidStr_take_one (m : Bytes) :
    isValidStr (m.take 1) maxSize = true ↔ m.headD 0 ≠ 0 := by
  cases m with
  | nil => simp [isValidStr, strlen, cstr]
  | cons b m => by_cases hb : b = 0 <;> simp [isValidStr, strlen, cstr, hb, maxSize]

/-! ### The map of fields -/

namespace CDataHandler

variable {m : CDataHandler} {k n : String} {v : Bytes}

/-- What is stored, and everything else as it was. -/
@[simp] theorem lookup_setData :
    (m.setData n v).lookup k = if k = n then some v else m.lookup k := by
  by_cases h : k = n
  · subst h
    simp [setData]
  · rw [setData, AssocList.lookup_cons_ne h, AssocList.lookup_filter_ne h, if_neg h]

/-- A C string is stored if it is a valid one. -/
theorem lookup_setDataStr {szValue : Bytes} :
    (m.setDataStr n szValue).lookup k =
      if k = n ∧ isValidStr szValue maxSize then some (cstr szValue) else m.lookup k := by
  unfold setDataStr
  split
  · next h => simp [h]
  · next h => simp [h]

end CDataHandler

/-! ### Fields of any body -/

namespace BodyReader

variable {r : BodyReader} {k n : String}

@[simp] theorem pBody_takeByte : (r.takeByte n).pBody = r.pBody.drop 1 := rfl

@[simp] theorem pBody_takeInt : (r.takeInt n).pBody = r.pBody.drop 4 := rfl

/-- A single byte is stored unless it is the zero byte. -/
theorem lookup_takeByte : (r.takeByte n).rData.lookup k =
    if k = n ∧ r.pBody.headD 0 ≠ 0 then some [r.pBody.headD 0] else r.rData.lookup k := by
  simp only [takeByte, CDataHandler.lookup_setDataStr, isValidStr_take_one]
  split
  · next h =>
    cases hbody : r.pBody with
    | nil => simp [hbody] at h
    | cons b m =>
      rw [hbody] at h
      have hb : b ≠ 0 := h.2
      simp [cstr, hb]
  · rfl

/-- A number is always stored. -/
theorem lookup_takeInt : (r.takeInt n).rData.lookup k =
    if k = n then some (convertToString (wordAt r.pBody 0).toInt) else r.rData.lookup k :=
  CDataHandler.lookup_setData

/-- A C string is stored when it is a valid one. -/
theorem lookup_takeStr : (r.takeStr n).rData.lookup k =
    if k = n ∧ isValidStr r.pBody maxSize then some (cstr r.pBody) else r.rData.lookup k := by
  unfold takeStr
  split
  · next h =>
    -- what was found valid once is found valid when it is stored
    have hvalid : isValidStr (cstr r.pBody) maxSize = true := by
      rw [isValidStr, strlen, cstr_cstr]
      exact h
    rw [CDataHandler.lookup_setDataStr, cstr_cstr]
    simp [h, hvalid]
  · next h => simp [h]

/-! ### Fields that were written -/

/-- A valid string with its zero byte is read whole, and the reader stands behind it. -/
theorem takeStr_append {m : CDataHandler} {s : Bytes} (hne : s ≠ []) (hnul : 0 ∉ s)
    (hlen : s.length < maxSize) (rest : Bytes) :
    takeStr ⟨m, s ++ 0 :: rest⟩ n = ⟨m.setData n s, rest⟩ := by
  have hpos := List.length_pos_of_ne_nil hne
  have hvalid : isValidStr (s ++ 0 :: rest) maxSize = true := by
    simp [isValidStr, strlen_append hnul, hpos, hlen]
  have hvalid' : isValidStr s maxSize = true := by
    simp [isValidStr, strlen, cstr_eq_self hnul, hpos, hlen]
  have hdrop : (s ++ 0 :: rest).drop (s.length + 1) = rest := by
    rw [← List.singleton_append, ← List.append_assoc]
    exact List.drop_left' (by simp)
  rw [takeStr, if_pos hvalid, cstr_append hnul, strlen_append hnul, hdrop,
    CDataHandler.setDataStr, if_pos hvalid', cstr_eq_self hnul]

theorem takeByte_cons {m : CDataHandler} {b : UInt8} (hb : b ≠ 0) (rest : Bytes) :
    takeByte ⟨m, b :: rest⟩ n = ⟨m.setData n [b], rest⟩ := by
  have hvalid : isValidStr [b] maxSize = true := (isValidStr_take_one (b :: rest)).mpr hb
  have hself : cstr [b] = [b] := cstr_eq_self (by simpa using hb.symm)
  show BodyReader.mk (m.setDataStr n [b]) rest = _
  rw [CDataHandler.setDataStr, if_pos hvalid, hself]

/-- In zeroed memory there is no further text. -/
theorem takeStr_replicate {m : CDataHandler} (k : ℕ) :
    takeStr ⟨m, List.replicate k 0⟩ n = ⟨m, List.replicate k 0⟩ := by
  have hinvalid : ¬ isValidStr (List.replicate k 0) maxSize = true := by
    cases k <;> simp [isValidStr, strlen, cstr, List.replicate_succ]
  rw [takeStr, if_neg hinvalid]

theorem takeInt_append {m : CDataHandler} (w : Word) (rest : Bytes) :
    takeInt ⟨m, beBytes w ++ rest⟩ n = ⟨m.setData n (convertToString w.toInt), rest⟩ := by
  rw [takeInt, wordAt_beBytes, List.drop_left' (length_beBytes w)]

end BodyReader

/-! ### Accepted bodies -/

/-- The test of a handler that needs these fields. -/
def Accepted (names : List String) (q : ℤ × CDataHandler) : Prop :=
  0 < q.1 ∧ ∀ n ∈ names, q.2.isValidKey n

instance (names : List String) (q : ℤ × CDataHandler) : Decidable (Accepted names q) :=
  inferInstanceAs (Decidable (_ ∧ _))

/-- What an accepted body has been parsed into. -/
theorem Accepted.rData_eq {names : List String} {fields : BodyReader → BodyReader} {pData : Bytes}
    (h : Accepted names (parseBodyWith fields pData)) :
    (parseBodyWith fields pData).2 = (fields ⟨[], pData.drop sizeofCmpHeader⟩).rData := by
  obtain ⟨hpos, -⟩ := h
  unfold parseBodyWith at hpos ⊢
  split at hpos
  · next hlen => rw [if_pos hlen]
  · simp at hpos

/-- An accepted field has been stored. -/
theorem Accepted.lookup {names : List String} {q : ℤ × CDataHandler} (h : Accepted names q)
    {n : String} (hn : n ∈ names) : ∃ v, q.2.lookup n = some v :=
  Option.isSome_iff_exists.mp (h.2 n hn)

/-! ### Numbers as text -/

/-- The digits of a text are neither white space nor a sign. -/
theorem not_blank_of_isDigit {d : UInt8} (hd : IsDigit d) :
    (d == 32 || (decide (9 ≤ d) && decide (d ≤ 13))) = false := by
  have hspace : d ≠ 32 := by
    rintro rfl
    exact absurd hd (by decide)
  have hlt : ¬ d ≤ 13 := fun hle => absurd (UInt8.le_trans hd.1 hle) (by decide)
  simp [hspace, hlt]

theorem takeWhile_digits {ds : Bytes} (hds : ∀ b ∈ ds, IsDigit b) :
    ds.takeWhile (fun c => decide (48 ≤ c) && decide (c ≤ 57)) = ds :=
  List.takeWhile_eq_self_iff.mpr fun b hb => by simpa [IsDigit] using hds b hb

/-- `convertFromString` on digits. -/
theorem convertFromString_digits {d : UInt8} {ds : Bytes} (hds : ∀ b ∈ d :: ds, IsDigit b) :
    convertFromString (d :: ds) =
      max (-2147483648) (min 2147483647 (digitsValue (d :: ds) : ℤ)) := by
  have hd : IsDigit d := hds d List.mem_cons_self
  have hminus : d ≠ 45 := by
    rintro rfl
    exact absurd hd (by decide)
  have hplus : d ≠ 43 := by
    rintro rfl
    exact absurd hd (by decide)
  have htake := takeWhile_digits hds
  rw [convertFromString, List.dropWhile_cons_of_neg (by rw [not_blank_of_isDigit hd]; decide)]
  simp [hminus, hplus, htake]

/-- `convertFromString` on a minus sign and digits. -/
theorem convertFromString_minus {ds : Bytes} (hds : ∀ b ∈ ds, IsDigit b) :
    convertFromString (45 :: ds) =
      max (-2147483648) (min 2147483647 (-(digitsValue ds : ℤ))) := by
  have htake := takeWhile_digits hds
  rw [convertFromString, List.dropWhile_cons_of_neg (by decide)]
  simp [htake]

/-- **Numbers read back.** Every `int` is what its text converts to. -/
theorem convertFromString_convertToString {i : ℤ} (hlo : -2147483648 ≤ i) (hhi : i ≤ 2147483647) :
    convertFromString (convertToString i) = i := by
  rw [convertToString, ascii_toString]
  split
  · obtain ⟨d, ds, hds⟩ := List.exists_cons_of_ne_nil (natText_ne_nil i.toNat)
    have hvalue : digitsValue (d :: ds) = i.toNat := hds ▸ foldl_natText i.toNat
    rw [hds, convertFromString_digits (hds ▸ natText_digits i.toNat), hvalue]
    omega
  · have hvalue : digitsValue (natText (-i).toNat) = (-i).toNat := foldl_natText _
    rw [convertFromString_minus (natText_digits _), hvalue]
    omega

end ControllerSystem
