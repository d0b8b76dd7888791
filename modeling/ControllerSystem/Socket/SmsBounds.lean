import ControllerSystem.Socket.SmsHandler

/-!
# Array bounds in the client thread

A peer may announce any `command_length`. The body read asks for `nBodyLen` bytes and the message
takes `nTotalLen` bytes, and neither number is compared with the size of the array it goes to. The
arrays hold a packet of at most 16 + 2048 bytes, so the loops stay within them exactly for the
announced lengths of `LengthInRange`: up to 2064 on the signed reading, except the sixteen lowest,
which wrap around to a large `nBodyLen`.

* `Controller.inBounds_iff`, `ControlCenter.inBounds_iff` — for one header, both directions;
* `runSMSHandler_in_bounds_iff` — the two loops together;
* `run_ne_fault` — a run that meets only such headers never writes behind an array.
-/

open Words ChunkedReader

namespace ControllerSystem

/-- The announced lengths both arrays can take. -/
def LengthInRange (h : CmpHeader) : Prop := -2147483632 ≤ nTotalLen h ∧ nTotalLen h ≤ 2064

instance (h : CmpHeader) : Decidable (LengthInRange h) := inferInstanceAs (Decidable (_ ∧ _))

/-- The reaction of a loop to the header `h`, and to the bytes it reads next, stays within the
arrays. -/
structure InBounds (R : Reader SmsState UInt8 SmsEffect) (h : CmpHeader) : Prop where
  /-- The next read stores at most `MAX_DATA_LEN` bytes. -/
  store_le : ∀ n, R.request (R.onRecv .header h.bytes).1 = some n → n ≤ maxDataLen
  header_ne_fault : (R.onRecv .header h.bytes).1 ≠ .fault
  /-- Whatever the next read returns, it is not stored, nor copied to a message, behind the end
  of an array. -/
  next_ne_fault : ∀ n bs, R.request (R.onRecv .header h.bytes).1 = some n → bs.length ≤ n →
    (R.onRecv (R.onRecv .header h.bytes).1 bs).1 ≠ .fault

/-! ### The parts of the loops -/

/-- A message takes any length up to `DATA_LEN`. -/
theorem sendMessage_eq_none_iff {nType nCommand nId nDataLen : ℤ} {data : Bytes} :
    sendMessage nType nCommand nId nDataLen (some data) = none ↔ (dataLen : ℤ) < nDataLen := by
  unfold sendMessage
  dsimp only
  split
  · -- a positive length is compared with the size of `cData`
    split
    · simp only [true_iff]
      omega
    · simp only [reduceCtorEq, false_iff]
      omega
  · -- nothing is copied
    simp only [reduceCtorEq, false_iff, dataLen]
    omega

/-- The loop goes on with a header, or has run over the end of `cData`. -/
theorem SmsThread.deliverMessage_state (t : SmsThread) (nType nCommand : ℤ) (h : CmpHeader)
    (body : Bytes) :
    (t.deliverMessage nType nCommand h body).1 =
      if (dataLen : ℤ) < nTotalLen h then .fault else .header := by
  unfold SmsThread.deliverMessage
  split
  · next message hsome =>
    rw [if_neg]
    rintro hlt
    rw [sendMessage_eq_none_iff.mpr hlt] at hsome
    exact absurd hsome (by simp)
  · next hnone => rw [if_pos (sendMessage_eq_none_iff.mp hnone)]

/-- A body in range is stored within `cmpdata`. -/
theorem SmsThread.receiveBody_state (t : SmsThread) (farewell : List SmsEffect)
    (deliver : CmpHeader → Bytes → SmsState × List SmsEffect) (h : CmpHeader) {bs : Bytes}
    (hle : bs.length ≤ maxDataLen) :
    (t.receiveBody farewell deliver h bs).1 = .closed ∨
      t.receiveBody farewell deliver h bs = deliver h bs := by
  unfold SmsThread.receiveBody
  rw [if_neg (Nat.not_lt.mpr hle)]
  split
  · exact .inl rfl
  · exact .inr rfl

/-- An announced length out of range asks for more bytes than `cmpdata` holds. -/
theorem maxDataLen_lt_nBodyLen {h : CmpHeader} (hrange : ¬ LengthInRange h) :
    (maxDataLen : ℤ) < nBodyLen h := by
  have hlow := BitVec.le_toInt h.commandLength
  rw [LengthInRange, not_and_or] at hrange
  rw [nBodyLen_eq, maxDataLen]
  rw [nTotalLen] at *
  -- above 2064 the difference is above 2048; the sixteen lowest lengths wrap around to its top
  split <;> omega

/-- An announced length in range asks for at most what `cmpdata` holds. -/
theorem nBodyLen_le_maxDataLen {h : CmpHeader} (hrange : LengthInRange h) :
    nBodyLen h ≤ maxDataLen := by
  obtain ⟨hlow, hhigh⟩ := hrange
  rw [nBodyLen_eq, maxDataLen, if_neg (by omega)]
  omega

/-- Without a body the announced length is in range. -/
theorem lengthInRange_of_nBodyLen_nonpos {h : CmpHeader} (hbody : ¬ 0 < nBodyLen h) :
    LengthInRange h := by
  by_contra hrange
  -- out of range the body would not only be there but be too large
  have hlt := maxDataLen_lt_nBodyLen hrange
  omega

/-- A header after which the loop reads the next header is in bounds. -/
theorem InBounds.of_header {R : Reader SmsState UInt8 SmsEffect} {h : CmpHeader}
    (hreq : R.request .header = some sizeofCmpHeader)
    (hheader : ∀ bs, (R.onRecv .header bs).1 ≠ .fault)
    (hstate : (R.onRecv .header h.bytes).1 = .header) : InBounds R h where
  store_le := by
    intro n hn
    rw [hstate, hreq] at hn
    obtain rfl := Option.some.inj hn
    decide
  header_ne_fault := hheader _
  next_ne_fault := by
    intro n bs _ _
    rw [hstate]
    exact hheader bs

/-- A header after which the loop reads a body is in bounds when its length is in range. -/
theorem inBounds_iff_of_body {R : Reader SmsState UInt8 SmsEffect} {h : CmpHeader}
    (hreq : R.request (.body h) = some (nBodyLen h).toNat)
    (hbody : LengthInRange h → ∀ bs, bs.length ≤ (nBodyLen h).toNat →
      (R.onRecv (.body h) bs).1 ≠ .fault)
    (hstate : (R.onRecv .header h.bytes).1 = .body h) : InBounds R h ↔ LengthInRange h := by
  constructor
  · -- the read that follows asks for more than `cmpdata` holds
    intro hin
    by_contra hrange
    have hlt := maxDataLen_lt_nBodyLen hrange
    have hle := hin.store_le (nBodyLen h).toNat (by rw [hstate, hreq])
    omega
  · intro hrange
    have hle := nBodyLen_le_maxDataLen hrange
    refine ⟨fun n hn => ?_, by simp [hstate], fun n bs hn hbs => ?_⟩
    · rw [hstate, hreq] at hn
      obtain rfl := Option.some.inj hn
      omega
    · rw [hstate] at hn ⊢
      rw [hreq] at hn
      obtain rfl := Option.some.inj hn
      exact hbody hrange bs hbs

/-! ### Whole runs -/

/-- No fault, and a body that is waited for has a length in range. -/
def GoodState (s : SmsState) : Prop := s ≠ .fault ∧ ∀ h, s = .body h → LengthInRange h

theorem GoodState.header : GoodState .header := ⟨by simp, by simp⟩

theorem GoodState.closed : GoodState .closed := ⟨by simp, by simp⟩

theorem GoodState.body {h : CmpHeader} (hrange : LengthInRange h) : GoodState (.body h) :=
  ⟨by simp, fun _ heq => SmsState.body.inj heq ▸ hrange⟩

/-- **Runs stay within the arrays.** If every reaction leads to a good state, so does a run in
which every complete header met the guard `ok`. -/
theorem run_goodState {R : Reader SmsState UInt8 SmsEffect} (ok : CmpHeader → Prop)
    (hrequest : R.request = smsRequest)
    (hheader : ∀ bs, (bs.length = 16 → ok (CmpHeader.ofBytes bs)) →
      GoodState (R.onRecv .header bs).1)
    (hbody : ∀ h bs, LengthInRange h → bs.length ≤ (nBodyLen h).toNat →
      GoodState (R.onRecv (.body h) bs).1)
    {s : SmsState} {u : Bytes} {ks : List ℕ} (hgood : GoodState s) (hlegal : R.Legal s u ks)
    (hok : ∀ u', (.header, u') ∈ R.visits s u ks → 16 ≤ u'.length →
      ok (CmpHeader.ofBytes (u'.take 16))) :
    GoodState (R.run s u ks).state := by
  induction ks generalizing s u with
  | nil => exact hgood
  | cons k ks ih =>
    obtain ⟨⟨n, hn, -, hkn, hku⟩, hrest⟩ := hlegal
    rw [hrequest] at hn
    refine ih ?_ hrest fun u' hu' => hok u' (List.mem_cons_of_mem _ hu')
    -- what the next call returns is a good state's reaction
    cases s with
    | header =>
      obtain rfl := Option.some.inj hn
      refine hheader _ fun hlen => ?_
      rw [List.length_take] at hlen
      -- sixteen bytes are a complete header, which met the guard
      obtain rfl : k = 16 := by
        simp only [sizeofCmpHeader] at hkn
        omega
      exact hok u List.mem_cons_self hku
    | body h =>
      obtain rfl := Option.some.inj hn
      -- the body waited for has a length in range, and no more than that is received
      refine hbody h _ (hgood.2 h rfl) ?_
      rw [List.length_take]
      omega
    | closed => exact absurd hn (by simp [smsRequest])
    | fault => exact absurd rfl hgood.1

/-! ### The Controller's loop -/

namespace Controller

variable {t : SmsThread}

theorem deliver_state {h : CmpHeader} (hrange : LengthInRange h) (body : Bytes) :
    (deliver t h body).1 = .header := by
  have hle := hrange.2
  unfold deliver
  split
  · rfl
  · rw [t.deliverMessage_state, if_neg (by simp only [dataLen]; omega)]

/-- The state a header leads to. -/
theorem onRecv_header_state (bs : Bytes) :
    ((runSMSHandler t).onRecv .header bs).1 =
      if bs.length = 16 then
        if 0 < nBodyLen (.ofBytes bs) then .body (.ofBytes bs) else .header
      else .closed := by
  by_cases hlen : bs.length = 16
  · by_cases hbody : 0 < nBodyLen (.ofBytes bs)
    · simp [runSMSHandler, onRecv, sizeofCmpHeader, hlen, hbody]
    · simp [runSMSHandler, onRecv, sizeofCmpHeader, hlen, hbody,
        deliver_state (lengthInRange_of_nBodyLen_nonpos hbody)]
  · simp [runSMSHandler, onRecv, sizeofCmpHeader, hlen]

theorem onRecv_header_ne_fault (bs : Bytes) : ((runSMSHandler t).onRecv .header bs).1 ≠ .fault := by
  rw [onRecv_header_state]
  split
  · split <;> simp
  · simp

/-- The state a body in range leads to. -/
theorem onRecv_body_state {h : CmpHeader} (hrange : LengthInRange h) {bs : Bytes}
    (hbs : bs.length ≤ (nBodyLen h).toNat) :
    ((runSMSHandler t).onRecv (.body h) bs).1 = .closed ∨
      ((runSMSHandler t).onRecv (.body h) bs).1 = .header := by
  have hle := nBodyLen_le_maxDataLen hrange
  simp only [runSMSHandler, onRecv]
  rcases t.receiveBody_state [] (deliver t) h (hbs.trans (by omega)) with hclosed | hdeliver
  · exact .inl hclosed
  · exact .inr (by rw [hdeliver, deliver_state hrange])

/-- One header of the Controller's loop. -/
theorem inBounds_iff (h : CmpHeader) : InBounds (runSMSHandler t) h ↔ LengthInRange h := by
  have hof : CmpHeader.ofBytes h.bytes = h := by simpa using h.ofBytes_bytes []
  have hstate := onRecv_header_state (t := t) h.bytes
  rw [if_pos h.length_bytes, hof] at hstate
  by_cases hpos : 0 < nBodyLen h
  · rw [if_pos hpos] at hstate
    refine inBounds_iff_of_body rfl (fun hrange bs hbs => ?_) hstate
    rcases onRecv_body_state (t := t) hrange hbs with hs | hs <;> simp [hs]
  · rw [if_neg hpos] at hstate
    exact iff_of_true (.of_header rfl onRecv_header_ne_fault hstate)
      (lengthInRange_of_nBodyLen_nonpos hpos)

/-- A run of the Controller's loop that meets only lengths in range. -/
theorem run_ne_fault {u : Bytes} {ks : List ℕ} (hlegal : (runSMSHandler t).Legal .header u ks)
    (hok : ∀ u', (.header, u') ∈ (runSMSHandler t).visits .header u ks → 16 ≤ u'.length →
      LengthInRange (CmpHeader.ofBytes (u'.take 16))) :
    ((runSMSHandler t).run .header u ks).state ≠ .fault := by
  refine (run_goodState LengthInRange rfl (fun bs hbs => ?_) (fun h bs hrange hlen => ?_)
    .header hlegal hok).1
  · rw [onRecv_header_state]
    by_cases hlen : bs.length = 16
    · rw [if_pos hlen]
      split
      · exact .body (hbs hlen)
      · exact .header
    · rw [if_neg hlen]
      exact .closed
  · rcases onRecv_body_state (t := t) hrange hlen with hs | hs <;> rw [hs]
    · exact .closed
    · exact .header

end Controller

/-! ### The ControlCenter's loop -/

namespace ControlCenter

variable {t : SmsThread}

/-- The headers after which the loop stays within the arrays: an enquire-link request is answered
without reading a body. -/
def HeaderInRange (h : CmpHeader) : Prop := h.commandId = enquireLinkRequest ∨ LengthInRange h

theorem deliver_state {h : CmpHeader} (hrange : LengthInRange h) (body : Bytes) :
    (deliver t h body).1 = .header := by
  have hle := hrange.2
  unfold deliver
  split <;> rw [t.deliverMessage_state, if_neg (by simp only [dataLen]; omega)]

/-- The state a header leads to. -/
theorem onRecv_header_state (bs : Bytes) :
    ((runSMSHandler t).onRecv .header bs).1 =
      if bs.length = 16 then
        if (CmpHeader.ofBytes bs).commandId ≠ enquireLinkRequest ∧ 0 < nBodyLen (.ofBytes bs) then
          .body (.ofBytes bs)
        else .header
      else .closed := by
  by_cases hlen : bs.length = 16
  · by_cases hid : (CmpHeader.ofBytes bs).commandId = enquireLinkRequest
    · simp [runSMSHandler, onRecv, sizeofCmpHeader, hlen, hid]
    · by_cases hbody : 0 < nBodyLen (.ofBytes bs)
      · simp [runSMSHandler, onRecv, sizeofCmpHeader, hlen, hid, hbody]
      · simp [runSMSHandler, onRecv, sizeofCmpHeader, hlen, hid, hbody,
          deliver_state (lengthInRange_of_nBodyLen_nonpos hbody)]
  · by_cases hbs : bs = []
    · simp [runSMSHandler, onRecv, sizeofCmpHeader, hbs]
    · simp [runSMSHandler, onRecv, sizeofCmpHeader, hlen, hbs]

theorem onRecv_header_ne_fault (bs : Bytes) : ((runSMSHandler t).onRecv .header bs).1 ≠ .fault := by
  rw [onRecv_header_state]
  split
  · split <;> simp
  · simp

/-- The state a body in range leads to. -/
theorem onRecv_body_state {h : CmpHeader} (hrange : LengthInRange h) {bs : Bytes}
    (hbs : bs.length ≤ (nBodyLen h).toNat) :
    ((runSMSHandler t).onRecv (.body h) bs).1 = .closed ∨
      ((runSMSHandler t).onRecv (.body h) bs).1 = .header := by
  have hle := nBodyLen_le_maxDataLen hrange
  simp only [runSMSHandler, onRecv]
  rcases t.receiveBody_state [.socketSend t.nClientFD (ascii "Invalid Packet\r\n")] (deliver t) h
    (hbs.trans (by omega)) with hclosed | hdeliver
  · exact .inl hclosed
  · exact .inr (by rw [hdeliver, deliver_state hrange])

/-- One header of the ControlCenter's loop. -/
theorem inBounds_iff (h : CmpHeader) : InBounds (runSMSHandler t) h ↔ HeaderInRange h := by
  have hof : CmpHeader.ofBytes h.bytes = h := by simpa using h.ofBytes_bytes []
  have hstate := onRecv_header_state (t := t) h.bytes
  rw [if_pos h.length_bytes, hof] at hstate
  by_cases hbody : h.commandId ≠ enquireLinkRequest ∧ 0 < nBodyLen h
  · rw [if_pos hbody] at hstate
    rw [HeaderInRange, or_iff_right hbody.1]
    refine inBounds_iff_of_body rfl (fun hrange bs hbs => ?_) hstate
    rcases onRecv_body_state (t := t) hrange hbs with hs | hs <;> simp [hs]
  · rw [if_neg hbody] at hstate
    refine iff_of_true (.of_header rfl onRecv_header_ne_fault hstate) ?_
    by_cases hid : h.commandId = enquireLinkRequest
    · exact .inl hid
    · exact .inr (lengthInRange_of_nBodyLen_nonpos fun hpos => hbody ⟨hid, hpos⟩)

/-- A run of the ControlCenter's loop that meets only headers in range. -/
theorem run_ne_fault {u : Bytes} {ks : List ℕ} (hlegal : (runSMSHandler t).Legal .header u ks)
    (hok : ∀ u', (.header, u') ∈ (runSMSHandler t).visits .header u ks → 16 ≤ u'.length →
      HeaderInRange (CmpHeader.ofBytes (u'.take 16))) :
    ((runSMSHandler t).run .header u ks).state ≠ .fault := by
  refine (run_goodState HeaderInRange rfl (fun bs hbs => ?_) (fun h bs hrange hlen => ?_)
    .header hlegal hok).1
  · rw [onRecv_header_state]
    by_cases hlen : bs.length = 16
    · rw [if_pos hlen]
      split
      · next hbody => exact .body ((hbs hlen).resolve_left hbody.1)
      · exact .header
    · rw [if_neg hlen]
      exact .closed
  · rcases onRecv_body_state (t := t) hrange hlen with hs | hs <;> rw [hs]
    · exact .closed
    · exact .header

end ControlCenter

/-! ### Both loops -/

/-- **The announced length is not checked.** For every header a peer may send, the two loops stay
within `cmpdata` and `cData` if and only if the announced length is in range; the ControlCenter
also where it never looks at the length. -/
theorem runSMSHandler_in_bounds_iff (t : SmsThread) (h : CmpHeader) :
    (InBounds (Controller.runSMSHandler t) h ↔
      -2147483632 ≤ h.commandLength.toInt ∧ h.commandLength.toInt ≤ 2064) ∧
    (InBounds (ControlCenter.runSMSHandler t) h ↔ h.commandId = enquireLinkRequest ∨
      -2147483632 ≤ h.commandLength.toInt ∧ h.commandLength.toInt ≤ 2064) :=
  ⟨Controller.inBounds_iff h, ControlCenter.inBounds_iff h⟩

/-- One byte more than a packet can have: the body read may store 2049 bytes into `cmpdata`. -/
theorem runSMSHandler_overruns_cmpdata :
    ¬ InBounds (Controller.runSMSHandler (Controller.smsThread 6001 0 5))
      ⟨2065#32, bindRequest, statusRok, 1#32⟩ ∧
    ¬ InBounds (ControlCenter.runSMSHandler (ControlCenter.smsThread 6001 0 5))
      ⟨2065#32, bindRequest, statusRok, 1#32⟩ :=
  ⟨fun h => absurd (h.store_le 2049 (by rfl)) (by decide),
    fun h => absurd (h.store_le 2049 (by rfl)) (by decide)⟩

end ControllerSystem
