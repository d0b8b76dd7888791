import ControllerSystem.Relay

/-!
# The length of a log the ControllerClient hands on

`CCmpHandler::parseBody` finds a type of one byte and a text in an access log, and
`Controller::cmpAccessLogRequest` writes both into the body of a new packet, with a zero byte behind
them. The zero byte of the packet received is not asked for: a body that is text to its last byte is
one byte too short for what is written then.

* `stays_iff` — the call stays inside the packet when what it writes fits;
* `accessLog_stays_iff` — the logs for which it does.
-/

open Words Calls

namespace ControllerSystem.ControllerClient

/-- What `cmpAccessLogRequest` writes from the beginning of `cmpdata` on. -/
def writtenLog (strType strLog : Bytes) : Bytes := strType ++ strLog ++ [0]

/-- The `command_length` it announces. -/
def announcedLength (strType strLog : Bytes) : ℕ :=
  sizeofCmpHeader + (writtenLog strType strLog).length

/-- The log is accepted by `cmpAccessLog`. -/
def LogAccepted (pData : Bytes) : Prop :=
  Accepted ["type", "data"] (parseBody accessLogRequest pData)

/-- `cmpAccessLogRequest` stays inside the packet it sends. -/
structure Stays (strType strLog : Bytes) : Prop where
  written_le : (writtenLog strType strLog).length ≤ maxDataLen
  announced_le : announcedLength strType strLog ≤ sizeofCmpHeader + maxDataLen
  /-- No execution runs over the end of `cmpdata`. -/
  no_overrun : ∀ mConfig nSocketFD,
    (cmpAccessLogRequest mConfig nSocketFD strType strLog).Forall (· ≠ .overrun)

theorem stays_iff (strType strLog : Bytes) :
    Stays strType strLog ↔ strType.length + strLog.length < maxDataLen := by
  have hlen : (writtenLog strType strLog).length = strType.length + strLog.length + 1 := by
    rw [writtenLog, List.length_append, List.length_append, List.length_singleton]
  constructor
  · intro h
    have := h.written_le
    omega
  · intro h
    refine ⟨by omega, ?_, ?_⟩
    · rw [announcedLength]
      omega
    · intro mConfig nSocketFD
      have hfit : ¬ maxDataLen < (strType ++ strLog).length + 1 := by
        rw [List.length_append]
        omega
      show (Controller.centerRequest _ _ _ _).Forall _
      refine ⟨nofun, fun _ => ⟨nofun, fun _ => ?_⟩⟩
      show (if maxDataLen < (strType ++ strLog).length + 1 then _ else _ :
        ControllerProg ℤ).Forall _
      rw [if_neg hfit]
      exact ⟨nofun, fun _ => ⟨nofun, fun _ => trivial⟩⟩

/-! ### The logs received -/

/-- A packet whose log is accepted is handed on inside a packet. -/
def HandsOnInside (p : CmpPacket) : Prop :=
  LogAccepted p.image → Stays ((parseBody accessLogRequest p.image).2.get "type")
    ((parseBody accessLogRequest p.image).2.get "data")

/-- The memory the body is read from. -/
def bodyMemory (p : CmpPacket) : Bytes :=
  p.cmpBody ++ List.replicate (maxDataLen - p.cmpBody.length) 0

theorem parseBody_log (p : CmpPacket) (h : 0 < nBodyLen p.cmpHeader) :
    (parseBody accessLogRequest p.image).2 =
      (((BodyReader.mk [] (bodyMemory p)).takeByte "type").takeStr "data").rData := by
  rw [parseBody, CmpPacket.image, parseBodyWith_packetImage _ h]
  rfl

/-- What an accepted log has been parsed into. -/
theorem LogAccepted.fields {p : CmpPacket} (h : LogAccepted p.image) :
    (bodyMemory p).headD 0 ≠ 0 ∧
      (parseBody accessLogRequest p.image).2.get "type" = [(bodyMemory p).headD 0] ∧
      (parseBody accessLogRequest p.image).2.get "data" = cstr (bodyMemory p).tail := by
  have hm : (parseBody accessLogRequest p.image).2 =
      (((BodyReader.mk [] (bodyMemory p)).takeByte "type").takeStr "data").rData := by
    have hdrop : p.image.drop sizeofCmpHeader = bodyMemory p :=
      List.drop_left' p.cmpHeader.length_bytes
    rw [← hdrop]
    exact h.rData_eq
  have hkeys : ∀ n ∈ ["type", "data"],
      ∃ v, (parseBody accessLogRequest p.image).2.lookup n = some v := fun n hn => h.lookup hn
  obtain ⟨t, ht, -, htype, hdata⟩ := log_fields hm hkeys
  -- the type is the first byte
  have hfirst : t = (bodyMemory p).headD 0 := by
    rw [hm, BodyReader.lookup_takeStr, if_neg (by simp), BodyReader.lookup_takeByte] at htype
    split at htype
    · exact (List.cons.inj (Option.some.inj htype)).1.symm
    · cases htype
  rw [hfirst] at ht htype
  exact ⟨ht, get_of_lookup htype, get_of_lookup hdata⟩

/-- The text of a body that is not text to the last byte of a full packet. -/
theorem strlen_bodyMemory_lt {p : CmpPacket} (hhead : (bodyMemory p).headD 0 ≠ 0)
    (h : 0 ∈ p.cmpBody ∨ p.cmpBody.length < maxDataLen) :
    strlen (bodyMemory p).tail < maxDataLen - 1 := by
  have hmem : 0 ∈ bodyMemory p := by
    rcases h with h | h
    · exact List.mem_append_left _ h
    · exact List.mem_append_right _ (List.mem_replicate.mpr ⟨by omega, rfl⟩)
  have hlength : (bodyMemory p).length = maxDataLen := by
    have := p.cmpBody_le
    rw [bodyMemory, List.length_append, List.length_replicate]
    omega
  refine strlen_lt_of_mem ?_
  rw [List.take_of_length_le (by rw [List.length_tail, hlength])]
  cases hb : bodyMemory p with
  | nil => exact absurd hmem (hb ▸ List.not_mem_nil)
  | cons b m =>
    rw [hb] at hmem hhead
    exact (List.mem_cons.mp hmem).resolve_left (Ne.symm hhead)

/-- A full body of text is accepted, and all of it is handed on. -/
theorem logAccepted_of_full {p : CmpPacket} (hnul : 0 ∉ p.cmpBody)
    (hlength : p.cmpBody.length = maxDataLen) :
    LogAccepted p.image ∧ ∃ t : UInt8, ∃ d : Bytes, d.length = maxDataLen - 1 ∧
      (parseBody accessLogRequest p.image).2.get "type" = [t] ∧
      (parseBody accessLogRequest p.image).2.get "data" = d := by
  have hbody : 0 < nBodyLen p.cmpHeader := by
    rw [p.nBodyLen_eq, hlength]
    decide
  have hmemory : bodyMemory p = p.cmpBody := by
    rw [bodyMemory, hlength, Nat.sub_self, List.replicate_zero, List.append_nil]
  obtain ⟨t, d, htd⟩ : ∃ t d, p.cmpBody = t :: d := by
    refine List.exists_cons_of_ne_nil fun hnil => ?_
    rw [hnil] at hlength
    cases hlength
  rw [htd] at hmemory hnul hlength
  have ht : t ≠ 0 := fun h => hnul (h ▸ List.mem_cons_self)
  have hd : cstr d = d := cstr_eq_self fun h => hnul (List.mem_cons_of_mem _ h)
  have hdlength : d.length = maxDataLen - 1 := by
    rw [← hlength, List.length_cons, Nat.add_sub_cancel]
  have hvalid : isValidStr d maxSize = true := by
    rw [isValidStr, strlen, hd, hdlength]
    decide
  have hm := parseBody_log p hbody
  rw [hmemory] at hm
  have htype : (parseBody accessLogRequest p.image).2.lookup "type" = some [t] := by
    rw [hm, BodyReader.lookup_takeStr, if_neg (by simp), BodyReader.lookup_takeByte,
      if_pos ⟨rfl, ht⟩]
    rfl
  have hdata : (parseBody accessLogRequest p.image).2.lookup "data" = some d := by
    rw [hm, BodyReader.lookup_takeStr, BodyReader.pBody_takeByte]
    simp [hvalid, hd]
  refine ⟨⟨?_, ?_⟩, t, d, hdlength, get_of_lookup htype, get_of_lookup hdata⟩
  · -- a map with a field is not empty
    have hpair : (parseBody accessLogRequest p.image).1 =
        (parseBody accessLogRequest p.image).2.size := by
      rw [parseBody, CmpPacket.image, parseBodyWith_packetImage _ hbody]
    rw [hpair]
    cases hfields : (parseBody accessLogRequest p.image).2 with
    | nil => simp [hfields] at htype
    | cons field fields => exact Int.natCast_pos.mpr (Nat.succ_pos _)
  · intro n hn
    rcases List.mem_pair.mp hn with rfl | rfl
    · simp [CDataHandler.isValidKey, htype]
    · simp [CDataHandler.isValidKey, hdata]

/-- **When a log fits.** An accepted log is handed on inside a packet, unless the body received is
2048 bytes of text without a zero byte: with the zero byte that is added, this makes 2049. -/
theorem accessLog_stays_iff (p : CmpPacket) :
    HandsOnInside p ↔ 0 ∈ p.cmpBody ∨ p.cmpBody.length < maxDataLen := by
  constructor
  · intro h
    by_contra hfull
    obtain ⟨hnul, hlen⟩ := not_or.mp hfull
    have hlength : p.cmpBody.length = maxDataLen := le_antisymm p.cmpBody_le (not_lt.mp hlen)
    obtain ⟨haccept, t, d, hd, htype, hdata⟩ := logAccepted_of_full hnul hlength
    have hstays := h haccept
    rw [stays_iff, htype, hdata, List.length_singleton, hd] at hstays
    exact absurd hstays (by decide)
  · intro h haccept
    obtain ⟨hhead, htype, hdata⟩ := haccept.fields
    rw [stays_iff, htype, hdata, List.length_singleton]
    have hlt : (cstr (bodyMemory p).tail).length < maxDataLen - 1 := strlen_bodyMemory_lt hhead h
    omega

/-- The largest packet, filled with text. -/
def fullLog : CmpPacket where
  cmpHeader := ⟨2064, accessLogRequest, statusRok, 1⟩
  cmpBody := List.replicate 2048 49
  commandLength_eq := by rw [List.length_replicate]; rfl
  cmpBody_le := by rw [List.length_replicate]; rfl

/-- It is not handed on inside a packet. -/
theorem fullLog_not_inside : ¬ HandsOnInside fullLog := by
  intro h
  have hnul : 0 ∉ fullLog.cmpBody := fun hmem =>
    absurd (List.eq_of_mem_replicate hmem) (by decide)
  have hlength : fullLog.cmpBody.length = maxDataLen := List.length_replicate
  obtain ⟨haccept, t, d, hd, htype, hdata⟩ := logAccepted_of_full hnul hlength
  -- one byte, 2047 bytes and the zero byte
  have hwritten := (h haccept).written_le
  rw [htype, hdata, writtenLog, List.length_append, List.length_append, hd, List.length_singleton,
    List.length_singleton] at hwritten
  exact absurd hwritten (by decide)

end ControllerSystem.ControllerClient
