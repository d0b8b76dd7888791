import ControllerSystem.Socket.SmsHandler
import ControllerSystem.ControlCenter.Handlers

/-!
# From the client thread to the message loop

The ControlCenter hands a packet from the thread that has read it to the handlers in a message:
`CMessageHandler::sendMessage` copies it into `MESSAGE_BUF.cData`, and `CObject::run` calls
`onReceiveMessage` with that array. How many bytes are copied is the length the peer announced, and
the rest of the array is zero.

`onCMP` reads the fields of the header from the array and looks at no length. What it reads is what
was on the wire exactly when the bytes that were not copied are zero (`onCMP_reads_wire_iff`).
-/

open Words

namespace ControllerSystem

/-- What a message carries: the front of the data, as far as the announced length goes. -/
theorem sendMessage_eq_some {nType nCommand nId nDataLen : ℤ} {data : Bytes} {m : MessageBuf}
    (h : sendMessage nType nCommand nId nDataLen (some data) = some m) :
    m.mtype = nType ∧ m.nCommand = nCommand ∧ m.nId = nId ∧
      m.cData = data.take nDataLen.toNat := by
  simp only [sendMessage] at h
  split at h
  · obtain ⟨-, heq⟩ := Option.ite_none_left_eq_some.mp h
    obtain rfl := Option.some.inj heq
    exact ⟨rfl, rfl, rfl, rfl⟩
  · -- a length of zero or less, so nothing is copied
    next hlen =>
    obtain rfl := Option.some.inj h
    have hzero : nDataLen.toNat = 0 := Int.toNat_of_nonpos (Int.not_lt.mp hlen)
    rw [hzero]
    exact ⟨rfl, rfl, rfl, rfl⟩

/-! ### Headers that were copied in part -/

/-- The fields behind `command_length`, read from the front of a packet. -/
theorem getFields_take_eq_iff (h : CmpHeader) (body : Bytes) (n : ℕ) :
    (getCommand ((packetImage h body).take n) = h.commandId ∧
      getStatus ((packetImage h body).take n) = h.commandStatus ∧
      getSequence ((packetImage h body).take n) = h.sequenceNumber) ↔
    ∀ i, 4 ≤ i → i < 16 → n ≤ i → h.bytes.getD i 0 = 0 := by
  have hfields : CmpHeader.ofBytes (packetImage h body) = h := h.ofBytes_bytes _
  have hbyte (i : ℕ) (hi : i < 16) : (packetImage h body).getD i 0 = h.bytes.getD i 0 := by
    have hlen : i < h.bytes.length := hi
    rw [packetImage, List.getD_eq_getElem?_getD, List.getElem?_append_left hlen,
      List.getD_eq_getElem?_getD]
  -- each field is the word at its offset
  have hid : getCommand ((packetImage h body).take n) = h.commandId ↔
      ∀ i, 4 ≤ i → i < 8 → n ≤ i → (packetImage h body).getD i 0 = 0 := by
    rw [← @wordAt_take_eq_iff _ n 4]
    exact Eq.congr rfl (congrArg CmpHeader.commandId hfields).symm
  have hstatus : getStatus ((packetImage h body).take n) = h.commandStatus ↔
      ∀ i, 8 ≤ i → i < 12 → n ≤ i → (packetImage h body).getD i 0 = 0 := by
    rw [← @wordAt_take_eq_iff _ n 8]
    exact Eq.congr rfl (congrArg CmpHeader.commandStatus hfields).symm
  have hseq : getSequence ((packetImage h body).take n) = h.sequenceNumber ↔
      ∀ i, 12 ≤ i → i < 16 → n ≤ i → (packetImage h body).getD i 0 = 0 := by
    rw [← @wordAt_take_eq_iff _ n 12]
    exact Eq.congr rfl (congrArg CmpHeader.sequenceNumber hfields).symm
  rw [hid, hstatus, hseq]
  constructor
  · rintro ⟨h₁, h₂, h₃⟩ i hlo hhi hn
    rw [← hbyte i hhi]
    -- the twelve bytes are those of the three fields
    rcases Nat.lt_or_ge i 8 with hi | hi
    · exact h₁ i hlo hi hn
    rcases Nat.lt_or_ge i 12 with hi' | hi'
    · exact h₂ i hi hi' hn
    · exact h₃ i hi' hhi hn
  · intro hzero
    refine ⟨fun i hlo hhi hn => ?_, fun i hlo hhi hn => ?_, fun i hlo hhi hn => ?_⟩
    all_goals
      rw [hbyte i (by omega)]
      exact hzero i (by omega) (by omega) hn

namespace ControlCenter

/-! ### The message loop -/

/-- `EVENT_FILTER_CONTROL_CENTER`. -/
def eventFilterControlCenter : ℤ := 2001

/-- `EVENT_COMMAND_SOCKET_CONTROL_CENTER_RECEIVE`. -/
def eventCommandSocketControlCenterReceive : ℤ := 1001

/-- `EVENT_COMMAND_SOCKET_CLIENT_DISCONNECT`. -/
def eventCommandSocketClientDisconnect : ℤ := 1004

/-- `CControlCenter::onReceiveMessage`. -/
def onReceiveMessage (nCommand nId : ℤ) (pData : Bytes) : CenterProg Unit :=
  if nCommand = eventCommandSocketControlCenterReceive then onCMP nId pData
  -- only a debug line
  else if nCommand = eventCommandSocketClientDisconnect then pure ()
  else printLog (ascii "unknow message command") "[Center]"

/-- One pass through the loop of `CObject::run`, for the message `msgrcv` has returned. A message
with another type than the event of the loop stays in the queue. -/
def run (nRecvEvent : ℤ) (msgbuf : MessageBuf) : Option (CenterProg Unit) :=
  if msgbuf.mtype = nRecvEvent then
    -- the array is passed on whole, and was zeroed before the message was received
    some (onReceiveMessage msgbuf.nCommand msgbuf.nId msgbuf.cData)
  else none

/-! ### The hop -/

/-- The thread receives the header `h` and, where it asks for one, a body, and queues `m`. -/
inductive Queues (t : SmsThread) (h : CmpHeader) : Bytes → MessageBuf → Prop
  | header {m : MessageBuf} (hrecv : onRecv t .header h.bytes = (.header, [.sendMessage m])) :
      Queues t h [] m
  | body {bs : Bytes} {m : MessageBuf} (hheader : onRecv t .header h.bytes = (.body h, []))
      (hrecv : onRecv t (.body h) bs = (.header, [.sendMessage m])) : Queues t h bs m

section Hop

variable {t : SmsThread} {h : CmpHeader} {bs : Bytes} {m : MessageBuf}

/-- A packet that is handed on is handed on in one message. -/
theorem deliver_eq (hvalid : t.externalEvent.isValid)
    (hdeliver : deliver t h bs = (.header, [.sendMessage m])) :
    sendMessage t.externalEvent.nEventFilter t.externalEvent.nEventRecvCommand t.nClientFD
      (nTotalLen h) (some (packetImage h bs)) = some m := by
  rw [deliver, if_pos hvalid, SmsThread.deliverMessage] at hdeliver
  split at hdeliver
  · next message hsend =>
    simp only [Prod.mk.injEq, true_and, List.cons.injEq, and_true, SmsEffect.sendMessage.injEq]
      at hdeliver
    rw [hsend, hdeliver]
  · simp at hdeliver

/-- The message for a packet. -/
theorem Queues.sendMessage_eq (hvalid : t.externalEvent.isValid) (hq : Queues t h bs m) :
    sendMessage t.externalEvent.nEventFilter t.externalEvent.nEventRecvCommand t.nClientFD
      (nTotalLen h) (some (packetImage h bs)) = some m := by
  have hof : CmpHeader.ofBytes h.bytes = h := by simpa using h.ofBytes_bytes []
  cases hq with
  | header hrecv =>
    -- neither an enquire-link request, which is answered, nor a header that announces a body
    by_cases hid : h.commandId = enquireLinkRequest
    · simp [onRecv, sizeofCmpHeader, hof, hid] at hrecv
    · by_cases hpos : 0 < nBodyLen h
      · simp [onRecv, sizeofCmpHeader, hof, hid, hpos] at hrecv
      · refine deliver_eq hvalid ?_
        simpa [onRecv, sizeofCmpHeader, hof, hid, hpos] using hrecv
  | body hheader hrecv =>
    simp only [onRecv, SmsThread.receiveBody] at hrecv
    -- neither too long for the array nor shorter than announced
    split at hrecv
    · simp at hrecv
    · split at hrecv
      · simp at hrecv
      · exact deliver_eq hvalid hrecv

end Hop

/-- **A lying length.** For every header and body from which the ControlCenter's client thread
queues a message, the message loop runs `onCMP` on that message, and the command, the status and the
sequence number it reads are those on the wire if and only if no byte of these fields at or behind
the announced length is other than zero. -/
theorem onCMP_reads_wire_iff (nInternalFilter threadID nClientFD : ℤ) (h : CmpHeader)
    (bs : Bytes) (m : MessageBuf)
    (hqueues : Queues (smsThread nInternalFilter threadID nClientFD) h bs m) :
    run eventFilterControlCenter m = some (onCMP nClientFD m.cData) ∧
    ((getCommand m.cData = h.commandId ∧ getStatus m.cData = h.commandStatus ∧
        getSequence m.cData = h.sequenceNumber) ↔
      ∀ i : ℕ, 4 ≤ i → i < 16 → h.commandLength.toInt ≤ i → h.bytes.getD i 0 = 0) := by
  have hsend := hqueues.sendMessage_eq rfl
  obtain ⟨htype, hcommand, hid, hdata⟩ := sendMessage_eq_some hsend
  constructor
  · have hrecv : onReceiveMessage m.nCommand m.nId m.cData = onCMP nClientFD m.cData := by
      rw [hcommand, hid]
      rfl
    have hevent : m.mtype = eventFilterControlCenter := htype
    rw [run, if_pos hevent, hrecv]
  · rw [hdata, getFields_take_eq_iff]
    -- a negative length copies as much as a length of zero
    have hle (i : ℕ) : (nTotalLen h).toNat ≤ i ↔ h.commandLength.toInt ≤ i := by
      rw [nTotalLen, Int.toNat_le]
    simp only [hle]

theorem onCMP_reads_wire_iff_whole :
    run eventFilterControlCenter ⟨2001, 1001, 5, some 16,
        CmpHeader.bytes ⟨16#32, bindRequest, statusRok, 7#32⟩⟩ =
      some (onCMP 5 (CmpHeader.bytes ⟨16#32, bindRequest, statusRok, 7#32⟩)) ∧
    ((getCommand (CmpHeader.bytes ⟨16#32, bindRequest, statusRok, 7#32⟩) = bindRequest ∧
        getStatus (CmpHeader.bytes ⟨16#32, bindRequest, statusRok, 7#32⟩) = statusRok ∧
        getSequence (CmpHeader.bytes ⟨16#32, bindRequest, statusRok, 7#32⟩) = 7#32) ↔
      ∀ i : ℕ, 4 ≤ i → i < 16 → (16#32).toInt ≤ i →
        (CmpHeader.bytes ⟨16#32, bindRequest, statusRok, 7#32⟩).getD i 0 = 0) :=
  onCMP_reads_wire_iff 6001 0 5 ⟨16#32, bindRequest, statusRok, 7#32⟩ []
    ⟨2001, 1001, 5, some 16, CmpHeader.bytes ⟨16#32, bindRequest, statusRok, 7#32⟩⟩ (.header rfl)

/-- A bind request with the number 7 that announces a length of zero: nothing of it is copied, and
`onCMP` reads the command 0 and the number 0. -/
theorem onCMP_misreads_bind_request :
    Queues (smsThread 6001 0 5) ⟨0#32, bindRequest, statusRok, 7#32⟩ []
      ⟨2001, 1001, 5, none, []⟩ ∧
    run eventFilterControlCenter ⟨2001, 1001, 5, none, []⟩ = some (onCMP 5 []) ∧
    getCommand [] ≠ bindRequest ∧ getSequence [] ≠ 7#32 :=
  ⟨.header rfl, rfl, by decide, by decide⟩

end ControlCenter
end ControllerSystem
