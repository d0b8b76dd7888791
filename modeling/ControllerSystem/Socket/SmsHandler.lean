import ControllerSystem.Packet
import ControllerSystem.Lib.ChunkedReader

/-!
# The client thread of the socket server

`CSocketServer::runSMSHandler` serves one accepted TCP connection: it receives a header, then as
many body bytes as the header announces, and hands the packet on. It is a `Reader` here: the
receive call is the only place where it waits, and one reaction to the bytes received is one
stretch of code between two receive calls.

The Controller and the ControlCenter have their own versions of the loop. The one of the
Controller (and of the ControllerAw2401, which is the same text) calls `ServerReceive`; the one
of the ControlCenter answers an enquire-link request at once, sends the peer a line of text when
it gives up, and queues the packet with `CMessageHandler::sendMessage`.

* `SmsState.fault` — a write behind the end of `CMP_BODY.cmpdata` or `MESSAGE_BUF.cData`;
* `Controller.onRecv_header`, `ControlCenter.onRecv_header` and the lemmas beside them — what one
  reaction does, for a header or a body that was received whole and for one that was not.
-/

open Words ChunkedReader

namespace ControllerSystem

/-! ### Messages -/

/-- `DATA_LEN`, the size of `MESSAGE_BUF.cData`. -/
def dataLen : ℕ := 4096

/-- `MESSAGE_BUF`. The member `nDataLen` is `none` when the code leaves it uninitialised. Of the
array `cData` only the bytes copied into it are kept; it is zero behind them. -/
structure MessageBuf where
  mtype : ℤ
  nCommand : ℤ
  nId : ℤ
  nDataLen : Option ℤ
  cData : Bytes
  deriving DecidableEq

/-- `CMessageHandler::sendMessage`, up to the system call that queues the message. The result is
`none` when the copy runs over the end of `cData`; the code has no check against that. -/
def sendMessage (nType nCommand nId nDataLen : ℤ) (pData : Option Bytes) : Option MessageBuf :=
  match pData with
  | some data =>
    if 0 < nDataLen then
      -- `memcpy( buf.cData, pData, nDataLen )`
      if dataLen < nDataLen.toNat then none
      else some ⟨nType, nCommand, nId, some nDataLen, data.take nDataLen.toNat⟩
    -- a length of zero or less is not stored in the message
    else some ⟨nType, nCommand, nId, none, []⟩
  | none => some ⟨nType, nCommand, nId, none, []⟩

/-- `EVENT_EXTERNAL`, as far as the client thread reads it. -/
structure EventExternal where
  nMsgId : ℤ
  nEventFilter : ℤ
  nEventRecvCommand : ℤ
  nEventDisconnect : ℤ

/-- `EVENT_EXTERNAL::isValid`. -/
def EventExternal.isValid (e : EventExternal) : Bool :=
  e.nMsgId != -1 && e.nEventFilter != -1 && e.nEventRecvCommand != -1

/-- `CSocketServer::EVENT_INTERNAL`. -/
def eventCommandThreadExit : ℤ := 0
def eventCommandSocketServerReceive : ℤ := 2

/-! ### The client thread -/

/-- What `runSMSHandler` reads of its server object, and its argument `nClientFD`. The connection
is an accepted one, so `nClientFD` is not the listening socket. -/
structure SmsThread where
  externalEvent : EventExternal
  nInternalFilter : ℤ
  threadID : ℤ
  nClientFD : ℤ

/-- What the client thread does to the world. -/
inductive SmsEffect
  | socketSend (nSockFD : ℤ) (pBuf : Bytes)
  | sendMessage (message : MessageBuf)
  | serverReceive (nSocketFD nDataLen : ℤ) (pData : Bytes)
  | socketClose (nSockFD : ℤ)
  deriving DecidableEq

/-- Where the client thread stands: waiting for a header, or for the body the header `h`
announced; or it has left its loop, or has written behind the end of an array. -/
inductive SmsState
  | header
  | body (h : CmpHeader)
  | closed
  | fault
  deriving DecidableEq

/-- `nTotalLen`. -/
def nTotalLen (h : CmpHeader) : ℤ := h.commandLength.toInt

/-- `nBodyLen`: the difference of an `int` and a `size_t`, taken modulo `2 ^ 64` and cut to an
`int`. -/
def nBodyLen (h : CmpHeader) : ℤ :=
  ((h.commandLength.signExtend 64 - 16#64).setWidth 32).toInt

/-- The number of bytes the next `socketrecv` asks for. -/
def smsRequest : SmsState → Option ℕ
  | .header => some sizeofCmpHeader
  | .body h => some (nBodyLen h).toNat
  | .closed => none
  | .fault => none

namespace SmsThread

variable (t : SmsThread)

/-- The end of the thread: the disconnect notice, the close, and the notice to the server's own
message loop. -/
def leave : List SmsEffect :=
  (if t.externalEvent.isValid && t.externalEvent.nEventDisconnect != -1 then
    (sendMessage t.externalEvent.nEventFilter t.externalEvent.nEventDisconnect t.nClientFD 0
      none).toList.map .sendMessage
  else []) ++
  .socketClose t.nClientFD ::
  (sendMessage t.nInternalFilter eventCommandThreadExit t.threadID 0 none).toList.map .sendMessage

/-- Hand the packet on in a message. -/
def deliverMessage (nType nCommand : ℤ) (h : CmpHeader) (body : Bytes) :
    SmsState × List SmsEffect :=
  -- the length is the announced one, not that of what was received
  match sendMessage nType nCommand t.nClientFD (nTotalLen h) (some (packetImage h body)) with
  | some message => (.header, [.sendMessage message])
  | none => (.fault, [])

/-- The bytes of a body: too many for `cmpdata`, fewer than asked for, or the whole body. -/
def receiveBody (farewell : List SmsEffect)
    (deliver : CmpHeader → Bytes → SmsState × List SmsEffect) (h : CmpHeader) (bs : Bytes) :
    SmsState × List SmsEffect :=
  -- `socketrecv` stores at `pBody` as many bytes as it was asked for
  if maxDataLen < bs.length then (.fault, [])
  else if (bs.length : ℤ) ≠ nBodyLen h then (.closed, farewell ++ t.leave)
  else deliver h bs

end SmsThread

/-! ### The loop of the Controller -/

namespace Controller

/-- The receiver `Controller::startServer` installs. -/
def externalEvent : EventExternal where
  nMsgId := 1215
  nEventFilter := 2001
  nEventRecvCommand := 1001
  nEventDisconnect := 1004

/-- A client thread of the server that `Controller::startServer` sets up. -/
def smsThread (nInternalFilter threadID nClientFD : ℤ) : SmsThread where
  externalEvent := externalEvent
  nInternalFilter := nInternalFilter
  threadID := threadID
  nClientFD := nClientFD

variable (t : SmsThread)

/-- Hand a packet on: to `ServerReceive` when there is a receiver. -/
def deliver (h : CmpHeader) (body : Bytes) : SmsState × List SmsEffect :=
  if t.externalEvent.isValid then
    (.header, [.serverReceive t.nClientFD (nTotalLen h) (packetImage h body)])
  else t.deliverMessage t.nInternalFilter eventCommandSocketServerReceive h body

/-- The reaction to the bytes received. The test `0 >= result` behind the two receive calls is
never true there: `result` is then the size of a header or of a nonempty body. -/
def onRecv : SmsState → Bytes → SmsState × List SmsEffect
  | .header, bs =>
    if bs.length = sizeofCmpHeader then
      let h := CmpHeader.ofBytes bs
      -- without a body the packet is handed on at once
      if 0 < nBodyLen h then (.body h, []) else deliver t h []
    else (.closed, t.leave)
  | .body h, bs => t.receiveBody [] (deliver t) h bs
  | .closed, _ => (.closed, [])
  | .fault, _ => (.fault, [])

/-- `CSocketServer::runSMSHandler` of the Controller. -/
def runSMSHandler : Reader SmsState UInt8 SmsEffect where
  request := smsRequest
  onRecv := onRecv t

end Controller

/-! ### The loop of the ControlCenter -/

namespace ControlCenter

/-- The receiver `CControlCenter::startServer` installs. -/
def externalEvent : EventExternal where
  nMsgId := 150737
  nEventFilter := 2001
  nEventRecvCommand := 1001
  nEventDisconnect := 1004

/-- The answer to an enquire-link request. -/
def enquireLinkReply (h : CmpHeader) : CmpHeader where
  commandLength := .ofNat 32 sizeofCmpHeader
  commandId := genericNack ||| h.commandId
  commandStatus := statusRok
  sequenceNumber := h.sequenceNumber

/-- A client thread of the server that `CControlCenter::startServer` sets up. -/
def smsThread (nInternalFilter threadID nClientFD : ℤ) : SmsThread where
  externalEvent := externalEvent
  nInternalFilter := nInternalFilter
  threadID := threadID
  nClientFD := nClientFD

variable (t : SmsThread)

/-- Hand a packet on: in a message to the receiver, if there is one. -/
def deliver (h : CmpHeader) (body : Bytes) : SmsState × List SmsEffect :=
  if t.externalEvent.isValid then
    t.deliverMessage t.externalEvent.nEventFilter t.externalEvent.nEventRecvCommand h body
  else t.deliverMessage t.nInternalFilter eventCommandSocketServerReceive h body

/-- The reaction to the bytes received. After its answer to an enquire-link request the loop
goes back to receiving a header, without a look at `command_length`. -/
def onRecv : SmsState → Bytes → SmsState × List SmsEffect
  | .header, bs =>
    if bs.length = sizeofCmpHeader then
      let h := CmpHeader.ofBytes bs
      if h.commandId = enquireLinkRequest then
        -- `continue`: an announced body stays in the stream
        (.header, [.socketSend t.nClientFD (enquireLinkReply h).bytes])
      else if 0 < nBodyLen h then (.body h, []) else deliver t h []
    -- the peer has closed the connection, or has sent less than a header
    else if bs = [] then (.closed, t.leave)
    else (.closed, .socketSend t.nClientFD
      (ascii "Control Center: Please use CMP to communicate\r\n") :: t.leave)
  | .body h, bs =>
    t.receiveBody [.socketSend t.nClientFD (ascii "Invalid Packet\r\n")] (deliver t) h bs
  | .closed, _ => (.closed, [])
  | .fault, _ => (.fault, [])

/-- `CSocketServer::runSMSHandler` of the ControlCenter. -/
def runSMSHandler : Reader SmsState UInt8 SmsEffect where
  request := smsRequest
  onRecv := onRecv t

end ControlCenter

/-! ### Lengths -/

/-- `nBodyLen` is the announced length less the header, except at the low end of the range,
where it wraps around to the high end. -/
theorem nBodyLen_eq (h : CmpHeader) :
    nBodyLen h = if nTotalLen h < -2147483632 then nTotalLen h + 4294967280 else
      nTotalLen h - 16 := by
  have hlt := h.commandLength.isLt
  -- cutting to 32 bits commutes with the subtraction, and undoes the sign extension
  have hcut : (h.commandLength.signExtend 64 - 16#64).setWidth 32 = h.commandLength - 16#32 := by
    apply BitVec.eq_of_toNat_eq
    simp only [BitVec.toNat_setWidth, BitVec.toNat_sub, BitVec.toNat_signExtend,
      BitVec.toNat_ofNat]
    split <;> omega
  rw [nBodyLen, nTotalLen, hcut, toInt_sub_ofNat _ 16 (by decide)]
  split <;> split <;> omega

/-- The length of a well-formed packet, as an `int`. -/
theorem CmpPacket.nTotalLen_eq (p : CmpPacket) :
    nTotalLen p.cmpHeader = 16 + p.cmpBody.length := by
  have h := p.commandLength_eq
  have hle := p.cmpBody_le
  simp only [sizeofCmpHeader, maxDataLen] at h hle
  rw [nTotalLen, BitVec.toInt_eq_toNat_cond]
  split <;> omega

/-- The body read of a well-formed packet asks for the body. -/
theorem CmpPacket.nBodyLen_eq (p : CmpPacket) : nBodyLen p.cmpHeader = p.cmpBody.length := by
  rw [ControllerSystem.nBodyLen_eq, p.nTotalLen_eq]
  split <;> omega

end ControllerSystem
