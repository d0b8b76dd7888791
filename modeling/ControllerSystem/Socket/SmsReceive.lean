import ControllerSystem.Socket.SmsHandler
import ControllerSystem.Lib.ArrivingStream

/-!
# The thread of the centre link

`CSocketClient::runSMSSocketReceive` reads what the center sends to the Controller, and to the
ControllerAw2401, which has the same text. It is the loop of the client threads once more, with
`ClientReceive` as the receiver, but for one argument: the body is received with
`socketrecv( nSocketFD, nBodyLen, &pBody, 0 )`. There are two overloads with a size, one with a
`struct sockaddr_in *` and one with an `int nTimeout`, and the literal 0 is an `int`. So the header
is received by a call that waits, and the body by one that does three rounds of `epoll_wait` with
a timeout of zero and then returns 0.

The pieces in which a packet arrives are its header and its body. `TakesPieces` says that the
thread takes them in order; the link survives when each body is there by the third round
(`runSMSSocketReceive_in_time`).
-/

open Words ChunkedReader ArrivingStream

namespace ControllerSystem

/-- The pieces a packet arrives in. -/
def CmpPacket.pieces (p : CmpPacket) : List Bytes :=
  p.cmpHeader.bytes :: if p.cmpBody = [] then [] else [p.cmpBody]

namespace SocketClient

/-- `CSocketClient::EVENT_INTERNAL`. -/
def eventCommandSocketReceive : ℤ := 1

/-- What the thread does to the world. -/
inductive ClientEffect
  | clientReceive (nSocketFD nDataLen : ℤ) (pData : Bytes)
  /-- What a client thread of the server does, too. -/
  | sms (e : SmsEffect)
  deriving DecidableEq

/-- How often `socketrecv` with a timeout looks for bytes: `epoll_wait` waits when the timeout is
negative, and otherwise the call has three rounds. -/
def socketrecvLooks (nTimeout : ℤ) : Option ℕ := if nTimeout < 0 then none else some 3

/-- How long the thread waits for a header and for a body. -/
def patience : SmsState → Option ℕ
  | .body _ => socketrecvLooks 0
  | _ => none

variable (t : SmsThread)

/-- Hand a packet on: to `ClientReceive` when there is a receiver. -/
def deliver (h : CmpHeader) (body : Bytes) : SmsState × List ClientEffect :=
  if t.externalEvent.isValid then
    (.header, [.clientReceive t.nClientFD (nTotalLen h) (packetImage h body)])
  else
    let r := t.deliverMessage t.nInternalFilter eventCommandSocketReceive h body
    (r.1, r.2.map .sms)

/-- The reaction to the bytes received, none when the call has given up. -/
def onRecv : SmsState → Bytes → SmsState × List ClientEffect
  | .header, bs =>
    if bs.length = sizeofCmpHeader then
      let h := CmpHeader.ofBytes bs
      if 0 < nBodyLen h then (.body h, []) else deliver t h []
    else (.closed, t.leave.map .sms)
  | .body h, bs =>
    if maxDataLen < bs.length then (.fault, [])
    else if (bs.length : ℤ) ≠ nBodyLen h then (.closed, t.leave.map .sms)
    else deliver t h bs
  | .closed, _ => (.closed, [])
  | .fault, _ => (.fault, [])

/-- `CSocketClient::runSMSSocketReceive`. -/
def runSMSSocketReceive : Reader SmsState UInt8 ClientEffect where
  request := smsRequest
  onRecv := onRecv t

variable {t}

/-- The thread takes a packet piece by piece, and hands it on. -/
theorem takesPieces_packet (hvalid : t.externalEvent.isValid) (p : CmpPacket) :
    TakesPieces (runSMSSocketReceive t) .header p.pieces
      [.clientReceive t.nClientFD (nTotalLen p.cmpHeader) p.image] .header := by
  have hof : CmpHeader.ofBytes p.cmpHeader.bytes = p.cmpHeader := by
    simpa using p.cmpHeader.ofBytes_bytes []
  have hdeliver (body : Bytes) : deliver t p.cmpHeader body =
      (.header, [.clientReceive t.nClientFD (nTotalLen p.cmpHeader)
        (packetImage p.cmpHeader body)]) := by rw [deliver, if_pos hvalid]
  have hheader : p.cmpHeader.bytes ≠ [] := List.ne_nil_of_length_pos (by simp)
  rw [CmpPacket.pieces]
  by_cases hb : p.cmpBody = []
  · -- the header is the whole packet
    have hrecv : (runSMSSocketReceive t).onRecv .header p.cmpHeader.bytes =
        (.header, [.clientReceive t.nClientFD (nTotalLen p.cmpHeader) p.image]) := by
      simp [runSMSSocketReceive, onRecv, hof, p.nBodyLen_eq, hb, hdeliver, CmpPacket.image,
        sizeofCmpHeader]
    rw [if_pos hb]
    exact .cons hheader rfl hrecv (.nil _)
  · have hpos := List.length_pos_of_ne_nil hb
    have hle := p.cmpBody_le
    have hrecv : (runSMSSocketReceive t).onRecv .header p.cmpHeader.bytes =
        (.body p.cmpHeader, []) := by
      simp [runSMSSocketReceive, onRecv, hof, p.nBodyLen_eq, hpos, sizeofCmpHeader]
    have hrequest : (runSMSSocketReceive t).request (.body p.cmpHeader) =
        some p.cmpBody.length := by
      simp [runSMSSocketReceive, smsRequest, p.nBodyLen_eq]
    have hbody : (runSMSSocketReceive t).onRecv (.body p.cmpHeader) p.cmpBody =
        (.header, [.clientReceive t.nClientFD (nTotalLen p.cmpHeader) p.image]) := by
      simp [runSMSSocketReceive, onRecv, p.nBodyLen_eq, hle, hdeliver, CmpPacket.image]
    rw [if_neg hb]
    exact .cons hheader rfl hrecv (.cons hb hrequest hbody (.nil _))

theorem takesPieces_stream (hvalid : t.externalEvent.isValid) (ps : List CmpPacket) :
    TakesPieces (runSMSSocketReceive t) .header (ps.flatMap CmpPacket.pieces)
      (ps.map fun p => .clientReceive t.nClientFD (nTotalLen p.cmpHeader) p.image) .header := by
  induction ps with
  | nil => exact .nil _
  | cons p ps ih => exact (takesPieces_packet hvalid p).append ih

/-! ### The link to the center -/

/-- The receiver `Controller::init` installs. -/
def externalEvent : EventExternal where
  nMsgId := 1215
  nEventFilter := 2001
  nEventRecvCommand := 1006
  nEventDisconnect := 1005

/-- The thread that `CSocketClient::start` creates. -/
def smsThread (nInternalFilter threadID nSocketFD : ℤ) : SmsThread where
  externalEvent := externalEvent
  nInternalFilter := nInternalFilter
  threadID := threadID
  nClientFD := nSocketFD

/-- The thread, and the packets the center sends it. -/
def centerLink (nInternalFilter threadID nSocketFD : ℤ) (ps : List CmpPacket) :
    LTS.System (Connection SmsState UInt8 ClientEffect) Label :=
  arrivals (runSMSSocketReceive (smsThread nInternalFilter threadID nSocketFD)) patience .header
    (ps.flatMap CmpPacket.pieces)

/-- **Timing of the center link.** However the headers and bodies of the center's packets arrive
and whatever the thread does in between, when each body is there by the third round of its receive
call the thread never gives the link up: it has handed the first packets to `ClientReceive`, whole
and in order and nothing else, it can go on as long as there is another one, and when everything
has been received it has handed on all of them. -/
theorem runSMSSocketReceive_in_time (nInternalFilter threadID nSocketFD : ℤ)
    (ps : List CmpPacket) (ls : List Label) (c : Connection SmsState UInt8 ClientEffect)
    (hrun : (centerLink nInternalFilter threadID nSocketFD ps).RunWhere (InTime patience)
      (centerLink nInternalFilter threadID nSocketFD ps).init ls c) :
    c.state ≠ .closed ∧ ∃ k ≤ ps.length,
      c.effects = (ps.take k).map
        (fun p => .clientReceive nSocketFD (nTotalLen p.cmpHeader) p.image) ∧
      (k < ps.length → ∃ l c', l ≠ .look ∧
        (centerLink nInternalFilter threadID nSocketFD ps).step c l = some c') ∧
      (c.coming = [] → c.unread = [] → k = ps.length) := by
  have htrack := onTrack_of_runWhere (takesPieces_stream rfl ps) hrun
  obtain ⟨arrived, rest, -, hes, htakes⟩ := id htrack
  replace hes : ps.map (fun p => .clientReceive nSocketFD (nTotalLen p.cmpHeader) p.image) =
    c.effects ++ rest := hes
  have hlength : ps.length = c.effects.length + rest.length := by
    have h := congrArg List.length hes
    rwa [List.length_map, List.length_append] at h
  refine ⟨fun hclosed => ?_, c.effects.length, by omega, ?_, fun hlt => ?_,
    fun hcoming hunread => ?_⟩
  · -- a thread that has left its loop takes no piece, and so does not get back to a header
    rw [hclosed] at htakes
    exact nomatch (htakes.eq_of_request_eq_none rfl).2
  · rw [List.map_take, hes, List.take_left]
  · refine htrack.exists_step fun heq => ?_
    rw [heq, List.length_map] at hlt
    exact absurd hlt (Nat.lt_irrefl _)
  · rw [htrack.effects_eq hcoming hunread, List.length_map]

/-- A power port request of the center, with a body of one byte. -/
def centerPacket : CmpPacket where
  cmpHeader := ⟨17#32, powerPortStateRequest, statusRok, 1#32⟩
  cmpBody := [49]
  commandLength_eq := rfl
  cmpBody_le := by decide

/-- The header, two rounds without the body, the body. -/
def inTimeRun : List Label := [.arrive, .receive, .look, .look, .arrive, .receive]

theorem runSMSSocketReceive_in_time_slow :
    SmsState.header ≠ .closed ∧ ∃ k ≤ [centerPacket].length,
      [.clientReceive 7 17 centerPacket.image] = ([centerPacket].take k).map
        (fun p => ClientEffect.clientReceive 7 (nTotalLen p.cmpHeader) p.image) ∧
      (k < [centerPacket].length → ∃ l c', l ≠ .look ∧
        (centerLink 6001 0 7 [centerPacket]).step
          ⟨.header, [], [], 0, [.clientReceive 7 17 centerPacket.image]⟩ l = some c') ∧
      (([] : List Bytes) = [] → ([] : Bytes) = [] → k = [centerPacket].length) :=
  runSMSSocketReceive_in_time 6001 0 7 [centerPacket] inTimeRun
    ⟨.header, [], [], 0, [.clientReceive 7 17 centerPacket.image]⟩
    (.cons nofun rfl <| .cons nofun rfl <| .cons (fun _ m hm => by cases hm; decide) rfl <|
      .cons (fun _ m hm => by cases hm; decide) rfl <| .cons nofun rfl <| .cons nofun rfl <|
      .nil _)

/-- The body is late by three rounds: the thread tells the receiver that the center is gone and
closes the socket, and hands nothing on. -/
theorem runSMSSocketReceive_drops_slow_body :
    (centerLink 6001 0 7 [centerPacket]).Run (centerLink 6001 0 7 [centerPacket]).init
      [.arrive, .receive, .look, .look, .look]
      ⟨.closed, [], [[49]], 0, (smsThread 6001 0 7).leave.map .sms⟩ ∧
    .socketClose 7 ∈ (smsThread 6001 0 7).leave :=
  ⟨LTS.System.run_eq_some_iff.mp rfl, by decide⟩

end SocketClient
end ControllerSystem
