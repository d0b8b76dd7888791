import ControllerSystem.ControllerAw2401.Handlers
import ControllerSystem.Body
import ControllerSystem.ControlCenter.LogLine

/-!
# One response to each request of the Aw2401 controller

The response packets of the Aw2401 controller, with the sockets they go out on, over every execution
of its handlers: whatever the devices, the database and the sockets return. Requests come from
clients and from the center, and both are handled by the same table.

`onCMP_answers_origin_iff` says exactly when a request gets its one response, on the socket it came
from. A program that writes behind the end of an array is followed no further (`InBounds`), so
there is none for a request that `printPacket` cannot log. Three handlers miss it:
`cmpEnquireLink` answers on the socket to the center, whoever asked; `cmpPowerPortSet` does not
answer a body without its fields, and takes digits from behind the end of a short status;
`cmpPowerPortState` overruns `cmpdata` on a long one.
-/

open Words Calls

namespace ControllerSystem.ControllerAw2401

open Controller (Config onCMPWith sendCommandtoClient sent)
open ControlCenter (Tm someTm strftime padRight PacketLogFits packetLogFits_iff)

/-! ### Responses -/

/-- The response packet an event sends: its socket, its command and its sequence number. -/
def responseOf (e : ControllerEvent) : Option (ℤ × Word × Word) :=
  (sent e).bind fun p =>
    if isAckPacket (getCommand p.2) then some (p.1, getCommand p.2, getSequence p.2) else none

/-- The response packets sent, on whatever socket. -/
def responses (tr : List ControllerEvent) : List (ℤ × Word × Word) := tr.filterMap responseOf

/-- Every execution sends exactly this response. -/
def Answers {α : Type} (nSocket : ℤ) (nCommand nSequence : Word) (p : ControllerProg α) : Prop :=
  p.Emits responseOf (· = [(nSocket, nCommand, nSequence)])

/-- No execution sends a response. -/
def Silent {α : Type} (p : ControllerProg α) : Prop := p.Emits responseOf (· = [])

variable {α β : Type} {nSocket : ℤ} {nCommand nSequence : Word}

theorem Silent.ret (a : α) : Silent (.ret a : ControllerProg α) := Prog.Emits.ret rfl

/-- A call that sends nothing. -/
theorem Silent.call {c : ControllerCall} {k : c.Res → ControllerProg α}
    (hc : ∀ r, sent ⟨c, r⟩ = none) (hk : ∀ r, Silent (k r)) : Silent (.call c k) :=
  Prog.Emits.call_none (fun r => by rw [responseOf, hc r]; rfl) hk

theorem Silent.bind {p : ControllerProg α} {f : α → ControllerProg β} (hp : Silent p)
    (hf : ∀ a, Silent (f a)) : Silent (p >>= f) := Prog.Emits.nil_bind hp hf

theorem Answers.bind_silent {p : ControllerProg α} {f : α → ControllerProg β}
    (hp : Answers nSocket nCommand nSequence p) (hf : ∀ a, Silent (f a)) :
    Answers nSocket nCommand nSequence (p >>= f) := Prog.Emits.bind_nil hp hf

theorem Silent.bind_answers {p : ControllerProg α} {f : α → ControllerProg β} (hp : Silent p)
    (hf : ∀ a, Answers nSocket nCommand nSequence (f a)) :
    Answers nSocket nCommand nSequence (p >>= f) := Prog.Emits.nil_bind hp hf

/-- A response, sent by the server's object. -/
theorem Answers.send {header : CmpHeader} {body : Bytes} {k : ℤ → ControllerProg α}
    (hresp : isAckPacket header.commandId) (hk : ∀ r, Silent (k r)) :
    Answers nSocket header.commandId header.sequenceNumber
      (.call (.clientSend nSocket (header.bytes ++ body)) k) := by
  have hsent : ∀ r, responseOf ⟨.clientSend nSocket (header.bytes ++ body), r⟩ =
      some (nSocket, header.commandId, header.sequenceNumber) := fun r => by
    simp [responseOf, sent, hresp]
  refine Prog.Emits.call_some hsent fun r => (hk r).mono fun l hl => ?_
  rw [hl]

/-- A response without a body. -/
theorem sendCommandtoClient_answers (nStatus : Word) :
    Answers nSocket (genericNack ||| nCommand) nSequence
      (sendCommandtoClient nSocket nCommand nStatus nSequence true) := by
  have h := @Answers.send ℤ nSocket (formatHeader (genericNack ||| nCommand) nStatus nSequence) []
    (fun nRet => Controller.printPacket (genericNack ||| nCommand) nStatus nSequence nRet
      "[Controller Send to Client]" nSocket >>= fun _ => pure nRet)
    (isAckPacket_or nCommand) fun _ => .call (fun _ => rfl) fun _ => .ret _
  rw [List.append_nil] at h
  exact h

/-- A response with a body that fits. -/
theorem cmpResponse_answers {nCommandId : Word} {szData : Bytes}
    (hresp : isAckPacket nCommandId) (hfit : strlen szData < maxDataLen) :
    Answers nSocket nCommandId nSequence (cmpResponse nSocket nCommandId nSequence szData) := by
  unfold cmpResponse
  rw [if_neg (by omega)]
  refine @Answers.send _ _ { formatHeader nCommandId statusRok nSequence with
    commandLength := .ofNat 32 (sizeofCmpHeader + (strlen szData + 1)) } _ _ hresp fun nRet => ?_
  refine .call (fun _ => rfl) fun _ => ?_
  simp only [Prog.bind_eq, Prog.ret_bind]
  split <;> exact .call (fun _ => rfl) fun _ => .ret _

/-- A response that overruns `cmpdata` is not sent. -/
theorem cmpResponse_silent {nCommandId : Word} {szData : Bytes}
    (hlong : maxDataLen ≤ strlen szData) :
    Silent (cmpResponse nSocket nCommandId nSequence szData) := by
  unfold cmpResponse
  rw [if_pos (by omega)]
  exact .call (fun _ => rfl) fun _ => .ret _

/-- A request to the center is no response. -/
theorem centerRequest_silent (hreq : isAckPacket nCommand = false) (body strMsg : Bytes) :
    Silent (Controller.centerRequest nSocket nCommand body strMsg) := by
  refine .call (fun _ => rfl) fun _ => .call (fun _ => rfl) fun _ => ?_
  simp only [Prog.bind_eq, Prog.ret_bind, Prog.pure_eq_ret]
  split
  · exact .call (fun _ => rfl) fun _ => .ret _
  · refine Prog.Emits.call_none (fun r => ?_) fun _ => Silent.call (fun _ => rfl) fun _ => .ret _
    simp [responseOf, sent, formatHeader, hreq]

/-! ### Responses that are sent in time -/

/-- The line `printLog` makes. -/
def logLine (t : Tm) (szMsg : Bytes) (szDesc : String) : Bytes :=
  strftime t ++ ascii "-" ++ ascii szDesc ++ ascii " CMP : " ++ padRight 20 (cstr szMsg)

/-- The call stays within the arrays it writes to. Those of `printPacket` have the sizes they have
in the `packet.h` of the ControlCenter, and the texts are the same, but for those of the SDK
tracker, which fit. The numbers of a line are `int`s. -/
def InBounds (t : Tm) : ControllerCall → Prop
  | .printPacket nCommand nStatus nSequence nLength strDesc nClientFD =>
    PacketLogFits t nCommand nStatus nSequence (BitVec.ofInt 32 nLength).toInt strDesc
      (BitVec.ofInt 32 nClientFD).toInt
  | .printLog strMsg strDesc => (logLine t strMsg strDesc).length + 1 ≤ maxDataLen
  | .overrun => False
  | _ => True

instance (t : Tm) : DecidablePred (InBounds t)
  | .printPacket .. => inferInstanceAs (Decidable (PacketLogFits ..))
  | .printLog .. => inferInstanceAs (Decidable (_ ≤ _))
  | .overrun => .isFalse id
  | .deviceExec _ | .deviceQuery _ | .clientSend .. | .centerSend .. | .isValidSocketFD
  | .getSocketfd | .centerStart .. | .close _ | .loadSequence | .storeSequence _
  | .loadEnquireLink | .storeEnquireLink _ | .notEnd _ | .deref _ | .getPortStatus _
  | .setPortState .. | .outOfRange => .isTrue trivial

/-- No response is sent behind a call that is out of bounds. -/
abbrev Timely {α : Type} (t : Tm) (p : ControllerProg α) : Prop := p.Timely (InBounds t) responseOf

section Timely

variable {t : Tm}

/-- A program that sends nothing behind its first call. -/
theorem Timely.last {c : ControllerCall} {k : c.Res → ControllerProg α} (hc : InBounds t c)
    (hk : ∀ r, Silent (k r)) : Timely t (.call c k) :=
  Prog.Timely.call hc fun r => (hk r).timely

theorem sendCommandtoClient_timely (nStatus : Word) :
    Timely t (sendCommandtoClient nSocket nCommand nStatus nSequence true) :=
  .last trivial fun _ => .call (fun _ => rfl) fun _ => .ret _

/-- A handler that ends with a response. -/
theorem sendCommandtoClient_bind_timely {nStatus : Word} (b : α) :
    Timely t (sendCommandtoClient nSocket nCommand nStatus nSequence true >>= fun _ => pure b) :=
  (sendCommandtoClient_timely nStatus).bind_nil fun _ => Silent.ret _

theorem cmpResponse_timely (nCommandId : Word) (szData : Bytes) :
    Timely t (cmpResponse nSocket nCommandId nSequence szData) := by
  unfold cmpResponse
  split
  · -- behind the overrun there is no response
    exact Prog.Emits.timely (Silent.call (fun _ => rfl) fun _ => .ret _)
  · refine .last trivial fun nRet => Silent.call (fun _ => rfl) fun _ => ?_
    simp only [Prog.bind_eq, Prog.ret_bind]
    split <;> exact .call (fun _ => rfl) fun _ => .ret _

theorem controllerRequest_timely (mConfig : Config) (pData : Bytes) :
    Timely t (Controller.cmpRequest mConfig nSocket nCommand nSequence pData) := by
  apply Controller.cmpRequest_cases (P := Timely t)
  case bind =>
    intro _
    unfold Controller.cmpBind
    dsimp only
    split
    · exact .call trivial fun _ => .call trivial fun _ => sendCommandtoClient_bind_timely _
    · exact sendCommandtoClient_bind_timely _
  case unbind => exact fun _ => .call trivial fun _ => sendCommandtoClient_bind_timely _
  case accessLog =>
    intro _
    unfold Controller.cmpAccessLog
    dsimp only
    split
    · -- the log is sent to the center behind the response
      refine (sendCommandtoClient_timely _).bind_nil fun _ => ?_
      refine Silent.call (fun _ => rfl) fun nSocketFD => ?_
      exact (centerRequest_silent rfl _ _).bind fun _ => .ret _
    · exact sendCommandtoClient_bind_timely _
  case enquireLink =>
    refine fun _ => .call trivial fun bValid => ?_
    cases bValid with
    | false => exact Prog.Emits.timely (Silent.ret _)
    | true =>
      refine .call trivial fun nSocketFD => Timely.last trivial fun nRet => ?_
      exact .call (fun _ => rfl) fun _ => .call (fun _ => rfl) fun _ => .ret _
  case unknow => exact sendCommandtoClient_bind_timely _

/-- Asking the device comes before any response. -/
theorem wireStatus_bind_timely {nWire : ℤ} {k : Bytes → ControllerProg α}
    (hk : ∀ strState, Timely t (k strState)) : Timely t (wireStatus nWire >>= k) := by
  unfold wireStatus
  split
  · exact .call trivial hk
  · exact hk []

theorem cmpRequest_timely (mConfig : Config) (pData : Bytes) :
    Timely t (cmpRequest mConfig nSocket nCommand nSequence pData) := by
  unfold cmpRequest
  split
  · unfold cmpPowerPortState
    dsimp only
    split
    · refine wireStatus_bind_timely fun strState => ?_
      split
      · exact (cmpResponse_timely _ _).bind_nil fun _ => Silent.ret _
      · exact sendCommandtoClient_bind_timely _
    · exact sendCommandtoClient_bind_timely _
  split
  · unfold cmpPowerPortSet switchPort setWireState
    dsimp only
    split
    · refine wireStatus_bind_timely fun strState => ?_
      split
      · exact sendCommandtoClient_bind_timely _
      split
      · exact Prog.Emits.timely (Silent.call (fun _ => rfl) fun _ => .ret _)
      have hset : ∀ nSet : ℤ, Timely t (if nSet ≠ -1 then do
            let _ ← sendCommandtoClient nSocket nCommand statusRok nSequence true
            pure 0
          else do
            let _ ← sendCommandtoClient nSocket nCommand statusRppsfail nSequence true
            pure (0 : ℤ)) := by
        intro nSet
        split <;> exact sendCommandtoClient_bind_timely _
      split
      · exact .call trivial hset
      · exact hset _
    · exact Prog.Emits.timely (Silent.ret _)
  · exact controllerRequest_timely mConfig pData

end Timely

/-! ### The handlers that answer -/

section Handlers

variable (mConfig : Config) (pData : Bytes)

theorem cmpUnknow_answers :
    Answers nSocket (genericNack ||| nCommand) nSequence
      (Controller.cmpUnknow nSocket nCommand nSequence) :=
  (sendCommandtoClient_answers _).bind_silent fun _ => .ret _

theorem cmpBind_answers :
    Answers nSocket (genericNack ||| nCommand) nSequence
      (Controller.cmpBind nSocket nCommand nSequence pData) := by
  unfold Controller.cmpBind
  dsimp only
  split
  · -- the statements are executed before the answer, and send nothing
    refine Silent.bind_answers (.call (fun _ => rfl) fun _ => .ret _) fun _ => ?_
    refine Silent.bind_answers (.call (fun _ => rfl) fun _ => .ret _) fun _ => ?_
    exact (sendCommandtoClient_answers _).bind_silent fun _ => .ret _
  · exact (sendCommandtoClient_answers _).bind_silent fun _ => .ret _

theorem cmpUnbind_answers :
    Answers nSocket (genericNack ||| nCommand) nSequence
      (Controller.cmpUnbind nSocket nCommand nSequence) := by
  refine Silent.bind_answers (.call (fun _ => rfl) fun _ => .ret _) fun _ => ?_
  exact (sendCommandtoClient_answers _).bind_silent fun _ => .ret _

theorem cmpAccessLog_answers :
    Answers nSocket (genericNack ||| nCommand) nSequence
      (Controller.cmpAccessLog mConfig nSocket nCommand nSequence pData) := by
  unfold Controller.cmpAccessLog
  dsimp only
  split
  · -- what goes to the center is a request
    refine (sendCommandtoClient_answers _).bind_silent fun _ => ?_
    refine .call (fun _ => rfl) fun nSocketFD => ?_
    exact (centerRequest_silent rfl _ _).bind fun _ => .ret _
  · exact (sendCommandtoClient_answers _).bind_silent fun _ => .ret _

end Handlers

/-! ### The handlers that miss -/

/-- The status a device returns in an event. -/
def statusOf : ControllerEvent → Option Bytes
  | ⟨.getPortStatus _, strState⟩ => some strState
  | _ => none

/-- The status the device returned in an execution. -/
def deviceStatus (tr : List ControllerEvent) : Option Bytes := (tr.filterMap statusOf).head?

/-- The socket of the open connection to the center that an execution found. -/
def centerSocket (tr : List ControllerEvent) : Option ℤ :=
  (tr.filterMap fun
    | ⟨.getSocketfd, nSocketFD⟩ => some nSocketFD
    | _ => none).head?

theorem responses_cons_none {e : ControllerEvent} (he : sent e = none)
    (tr : List ControllerEvent) : responses (e :: tr) = responses tr :=
  List.filterMap_cons_none (by rw [responseOf, he]; rfl)

theorem responses_cons_some {e : ControllerEvent} {x : ℤ × Word × Word}
    (he : responseOf e = some x) (tr : List ControllerEvent) :
    responses (e :: tr) = x :: responses tr :=
  List.filterMap_cons_some he

/-- An enquire-link request is answered on the socket to the center. -/
theorem cmpEnquireLink_responses {tr : List ControllerEvent} {a : ℤ}
    (h : (Controller.cmpEnquireLink enquireLinkRequest nSequence).Exec tr a) :
    responses tr = [(nSocket, genericNack ||| enquireLinkRequest, nSequence)] ↔
      centerSocket tr = some nSocket := by
  obtain ⟨bValid, tr, rfl, h⟩ := h
  cases bValid with
  | false =>
    -- without a connection nothing is sent
    obtain ⟨rfl, -⟩ := h
    rw [responses_cons_none rfl]
    exact iff_of_false (List.cons_ne_nil _ _).symm (by simp [centerSocket])
  | true =>
    obtain ⟨nSocketFD, tr, rfl, nRet, tr, rfl, nSocketFD', tr, rfl, u, tr, rfl, rfl, -⟩ := h
    have hsent : responseOf ⟨.centerSend nSocketFD (formatHeader
        (genericNack ||| enquireLinkRequest) statusRok nSequence).bytes, nRet⟩ =
        some (nSocketFD, genericNack ||| enquireLinkRequest, nSequence) := by
      have hack : isAckPacket (genericNack ||| enquireLinkRequest) = true := isAckPacket_or _
      simp [responseOf, sent, formatHeader, hack]
    rw [responses_cons_none rfl, responses_cons_none rfl]
    show responses (⟨.centerSend nSocketFD (formatHeader (genericNack ||| enquireLinkRequest)
      statusRok nSequence).bytes, nRet⟩ :: _) = _ ↔ some nSocketFD = some nSocket
    rw [responses_cons_some hsent, responses_cons_none rfl, responses_cons_none rfl]
    -- the answer is right but for its socket
    simp [responses]

/-- Answering a request does not ask a device. -/
theorem sendCommandtoClient_deviceStatus {nStatus : Word} {b : α} {tr : List ControllerEvent}
    {a : α} (h : (sendCommandtoClient nSocket nCommand nStatus nSequence true >>= fun _ =>
      (pure b : ControllerProg α)).Exec tr a) : deviceStatus tr = none := by
  obtain ⟨_, _, rfl, _, _, rfl, rfl, -⟩ := h
  rfl

/-- The part of a handler that asks the device on a wire. A wire without a device reads as the empty
status, so a condition that holds of it is a condition on what the device returned. -/
theorem exec_wireStatus {nWire : ℤ} {k : Bytes → ControllerProg α} {tr : List ControllerEvent}
    {a : α} {P : Bytes → Prop} (hP : P [])
    (hk : ∀ tr, (k []).Exec tr a → deviceStatus tr = none)
    (h : (wireStatus nWire >>= k).Exec tr a) :
    ∃ strState tr', (k strState).Exec tr' a ∧ responses tr = responses tr' ∧
      ((∀ s ∈ deviceStatus tr, P s) ↔ P strState) := by
  unfold wireStatus at h
  cases hwire : wireIP nWire with
  | none =>
    rw [hwire] at h
    have hnone : deviceStatus tr = none := hk tr h
    exact ⟨[], tr, h, rfl, iff_of_true (by simp [hnone]) hP⟩
  | some strIP =>
    rw [hwire] at h
    obtain ⟨strState, tr', rfl, h⟩ := h
    have hstatus : deviceStatus (⟨.getPortStatus strIP, strState⟩ :: tr') = some strState := rfl
    exact ⟨strState, tr', h, responses_cons_none rfl tr', by simp [hstatus]⟩

/-- A program that answers exactly when a condition holds, and is silent otherwise. -/
theorem responses_iff {p : ControllerProg α} {c : Prop}
    (hyes : c → Answers nSocket nCommand nSequence p) (hno : ¬ c → Silent p)
    {tr : List ControllerEvent} {a : α} (h : p.Exec tr a) :
    responses tr = [(nSocket, nCommand, nSequence)] ↔ c := by
  by_cases hc : c
  · exact iff_of_true (hyes hc tr a h) hc
  · have hnil : responses tr = [] := hno hc tr a h
    exact iff_of_false (hnil ▸ (List.cons_ne_nil _ _).symm) hc

/-- A state request is answered when the status fits a body. -/
theorem cmpPowerPortState_responses {pData : Bytes} {tr : List ControllerEvent} {a : ℤ}
    (h : (cmpPowerPortState nSocket powerPortStateRequest nSequence pData).Exec tr a) :
    responses tr = [(nSocket, genericNack ||| powerPortStateRequest, nSequence)] ↔
      ∀ strState ∈ deviceStatus tr, strlen strState < maxDataLen := by
  unfold cmpPowerPortState at h
  dsimp only at h
  split at h
  · have hempty : strlen [] < maxDataLen := by decide
    obtain ⟨strState, tr', h, hresp, hstatus⟩ := exec_wireStatus
      (P := fun s => strlen s < maxDataLen) hempty
      (fun _ h => sendCommandtoClient_deviceStatus h) h
    rw [hresp, hstatus]
    split at h
    · -- the status is copied behind the header
      refine responses_iff (fun hfit => ?_) (fun hlong => ?_) h
      · exact (cmpResponse_answers rfl hfit).bind_silent fun _ => .ret _
      · exact (cmpResponse_silent (not_lt.mp hlong)).bind fun _ => .ret _
    · next hnil =>
      rw [not_not.mp hnil]
      refine responses_iff (fun _ => ?_) (fun hlong => absurd hempty hlong) h
      exact (sendCommandtoClient_answers _).bind_silent fun _ => .ret _
  · refine iff_of_true ?_ (by simp [sendCommandtoClient_deviceStatus h])
    exact (sendCommandtoClient_answers _).bind_silent (fun _ => .ret _) tr a h

/-- A set request is answered when its body has the three fields and no digit is taken from behind
the end of the status. -/
theorem cmpPowerPortSet_responses {pData : Bytes} {tr : List ControllerEvent} {a : ℤ}
    (h : (cmpPowerPortSet nSocket powerPortSetRequest nSequence pData).Exec tr a) :
    responses tr = [(nSocket, genericNack ||| powerPortSetRequest, nSequence)] ↔
      Accepted ["wire", "port", "state"] (parseBody powerPortSetRequest pData) ∧
        ∀ strState ∈ deviceStatus tr, strState = [] ∨ 3 ≤ strState.length := by
  unfold cmpPowerPortSet switchPort setWireState at h
  dsimp only at h
  generalize hq : parseBody powerPortSetRequest pData = q at h ⊢
  have hacc : Accepted ["wire", "port", "state"] q ↔
      0 < q.1 ∧ q.2.isValidKey "wire" ∧ q.2.isValidKey "port" ∧ q.2.isValidKey "state" := by
    simp [Accepted]
  rw [hacc]
  split at h
  · next hvalid =>
    obtain ⟨strState, tr', h, hresp, hstatus⟩ := exec_wireStatus
      (P := fun s => s = [] ∨ 3 ≤ s.length) (.inl rfl)
      (fun _ h => sendCommandtoClient_deviceStatus h) h
    rw [hresp, hstatus, and_iff_right hvalid]
    split at h
    · next hnil =>
      refine responses_iff (fun _ => ?_) (fun hno => absurd (.inl hnil) hno) h
      exact (sendCommandtoClient_answers _).bind_silent fun _ => .ret _
    · next hne =>
      rw [or_iff_right hne]
      split at h
      · next hshort =>
        -- `substr` throws, and nothing is sent
        refine responses_iff (fun hlong => absurd hlong (not_le.mpr hshort)) (fun _ => ?_) h
        exact .call (fun _ => rfl) fun _ => .ret _
      · next hlong =>
        refine responses_iff (fun _ => ?_) (fun hno => absurd (not_lt.mp hlong) hno) h
        -- whatever the device says to the new states, the request is answered
        have hset : ∀ nSet : ℤ, Answers nSocket (genericNack ||| powerPortSetRequest) nSequence
            (if nSet ≠ -1 then do
              let _ ← sendCommandtoClient nSocket powerPortSetRequest statusRok nSequence true
              pure 0
            else do
              let _ ← sendCommandtoClient nSocket powerPortSetRequest statusRppsfail nSequence true
              pure (0 : ℤ)) := by
          intro nSet
          split <;> exact (sendCommandtoClient_answers _).bind_silent fun _ => .ret _
        split
        · exact Prog.Emits.call_none (fun _ => rfl) hset
        · exact hset _
  · next hinvalid =>
    -- no body to take the fields from, no answer
    refine responses_iff (fun hboth => absurd hboth.1 hinvalid) (fun _ => ?_) h
    exact .ret _

/-! ### Both tables -/

section Table

variable (mConfig : Config) {pData : Bytes}

/-- When a request gets its response. -/
def Answered (nFD : ℤ) (pData : Bytes) (tr : List ControllerEvent) : Prop :=
  (getCommand pData = powerPortSetRequest →
    Accepted ["wire", "port", "state"] (parseBody powerPortSetRequest pData) ∧
      ∀ strState ∈ deviceStatus tr, strState = [] ∨ 3 ≤ strState.length) ∧
  (getCommand pData = powerPortStateRequest →
    ∀ strState ∈ deviceStatus tr, strlen strState < maxDataLen) ∧
  (getCommand pData = enquireLinkRequest → centerSocket tr = some nFD)

/-- The entries of the table. -/
theorem cmpRequest_responses {tr : List ControllerEvent} {a : ℤ} {nFD : ℤ}
    (h : (cmpRequest mConfig nFD (getCommand pData) nSequence pData).Exec tr a) :
    responses tr = [(nFD, genericNack ||| getCommand pData, nSequence)] ↔
      Answered nFD pData tr := by
  unfold Answered
  generalize getCommand pData = nCommand at h ⊢
  unfold cmpRequest at h
  split at h
  · next hcmd =>
    subst hcmd
    rw [cmpPowerPortState_responses h]
    simp [powerPortStateRequest, powerPortSetRequest, enquireLinkRequest]
  split at h
  · next hcmd =>
    subst hcmd
    rw [cmpPowerPortSet_responses h]
    simp [powerPortStateRequest, powerPortSetRequest, enquireLinkRequest]
  next hstate hset =>
  -- the entries of the Controller
  rw [iff_true_intro (fun h => absurd h hset), iff_true_intro (fun h => absurd h hstate), true_and,
    true_and]
  by_cases henquire : nCommand = enquireLinkRequest
  · subst henquire
    rw [forall_prop_of_true rfl]
    exact cmpEnquireLink_responses h
  · refine iff_of_true ?_ fun h => absurd h henquire
    have hanswers : Answers nFD (genericNack ||| nCommand) nSequence
        (Controller.cmpRequest mConfig nFD nCommand nSequence pData) := by
      apply Controller.cmpRequest_cases (P := fun p =>
        Answers nFD (genericNack ||| nCommand) nSequence p)
      case bind => exact fun _ => cmpBind_answers pData
      case unbind => exact fun _ => cmpUnbind_answers
      case accessLog => exact fun _ => cmpAccessLog_answers mConfig pData
      case enquireLink => exact fun heq => absurd heq henquire
      case unknow => exact cmpUnknow_answers
    exact hanswers tr a h

/-- A request that is logged gets its one response when the condition for its kind holds. -/
theorem onCMP_responses_iff {nFD : ℤ} (hreq : isAckPacket (getCommand pData) = false)
    {tr : List ControllerEvent} {a : Unit}
    (h : (onCMPWith (cmpRequest mConfig) nFD pData).Exec tr a) :
    responses tr = [(nFD, genericNack ||| getCommand pData, getSequence pData)] ↔
      Answered nFD pData tr := by
  obtain ⟨_, tr, rfl, h⟩ := h
  simp only [Prog.bind_eq, Prog.ret_bind, hreq, Bool.false_eq_true, if_false] at h
  rw [responses_cons_none rfl]
  show _ ↔ Answered nFD pData tr
  split at h
  · next hlarge =>
    -- no large command has an entry of its own
    refine iff_of_true ?_ ⟨?_, ?_, ?_⟩
    · exact (sendCommandtoClient_answers _).bind_silent (fun _ => .ret _) tr a h
    all_goals
      intro hcmd
      rw [hcmd] at hlarge
      exact absurd hlarge (by decide)
  · obtain ⟨tr₁, nRet, tr₂, rfl, h₁, rfl, -⟩ := Prog.exec_bind.mp h
    rw [List.append_nil]
    exact cmpRequest_responses mConfig h₁

/-- The first call of both entry points logs the header, and only it can come before a response out
of bounds. -/
theorem onCMP_responses_upTo {t : Tm} {nFD : ℤ} (hreq : isAckPacket (getCommand pData) = false)
    {tr : List ControllerEvent} {a : Unit}
    (h : (onCMPWith (cmpRequest mConfig) nFD pData).Exec tr a) :
    responses (Prog.upTo (InBounds t) tr) =
      if getStatus pData = statusRinvbndsts then [] else responses tr := by
  have hfits : InBounds t (.printPacket (getCommand pData) (getStatus pData) (getSequence pData)
      (getLength pData).toInt "[Controller Recv]" nFD) ↔ getStatus pData ≠ statusRinvbndsts :=
    packetLogFits_iff t _ _ _ _ _ (by decide)
  obtain ⟨u, tr, rfl, h⟩ := h
  split
  · next hstatus =>
    rw [Prog.upTo_cons_of_neg (hfits.not.mpr (not_not.mpr hstatus))]
    rfl
  · next hstatus =>
    rw [Prog.upTo_cons_of_pos (hfits.mpr hstatus), responses_cons_none rfl,
      responses_cons_none rfl]
    simp only [Prog.bind_eq, Prog.ret_bind, hreq, Bool.false_eq_true, if_false] at h
    have htimely : Timely t (if 0xFF < (getCommand pData).toInt then do
          let _ ←
            sendCommandtoClient nFD (getCommand pData) statusRinvcmdid (getSequence pData) true
        else do
          let _ ← cmpRequest mConfig nFD (getCommand pData) (getSequence pData) pData) := by
      split
      · exact sendCommandtoClient_bind_timely _
      · exact (cmpRequest_timely mConfig pData).bind_nil fun _ => Silent.ret _
    exact htimely tr a h

/-- **One response to each request.** A request from a client or from the center gets its one
response, on the socket it came from and before any write out of bounds, exactly when it can be
logged and the condition for its kind holds. -/
theorem onCMP_answers_origin_iff (t : Tm) {nFD : ℤ} (hreq : isAckPacket (getCommand pData) = false)
    {tr : List ControllerEvent} {a : Unit}
    (h : (onClientCMP mConfig nFD pData).Exec tr a ∨ (onCenterCMP mConfig nFD pData).Exec tr a) :
    responses (Prog.upTo (InBounds t) tr) =
        [(nFD, genericNack ||| getCommand pData, getSequence pData)] ↔
      getStatus pData ≠ statusRinvbndsts ∧ Answered nFD pData tr := by
  -- the two entry points are one program
  replace h : (onCMPWith (cmpRequest mConfig) nFD pData).Exec tr a := h.elim id id
  rw [onCMP_responses_upTo mConfig hreq h]
  split
  · next hstatus => exact iff_of_false (List.cons_ne_nil _ _).symm fun hboth => hboth.1 hstatus
  · next hstatus => rw [and_iff_right hstatus, onCMP_responses_iff mConfig hreq h]

end Table

/-- An enquire-link request. -/
def enquireLinkPacket : Bytes := CmpHeader.bytes ⟨16#32, enquireLinkRequest, statusRok, 7#32⟩

/-- Receiving it on `nFD` while the connection to the center is on `nSocketFD`. -/
def enquireLinkTrace (nFD nSocketFD : ℤ) : List ControllerEvent :=
  [⟨.printPacket enquireLinkRequest statusRok 7#32 16 "[Controller Recv]" nFD, ()⟩,
    ⟨.isValidSocketFD, true⟩, ⟨.getSocketfd, nSocketFD⟩,
    ⟨.centerSend nSocketFD (formatHeader enquireLinkResponse statusRok 7#32).bytes, (16 : ℤ)⟩,
    ⟨.getSocketfd, nSocketFD⟩,
    ⟨.printPacket enquireLinkResponse statusRok 7#32 16 "[Controller Send to Center]" nSocketFD,
      ()⟩]

/-- The center asks. -/
theorem onCMP_answers_origin_iff_center :
    responses (Prog.upTo (InBounds someTm) (enquireLinkTrace 9 9)) =
        [(9, genericNack ||| getCommand enquireLinkPacket, getSequence enquireLinkPacket)] ↔
      getStatus enquireLinkPacket ≠ statusRinvbndsts ∧
        Answered 9 enquireLinkPacket (enquireLinkTrace 9 9) :=
  onCMP_answers_origin_iff ⟨[], [], []⟩ someTm (by decide)
    (.inr ⟨(), _, rfl, true, _, rfl, 9, _, rfl, 16, _, rfl, 9, _, rfl, (), _, rfl, rfl, rfl⟩)

/-- A client asks, and the center is told. -/
theorem onClientCMP_answers_center :
    (onClientCMP ⟨[], [], []⟩ 5 enquireLinkPacket).Exec (enquireLinkTrace 5 9) () ∧
      isAckPacket (getCommand enquireLinkPacket) = false ∧
      (∀ e ∈ enquireLinkTrace 5 9, InBounds someTm e.1) ∧
      responses (enquireLinkTrace 5 9) ≠
        [(5, genericNack ||| getCommand enquireLinkPacket, getSequence enquireLinkPacket)] := by
  refine ⟨?_, by decide, ?_, by decide⟩
  · exact ⟨(), _, rfl, true, _, rfl, 9, _, rfl, 16, _, rfl, 9, _, rfl, (), _, rfl, rfl, rfl⟩
  · simp only [enquireLinkTrace, List.forall_mem_cons, List.not_mem_nil, false_imp_iff,
      implies_true, and_true]
    exact ⟨(packetLogFits_iff someTm _ _ _ 16#32 5#32 (by decide)).mpr (by decide), trivial,
      trivial, trivial, trivial,
      (packetLogFits_iff someTm _ _ _ 16#32 9#32 (by decide)).mpr (by decide)⟩

end ControllerSystem.ControllerAw2401
