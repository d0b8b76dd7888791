import ControllerSystem.ControlCenter.Responses
import ControllerSystem.ControllerAw2401.Handlers
import ControllerSystem.Body
import ControllerSystem.Lib.Deliveries

/-!
# The packets between clients, a controller and the center

Any number of clients, an Aw2401 controller and the ControlCenter, with the packets between them in
flight as a multiset. A delivery takes a packet to the program at the end of its connection, which
handles it in some execution of its handlers, and the packets sent there are in flight next.

Some handlers answer a request and hand another one on: the center hands power requests on to a
controller, a controller hands access logs on to the center. `packetWeight` prices a packet by what
can follow from it, so that every delivery makes the flight lighter (`receives_lightens`), and no
order of deliveries goes on for ever (`deliveries_terminate`).
-/

open Words Calls Deliveries

namespace ControllerSystem

/-! ### What the handlers of the center send -/

namespace ControlCenter

section Costs

variable {w : ℤ × Bytes → ℕ} {n m : ℕ} {nSocket : ℤ} {nCommand nSequence : Word}
  -- the price of a response, and that of a request that is handed on
  (hresp : ∀ p, isAckPacket (getCommand p) → getSequence p = nSequence → w (nSocket, p) ≤ n)
  (hport : ∀ fd p, getCommand p = powerPortSetRequest ∨ getCommand p = powerPortStateRequest →
    w (fd, p) ≤ m)
  (pData : Bytes)

include hport in
/-- A power request that is handed on. -/
theorem forwardRequest_costs {nFD : ℤ} {fields : List Bytes} {strMsg : Bytes}
    (hcommand : nCommand = powerPortSetRequest ∨ nCommand = powerPortStateRequest) :
    (forwardRequest nFD nCommand fields strMsg).Costs sent w m := by
  refine .call_none (fun _ => rfl) fun _ => .call_none (fun _ => rfl) fun _ => ?_
  refine .call_some (fun _ => rfl) (hport _ _ ?_) fun nRet =>
    (printLog_mute _ _).bind fun _ => .ret _
  rw [getCommand_append]
  exact hcommand

include hresp

/-- A response without a body. -/
theorem sendCommand_costs (nStatus : Word) :
    (sendCommand nSocket nCommand nStatus nSequence true).Costs sent w n := by
  refine .call_some (fun _ => rfl) (hresp _ ?_ (getSequence_bytes _)) fun nRet =>
    (printPacket_mute _ _ _ _ _ _).bind fun _ => .ret _
  rw [if_pos rfl, getCommand_bytes]
  exact isAckPacket_or nCommand

/-- A handler that ends with a response. -/
theorem reply_costs (a : ℤ) (nStatus : Word) :
    (sendCommand nSocket nCommand nStatus nSequence true >>= fun _ =>
      (pure a : CenterProg ℤ)).Costs sent w n :=
  .bind_nil (sendCommand_costs hresp nStatus) fun _ => Mute.ret a

/-- A response with a body, if it fits. -/
theorem cmpResponse_costs {nCommandId : Word} (hack : isAckPacket nCommandId) (szData : Bytes) :
    (cmpResponse nSocket nCommandId nSequence szData).Costs sent w n := by
  unfold cmpResponse
  split
  · exact .call_none (fun _ => rfl) fun _ => .ret _
  · refine .call_some (fun _ => rfl) (hresp _ ?_ (getSequence_append _ _)) fun nRet =>
      (printPacket_mute _ _ _ _ _ _).bind fun _ => ?_
    · rw [getCommand_append]
      exact hack
    · split <;> exact (printLog_mute _ _).bind fun _ => .ret _

theorem cmpUnknow_costs : (cmpUnknow nSocket nCommand nSequence).Costs sent w n :=
  reply_costs hresp _ _

theorem cmpBind_costs : (cmpBind nSocket nCommand nSequence pData).Costs sent w n := by
  -- every failure ends in the same answer
  have hfail : (sendCommand nSocket nCommand statusRinvctrlid nSequence true >>= fun _ =>
      (pure fail : CenterProg ℤ)).Costs sent w n := reply_costs hresp _ _
  unfold cmpBind
  dsimp only
  split
  · refine .nil_bind (controllerSqlExec_mute _) fun nRet => ?_
    split
    · refine .nil_bind (controllerSqlExec_mute _) fun nRet => ?_
      split
      · exact reply_costs hresp _ _
      · exact hfail
    · exact hfail
  · exact hfail

theorem cmpUnbind_costs : (cmpUnbind nSocket nCommand nSequence).Costs sent w n :=
  reply_costs hresp _ _

theorem cmpAccessLog_costs : (cmpAccessLog nSocket nCommand nSequence pData).Costs sent w n := by
  unfold cmpAccessLog
  dsimp only
  split
  · refine .nil_bind (printLog_mute _ _) fun _ => .nil_bind (insertLog_mute _ _) fun strOID => ?_
    split
    all_goals
      refine .bind_nil (sendCommand_costs hresp _) fun _ => ?_
      exact (printLog_mute _ _).bind fun _ => .ret _
  · exact reply_costs hresp _ _

theorem cmpInitial_costs : (cmpInitial nSocket nCommand nSequence pData).Costs sent w n := by
  unfold cmpInitial
  dsimp only
  split
  · refine .nil_bind (printLog_mute _ _) fun _ => ?_
    split
    · exact reply_costs hresp _ _
    · exact .bind_nil (cmpResponse_costs hresp rfl _) fun _ => Mute.ret _
  · exact reply_costs hresp _ _

theorem cmpSdkTracker_costs : (cmpSdkTracker nSocket nCommand nSequence pData).Costs sent w n := by
  unfold cmpSdkTracker
  dsimp only
  split
  · refine .bind_nil (sendCommand_costs hresp _) fun _ => (insertLog_mute _ _).bind fun strOID => ?_
    split <;> exact (printLog_mute _ _).bind fun _ => .ret _
  · exact reply_costs hresp _ _

theorem cmpSignup_costs : (cmpSignup nSocket nCommand nSequence pData).Costs sent w n := by
  unfold cmpSignup
  dsimp only
  split
  · refine .nil_bind (printLog_mute _ _) fun _ => .nil_bind (signupInsert_mute _) fun nInsert => ?_
    exact reply_costs hresp _ _
  · exact reply_costs hresp _ _

theorem cmpMdmLogin_costs : (cmpMdmLogin nSocket nCommand nSequence pData).Costs sent w n := by
  unfold cmpMdmLogin
  dsimp only
  split
  · refine .nil_bind (printLog_mute _ _) fun _ => .nil_bind (login_mute _ _) fun strLogin => ?_
    split
    · exact reply_costs hresp _ _
    · exact cmpResponse_costs hresp rfl _
  · exact reply_costs hresp _ _

theorem cmpMdmOperate_costs : (cmpMdmOperate nSocket nCommand nSequence pData).Costs sent w n := by
  unfold cmpMdmOperate
  dsimp only
  split
  · exact .nil_bind (printLog_mute _ _) fun _ => cmpResponse_costs hresp rfl _
  · exact reply_costs hresp _ _

include hport

theorem cmpPowerPort_costs :
    (cmpPowerPort nSocket nCommand nSequence pData).Costs sent w (n + m) := by
  unfold cmpPowerPort
  dsimp only
  split
  · refine .bind (n := n) (m := m) (sendCommand_costs hresp _) fun _ => ?_
    refine .nil_bind (getControllerSocketFD_mute _) fun nFD => ?_
    split
    · exact .bind_nil (forwardRequest_costs hport (.inl rfl)) fun _ => Mute.ret _
    · exact .ret _
  · exact .mono (reply_costs hresp _ _) (Nat.le_add_right n m)

theorem cmpPowerPortState_costs :
    (cmpPowerPortState nSocket nCommand nSequence pData).Costs sent w (n + m) := by
  unfold cmpPowerPortState
  dsimp only
  split
  · refine .nil_bind (getControllerSocketFD_mute _) fun nFD => ?_
    split
    · refine .mono (.bind (n := m) (m := n) (forwardRequest_costs hport (.inr rfl))
        fun nSend => ?_) (Nat.add_comm m n).le
      split
      · exact .bind_nil (cmpResponse_costs hresp rfl _) fun _ => Mute.ret _
      · exact reply_costs hresp _ _
    · exact .mono (reply_costs hresp _ _) (Nat.le_add_right n m)
  · exact .mono (reply_costs hresp _ _) (Nat.le_add_right n m)

/-- **What a request costs at the center**: its response, and a power request that is handed on. -/
theorem cmpRequest_costs : (cmpRequest nSocket nCommand nSequence pData).Costs sent w (n + m) := by
  apply cmpRequest_cases (P := fun p => p.Costs sent w (n + m))
  -- only a power request is handed on; everything else is answered at most
  case powerPortSet => exact fun _ => cmpPowerPort_costs hresp hport pData
  case powerPortState => exact fun _ => cmpPowerPortState_costs hresp hport pData
  case bind => exact fun _ => .mono (cmpBind_costs hresp pData) (Nat.le_add_right n m)
  case unbind => exact fun _ => .mono (cmpUnbind_costs hresp) (Nat.le_add_right n m)
  case accessLog => exact fun _ => .mono (cmpAccessLog_costs hresp pData) (Nat.le_add_right n m)
  case initial => exact fun _ => .mono (cmpInitial_costs hresp pData) (Nat.le_add_right n m)
  case signUp => exact fun _ => .mono (cmpSignup_costs hresp pData) (Nat.le_add_right n m)
  case mdmLogin => exact fun _ => .mono (cmpMdmLogin_costs hresp pData) (Nat.le_add_right n m)
  case mdmOperate => exact fun _ => .mono (cmpMdmOperate_costs hresp pData) (Nat.le_add_right n m)
  case sdkTracker => exact fun _ => .mono (cmpSdkTracker_costs hresp pData) (Nat.le_add_right n m)
  case unknow => exact .mono (cmpUnknow_costs hresp) (Nat.le_add_right n m)

omit hresp in
/-- What a packet costs at the center. -/
theorem onCMP_costs
    (hresp : ∀ p, isAckPacket (getCommand p) → getSequence p = getSequence pData →
      w (nSocket, p) ≤ n) :
    (onCMP nSocket pData).Costs sent w (if isAckPacket (getCommand pData) then 0 else n + m) := by
  refine .nil_bind (printPacket_mute _ _ _ _ _ _) fun _ => ?_
  split
  · -- a response is not answered
    unfold ackPacket
    split
    · refine .call_none (fun _ => rfl) fun vEnquireLink => ?_
      simp only [Prog.bind_eq, Prog.ret_bind]
      split
      · refine .call_none (fun _ => rfl) fun _ => .call_none (fun _ => rfl) fun _ => ?_
        exact .call_none (fun _ => rfl) fun _ => .ret _
      · exact .ret _
    · exact .ret _
  split
  · exact .mono (.bind_nil (sendCommand_costs hresp _) fun _ => Mute.ret _) (Nat.le_add_right n m)
  · exact .bind_nil (cmpRequest_costs hresp hport pData) fun _ => Mute.ret _

end Costs

end ControlCenter

/-! ### What the handlers of the controller send -/

namespace ControllerAw2401

open Controller (Config sendCommandtoClient)

/-- The packet a call sends, with its socket: to a client, or to the center. -/
def sentOn : ControllerEvent → Option ((ℤ × Bytes) ⊕ (ℤ × Bytes))
  | ⟨.clientSend nSocket pBuf, _⟩ => some (.inl (nSocket, pBuf))
  | ⟨.centerSend nSocketFD pBuf, _⟩ => some (.inr (nSocketFD, pBuf))
  | _ => none

/-- What all that is sent weighs. -/
theorem sum_sent (w : ℤ × Bytes → ℕ) (tr : List ControllerEvent) :
    ((tr.filterMap Controller.sent).map w).sum =
      ((tr.filterMap sentOn).map (Sum.elim w w)).sum := by
  rw [List.map_filterMap, List.map_filterMap]
  refine congrArg (fun f => (tr.filterMap f).sum) (funext fun e => ?_)
  obtain ⟨c, r⟩ := e
  cases c <;> rfl

section Costs

variable {w : (ℤ × Bytes) ⊕ (ℤ × Bytes) → ℕ} {n m : ℕ} {nSocket : ℤ} {nCommand nSequence : Word}
  -- the price of a response, to a client or to the center, and that of a log that is handed on
  (hresp : ∀ p, isAckPacket (getCommand p) → getSequence p = nSequence → w (.inl (nSocket, p)) ≤ n)
  (hcenter : ∀ fd p, isAckPacket (getCommand p) → w (.inr (fd, p)) ≤ n)
  (hlog : ∀ fd p, getCommand p = accessLogRequest → w (.inr (fd, p)) ≤ m)
  (mConfig : Config) (pData : Bytes)

/-- A program that sends nothing. -/
def Mute {α : Type} (p : ControllerProg α) : Prop := p.Emits sentOn (· = [])

theorem Mute.ret {α : Type} (a : α) : Mute (.ret a) := Prog.Emits.ret rfl

theorem Mute.call {α : Type} {c : ControllerCall} {k : c.Res → ControllerProg α}
    (hc : ∀ r, sentOn ⟨c, r⟩ = none) (hk : ∀ r, Mute (k r)) : Mute (.call c k) :=
  Prog.Emits.call_none hc hk

include hlog in
/-- A request to the center, if it fits. -/
theorem centerRequest_costs (body strMsg : Bytes) :
    (Controller.centerRequest nSocket accessLogRequest body strMsg).Costs sentOn w m := by
  refine .call_none (fun _ => rfl) fun _ => .call_none (fun _ => rfl) fun _ => ?_
  simp only [Prog.bind_eq, Prog.ret_bind, Prog.pure_eq_ret]
  split
  · exact .call_none (fun _ => rfl) fun _ => .ret _
  · refine .call_some (fun _ => rfl) (hlog _ _ ?_) fun nRet =>
      Mute.call (fun _ => rfl) fun _ => .ret _
    rw [getCommand_append]
    rfl

include hresp

/-- A response without a body. -/
theorem sendCommandtoClient_costs (nStatus : Word) :
    (sendCommandtoClient nSocket nCommand nStatus nSequence true).Costs sentOn w n := by
  refine .call_some (fun _ => rfl) (hresp _ ?_ (getSequence_bytes _)) fun nRet =>
    Mute.call (fun _ => rfl) fun _ => .ret _
  rw [if_pos rfl, getCommand_bytes]
  exact isAckPacket_or nCommand

/-- A handler that ends with a response. -/
theorem reply_costs (a : ℤ) (nStatus : Word) :
    (sendCommandtoClient nSocket nCommand nStatus nSequence true >>= fun _ =>
      (pure a : ControllerProg ℤ)).Costs sentOn w n :=
  .bind_nil (sendCommandtoClient_costs hresp nStatus) fun _ => Mute.ret a

/-- A response with a body, if it fits. -/
theorem cmpResponse_costs {nCommandId : Word} (hack : isAckPacket nCommandId) (szData : Bytes) :
    (cmpResponse nSocket nCommandId nSequence szData).Costs sentOn w n := by
  unfold cmpResponse
  split
  · exact .call_none (fun _ => rfl) fun _ => .ret _
  · refine .call_some (fun _ => rfl) (hresp _ ?_ (getSequence_append _ _)) fun nRet =>
      Mute.call (fun _ => rfl) fun _ => ?_
    · rw [getCommand_append]
      exact hack
    · simp only [Prog.bind_eq, Prog.ret_bind]
      split <;> exact Mute.call (fun _ => rfl) fun _ => .ret _

theorem cmpBind_costs :
    (Controller.cmpBind nSocket nCommand nSequence pData).Costs sentOn w n := by
  unfold Controller.cmpBind
  dsimp only
  split
  · refine .call_none (fun _ => rfl) fun _ => .call_none (fun _ => rfl) fun _ => ?_
    exact reply_costs hresp _ _
  · exact reply_costs hresp _ _

theorem cmpUnbind_costs : (Controller.cmpUnbind nSocket nCommand nSequence).Costs sentOn w n :=
  .call_none (fun _ => rfl) fun _ => reply_costs hresp _ _

omit hresp in
include hcenter in
/-- An enquire-link request is answered to the center, if there is a connection. -/
theorem cmpEnquireLink_costs : (Controller.cmpEnquireLink nCommand nSequence).Costs sentOn w n := by
  refine .call_none (fun _ => rfl) fun bValid => ?_
  cases bValid with
  | false => exact .ret _
  | true =>
    refine .call_none (fun _ => rfl) fun nSocketFD => ?_
    refine .call_some (fun _ => rfl) (hcenter _ _ ?_) fun nRet =>
      Mute.call (fun _ => rfl) fun _ => .call (fun _ => rfl) fun _ => .ret _
    rw [if_pos rfl, getCommand_bytes]
    exact isAckPacket_or nCommand

theorem cmpPowerPortState_costs :
    (cmpPowerPortState nSocket nCommand nSequence pData).Costs sentOn w n := by
  unfold cmpPowerPortState wireStatus
  dsimp only
  split
  · cases wireIP _ with
    | none => exact reply_costs hresp _ _
    | some strIP =>
      refine .call_none (fun _ => rfl) fun strState => ?_
      simp only [Prog.bind_eq, Prog.ret_bind]
      split
      · exact .bind_nil (cmpResponse_costs hresp rfl _) fun _ => Mute.ret _
      · exact reply_costs hresp _ _
  · exact reply_costs hresp _ _

theorem cmpPowerPortSet_costs :
    (cmpPowerPortSet nSocket nCommand nSequence pData).Costs sentOn w n := by
  unfold cmpPowerPortSet switchPort setWireState wireStatus
  dsimp only
  split
  · cases wireIP _ with
    | none => exact reply_costs hresp _ _
    | some strIP =>
      refine .call_none (fun _ => rfl) fun strState => ?_
      simp only [Prog.bind_eq, Prog.ret_bind]
      split
      · exact reply_costs hresp _ _
      split
      · exact .call_none (fun _ => rfl) fun _ => .ret _
      · refine .call_none (fun _ => rfl) fun nSet => ?_
        simp only [Prog.bind_eq, Prog.ret_bind]
        split <;> exact reply_costs hresp _ _
  · exact .ret _

include hlog

/-- An access log is answered, and handed on to the center. -/
theorem cmpAccessLog_costs :
    (Controller.cmpAccessLog mConfig nSocket nCommand nSequence pData).Costs sentOn w (n + m) := by
  unfold Controller.cmpAccessLog
  dsimp only
  split
  · refine .bind (n := n) (m := m) (sendCommandtoClient_costs hresp _) fun _ => ?_
    refine .nil_bind (Mute.call (fun _ => rfl) fun _ => .ret _) fun nSocketFD => ?_
    exact .bind_nil (centerRequest_costs hlog _ _) fun _ => Mute.ret _
  · exact .mono (reply_costs hresp _ _) (Nat.le_add_right n m)

include hcenter

/-- **What a request costs at the controller.** Only an access log is handed on. -/
theorem cmpRequest_costs :
    (cmpRequest mConfig nSocket nCommand nSequence pData).Costs sentOn w
      (if nCommand = accessLogRequest then n + m else n) := by
  by_cases hcommand : nCommand = accessLogRequest
  · subst hcommand
    rw [if_pos rfl]
    exact cmpAccessLog_costs hresp hlog mConfig pData
  · rw [if_neg hcommand]
    unfold cmpRequest
    split
    · exact cmpPowerPortState_costs hresp pData
    split
    · exact cmpPowerPortSet_costs hresp pData
    apply Controller.cmpRequest_cases (P := fun p => p.Costs sentOn w n)
    case bind => exact fun _ => cmpBind_costs hresp pData
    case unbind => exact fun _ => cmpUnbind_costs hresp
    case accessLog => exact fun heq => absurd heq hcommand
    case enquireLink => exact fun _ => cmpEnquireLink_costs hcenter
    case unknow => exact reply_costs hresp _ _

omit hresp in
/-- What a packet costs at the controller, whether a client or the center has sent it. -/
theorem onCMPWith_costs
    (hresp : ∀ p, isAckPacket (getCommand p) → getSequence p = getSequence pData →
      w (.inl (nSocket, p)) ≤ n) :
    (Controller.onCMPWith (cmpRequest mConfig) nSocket pData).Costs sentOn w
      (if isAckPacket (getCommand pData) then 0
        else if getCommand pData = accessLogRequest then n + m else n) := by
  refine .call_none (fun _ => rfl) fun _ => ?_
  simp only [Prog.bind_eq, Prog.ret_bind]
  by_cases hack : isAckPacket (getCommand pData)
  · rw [if_pos hack, if_pos hack]
    unfold Controller.ackPacket
    split
    · refine .call_none (fun _ => rfl) fun vEnquireLink => ?_
      simp only [Prog.bind_eq, Prog.ret_bind]
      split
      · exact .call_none (fun _ => rfl) fun _ => .ret _
      · exact .ret _
    · exact .ret _
  rw [if_neg hack, if_neg hack]
  by_cases hlarge : 0xFF < (getCommand pData).toInt
  · rw [if_pos hlarge]
    refine .mono (.bind_nil (sendCommandtoClient_costs hresp _) fun _ => Mute.ret _) ?_
    split
    · exact Nat.le_add_right n m
    · exact Nat.le_refl n
  · rw [if_neg hlarge]
    exact .bind_nil (cmpRequest_costs hresp hcenter hlog mConfig pData) fun _ => Mute.ret _

end Costs

end ControllerAw2401

/-! ### The network -/

/-- The end of a connection: a client, or a program with the descriptor of its socket. -/
inductive Endpoint (Client : Type)
  | client (c : Client)
  | controller (nFD : ℤ)
  | center (nFD : ℤ)
  deriving DecidableEq

/-- A packet in flight. -/
structure InFlight (Client : Type) where
  dest : Endpoint Client
  packet : Bytes
  deriving DecidableEq

/-- The connections of the two programs. -/
structure Network (Client : Type) where
  /-- What is at the other end of a socket of the center: a client or a socket of the controller. -/
  centerPeer : ℤ → Option (Client ⊕ ℤ)
  /-- What is at the other end of a socket of the controller: a client or a socket of the center. -/
  controllerPeer : ℤ → Option (Client ⊕ ℤ)
  /-- The settings of the controller. -/
  mConfig : Controller.Config

namespace Network

variable {Client : Type} (net : Network Client)

/-- Where a packet of the center goes; nowhere without a connection. -/
def fromCenter (q : ℤ × Bytes) : Option (InFlight Client) :=
  (net.centerPeer q.1).map fun peer => ⟨peer.elim .client .controller, q.2⟩

/-- Where a packet of the controller goes. -/
def fromController (q : ℤ × Bytes) : Option (InFlight Client) :=
  (net.controllerPeer q.1).map fun peer => ⟨peer.elim .client .center, q.2⟩

/-- What can come of the delivery of a packet. Any of the packets sent may be lost. -/
inductive Receives : InFlight Client → Multiset (InFlight Client) → Prop
  /-- A client may leave anything unanswered. -/
  | clientSilent (c : Client) (p : Bytes) : Receives ⟨.client c, p⟩ 0
  /-- A client answers a request by one response. -/
  | clientAnswers (c : Client) (p : Bytes) (dest : Endpoint Client) (r : Bytes) :
      isAckPacket (getCommand p) = false → isAckPacket (getCommand r) →
      Receives ⟨.client c, p⟩ {⟨dest, r⟩}
  | controller (nFD : ℤ) (p : Bytes) (tr : List ControllerEvent)
      (out : Multiset (InFlight Client)) :
      ((ControllerAw2401.onClientCMP net.mConfig nFD (receiveBuffer p)).Exec tr () ∨
        (ControllerAw2401.onCenterCMP net.mConfig nFD (receiveBuffer p)).Exec tr ()) →
      out ≤ ((tr.filterMap Controller.sent).filterMap net.fromController : Multiset _) →
      Receives ⟨.controller nFD, p⟩ out
  | center (nFD : ℤ) (p : Bytes) (tr : List ControlCenter.CenterEvent)
      (out : Multiset (InFlight Client)) :
      getCommand p ≠ enquireLinkRequest →
      (ControlCenter.onCMP nFD (receiveBuffer p)).Exec tr () →
      out ≤ ((tr.filterMap ControlCenter.sent).filterMap net.fromCenter : Multiset _) →
      Receives ⟨.center nFD, p⟩ out
  /-- The client thread answers an enquire-link request itself. A body it announced is read as the
  next packets of the connection. -/
  | centerEnquire (nFD : ℤ) (p : Bytes) (ps : List Bytes) (out : Multiset (InFlight Client)) :
      getCommand p = enquireLinkRequest →
      (∀ q ∈ ps, sizeofCmpHeader ≤ q.length) → ps.flatten <+: p.drop sizeofCmpHeader →
      out ≤ (([(nFD, (ControlCenter.enquireLinkReply (CmpHeader.ofBytes p)).bytes)].filterMap
        net.fromCenter ++ ps.map fun q => ⟨.center nFD, q⟩ : List (InFlight Client)) :
          Multiset (InFlight Client)) →
      Receives ⟨.center nFD, p⟩ out

end Network

/-- The price of a packet: one for its delivery and one for each further delivery that can follow
from it. -/
def packetWeight {Client : Type} (m : InFlight Client) : ℕ :=
  -- nobody answers a response
  if isAckPacket (getCommand m.packet) then 1
  else match m.dest with
    | .client _ => 2
    -- an access log is handed on to the center
    | .controller _ => if getCommand m.packet = accessLogRequest then 6 else 2
    -- a power request is handed on; in a body there can be as many packets as it has room for
    | .center _ => if getCommand m.packet = enquireLinkRequest then max 2 m.packet.length else 4

namespace Network

variable {Client : Type} (net : Network Client)

theorem packetWeight_response {dest : Endpoint Client} {p : Bytes}
    (h : isAckPacket (getCommand p)) : packetWeight (⟨dest, p⟩ : InFlight Client) = 1 := if_pos h

theorem packetWeight_pos (m : InFlight Client) : 0 < packetWeight m := by
  obtain ⟨dest, p⟩ := m
  unfold packetWeight
  dsimp only
  split
  · decide
  · cases dest with
    | client c => exact Nat.two_pos
    | controller nFD => dsimp only; split <;> decide
    | center nFD => dsimp only; split <;> omega

/-- A packet that goes nowhere weighs nothing. -/
theorem elim_map_le {A : Type} {f : A → InFlight Client} {n : ℕ} (o : Option A)
    (h : ∀ a, packetWeight (f a) ≤ n) : (o.map f).elim 0 packetWeight ≤ n := by
  cases o with
  | none => exact Nat.zero_le n
  | some a => exact h a

/-- What the center sends into flight. -/
theorem fromCenter_response (fd : ℤ) (p : Bytes) (h : isAckPacket (getCommand p)) :
    (net.fromCenter (fd, p)).elim 0 packetWeight ≤ 1 :=
  elim_map_le _ fun _ => (packetWeight_response h).le

theorem fromCenter_port (fd : ℤ) (p : Bytes)
    (h : getCommand p = powerPortSetRequest ∨ getCommand p = powerPortStateRequest) :
    (net.fromCenter (fd, p)).elim 0 packetWeight ≤ 2 := by
  refine elim_map_le _ fun peer => ?_
  have hreq : isAckPacket (getCommand p) = false ∧ getCommand p ≠ accessLogRequest := by
    rcases h with h | h <;> rw [h] <;> decide
  cases peer <;> simp [packetWeight, hreq]

/-- What the controller sends into flight. -/
theorem fromController_response (fd : ℤ) (p : Bytes) (h : isAckPacket (getCommand p)) :
    (net.fromController (fd, p)).elim 0 packetWeight ≤ 1 :=
  elim_map_le _ fun _ => (packetWeight_response h).le

theorem fromController_log (fd : ℤ) (p : Bytes) (h : getCommand p = accessLogRequest) :
    (net.fromController (fd, p)).elim 0 packetWeight ≤ 4 := by
  refine elim_map_le _ fun peer => ?_
  have hreq : isAckPacket accessLogRequest = false ∧ accessLogRequest ≠ enquireLinkRequest := by
    decide
  cases peer <;> simp [packetWeight, h, hreq]

/-- The packets in a body weigh no more than the body is long. -/
theorem weight_body_le {nFD : ℤ} {ps : List Bytes} (hps : ∀ q ∈ ps, sizeofCmpHeader ≤ q.length) :
    ((ps.map fun q => (⟨.center nFD, q⟩ : InFlight Client)).map packetWeight).sum ≤
      ps.flatten.length := by
  induction ps with
  | nil => simp
  | cons q ps ih =>
    have hq : 16 ≤ q.length := hps q List.mem_cons_self
    have hhead : packetWeight (⟨.center nFD, q⟩ : InFlight Client) ≤ q.length := by
      unfold packetWeight
      dsimp only
      split
      · omega
      split <;> omega
    have htail := ih fun q' hq' => hps q' (List.mem_cons_of_mem q hq')
    simp only [List.map_cons, List.sum_cons, List.flatten_cons, List.length_append]
    omega

/-- **What is received is answered by less.** -/
theorem receives_lightens : Lightens net.Receives packetWeight := by
  intro m out h
  cases h with
  | clientSilent c p =>
    exact packetWeight_pos _
  | clientAnswers c p dest r hreq hresp =>
    rw [weight_singleton, packetWeight_response hresp]
    simp [packetWeight, hreq]
  | controller nFD p tr out hexec hout =>
    -- both entry points run the same handlers
    have hcost := ControllerAw2401.onCMPWith_costs
      (w := Sum.elim (fun q => (net.fromController q).elim 0 packetWeight)
        fun q => (net.fromController q).elim 0 packetWeight)
      net.fromController_response net.fromController_log net.mConfig (receiveBuffer p)
      (fun r hr _ => net.fromController_response nFD r hr) tr () (hexec.elim id id)
    rw [getCommand_receiveBuffer, ← ControllerAw2401.sum_sent] at hcost
    refine weight_lt_of_filterMap hout hcost ?_
    unfold packetWeight
    dsimp only
    split
    · decide
    split <;> decide
  | center nFD p tr out hne hexec hout =>
    have hcost := ControlCenter.onCMP_costs
      (w := fun q => (net.fromCenter q).elim 0 packetWeight) net.fromCenter_port (receiveBuffer p)
      (fun r hr _ => net.fromCenter_response nFD r hr) tr () hexec
    rw [getCommand_receiveBuffer] at hcost
    refine weight_lt_of_filterMap hout hcost ?_
    unfold packetWeight
    dsimp only
    rw [if_neg hne]
    split <;> decide
  | centerEnquire nFD p ps out heq hps hprefix hout =>
    have hreply : weight packetWeight (([(nFD, (ControlCenter.enquireLinkReply
        (CmpHeader.ofBytes p)).bytes)].filterMap net.fromCenter : List (InFlight Client)) :
          Multiset (InFlight Client)) ≤ 1 := by
      rw [weight_filterMap, List.map_singleton, List.sum_singleton]
      refine net.fromCenter_response _ _ ?_
      rw [getCommand_bytes]
      exact isAckPacket_or _
    -- what is read in the body is shorter than the packet by the header
    have hbody : ps.flatten.length ≤ p.length - 16 := by
      have hle := hprefix.length_le
      rwa [List.length_drop] at hle
    have hps' := @weight_body_le Client nFD ps hps
    have hout' := weight_mono (w := packetWeight) hout
    rw [← Multiset.coe_add, weight_add, weight_coe (ps.map _)] at hout'
    have hweight : packetWeight (⟨.center nFD, p⟩ : InFlight Client) = max 2 p.length := by
      have hreq : isAckPacket enquireLinkRequest = false := by decide
      simp [packetWeight, heq, hreq]
    rw [hweight]
    omega

/-- **No message storm.** Every delivery makes the flight lighter; so every order of deliveries
ends, after no more of them than the first flight is heavy. -/
theorem deliveries_terminate :
    (∀ s t, Delivery net.Receives s t → weight packetWeight t < weight packetWeight s) ∧
      (WellFounded fun t s => Delivery net.Receives s t) ∧
      ∀ s ts, (s :: ts).IsChain (Delivery net.Receives) → ts.length ≤ weight packetWeight s :=
  ⟨fun _ _ h => h.weight_lt net.receives_lightens, wellFounded_delivery net.receives_lightens,
    fun _ _ h => length_le_weight net.receives_lightens h⟩

/-- One client, on socket 5 of the center. -/
def oneClient : Network Unit where
  centerPeer nFD := if nFD = 5 then some (.inl ()) else none
  controllerPeer _ := none
  mConfig := ⟨[], [], []⟩

/-- The client unbinds. -/
theorem deliveries_terminate_unbind :
    weight packetWeight {(⟨.client (),
        (formatHeader unbindResponse statusRok 7#32).bytes⟩ : InFlight Unit)} <
      weight packetWeight {(⟨.center 5, ControlCenter.unbindPacket⟩ : InFlight Unit)} := by
  refine (deliveries_terminate oneClient).1 _ _ ⟨_, 0, _, rfl, ?_, (add_zero _).symm⟩
  refine .center 5 _ [⟨.printPacket unbindRequest statusRok 7#32 16 "[Center Recv]" 5, ()⟩,
    ⟨.socketSend 5 (formatHeader unbindResponse statusRok 7#32).bytes, (16 : ℤ)⟩,
    ⟨.printPacket unbindResponse statusRok 7#32 16 "[Center Send]" 5, ()⟩] _ (by decide) ?_
    (le_of_eq rfl)
  exact ⟨(), _, rfl, 16, _, rfl, (), _, rfl, rfl, rfl⟩

end Network
end ControllerSystem
