import ControllerSystem.ControlCenter.Handlers

/-!
# The responses of a handler

The response packets a handler sends on the socket a request came from, over every execution of the
handler: whatever the databases, the JSON parser and the sockets return.

`Answers` and `Silent` say that every execution of a program sends exactly one response, or none,
on a socket, and they compose along a program (`Silent.bind`, `Answers.bind_silent`,
`Silent.bind_answers`). The requests whose records are stored are answered whether they are stored
or not (`cmpAccessLog_answers`, `cmpSdkTracker_answers`).
-/

open Words Calls

namespace ControllerSystem.ControlCenter

/-- The response packet an event sends on a socket, as its command and sequence number. -/
def responseOf (nSocket : ℤ) : CenterEvent → Option (Word × Word)
  | ⟨.socketSend nSockFD pBuf, _⟩ =>
    if nSockFD = nSocket ∧ isAckPacket (getCommand pBuf) then
      some (getCommand pBuf, getSequence pBuf)
    else none
  | _ => none

/-- The response packets sent on a socket. -/
def responses (nSocket : ℤ) (tr : List CenterEvent) : List (Word × Word) :=
  tr.filterMap (responseOf nSocket)

/-- Every execution sends exactly this response on the socket. -/
def Answers {α : Type} (nSocket : ℤ) (nCommand nSequence : Word) (p : CenterProg α) : Prop :=
  ∀ tr a, p.Exec tr a → responses nSocket tr = [(nCommand, nSequence)]

/-- No execution sends a response on the socket. -/
def Silent {α : Type} (nSocket : ℤ) (p : CenterProg α) : Prop :=
  ∀ tr a, p.Exec tr a → responses nSocket tr = []

variable {α β : Type} {nSocket : ℤ} {nCommand nSequence : Word}

/-! ### Composition -/

theorem Silent.ret (a : α) : Silent nSocket (.ret a) :=
  Prog.Emits.ret (S := (· = [])) rfl

theorem Silent.bind {p : CenterProg α} {f : α → CenterProg β} (hp : Silent nSocket p)
    (hf : ∀ a, Silent nSocket (f a)) : Silent nSocket (p >>= f) :=
  Prog.Emits.nil_bind (S := (· = [])) hp hf

theorem Answers.bind_silent {p : CenterProg α} {f : α → CenterProg β}
    (hp : Answers nSocket nCommand nSequence p) (hf : ∀ a, Silent nSocket (f a)) :
    Answers nSocket nCommand nSequence (p >>= f) :=
  Prog.Emits.bind_nil (S := (· = [(nCommand, nSequence)])) hp hf

theorem Silent.bind_answers {p : CenterProg α} {f : α → CenterProg β} (hp : Silent nSocket p)
    (hf : ∀ a, Answers nSocket nCommand nSequence (f a)) :
    Answers nSocket nCommand nSequence (p >>= f) :=
  Prog.Emits.nil_bind (S := (· = [(nCommand, nSequence)])) hp hf

/-- A call that is no response on the socket. -/
theorem Silent.call {c : CenterCall} {k : c.Res → CenterProg α}
    (hc : ∀ r, responseOf nSocket ⟨c, r⟩ = none) (hk : ∀ r, Silent nSocket (k r)) :
    Silent nSocket (.call c k) := Prog.Emits.call_none (S := (· = [])) hc hk

/-- The response itself. -/
theorem Answers.send (nSocket : ℤ) (pBuf : Bytes) {k : ℤ → CenterProg α}
    (hresp : isAckPacket (getCommand pBuf))
    (hk : ∀ r, Silent nSocket (k r)) :
    Answers nSocket (getCommand pBuf) (getSequence pBuf) (.call (.socketSend nSocket pBuf) k) := by
  have hsent : ∀ r, responseOf nSocket ⟨.socketSend nSocket pBuf, r⟩ =
      some (getCommand pBuf, getSequence pBuf) := fun _ => if_pos ⟨rfl, hresp⟩
  refine Prog.Emits.call_some (S := (· = [(getCommand pBuf, getSequence pBuf)])) hsent fun r => ?_
  intro tr a h
  have hnone : tr.filterMap (responseOf nSocket) = [] := hk r tr a h
  rw [hnone]

/-- A packet that is no response, on whatever socket. -/
theorem Silent.send {nSockFD : ℤ} {pBuf : Bytes} {k : ℤ → CenterProg α}
    (hreq : isAckPacket (getCommand pBuf) = false) (hk : ∀ r, Silent nSocket (k r)) :
    Silent nSocket (.call (.socketSend nSockFD pBuf) k) :=
  .call (fun r => by simp [responseOf, hreq]) hk

/-! ### Programs that send nothing -/

/-- No execution sends anything. -/
def Mute {α : Type} (p : CenterProg α) : Prop := p.Emits sent (· = [])

theorem Mute.ret (a : α) : Mute (.ret a) := Prog.Emits.ret rfl

theorem Mute.call {c : CenterCall} {k : c.Res → CenterProg α} (hc : ∀ r, sent ⟨c, r⟩ = none)
    (hk : ∀ r, Mute (k r)) : Mute (.call c k) := Prog.Emits.call_none hc hk

theorem Mute.bind {p : CenterProg α} {f : α → CenterProg β} (hp : Mute p)
    (hf : ∀ a, Mute (f a)) : Mute (p >>= f) := Prog.Emits.nil_bind hp hf

/-- What is not sent is no response. -/
theorem Mute.silent {p : CenterProg α} (hp : Mute p) : Silent nSocket p := by
  refine Prog.Emits.nil_of_nil hp fun e he => ?_
  obtain ⟨c, r⟩ := e
  cases c with
  | socketSend => cases he
  | _ => rfl

theorem printPacket_mute (c st q : Word) (n : ℤ) (d : String) (fd : ℤ) :
    Mute (printPacket c st q n d fd) :=
  .call (fun _ => rfl) fun _ => .ret _

theorem printLog_mute (m : Bytes) (d : String) : Mute (printLog m d) :=
  .call (fun _ => rfl) fun _ => .ret _

theorem controllerSqlExec_mute (sql : ControllerSql) : Mute (controllerSqlExec sql) :=
  .call (fun _ => rfl) fun _ => .ret _

theorem getControllerSocketFD_mute (strControllerID : Bytes) :
    Mute (getControllerSocketFD strControllerID) :=
  .call (fun _ => rfl) fun _ => .ret _

theorem login_mute (strAccount strPassword : Bytes) : Mute (login strAccount strPassword) :=
  .call (fun _ => rfl) fun _ => .ret _

theorem insertLog_mute (nType : ℤ) (strData : Bytes) : Mute (insertLog nType strData) := by
  refine insertLog_cases (P := Mute) (fun _ strCollection => ?_) fun _ => ?_
  · exact .call (fun _ => rfl) fun _ => .ret _
  · exact (printLog_mute _ _).bind fun _ => .ret _

theorem signupInsert_mute (strJSON : Bytes) : Mute (signupInsert strJSON) := by
  unfold signupInsert
  split
  · exact .ret _
  refine .call (fun _ => rfl) fun root => ?_
  rcases root with _ | root
  · exact (printLog_mute _ _).bind fun _ => .ret _
  simp only [Prog.bind_eq, Prog.ret_bind]
  split
  · -- the object has an id: look for it, then for the application
    refine Mute.bind (.call (fun _ => rfl) fun _ => .ret _) fun found => ?_
    split
    · exact .ret _
    split
    · exact Mute.bind (.call (fun _ => rfl) fun _ => .ret _) fun _ => .ret _
    · exact (printLog_mute _ _).bind fun _ => .ret _
  · exact (printLog_mute _ _).bind fun _ => .ret _

/-! ### The packets sent -/

/-- A response without a body. -/
theorem sendCommand_answers (nStatus : Word) :
    Answers nSocket (genericNack ||| nCommand) nSequence
      (sendCommand nSocket nCommand nStatus nSequence true) := by
  have hsend := Answers.send nSocket
    (formatHeader (genericNack ||| nCommand) nStatus nSequence).bytes
    (k := fun nRet => do
      printPacket (genericNack ||| nCommand) nStatus nSequence nRet "[Center Send]" nSocket
      pure nRet)
    (by rw [getCommand_bytes]; exact isAckPacket_or nCommand)
    fun r => (printPacket_mute _ _ _ _ _ _).silent.bind fun _ => .ret r
  rwa [getCommand_bytes, getSequence_bytes] at hsend

/-- A forwarded request is no response. -/
theorem forwardRequest_silent {nFD : ℤ} {fields : List Bytes} {strMsg : Bytes}
    (hreq : isAckPacket nCommand = false) :
    Silent nSocket (forwardRequest nFD nCommand fields strMsg) := by
  refine .call (fun _ => rfl) fun n => .call (fun _ => rfl) fun _ => .send ?_ fun nRet => ?_
  · rw [getCommand_append]
    exact hreq
  · exact (printLog_mute _ _).silent.bind fun _ => .ret _

/-! ### The handlers -/

section Handlers

variable (pData : Bytes)

theorem cmpAccessLog_answers :
    Answers nSocket (genericNack ||| nCommand) nSequence
      (cmpAccessLog nSocket nCommand nSequence pData) := by
  unfold cmpAccessLog
  dsimp only
  split
  · refine (printLog_mute _ _).silent.bind_answers fun _ => ?_
    refine (insertLog_mute _ _).silent.bind_answers fun strOID => ?_
    split
    · refine (sendCommand_answers _).bind_silent fun _ => ?_
      exact (printLog_mute _ _).silent.bind fun _ => .ret _
    · refine (sendCommand_answers _).bind_silent fun _ => ?_
      exact (printLog_mute _ _).silent.bind fun _ => .ret _
  · exact (sendCommand_answers _).bind_silent fun _ => .ret _

theorem cmpSdkTracker_answers :
    Answers nSocket (genericNack ||| nCommand) nSequence
      (cmpSdkTracker nSocket nCommand nSequence pData) := by
  unfold cmpSdkTracker
  dsimp only
  split
  · refine (sendCommand_answers _).bind_silent fun _ => ?_
    refine (insertLog_mute _ _).silent.bind fun strOID => ?_
    split <;> exact (printLog_mute _ _).silent.bind fun _ => .ret _
  · exact (sendCommand_answers _).bind_silent fun _ => .ret _

end Handlers

/-- An unbind request. -/
def unbindPacket : Bytes := CmpHeader.bytes ⟨16#32, unbindRequest, statusRok, 7#32⟩

end ControllerSystem.ControlCenter
