import ControllerSystem.Controller.Bound
import ControllerSystem.Body

/-!
# Access logs on their way to the center

A client hands an access log to the Controller, is told `STATUS_ROK`, and the log goes on to the
center. The threads and the connection to the center are those of `Controller.Threads`; beside them
there is the descriptor `m_nSocketFD` of `cmpClient`, which `start` sets and `socketClose` takes
away, and, for each packet received, whether its log has been acknowledged and whether the center
has been handed all of it.

Between the answer and the send the connection may go down, and the send may fail; the handler keeps
nothing for later. It reads the descriptor of `cmpClient` and sends on what it has read
(`logProtocol`), so `acknowledged_handed` is about this descriptor and the results of `send`:
nothing is lost as long as the connection is up, stays the same meanwhile, and takes the whole
packet.
-/

open Words Calls KeepAlive

namespace ControllerSystem.Controller

/-! ### Logs -/

/-- The body of an access log, as it goes on to the center. -/
def logBody (pData : Bytes) : Bytes :=
  let rData := (parseBody accessLogRequest pData).2
  rData.get "type" ++ rData.get "data" ++ [0]

/-- The body has all fields of an access log. -/
def LogAccepted (pData : Bytes) : Prop :=
  Accepted ["type", "data"] (parseBody accessLogRequest pData)

instance (pData : Bytes) : Decidable (LogAccepted pData) := inferInstanceAs (Decidable (_ ∧ _))

/-- A positive answer to an access log. -/
def IsLogAck (pBuf : Bytes) : Prop :=
  getCommand pBuf = accessLogResponse ∧ getStatus pBuf = statusRok

instance (pBuf : Bytes) : Decidable (IsLogAck pBuf) := inferInstanceAs (Decidable (_ ∧ _))

/-- The packet for the center with the log of `pData`. -/
def IsLogOf (pData pBuf : Bytes) : Prop :=
  getCommand pBuf = accessLogRequest ∧ pBuf.drop sizeofCmpHeader = logBody pData

instance (pData pBuf : Bytes) : Decidable (IsLogOf pData pBuf) :=
  inferInstanceAs (Decidable (_ ∧ _))

/-! ### The state -/

structure AccessLogs where
  threads : Threads
  /-- The descriptor of `cmpClient`. -/
  m_nSocketFD : ℤ
  /-- How many packets the threads have received. -/
  received : ℕ
  packet : ℕ → Bytes
  /-- The packet the thread of a connection has received last. -/
  current : ℕ → Option ℕ
  acknowledged : ℕ → Bool
  handed : ℕ → Bool
  /-- The descriptor of `cmpClient` has not been written since the handler of a packet has read it,
  or, before that, since the packet came. -/
  steady : ℕ → Bool

inductive AccessLogsLabel
  /-- A step of the threads. -/
  | thread (l : ThreadsLabel)
  /-- `createSocket` of `start` has got a descriptor, or -1. -/
  | createSocket (nSocketFD : ℤ)
  /-- `connectServer` of `start` has failed, and `socketClose` follows. -/
  | connectFail

namespace AccessLogs

variable (s : AccessLogs)

/-- What the methods of `cmpClient` return. -/
def Agrees : ControllerEvent → Prop
  | ⟨.getSocketfd, nSocketFD⟩ => nSocketFD = s.m_nSocketFD
  | ⟨.isValidSocketFD, bValid⟩ => bValid = decide (s.m_nSocketFD ≠ -1)
  | _ => True

instance : DecidablePred s.Agrees := fun e => by
  unfold Agrees
  split <;> infer_instance

/-- The descriptor denotes a connection to the center. -/
def Connected (nSocketFD : ℤ) : Prop :=
  (s.threads.sockets.conn nSocketFD).any s.threads.toCenter = true

instance (nSocketFD : ℤ) : Decidable (s.Connected nSocketFD) :=
  inferInstanceAs (Decidable (_ = true))

/-- What a call of the thread that handles packet `i` means for its log. -/
def note (i : ℕ) : ControllerEvent → AccessLogs
  | ⟨.clientSend _ pBuf, _⟩ =>
    if IsLogAck pBuf then { s with acknowledged := Function.update s.acknowledged i true } else s
  | ⟨.centerSend nSocketFD pBuf, nRet⟩ =>
    if IsLogOf (s.packet i) pBuf ∧ s.Connected nSocketFD ∧ (nRet : ℤ) = pBuf.length then
      { s with handed := Function.update s.handed i true }
    else s
  | ⟨.getSocketfd, _⟩ => { s with steady := Function.update s.steady i true }
  | _ => s

/-- The same for a call of any worker. -/
def noteBy (w : Worker) (e : ControllerEvent) : AccessLogs :=
  match w with
  | .client c =>
    match s.current c with
    | some i => s.note i e
    | none => s
  | _ => s

/-- A thread has received a packet. -/
def receive (c : ℕ) (pData : Bytes) : AccessLogs :=
  { s with
    received := s.received + 1
    packet := Function.update s.packet s.received pData
    current := Function.update s.current c (some s.received)
    steady := Function.update s.steady s.received true }

/-- The descriptor of `cmpClient` is written. -/
def relink (nSocketFD : ℤ) : AccessLogs :=
  { s with m_nSocketFD := nSocketFD, steady := fun _ => false }

/-- The call of a turn, if the methods of `cmpClient` return this. -/
def turnOf (mConfig : Config) : ThreadsLabel → Option (Worker × ControllerEvent)
  | .call w ch => (turn (s.threads.program w) s.threads.device ch).map fun r => (w, r.2.2)
  | .tick ch => (turn (enquireLinkRound mConfig) s.threads.device ch).map fun r =>
    (.keepAlive, r.2.2)
  | _ => none

/-- What a step of the threads means for the logs and for `m_nSocketFD`. -/
def after (mConfig : Config) : ThreadsLabel → Option AccessLogs
  | .receive c pData => some (s.receive c pData)
  -- `connectServer` connects the socket that has been created
  | .connect nSocketFD => if nSocketFD = s.m_nSocketFD then some s else none
  -- the thread of the connection to the center closes through `cmpClient`
  | .socketClose c =>
    if s.threads.toCenter c ∧ s.threads.sockets.fd c = some s.m_nSocketFD then
      some (s.relink (-1))
    else some s
  | l =>
    match s.turnOf mConfig l with
    | some (w, e) => if s.Agrees e then some (s.noteBy w e) else none
    | none => some s

end AccessLogs

def accessLogsStep (mConfig : Config) (s : AccessLogs) : AccessLogsLabel → Option AccessLogs
  | .thread l => ((threadsSystem mConfig).step s.threads l).bind fun t =>
    (s.after mConfig l).map fun s' => { s' with threads := t }
  | .createSocket nSocketFD => some (s.relink nSocketFD)
  | .connectFail => some (s.relink (-1))

/-- The Controller, call by call, with the logs it has been given. -/
def accessLogsSystem (mConfig : Config) : LTS.System AccessLogs AccessLogsLabel where
  init := ⟨(threadsSystem mConfig).init, -1, 0, fun _ => [], fun _ => none, fun _ => false,
    fun _ => false, fun _ => false⟩
  step := accessLogsStep mConfig

/-! ### What a handler does -/

/-- How far a handler has come with its log. -/
inductive LogStage
  | received
  | acknowledged
  /-- It has read the descriptor of `cmpClient`. -/
  | asked (nSocketFD : ℤ)
  | sent
  deriving DecidableEq

/-- The log has been acknowledged, and is still to be sent. -/
def LogStage.Pending : LogStage → Prop
  | .acknowledged => True
  | .asked _ => True
  | _ => False

/-- The order of the calls: the answer, the question for the descriptor, and then the log of the
packet on this descriptor, with nothing else sent to the center in between. -/
def logProtocol (pData : Bytes) : LogStage → ControllerEvent → Option LogStage
  | .received, ⟨.clientSend _ pBuf, _⟩ => some (if IsLogAck pBuf then .acknowledged else .received)
  | .acknowledged, ⟨.getSocketfd, nSocketFD⟩ => some (.asked nSocketFD)
  | .acknowledged, ⟨.centerSend _ _, _⟩ => none
  | .asked _, ⟨.getSocketfd, _⟩ => none
  | .asked nSocketFD, ⟨.centerSend nSocketFD' pBuf, _⟩ =>
    if nSocketFD' = nSocketFD ∧ IsLogOf pData pBuf then some .sent else none
  | q, _ => some q

/-- The program is at a stage, and does not end between answer and log. -/
abbrev FollowsLog {α : Type} (pData : Bytes) (q : LogStage) (p : ControllerProg α) : Prop :=
  p.Follows (logProtocol pData) (fun _ => True) (¬ LogStage.Pending ·) q

/-- The send of the log of `pData` to the center. -/
def SendsLog (pData : Bytes) : ControllerCall → Prop
  | .centerSend _ pBuf => IsLogOf pData pBuf
  | _ => False

/-- No positive answer to an access log. -/
def NoLogAck : ControllerCall → Prop
  | .clientSend _ pBuf => ¬ IsLogAck pBuf
  | _ => True

/-- The log fits into a packet for the center. -/
def LogFits (pData : Bytes) : Prop := (logBody pData).length ≤ maxDataLen

section Programs

variable {α : Type} {nSocket : ℤ} {nCommand nSequence : Word} {mConfig : Config} {pData : Bytes}

/-- A call that does not send the log leaves it to be sent. -/
theorem pending_of_not_sends {q q' : LogStage} {c : ControllerCall} {r : c.Res} (hq : q.Pending)
    (hstep : logProtocol pData q ⟨c, r⟩ = some q') (hc : ¬ SendsLog pData c) : q'.Pending := by
  cases q with
  | received => exact hq.elim
  | acknowledged =>
    cases c with
    | centerSend => cases hstep
    | _ =>
      cases hstep
      trivial
  | asked nSocketFD =>
    cases c with
    | centerSend nSocketFD' pBuf =>
      change (if _ ∧ _ then some LogStage.sent else none) = some q' at hstep
      rw [if_neg fun hlog => hc hlog.2] at hstep
      cases hstep
    | getSocketfd => cases hstep
    | _ =>
      cases hstep
      trivial
  | sent => exact hq.elim

/-- Behind the answer the send is still to come. -/
theorem FollowsLog.meets {q : LogStage} {p : ControllerProg α} (h : FollowsLog pData q p)
    (hq : q.Pending) : p.Meets (SendsLog pData) := by
  induction p generalizing q with
  | ret a => exact absurd hq h
  | call c k ih =>
    by_cases hc : SendsLog pData c
    · exact .inl hc
    · refine .inr fun r => ?_
      obtain ⟨q', hstep, hk⟩ := h r trivial
      exact ih r hk (pending_of_not_sends hq hstep hc)

/-- A program that gives no such answer. -/
theorem followsLog_of_forall {p : ControllerProg α} (hp : p.Forall NoLogAck) :
    FollowsLog pData .received p := by
  refine Prog.Forall.follows (fun c r hc => ?_) id hp
  cases c with
  | clientSend nSocketFD pBuf => exact congrArg some (if_neg hc)
  | _ => rfl

/-- A status that is no positive answer to an access log. -/
theorem sendCommandtoClient_noLogAck {nStatus : Word}
    (hno : genericNack ||| nCommand ≠ accessLogResponse ∨ nStatus ≠ statusRok) :
    (sendCommandtoClient nSocket nCommand nStatus nSequence true).Forall NoLogAck := by
  refine ⟨fun hack => ?_, fun _ => ⟨trivial, fun _ => trivial⟩⟩
  obtain ⟨hcommand, hstatus⟩ := hack
  rw [getCommand_bytes] at hcommand
  rw [getStatus_bytes] at hstatus
  exact hno.elim (absurd hcommand) (absurd hstatus)

theorem CenterRequestCall.noLogAck {c : ControllerCall} (hc : CenterRequestCall c) :
    NoLogAck c := by
  cases hc <;> trivial

theorem LinkCall.noLogAck {c : ControllerCall} (hc : LinkCall c) : NoLogAck c := by
  cases hc <;> trivial

theorem cmpBind_noLogAck (hcommand : nCommand = bindRequest) :
    (cmpBind nSocket nCommand nSequence pData).Forall NoLogAck := by
  have hno : genericNack ||| nCommand ≠ accessLogResponse := by
    rw [hcommand]
    decide
  unfold cmpBind
  dsimp only
  split
  · exact ⟨trivial, fun _ => ⟨trivial, fun _ =>
      (sendCommandtoClient_noLogAck (.inl hno)).bind fun _ => trivial⟩⟩
  · exact (sendCommandtoClient_noLogAck (.inl hno)).bind fun _ => trivial

/-- The answer: whatever the socket returns, the log is acknowledged. -/
theorem logAck_follows :
    (sendCommandtoClient nSocket accessLogRequest statusRok nSequence true).Follows
      (logProtocol pData) (fun _ => True) (· = .acknowledged) .received := by
  have hcommand : genericNack ||| accessLogRequest = accessLogResponse := by decide
  have hack :
      IsLogAck (formatHeader (genericNack ||| accessLogRequest) statusRok nSequence).bytes := by
    rw [IsLogAck, getCommand_bytes, getStatus_bytes]
    exact ⟨hcommand, rfl⟩
  exact fun nRet _ => ⟨.acknowledged, congrArg some (if_pos hack), fun _ _ =>
    ⟨.acknowledged, rfl, rfl⟩⟩

/-- The request: a log that fits is sent on the descriptor, whatever comes of it. -/
theorem cmpAccessLogRequest_follows {strType strLog : Bytes}
    (hbody : strType ++ strLog ++ [0] = logBody pData) (hfits : LogFits pData) :
    FollowsLog pData (.asked nSocket) (cmpAccessLogRequest mConfig nSocket strType strLog) := by
  have hfit : ¬ maxDataLen < (strType ++ strLog).length + 1 := by
    rw [LogFits, ← hbody, List.length_append] at hfits
    exact Nat.not_lt.mpr hfits
  refine fun n _ => ⟨_, rfl, fun _ _ => ⟨_, rfl, ?_⟩⟩
  simp only [Prog.bind_eq, Prog.ret_bind, if_neg hfit]
  refine fun nRet _ => ⟨.sent, if_pos ⟨rfl, getCommand_append _ _, ?_⟩, fun _ _ => ⟨.sent, rfl, id⟩⟩
  rw [← hbody]
  exact List.drop_left' (CmpHeader.length_bytes _)

/-- **`cmpAccessLog`** acknowledges an accepted log and then sends it. -/
theorem cmpAccessLog_follows (hfits : LogAccepted pData → LogFits pData) :
    FollowsLog pData .received
      (cmpAccessLog mConfig nSocket accessLogRequest nSequence pData) := by
  unfold cmpAccessLog
  dsimp only
  split
  · next haccept =>
    have hfit : LogFits pData := hfits ⟨haccept.1, by simpa using haccept.2⟩
    refine logAck_follows.bind fun nRet q hq => ?_
    rw [hq]
    refine fun nSocketFD _ => ⟨.asked nSocketFD, rfl, ?_⟩
    exact (cmpAccessLogRequest_follows rfl hfit).bind fun _ _ hsent => hsent
  · exact followsLog_of_forall
      ((sendCommandtoClient_noLogAck (.inr (by decide))).bind fun _ => trivial)

theorem cmpRequest_follows
    (hfits : nCommand = accessLogRequest → LogAccepted pData → LogFits pData) :
    FollowsLog pData .received (cmpRequest mConfig nSocket nCommand nSequence pData) := by
  have hunbind : genericNack ||| unbindRequest ≠ accessLogResponse := by decide
  apply cmpRequest_cases (P := fun p => FollowsLog pData .received p)
  case bind => exact fun hcommand => followsLog_of_forall (cmpBind_noLogAck hcommand)
  case unbind =>
    rintro rfl
    exact followsLog_of_forall ⟨trivial, fun _ =>
      (sendCommandtoClient_noLogAck (.inl hunbind)).bind fun _ => trivial⟩
  case accessLog =>
    rintro rfl
    exact cmpAccessLog_follows (hfits rfl)
  case enquireLink =>
    exact fun _ => followsLog_of_forall
      ((sendCommandtoCenter_calls _ _).mono fun _ hc => hc.noLogAck)
  case unknow =>
    exact followsLog_of_forall
      ((sendCommandtoClient_noLogAck (.inr (by decide))).bind fun _ => trivial)

/-- **What a packet does to its log.** The handler of a packet acknowledges nothing but an access
log, and then sends this. -/
theorem onCMPWith_follows (hfits : getCommand pData = accessLogRequest → LogAccepted pData →
    LogFits pData) {nFD : ℤ} :
    FollowsLog pData .received (onCMPWith (cmpRequest mConfig) nFD pData) := by
  refine fun _ _ => ⟨.received, rfl, ?_⟩
  simp only [Prog.bind_eq, Prog.ret_bind]
  split
  · exact followsLog_of_forall (ackPacket_calls.mono fun _ hc => hc.noLogAck)
  split
  · exact followsLog_of_forall
      ((sendCommandtoClient_noLogAck (.inr (by decide))).bind fun _ => trivial)
  · exact (cmpRequest_follows hfits).bind fun _ _ hend => hend

/-- A send to the center returns what the socket says. -/
theorem Turns.centerSend {p p' : ControllerProg Unit} {d d' : Device} {ch : DeviceChoice}
    {nSocketFD : ℤ} {pBuf : Bytes} {nRet : ℤ}
    (h : Turns p d ch p' d' ⟨.centerSend nSocketFD pBuf, nRet⟩) :
    next p = some (.centerSend nSocketFD pBuf) ∧ nRet = ch.number := by
  cases h
  exact ⟨rfl, rfl⟩

/-- What is left behind a turn follows the automaton from the next stage. -/
theorem Turns.followsLog {p p' : ControllerProg Unit} {d d' : Device} {ch : DeviceChoice}
    {e : ControllerEvent} {q : LogStage} (h : Turns p d ch p' d' e) (hp : FollowsLog pData q p) :
    ∃ q', logProtocol pData q e = some q' ∧ FollowsLog pData q' p' := by
  refine h.follows hp fun v v' q' hload => ?_
  -- the automaton does not see `vEnquireLink`
  have hstay : logProtocol pData q ⟨.loadEnquireLink, v⟩ = some q := by cases q <;> rfl
  rw [Option.some.inj (hstay.symm.trans hload)]

end Programs

/-! ### What a step does -/

/-- When a handler sends its log, the connection to the center is up, its descriptor has not been
written since the handler has read it, and `send` takes the whole packet. A log that is accepted
fits into a packet. -/
def HandsOver (s : AccessLogs) : AccessLogsLabel → Prop
  | .thread (.receive _ pData) =>
    getCommand pData = accessLogRequest → LogAccepted pData → LogFits pData
  | .thread (.call (.client c) ch) => ∀ nSocketFD pBuf,
      next (s.threads.program (.client c)) = some (.centerSend nSocketFD pBuf) →
      getCommand pBuf = accessLogRequest →
      s.Connected s.m_nSocketFD ∧ (s.current c).all s.steady = true ∧ ch.number = pBuf.length
  | _ => True

namespace AccessLogs

/-- The log of a packet has been handed to the center, or its handler has this send still to make,
on every path. -/
def Kept (s : AccessLogs) (i : ℕ) : Prop :=
  s.handed i = true ∨
    ∃ c, s.current c = some i ∧ (s.threads.program (.client c)).Meets (SendsLog (s.packet i))

/-- What a stage means. -/
def At (s : AccessLogs) (i : ℕ) : LogStage → Prop
  | .received => s.acknowledged i = false
  | .acknowledged => True
  | .asked nSocketFD => s.steady i = true → nSocketFD = s.m_nSocketFD
  | .sent => s.handed i = true

/-- Each handler is at a stage of its packet, and no packet is left behind between its answer and
its log. -/
structure Tracked (s : AccessLogs) : Prop where
  wellformed : s.threads.Wellformed
  fresh : ∀ c, s.threads.sockets.opened ≤ c → s.current c = none
  lt : ∀ c i, s.current c = some i → i < s.received
  inj : ∀ c c' i, s.current c = some i → s.current c' = some i → c = c'
  unseen : ∀ i, s.received ≤ i → s.acknowledged i = false
  follows : ∀ c i, s.current c = some i →
    ∃ q, FollowsLog (s.packet i) q (s.threads.program (.client c)) ∧ s.At i q
  done : ∀ i, s.acknowledged i = true → s.handed i = true ∨ ∃ c, s.current c = some i

variable {mConfig : Config} {s s' : AccessLogs}

/-- Nothing acknowledged is lost. -/
theorem Tracked.kept (h : s.Tracked) {i : ℕ} (hack : s.acknowledged i = true) : s.Kept i := by
  rcases h.done i hack with hhanded | ⟨c, hc⟩
  · exact .inl hhanded
  obtain ⟨q, hfollows, hat⟩ := h.follows c i hc
  cases q with
  | received => exact absurd hack (Bool.eq_false_iff.mp hat)
  | acknowledged => exact .inr ⟨c, hc, hfollows.meets trivial⟩
  | asked nSocketFD => exact .inr ⟨c, hc, hfollows.meets trivial⟩
  | sent => exact .inl hat

/-- Whoever writes the descriptor, disturbs the handlers that have read it. -/
theorem Tracked.relink (h : s.Tracked) (nSocketFD : ℤ) : (s.relink nSocketFD).Tracked where
  wellformed := h.wellformed
  fresh := h.fresh
  lt := h.lt
  inj := h.inj
  unseen := h.unseen
  follows c i hc := by
    obtain ⟨q, hfollows, hat⟩ := h.follows c i hc
    refine ⟨q, hfollows, ?_⟩
    cases q with
    | asked => exact fun hsteady => absurd hsteady Bool.false_ne_true
    | _ => exact hat
  done := h.done

/-- Steps that concern no handler. -/
theorem Tracked.frame (h : s.Tracked) {t : Threads} (hwf : t.Wellformed)
    (hopened : s.threads.sockets.opened ≤ t.sockets.opened)
    (hprogram : ∀ c i, s.current c = some i →
      t.program (.client c) = s.threads.program (.client c)) :
    Tracked { s with threads := t } where
  wellformed := hwf
  fresh c hc := h.fresh c (Nat.le_trans hopened hc)
  lt := h.lt
  inj := h.inj
  unseen := h.unseen
  follows c i hc := by
    obtain ⟨q, hfollows, hat⟩ := h.follows c i hc
    refine ⟨q, ?_, ?_⟩
    · show FollowsLog (s.packet i) q (t.program (.client c))
      rw [hprogram c i hc]
      exact hfollows
    · cases q <;> exact hat
  done := h.done

/-- A new connection handles nothing yet. -/
theorem Tracked.opened (h : s.Tracked) {f : ℤ} {toCenter : Bool} {queue : List Notice}
    (hwf : (s.threads.opened f toCenter queue).Wellformed) :
    Tracked { s with threads := s.threads.opened f toCenter queue } := by
  refine h.frame hwf (Nat.le_succ _) fun c i hc => ?_
  refine opened_program_of_ne s.threads f toCenter queue ?_
  rintro rfl
  rw [h.fresh _ (Nat.le_refl _)] at hc
  cases hc

/-- A handler that is done is not between answer and log. -/
theorem Tracked.idle (h : s.Tracked) {c i : ℕ} (hc : s.current c = some i)
    (hidle : Idle (s.threads.program (.client c)) = true) (hack : s.acknowledged i = true) :
    s.handed i = true := by
  obtain ⟨q, hfollows, hat⟩ := h.follows c i hc
  cases hprogram : s.threads.program (.client c) with
  | call c' k =>
    rw [hprogram] at hidle
    cases hidle
  | ret a =>
    rw [hprogram] at hfollows
    cases q with
    | received => exact absurd hack (Bool.eq_false_iff.mp hat)
    | acknowledged => exact absurd trivial hfollows
    | asked => exact absurd trivial hfollows
    | sent => exact hat

/-- A packet begins. -/
theorem Tracked.receive (h : s.Tracked) {c : ℕ} {nFD : ℤ} {pData : Bytes} {t : Threads}
    (hfd : s.threads.sockets.fd c = some nFD)
    (hidle : Idle (s.threads.program (.client c)) = true) (hwf : t.Wellformed)
    (hsockets : t.sockets = s.threads.sockets)
    (hprogram : t.program = Function.update s.threads.program (.client c)
      (onCMPWith (cmpRequest mConfig) nFD pData))
    (hfits : getCommand pData = accessLogRequest → LogAccepted pData → LogFits pData) :
    Tracked { s.receive c pData with threads := t } where
  wellformed := hwf
  fresh := by
    intro c' hc'
    change t.sockets.opened ≤ c' at hc'
    rw [hsockets] at hc'
    have hne : c' ≠ c := Nat.ne_of_gt (Nat.lt_of_lt_of_le (h.wellformed.lt_opened hfd) hc')
    exact (Function.update_of_ne hne _ _).trans (h.fresh c' hc')
  lt := by
    intro c' i hc'
    show i < s.received + 1
    change Function.update s.current c (some s.received) c' = some i at hc'
    rcases eq_or_ne c' c with rfl | hne
    · rw [Function.update_self] at hc'
      obtain rfl := Option.some.inj hc'
      exact Nat.lt_succ_self _
    · rw [Function.update_of_ne hne] at hc'
      exact Nat.lt_succ_of_lt (h.lt c' i hc')
  inj := by
    intro c₁ c₂ i h₁ h₂
    change Function.update s.current c (some s.received) c₁ = some i at h₁
    change Function.update s.current c (some s.received) c₂ = some i at h₂
    rcases eq_or_ne c₁ c with hc₁ | hne₁ <;> rcases eq_or_ne c₂ c with hc₂ | hne₂
    · exact hc₁.trans hc₂.symm
    -- the new packet has a number of its own
    · rw [hc₁, Function.update_self] at h₁
      rw [Function.update_of_ne hne₂] at h₂
      obtain rfl := Option.some.inj h₁
      exact absurd (h.lt c₂ _ h₂) (Nat.lt_irrefl _)
    · rw [Function.update_of_ne hne₁] at h₁
      rw [hc₂, Function.update_self] at h₂
      obtain rfl := Option.some.inj h₂
      exact absurd (h.lt c₁ _ h₁) (Nat.lt_irrefl _)
    · rw [Function.update_of_ne hne₁] at h₁
      rw [Function.update_of_ne hne₂] at h₂
      exact h.inj c₁ c₂ i h₁ h₂
  unseen i hi := h.unseen i (Nat.le_of_succ_le hi)
  follows := by
    intro c' i hc'
    change Function.update s.current c (some s.received) c' = some i at hc'
    show ∃ q, FollowsLog (Function.update s.packet s.received pData i) q
      (t.program (.client c')) ∧ _
    rw [hprogram]
    rcases eq_or_ne c' c with rfl | hne
    · rw [Function.update_self] at hc' ⊢
      obtain rfl := Option.some.inj hc'
      rw [Function.update_self]
      exact ⟨.received, onCMPWith_follows hfits, h.unseen _ (Nat.le_refl _)⟩
    · rw [Function.update_of_ne hne] at hc'
      obtain ⟨q, hfollows, hat⟩ := h.follows c' i hc'
      have hworker : Worker.client c' ≠ Worker.client c := fun heq => hne (Worker.client.inj heq)
      rw [Function.update_of_ne hworker, Function.update_of_ne (Nat.ne_of_lt (h.lt c' i hc'))]
      refine ⟨q, hfollows, ?_⟩
      cases q with
      | asked =>
        intro hsteady
        change Function.update s.steady s.received true i = true at hsteady
        rw [Function.update_of_ne (Nat.ne_of_lt (h.lt c' i hc'))] at hsteady
        exact hat hsteady
      | _ => exact hat
  done := by
    intro i hack
    rcases h.done i hack with hhanded | ⟨c', hc'⟩
    · exact .inl hhanded
    · rcases eq_or_ne c' c with rfl | hne
      · exact .inl (h.idle hc' hidle hack)
      · exact .inr ⟨c', (Function.update_of_ne hne _ _).trans hc'⟩

/-- A note is about one packet. -/
theorem note_eq (s : AccessLogs) (i : ℕ) (e : ControllerEvent) :
    ∃ acknowledged handed steady,
      s.note i e = { s with acknowledged := acknowledged, handed := handed, steady := steady } ∧
      (∀ j, j ≠ i → acknowledged j = s.acknowledged j ∧ handed j = s.handed j ∧
        steady j = s.steady j) ∧
      (s.handed i = true → handed i = true) := by
  obtain ⟨c, r⟩ := e
  cases c with
  | clientSend nSocket pBuf =>
    by_cases hack : IsLogAck pBuf
    · exact ⟨_, s.handed, s.steady, if_pos hack,
        fun j hne => ⟨Function.update_of_ne hne _ _, rfl, rfl⟩, id⟩
    · exact ⟨_, _, _, if_neg hack, fun j _ => ⟨rfl, rfl, rfl⟩, id⟩
  | centerSend nSocketFD pBuf =>
    by_cases hsent : IsLogOf (s.packet i) pBuf ∧ s.Connected nSocketFD ∧ (r : ℤ) = pBuf.length
    · exact ⟨s.acknowledged, _, s.steady, if_pos hsent,
        fun j hne => ⟨rfl, Function.update_of_ne hne _ _, rfl⟩, fun _ => Function.update_self _ _ _⟩
    · exact ⟨_, _, _, if_neg hsent, fun j _ => ⟨rfl, rfl, rfl⟩, id⟩
  | getSocketfd =>
    exact ⟨s.acknowledged, s.handed, _, rfl,
      fun j hne => ⟨rfl, rfl, Function.update_of_ne hne _ _⟩, id⟩
  | _ => exact ⟨_, _, _, rfl, fun j _ => ⟨rfl, rfl, rfl⟩, id⟩

/-- The note of a call takes the packet to the next stage. -/
theorem at_note {i : ℕ} {q q' : LogStage} {e : ControllerEvent} (hat : s.At i q)
    (hq : logProtocol (s.packet i) q e = some q') (hagrees : s.Agrees e)
    (hsend : ∀ nSocketFD pBuf nRet, e = ⟨.centerSend nSocketFD pBuf, nRet⟩ →
      getCommand pBuf = accessLogRequest →
      s.Connected s.m_nSocketFD ∧ s.steady i = true ∧ (nRet : ℤ) = pBuf.length) :
    (s.note i e).At i q' := by
  obtain ⟨c, r⟩ := e
  cases q with
  | received =>
    cases c with
    | clientSend nSocket pBuf =>
      obtain rfl := Option.some.inj hq
      by_cases hack : IsLogAck pBuf
      · rw [if_pos hack]
        trivial
      · rw [if_neg hack, note, if_neg hack]
        exact hat
    | centerSend nSocketFD pBuf =>
      obtain rfl := Option.some.inj hq
      -- what is sent before the answer acknowledges nothing
      rw [note]
      split
      · exact hat
      · exact hat
    | _ =>
      obtain rfl := Option.some.inj hq
      exact hat
  | acknowledged =>
    cases c with
    | centerSend nSocketFD pBuf => cases hq
    | getSocketfd =>
      obtain rfl := Option.some.inj hq
      exact fun _ => hagrees
    | _ =>
      obtain rfl := Option.some.inj hq
      trivial
  | asked nSocketFD =>
    cases c with
    | centerSend nSocketFD' pBuf =>
      change (if _ ∧ _ then some LogStage.sent else none) = some q' at hq
      split at hq
      · next hlog =>
        obtain rfl := Option.some.inj hq
        obtain ⟨rfl, hlog⟩ := hlog
        obtain ⟨hconnected, hsteady, hlength⟩ := hsend nSocketFD' pBuf r rfl hlog.1
        rw [← hat hsteady] at hconnected
        rw [note, if_pos ⟨hlog, hconnected, hlength⟩]
        exact Function.update_self _ _ _
      · cases hq
    | getSocketfd => cases hq
    | clientSend nSocket pBuf =>
      obtain rfl := Option.some.inj hq
      rw [note]
      split
      · exact hat
      · exact hat
    | _ =>
      obtain rfl := Option.some.inj hq
      exact hat
  | sent =>
    obtain rfl : LogStage.sent = q' := by cases c <;> exact Option.some.inj hq
    obtain ⟨acknowledged, handed, steady, heq, -, hmono⟩ := s.note_eq i ⟨c, r⟩
    rw [heq]
    exact hmono hat

/-- The thread of a packet makes a call. -/
theorem Tracked.call (h : s.Tracked) {c i : ℕ} (hc : s.current c = some i) {ch : DeviceChoice}
    {p : ControllerProg Unit} {d : Device} {e : ControllerEvent} {t : Threads}
    (hturn : Turns (s.threads.program (.client c)) s.threads.device ch p d e)
    (hagrees : s.Agrees e) (hok : HandsOver s (.thread (.call (.client c) ch)))
    (hwf : t.Wellformed) (hopened : t.sockets.opened = s.threads.sockets.opened)
    (hprogram : t.program = Function.update s.threads.program (.client c) p) :
    Tracked { s.note i e with threads := t } := by
  have hsend : ∀ nSocketFD pBuf nRet, e = ⟨.centerSend nSocketFD pBuf, nRet⟩ →
      getCommand pBuf = accessLogRequest →
      s.Connected s.m_nSocketFD ∧ s.steady i = true ∧ (nRet : ℤ) = pBuf.length := by
    rintro nSocketFD pBuf nRet rfl hcommand
    obtain ⟨hnext, rfl⟩ := hturn.centerSend
    have hup := hok nSocketFD pBuf hnext hcommand
    rwa [hc] at hup
  obtain ⟨q, hfollows, hat⟩ := h.follows c i hc
  obtain ⟨q', hq', hfollows'⟩ := hturn.followsLog hfollows
  have hat' := at_note hat hq' hagrees hsend
  obtain ⟨acknowledged, handed, steady, heq, hother, hmono⟩ := s.note_eq i e
  rw [heq] at hat' ⊢
  constructor
  · exact hwf
  · intro c' hc'
    change t.sockets.opened ≤ c' at hc'
    rw [hopened] at hc'
    exact h.fresh c' hc'
  · exact h.lt
  · exact h.inj
  · intro j hj
    have hne : j ≠ i := Nat.ne_of_gt (Nat.lt_of_lt_of_le (h.lt c i hc) hj)
    exact ((hother j hne).1).trans (h.unseen j hj)
  · intro c' j hc'
    show ∃ q, FollowsLog (s.packet j) q (t.program (.client c')) ∧ _
    rw [hprogram]
    rcases eq_or_ne c' c with rfl | hne
    · obtain rfl := Option.some.inj (hc.symm.trans hc')
      rw [Function.update_self]
      refine ⟨q', hfollows', ?_⟩
      cases q' <;> exact hat'
    · obtain ⟨q₁, hfollows₁, hat₁⟩ := h.follows c' j hc'
      have hworker : Worker.client c' ≠ Worker.client c := fun heq => hne (Worker.client.inj heq)
      have hj : j ≠ i := by
        rintro rfl
        exact hne (h.inj c' c j hc' hc)
      rw [Function.update_of_ne hworker]
      refine ⟨q₁, hfollows₁, ?_⟩
      cases q₁ with
      | received => exact ((hother j hj).1).trans hat₁
      | acknowledged => trivial
      | asked => exact fun hsteady => hat₁ (((hother j hj).2.2).symm.trans hsteady)
      | sent => exact ((hother j hj).2.1).trans hat₁
  · intro j hack
    rcases eq_or_ne j i with rfl | hj
    · exact .inr ⟨c, hc⟩
    · rcases h.done j (((hother j hj).1).symm.trans hack) with hhanded | hcurrent
      · exact .inl (((hother j hj).2.1).trans hhanded)
      · exact .inr hcurrent

/-- A call of any worker. -/
theorem Tracked.callBy (h : s.Tracked) {w : Worker} {ch : DeviceChoice} {p : ControllerProg Unit}
    {d : Device} {e : ControllerEvent} {t : Threads}
    (hturn : Turns (s.threads.program w) s.threads.device ch p d e)
    (hagrees : s.Agrees e) (hok : HandsOver s (.thread (.call w ch)))
    (hwf : t.Wellformed) (hopened : t.sockets.opened = s.threads.sockets.opened)
    (hprogram : t.program = Function.update s.threads.program w p) :
    Tracked { s.noteBy w e with threads := t } := by
  -- a worker without a packet
  have hframe : (∀ c i, w = .client c → s.current c ≠ some i) → Tracked { s with threads := t } :=
      fun hnone => by
    refine h.frame hwf hopened.ge fun c i hc => ?_
    have hne : Worker.client c ≠ w := fun heq => hnone c i heq.symm hc
    rw [hprogram, Function.update_of_ne hne]
  cases w with
  | client c =>
    cases hc : s.current c with
    | some i =>
      rw [noteBy]
      simp only [hc]
      exact h.call hc hturn hagrees hok hwf hopened hprogram
    | none =>
      rw [noteBy]
      simp only [hc]
      refine hframe fun c' i heq hc' => ?_
      obtain rfl := Worker.client.inj heq
      rw [hc] at hc'
      cases hc'
  | loop => exact hframe fun c i heq => by cases heq
  | keepAlive => exact hframe fun c i heq => by cases heq

/-- **Every step keeps track of the logs.** -/
theorem Tracked.step (h : s.Tracked) {l : AccessLogsLabel} (hok : HandsOver s l)
    (hstep : (accessLogsSystem mConfig).step s l = some s') : s'.Tracked := by
  cases l with
  | createSocket nSocketFD =>
    obtain rfl := Option.some.inj hstep
    exact h.relink nSocketFD
  | connectFail =>
    obtain rfl := Option.some.inj hstep
    exact h.relink (-1)
  | thread l =>
    obtain ⟨t, ht, hstep⟩ := Option.bind_eq_some_iff.mp hstep
    obtain ⟨s₁, hafter, rfl⟩ := Option.map_eq_some_iff.mp hstep
    have hwf : t.Wellformed := h.wellformed.step ht
    cases l with
    | accept nFD =>
      obtain rfl := Option.some.inj hafter
      cases steps_of_step ht
      exact h.opened hwf
    | connect nFD =>
      change (if _ then some s else none) = some s₁ at hafter
      split at hafter
      · obtain rfl := Option.some.inj hafter
        cases steps_of_step ht
        exact h.opened hwf
      · cases hafter
    | receive c pData =>
      obtain rfl := Option.some.inj hafter
      -- a thread receives when it has nothing left to do
      have hidle : Idle (s.threads.program (.client c)) = true := by
        have ht' := ht
        change (if _ ∧ _ then Option.map _ _ else none) = some t at ht'
        split at ht'
        · next hserving => exact hserving.2
        · cases ht'
      cases steps_of_step ht with
      | receive hfd => exact h.receive hfd hidle hwf rfl rfl hok
    | call w ch =>
      obtain ⟨⟨p, d, e⟩, hturn, rfl⟩ := Option.map_eq_some_iff.mp ht
      have hturnOf : s.turnOf mConfig (.call w ch) = some (w, e) := by
        rw [turnOf, hturn]
        rfl
      simp only [after, hturnOf] at hafter
      split at hafter
      · next hagrees =>
        obtain rfl := Option.some.inj hafter
        exact h.callBy (turns_of_turn hturn) hagrees hok hwf rfl rfl
      · cases hafter
    | hangUp c =>
      obtain rfl := Option.some.inj hafter
      cases steps_of_step ht
      exact h.frame hwf (Nat.le_refl _) fun _ _ _ => rfl
    | socketClose c =>
      cases steps_of_step ht
      change (if _ then some _ else some s) = some s₁ at hafter
      split at hafter
      · obtain rfl := Option.some.inj hafter
        exact (h.relink (-1)).frame hwf (Nat.le_refl _) fun _ _ _ => rfl
      · obtain rfl := Option.some.inj hafter
        exact h.frame hwf (Nat.le_refl _) fun _ _ _ => rfl
    | notice =>
      obtain rfl := Option.some.inj hafter
      cases steps_of_step ht with
      | @notice notice rest =>
        refine h.frame hwf (Nat.le_refl _) fun c _ _ => ?_
        have hne : Worker.client c ≠ .loop := fun heq => by cases heq
        exact Function.update_of_ne hne (onReceiveMessage notice) s.threads.program
    | tick ch =>
      change (if _ then Option.map _ _ else none) = some t at ht
      split at ht
      · obtain ⟨⟨p, d, e⟩, hturn, rfl⟩ := Option.map_eq_some_iff.mp ht
        have hturnOf : s.turnOf mConfig (.tick ch) = some (.keepAlive, e) := by
          rw [turnOf, hturn]
          rfl
        obtain rfl : s = s₁ := by
          simp only [after, hturnOf] at hafter
          split at hafter
          · exact Option.some.inj hafter
          · cases hafter
        refine h.frame hwf (Nat.le_refl _) fun c _ _ => ?_
        have hne : Worker.client c ≠ .keepAlive := fun heq => by cases heq
        exact Function.update_of_ne hne p s.threads.program
      · cases ht

theorem tracked_init : (accessLogsSystem mConfig).init.Tracked where
  wellformed := (wellformed_init : (threadsSystem mConfig).init.Wellformed)
  fresh _ _ := rfl
  lt _ _ h := by cases h
  inj _ _ _ h := by cases h
  unseen _ _ := rfl
  follows _ _ h := by cases h
  done _ h := by cases h

end AccessLogs

/-- **Acknowledged logs.** In every run, whatever comes between the answer and the send, an
access log that has been answered `STATUS_ROK` has been handed to the center, or its handler still
has to send it, as long as the connection to the center is up and unchanged when a handler sends,
`send` takes all of the packet, and every log fits into one. -/
theorem acknowledged_handed {mConfig : Config} {s : AccessLogs} {ls : List AccessLogsLabel}
    (h : (accessLogsSystem mConfig).RunWhere HandsOver (accessLogsSystem mConfig).init ls s)
    {i : ℕ} (hack : s.acknowledged i = true) : s.Kept i :=
  (h.invariant (fun _ _ _ htracked hok hstep => AccessLogs.Tracked.step htracked hok hstep)
    AccessLogs.tracked_init).kept hack

/-- An access log of type 1. -/
def logPacket : Bytes :=
  CmpHeader.bytes ⟨19#32, accessLogRequest, statusRok, 7#32⟩ ++ (ascii "1x" ++ [0])

/-- The log goes through a Controller whose connection to the center has descriptor 5. -/
def handOverOne : List AccessLogsLabel :=
  [.createSocket 5, .thread (.connect 5), .thread (.accept 6), .thread (.receive 1 logPacket),
    .thread (.call (.client 1) {}), .thread (.call (.client 1) { number := 16 }),
    .thread (.call (.client 1) {}), .thread (.call (.client 1) { number := 5 }),
    .thread (.call (.client 1) {}), .thread (.call (.client 1) {}),
    .thread (.call (.client 1) { number := 19 }), .thread (.call (.client 1) {})]

theorem acknowledged_handed_sent : ∃ s, (accessLogsSystem aloneConfig).Run
    (accessLogsSystem aloneConfig).init handOverOne s ∧ s.acknowledged 0 = true ∧ s.Kept 0 := by
  have hrun : ∃ s, (accessLogsSystem aloneConfig).RunWhere HandsOver
      (accessLogsSystem aloneConfig).init handOverOne s ∧ s.acknowledged 0 = true := by
    apply Exists.intro
    refine ⟨.cons trivial rfl (.cons trivial rfl (.cons trivial rfl (.cons (fun _ _ => ?_) rfl
      (.cons (fun _ _ h => ?_) rfl (.cons (fun _ _ h => ?_) rfl (.cons (fun _ _ h => ?_) rfl
      (.cons (fun _ _ h => ?_) rfl (.cons (fun _ _ h => ?_) rfl (.cons (fun _ _ h => ?_) rfl
      (.cons (fun _ _ h _ => ?_) rfl (.cons (fun _ _ h => ?_) rfl (.nil _)))))))))))), rfl⟩
    · exact (by decide : (logBody logPacket).length ≤ maxDataLen)
    all_goals cases h
    exact ⟨by decide, by decide, by decide⟩
  obtain ⟨s, hrun, hack⟩ := hrun
  exact ⟨s, hrun.toRun, hack, acknowledged_handed hrun hack⟩

/-- Without a connection to the center the log is acknowledged, and nobody has it. -/
theorem acknowledged_lost : ∃ s, (accessLogsSystem aloneConfig).Run
      (accessLogsSystem aloneConfig).init
      [.thread (.accept 5), .thread (.receive 0 logPacket), .thread (.call (.client 0) {}),
        .thread (.call (.client 0) { number := 16 }), .thread (.call (.client 0) {}),
        .thread (.call (.client 0) { number := -1 }), .thread (.call (.client 0) {}),
        .thread (.call (.client 0) {}), .thread (.call (.client 0) { number := -1 }),
        .thread (.call (.client 0) {})] s ∧
    s.acknowledged 0 = true ∧ Idle (s.threads.program (.client 0)) = true ∧ ¬ s.Kept 0 := by
  refine ⟨_, LTS.System.run_eq_some_iff.mp rfl, rfl, rfl, ?_⟩
  rintro (hhanded | ⟨c, hc, hmeets⟩)
  · exact absurd hhanded (by decide)
  · have hc : Function.update (fun _ => none) 0 (some 0) c = some 0 := hc
    obtain rfl : c = 0 := by
      by_contra hne
      rw [Function.update_of_ne hne] at hc
      cases hc
    exact hmeets

end ControllerSystem.Controller
