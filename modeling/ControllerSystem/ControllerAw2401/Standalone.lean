import ControllerSystem.Controller.Init
import ControllerSystem.ControllerAw2401.Responses
import ControllerSystem.Lib.LTS

/-!
# The Aw2401 controller without a center

A configuration without the address of a center makes `Controller::init` delete `cmpClient` and set
it to 0. The thread that keeps the connection to the center is not started then, and `main` does
not connect; what is left are the handlers, which know nothing of it. `processStep` follows the
process call by call, with every packet a client may send, until a method is called on the null
pointer. When this is so is said in `cmpClient_null_iff`.
-/

open Words Calls

namespace ControllerSystem.ControllerAw2401

open Controller (setUnbindState connectCenter enquireLinkRound Notice sendCommandtoCenter
  cmpAccessLog ConfigFile Started started)

/-! ### The start -/

/-- `cmpClient`. -/
inductive ClientPointer
  | null
  | object
  deriving DecidableEq

/-- What `Controller::init` sets. -/
structure Settings where
  mConfig : Controller.Config
  strLogPath : Bytes
  strServerPort : Bytes
  strDeviceDB : Bytes
  bConnectCenter : Bool
  cmpClient : ClientPointer
  connects : bConnectCenter = true ↔ cmpClient = .object

/-- The end of `Controller::init`, behind the opening of the database. -/
def Settings.atEnd (started : Started) : Settings :=
  let strCenterServerIP := started.mConfig.strCenterServerIP
  let strCenterServerPort := started.mConfig.strCenterServerPort
  { mConfig := started.mConfig
    strLogPath := started.strLogPath
    strServerPort := started.strServerPort
    strDeviceDB := started.strDeviceDB
    bConnectCenter := ¬ (strCenterServerIP = [] ∨ strCenterServerPort = [])
    cmpClient := if strCenterServerIP = [] ∨ strCenterServerPort = [] then .null else .object
    connects := by
      by_cases hempty : strCenterServerIP = [] ∨ strCenterServerPort = [] <;> simp [hempty] }

/-- What `Controller::init` sets, with the file `loadConfig` has read, if it could. -/
def init (file : Option ConfigFile) (szMAC : Bytes) : Option Settings :=
  file.map fun config => .atEnd (started config szMAC)

/-- These are the settings every run of `Controller::init` ends with. -/
theorem init_of_run {o : Controller.Surroundings} {strConf : Bytes} {chs : List Unit}
    {r : Option Settings} {mapConf : Controller.MapConf} {tr : List Controller.InitEvent}
    (h : (Controller.init .atEnd strConf).runIn o.answer [] chs = some (r, mapConf, tr))
    (hloads : o.Loads strConf) : r = init (o.config strConf) (o.getMac "eth0") := by
  obtain ⟨config, hconfig, -, -, hr⟩ := (Controller.init_run h).1 hloads
  rw [hconfig, hr]
  rfl

/-- The object is kept when both parts of the address are there. -/
theorem init_cmpClient {config : ConfigFile} {szMAC : Bytes} {settings : Settings}
    (h : init (some config) szMAC = some settings) :
    settings.cmpClient = .object ↔
      config.getValue "CENTER" "ip" ≠ [] ∧ config.getValue "CENTER" "port" ≠ [] := by
  obtain rfl := Option.some.inj h
  dsimp only [Settings.atEnd, started]
  split
  · next hempty => exact iff_of_false nofun fun hboth => hempty.elim hboth.1 hboth.2
  · next hboth => exact iff_of_true rfl (not_or.mp hboth)

/-- `Controller::startServer` gets as far as the threads. -/
def Settings.serves (settings : Settings) : Bool :=
  settings.strServerPort ≠ [] ∧ 0 < convertFromString settings.strServerPort

/-- `Controller::onReceiveMessage`; a new client is not greeted. -/
def onReceiveMessage : Notice → ControllerProg Unit
  | .clientConnect _ => pure ()
  | .clientDisconnect nId => setUnbindState nId
  | .centerDisconnect _ => pure ()

/-! ### The process -/

/-- The calls that are methods of `cmpClient`. -/
def OfCenterClient : ControllerCall → Prop
  | .centerSend _ _ => True
  | .isValidSocketFD => True
  | .getSocketfd => True
  | .centerStart _ _ => True
  | _ => False

instance : DecidablePred OfCenterClient := fun c => by
  unfold OfCenterClient
  split <;> infer_instance

structure Process where
  settings : Settings
  /-- What each of the activities has left to do. -/
  tasks : List (ControllerProg Unit)
  /-- A method of `cmpClient` has been called while this was 0. -/
  crashed : Bool

inductive ProcessLabel
  /-- A thread has read a packet of a client. -/
  | receiveClient (nClientFD : ℤ) (pData : Bytes)
  /-- The thread of the connection to the center has read a packet. -/
  | receiveCenter (nServerFD : ℤ) (pData : Bytes)
  /-- The message loop takes a notice. -/
  | notice (notice : Notice)
  /-- `main` connects to the center. -/
  | connect
  /-- The keep-alive thread wakes up. -/
  | tick
  /-- An activity makes its next call, which returns what `r` says. -/
  | call (i : ℕ) (r : (c : ControllerCall) → c.Res)

def Process.start (settings : Settings) : Process := ⟨settings, [], false⟩

/-- An activity begins. -/
def Process.begin (s : Process) (p : ControllerProg Unit) : Process :=
  { s with tasks := s.tasks ++ [p] }

def processStep (s : Process) (l : ProcessLabel) : Option Process :=
  if s.crashed then none
  else match l with
  | .receiveClient nClientFD pData =>
    if s.settings.serves then some (s.begin (onClientCMP s.settings.mConfig nClientFD pData))
    else none
  | .receiveCenter nServerFD pData =>
    -- the thread is started by `cmpClient->start`
    if s.settings.cmpClient = .object then
      some (s.begin (onCenterCMP s.settings.mConfig nServerFD pData))
    else none
  | .notice notice => some (s.begin (onReceiveMessage notice))
  | .connect =>
    if s.settings.bConnectCenter then
      some (s.begin do let _ ← connectCenter s.settings.mConfig)
    else none
  | .tick =>
    if s.settings.serves ∧ s.settings.bConnectCenter then
      some (s.begin (enquireLinkRound s.settings.mConfig))
    else none
  | .call i r =>
    match s.tasks[i]? with
    | some (.call c k) =>
      if OfCenterClient c ∧ s.settings.cmpClient = .null then some { s with crashed := true }
      else some { s with tasks := s.tasks.set i (k (r c)) }
    | _ => none

/-- The Aw2401 controller behind `init`, call by call. -/
def processSystem (settings : Settings) : LTS.System Process ProcessLabel where
  init := .start settings
  step := processStep

/-! ### What needs the center -/

/-- A packet whose handler uses `cmpClient`. -/
def UsesCenter (pData : Bytes) : Prop :=
  getCommand pData = enquireLinkRequest ∨
    getCommand pData = accessLogRequest ∧
      Accepted ["type", "data"] (Controller.parseBody accessLogRequest pData)

instance (pData : Bytes) : Decidable (UsesCenter pData) := inferInstanceAs (Decidable (_ ∨ _))

/-- A program that does without `cmpClient`. -/
abbrev Local {α : Type} (p : ControllerProg α) : Prop := p.Forall fun c => ¬ OfCenterClient c

section Programs

variable {mConfig : Controller.Config} {nSocket : ℤ} {nCommand nSequence : Word} {pData : Bytes}

/-- A status, and what comes behind it. -/
theorem sendCommandtoClient_then_local {nStatus : Word} {isResp : Bool} {α : Type} {k : α} :
    Local (do
      let _ ← Controller.sendCommandtoClient nSocket nCommand nStatus nSequence isResp
      pure k) :=
  ⟨not_false, fun _ => ⟨not_false, fun _ => trivial⟩⟩

theorem setUnbindState_local : Local (setUnbindState nSocket) := ⟨not_false, fun _ => trivial⟩

theorem wireStatus_local (nWire : ℤ) : Local (wireStatus nWire) := by
  unfold wireStatus
  split
  · exact ⟨not_false, fun _ => trivial⟩
  · trivial

theorem cmpResponse_local (szData : Bytes) :
    Local (cmpResponse nSocket nCommand nSequence szData) := by
  unfold cmpResponse
  split
  · exact ⟨not_false, fun _ => trivial⟩
  · refine ⟨not_false, fun nRet => ⟨not_false, fun _ => ?_⟩⟩
    simp only [Prog.bind_eq, Prog.ret_bind]
    split
    · exact ⟨not_false, fun _ => trivial⟩
    · exact ⟨not_false, fun _ => trivial⟩

theorem cmpPowerPortState_local :
    Local (cmpPowerPortState nSocket nCommand nSequence pData) := by
  unfold cmpPowerPortState
  dsimp only
  split
  · refine (wireStatus_local _).bind fun strState => ?_
    split
    · exact (cmpResponse_local _).bind fun _ => trivial
    · exact sendCommandtoClient_then_local
  · exact sendCommandtoClient_then_local

theorem cmpPowerPortSet_local : Local (cmpPowerPortSet nSocket nCommand nSequence pData) := by
  unfold cmpPowerPortSet switchPort setWireState
  dsimp only
  split
  · refine (wireStatus_local _).bind fun strState => ?_
    split
    · exact sendCommandtoClient_then_local
    split
    · exact ⟨not_false, fun _ => trivial⟩
    · -- the answer depends on what the device says
      have hanswer : ∀ nSet : ℤ, Local (if nSet ≠ -1 then do
            let _ ← Controller.sendCommandtoClient nSocket nCommand statusRok nSequence true
            pure 0
          else do
            let _ ← Controller.sendCommandtoClient nSocket nCommand statusRppsfail nSequence true
            pure (0 : ℤ)) := by
        intro nSet
        split
        · exact sendCommandtoClient_then_local
        · exact sendCommandtoClient_then_local
      split
      · exact ⟨not_false, hanswer⟩
      · exact hanswer _
  · trivial

theorem cmpBind_local : Local (Controller.cmpBind nSocket nCommand nSequence pData) := by
  unfold Controller.cmpBind
  dsimp only
  split
  · exact ⟨not_false, fun _ => ⟨not_false, fun _ => sendCommandtoClient_then_local⟩⟩
  · exact sendCommandtoClient_then_local

theorem ackPacket_local : Local (Controller.ackPacket nSocket nCommand) := by
  refine Controller.ackPacket_calls.mono fun c hc => ?_
  cases hc with
  | load => exact not_false
  | store => exact not_false

/-- An access log without its fields is answered, and goes no further. -/
theorem cmpAccessLog_local
    (hbody : ¬ Accepted ["type", "data"] (Controller.parseBody accessLogRequest pData)) :
    Local (cmpAccessLog mConfig nSocket accessLogRequest nSequence pData) := by
  unfold cmpAccessLog
  dsimp only
  split
  · next haccept => exact absurd ⟨haccept.1, by simpa using haccept.2⟩ hbody
  · exact sendCommandtoClient_then_local

/-- An accepted one asks `cmpClient` for its descriptor. -/
theorem cmpAccessLog_meets
    (hbody : Accepted ["type", "data"] (Controller.parseBody accessLogRequest pData)) :
    (cmpAccessLog mConfig nSocket accessLogRequest nSequence pData).Meets OfCenterClient := by
  obtain ⟨hpos, hkeys⟩ := hbody
  have htype := hkeys "type" (by simp)
  have hdata := hkeys "data" (by simp)
  unfold cmpAccessLog
  dsimp only
  rw [if_pos ⟨hpos, htype, hdata⟩]
  exact Prog.meets_bind _ fun _ => .inl trivial

end Programs

/-- **What a packet needs.** The handlers of the other packets never use `cmpClient`. -/
theorem onClientCMP_local {mConfig : Controller.Config} {nFD : ℤ} {pData : Bytes}
    (h : ¬ UsesCenter pData) : Local (onClientCMP mConfig nFD pData) := by
  rw [UsesCenter, not_or, not_and] at h
  obtain ⟨henquire, hlog⟩ := h
  refine ⟨not_false, fun _ => ?_⟩
  simp only [Prog.bind_eq, Prog.ret_bind]
  split
  · exact ackPacket_local
  split
  · exact sendCommandtoClient_then_local
  refine Prog.Forall.bind ?_ fun _ => trivial
  refine iteInduction (fun _ => cmpPowerPortState_local) fun _ => ?_
  refine iteInduction (fun _ => cmpPowerPortSet_local) fun _ => ?_
  -- the entries of the Controller
  refine Controller.cmpRequest_cases (P := fun p => Local p) (fun _ => cmpBind_local) (fun _ => ?_)
    (fun heq => ?_) (fun heq => absurd heq henquire) sendCommandtoClient_then_local
  · exact setUnbindState_local.bind fun _ => sendCommandtoClient_then_local
  · rw [heq]
    exact cmpAccessLog_local (hlog heq)

/-- The handlers of these packets use `cmpClient` whatever happens. -/
theorem onClientCMP_meets {mConfig : Controller.Config} {nFD : ℤ} {pData : Bytes}
    (h : UsesCenter pData) : (onClientCMP mConfig nFD pData).Meets OfCenterClient := by
  have hack : ¬ isAckPacket (getCommand pData) := by
    rcases h with heq | ⟨heq, -⟩ <;> rw [heq] <;> decide
  have hsmall : ¬ 0xFF < (getCommand pData).toInt := by
    rcases h with heq | ⟨heq, -⟩ <;> rw [heq] <;> decide
  refine .inr fun _ => ?_
  simp only [Prog.bind_eq, Prog.ret_bind, if_neg hack, if_neg hsmall]
  refine Prog.Meets.bind ?_ _
  rcases h with heq | ⟨heq, hbody⟩
  · rw [heq]
    exact .inl trivial
  · rw [heq]
    exact cmpAccessLog_meets hbody

/-! ### What a step does -/

/-- What is done by the steps: an activity begins, an activity makes a call, or the process is at
its end. -/
inductive ProcessSteps (s : Process) : ProcessLabel → Process → Prop
  | receiveClient (nClientFD : ℤ) (pData : Bytes) :
      ProcessSteps s (.receiveClient nClientFD pData)
        (s.begin (onClientCMP s.settings.mConfig nClientFD pData))
  | other {l : ProcessLabel} {p : ControllerProg Unit}
      (hl : ∀ nClientFD pData, l ≠ .receiveClient nClientFD pData)
      (hp : s.settings.cmpClient = .null → Local p) : ProcessSteps s l (s.begin p)
  | call {i : ℕ} {c : ControllerCall} {k : c.Res → ControllerProg Unit}
      (r : (c : ControllerCall) → c.Res) (hi : s.tasks[i]? = some (.call c k))
      (hc : s.settings.cmpClient = .null → ¬ OfCenterClient c) :
      ProcessSteps s (.call i r) { s with tasks := s.tasks.set i (k (r c)) }
  | crash {i : ℕ} {c : ControllerCall} {k : c.Res → ControllerProg Unit}
      (r : (c : ControllerCall) → c.Res) (hi : s.tasks[i]? = some (.call c k))
      (hc : OfCenterClient c) (hnull : s.settings.cmpClient = .null) :
      ProcessSteps s (.call i r) { s with crashed := true }

theorem processSteps_of_step {settings : Settings} {s s' : Process} {l : ProcessLabel}
    (h : (processSystem settings).step s l = some s') :
    s.crashed = false ∧ ProcessSteps s l s' := by
  change processStep s l = some s' at h
  unfold processStep at h
  split at h
  · cases h
  next hcrashed =>
  refine ⟨Bool.eq_false_iff.mpr hcrashed, ?_⟩
  -- with a connection to the center there is an object
  have hconnects : s.settings.bConnectCenter = true → s.settings.cmpClient ≠ .null := by
    intro hyes hnull
    have hobject := s.settings.connects.mp hyes
    rw [hnull] at hobject
    cases hobject
  cases l with
  | receiveClient nClientFD pData =>
    dsimp only at h
    split at h
    · cases h
      exact .receiveClient nClientFD pData
    · cases h
  | receiveCenter nServerFD pData =>
    dsimp only at h
    split at h
    · next hobject =>
      cases h
      exact .other nofun fun hnull => by rw [hnull] at hobject; cases hobject
    · cases h
  | notice notice =>
    cases h
    refine .other nofun fun _ => ?_
    cases notice with
    | clientConnect nId => trivial
    | clientDisconnect nId => exact setUnbindState_local
    | centerDisconnect nId => trivial
  | connect =>
    dsimp only at h
    split at h
    · next hyes =>
      cases h
      exact .other nofun fun hnull => absurd hnull (hconnects hyes)
    · cases h
  | tick =>
    dsimp only at h
    split at h
    · next hyes =>
      cases h
      exact .other nofun fun hnull => absurd hnull (hconnects hyes.2)
    · cases h
  | call i r =>
    dsimp only at h
    split at h
    · next c k hi =>
      split at h
      · next hnull =>
        cases h
        exact .crash r hi hnull.1 hnull.2
      · next hnot =>
        cases h
        exact .call r hi fun hnull hc => hnot ⟨hc, hnull⟩
    · cases h

/-! ### Runs -/

section Runs

variable {settings : Settings} {s s' : Process} {l : ProcessLabel} {ls : List ProcessLabel}

/-- Without an object nobody is going to use it. -/
structure Process.Safe (s : Process) : Prop where
  running : s.crashed = false
  tasks : s.settings.cmpClient = .null → ∀ p ∈ s.tasks, Local p

/-- The packets of a step do without the center, or there is an object. -/
def Unneeded (settings : Settings) : ProcessLabel → Prop
  | .receiveClient _ pData => settings.cmpClient = .object ∨ ¬ UsesCenter pData
  | _ => True

theorem Process.Safe.begin (h : s.Safe) {p : ControllerProg Unit}
    (hp : s.settings.cmpClient = .null → Local p) : (s.begin p).Safe where
  running := h.running
  tasks := by
    intro hnull q hq
    rcases List.mem_append.mp hq with hold | hnew
    · exact h.tasks hnull q hold
    · obtain rfl := List.mem_singleton.mp hnew
      exact hp hnull

theorem Process.Safe.step (h : s.Safe) (hok : Unneeded s.settings l)
    (hstep : (processSystem settings).step s l = some s') : s'.Safe := by
  cases (processSteps_of_step hstep).2 with
  | receiveClient nClientFD pData =>
    refine h.begin fun hnull => onClientCMP_local ?_
    exact hok.resolve_left fun hobject => by rw [hnull] at hobject; cases hobject
  | other hl hp => exact h.begin hp
  | call r hi hc =>
    refine ⟨h.running, fun hnull q hq => ?_⟩
    rcases List.mem_or_eq_of_mem_set hq with hold | rfl
    · exact h.tasks hnull q hold
    · exact (h.tasks hnull _ (List.mem_of_getElem? hi)).2 _
  | crash r hi hc hnull =>
    exact absurd hc (h.tasks hnull _ (List.mem_of_getElem? hi)).1

/-- No step changes the settings. -/
theorem settings_step (hstep : (processSystem settings).step s l = some s') :
    s'.settings = s.settings := by
  cases (processSteps_of_step hstep).2 <;> rfl

/-- Somebody still has to use `cmpClient`. -/
def Process.Pending (s : Process) : Prop := ∃ p ∈ s.tasks, p.Meets OfCenterClient

theorem Process.Pending.begin (h : s.Pending) (p : ControllerProg Unit) :
    (s.begin p).Pending := by
  obtain ⟨q, hq, hmeets⟩ := h
  exact ⟨q, List.mem_append_left _ hq, hmeets⟩

/-- Without an object the use ends the process. -/
theorem Process.Pending.step (h : s.Pending) (hnull : s.settings.cmpClient = .null)
    (hstep : (processSystem settings).step s l = some s') : s'.crashed = true ∨ s'.Pending := by
  cases (processSteps_of_step hstep).2 with
  | receiveClient nClientFD pData => exact .inr (h.begin _)
  | other hl hp => exact .inr (h.begin _)
  | crash r hi hc _ => exact .inl rfl
  | @call i c k r hi hc =>
    obtain ⟨q, hq, hmeets⟩ := h
    obtain ⟨j, hj⟩ := List.mem_iff_getElem?.mp hq
    refine .inr ?_
    rcases eq_or_ne i j with rfl | hne
    · -- the activity that is to use it has made another call
      obtain rfl := Option.some.inj (hi.symm.trans hj)
      have hlt := (List.getElem?_eq_some_iff.mp hi).1
      exact ⟨_, List.mem_set hlt _, (hmeets.resolve_left (hc hnull)) _⟩
    · exact ⟨q, List.mem_of_getElem? ((List.getElem?_set_ne hne).trans hj), hmeets⟩

/-- Nothing happens behind the end of the process. -/
theorem crashed_of_run (hrun : (processSystem settings).Run s ls s') (hcrashed : s.crashed = true) :
    s'.crashed = true := by
  cases hrun with
  | nil => exact hcrashed
  | cons _ hstep _ =>
    rw [(processSteps_of_step hstep).1] at hcrashed
    cases hcrashed

/-- A packet that needs `cmpClient` is pending until the end of the process. -/
theorem pending_of_run (hrun : (processSystem settings).Run s ls s')
    (hnull : s.settings.cmpClient = .null)
    (hneed : s.Pending ∨
      ∃ nClientFD pData, .receiveClient nClientFD pData ∈ ls ∧ UsesCenter pData) :
    s'.crashed = true ∨ s'.Pending := by
  induction hrun with
  | nil s =>
    rcases hneed with hpending | ⟨nClientFD, pData, hmem, -⟩
    · exact .inr hpending
    · exact absurd hmem List.not_mem_nil
  | @cons s l s₁ ls s₂ _ hstep hrest ih =>
    have hnull₁ : s₁.settings.cmpClient = .null := by rw [settings_step hstep, hnull]
    rcases hneed with hpending | ⟨nClientFD, pData, hmem, huses⟩
    · rcases hpending.step hnull hstep with hcrashed | hpending₁
      · exact .inl (crashed_of_run hrest hcrashed)
      · exact ih hnull₁ (.inl hpending₁)
    rcases List.mem_cons.mp hmem with rfl | hlater
    · -- the packet has just come
      refine ih hnull₁ (.inl ?_)
      cases (processSteps_of_step hstep).2 with
      | receiveClient => exact ⟨_, List.mem_append_right _ (List.mem_singleton_self _),
          onClientCMP_meets huses⟩
      | other hl => exact absurd rfl (hl nClientFD pData)
    · exact ih hnull₁ (.inr ⟨nClientFD, pData, hlater, huses⟩)

/-- **The null pointer.** Whatever the configuration and the interleaving, no method of `cmpClient`
is called while this is 0 if and only if there is an address of a center in the configuration, or
no client sends a packet whose handler uses `cmpClient`: if one does, then a method has been called
on the null pointer when all is done. -/
theorem cmpClient_null_iff (config : ConfigFile) (szMAC : Bytes) (settings : Settings)
    (ls : List ProcessLabel) (s : Process) (hinit : init (some config) szMAC = some settings)
    (hrun : (processSystem settings).Run (processSystem settings).init ls s) :
    ((config.getValue "CENTER" "ip" ≠ [] ∧ config.getValue "CENTER" "port" ≠ []) ∨
        (∀ nClientFD pData, .receiveClient nClientFD pData ∈ ls → ¬ UsesCenter pData) →
      s.crashed = false) ∧
    ((∀ p ∈ s.tasks, p = .ret ()) → s.crashed = false →
      (config.getValue "CENTER" "ip" ≠ [] ∧ config.getValue "CENTER" "port" ≠ []) ∨
        ∀ nClientFD pData, .receiveClient nClientFD pData ∈ ls → ¬ UsesCenter pData) := by
  rw [← init_cmpClient hinit]
  constructor
  · intro hneed
    have hok : ∀ l ∈ ls, Unneeded settings l := by
      intro l hl
      cases l with
      | receiveClient nClientFD pData => exact hneed.imp_right fun hall => hall nClientFD pData hl
      | _ => trivial
    have hguarded : (processSystem settings).RunWhere (fun _ l => Unneeded settings l)
        (processSystem settings).init ls s :=
      hrun.runWhere fun l hl _ => hok l hl
    refine (hguarded.invariant (I := fun t : Process => t.settings = settings ∧ t.Safe)
      (fun _ _ _ hI hl hstep => ⟨(settings_step hstep).trans hI.1, ?_⟩)
      ⟨rfl, rfl, fun _ p hp => absurd hp List.not_mem_nil⟩).2.running
    exact hI.2.step (hI.1 ▸ hl) hstep
  · intro hdone hrunning
    by_contra hnot
    rw [not_or] at hnot
    obtain ⟨hobject, huses⟩ := hnot
    have hnull : settings.cmpClient = .null := by
      cases hclient : settings.cmpClient with
      | null => rfl
      | object => exact absurd hclient hobject
    push Not at huses
    rcases pending_of_run hrun hnull (.inr huses) with hcrashed | ⟨p, hp, hmeets⟩
    · rw [hrunning] at hcrashed
      cases hcrashed
    · -- nothing is left to do
      rw [hdone p hp] at hmeets
      exact hmeets

end Runs

/-- A configuration without a center. -/
def standaloneConfig : ConfigFile := [⟨ascii "SERVER", ascii "port", ascii "6607"⟩]

/-- Calls that return nothing of interest. -/
def idleResults : (c : ControllerCall) → c.Res
  | .deviceExec _ | .clientSend _ _ | .centerSend _ _ | .getSocketfd | .centerStart _ _
  | .loadSequence | .deref _ | .setPortState _ _ _ _ _ => (0 : ℤ)
  | .deviceQuery _ | .loadEnquireLink => ([] : List ℤ)
  | .isValidSocketFD | .notEnd _ => false
  | .getPortStatus _ => ([] : Bytes)
  | .close _ | .storeSequence _ | .storeEnquireLink _ | .printPacket _ _ _ _ _ _ | .printLog _ _
  | .overrun | .outOfRange => ()

/-- A client sends an enquire-link request, which is written to the log. -/
def loggedRun : List ProcessLabel :=
  [.receiveClient 5 enquireLinkPacket, .call 0 idleResults]

theorem cmpClient_null_iff_logged : ∃ settings s,
    init (some standaloneConfig) [] = some settings ∧
    (processSystem settings).Run (processSystem settings).init loggedRun s ∧
    ((standaloneConfig.getValue "CENTER" "ip" ≠ [] ∧
        standaloneConfig.getValue "CENTER" "port" ≠ []) ∨
        (∀ nClientFD pData, .receiveClient nClientFD pData ∈ loggedRun → ¬ UsesCenter pData) →
      s.crashed = false) ∧
    ((∀ p ∈ s.tasks, p = .ret ()) → s.crashed = false →
      (standaloneConfig.getValue "CENTER" "ip" ≠ [] ∧
        standaloneConfig.getValue "CENTER" "port" ≠ []) ∨
        ∀ nClientFD pData, .receiveClient nClientFD pData ∈ loggedRun → ¬ UsesCenter pData) := by
  obtain ⟨settings, s, hinit, hrun⟩ : ∃ settings s,
      init (some standaloneConfig) [] = some settings ∧
      (processSystem settings).Run (processSystem settings).init loggedRun s :=
    ⟨_, _, rfl, LTS.System.run_eq_some_iff.mp rfl⟩
  exact ⟨settings, s, hinit, hrun, cmpClient_null_iff _ [] settings _ s hinit hrun⟩

/-- The next call of its handler is a method of the null pointer. -/
theorem cmpClient_null_called : ∃ settings s,
    init (some standaloneConfig) [] = some settings ∧
    (processSystem settings).Run (processSystem settings).init
      (loggedRun ++ [.call 0 idleResults]) s ∧
    s.crashed = true :=
  ⟨_, _, rfl, LTS.System.run_eq_some_iff.mp rfl, rfl⟩

end ControllerSystem.ControllerAw2401
