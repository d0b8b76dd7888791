import ControllerSystem.ControllerAw2401.Handlers
import ControllerSystem.Lib.ReadModifyWrite

/-!
# Two port settings at a time

Two client threads of the Aw2401 controller, each working on a `power_port_set_request`, and the
power devices they talk to. The threads take turns at every call; one exchange with a device is one
call.

`cmpPowerPortSet` reads the four states of a device and writes four states back, so the threads
are two read-modify-write updates of one cell (`PortRun.Inv`). By the library's account of such
updates, both requests are in the device after both have been answered `STATUS_ROK` if and only if
no request changed anything that a write of states read earlier has undone:
`cmpPowerPortSet_keeps_updates_iff`.
-/

open Words Calls ReadModifyWrite

namespace ControllerSystem.ControllerAw2401

open Controller (Config sendCommandtoClient)

/-! ### The devices -/

/-- The states of the four ports of a device. -/
structure PortState where
  port1 : Bool
  port2 : Bool
  port3 : Bool
  port4 : Bool
  deriving DecidableEq

namespace PortState

/-- The state of a port; there are no others than 1 to 4. -/
def get (w : PortState) (nPort : ℤ) : Bool :=
  if nPort = 1 then w.port1 else if nPort = 2 then w.port2
  else if nPort = 3 then w.port3 else if nPort = 4 then w.port4 else false

/-- One port changed. -/
def set (w : PortState) (nPort : ℤ) (bState : Bool) : PortState where
  port1 := if nPort = 1 then bState else w.port1
  port2 := if nPort = 2 then bState else w.port2
  port3 := if nPort = 3 then bState else w.port3
  port4 := if nPort = 4 then bState else w.port4

/-- The answer of a device to `get iControl port state`. -/
def text (w : PortState) : Bytes :=
  [w.port1, w.port2, w.port3, w.port4].map fun b => if b then 49 else 48

/-- What the handler takes the text of a status for. -/
def ofText (strState : Bytes) : PortState :=
  ⟨portOn strState 0, portOn strState 1, portOn strState 2, portOn strState 3⟩

@[simp] theorem ofText_text (w : PortState) : ofText w.text = w := by
  obtain ⟨b₁, b₂, b₃, b₄⟩ := w
  cases b₁ <;> cases b₂ <;> cases b₃ <;> cases b₄ <;> decide

theorem text_ne_nil (w : PortState) : w.text ≠ [] := by simp [text]

/-- Requests for different ports commute. -/
theorem set_comm (w : PortState) {nPort nPort' : ℤ} (hne : nPort ≠ nPort') (b b' : Bool) :
    (w.set nPort b).set nPort' b' = (w.set nPort' b').set nPort b := by
  simp only [set, PortState.mk.injEq]
  refine ⟨?_, ?_, ?_, ?_⟩ <;> split <;> split <;> first | rfl | omega

theorem ite_of_undone {nPort nPort' n : ℤ} (hne : nPort ≠ nPort') {b b' x : Bool}
    (h : (if nPort = n then b else x) = if nPort = n then b else if nPort' = n then b' else x) :
    (if nPort' = n then b' else x) = x := by
  by_cases heq : nPort = n
  · rw [if_neg fun heq' => hne (heq.trans heq'.symm)]
  · rw [if_neg heq, if_neg heq] at h
    exact h.symm

/-- A write that leaves a request out is right exactly when the request changes nothing. -/
theorem set_eq_set_set_iff (w : PortState) {nPort nPort' : ℤ} (hne : nPort ≠ nPort')
    (b b' : Bool) : w.set nPort b = (w.set nPort' b').set nPort b ↔ w.set nPort' b' = w := by
  constructor
  · intro h
    simp only [set, PortState.mk.injEq] at h
    -- port by port: the first request decides its own port, and has no part in the others
    obtain ⟨h₁, h₂, h₃, h₄⟩ := h
    simp only [set, ite_of_undone hne h₁, ite_of_undone hne h₂, ite_of_undone hne h₃,
      ite_of_undone hne h₄]
  · intro h
    rw [h]

theorem get_set (w : PortState) {n : ℤ} (h₁ : 1 ≤ n) (h₄ : n ≤ 4) (nPort : ℤ) (b : Bool) :
    (w.set nPort b).get n = if n = nPort then b else w.get n := by
  obtain rfl | rfl | rfl | rfl : n = 1 ∨ n = 2 ∨ n = 3 ∨ n = 4 := by omega
  all_goals simp [get, set, eq_comm]

/-- The states after two requests for different ports, port by port. -/
theorem eq_set_set_iff (w w' : PortState) {nPort nPort' : ℤ} (hne : nPort ≠ nPort')
    (b b' : Bool) : w' = (w.set nPort b).set nPort' b' ↔ ∀ n, 1 ≤ n → n ≤ 4 →
      w'.get n = if n = nPort then b else if n = nPort' then b' else w.get n := by
  have hget : ∀ n, 1 ≤ n → n ≤ 4 → ((w.set nPort b).set nPort' b').get n =
      if n = nPort then b else if n = nPort' then b' else w.get n := by
    intro n h₁ h₄
    rw [get_set _ h₁ h₄, get_set _ h₁ h₄]
    by_cases hn : n = nPort
    · rw [if_neg fun hn' : n = nPort' => hne (hn.symm.trans hn'), if_pos hn, if_pos hn]
    · rw [if_neg hn, if_neg hn]
  constructor
  · rintro rfl
    exact hget
  · intro h
    have hports : ∀ n, 1 ≤ n → n ≤ 4 → w'.get n = ((w.set nPort b).set nPort' b').get n :=
      fun n h₁ h₄ => (h n h₁ h₄).trans (hget n h₁ h₄).symm
    -- two states with the same four ports are the same
    generalize (w.set nPort b).set nPort' b' = w'' at hports
    have h₁ := hports 1 (by omega) (by omega)
    have h₂ := hports 2 (by omega) (by omega)
    have h₃ := hports 3 (by omega) (by omega)
    have h₄ := hports 4 (by omega) (by omega)
    obtain ⟨b₁, b₂, b₃, b₄⟩ := w'
    obtain ⟨c₁, c₂, c₃, c₄⟩ := w''
    simp only [get] at h₁ h₂ h₃ h₄
    simp_all

end PortState

/-- The devices by their addresses. -/
abbrev Wires := Bytes → PortState

/-- What one call leaves open. -/
structure PortChoice where
  /-- No answer of the device arrived in time. -/
  lost : Bool := false
  /-- The result of `setPortState`; -1 when the device was not reached. -/
  rc : ℤ := 0
  /-- The number another call returns. -/
  number : ℤ := 0
  numbers : List ℤ := []
  flag : Bool := false

/-- What a call returns, and the devices afterwards. A device that answers tells the truth. -/
def Wires.answer (s : Wires) : (c : ControllerCall) → PortChoice → c.Res × Wires
  | .getPortStatus strIP, ch => (if ch.lost then [] else (s strIP).text, s)
  | .setPortState strIP bPort1 bPort2 bPort3 bPort4, ch =>
    -- -1 is the result of `setPortState` without a connection, so nothing was written
    if ch.rc = -1 then (-1, s)
    else (ch.rc, Function.update s strIP ⟨bPort1, bPort2, bPort3, bPort4⟩)
  | .deviceExec _, ch => (ch.number, s)
  | .deviceQuery _, ch => (ch.numbers, s)
  | .clientSend _ _, ch => (ch.number, s)
  | .centerSend _ _, ch => (ch.number, s)
  | .isValidSocketFD, ch => (ch.flag, s)
  | .getSocketfd, ch => (ch.number, s)
  | .centerStart _ _, ch => (ch.number, s)
  | .close _, _ => ((), s)
  | .loadSequence, ch => (ch.number, s)
  | .storeSequence _, _ => ((), s)
  | .loadEnquireLink, ch => (ch.numbers, s)
  | .storeEnquireLink _, _ => ((), s)
  | .notEnd _, ch => (ch.flag, s)
  | .deref _, ch => (ch.number, s)
  | .printPacket _ _ _ _ _ _, _ => ((), s)
  | .printLog _ _, _ => ((), s)
  | .overrun, _ => ((), s)
  | .outOfRange, _ => ((), s)

/-! ### Two threads -/

/-- A `power_port_set_request` and the socket it came from. -/
structure PortRequest where
  nClientFD : ℤ
  pData : Bytes
  command : getCommand pData = powerPortSetRequest

namespace PortRequest

variable (req : PortRequest)

/-- The wire, port and state the request names. -/
def nWire : ℤ := convertFromString ((parseBody powerPortSetRequest req.pData).2.get "wire")

def nPort : ℤ := convertFromString ((parseBody powerPortSetRequest req.pData).2.get "port")

def bState : Bool := (parseBody powerPortSetRequest req.pData).2.get "state" ≠ ascii "0"

/-- What the request asks of the states of a device. -/
def change (w : PortState) : PortState := w.set req.nPort req.bState

/-- The event is the answer `STATUS_ROK` to the request. -/
def isAnsweredRok : ControllerEvent → Bool
  | ⟨.clientSend nSocket pBuf, _⟩ =>
    nSocket = req.nClientFD ∧ getCommand pBuf = powerPortSetResponse ∧
      getStatus pBuf = statusRok ∧ getSequence pBuf = getSequence req.pData
  | _ => false

end PortRequest

/-- The devices, what is left of each thread's work, and the calls made so far. -/
structure PortRun where
  wires : Wires
  prog : Bool → ControllerProg Unit
  history : List (Bool × ControllerEvent)

def PortRun.step (s : PortRun) : Bool × PortChoice → Option PortRun
  | (t, ch) => ((s.prog t).stepIn Wires.answer s.wires ch).map fun (p, wires, e) =>
    ⟨wires, Function.update s.prog t p, s.history ++ [(t, e)]⟩

/-- Two threads, each with a request. -/
def portSystem (mConfig : Config) (req : Bool → PortRequest) (wires : Wires) :
    LTS.System PortRun (Bool × PortChoice) where
  init := ⟨wires, fun t => onClientCMP mConfig (req t).nClientFD (req t).pData, []⟩
  step := PortRun.step

/-- The exchange with a device a call was, when it came about. -/
def exchange : Bool × ControllerEvent → Option (Bool × Access)
  | (t, ⟨.getPortStatus _, strState⟩) => if strState = [] then none else some (t, .read)
  | (t, ⟨.setPortState _ _ _ _ _, nRet⟩) => if nRet = -1 then none else some (t, .write)
  | _ => none

/-- The exchanges with the devices, in order. -/
def exchanges (history : List (Bool × ControllerEvent)) : List (Bool × Access) :=
  history.filterMap exchange

/-! ### What a thread does -/

/-- How far the work on a request is. -/
inductive PortPhase
  | reading
  | writing (w : PortState)
  | finished (written : Bool)
  deriving DecidableEq

/-- The calls of a thread: it reads the device on its wire, writes what it read with its own change,
and says `STATUS_ROK` only behind a write. -/
def portProtocol (strIP : Bytes) (req : PortRequest) :
    PortPhase → ControllerEvent → Option PortPhase
  | .reading, ⟨.getPortStatus strIP', strState⟩ =>
    if strIP' = strIP then
      some (if strState = [] then .finished false else .writing (.ofText strState))
    else none
  | .writing w, ⟨.setPortState strIP' bPort1 bPort2 bPort3 bPort4, nRet⟩ =>
    if strIP' = strIP ∧ ⟨bPort1, bPort2, bPort3, bPort4⟩ = req.change w then
      some (.finished (nRet ≠ -1))
    else none
  -- the thread ends without an answer
  | .writing _, ⟨.outOfRange, _⟩ => some (.finished false)
  | .finished written, ⟨.clientSend _ pBuf, _⟩ =>
    if getStatus pBuf = statusRok → written then some (.finished written) else none
  | phase, ⟨.printPacket _ _ _ _ _ _, _⟩ => some phase
  | _, _ => none

/-- A thread on its way through the protocol. -/
abbrev FollowsPort {α : Type} (strIP : Bytes) (req : PortRequest) (phase : PortPhase)
    (p : ControllerProg α) : Prop :=
  p.Follows (portProtocol strIP req) (fun _ => True) (fun _ => True) phase

section Follows

variable {strIP : Bytes} {req : PortRequest}

/-- The end of the handler. -/
theorem answer_follows {written : Bool} {nSocket n : ℤ} {nSequence nStatus : Word}
    (hstatus : nStatus = statusRok → written) : FollowsPort strIP req (.finished written) (do
      let _ ← sendCommandtoClient nSocket powerPortSetRequest nStatus nSequence true
      pure n) := by
  refine fun r _ => ⟨.finished written, if_pos ?_, fun _ _ => ⟨.finished written, rfl, trivial⟩⟩
  rw [getStatus_bytes]
  exact hstatus

theorem cmpPowerPortSet_follows {nSocket : ℤ} {nSequence : Word}
    (hwire : wireIP req.nWire = some strIP) : FollowsPort strIP req .reading
      (cmpPowerPortSet nSocket powerPortSetRequest nSequence req.pData) := by
  unfold cmpPowerPortSet switchPort setWireState wireStatus
  change wireIP (convertFromString _) = _ at hwire
  dsimp only
  split
  · rw [hwire]
    intro strState _
    simp only [Prog.bind_eq, Prog.ret_bind]
    refine ⟨_, if_pos rfl, ?_⟩
    split
    · -- no answer of the device
      exact answer_follows (by decide)
    split
    · -- too short an answer
      exact fun _ _ => ⟨.finished false, rfl, trivial⟩
    · -- the states are written back, with the change
      intro nRet _
      refine ⟨.finished (nRet ≠ -1), if_pos ⟨rfl, rfl⟩, ?_⟩
      simp only [Prog.bind_eq, Prog.ret_bind]
      -- `STATUS_ROK` is sent where `setPortState` did not return -1
      split
      · next hset => exact answer_follows fun _ => by simpa using hset
      · exact answer_follows fun hrok => absurd hrok (by decide)
  · trivial

theorem cmpPowerPortSet_follows_none {nSocket : ℤ} {nSequence : Word}
    (hwire : wireIP req.nWire = none) : FollowsPort strIP req (.finished false)
      (cmpPowerPortSet nSocket powerPortSetRequest nSequence req.pData) := by
  unfold cmpPowerPortSet switchPort setWireState wireStatus
  change wireIP (convertFromString _) = _ at hwire
  dsimp only
  split
  · rw [hwire]
    exact answer_follows (by decide)
  · trivial

/-- From its reception on, a request is the work of `cmpPowerPortSet`. -/
theorem onClientCMP_follows {mConfig : Config} {phase : PortPhase}
    (h : FollowsPort strIP req phase (cmpPowerPortSet req.nClientFD powerPortSetRequest
      (getSequence req.pData) req.pData)) :
    FollowsPort strIP req phase (onClientCMP mConfig req.nClientFD req.pData) := by
  refine fun _ _ => ⟨phase, by cases phase <;> rfl, ?_⟩
  have hack : isAckPacket powerPortSetRequest = false := by decide
  have hid : ¬ 0xFF < powerPortSetRequest.toInt := by decide
  have hstate : powerPortSetRequest ≠ powerPortStateRequest := by decide
  simp only [Prog.bind_eq, Prog.ret_bind, req.command, hack, hid, cmpRequest, hstate, if_false,
    if_true, Bool.false_eq_true]
  exact h.bind fun _ _ _ => trivial

end Follows

/-! ### The threads as two updates of one cell -/

/-- Where the update of a thread is, seen from its work. -/
def Matches : PortPhase → Phase PortState → Prop
  | .reading, phase => phase = .idle
  | .writing w, phase => phase = .holds w
  | .finished true, phase => phase = .done
  | .finished false, phase => phase ≠ .done

/-- **The invariant.** The device on the wire is a cell that the two threads update; a thread has
said `STATUS_ROK` only behind its write. -/
structure PortRun.Inv (strIP : Bytes) (req : Bool → PortRequest) (wires : Wires) (s : PortRun)
    (cell : State PortState) : Prop where
  run : (system (fun t => (req t).change) (wires strIP)).Run
    (system (fun t => (req t).change) (wires strIP)).init (exchanges s.history) cell
  value : cell.cell = s.wires strIP
  follows : ∀ t, ∃ phase, FollowsPort strIP (req t) phase (s.prog t) ∧ Matches phase (cell.phase t)
  answered : ∀ t e, (t, e) ∈ s.history → (req t).isAnsweredRok e → cell.phase t = .done

section Inv

variable {strIP : Bytes} {req : Bool → PortRequest} {wires : Wires} {s : PortRun}
  {cell cell' : State PortState} {t : Bool} {p : ControllerProg Unit} {wires' : Wires}
  {e : ControllerEvent} {phase' : PortPhase}

theorem exchanges_append (history : List (Bool × ControllerEvent)) (te : Bool × ControllerEvent) :
    exchanges (history ++ [te]) = exchanges history ++ (exchange te).toList := by
  cases hte : exchange te <;> simp [exchanges, List.filterMap_append, hte]

/-- What holds of the thread that moved and of the other one. -/
theorem follows_update {prog : Bool → ControllerProg Unit}
    (hother : ∀ u, u ≠ t → ∃ phase, FollowsPort strIP (req u) phase (prog u) ∧
      Matches phase (cell.phase u))
    (hp : FollowsPort strIP (req t) phase' p) (hmatches : Matches phase' (cell.phase t))
    (u : Bool) :
    ∃ phase, FollowsPort strIP (req u) phase (Function.update prog t p u) ∧
      Matches phase (cell.phase u) := by
  rcases eq_or_ne u t with rfl | hne
  · -- the thread that moved
    rw [Function.update_self]
    exact ⟨phase', hp, hmatches⟩
  · rw [Function.update_of_ne hne]
    exact hother u hne

/-- A call that is no exchange with the device. -/
theorem PortRun.Inv.stay (h : s.Inv strIP req wires cell) (hexchange : exchange (t, e) = none)
    (hwires : wires' strIP = s.wires strIP) (hp : FollowsPort strIP (req t) phase' p)
    (hmatches : Matches phase' (cell.phase t))
    (hrok : (req t).isAnsweredRok e → cell.phase t = .done) :
    PortRun.Inv strIP req wires ⟨wires', Function.update s.prog t p, s.history ++ [(t, e)]⟩
      cell where
  run := by
    rw [exchanges_append, hexchange, Option.toList_none, List.append_nil]
    exact h.run
  value := h.value.trans hwires.symm
  follows := follows_update (fun u _ => h.follows u) hp hmatches
  answered := by
    intro u e' he' hrok'
    rcases List.mem_append.mp he' with he' | he'
    · exact h.answered u e' he' hrok'
    · obtain ⟨rfl, rfl⟩ := Prod.mk.inj (List.mem_singleton.mp he')
      exact hrok hrok'

/-- A call that is an exchange with the device. -/
theorem PortRun.Inv.move {access : Access} (h : s.Inv strIP req wires cell)
    (hexchange : exchange (t, e) = some (t, access))
    (hstep : ReadModifyWrite.step (fun t => (req t).change) cell (t, access) = some cell')
    (hphase : ∀ u, u ≠ t → cell'.phase u = cell.phase u) (hdone : cell.phase t ≠ .done)
    (hwires : cell'.cell = wires' strIP) (hp : FollowsPort strIP (req t) phase' p)
    (hmatches : Matches phase' (cell'.phase t)) (hrok : ¬ (req t).isAnsweredRok e) :
    PortRun.Inv strIP req wires ⟨wires', Function.update s.prog t p, s.history ++ [(t, e)]⟩
      cell' where
  run := by
    rw [exchanges_append, hexchange]
    exact h.run.append (.cons trivial hstep (.nil _))
  value := hwires
  follows := follows_update (fun u hne => by rw [hphase u hne]; exact h.follows u) hp hmatches
  answered := by
    intro u e' he' hrok'
    rcases List.mem_append.mp he' with he' | he'
    · -- a thread that has answered before is done, so it is not the one that moves
      have hu := h.answered u e' he' hrok'
      have hne : u ≠ t := by
        rintro rfl
        exact hdone hu
      rw [hphase u hne, hu]
    · obtain ⟨rfl, rfl⟩ := Prod.mk.inj (List.mem_singleton.mp he')
      exact absurd hrok' hrok

end Inv

/-- **One call.** Each thread follows its protocol, and its exchanges with the device are the
steps of its update. -/
theorem PortRun.Inv.step {strIP : Bytes} {req : Bool → PortRequest} {wires : Wires}
    {s s' : PortRun} {cell : State PortState} {t : Bool} {ch : PortChoice}
    (h : s.Inv strIP req wires cell) (hstep : s.step (t, ch) = some s') :
    ∃ cell', s'.Inv strIP req wires cell' := by
  obtain ⟨⟨p, wires', e⟩, hcall, rfl⟩ := Option.map_eq_some_iff.mp hstep
  obtain ⟨phase, hfollows, hmatches⟩ := h.follows t
  obtain ⟨phase', hprotocol, hp⟩ := hfollows.step hcall trivial
  obtain ⟨c, k, hprog, rfl, rfl, rfl⟩ := Prog.stepIn_eq_some.mp hcall
  -- a log line changes nothing
  by_cases hprint : ∃ a b d n q m, c = .printPacket a b d n q m
  · obtain ⟨a, b, d, n, q, m, rfl⟩ := hprint
    obtain rfl : phase = phase' := by cases phase <;> exact Option.some.inj hprotocol
    exact ⟨cell, h.stay rfl rfl hp hmatches (by simp [PortRequest.isAnsweredRok])⟩
  cases phase with
  | reading =>
    cases c with
    | getPortStatus strIP' =>
      obtain ⟨rfl, hphase⟩ : strIP' = strIP ∧ _ := by
        simpa [portProtocol] using hprotocol
      subst hphase
      by_cases hlost : ch.lost
      · -- no answer
        have hans : s.wires.answer (.getPortStatus strIP') ch = ([], s.wires) := by
          simp [Wires.answer, hlost]
        rw [hans] at hp ⊢
        refine ⟨cell, h.stay rfl rfl hp ?_ (by simp [PortRequest.isAnsweredRok])⟩
        simp [Matches, show cell.phase t = .idle from hmatches]
      · -- the states of the device, which are those of the cell
        have hans : s.wires.answer (.getPortStatus strIP') ch =
            ((s.wires strIP').text, s.wires) := by
          simp [Wires.answer, hlost]
        rw [hans] at hp ⊢
        have hne : (s.wires strIP').text ≠ [] := (s.wires strIP').text_ne_nil
        refine ⟨_, h.move (by simp [exchange, hne]) (step_read_eq_some.mpr ⟨hmatches, rfl⟩)
          (fun u hu => Function.update_of_ne hu _ _) ?_ h.value hp ?_
          (by simp [PortRequest.isAnsweredRok])⟩
        · simp [show cell.phase t = .idle from hmatches]
        · simp [hne, Matches, h.value]
    | printPacket => exact absurd ⟨_, _, _, _, _, _, rfl⟩ hprint
    | _ => simp [portProtocol] at hprotocol
  | writing w =>
    cases c with
    | setPortState strIP' b₁ b₂ b₃ b₄ =>
      obtain ⟨⟨rfl, hchange⟩, hphase⟩ :
          (strIP' = strIP ∧ ⟨b₁, b₂, b₃, b₄⟩ = (req t).change w) ∧ _ := by
        simpa [portProtocol] using hprotocol
      subst hphase
      have hholds : cell.phase t = .holds w := hmatches
      by_cases hrc : ch.rc = -1
      · -- the device was not reached
        have hans : s.wires.answer (.setPortState strIP' b₁ b₂ b₃ b₄) ch = (-1, s.wires) := by
          simp [Wires.answer, hrc]
        rw [hans] at hp ⊢
        refine ⟨cell, h.stay rfl rfl hp ?_ (by simp [PortRequest.isAnsweredRok])⟩
        simp [Matches, hholds]
      · -- what was read is written, with the change
        have hans : s.wires.answer (.setPortState strIP' b₁ b₂ b₃ b₄) ch =
            (ch.rc, Function.update s.wires strIP' ⟨b₁, b₂, b₃, b₄⟩) := by
          simp [Wires.answer, hrc]
        rw [hans] at hp ⊢
        refine ⟨_, h.move (by simp [exchange, hrc]) (step_write_eq_some.mpr ⟨w, hholds, rfl⟩)
          (fun u hu => Function.update_of_ne hu _ _) ?_ ?_ hp ?_
          (by simp [PortRequest.isAnsweredRok])⟩
        · simp [hholds]
        · rw [← hchange]
          exact (Function.update_self strIP' _ s.wires).symm
        · simp [hrc, Matches]
    | outOfRange =>
      obtain rfl := Option.some.inj hprotocol
      have hholds : cell.phase t = .holds w := hmatches
      refine ⟨cell, h.stay rfl rfl hp ?_ (by simp [PortRequest.isAnsweredRok])⟩
      simp [Matches, hholds]
    | printPacket => exact absurd ⟨_, _, _, _, _, _, rfl⟩ hprint
    | _ => simp [portProtocol] at hprotocol
  | finished written =>
    cases c with
    | clientSend nSocket pBuf =>
      obtain ⟨hrok, rfl⟩ : (getStatus pBuf = statusRok → written) ∧ _ := by
        simpa [portProtocol] using hprotocol
      refine ⟨cell, h.stay rfl rfl hp hmatches fun hanswered => ?_⟩
      -- an answer with `STATUS_ROK` is sent only behind a write
      have hwritten : written = true := by
        refine hrok ?_
        simp only [PortRequest.isAnsweredRok, decide_eq_true_eq] at hanswered
        exact hanswered.2.2.1
      subst hwritten
      exact hmatches
    | printPacket => exact absurd ⟨_, _, _, _, _, _, rfl⟩ hprint
    | _ => simp [portProtocol] at hprotocol

/-! ### No update is lost -/

section Result

variable {mConfig : Config} {req : Bool → PortRequest} {wires : Wires} {s : PortRun}
  {ls : List (Bool × PortChoice)}

/-- The thread has answered its request `STATUS_ROK`. -/
def PortRun.AnsweredRok (s : PortRun) (t : Bool) (req : PortRequest) : Prop :=
  ∃ e, (t, e) ∈ s.history ∧ req.isAnsweredRok e

/-- The two ports have the states that were requested, the others those they had. -/
def KeepsUpdates (req : Bool → PortRequest) (w w' : PortState) : Prop :=
  ∀ n, 1 ≤ n → n ≤ 4 → w'.get n =
    if n = (req false).nPort then (req false).bState
    else if n = (req true).nPort then (req true).bState
    else w.get n

/-- The threads start as two idle updates. -/
theorem portSystem_init {strIP : Bytes} (hwire : ∀ t, wireIP (req t).nWire = some strIP) :
    PortRun.Inv strIP req wires (portSystem mConfig req wires).init
      ⟨wires strIP, fun _ => .idle⟩ where
  run := .nil _
  value := rfl
  follows t := ⟨.reading, onClientCMP_follows (cmpPowerPortSet_follows (hwire t)), rfl⟩
  answered _ _ he := absurd he List.not_mem_nil

theorem portInv_of_run {strIP : Bytes} (hwire : ∀ t, wireIP (req t).nWire = some strIP)
    (h : (portSystem mConfig req wires).Run (portSystem mConfig req wires).init ls s) :
    ∃ cell, s.Inv strIP req wires cell :=
  h.invariant (I := fun s => ∃ cell, s.Inv strIP req wires cell)
    (fun _ _ _ ⟨_, hinv⟩ _ hstep => hinv.step hstep) ⟨_, portSystem_init hwire⟩

/-- A thread that is done without a write says no `STATUS_ROK`. -/
theorem portProtocol_failed {strIP : Bytes} {req : PortRequest} {e : ControllerEvent}
    {phase' : PortPhase} (h : portProtocol strIP req (.finished false) e = some phase') :
    phase' = .finished false ∧ ¬ req.isAnsweredRok e := by
  obtain ⟨c, r⟩ := e
  cases c with
  | clientSend nSocket pBuf =>
    obtain ⟨hrok, rfl⟩ : getStatus pBuf ≠ statusRok ∧ _ := by simpa [portProtocol] using h
    simp [PortRequest.isAnsweredRok, hrok]
  | printPacket =>
    obtain rfl := Option.some.inj h
    simp [PortRequest.isAnsweredRok]
  | _ => simp [portProtocol] at h

/-- Without a wire nothing is answered `STATUS_ROK`. -/
theorem not_answered_of_no_wire {t : Bool} (hwire : wireIP (req t).nWire = none)
    (h : (portSystem mConfig req wires).Run (portSystem mConfig req wires).init ls s) :
    ¬ s.AnsweredRok t (req t) := by
  have hinv := h.invariant (I := fun s => FollowsPort [] (req t) (.finished false) (s.prog t) ∧
      ¬ s.AnsweredRok t (req t)) ?_ ⟨onClientCMP_follows (cmpPowerPortSet_follows_none hwire),
        fun ⟨_, he, _⟩ => absurd he List.not_mem_nil⟩
  · exact hinv.2
  -- its thread is finished without a write from the start, and the other one answers for itself
  rintro s ⟨u, ch⟩ s' ⟨hfollows, hnot⟩ - hstep
  obtain ⟨⟨p, wires', e⟩, hcall, rfl⟩ := Option.map_eq_some_iff.mp hstep
  rcases eq_or_ne u t with rfl | hne
  · obtain ⟨phase', hprotocol, hp⟩ := hfollows.step hcall trivial
    obtain ⟨rfl, hrok⟩ := portProtocol_failed hprotocol
    refine ⟨by simpa using hp, ?_⟩
    rintro ⟨e', he', hanswered⟩
    rcases List.mem_append.mp he' with he' | he'
    · exact hnot ⟨e', he', hanswered⟩
    · obtain ⟨-, rfl⟩ := Prod.mk.inj (List.mem_singleton.mp he')
      exact hrok hanswered
  · refine ⟨by simpa [hne.symm] using hfollows, ?_⟩
    rintro ⟨e', he', hanswered⟩
    rcases List.mem_append.mp he' with he' | he'
    · exact hnot ⟨e', he', hanswered⟩
    · exact hne (Prod.mk.inj (List.mem_singleton.mp he')).1.symm

/-- **When no update is lost.** Two requests for different ports of one wire have been answered
`STATUS_ROK`. Then the device has both states that were requested, and the other two states it
had, if and only if every request one thread made between the other's read and write asked for
the state its port had. -/
theorem cmpPowerPortSet_keeps_updates_iff (mConfig : Config) (req : Bool → PortRequest)
    (wires : Wires) (ls : List (Bool × PortChoice)) (s : PortRun)
    (hwire : (req false).nWire = (req true).nWire) (hport : (req false).nPort ≠ (req true).nPort)
    (hrun : (portSystem mConfig req wires).Run (portSystem mConfig req wires).init ls s)
    (hrok : ∀ t, s.AnsweredRok t (req t)) : ∃ strIP, wireIP (req false).nWire = some strIP ∧
      (KeepsUpdates req (wires strIP) (s.wires strIP) ↔
        ∀ t, Stale t (exchanges s.history) → (req (!t)).change (wires strIP) = wires strIP) := by
  obtain ⟨strIP, hip⟩ : ∃ strIP, wireIP (req false).nWire = some strIP :=
    Option.ne_none_iff_exists'.mp fun hnone => not_answered_of_no_wire hnone hrun (hrok false)
  refine ⟨strIP, hip, ?_⟩
  have hwires : ∀ t, wireIP (req t).nWire = some strIP := by
    intro t
    cases t
    · exact hip
    · rw [← hwire, hip]
  obtain ⟨cell, hinv⟩ := portInv_of_run hwires hrun
  have hdone : ∀ t, cell.phase t = .done := by
    intro t
    obtain ⟨e, he, hanswered⟩ := hrok t
    exact hinv.answered t e he hanswered
  have hcomm : ∀ w, (req true).change ((req false).change w) =
      (req false).change ((req true).change w) := fun w => w.set_comm hport _ _
  -- the library's account of the cell, read as states of ports on both sides
  have hiff := cell_eq_both_iff (f := fun t => (req t).change) hcomm hinv.run hdone
  rw [KeepsUpdates, ← PortState.eq_set_set_iff _ _ hport, ← hinv.value]
  refine hiff.trans (forall_congr' fun t => imp_congr_right fun _ => ?_)
  have hne : (req t).nPort ≠ (req (!t)).nPort := by
    cases t
    · exact hport
    · exact hport.symm
  exact PortState.set_eq_set_set_iff _ hne _ _

end Result

/-- A request for a port of wire 1. -/
def portSetPacket (nPort : Word) (state : UInt8) : Bytes :=
  CmpHeader.bytes ⟨25#32, powerPortSetRequest, statusRok, 1#32⟩ ++
    (beBytes 1#32 ++ (beBytes nPort ++ [state]))

/-- Port 1 on from socket 5, port 2 on from socket 6. -/
def twoRequests (t : Bool) : PortRequest where
  nClientFD := if t then 6 else 5
  pData := portSetPacket (if t then 2#32 else 1#32) 49
  command := by cases t <;> decide

/-- All ports off. -/
def allOff : Wires := fun _ => ⟨false, false, false, false⟩

def config : Config := ⟨ascii "00:11:22:33:44:55", [], []⟩

/-- Threads that take turns in this order, while every exchange comes about. -/
def schedule (ts : List Bool) : List (Bool × PortChoice) := ts.map fun t => (t, {})

/-- One request after the other. -/
theorem cmpPowerPortSet_keeps_updates_iff_serial : ∃ s,
    (portSystem config twoRequests allOff).Run (portSystem config twoRequests allOff).init
      (schedule (List.replicate 5 false ++ List.replicate 5 true)) s ∧
    ∃ strIP, wireIP (twoRequests false).nWire = some strIP ∧
      (KeepsUpdates twoRequests (allOff strIP) (s.wires strIP) ↔
        ∀ t, Stale t (exchanges s.history) →
          (twoRequests (!t)).change (allOff strIP) = allOff strIP) :=
  have hrun : (portSystem config twoRequests allOff).Run
      (portSystem config twoRequests allOff).init
      (schedule (List.replicate 5 false ++ List.replicate 5 true)) _ :=
    LTS.System.run_eq_some_iff.mp rfl
  have hrok : ∀ t, PortRun.AnsweredRok _ t (twoRequests t) := fun
    | false => ⟨_, @List.mem_of_getElem? _ _ 3 _ rfl, rfl⟩
    | true => ⟨_, @List.mem_of_getElem? _ _ 8 _ rfl, rfl⟩
  ⟨_, hrun, cmpPowerPortSet_keeps_updates_iff config twoRequests allOff _ _ rfl (by decide) hrun
    hrok⟩

/-- Both threads read before either writes: port 1 stays off, although both requests have been
answered `STATUS_ROK`. -/
theorem cmpPowerPortSet_loses_update : ∃ s,
    (portSystem config twoRequests allOff).Run (portSystem config twoRequests allOff).init
      (schedule [false, false, true, true, false, true, false, false, true, true]) s ∧
    (∀ t, s.AnsweredRok t (twoRequests t)) ∧
    s.wires (ascii "192.168.0.111") = ⟨false, true, false, false⟩ ∧
    ¬ KeepsUpdates twoRequests (allOff (ascii "192.168.0.111"))
      (s.wires (ascii "192.168.0.111")) :=
  have hrun : (portSystem config twoRequests allOff).Run
      (portSystem config twoRequests allOff).init
      (schedule [false, false, true, true, false, true, false, false, true, true]) _ :=
    LTS.System.run_eq_some_iff.mp rfl
  have hrok : ∀ t, PortRun.AnsweredRok _ t (twoRequests t) := fun
    | false => ⟨_, @List.mem_of_getElem? _ _ 6 _ rfl, rfl⟩
    | true => ⟨_, @List.mem_of_getElem? _ _ 8 _ rfl, rfl⟩
  ⟨_, hrun, hrok, by decide, fun h => absurd (h 1 (by decide) (by decide)) (by decide)⟩

end ControllerSystem.ControllerAw2401
