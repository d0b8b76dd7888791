import ControllerSystem.Controller.Device
import ControllerSystem.Lib.KeepAlive

/-!
# The threads of the Controller

The same server as in `Controller.Server`, taking turns call by call: each client thread handles its
packets, the message loop its notices, and the keep-alive thread does its rounds, and between any
two of their calls the others may run. A thread that leaves its loop posts its notice and then
closes its descriptor, and between the two everything else may happen as well.

Nothing in the source guards the vector `vEnquireLink`; an operation on it, such as `push_back`, or
`erase` with the search before it, is taken to be one step (`turn`).

The state notes what the program does not know: which devices a connection has bound, what has been
inserted since the `DELETE` of a thread, which connection a descriptor denoted when it was put into
`vEnquireLink`, and which connection each `close` has hit.
-/

open Words Calls KeepAlive

namespace ControllerSystem.Controller

/-! ### The state -/

/-- Who makes calls. -/
inductive Worker
  /-- The thread of a connection. -/
  | client (c : ℕ)
  /-- The message loop. -/
  | loop
  /-- The keep-alive thread. -/
  | keepAlive
  deriving DecidableEq

/-- Where the thread of a connection stands. -/
inductive Stage
  /-- In its loop: it handles a packet or waits for one. -/
  | serving
  /-- Out of its loop: the notice is posted, and the descriptor is still to be closed. -/
  | leaving
  | ended
  deriving DecidableEq

structure Threads where
  sockets : Sockets ℤ
  stage : ℕ → Stage
  /-- The connections to the center. -/
  toCenter : ℕ → Bool
  /-- What is left to do; `ret` when nothing is. -/
  program : Worker → ControllerProg Unit
  queue : List Notice
  device : Device
  /-- The connections with the devices they have bound, as long as they have neither sent an unbind
  request nor hung up. -/
  bound : List (ℕ × Bytes)
  /-- The descriptor whose rows the keep-alive thread has deleted, and which it is to close. -/
  dropping : Option ℤ
  /-- What is left of the rows inserted since the last `DELETE` of a thread. -/
  newer : Worker → List DeviceRow
  /-- The connection a descriptor denoted when it was put into `vEnquireLink`. -/
  asked : ℤ → Option ℕ
  /-- For each `close`, the connection served and the one hit, if there was one. -/
  closes : List (Option ℕ × Option ℕ)

/-! ### One turn -/

/-- The next call of a program; where this reads `vEnquireLink` to write it back, the write too. The
result is what is left, the state afterwards, and the last call made. -/
def turn (p : ControllerProg Unit) (s : Device) (ch : DeviceChoice) :
    Option (ControllerProg Unit × Device × ControllerEvent) :=
  (p.stepIn Device.answer s ch).bind fun (p₁, s₁, e) =>
    if e.1 = .loadEnquireLink then
      match p₁ with
      | .call (.storeEnquireLink v) k =>
        some (k (), { s₁ with vEnquireLink := v }, ⟨.storeEnquireLink v, ()⟩)
      | _ => some (p₁, s₁, e)
    else some (p₁, s₁, e)

/-- Who has bound what, after a statement of a worker. -/
def Threads.boundAfter (s : Threads) : Worker → ControllerEvent → List (ℕ × Bytes)
  | .client c, ⟨.deviceExec (.insert strId _), rc⟩ =>
    if rc = sqliteOk then s.bound ++ [(c, strId)] else s.bound
  | .client c, ⟨.deviceExec (.setUnbind _), _⟩ => s.bound.filter fun b => b.1 ≠ c
  | _, _ => s.bound

/-- Which descriptor is being dropped, after a call of the keep-alive thread. -/
def Threads.droppingAfter (s : Threads) : ControllerEvent → Option ℤ
  | ⟨.deviceExec (.deleteBySocketFD nSocketFD), rc⟩ =>
    if rc = sqliteOk then some nSocketFD else none
  | ⟨.close _, _⟩ => none
  | _ => s.dropping

/-- What has been inserted since the last `DELETE` of each thread: a statement does to these rows
what it does to the table. -/
def Threads.newerAfter (s : Threads) (w : Worker) : ControllerEvent → Worker → List DeviceRow
  | ⟨.deviceExec (.deleteById strId), rc⟩, w' =>
    if rc ≠ sqliteOk then s.newer w'
    else if w' = w then []
    else (DeviceSql.deleteById strId).exec (s.newer w')
  | ⟨.deviceExec sql, rc⟩, w' => if rc ≠ sqliteOk then s.newer w' else sql.exec (s.newer w')
  | _, w' => s.newer w'

/-- The state after a turn of a worker. -/
def Threads.act (s : Threads) (w : Worker) (p : ControllerProg Unit) (device : Device)
    (e : ControllerEvent) : Threads :=
  { s with
    sockets := s.sockets.closeAll (closed [e])
    program := Function.update s.program w p
    device := device
    bound := s.boundAfter w e
    dropping := s.droppingAfter e
    newer := s.newerAfter w e
    asked := fun f =>
      if f ∈ device.vEnquireLink ∧ f ∉ s.device.vEnquireLink then s.sockets.conn f else s.asked f
    closes := s.closes ++ (closed [e]).map fun f => (s.asked f, s.sockets.conn f) }

/-! ### The steps -/

inductive ThreadsLabel
  /-- A client is accepted, with a descriptor that is not in use. -/
  | accept (nChildSocketFD : ℤ)
  /-- `CSocketClient::start` opens a socket to the center, with a descriptor that is not in use. -/
  | connect (nSocketFD : ℤ)
  /-- A thread has read a packet. -/
  | receive (c : ℕ) (pData : Bytes)
  /-- A worker takes its turn. -/
  | call (w : Worker) (ch : DeviceChoice)
  /-- The receive call of a thread returns less than was asked for: the thread posts its notice. -/
  | hangUp (c : ℕ)
  /-- The thread closes its descriptor, whatever this denotes by now, and ends. -/
  | socketClose (c : ℕ)
  /-- The message loop takes the first notice from the queue. -/
  | notice
  /-- The keep-alive thread wakes up, and takes its first turn. -/
  | tick (ch : DeviceChoice)

/-- A new connection, and its thread. -/
def Threads.opened (s : Threads) (nSocketFD : ℤ) (toCenter : Bool) (queue : List Notice) :
    Threads :=
  { s with
    sockets := s.sockets.accept nSocketFD
    stage := Function.update s.stage s.sockets.opened .serving
    toCenter := Function.update s.toCenter s.sockets.opened toCenter
    program := Function.update s.program (.client s.sockets.opened) (.ret ())
    queue := queue }

/-- Nothing is left to do. -/
def Idle : ControllerProg Unit → Bool
  | .ret _ => true
  | .call _ _ => false

def threadsStep (mConfig : Config) (s : Threads) : ThreadsLabel → Option Threads
  | .accept nChildSocketFD =>
    if s.sockets.conn nChildSocketFD = none then
      some (s.opened nChildSocketFD false (s.queue ++ [.clientConnect nChildSocketFD]))
    else none
  | .connect nSocketFD =>
    if s.sockets.conn nSocketFD = none then some (s.opened nSocketFD true s.queue) else none
  | .receive c pData =>
    if s.stage c = .serving ∧ Idle (s.program (.client c)) then
      (s.sockets.fd c).map fun nFD =>
        { s with
          program := Function.update s.program (.client c)
            (if s.toCenter c then onCenterCMP mConfig nFD pData
              else onClientCMP mConfig nFD pData) }
    else none
  | .call w ch =>
    (turn (s.program w) s.device ch).map fun r => s.act w r.1 r.2.1 r.2.2
  | .hangUp c =>
    if s.stage c = .serving ∧ Idle (s.program (.client c)) then
      (s.sockets.fd c).map fun nFD =>
        { s with
          stage := Function.update s.stage c .leaving
          queue := s.queue ++
            [if s.toCenter c then .centerDisconnect nFD else .clientDisconnect nFD]
          bound := s.bound.filter fun b => b.1 ≠ c }
    else none
  | .socketClose c =>
    if s.stage c = .leaving then
      (s.sockets.fd c).map fun nFD =>
        { s with
          sockets := s.sockets.closeAll [nFD]
          stage := Function.update s.stage c .ended
          closes := s.closes ++ [(some c, s.sockets.conn nFD)] }
    else none
  | .notice =>
    match s.queue with
    | [] => none
    | notice :: rest =>
      if Idle (s.program .loop) then
        some { s with
          program := Function.update s.program .loop (onReceiveMessage notice)
          queue := rest }
      else none
  | .tick ch =>
    if Idle (s.program .keepAlive) then
      (turn (enquireLinkRound mConfig) s.device ch).map fun r => s.act .keepAlive r.1 r.2.1 r.2.2
    else none

/-- The Controller, call by call. -/
def threadsSystem (mConfig : Config) : LTS.System Threads ThreadsLabel where
  init := ⟨.start, fun _ => .ended, fun _ => false, fun _ => .ret (), [], .start, [], none,
    fun _ => [], fun _ => none, []⟩
  step := threadsStep mConfig

/-! ### What a turn does -/

/-- The call a program makes next. -/
def next : ControllerProg Unit → Option ControllerCall
  | .ret _ => none
  | .call c _ => some c

section Turn

variable {p p' : ControllerProg Unit} {s s' : Device} {ch : DeviceChoice} {e : ControllerEvent}

/-- The two kinds of turns. -/
inductive Turns : ControllerProg Unit → Device → DeviceChoice → ControllerProg Unit → Device →
    ControllerEvent → Prop
  | call (c : ControllerCall) (k : c.Res → ControllerProg Unit) (s : Device) (ch : DeviceChoice) :
      Turns (.call c k) s ch (k (s.answer c ch).1) (s.answer c ch).2 ⟨c, (s.answer c ch).1⟩
  | update (k : List ℤ → ControllerProg Unit) (s : Device) (ch : DeviceChoice) (v : List ℤ)
      (k' : Unit → ControllerProg Unit) (h : k s.vEnquireLink = .call (.storeEnquireLink v) k') :
      Turns (.call .loadEnquireLink k) s ch (k' ()) { s with vEnquireLink := v }
        ⟨.storeEnquireLink v, ()⟩

theorem turns_of_turn (h : turn p s ch = some (p', s', e)) : Turns p s ch p' s' e := by
  obtain ⟨⟨p₁, s₁, e₁⟩, hstep, h⟩ := Option.bind_eq_some_iff.mp h
  obtain ⟨c, k, rfl, rfl, rfl, rfl⟩ := Prog.stepIn_eq_some.mp hstep
  dsimp only at h
  split at h
  · next hload =>
    subst hload
    split at h
    · next v k' hnext =>
      cases h
      exact .update k s ch v k' hnext
    · cases h
      exact .call .loadEnquireLink k s ch
  · cases h
    exact .call c k s ch

/-- A turn makes one of the calls the program may make. -/
theorem Turns.forall_step {P : ControllerCall → Prop} (h : Turns p s ch p' s' e)
    (hp : p.Forall P) : P e.1 ∧ p'.Forall P := by
  cases h with
  | call c k => exact ⟨hp.1, hp.2 _⟩
  | update k _ _ v k' hnext =>
    have hstore := hp.2 s.vEnquireLink
    rw [hnext] at hstore
    exact ⟨hstore.1, hstore.2 ()⟩

/-- What is left behind a turn follows the automaton from the next state, when a read of
`vEnquireLink` in front of the write makes no difference to this. -/
theorem Turns.follows {Q : Type} {δ : Q → ControllerEvent → Option Q} {fin : Q → Prop} {q : Q}
    (h : Turns p s ch p' s' e) (hp : p.Follows δ (fun _ => True) fin q)
    (hload : ∀ v v' q', δ q ⟨.loadEnquireLink, v⟩ = some q' →
      δ q' ⟨.storeEnquireLink v', ()⟩ = δ q ⟨.storeEnquireLink v', ()⟩) :
    ∃ q', δ q e = some q' ∧ p'.Follows δ (fun _ => True) fin q' := by
  cases h with
  | call c k => exact hp _ trivial
  | update k _ _ v k' hnext =>
    obtain ⟨q₁, hq₁, hk⟩ := hp s.vEnquireLink trivial
    rw [hnext] at hk
    obtain ⟨q₂, hq₂, hk'⟩ := hk () trivial
    exact ⟨q₂, (hload _ _ _ hq₁).symm.trans hq₂, hk'⟩

theorem Turns.next_eq {sql : DeviceSql} {rc : ℤ} (h : Turns p s ch p' s' ⟨.deviceExec sql, rc⟩) :
    next p = some (.deviceExec sql) := by
  cases h
  rfl

theorem Turns.next_close {nFD : ℤ} (h : Turns p s ch p' s' e) (he : e.1 = .close nFD) :
    next p = some (.close nFD) := by
  cases h with
  | call => exact congrArg some he
  | update => cases he

/-- A statement whose text is the one meant is executed as it is meant, or fails. -/
theorem Turns.exec {sql : DeviceSql} {rc : ℤ} (h : Turns p s ch p' s' ⟨.deviceExec sql, rc⟩)
    (hquote : sql.QuoteFree) :
    rc = ch.rc ∧ s'.rows = if rc = sqliteOk then sql.exec s.rows else s.rows := by
  cases h with
  | call =>
    rw [s.answer_deviceExec_quoteFree ch hquote]
    exact ⟨rfl, apply_ite Device.rows _ _ _⟩

/-- Only statements write the table. -/
theorem Turns.rows_eq (h : Turns p s ch p' s' e) (he : ∀ sql, e.1 ≠ .deviceExec sql) :
    s'.rows = s.rows := by
  cases h with
  | call c k =>
    cases c with
    | deviceExec sql => exact absurd rfl (he sql)
    | _ => rfl
  | update => rfl

end Turn

/-! ### What a step does -/

/-- What is done by the steps. -/
inductive Steps (mConfig : Config) (s : Threads) : ThreadsLabel → Threads → Prop
  | accept {nFD : ℤ} (hfree : s.sockets.conn nFD = none) :
      Steps mConfig s (.accept nFD) (s.opened nFD false (s.queue ++ [.clientConnect nFD]))
  | connect {nFD : ℤ} (hfree : s.sockets.conn nFD = none) :
      Steps mConfig s (.connect nFD) (s.opened nFD true s.queue)
  | receive {c : ℕ} {pData : Bytes} {nFD : ℤ} (hfd : s.sockets.fd c = some nFD) :
      Steps mConfig s (.receive c pData)
        { s with
          program := Function.update s.program (.client c)
            (onCMPWith (cmpRequest mConfig) nFD pData) }
  | call {w : Worker} {ch : DeviceChoice} {p : ControllerProg Unit} {d : Device}
      {e : ControllerEvent} (hturn : Turns (s.program w) s.device ch p d e) :
      Steps mConfig s (.call w ch) (s.act w p d e)
  | hangUp {c : ℕ} {notice : Notice} (hstage : s.stage c = .serving) :
      Steps mConfig s (.hangUp c)
        { s with
          stage := Function.update s.stage c .leaving
          queue := s.queue ++ [notice]
          bound := s.bound.filter fun b => b.1 ≠ c }
  | socketClose {c : ℕ} {nFD : ℤ} (hstage : s.stage c = .leaving)
      (hfd : s.sockets.fd c = some nFD) :
      Steps mConfig s (.socketClose c)
        { s with
          sockets := s.sockets.closeAll [nFD]
          stage := Function.update s.stage c .ended
          closes := s.closes ++ [(some c, s.sockets.conn nFD)] }
  | notice {notice : Notice} {rest : List Notice} :
      Steps mConfig s .notice
        { s with
          program := Function.update s.program .loop (onReceiveMessage notice)
          queue := rest }
  | tick {ch : DeviceChoice} {p : ControllerProg Unit} {d : Device} {e : ControllerEvent}
      (hidle : s.program .keepAlive = .ret ())
      (hturn : Turns (enquireLinkRound mConfig) s.device ch p d e) :
      Steps mConfig s (.tick ch) (s.act .keepAlive p d e)

theorem eq_ret_of_idle {p : ControllerProg Unit} (h : Idle p) : p = .ret () := by
  cases p with
  | ret => rfl
  | call => cases h

theorem steps_of_step {mConfig : Config} {s s' : Threads} {l : ThreadsLabel}
    (h : (threadsSystem mConfig).step s l = some s') : Steps mConfig s l s' := by
  change threadsStep mConfig s l = some s' at h
  cases l with
  | accept nFD =>
    simp only [threadsStep] at h
    split at h
    · next hfree =>
      cases h
      exact .accept hfree
    · cases h
  | connect nFD =>
    simp only [threadsStep] at h
    split at h
    · next hfree =>
      cases h
      exact .connect hfree
    · cases h
  | receive c pData =>
    simp only [threadsStep] at h
    split at h
    · obtain ⟨nFD, hfd, rfl⟩ := Option.map_eq_some_iff.mp h
      -- the packets of the center are handled by the same program
      have hsame : onCenterCMP mConfig nFD pData = onClientCMP mConfig nFD pData := rfl
      rw [hsame, ite_self]
      exact .receive hfd
    · cases h
  | call w ch =>
    obtain ⟨⟨p, d, e⟩, hturn, rfl⟩ := Option.map_eq_some_iff.mp h
    exact .call (turns_of_turn hturn)
  | hangUp c =>
    simp only [threadsStep] at h
    split at h
    · next hserving =>
      obtain ⟨nFD, -, rfl⟩ := Option.map_eq_some_iff.mp h
      exact .hangUp hserving.1
    · cases h
  | socketClose c =>
    simp only [threadsStep] at h
    split at h
    · next hstage =>
      obtain ⟨nFD, hfd, rfl⟩ := Option.map_eq_some_iff.mp h
      exact .socketClose hstage hfd
    · cases h
  | notice =>
    simp only [threadsStep] at h
    split at h
    · cases h
    split at h
    · cases h
      exact .notice
    · cases h
  | tick ch =>
    simp only [threadsStep] at h
    split at h
    · next hidle =>
      obtain ⟨⟨p, d, e⟩, hturn, rfl⟩ := Option.map_eq_some_iff.mp h
      exact .tick (eq_ret_of_idle hidle) (turns_of_turn hturn)
    · cases h

/-! ### What the programs of the threads do -/

/-- The calls of a thread that serves a descriptor: it drops and closes none, and the rows it
inserts are of this one. -/
def Serves (nFD : ℤ) : ControllerCall → Prop
  | .close _ => False
  | .deviceExec (.deleteBySocketFD _) => False
  | .deviceExec (.insert _ nSocket) => nSocket = nFD
  | _ => True

section Serves

variable {nFD : ℤ} {mConfig : Config} {pData : Bytes}

/-- Whatever is sent to the center, no socket is closed and no row inserted. -/
theorem CenterRequestCall.serves {c : ControllerCall} (hc : CenterRequestCall c) :
    Serves nFD c := by
  cases hc <;> trivial

/-- A packet is handled for the descriptor it came from: the row of a bind request is that of its
socket. -/
theorem onCMPWith_serves : (onCMPWith (cmpRequest mConfig) nFD pData).Forall (Serves nFD) := by
  refine onCMPWith_calls.mono fun c hc => ?_
  rcases hc with hc | hc
  · cases hc with
    | insert => rfl
    | center hc => exact hc.serves
    | _ => trivial
  · cases hc <;> trivial

theorem onReceiveMessage_serves (notice : Notice) :
    (onReceiveMessage notice).Forall (Serves nFD) := by
  cases notice with
  | clientConnect nId => exact ⟨trivial, fun _ => trivial⟩
  | clientDisconnect nId => exact ⟨trivial, fun _ => trivial⟩
  | centerDisconnect nId => trivial

end Serves

/-- What holds of every state: the descriptors denote connections that have them, and every thread
works for its own descriptor. -/
structure Threads.Wellformed (s : Threads) : Prop where
  valid : s.sockets.Valid
  lt_opened : ∀ {c f}, s.sockets.fd c = some f → c < s.sockets.opened
  idle : ∀ {c}, s.sockets.fd c = none → s.program (.client c) = .ret ()
  client : ∀ {c f}, s.sockets.fd c = some f → (s.program (.client c)).Forall (Serves f)
  loop : ∀ f, (s.program .loop).Forall (Serves f)

section Wellformed

variable {mConfig : Config} {s s' : Threads}

theorem wellformed_init : (threadsSystem mConfig).init.Wellformed :=
  ⟨Sockets.valid_start, fun hfd => by simp [threadsSystem, Sockets.start] at hfd, fun _ => rfl,
    fun _ => trivial, fun _ => trivial⟩

section Opened

variable (s : Threads) (f : ℤ) (toCenter : Bool) (queue : List Notice) {c : ℕ}

/-- A new connection has nothing to do yet. -/
theorem opened_program_self :
    (s.opened f toCenter queue).program (.client s.sockets.opened) = .ret () :=
  Function.update_self _ _ _

theorem opened_program_of_ne (hne : c ≠ s.sockets.opened) :
    (s.opened f toCenter queue).program (.client c) = s.program (.client c) :=
  Function.update_of_ne (fun heq => hne (Worker.client.inj heq)) _ _

theorem opened_fd_of_ne (hne : c ≠ s.sockets.opened) :
    (s.opened f toCenter queue).sockets.fd c = s.sockets.fd c := Function.update_of_ne hne _ _

end Opened

theorem Threads.Wellformed.opened (h : s.Wellformed) (f : ℤ) (toCenter : Bool)
    (queue : List Notice) : (s.opened f toCenter queue).Wellformed where
  valid := h.valid.accept f
  lt_opened := by
    intro c f' hfd
    show c < s.sockets.opened + 1
    rcases eq_or_ne c s.sockets.opened with rfl | hne
    · exact Nat.lt_succ_self _
    · rw [opened_fd_of_ne s f toCenter queue hne] at hfd
      exact Nat.lt_succ_of_lt (h.lt_opened hfd)
  idle := by
    intro c hfd
    rcases eq_or_ne c s.sockets.opened with rfl | hne
    · exact opened_program_self s f toCenter queue
    · rw [opened_fd_of_ne s f toCenter queue hne] at hfd
      rw [opened_program_of_ne s f toCenter queue hne]
      exact h.idle hfd
  client := by
    intro c f' hfd
    rcases eq_or_ne c s.sockets.opened with rfl | hne
    · rw [opened_program_self s f toCenter queue]
      trivial
    · rw [opened_fd_of_ne s f toCenter queue hne] at hfd
      rw [opened_program_of_ne s f toCenter queue hne]
      exact h.client hfd
  loop := h.loop

/-- A new program for one worker. -/
theorem Threads.Wellformed.update (h : s.Wellformed) {w : Worker} {p : ControllerProg Unit}
    (hclient : ∀ c, w = .client c → ∃ f, s.sockets.fd c = some f ∧ p.Forall (Serves f))
    (hloop : w = .loop → ∀ f, p.Forall (Serves f)) (hs : s'.sockets.Valid)
    (hfd : s'.sockets.fd = s.sockets.fd) (hopened : s'.sockets.opened = s.sockets.opened)
    (hprogram : s'.program = Function.update s.program w p) : s'.Wellformed where
  valid := hs
  lt_opened := by
    intro c f hc
    rw [hfd] at hc
    rw [hopened]
    exact h.lt_opened hc
  idle := by
    intro c hc
    rw [hfd] at hc
    have hne : Worker.client c ≠ w := by
      intro heq
      obtain ⟨f, hf, -⟩ := hclient c heq.symm
      rw [hc] at hf
      cases hf
    rw [hprogram, Function.update_of_ne hne]
    exact h.idle hc
  client := by
    intro c f hc
    rw [hfd] at hc
    rw [hprogram]
    rcases eq_or_ne (Worker.client c) w with heq | hne
    · obtain ⟨f', hf', hserves⟩ := hclient c heq.symm
      obtain rfl : f' = f := Option.some.inj (hf'.symm.trans hc)
      rw [heq, Function.update_self]
      exact hserves
    · rw [Function.update_of_ne hne]
      exact h.client hc
  loop := by
    intro f
    rw [hprogram]
    rcases eq_or_ne Worker.loop w with heq | hne
    · rw [heq, Function.update_self]
      exact hloop heq.symm f
    · rw [Function.update_of_ne hne]
      exact h.loop f

/-- A thread that makes a call serves a descriptor. -/
theorem Threads.Wellformed.exists_fd (h : s.Wellformed) {c : ℕ} {ch : DeviceChoice}
    {p : ControllerProg Unit} {d : Device} {e : ControllerEvent}
    (hturn : Turns (s.program (.client c)) s.device ch p d e) : ∃ f, s.sockets.fd c = some f := by
  cases hfd : s.sockets.fd c with
  | some f => exact ⟨f, rfl⟩
  | none =>
    rw [h.idle hfd] at hturn
    cases hturn

theorem Threads.Wellformed.call (h : s.Wellformed) {w : Worker} {ch : DeviceChoice}
    {p : ControllerProg Unit} {d : Device} {e : ControllerEvent}
    (hturn : Turns (s.program w) s.device ch p d e) : (s.act w p d e).Wellformed := by
  refine h.update (w := w) (p := p) ?_ ?_ (h.valid.closeAll _) rfl rfl rfl
  · rintro c rfl
    obtain ⟨f, hfd⟩ := h.exists_fd hturn
    exact ⟨f, hfd, (hturn.forall_step (h.client hfd)).2⟩
  · rintro rfl f
    exact (hturn.forall_step (h.loop f)).2

/-- **Every step keeps the threads in order.** -/
theorem Threads.Wellformed.step (h : s.Wellformed) {l : ThreadsLabel}
    (hstep : (threadsSystem mConfig).step s l = some s') : s'.Wellformed := by
  cases steps_of_step hstep with
  | accept => exact h.opened _ _ _
  | connect => exact h.opened _ _ _
  | @receive c pData nFD hfd =>
    refine h.update (w := .client c) ?_ (fun heq => by cases heq) h.valid rfl rfl rfl
    rintro c' heq
    cases heq
    exact ⟨nFD, hfd, onCMPWith_serves⟩
  | call hturn => exact h.call hturn
  | hangUp => exact ⟨h.valid, h.lt_opened, h.idle, h.client, h.loop⟩
  | socketClose => exact ⟨h.valid.closeAll _, h.lt_opened, h.idle, h.client, h.loop⟩
  | notice =>
    refine h.update (w := .loop) (fun c heq => by cases heq) ?_ h.valid rfl rfl rfl
    exact fun _ _ => onReceiveMessage_serves _
  | tick _ hturn =>
    exact h.update (w := .keepAlive) (fun c heq => by cases heq) (fun heq => by cases heq)
      (h.valid.closeAll _) rfl rfl rfl

end Wellformed

end ControllerSystem.Controller
