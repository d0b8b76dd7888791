import ControllerSystem.Controller.Device
import ControllerSystem.Lib.KeepAlive

/-!
# The server of the Controller

The handlers together with their sockets: those of the clients, and the one to the center. Unlike
in the ControlCenter a packet is handled at once, in the thread that has read it; only the notices
of the socket threads go through a queue. The events are atomic and come in any order, and a
closed descriptor may be given to a later connection.

As in the ControlCenter the server is a keep-alive protocol over descriptors: `keepAlive_step`. No
response waits in a queue, so what the protocol says of a round, `closed_justified`, needs only that
no descriptor is given away while it is in `vEnquireLink`.
-/

open Words Calls KeepAlive

namespace ControllerSystem.Controller

/-! ### The state -/

structure Server where
  sockets : Sockets ℤ
  /-- The connections whose thread has not ended. -/
  reading : ℕ → Bool
  /-- The connections to the center. -/
  toCenter : ℕ → Bool
  queue : List Notice
  device : Device
  /-- Who has been asked and has answered; the program does not know it. -/
  log : Log

/-! ### The events -/

inductive ServerLabel
  /-- A client is accepted, with a descriptor that is not in use. -/
  | accept (nChildSocketFD : ℤ)
  /-- `CSocketClient::start` opens a socket to the center, with a descriptor that is not in use. -/
  | connect (nSocketFD : ℤ)
  /-- A packet of a connection has been read, and is handled. The thread may be that of an older
  connection, whose descriptor was closed and is the same. -/
  | receive (c : ℕ) (pData : Bytes) (chs : List DeviceChoice)
  /-- The thread of a connection ends, and closes its descriptor, whatever this denotes by now. -/
  | exit (c : ℕ)
  /-- The message loop handles the first notice of the queue. -/
  | notice (chs : List DeviceChoice)
  /-- The keep-alive thread does a round. -/
  | tick (chs : List DeviceChoice)

/-- A new connection. -/
def Server.opened (s : Server) (nSocketFD : ℤ) (toCenter : Bool) (queue : List Notice) : Server :=
  { s with
    sockets := s.sockets.accept nSocketFD
    reading := Function.update s.reading s.sockets.opened true
    toCenter := Function.update s.toCenter s.sockets.opened toCenter
    queue := queue }

/-- A step, with the calls of the handlers or of the keep-alive thread. -/
def serverStep (mConfig : Config) (s : Server) :
    ServerLabel → Option (Server × List ControllerEvent)
  | .accept nChildSocketFD =>
    if s.sockets.conn nChildSocketFD = none then
      some (s.opened nChildSocketFD false (s.queue ++ [.clientConnect nChildSocketFD]), [])
    else none
  | .connect nSocketFD =>
    -- a connection to the center is not announced
    if s.sockets.conn nSocketFD = none then some (s.opened nSocketFD true s.queue, []) else none
  | .receive c pData chs =>
    (s.sockets.fd c).bind fun nFD =>
      (Device.run (if s.toCenter c then onCenterCMP mConfig nFD pData
          else onClientCMP mConfig nFD pData) s.device chs).map fun r =>
        ({ s with
          sockets := s.sockets.closeAll (closed r.2.2)
          device := r.2.1
          log := if getCommand pData = enquireLinkResponse then s.log.answer c else s.log }, r.2.2)
  | .exit c =>
    if s.reading c then
      (s.sockets.fd c).map fun nFD =>
        ({ s with
          sockets := s.sockets.closeAll [nFD]
          reading := Function.update s.reading c false
          queue := s.queue ++
            [if s.toCenter c then .centerDisconnect nFD else .clientDisconnect nFD] }, [])
    else none
  | .notice chs =>
    match s.queue with
    | [] => none
    | notice :: rest =>
      (Device.run (onReceiveMessage notice) s.device chs).map fun r =>
        ({ s with
          sockets := s.sockets.closeAll (closed r.2.2)
          device := r.2.1
          queue := rest }, r.2.2)
  | .tick chs =>
    (Device.run (enquireLinkRound mConfig) s.device chs).map fun r =>
      ({ s with
        sockets := s.sockets.closeAll (closed r.2.2)
        device := r.2.1
        log := .round (s.sockets.closeAll (closed r.2.2)) (enquired r.2.2) }, r.2.2)

/-- The Controller with its sockets. -/
def serverSystem (mConfig : Config) : LTS.System Server ServerLabel where
  init := ⟨.start, fun _ => false, fun _ => false, [], .start, .start⟩
  step := fun s l => (serverStep mConfig s l).map Prod.fst

/-! ### The keep-alive protocol -/

/-- No socket is opened with a descriptor of `vEnquireLink`. -/
def Server.Fresh (s : Server) : ServerLabel → Prop
  | .accept nChildSocketFD => nChildSocketFD ∉ s.device.vEnquireLink
  | .connect nSocketFD => nSocketFD ∉ s.device.vEnquireLink
  | _ => True

/-- The state of the keep-alive protocol. -/
def Server.keepAlive (s : Server) : KeepAlive.State ℤ :=
  ⟨s.sockets, s.device.vEnquireLink, [], s.log⟩

section Protocol

variable {mConfig : Config} {s s' : Server} {tr : List ControllerEvent}
  {chs : List DeviceChoice}

theorem serverSystem_step_eq_some {l : ServerLabel} :
    (serverSystem mConfig).step s l = some s' ↔ ∃ tr, serverStep mConfig s l = some (s', tr) := by
  simp [serverSystem, Option.map_eq_some_iff]

/-- A new connection is one of the protocol. -/
theorem opened_keepAlive {nSocketFD : ℤ} {toCenter : Bool} {queue : List Notice}
    (hfree : s.sockets.conn nSocketFD = none) (hfresh : nSocketFD ∉ s.device.vEnquireLink) :
    ∃ ls, (system ℤ).RunWhere Ok s.keepAlive ls (s.opened nSocketFD toCenter queue).keepAlive :=
  @run_step _ _ _ _ (.accept nSocketFD) hfresh (if_pos hfree)

/-- A packet that is a response is an answer, which is handled at once. -/
theorem receive_keepAlive {c : ℕ} {pData : Bytes}
    (hstep : serverStep mConfig s (.receive c pData chs) = some (s', tr)) :
    ∃ ls, (system ℤ).RunWhere Ok s.keepAlive ls s'.keepAlive := by
  obtain ⟨nFD, hfd, hmap⟩ := Option.bind_eq_some_iff.mp hstep
  obtain ⟨⟨⟨⟩, device, tr'⟩, hrun, heq⟩ := Option.map_eq_some_iff.mp hmap
  obtain ⟨rfl, rfl⟩ := Prod.mk.inj heq
  -- the packets of the center are handled by the same program
  have hsame : onCenterCMP mConfig nFD pData = onClientCMP mConfig nFD pData := rfl
  rw [hsame, ite_self] at hrun
  obtain ⟨hlink, hclosed⟩ := onClientCMP_run hrun
  dsimp only
  rw [hclosed, Sockets.closeAll_nil]
  by_cases hresponse : getCommand pData = enquireLinkResponse
  · -- no other answer is in the queue, so this is the one handled
    rw [if_pos hresponse] at hlink
    refine ⟨[.answer c, .handle], .cons trivial (Option.map_eq_some_iff.mpr ⟨nFD, hfd, rfl⟩)
      (.cons trivial ?_ (.nil _))⟩
    simp [KeepAlive.step, system, Server.keepAlive, hlink, hresponse]
  · rw [if_neg hresponse] at hlink
    refine run_eq ?_
    simp [Server.keepAlive, hlink, hresponse]

/-- A round closes the sockets of `vEnquireLink` and asks those of the new one. -/
theorem serverStep_tick (hstep : serverStep mConfig s (.tick chs) = some (s', tr)) :
    closed tr = s.device.vEnquireLink ∧
      KeepAlive.step s.keepAlive (.round (enquired tr)) = some s'.keepAlive := by
  obtain ⟨⟨⟨⟩, device, tr'⟩, hrun, heq⟩ := Option.map_eq_some_iff.mp hstep
  obtain ⟨rfl, rfl⟩ := Prod.mk.inj heq
  obtain ⟨hclosed, henquired⟩ := enquireLinkRound_run hrun
  refine ⟨hclosed, ?_⟩
  simp [KeepAlive.step, Server.keepAlive, henquired, hclosed]

/-- Where no answer waits in the queue, a round may begin. -/
theorem ok_round (s : Server) (l : List ℤ) : Ok s.keepAlive (.round l) :=
  fun _ hf => List.count_pos_iff.mpr hf

/-- **Every event is a run of the protocol.** -/
theorem keepAlive_step {l : ServerLabel} (hfresh : s.Fresh l)
    (hstep : (serverSystem mConfig).step s l = some s') :
    ∃ ls, (system ℤ).RunWhere Ok s.keepAlive ls s'.keepAlive := by
  obtain ⟨tr, hstep⟩ := serverSystem_step_eq_some.mp hstep
  cases l with
  | accept nChildSocketFD =>
    simp only [serverStep] at hstep
    split at hstep
    · next hfree =>
      obtain ⟨rfl, -⟩ := Prod.mk.inj (Option.some.inj hstep)
      exact opened_keepAlive hfree hfresh
    · cases hstep
  | connect nSocketFD =>
    simp only [serverStep] at hstep
    split at hstep
    · next hfree =>
      obtain ⟨rfl, -⟩ := Prod.mk.inj (Option.some.inj hstep)
      exact opened_keepAlive hfree hfresh
    · cases hstep
  | receive c pData chs => exact receive_keepAlive hstep
  | exit c =>
    simp only [serverStep] at hstep
    split at hstep
    · obtain ⟨nFD, -, heq⟩ := Option.map_eq_some_iff.mp hstep
      obtain ⟨rfl, -⟩ := Prod.mk.inj heq
      exact @run_step _ _ _ _ (.close nFD) trivial rfl
    · cases hstep
  | notice chs =>
    simp only [serverStep] at hstep
    split at hstep
    · cases hstep
    · next notice rest hqueue =>
      obtain ⟨⟨⟨⟩, device, tr'⟩, hrun, heq⟩ := Option.map_eq_some_iff.mp hstep
      obtain ⟨rfl, rfl⟩ := Prod.mk.inj heq
      -- not even the notice that a connection has ended changes `vEnquireLink`
      obtain ⟨hlink, hclosed⟩ := onReceiveMessage_run hrun
      refine run_eq ?_
      simp [Server.keepAlive, hlink, hclosed]
  | tick chs => exact run_step (ok_round s _) (serverStep_tick hstep).2

theorem keepAlive_run {ls : List ServerLabel}
    (h : (serverSystem mConfig).RunWhere Server.Fresh (serverSystem mConfig).init ls s) :
    ∃ ls', (system ℤ).RunWhere Ok (system ℤ).init ls' s.keepAlive :=
  h.simulate Server.keepAlive fun _ _ _ hfresh hstep => keepAlive_step hfresh hstep

/-- **Whom a round drops:** connections that were there at the round before, were asked then, and
have answered fewer times than they were asked. -/
theorem closed_justified {ls : List ServerLabel}
    (h : (serverSystem mConfig).RunWhere Server.Fresh (serverSystem mConfig).init ls s)
    (hstep : serverStep mConfig s (.tick chs) = some (s', tr))
    {nSocketFD : ℤ} (hclosed : nSocketFD ∈ closed tr) {c : ℕ}
    (hconn : s.sockets.conn nSocketFD = some c) :
    s.log.answers c < s.log.asks c ∧ c < s.log.openedBefore := by
  obtain ⟨ls', hrun⟩ := keepAlive_run h
  rw [(serverStep_tick hstep).1] at hclosed
  exact drop_justified hrun (ok_round s []) hclosed hconn

end Protocol

end ControllerSystem.Controller
