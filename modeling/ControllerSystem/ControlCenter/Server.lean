import ControllerSystem.ControlCenter.Center
import ControllerSystem.Lib.KeepAlive

/-!
# The server of the ControlCenter

The handlers together with what they serve: the sockets, the threads that read them
(`CSocketServer::runSMSHandler`), and the queue of messages between these threads and the message
loop (`CControlCenter::onReceiveMessage`). The events are atomic and come in any order: a client
is accepted, a packet of it is read, its thread ends, the message loop handles a message, the
keep-alive thread does a round.

A connection is known to the handlers by its descriptor alone, and the operating system gives a
descriptor that has been closed to a later connection. What the program does not know is kept
beside it, and no step depends on it: which connection has sent a queued packet, who has been asked
and has answered (`log`), who has sent a bind request and who has been told that it is unbound
(`facts`).

What each event can do is said once, in the lemmas `serverStep_accept` to `serverStep_tick`.
-/

open Words Calls KeepAlive

namespace ControllerSystem.ControlCenter

/-! ### The state -/

/-- A message in the queue of the message loop. -/
inductive Message
  /-- `EVENT_COMMAND_SOCKET_CONTROL_CENTER_RECEIVE`, with the connection the packet came from. -/
  | packet (nClientFD : ℤ) (pData : Bytes) (sender : ℕ)
  /-- `EVENT_COMMAND_SOCKET_CLIENT_DISCONNECT`. -/
  | disconnect (nClientFD : ℤ)

/-- What is known of who is bound. -/
inductive BindFact
  /-- The connection has sent a bind request for the id, and it has been handled. -/
  | bind (c : ℕ) (strId : Bytes)
  /-- The connection has been answered `STATUS_ROK` to an unbind request. -/
  | unbind (c : ℕ)
  deriving DecidableEq

structure Server where
  sockets : Sockets ℤ
  /-- The connections whose thread has not ended. -/
  reading : ℕ → Bool
  queue : List Message
  center : Center
  log : Log
  facts : List BindFact

/-! ### What is sent -/

/-- The sockets a response with `STATUS_ROK` was sent to. -/
def confirmed (tr : List CenterEvent) : List ℤ :=
  ((tr.filterMap sent).filter fun p =>
    isAckPacket (getCommand p.2) && getStatus p.2 == statusRok).map Prod.fst

/-- What is known after a packet has been handled. -/
def settled (sockets : Sockets ℤ) (pData : Bytes) (sender : ℕ) (tr : List CenterEvent) :
    List BindFact :=
  if getCommand pData = bindRequest then [.bind sender (bindId pData)]
  -- who is told is whoever the descriptor of the answer denotes
  else if getCommand pData = unbindRequest then
    ((confirmed tr).filterMap sockets.conn).map .unbind
  else []

/-! ### The events -/

inductive ServerLabel
  /-- A client is accepted, with a descriptor that is not in use. -/
  | accept (nChildSocketFD : ℤ)
  /-- A packet of a connection has been read. The thread may be that of an older connection, whose
  descriptor was closed and is the same. -/
  | receive (c : ℕ) (pData : Bytes)
  /-- The thread of a connection ends: the client has gone, or has sent something else than
  packets. It closes its descriptor, whatever this denotes by now. -/
  | exit (c : ℕ)
  /-- The message loop handles the first message of the queue. -/
  | handle (chs : List CenterChoice)
  /-- The keep-alive thread does a round. -/
  | tick (chs : List CenterChoice)

/-- A packet has been read. An enquire-link request is answered at once and not queued. -/
def Server.received (s : Server) (nClientFD : ℤ) (pData : Bytes) (c : ℕ) : Server :=
  -- the thread's own answer is not among the calls of a step
  if getCommand pData = enquireLinkRequest then s
  else
    { s with
      queue := s.queue ++ [.packet nClientFD pData c]
      log := if getCommand pData = enquireLinkResponse then s.log.answer c else s.log }

/-- A step, with the calls of the message loop or of the keep-alive thread. -/
def serverStep (s : Server) : ServerLabel → Option (Server × List CenterEvent)
  | .accept nChildSocketFD =>
    if s.sockets.conn nChildSocketFD = none then
      some ({ s with
        sockets := s.sockets.accept nChildSocketFD
        reading := Function.update s.reading s.sockets.opened true }, [])
    else none
  | .receive c pData => (s.sockets.fd c).map fun nClientFD => (s.received nClientFD pData c, [])
  | .exit c =>
    if s.reading c then
      -- the notice is queued before the descriptor is closed
      (s.sockets.fd c).map fun nClientFD =>
        ({ s with
          queue := s.queue ++ [.disconnect nClientFD]
          sockets := s.sockets.closeAll [nClientFD]
          reading := Function.update s.reading c false }, [])
    else none
  | .handle chs =>
    match s.queue with
    | [] => none
    -- the message loop only writes a debug line
    | .disconnect _ :: rest => some ({ s with queue := rest }, [])
    | .packet nClientFD pData sender :: rest =>
      (Center.run (onCMP nClientFD pData) s.center chs).map fun r =>
        ({ s with
          queue := rest
          center := r.2.1
          sockets := s.sockets.closeAll (closed r.2.2)
          facts := s.facts ++ settled s.sockets pData sender r.2.2 }, r.2.2)
  | .tick chs =>
    (Center.run enquireLinkRound s.center chs).map fun r =>
      ({ s with
        center := r.2.1
        sockets := s.sockets.closeAll (closed r.2.2)
        log := .round (s.sockets.closeAll (closed r.2.2)) (enquired r.2.2) }, r.2.2)

/-- The ControlCenter with its sockets and its queue. -/
def serverSystem : LTS.System Server ServerLabel where
  init := ⟨.start, fun _ => false, [], .start, .start, []⟩
  step := fun s l => (serverStep s l).map Prod.fst

/-! ### What each step can do -/

section Steps

variable {s s' : Server} {tr : List CenterEvent} {chs : List CenterChoice}

theorem serverSystem_step_eq_some {l : ServerLabel} :
    serverSystem.step s l = some s' ↔ ∃ tr, serverStep s l = some (s', tr) := by
  simp [serverSystem, Option.map_eq_some_iff]

theorem serverStep_accept {nChildSocketFD : ℤ}
    (h : serverStep s (.accept nChildSocketFD) = some (s', tr)) :
    s.sockets.conn nChildSocketFD = none ∧ s' = { s with
      sockets := s.sockets.accept nChildSocketFD
      reading := Function.update s.reading s.sockets.opened true } := by
  simp only [serverStep] at h
  split at h
  · next hfree =>
    obtain ⟨rfl, -⟩ := Prod.mk.inj (Option.some.inj h)
    exact ⟨hfree, rfl⟩
  · cases h

theorem serverStep_receive {c : ℕ} {pData : Bytes}
    (h : serverStep s (.receive c pData) = some (s', tr)) :
    ∃ nClientFD, s.sockets.fd c = some nClientFD ∧ s' = s.received nClientFD pData c := by
  obtain ⟨nClientFD, hfd, heq⟩ := Option.map_eq_some_iff.mp h
  exact ⟨nClientFD, hfd, (Prod.mk.inj heq).1.symm⟩

theorem serverStep_exit {c : ℕ} (h : serverStep s (.exit c) = some (s', tr)) :
    ∃ nClientFD, s.sockets.fd c = some nClientFD ∧ s' = { s with
      queue := s.queue ++ [.disconnect nClientFD]
      sockets := s.sockets.closeAll [nClientFD]
      reading := Function.update s.reading c false } := by
  simp only [serverStep] at h
  split at h
  · obtain ⟨nClientFD, hfd, heq⟩ := Option.map_eq_some_iff.mp h
    exact ⟨nClientFD, hfd, (Prod.mk.inj heq).1.symm⟩
  · cases h

/-- A message is a notice, which changes nothing, or a packet. No packet closes a socket. -/
theorem serverStep_handle (h : serverStep s (.handle chs) = some (s', tr)) :
    (∃ nClientFD rest, s.queue = .disconnect nClientFD :: rest ∧ s' = { s with queue := rest } ∧
      tr = []) ∨
    ∃ nClientFD pData sender rest center,
      s.queue = .packet nClientFD pData sender :: rest ∧
      Center.run (onCMP nClientFD pData) s.center chs = some ((), center, tr) ∧
      s' = { s with
        queue := rest
        center := center
        facts := s.facts ++ settled s.sockets pData sender tr } := by
  simp only [serverStep] at h
  split at h
  · cases h
  · next nClientFD rest hqueue =>
    obtain ⟨rfl, rfl⟩ := Prod.mk.inj (Option.some.inj h)
    exact .inl ⟨nClientFD, rest, hqueue, rfl, rfl⟩
  · next nClientFD pData sender rest hqueue =>
    obtain ⟨⟨⟨⟩, center, tr'⟩, hrun, heq⟩ := Option.map_eq_some_iff.mp h
    obtain ⟨rfl, rfl⟩ := Prod.mk.inj heq
    refine .inr ⟨nClientFD, pData, sender, rest, center, hqueue, hrun, ?_⟩
    -- the step closes what the packet's calls close, and there is no such call
    rw [onCMP_closed hrun, Sockets.closeAll_nil]

/-- A round closes the sockets of `vEnquireLink`. -/
theorem serverStep_tick (h : serverStep s (.tick chs) = some (s', tr)) :
    ∃ center, Center.run enquireLinkRound s.center chs = some ((), center, tr) ∧
      closed tr = s.center.vEnquireLink ∧
      s' = { s with
        center := center
        sockets := s.sockets.closeAll s.center.vEnquireLink
        log := .round (s.sockets.closeAll s.center.vEnquireLink) (enquired tr) } := by
  obtain ⟨⟨⟨⟩, center, tr'⟩, hrun, heq⟩ := Option.map_eq_some_iff.mp h
  obtain ⟨rfl, rfl⟩ := Prod.mk.inj heq
  have hclosed := (enquireLinkRound_run hrun).1
  refine ⟨center, hrun, hclosed, ?_⟩
  rw [hclosed]

end Steps

end ControllerSystem.ControlCenter
