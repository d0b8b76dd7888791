import ControllerSystem.ControlCenter.Server

/-!
# Whom the keep-alive thread drops

The server of the ControlCenter is a keep-alive protocol over descriptors: `vEnquireLink` is the
list of the descriptors asked, and the responses on it wait in the queue of the message loop.
`Server.keepAlive` reads a state of the protocol off a state of the server, and every event of the
server is at most one step of the protocol (`keepAlive_step`). What the protocol says of a round
holds of the server then.
-/

open Words Calls KeepAlive

namespace ControllerSystem.ControlCenter

/-- The socket of an enquire-link response. -/
def Message.response : Message → Option ℤ
  | .packet nClientFD pData _ =>
    if getCommand pData = enquireLinkResponse then some nClientFD else none
  | .disconnect _ => none

/-- The sockets of the enquire-link responses in the queue. -/
def Server.unhandled (s : Server) : List ℤ := s.queue.filterMap Message.response

/-- No client is accepted with a descriptor of `vEnquireLink`, and a round finds no descriptor
there that has all its responses in the queue. -/
def Server.Fresh (s : Server) : ServerLabel → Prop
  | .accept nChildSocketFD => nChildSocketFD ∉ s.center.vEnquireLink
  | .tick _ => ∀ nSocketFD ∈ s.center.vEnquireLink,
    s.unhandled.count nSocketFD < s.center.vEnquireLink.count nSocketFD
  | _ => True

/-- The state of the keep-alive protocol. -/
def Server.keepAlive (s : Server) : KeepAlive.State ℤ :=
  ⟨s.sockets, s.center.vEnquireLink, s.unhandled, s.log⟩

section Protocol

variable {s s' : Server}

/-- A packet that has been read: it is an answer, or nothing. -/
theorem received_keepAlive {nClientFD : ℤ} {pData : Bytes} {c : ℕ}
    (hfd : s.sockets.fd c = some nClientFD) :
    ∃ ls, (system ℤ).RunWhere Ok s.keepAlive ls (s.received nClientFD pData c).keepAlive := by
  by_cases hrequest : getCommand pData = enquireLinkRequest
  · -- answered by the thread, and not queued
    exact run_eq (by rw [Server.received, if_pos hrequest])
  rw [Server.received, if_neg hrequest]
  by_cases hresponse : getCommand pData = enquireLinkResponse
  · refine @run_step _ _ _ _ (.answer c) trivial ?_
    simp [KeepAlive.step, Server.keepAlive, Server.unhandled, Message.response, hfd, hresponse]
  · refine run_eq ?_
    simp [Server.keepAlive, Server.unhandled, Message.response, hresponse]

/-- A handled packet: a response is an answer that is handled. -/
theorem handled_keepAlive {nClientFD : ℤ} {pData : Bytes} {sender : ℕ} {rest : List Message}
    {center : Center} {chs : List CenterChoice} {tr : List CenterEvent} {facts : List BindFact}
    (hqueue : s.queue = .packet nClientFD pData sender :: rest)
    (hrun : Center.run (onCMP nClientFD pData) s.center chs = some ((), center, tr)) :
    ∃ ls, (system ℤ).RunWhere Ok s.keepAlive ls
      { s with queue := rest, center := center, facts := facts }.keepAlive := by
  have hlink := onCMP_vEnquireLink hrun
  by_cases hresponse : getCommand pData = enquireLinkResponse
  · -- the response leaves the queue and takes an entry of its socket along
    rw [if_pos hresponse] at hlink
    refine @run_step _ _ _ _ .handle trivial ?_
    simp [KeepAlive.step, Server.keepAlive, Server.unhandled, Message.response, hqueue, hresponse,
      hlink]
  · -- a packet of another kind is no answer in the queue
    rw [if_neg hresponse] at hlink
    refine run_eq ?_
    simp [Server.keepAlive, Server.unhandled, Message.response, hqueue, hresponse, hlink]

/-- **Every event is a step of the protocol, or nothing.** -/
theorem keepAlive_step {l : ServerLabel} (hfresh : s.Fresh l)
    (hstep : serverSystem.step s l = some s') :
    ∃ ls, (system ℤ).RunWhere Ok s.keepAlive ls s'.keepAlive := by
  obtain ⟨tr, hstep⟩ := serverSystem_step_eq_some.mp hstep
  cases l with
  | accept nChildSocketFD =>
    obtain ⟨hfree, rfl⟩ := serverStep_accept hstep
    exact @run_step _ _ _ _ (.accept nChildSocketFD) hfresh (if_pos hfree)
  | receive c pData =>
    obtain ⟨nClientFD, hfd, rfl⟩ := serverStep_receive hstep
    exact received_keepAlive hfd
  | exit c =>
    obtain ⟨nClientFD, -, rfl⟩ := serverStep_exit hstep
    refine @run_step _ _ _ _ (.close nClientFD) trivial ?_
    simp [KeepAlive.step, Server.keepAlive, Server.unhandled, Message.response]
  | handle chs =>
    rcases serverStep_handle hstep with ⟨nClientFD, rest, hqueue, rfl, -⟩ |
      ⟨nClientFD, pData, sender, rest, center, hqueue, hrun, rfl⟩
    · -- a disconnect notice changes nothing: the list is not told of the end
      refine run_eq ?_
      simp only [Server.keepAlive, Server.unhandled, hqueue]
      rfl
    · exact handled_keepAlive hqueue hrun
  | tick chs =>
    obtain ⟨center, hrun, -, rfl⟩ := serverStep_tick hstep
    obtain ⟨-, -, henquired, -⟩ := enquireLinkRound_run hrun
    refine @run_step _ _ _ _ (.round (enquired tr)) hfresh ?_
    simp [KeepAlive.step, Server.keepAlive, Server.unhandled, henquired]

theorem keepAlive_run {ls : List ServerLabel}
    (h : serverSystem.RunWhere Server.Fresh serverSystem.init ls s) :
    ∃ ls', (system ℤ).RunWhere Ok (system ℤ).init ls' s.keepAlive :=
  h.simulate Server.keepAlive fun _ _ _ hfresh hstep => keepAlive_step hfresh hstep

/-- **Whom a round drops:** connections that were there at the round before, were asked then, and
have answered fewer times than they were asked. -/
theorem closed_justified {ls : List ServerLabel} {chs : List CenterChoice}
    {tr : List CenterEvent} (h : serverSystem.RunWhere Server.Fresh serverSystem.init ls s)
    (hfresh : s.Fresh (.tick chs)) (hstep : serverStep s (.tick chs) = some (s', tr))
    {nSocketFD : ℤ} (hclosed : nSocketFD ∈ closed tr) {c : ℕ}
    (hconn : s.sockets.conn nSocketFD = some c) :
    s.log.answers c < s.log.asks c ∧ c < s.log.openedBefore := by
  -- what is closed are the entries of `vEnquireLink`, which is the protocol's list
  obtain ⟨center, -, hlink, -⟩ := serverStep_tick hstep
  obtain ⟨ls', hrun⟩ := keepAlive_run h
  rw [hlink] at hclosed
  exact @drop_justified _ _ _ _ [] hrun hfresh _ _ hclosed hconn

end Protocol

end ControllerSystem.ControlCenter
