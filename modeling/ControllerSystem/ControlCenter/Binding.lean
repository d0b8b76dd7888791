import ControllerSystem.ControlCenter.Registry
import ControllerSystem.ControlCenter.Server

/-!
# Who is bound

Where the rows of the table `controller` lead in a run of the server. The table has descriptors,
and nothing but a bind request and a round of the keep-alive thread writes it: neither the end of a
connection nor an unbind request does. `Server.Clean` is what has to come true for the rows to lead
to the connections that have bound themselves, `Server.Sound`.

* `onCMP_forwarded` — a power-port request goes to a socket the table has for the controller;
* `rows_lead_to_binder` — and this is the controller, in clean runs;
* `rows_lead_to_stranger` — a run in which it is not.
-/

open Words Calls KeepAlive

namespace ControllerSystem.ControlCenter

/-! ### What a packet sends -/

/-- The sockets a request was sent to. -/
def forwarded (tr : List CenterEvent) : List ℤ :=
  ((tr.filterMap sent).filter fun p => !isAckPacket (getCommand p.2)).map Prod.fst

/-- Requests go to the sockets of `P` only. -/
def CenterCall.RequestsTo (P : ℤ → Prop) : CenterCall → Prop
  | socketSend nSockFD pBuf => isAckPacket (getCommand pBuf) ∨ P nSockFD
  | _ => True

/-- The id of a controller in a packet of a power port. -/
def controllerId (pData : Bytes) : Bytes := (parseBody (getCommand pData) pData).2.get "controller"

/-- The packet is a request for a power port. -/
def IsPowerPort (pData : Bytes) : Prop :=
  getCommand pData = powerPortSetRequest ∨ getCommand pData = powerPortStateRequest

instance (pData : Bytes) : Decidable (IsPowerPort pData) := inferInstanceAs (Decidable (_ ∨ _))

theorem IsPowerPort.isAckPacket {pData : Bytes} (h : IsPowerPort pData) :
    isAckPacket (getCommand pData) = false := by
  rcases h with hcommand | hcommand
  · rw [hcommand]
    rfl
  · rw [hcommand]
    rfl

/-- There is an entry for it. -/
theorem IsPowerPort.hasEntry {pData : Bytes} (h : IsPowerPort pData) :
    ¬ 0xFF < (getCommand pData).toInt := by
  rcases h with hcommand | hcommand
  · rw [hcommand]
    decide
  · rw [hcommand]
    decide

section Sends

variable {s s' : Center} {nClientFD n : ℤ} {pData : Bytes} {nSequence : Word}
  {chs : List CenterChoice} {tr : List CenterEvent} {P : ℤ → Prop}

theorem forwarded_append (tr₁ tr₂ : List CenterEvent) :
    forwarded (tr₁ ++ tr₂) = forwarded tr₁ ++ forwarded tr₂ := by
  simp [forwarded]

theorem forwarded_requestsTo {α : Type} {p : CenterProg α} {a : α}
    (hp : p.Forall (CenterCall.RequestsTo P)) (h : Center.run p s chs = some (a, s', tr))
    {nSockFD : ℤ} (hmem : nSockFD ∈ forwarded tr) : P nSockFD := by
  obtain ⟨⟨f, pBuf⟩, hsent, rfl⟩ := List.mem_map.mp hmem
  obtain ⟨hsent, hrequest⟩ := List.mem_filter.mp hsent
  obtain ⟨e, he, hsome⟩ := List.mem_filterMap.mp hsent
  have hcall := hp.of_mem (Prog.exec_of_runIn h) e he
  -- only a send can be the request
  rcases e with ⟨c, r⟩
  cases c with
  | socketSend f' pBuf' =>
    obtain ⟨rfl, rfl⟩ := Prod.mk.inj (Option.some.inj hsome)
    rcases hcall with hack | hP
    · simp [hack] at hrequest
    · exact hP
  | _ => cases hsome

/-- A response is no request. -/
theorem sendCommand_requestsTo (nSocket : ℤ) (nCommand nStatus nSequence : Word) :
    (sendCommand nSocket nCommand nStatus nSequence true).Forall (CenterCall.RequestsTo P) := by
  refine ⟨.inl ?_, fun _ => ⟨trivial, fun _ => trivial⟩⟩
  rw [getCommand_bytes]
  exact isAckPacket_or nCommand

/-- The end of a handler that answers. -/
theorem sendCommand_then_requestsTo (nSocket : ℤ) (nCommand nStatus nSequence : Word) (n : ℤ) :
    Prog.Forall (CenterCall.RequestsTo P) (do
      let _ ← sendCommand nSocket nCommand nStatus nSequence true
      pure n) :=
  (sendCommand_requestsTo nSocket nCommand nStatus nSequence).bind fun _ => trivial

theorem cmpResponse_requestsTo (nSocket : ℤ) {nCommandId : Word} (nSequence : Word)
    (szData : Bytes) (hack : isAckPacket nCommandId) :
    (cmpResponse nSocket nCommandId nSequence szData).Forall (CenterCall.RequestsTo P) := by
  unfold cmpResponse
  split
  · exact ⟨trivial, fun _ => trivial⟩
  · refine ⟨.inl ?_, fun _ => ⟨trivial, fun _ => ?_⟩⟩
    · rw [getCommand_append]
      exact hack
    · simp only [Prog.bind_eq, Prog.ret_bind]
      split <;> exact ⟨trivial, fun _ => trivial⟩

theorem forwardRequest_requestsTo {nSocket : ℤ} (nCommand : Word) (fields : List Bytes)
    (strMsg : Bytes) (hP : P nSocket) :
    (forwardRequest nSocket nCommand fields strMsg).Forall (CenterCall.RequestsTo P) :=
  ⟨trivial, fun _ => ⟨trivial, fun _ => ⟨.inr hP, fun _ => ⟨trivial, fun _ => trivial⟩⟩⟩⟩

/-- A positive result of a lookup is a socket of the table. -/
theorem getControllerSocketFD_mem {strId : Bytes} (hid : sqlQuote ∉ strId)
    (h : Center.run (getControllerSocketFD strId) s chs = some (n, s', tr)) (hpos : 0 < n) :
    n ∈ (ControllerSql.selectSocketFDById strId).query s.rows := by
  rcases (getControllerSocketFD_run hid h).1 with rfl | hmem
  · -- without a row the result is `FAIL`
    exact absurd hpos (by decide)
  · exact hmem

/-- Behind a lookup, the socket that was found is the only one a request goes to. -/
theorem lookup_forwarded {strId : Bytes} {α : Type} {k : ℤ → CenterProg α} {a : α}
    (hid : sqlQuote ∉ strId)
    (hk : ∀ nFD, (k nFD).Forall (CenterCall.RequestsTo fun f => f = nFD ∧ 0 < nFD))
    (h : Center.run (getControllerSocketFD strId >>= k) s chs = some (a, s', tr)) {nSockFD : ℤ}
    (hmem : nSockFD ∈ forwarded tr) :
    nSockFD ∈ (ControllerSql.selectSocketFDById strId).query s.rows := by
  obtain ⟨chs₁, chs₂, nFD, s₁, tr₁, tr₂, -, rfl, hlookup, hrest⟩ := Prog.runIn_bind_eq_some.mp h
  have hnone : (getControllerSocketFD strId).Forall (CenterCall.RequestsTo fun _ => False) :=
    ⟨trivial, fun _ => trivial⟩
  rw [forwarded_append] at hmem
  rcases List.mem_append.mp hmem with hmem | hmem
  · -- the lookup itself sends nothing
    exact (forwarded_requestsTo hnone hlookup hmem).elim
  · obtain ⟨rfl, hpos⟩ := forwarded_requestsTo (hk nFD) hrest hmem
    exact getControllerSocketFD_mem hid hlookup hpos

theorem cmpPowerPort_forwarded (hcommand : getCommand pData = powerPortSetRequest)
    (hid : sqlQuote ∉ controllerId pData)
    (h : Center.run (cmpPowerPort nClientFD powerPortSetRequest nSequence pData) s chs =
      some (n, s', tr)) {nSockFD : ℤ} (hmem : nSockFD ∈ forwarded tr) :
    nSockFD ∈ (ControllerSql.selectSocketFDById (controllerId pData)).query s.rows := by
  unfold controllerId at hid ⊢
  rw [hcommand] at hid ⊢
  unfold cmpPowerPort at h
  dsimp only at h
  split at h
  · obtain ⟨chs₁, chs₂, n₁, s₁, tr₁, tr₂, -, rfl, hsend, hrest⟩ := Prog.runIn_bind_eq_some.mp h
    rw [forwarded_append] at hmem
    rcases List.mem_append.mp hmem with hmem | hmem
    · exact forwarded_requestsTo (sendCommand_requestsTo _ _ _ _) hsend hmem
    · -- the answer to the client has not changed the table
      rw [← (PlainProg.run (sendCommand_plain _ _) hsend).1]
      refine lookup_forwarded hid (fun nFD => ?_) hrest hmem
      split
      · next hpos => exact (forwardRequest_requestsTo _ _ _ ⟨rfl, hpos⟩).bind fun _ => trivial
      · trivial
  · exact forwarded_requestsTo (sendCommand_then_requestsTo _ _ _ _ _) h hmem

theorem cmpPowerPortState_forwarded (hcommand : getCommand pData = powerPortStateRequest)
    (hid : sqlQuote ∉ controllerId pData)
    (h : Center.run (cmpPowerPortState nClientFD powerPortStateRequest nSequence pData) s chs =
      some (n, s', tr)) {nSockFD : ℤ} (hmem : nSockFD ∈ forwarded tr) :
    nSockFD ∈ (ControllerSql.selectSocketFDById (controllerId pData)).query s.rows := by
  unfold controllerId at hid ⊢
  rw [hcommand] at hid ⊢
  unfold cmpPowerPortState at h
  dsimp only at h
  split at h
  · refine lookup_forwarded hid (fun nFD => ?_) h hmem
    split
    · next hpos =>
      refine (forwardRequest_requestsTo _ _ _ ⟨rfl, hpos⟩).bind fun nSend => ?_
      split
      · exact (cmpResponse_requestsTo _ _ _ (by decide)).bind fun _ => trivial
      · exact sendCommand_then_requestsTo _ _ _ _ _
    · exact sendCommand_then_requestsTo _ _ _ _ _
  · exact forwarded_requestsTo (sendCommand_then_requestsTo _ _ _ _ _) h hmem

/-- **Where a power-port request goes:** to a socket the table has for the controller's id. -/
theorem onCMP_forwarded (hpower : IsPowerPort pData) (hid : sqlQuote ∉ controllerId pData)
    (h : Center.run (onCMP nClientFD pData) s chs = some ((), s', tr)) {nSockFD : ℤ}
    (hmem : nSockFD ∈ forwarded tr) :
    ∃ r ∈ s.rows, r.status = 1 ∧ r.id = controllerId pData ∧ r.socketFd = nSockFD := by
  obtain ⟨_, _, _, _, chs', n, tr', rfl, hrun⟩ :=
    onCMP_request_run hpower.isAckPacket hpower.hasEntry h
  have hquery : nSockFD ∈
      (ControllerSql.selectSocketFDById (controllerId pData)).query s.rows := by
    rcases hpower with hcommand | hcommand
    · rw [hcommand, cmpRequest_powerPortSetRequest] at hrun
      exact cmpPowerPort_forwarded hcommand hid hrun hmem
    · rw [hcommand, cmpRequest_powerPortStateRequest] at hrun
      exact cmpPowerPortState_forwarded hcommand hid hrun hmem
  obtain ⟨r, hr, rfl⟩ := List.mem_map.mp hquery
  obtain ⟨hrow, hmatch⟩ := List.mem_filter.mp hr
  exact ⟨r, hrow, (of_decide_eq_true hmatch).1, (of_decide_eq_true hmatch).2, rfl⟩

/-- An unbind request is always answered `STATUS_ROK`, and nothing else happens. -/
theorem onCMP_confirmed (hcommand : getCommand pData = unbindRequest)
    (h : Center.run (onCMP nClientFD pData) s chs = some ((), s', tr)) :
    confirmed tr = [nClientFD] := by
  have hack : isAckPacket (getCommand pData) = false := by rw [hcommand]; rfl
  have hentry : ¬ 0xFF < (getCommand pData).toInt := by rw [hcommand]; decide
  obtain ⟨_, _, _, _, chs', n, tr', rfl, hrun⟩ := onCMP_request_run hack hentry h
  rw [hcommand, cmpRequest_unbindRequest] at hrun
  -- the calls are a send and a log line
  obtain ⟨r, tr₁, rfl, u, tr₂, rfl, rfl, -⟩ := Prog.exec_of_runIn hrun
  have hack := isAckPacket_or unbindRequest
  show ([(nClientFD, (formatHeader (genericNack ||| unbindRequest) statusRok
    (getSequence pData)).bytes)].filter _).map Prod.fst = _
  simp [formatHeader, hack]

end Sends

/-! ### Where the rows lead -/

/-- The connection has sent a bind request for the id and has not been unbound since. -/
def BoundBy (c : ℕ) (strId : Bytes) (facts : List BindFact) : Prop :=
  ∃ pre post, facts = pre ++ .bind c strId :: post ∧ .unbind c ∉ post

/-- The descriptor has a row with status 1. -/
def Server.HasRow (s : Server) (nSocketFD : ℤ) : Prop :=
  ∃ r ∈ s.center.rows, r.status = 1 ∧ r.socketFd = nSocketFD

/-- What the message must be: a bind request of a connection that still is what its descriptor
denotes, an unbind request of a connection without a row. -/
def Message.Clean (s : Server) : Message → Prop
  | .packet nClientFD pData sender =>
    (getCommand pData = bindRequest → BindAccepted pData →
      sqlQuote ∉ bindId pData ∧ s.sockets.conn nClientFD = some sender) ∧
    (getCommand pData = unbindRequest → ¬ s.HasRow nClientFD) ∧
    (IsPowerPort pData → sqlQuote ∉ controllerId pData)
  | .disconnect _ => True

/-- No connection ends or is unbound while it has a row, and a round deletes the rows of the
sockets it closes. -/
def Server.Clean (s : Server) : ServerLabel → Prop
  | .exit c => ∀ nClientFD, s.sockets.fd c = some nClientFD → ¬ s.HasRow nClientFD
  | .handle _ => ∀ m ∈ s.queue.head?, m.Clean s
  | .tick chs => ∀ center tr, Center.run enquireLinkRound s.center chs = some ((), center, tr) →
    ∀ nSocketFD ∈ s.center.vEnquireLink, s.HasRow nSocketFD → nSocketFD ∈ dropped tr
  | _ => True

/-- **The registry is sound.** A row with status 1 leads to an open connection, which has bound
itself to the id. -/
structure Server.Sound (s : Server) : Prop where
  valid : s.sockets.Valid
  rows : ∀ r ∈ s.center.rows, r.status = 1 →
    ∃ c, s.sockets.conn r.socketFd = some c ∧ BoundBy c r.id s.facts

theorem BoundBy.append {c : ℕ} {strId : Bytes} {facts new : List BindFact}
    (h : BoundBy c strId facts) (hnew : .unbind c ∉ new) : BoundBy c strId (facts ++ new) := by
  obtain ⟨pre, post, rfl, hpost⟩ := h
  exact ⟨pre, post ++ new, by simp, by simp [hpost, hnew]⟩

theorem boundBy_bind (c : ℕ) (strId : Bytes) (facts : List BindFact) :
    BoundBy c strId (facts ++ [.bind c strId]) :=
  ⟨facts, [], rfl, List.not_mem_nil⟩

section Sound

variable {s s' : Server} {tr : List CenterEvent} {chs : List CenterChoice}

theorem sound_init : serverSystem.init.Sound where
  valid := Sockets.valid_start
  rows _ hr := absurd hr List.not_mem_nil

theorem Server.Sound.accept {nChildSocketFD : ℤ} (h : s.Sound)
    (hstep : serverStep s (.accept nChildSocketFD) = some (s', tr)) : s'.Sound := by
  obtain ⟨hfree, rfl⟩ := serverStep_accept hstep
  refine ⟨h.valid.accept _, fun r hr hstatus => ?_⟩
  obtain ⟨c, hconn, hbound⟩ := h.rows r hr hstatus
  -- the descriptor of a row is in use, so the new connection gets another one
  have hne : r.socketFd ≠ nChildSocketFD := by
    rintro rfl
    exact absurd hconn (by simp [hfree])
  exact ⟨c, by simpa [Sockets.accept, hne] using hconn, hbound⟩

theorem Server.Sound.receive {c : ℕ} {pData : Bytes} (h : s.Sound)
    (hstep : serverStep s (.receive c pData) = some (s', tr)) : s'.Sound := by
  obtain ⟨nClientFD, -, rfl⟩ := serverStep_receive hstep
  unfold received
  split
  · exact h
  · exact ⟨h.valid, h.rows⟩

theorem Server.Sound.exit {c : ℕ} (h : s.Sound) (hclean : s.Clean (.exit c))
    (hstep : serverStep s (.exit c) = some (s', tr)) : s'.Sound := by
  obtain ⟨nClientFD, hfd, rfl⟩ := serverStep_exit hstep
  refine ⟨h.valid.closeAll _, fun r hr hstatus => ?_⟩
  obtain ⟨c', hconn, hbound⟩ := h.rows r hr hstatus
  -- the connection that ends has no row
  have hne : r.socketFd ∉ [nClientFD] := by
    rw [List.mem_singleton]
    exact fun heq => hclean nClientFD hfd ⟨r, hr, hstatus, heq⟩
  exact ⟨c', Sockets.conn_closeAll.mpr ⟨hne, hconn⟩, hbound⟩

/-- A handled bind request adds at most a row of the connection that has sent it. -/
theorem Server.Sound.bind {nClientFD : ℤ} {pData : Bytes} {sender : ℕ} {center : Center}
    (h : s.Sound) (hcommand : getCommand pData = bindRequest)
    (hclean : BindAccepted pData →
      sqlQuote ∉ bindId pData ∧ s.sockets.conn nClientFD = some sender)
    (hrun : Center.run (onCMP nClientFD pData) s.center chs = some ((), center, tr)) :
    ∀ r ∈ center.rows, r.status = 1 → ∃ c, s.sockets.conn r.socketFd = some c ∧
      BoundBy c r.id (s.facts ++ [.bind sender (bindId pData)]) := by
  have hold : ∀ r ∈ s.center.rows, r.status = 1 → ∃ c, s.sockets.conn r.socketFd = some c ∧
      BoundBy c r.id (s.facts ++ [.bind sender (bindId pData)]) := by
    intro r hr hstatus
    obtain ⟨c, hconn, hbound⟩ := h.rows r hr hstatus
    exact ⟨c, hconn, hbound.append (by simp)⟩
  obtain ⟨-, hrefused, haccepted⟩ := onCMP_bind hcommand hrun
  intro r hr hstatus
  by_cases haccept : BindAccepted pData
  · obtain ⟨hid, hconn⟩ := hclean haccept
    obtain ⟨rows, hdelete, hinsert⟩ := haccepted hid
    -- whether or not the `DELETE` was executed, it has added nothing
    have hsub : ∀ r ∈ rows, r ∈ s.center.rows := by
      intro r hr
      rcases hdelete with rfl | rfl
      · exact hr
      · exact List.mem_of_mem_filter hr
    rcases hinsert with hrows | hrows
    · exact hold r (hsub r (hrows ▸ hr)) hstatus
    · rw [hrows] at hr
      rcases List.mem_append.mp hr with hr | hr
      · exact hold r (hsub r hr) hstatus
      · -- the new row leads to the connection that has sent the request
        obtain rfl := List.mem_singleton.mp hr
        exact ⟨sender, hconn, boundBy_bind _ _ _⟩
  · rw [hrefused haccept] at hr
    exact hold r hr hstatus

/-- Any other packet leaves the rows alone, and unbinds nobody who has one. -/
theorem Server.Sound.other {nClientFD : ℤ} {pData : Bytes} {sender : ℕ} {center : Center}
    (h : s.Sound) (hcommand : getCommand pData ≠ bindRequest)
    (hclean : getCommand pData = unbindRequest → ¬ s.HasRow nClientFD)
    (hrun : Center.run (onCMP nClientFD pData) s.center chs = some ((), center, tr)) :
    ∀ r ∈ center.rows, r.status = 1 → ∃ c, s.sockets.conn r.socketFd = some c ∧
      BoundBy c r.id (s.facts ++ settled s.sockets pData sender tr) := by
  have hrows : center.rows = s.center.rows := by
    by_cases hack : getCommand pData = enquireLinkResponse
    · exact (onCMP_enquireLinkResponse hack hrun).1
    · exact (onCMP_plain hcommand hack hrun).1
  rw [hrows]
  intro r hr hstatus
  obtain ⟨c, hconn, hbound⟩ := h.rows r hr hstatus
  refine ⟨c, hconn, hbound.append fun hmem => ?_⟩
  unfold settled at hmem
  rw [if_neg hcommand] at hmem
  split at hmem
  · next hunbind =>
    rw [onCMP_confirmed hunbind hrun] at hmem
    obtain ⟨c', hc', heq⟩ := List.mem_map.mp hmem
    obtain ⟨f, hf, hconn'⟩ := List.mem_filterMap.mp hc'
    obtain rfl := List.mem_singleton.mp hf
    obtain rfl := BindFact.unbind.inj heq
    -- a connection has one descriptor only
    have hfd := (h.valid.fd_eq hconn).symm.trans (h.valid.fd_eq hconn')
    exact hclean hunbind ⟨r, hr, hstatus, Option.some.inj hfd⟩
  · exact absurd hmem List.not_mem_nil

theorem Server.Sound.handle (h : s.Sound) (hclean : s.Clean (.handle chs))
    (hstep : serverStep s (.handle chs) = some (s', tr)) : s'.Sound := by
  rcases serverStep_handle hstep with ⟨nClientFD, rest, -, rfl, -⟩ |
    ⟨nClientFD, pData, sender, rest, center, hqueue, hrun, rfl⟩
  · exact ⟨h.valid, h.rows⟩
  · obtain ⟨hbind, hunbind, -⟩ := hclean _ (by rw [hqueue]; rfl)
    refine ⟨h.valid, ?_⟩
    by_cases hcommand : getCommand pData = bindRequest
    · have hrows := h.bind hcommand (hbind hcommand) hrun
      simpa [settled, hcommand] using hrows
    · exact h.other hcommand hunbind hrun

theorem Server.Sound.tick (h : s.Sound) (hclean : s.Clean (.tick chs))
    (hstep : serverStep s (.tick chs) = some (s', tr)) : s'.Sound := by
  obtain ⟨center, hrun, -, rfl⟩ := serverStep_tick hstep
  refine ⟨h.valid.closeAll _, fun r hr hstatus => ?_⟩
  obtain ⟨-, hrows, -⟩ := enquireLinkRound_run hrun
  dsimp only at hr
  rw [hrows] at hr
  obtain ⟨hold, hkept⟩ := List.mem_filter.mp hr
  obtain ⟨c, hconn, hbound⟩ := h.rows r hold hstatus
  -- were its socket closed, the row would have been deleted in the same round
  have hopen : r.socketFd ∉ s.center.vEnquireLink := fun hlist =>
    of_decide_eq_true hkept (hclean center tr hrun _ hlist ⟨r, hold, hstatus, rfl⟩)
  exact ⟨c, Sockets.conn_closeAll.mpr ⟨hopen, hconn⟩, hbound⟩

theorem Server.Sound.step {l : ServerLabel} (h : s.Sound) (hclean : s.Clean l)
    (hstep : serverSystem.step s l = some s') : s'.Sound := by
  obtain ⟨tr, hstep⟩ := serverSystem_step_eq_some.mp hstep
  cases l with
  | accept nChildSocketFD => exact h.accept hstep
  | receive c pData => exact h.receive hstep
  | exit c => exact h.exit hclean hstep
  | handle chs => exact h.handle hclean hstep
  | tick chs => exact h.tick hclean hstep

theorem sound_of_run {ls : List ServerLabel}
    (h : serverSystem.RunWhere Server.Clean serverSystem.init ls s) : s.Sound :=
  h.invariant (fun _ _ _ hsound hclean hstep => hsound.step hclean hstep) sound_init

end Sound

/-- **Where the rows lead.** In every run in which no connection ends or is unbound while it has a
row, every round deletes the rows of the sockets it closes, every bind request comes from the
connection its descriptor denotes, and no id has a quote: every row with status 1 leads to an open
connection that has bound itself to the id and has not been unbound since, and a power-port request
is forwarded only to such a connection. -/
theorem rows_lead_to_binder (s : Server) (ls : List ServerLabel)
    (h : serverSystem.RunWhere Server.Clean serverSystem.init ls s) :
    (∀ r ∈ s.center.rows, r.status = 1 →
      ∃ c, s.sockets.conn r.socketFd = some c ∧ BoundBy c r.id s.facts) ∧
    ∀ nClientFD pData sender rest chs s' tr,
      s.queue = .packet nClientFD pData sender :: rest → IsPowerPort pData →
      s.Clean (.handle chs) → serverStep s (.handle chs) = some (s', tr) →
      ∀ nSockFD ∈ forwarded tr, ∃ c, s.sockets.conn nSockFD = some c ∧
        BoundBy c (controllerId pData) s.facts := by
  have hsound := sound_of_run h
  refine ⟨hsound.rows, ?_⟩
  intro nClientFD pData sender rest chs s' tr hqueue hpower hclean hstep nSockFD hmem
  have hpacket : (Message.packet nClientFD pData sender).Clean s :=
    hclean _ (by rw [hqueue]; rfl)
  have hid := hpacket.2.2 hpower
  -- the first message of the queue is the packet
  rcases serverStep_handle hstep with ⟨f, rest', hqueue', -⟩ |
    ⟨f, pData', sender', rest', center, hqueue', hrun, -⟩
  · rw [hqueue] at hqueue'
    cases hqueue'
  · rw [hqueue] at hqueue'
    cases hqueue'
    obtain ⟨r, hr, hstatus, hrid, rfl⟩ := onCMP_forwarded hpower hid hrun hmem
    rw [← hrid]
    exact hsound.rows r hr hstatus

/-- A request to set a power port: port 1 of wire 1, on. -/
def powerPortSetPacket (strId : Bytes) : Bytes :=
  CmpHeader.bytes ⟨.ofNat 32 (sizeofCmpHeader + 3 + strId.length + 1), powerPortSetRequest,
    statusRok, 2#32⟩ ++ (ascii "111" ++ (strId ++ [0]))

/-- Client 0 has bound itself with descriptor 5, and a request of client 1 is in the queue. -/
def boundServer : Server where
  sockets := (Sockets.start.accept 5).accept 6
  reading := Function.update (Function.update (fun _ => false) 0 true) 1 true
  queue := [.packet 6 (powerPortSetPacket (ascii "a")) 1]
  center := ⟨[⟨ascii "a", 1, 5⟩], [], 0⟩
  log := .start
  facts := [.bind 0 (ascii "a")]

/-- The request of client 1 goes to client 0. -/
theorem rows_lead_to_binder_bound : ∃ s' tr,
    serverStep boundServer (.handle (List.replicate 8 {})) = some (s', tr) ∧ 5 ∈ forwarded tr ∧
    ∃ c, boundServer.sockets.conn 5 = some c ∧ BoundBy c (ascii "a") boundServer.facts := by
  have hrun : serverSystem.RunWhere Server.Clean serverSystem.init
      [.accept 5, .accept 6, .receive 0 (bindPacket (ascii "a")), .handle (List.replicate 5 {}),
        .receive 1 (powerPortSetPacket (ascii "a"))] boundServer := by
    refine .cons trivial rfl (.cons trivial rfl (.cons trivial rfl (.cons ?_ rfl
      (.cons trivial rfl (.nil _)))))
    intro m hm
    obtain rfl := Option.some.inj hm
    exact ⟨fun _ _ => ⟨by decide, rfl⟩, fun h => absurd h (by decide),
      fun h => absurd h (by decide)⟩
  have hclean : boundServer.Clean (.handle (List.replicate 8 {})) := by
    intro m hm
    obtain rfl := Option.some.inj hm
    exact ⟨fun h => absurd h (by decide), fun h => absurd h (by decide), fun _ => by decide⟩
  have hpower : IsPowerPort (powerPortSetPacket (ascii "a")) := by decide
  obtain ⟨s', tr, hstep, hmem⟩ : ∃ s' tr, serverStep boundServer (.handle (List.replicate 8 {})) =
      some (s', tr) ∧ 5 ∈ forwarded tr := ⟨_, _, rfl, @List.mem_of_getElem? _ _ 0 _ rfl⟩
  exact ⟨s', tr, hstep, hmem, (rows_lead_to_binder boundServer _ hrun).2 _ _ _ _ _ _ _ rfl hpower
    hclean hstep 5 hmem⟩

/-- Client 0 has bound itself and has gone, client 1 has its descriptor, and a request for the
controller is in the queue. -/
def reusedServer : Server where
  sockets := ((Sockets.start.accept 5).closeAll [5]).accept 5
  reading := Function.update (Function.update (Function.update (fun _ => false) 0 true) 0 false)
    1 true
  queue := [.packet 5 (powerPortSetPacket (ascii "a")) 1]
  center := ⟨[⟨ascii "a", 1, 5⟩], [], 0⟩
  log := .start
  facts := [.bind 0 (ascii "a")]

/-- The row of client 0 leads to client 1, which has never bound itself, and the request for the
controller is forwarded to it. -/
theorem rows_lead_to_stranger : serverSystem.Reachable reusedServer ∧
    (¬ ∀ r ∈ reusedServer.center.rows, r.status = 1 →
      ∃ c, reusedServer.sockets.conn r.socketFd = some c ∧ BoundBy c r.id reusedServer.facts) ∧
    ∃ s' tr, serverStep reusedServer (.handle (List.replicate 8 {})) = some (s', tr) ∧
      ∃ nSockFD ∈ forwarded tr, ¬ ∃ c, reusedServer.sockets.conn nSockFD = some c ∧
        BoundBy c (ascii "a") reusedServer.facts := by
  have hrun : serverSystem.Run serverSystem.init
      [.accept 5, .receive 0 (bindPacket (ascii "a")), .handle (List.replicate 5 {}), .exit 0,
        .handle [], .accept 5, .receive 1 (powerPortSetPacket (ascii "a"))] reusedServer :=
    LTS.System.run_eq_some_iff.mp rfl
  have hstranger : ¬ ∃ c, reusedServer.sockets.conn 5 = some c ∧
      BoundBy c (ascii "a") reusedServer.facts := by
    -- descriptor 5 denotes connection 1, and only connection 0 has bound itself
    rintro ⟨c, hconn, pre, post, hfacts, -⟩
    have hc : some 1 = some c := hconn
    obtain rfl := Option.some.inj hc
    have hmem : .bind 1 (ascii "a") ∈ reusedServer.facts := by
      rw [hfacts]
      exact List.mem_append_right _ List.mem_cons_self
    simp [reusedServer] at hmem
  exact ⟨⟨_, hrun⟩, fun h => hstranger (h _ List.mem_cons_self rfl),
    _, _, rfl, 5, @List.mem_of_getElem? _ _ 0 _ rfl, hstranger⟩

end ControllerSystem.ControlCenter
