import ControllerSystem.Controller.Handlers

/-!
# The state of the Controller

What the handlers share: the table `device`, the vector `vEnquireLink` and the counter of sequence
numbers. `Device.answer` is the environment the programs of `Handlers` run in, with everything it
does not settle taken from a choice; SQLite is taken as in the ControlCenter.

What a packet, a notice and a round of the keep-alive thread do to `vEnquireLink` is said once, in
`onClientCMP_run`, `onReceiveMessage_run` and `enquireLinkRound_run`.
-/

open Words Calls

namespace ControllerSystem

/-! ### The table `device` -/

/-- A row, without its dates. -/
structure DeviceRow where
  id : Bytes
  status : ℤ
  socketFd : ℤ
  deriving DecidableEq

namespace DeviceSql

/-- What a statement does to the table; new rows come last. -/
def exec : DeviceSql → List DeviceRow → List DeviceRow
  | deleteById strId, t => t.filter fun r => r.id ≠ strId
  | insert strId nSocket, t => t ++ [⟨strId, 1, nSocket⟩]
  -- the row stays in the table, and is not among the bound ones any more
  | setUnbind nSocketFD, t =>
    t.map fun r => if r.socketFd = nSocketFD then { r with status := 0 } else r
  | deleteBySocketFD nSocketFD, t => t.filter fun r => r.socketFd ≠ nSocketFD
  | selectBound, t => t

/-- The numbers a query returns, in the order of the rows. -/
def query : DeviceSql → List DeviceRow → List ℤ
  | selectBound, t => (t.filter fun r => r.status = 1).map DeviceRow.socketFd
  | _, _ => []

/-- The strings of a packet in a statement. -/
def strings : DeviceSql → List Bytes
  | deleteById strId => [strId]
  | insert strId _ => [strId]
  | _ => []

/-- The text of the statement is the one meant. -/
def QuoteFree (sql : DeviceSql) : Prop := ∀ v ∈ sql.strings, sqlQuote ∉ v

instance (sql : DeviceSql) : Decidable sql.QuoteFree :=
  inferInstanceAs (Decidable (∀ v ∈ sql.strings, sqlQuote ∉ v))

end DeviceSql

/-! ### Calls that leave `vEnquireLink` alone -/

/-- The calls that neither write `vEnquireLink` nor close a socket. -/
def ControllerCall.KeepsLink : ControllerCall → Prop
  | storeEnquireLink _ => False
  | close _ => False
  | _ => True

/-- The calls that, beside this, touch neither the table nor a client. -/
def ControllerCall.ToCenter : ControllerCall → Prop
  | deviceExec _ => False
  | clientSend _ _ => False
  | storeEnquireLink _ => False
  | close _ => False
  | _ => True

namespace Controller

/-! ### The environment -/

/-- What the handlers share. -/
structure Device where
  rows : List DeviceRow
  vEnquireLink : List ℤ
  msnSequence : ℤ

/-- The state the Controller starts in: `openDeviceDB` drops the old table. -/
def Device.start : Device := ⟨[], [], 0⟩

/-- What one call leaves open. -/
structure DeviceChoice where
  /-- The result of `sqlite3_exec`, and the one a query ends with. -/
  rc : ℤ := sqliteOk
  /-- The number of rows a query has read when it fails. -/
  stepped : ℕ := 0
  /-- The table after a statement whose text is not the one meant. -/
  rows : List DeviceRow := []
  /-- The results of `send`, `start`, `getSocketfd` and `setPortState`, and what is read through an
  iterator that has no element. -/
  number : ℤ := 0
  /-- The result of `isValidSocketFD`. -/
  valid : Bool := true
  /-- The result of `getPortStatus`. -/
  text : Bytes := []

namespace Device

/-- What a call returns, and the state afterwards. -/
def answer (s : Device) : (c : ControllerCall) → DeviceChoice → c.Res × Device
  | .deviceExec sql, ch =>
    -- another text than the one meant: any table may be the result
    if ¬ sql.QuoteFree then (ch.rc, { s with rows := ch.rows })
    else if ch.rc = sqliteOk then (sqliteOk, { s with rows := sql.exec s.rows })
    else (ch.rc, s)
  | .deviceQuery sql, ch =>
    (if ch.rc = sqliteOk then sql.query s.rows else (sql.query s.rows).take ch.stepped, s)
  | .clientSend _ _, ch => (ch.number, s)
  | .centerSend _ _, ch => (ch.number, s)
  | .isValidSocketFD, ch => (ch.valid, s)
  | .getSocketfd, ch => (ch.number, s)
  | .centerStart _ _, ch => (ch.number, s)
  | .close _, _ => ((), s)
  | .loadSequence, _ => (s.msnSequence, s)
  | .storeSequence n, _ => ((), { s with msnSequence := n })
  | .loadEnquireLink, _ => (s.vEnquireLink, s)
  | .storeEnquireLink v, _ => ((), { s with vEnquireLink := v })
  | .notEnd it, _ => (it ≠ s.vEnquireLink.length, s)
  | .deref it, ch => (s.vEnquireLink.getD it ch.number, s)
  | .printPacket _ _ _ _ _ _, _ => ((), s)
  | .printLog _ _, _ => ((), s)
  | .overrun, _ => ((), s)
  | .getPortStatus _, ch => (ch.text, s)
  | .setPortState _ _ _ _ _, ch => (ch.number, s)
  | .outOfRange, _ => ((), s)

/-- A statement whose text is the one meant is executed, or changes nothing. -/
theorem answer_deviceExec_quoteFree (s : Device) (ch : DeviceChoice) {sql : DeviceSql}
    (hsql : sql.QuoteFree) : s.answer (.deviceExec sql) ch =
      (ch.rc, if ch.rc = sqliteOk then { s with rows := sql.exec s.rows } else s) := by
  by_cases hrc : ch.rc = sqliteOk
  · simp [answer, hsql, hrc]
  · simp [answer, hsql, hrc]

theorem answer_deviceExec_vEnquireLink (s : Device) (ch : DeviceChoice) (sql : DeviceSql) :
    (s.answer (.deviceExec sql) ch).2.vEnquireLink = s.vEnquireLink := by
  simp only [answer]
  split
  · rfl
  split <;> rfl

/-- Run a program in the environment. -/
abbrev run {α : Type} (p : ControllerProg α) (s : Device) (chs : List DeviceChoice) :
    Option (α × Device × List ControllerEvent) := p.runIn answer s chs

end Device

/-! ### What is closed and who is asked -/

/-- The descriptors closed by the calls of a run, in order. -/
def closed (tr : List ControllerEvent) : List ℤ :=
  tr.filterMap fun
    | ⟨.close nSocketFD, _⟩ => some nSocketFD
    | _ => none

/-- The sockets an enquire-link request was sent to, in order. -/
def enquired (tr : List ControllerEvent) : List ℤ :=
  tr.filterMap fun
    | ⟨.clientSend nSocket pBuf, _⟩ =>
      if getCommand pBuf = enquireLinkRequest then some nSocket else none
    | _ => none

theorem closed_append (tr₁ tr₂ : List ControllerEvent) :
    closed (tr₁ ++ tr₂) = closed tr₁ ++ closed tr₂ := List.filterMap_append

theorem enquired_append (tr₁ tr₂ : List ControllerEvent) :
    enquired (tr₁ ++ tr₂) = enquired tr₁ ++ enquired tr₂ := List.filterMap_append

/-! ### What a packet does -/

section Packet

variable {s s' : Device} {chs : List DeviceChoice} {tr : List ControllerEvent}
  {mConfig : Config} {nSocket : ℤ} {nCommand nSequence : Word} {pData : Bytes}

/-- Programs of such calls leave `vEnquireLink` alone and close nothing. -/
theorem keepsLink_run {α : Type} {p : ControllerProg α} {a : α}
    (hp : p.Forall ControllerCall.KeepsLink) (h : Device.run p s chs = some (a, s', tr)) :
    s'.vEnquireLink = s.vEnquireLink ∧ closed tr = [] := by
  constructor
  · refine Prog.runIn_invariant (I := fun q => q.vEnquireLink = s.vEnquireLink)
      (fun q c ch hc hI => ?_) hp h rfl
    cases c with
    -- a statement writes the table only
    | deviceExec sql => exact (q.answer_deviceExec_vEnquireLink ch sql).trans hI
    | storeEnquireLink v => exact hc.elim
    | _ => exact hI
  · refine hp.filterMap_eq_nil (fun c r hc => ?_) (Prog.exec_of_runIn h)
    cases c with
    | close nSocketFD => exact hc.elim
    | _ => rfl

theorem CenterRequestCall.toCenter {c : ControllerCall} (hc : CenterRequestCall c) :
    c.ToCenter := by
  cases hc <;> trivial

theorem ToCenter.keepsLink {c : ControllerCall} (hc : c.ToCenter) : c.KeepsLink := by
  cases c with
  | deviceExec sql => exact hc.elim
  | clientSend nSocket pBuf => exact hc.elim
  | storeEnquireLink v => exact hc
  | close nSocketFD => exact hc
  | _ => trivial

/-- No request touches `vEnquireLink`. -/
theorem RequestCall.keepsLink {c : ControllerCall} (hc : RequestCall nSocket c) :
    c.KeepsLink := by
  cases hc with
  | center hc => exact ToCenter.keepsLink hc.toCenter
  | _ => trivial

theorem requestCall_run {α : Type} {p : ControllerProg α} {a : α}
    (hp : p.Forall (RequestCall nSocket)) (h : Device.run p s chs = some (a, s', tr)) :
    s'.vEnquireLink = s.vEnquireLink ∧ closed tr = [] :=
  keepsLink_run (hp.mono fun _ hc => hc.keepsLink) h

/-- An enquire-link response removes one entry of its socket. -/
theorem ackPacket_run (h : Device.run (ackPacket nSocket nCommand) s chs = some ((), s', tr)) :
    s'.vEnquireLink = (if nCommand = enquireLinkResponse then s.vEnquireLink.erase nSocket
      else s.vEnquireLink) ∧ closed tr = [] := by
  unfold ackPacket at h
  split at h
  · next hack =>
    rw [if_pos hack]
    obtain ⟨ch, chs₁, tr₁, -, rfl, hrest⟩ := Prog.runIn_call_bind_eq_some.mp h
    change Device.run (if nSocket ∈ s.vEnquireLink then _ else _) s chs₁ = _ at hrest
    by_cases hmem : nSocket ∈ s.vEnquireLink
    · -- its first entry is erased
      rw [if_pos hmem] at hrest
      obtain ⟨ch, chs₂, tr₂, -, rfl, hret⟩ := Prog.runIn_call_eq_some.mp hrest
      obtain ⟨-, -, rfl, rfl⟩ := Prog.runIn_ret_eq_some.mp hret
      exact ⟨rfl, rfl⟩
    · rw [if_neg hmem] at hrest
      obtain ⟨-, -, rfl, rfl⟩ := Prog.runIn_ret_eq_some.mp hrest
      exact ⟨(List.erase_of_not_mem hmem).symm, rfl⟩
  · -- any other response is ignored
    next hack =>
    rw [if_neg hack]
    obtain ⟨-, -, rfl, rfl⟩ := Prog.runIn_ret_eq_some.mp h
    exact ⟨rfl, rfl⟩

/-- **What a packet does**, from a client or from the center: an enquire-link response removes one
entry of its socket, and no packet closes a socket. -/
theorem onClientCMP_run
    (h : Device.run (onClientCMP mConfig nSocket pData) s chs = some ((), s', tr)) :
    s'.vEnquireLink = (if getCommand pData = enquireLinkResponse then s.vEnquireLink.erase nSocket
      else s.vEnquireLink) ∧ closed tr = [] := by
  unfold onClientCMP onCMPWith at h
  obtain ⟨ch, chs₁, tr₁, -, rfl, hrun⟩ := Prog.runIn_call_bind_eq_some.mp h
  change Device.run _ s chs₁ = _ at hrun
  show _ ∧ closed tr₁ = []
  split at hrun
  · exact ackPacket_run hrun
  · -- a request, which is not an enquire-link response
    next hack =>
    have hne : getCommand pData ≠ enquireLinkResponse := by
      intro heq
      rw [heq] at hack
      exact hack (by decide)
    rw [if_neg hne]
    split at hrun
    · exact requestCall_run (by exact (sendCommandtoClient_calls _ _).bind fun _ => trivial) hrun
    · exact requestCall_run (by exact cmpRequest_calls.bind fun _ => trivial) hrun

/-- A notice leaves `vEnquireLink` alone. -/
theorem onReceiveMessage_run {notice : Notice}
    (h : Device.run (onReceiveMessage notice) s chs = some ((), s', tr)) :
    s'.vEnquireLink = s.vEnquireLink ∧ closed tr = [] := by
  refine keepsLink_run ?_ h
  cases notice with
  | clientConnect nId => exact ⟨trivial, fun _ => trivial⟩
  | clientDisconnect nId => exact ⟨trivial, fun _ => trivial⟩
  | centerDisconnect nId => trivial

end Packet

/-! ### What a round of the keep-alive thread does -/

section Round

variable {s s' : Device} {chs : List DeviceChoice} {tr : List ControllerEvent} {mConfig : Config}

/-- An iterator at an entry of the vector. -/
theorem deref_run {α : Type} {k : ℤ → ControllerProg α} {a : α} {it : ℕ} {nSocketFD : ℤ}
    (hit : s.vEnquireLink[it]? = some nSocketFD)
    (h : Device.run (deref it >>= k) s chs = some (a, s', tr)) :
    ∃ ch chs' tr', chs = ch :: chs' ∧ tr = ⟨.deref it, nSocketFD⟩ :: tr' ∧
      Device.run (k nSocketFD) s chs' = some (a, s', tr') := by
  obtain ⟨ch, chs', tr', rfl, rfl, hrest⟩ := Prog.runIn_call_bind_eq_some.mp h
  have hread : s.answer (.deref it) ch = (nSocketFD, s) := by
    simp only [Device.answer, List.getD_eq_getElem?_getD, hit, Option.getD_some]
  rw [hread] at hrest ⊢
  exact ⟨ch, chs', tr', rfl, rfl, hrest⟩

/-- A pass closes the socket the iterator is at. -/
theorem dropSocket_run {it : ℕ} {nSocketFD : ℤ} (hit : s.vEnquireLink[it]? = some nSocketFD)
    (h : Device.run (dropSocket it) s chs = some ((), s', tr)) :
    s'.vEnquireLink = s.vEnquireLink ∧ closed tr = [nSocketFD] ∧ enquired tr = [] := by
  obtain ⟨ch₁, chs₁, tr₁, rfl, rfl, h₁⟩ := deref_run hit h
  obtain ⟨ch₂, chs₂, tr₂, rfl, rfl, h₂⟩ := Prog.runIn_call_bind_eq_some.mp h₁
  -- the iterator is where it was, whatever has become of the statement
  have hlink := s.answer_deviceExec_vEnquireLink ch₂ (.deleteBySocketFD nSocketFD)
  rw [← hlink] at hit
  obtain ⟨ch₃, chs₃, tr₃, rfl, rfl, h₃⟩ := deref_run hit h₂
  obtain ⟨ch₄, chs₄, tr₄, rfl, rfl, h₄⟩ := Prog.runIn_call_bind_eq_some.mp h₃
  obtain ⟨ch₅, chs₅, tr₅, rfl, rfl, h₅⟩ := deref_run hit h₄
  obtain ⟨ch₆, chs₆, tr₆, rfl, rfl, h₆⟩ := Prog.runIn_call_eq_some.mp h₅
  obtain ⟨rfl, -, rfl, rfl⟩ := Prog.runIn_ret_eq_some.mp h₆
  exact ⟨hlink, rfl, rfl⟩

/-- The first loop: each socket of the vector is closed. -/
theorem dropSockets_run {passes it : ℕ} (hpasses : s.vEnquireLink.length < it + passes)
    (hit : it ≤ s.vEnquireLink.length)
    (h : Device.run (dropSockets passes it) s chs = some ((), s', tr)) :
    s'.vEnquireLink = s.vEnquireLink ∧ closed tr = s.vEnquireLink.drop it ∧ enquired tr = [] := by
  induction passes generalizing s it chs tr with
  | zero => omega
  | succ passes ih =>
    obtain ⟨ch, chs₁, tr₁, rfl, rfl, h₁⟩ := Prog.runIn_call_bind_eq_some.mp h
    rcases hit.eq_or_lt with hend | hlt
    · -- the iterator is at the end
      have hret : Device.run (pure ()) s chs₁ = some ((), s', tr₁) := by
        simpa [Device.answer, hend] using h₁
      obtain ⟨rfl, -, rfl, rfl⟩ := Prog.runIn_ret_eq_some.mp hret
      rw [hend, List.drop_length]
      exact ⟨rfl, rfl, rfl⟩
    · have hpass : Device.run (dropSocket it >>= fun _ => dropSockets passes (it + 1)) s chs₁ =
          some ((), s', tr₁) := by
        simpa [Device.answer, hlt.ne] using h₁
      obtain ⟨chs₂, chs₃, u, s₁, tr₂, tr₃, rfl, rfl, hdrop, hrest⟩ :=
        Prog.runIn_bind_eq_some.mp hpass
      obtain ⟨hlink₁, hclosed₁, henquired₁⟩ := dropSocket_run (List.getElem?_eq_getElem hlt) hdrop
      obtain ⟨hlink, hclosed, henquired⟩ :=
        ih (by rw [hlink₁]; omega) (by rw [hlink₁]; omega) hrest
      refine ⟨hlink.trans hlink₁, ?_, ?_⟩
      · show closed (tr₂ ++ tr₃) = _
        rw [closed_append, hclosed₁, hclosed, hlink₁, List.drop_eq_getElem_cons hlt]
        rfl
      · show enquired (tr₂ ++ tr₃) = []
        rw [enquired_append, henquired₁, henquired, List.append_nil]

/-- What is left on the list is closed. -/
theorem checkEnquireLink_run (h : Device.run checkEnquireLink s chs = some ((), s', tr)) :
    s'.vEnquireLink = s.vEnquireLink ∧ closed tr = s.vEnquireLink ∧ enquired tr = [] := by
  obtain ⟨ch, chs₁, tr₁, rfl, rfl, h₁⟩ := Prog.runIn_call_bind_eq_some.mp h
  change Device.run (if 0 < s.vEnquireLink.length then _ else _) s chs₁ = _ at h₁
  split at h₁
  · have hpasses : s.vEnquireLink.length < 0 + (s.vEnquireLink.length + 1) := by omega
    obtain ⟨hlink, hclosed, henquired⟩ := dropSockets_run hpasses (Nat.zero_le _) h₁
    exact ⟨hlink, hclosed, henquired⟩
  · next hempty =>
    obtain ⟨rfl, -, rfl, rfl⟩ := Prog.runIn_ret_eq_some.mp h₁
    have hnil : s.vEnquireLink = [] :=
      List.eq_nil_of_length_eq_zero (Nat.eq_zero_of_not_pos hempty)
    rw [hnil]
    exact ⟨rfl, rfl, rfl⟩

/-- The calls that touch neither the table nor a client. -/
theorem toCenter_run {α : Type} {p : ControllerProg α} {a : α}
    (hp : p.Forall ControllerCall.ToCenter) (h : Device.run p s chs = some (a, s', tr)) :
    s'.vEnquireLink = s.vEnquireLink ∧ closed tr = [] ∧ enquired tr = [] := by
  obtain ⟨hlink, hclosed⟩ := keepsLink_run (hp.mono fun _ hc => ToCenter.keepsLink hc) h
  refine ⟨hlink, hclosed, hp.filterMap_eq_nil (fun c r hc => ?_) (Prog.exec_of_runIn h)⟩
  cases c with
  | clientSend nSocket pBuf => exact hc.elim
  | _ => rfl

/-- An enquire-link request goes out on the socket. -/
theorem cmpEnquireLinkRequest_run {nSocketFD n : ℤ}
    (h : Device.run (cmpEnquireLinkRequest nSocketFD) s chs = some (n, s', tr)) :
    s'.vEnquireLink = s.vEnquireLink ∧ closed tr = [] ∧ enquired tr = [nSocketFD] := by
  unfold cmpEnquireLinkRequest getSerialSequence sendCommandtoClient at h
  obtain ⟨ch₁, chs₁, tr₁, -, rfl, h₁⟩ := Prog.runIn_call_bind_eq_some.mp h
  obtain ⟨ch₂, chs₂, tr₂, -, rfl, h₂⟩ := Prog.runIn_call_bind_eq_some.mp h₁
  obtain ⟨ch₃, chs₃, tr₃, -, rfl, h₃⟩ := Prog.runIn_call_bind_eq_some.mp h₂
  obtain ⟨ch₄, chs₄, tr₄, -, rfl, h₄⟩ := Prog.runIn_call_bind_eq_some.mp h₃
  obtain ⟨-, -, rfl, rfl⟩ := Prog.runIn_ret_eq_some.mp h₄
  refine ⟨rfl, rfl, ?_⟩
  simp [enquired, formatHeader]

/-- The second loop: each bound socket is noted and asked. -/
theorem enquireSockets_run {l : List ℤ}
    (h : Device.run (enquireSockets l) s chs = some ((), s', tr)) :
    s'.vEnquireLink = s.vEnquireLink ++ l ∧ closed tr = [] ∧ enquired tr = l := by
  induction l generalizing s chs tr with
  | nil =>
    obtain ⟨-, -, rfl, rfl⟩ := Prog.runIn_ret_eq_some.mp h
    simp [closed, enquired]
  | cons nSocketFD rest ih =>
    unfold enquireSockets at h
    obtain ⟨ch₁, chs₁, tr₁, -, rfl, h₁⟩ := Prog.runIn_call_bind_eq_some.mp h
    obtain ⟨ch₂, chs₂, tr₂, -, rfl, h₂⟩ := Prog.runIn_call_bind_eq_some.mp h₁
    obtain ⟨chs₃, chs₄, n, s₁, tr₃, tr₄, -, rfl, hask, h₃⟩ := Prog.runIn_bind_eq_some.mp h₂
    obtain ⟨hlink₁, hclosed₁, henquired₁⟩ := cmpEnquireLinkRequest_run hask
    obtain ⟨hlink, hclosed, henquired⟩ := ih h₃
    refine ⟨?_, ?_, ?_⟩
    -- the calls of the first pass, then those of the other passes
    · rw [hlink, hlink₁]
      exact List.append_assoc _ [nSocketFD] rest
    · show closed (tr₃ ++ tr₄) = []
      rw [closed_append, hclosed₁, hclosed, List.append_nil]
    · show enquired (tr₃ ++ tr₄) = _
      rw [enquired_append, henquired₁, henquired]
      rfl

/-- Bound sockets are noted and asked. -/
theorem enquireBound_run (h : Device.run enquireBound s chs = some ((), s', tr)) :
    s'.vEnquireLink = s.vEnquireLink ++ enquired tr ∧ closed tr = [] := by
  obtain ⟨ch, chs₁, tr₁, -, rfl, h₁⟩ := Prog.runIn_call_bind_eq_some.mp h
  have hstate : (s.answer (.deviceQuery .selectBound) ch).2 = s := rfl
  rw [hstate] at h₁
  split at h₁
  · obtain ⟨ch₂, chs₂, tr₂, -, rfl, h₂⟩ := Prog.runIn_call_bind_eq_some.mp h₁
    obtain ⟨hlink, hclosed, henquired⟩ := enquireSockets_run h₂
    rw [← henquired] at hlink
    exact ⟨hlink, hclosed⟩
  · -- nobody is bound, and the vector stays as it is
    obtain ⟨-, -, rfl, rfl⟩ := Prog.runIn_ret_eq_some.mp h₁
    exact ⟨(List.append_nil _).symm, rfl⟩

theorem reconnectCenter_toCenter :
    (reconnectCenter mConfig).Forall ControllerCall.ToCenter :=
  reconnectCenter_calls.mono fun _ hc => hc.toCenter

/-- **A round of the keep-alive thread.** The sockets of the vector are closed; the new vector is
the list of those asked. -/
theorem enquireLinkRound_run
    (h : Device.run (enquireLinkRound mConfig) s chs = some ((), s', tr)) :
    closed tr = s.vEnquireLink ∧ enquired tr = s'.vEnquireLink := by
  obtain ⟨chs₁, chs₂, u, s₁, tr₁, tr₂, -, rfl, hcheck, h₁⟩ := Prog.runIn_bind_eq_some.mp h
  obtain ⟨-, hclosed₁, henquired₁⟩ := checkEnquireLink_run hcheck
  obtain ⟨ch, chs₃, tr₃, -, rfl, h₃⟩ := Prog.runIn_call_bind_eq_some.mp h₁
  obtain ⟨chs₄, chs₅, u', s₂, tr₄, tr₅, -, rfl, hask, hreconnect⟩ := Prog.runIn_bind_eq_some.mp h₃
  obtain ⟨hlink₂, hclosed₂⟩ := enquireBound_run hask
  obtain ⟨hlink₃, hclosed₃, henquired₃⟩ := toCenter_run reconnectCenter_toCenter hreconnect
  constructor
  · show closed (tr₁ ++ _ :: (tr₄ ++ tr₅)) = _
    rw [closed_append, hclosed₁]
    refine (congrArg _ ?_).trans (List.append_nil _)
    exact (closed_append tr₄ tr₅).trans (by rw [hclosed₂, hclosed₃]; rfl)
  · show enquired (tr₁ ++ _ :: (tr₄ ++ tr₅)) = _
    rw [enquired_append, henquired₁, hlink₃, hlink₂]
    exact (enquired_append tr₄ tr₅).trans (by rw [henquired₃, List.append_nil]; rfl)

end Round

end Controller
end ControllerSystem
