import ControllerSystem.ControlCenter.Handlers
import ControllerSystem.Lib.KeyedRows

/-!
# The state of the ControlCenter

What the handlers share: the table `controller`, the vector `vEnquireLink` and the counter of
sequence numbers. `Center.answer` is the environment the programs of `Handlers` run in, with
everything it does not settle taken from a choice.

SQLite is taken as documented: a statement is atomic, and a failing one changes nothing. Every
statement may fail; of a query that fails, the rows that were stepped before the error have been
read. When a string from a packet has a quote in it, so that the text of the statement is another
one than meant, it may do anything to the table.

What a packet and what a round of the keep-alive thread do to the state is said once, in
`onCMP_plain`, `onCMP_bind`, `onCMP_vEnquireLink` and `enquireLinkRound_run`.
-/

open Words Calls

namespace ControllerSystem

/-! ### The table `controller` -/

/-- A row, without its dates. -/
structure ControllerRow where
  id : Bytes
  status : ℤ
  socketFd : ℤ
  deriving DecidableEq

namespace ControllerSql

/-- What a statement does to the table; new rows come last. -/
def exec : ControllerSql → List ControllerRow → List ControllerRow
  | deleteById strId, t => t.filter fun r => r.id ≠ strId
  -- the table has no key: a second row with one id is added like any other
  | insert strId nSocket, t => t ++ [⟨strId, 1, nSocket⟩]
  | deleteBySocketFD nSocketFD, t => t.filter fun r => r.socketFd ≠ nSocketFD
  | selectSocketFDById _, t => t
  | selectBound, t => t

/-- The numbers a query returns, in the order of the rows. -/
def query : ControllerSql → List ControllerRow → List ℤ
  | selectSocketFDById strId, t =>
    (t.filter fun r => r.status = 1 ∧ r.id = strId).map ControllerRow.socketFd
  | selectBound, t => (t.filter fun r => r.status = 1).map ControllerRow.socketFd
  | _, _ => []

/-- The strings of a packet in a statement. -/
def strings : ControllerSql → List Bytes
  | deleteById strId => [strId]
  | insert strId _ => [strId]
  | selectSocketFDById strId => [strId]
  | deleteBySocketFD _ => []
  | selectBound => []

/-- The text of the statement is the one meant. -/
def QuoteFree (sql : ControllerSql) : Prop := ∀ v ∈ sql.strings, sqlQuote ∉ v

instance (sql : ControllerSql) : Decidable sql.QuoteFree :=
  inferInstanceAs (Decidable (∀ v ∈ sql.strings, sqlQuote ∉ v))

@[simp] theorem quoteFree_deleteById (strId : Bytes) :
    (deleteById strId).QuoteFree ↔ sqlQuote ∉ strId := by
  simp [QuoteFree, strings]

@[simp] theorem quoteFree_insert (strId : Bytes) (nSocket : ℤ) :
    (insert strId nSocket).QuoteFree ↔ sqlQuote ∉ strId := by
  simp [QuoteFree, strings]

@[simp] theorem quoteFree_selectSocketFDById (strId : Bytes) :
    (selectSocketFDById strId).QuoteFree ↔ sqlQuote ∉ strId := by
  simp [QuoteFree, strings]

@[simp] theorem quoteFree_deleteBySocketFD (nSocketFD : ℤ) :
    (deleteBySocketFD nSocketFD).QuoteFree := fun _ hv => absurd hv List.not_mem_nil

@[simp] theorem quoteFree_selectBound : selectBound.QuoteFree :=
  fun _ hv => absurd hv List.not_mem_nil

end ControllerSql

namespace ControlCenter

/-! ### The environment -/

/-- What the handlers share. -/
structure Center where
  rows : List ControllerRow
  vEnquireLink : List ℤ
  msnSequence : ℤ

/-- The state the ControlCenter starts in: `openControllerDB` drops the old table. -/
def Center.start : Center := ⟨[], [], 0⟩

/-- What one call leaves open. -/
structure CenterChoice where
  /-- The result of `sqlite3_exec`, and the one a query ends with. -/
  rc : ℤ := sqliteOk
  /-- The number of rows a query has read when it fails. -/
  stepped : ℕ := 0
  /-- The table after a statement whose text is not the one meant. -/
  rows : List ControllerRow := []
  /-- The result of a query whose text is not the one meant. -/
  numbers : List ℤ := []
  /-- The result of a query on another database. -/
  texts : List Bytes := []
  oid : Bytes := []
  json : Option JsonStrings := none
  /-- The result of `send`. -/
  sent : ℤ := 0
  /-- What is read through an iterator that has no element. -/
  stale : ℤ := 0

namespace Center

/-- What a call returns, and the state afterwards. -/
def answer (s : Center) : (c : CenterCall) → CenterChoice → c.Res × Center
  | .controllerExec sql, ch =>
    -- another text than the one meant: any table may be the result
    if ¬ sql.QuoteFree then (ch.rc, { s with rows := ch.rows })
    else if ch.rc = sqliteOk then (sqliteOk, { s with rows := sql.exec s.rows })
    else (ch.rc, s)
  | .controllerQuery sql, ch =>
    (if ¬ sql.QuoteFree then ch.numbers
    else if ch.rc = sqliteOk then sql.query s.rows
    else (sql.query s.rows).take ch.stepped, s)
  | .mdmQuery _, ch => (ch.texts, s)
  | .ideasExec _, ch => (ch.rc, s)
  | .ideasQuery _, ch => (ch.texts, s)
  | .mongoInsert _ _ _, ch => (ch.oid, s)
  | .jsonParse _, ch => (ch.json, s)
  | .socketSend _ _, ch => (ch.sent, s)
  | .close _, _ => ((), s)
  | .loadSequence, _ => (s.msnSequence, s)
  | .storeSequence n, _ => ((), { s with msnSequence := n })
  | .loadEnquireLink, _ => (s.vEnquireLink, s)
  | .storeEnquireLink v, _ => ((), { s with vEnquireLink := v })
  | .notEnd it, _ => (it ≠ s.vEnquireLink.length, s)
  | .deref it, ch => (s.vEnquireLink.getD it ch.stale, s)
  | .printPacket _ _ _ _ _ _, _ => ((), s)
  | .printLog _ _, _ => ((), s)
  | .derefErased, ch => (ch.stale, s)
  | .overrun, _ => ((), s)

section Answer

variable (s : Center) (ch : CenterChoice)

@[simp] theorem answer_controllerQuery_state (sql : ControllerSql) :
    (s.answer (.controllerQuery sql) ch).2 = s := rfl

/-- A query that succeeds. -/
theorem answer_controllerQuery_ok {sql : ControllerSql} (hsql : sql.QuoteFree)
    (hrc : ch.rc = sqliteOk) : (s.answer (.controllerQuery sql) ch).1 = sql.query s.rows := by
  simp [answer, hsql, hrc]

/-- A query whose text is the one meant reads the first rows of its result. -/
theorem answer_controllerQuery_prefix {sql : ControllerSql} (hsql : sql.QuoteFree) :
    (s.answer (.controllerQuery sql) ch).1 <+: sql.query s.rows := by
  simp only [answer, hsql, not_true_eq_false, if_false]
  split
  · exact List.prefix_refl _
  · exact List.take_prefix _ _

/-- A statement whose text is the one meant is executed, or changes nothing. -/
theorem answer_controllerExec_quoteFree {sql : ControllerSql} (hsql : sql.QuoteFree) :
    s.answer (.controllerExec sql) ch =
      (ch.rc, if ch.rc = sqliteOk then { s with rows := sql.exec s.rows } else s) := by
  by_cases hrc : ch.rc = sqliteOk
  · simp [answer, hsql, hrc]
  · simp [answer, hsql, hrc]

theorem answer_controllerExec_vEnquireLink (sql : ControllerSql) :
    (s.answer (.controllerExec sql) ch).2.vEnquireLink = s.vEnquireLink := by
  simp only [answer]
  split
  · rfl
  split <;> rfl

@[simp] theorem answer_loadEnquireLink :
    s.answer .loadEnquireLink ch = (s.vEnquireLink, s) := rfl

end Answer

end Center

/-! ### Calls that leave the registry alone -/

/-- The calls that neither write the table or `vEnquireLink` nor close a socket. -/
def CenterCall.Plain : CenterCall → Prop
  | controllerExec _ => False
  | storeEnquireLink _ => False
  | close _ => False
  | _ => True

/-- A program whose calls leave the registry alone. -/
abbrev PlainProg {α : Type} (p : CenterProg α) : Prop := p.Forall CenterCall.Plain

section Plain

variable {nSocket nFD : ℤ} {nCommand nSequence : Word}

theorem sendCommand_plain (nStatus : Word) (isResp : Bool) :
    PlainProg (sendCommand nSocket nCommand nStatus nSequence isResp) :=
  ⟨trivial, fun _ => ⟨trivial, fun _ => trivial⟩⟩

theorem cmpResponse_plain (szData : Bytes) :
    PlainProg (cmpResponse nSocket nCommand nSequence szData) := by
  unfold cmpResponse
  split
  · exact ⟨trivial, fun _ => trivial⟩
  · refine ⟨trivial, fun nRet => ⟨trivial, fun _ => ?_⟩⟩
    simp only [Prog.bind_eq, Prog.ret_bind]
    split <;> exact ⟨trivial, fun _ => trivial⟩

theorem forwardRequest_plain (fields : List Bytes) (strMsg : Bytes) :
    PlainProg (forwardRequest nFD nCommand fields strMsg) :=
  ⟨trivial, fun _ => ⟨trivial, fun _ => ⟨trivial, fun _ => ⟨trivial, fun _ => trivial⟩⟩⟩⟩

theorem insertLog_plain (nType : ℤ) (strData : Bytes) : PlainProg (insertLog nType strData) := by
  refine insertLog_cases (P := PlainProg) (fun _ strCollection => ?_) fun _ => ?_
  · exact ⟨trivial, fun _ => trivial⟩
  · exact ⟨trivial, fun _ => trivial⟩

theorem signupInsert_plain (strJSON : Bytes) : PlainProg (signupInsert strJSON) := by
  unfold signupInsert
  split
  · trivial
  refine ⟨trivial, fun root => ?_⟩
  rcases root with _ | root
  · -- the text is no JSON
    exact ⟨trivial, fun _ => trivial⟩
  simp only [Prog.bind_eq, Prog.ret_bind]
  split
  · -- there is an `id`, which is looked up before `app_id` is read
    refine ⟨trivial, fun found => ?_⟩
    simp only [Prog.bind_eq, Prog.ret_bind, Prog.pure_eq_ret]
    split
    · trivial
    split <;> exact ⟨trivial, fun _ => trivial⟩
  · exact ⟨trivial, fun _ => trivial⟩

variable (pData : Bytes)

/-- The end of most handlers. -/
theorem sendCommand_then_plain (nStatus : Word) (n : ℤ) :
    PlainProg (do
      let _ ← sendCommand nSocket nCommand nStatus nSequence true
      pure n) :=
  (sendCommand_plain nStatus true).bind fun _ => trivial

theorem cmpPowerPort_plain : PlainProg (cmpPowerPort nSocket nCommand nSequence pData) := by
  unfold cmpPowerPort
  dsimp only
  split
  · refine (sendCommand_plain _ _).bind fun _ => ⟨trivial, fun listValue => ?_⟩
    simp only [Prog.bind_eq, Prog.ret_bind, Prog.pure_eq_ret]
    split
    · exact (forwardRequest_plain _ _).bind fun _ => trivial
    · trivial
  · exact sendCommand_then_plain _ _

theorem cmpPowerPortState_plain :
    PlainProg (cmpPowerPortState nSocket nCommand nSequence pData) := by
  unfold cmpPowerPortState
  dsimp only
  split
  · refine ⟨trivial, fun listValue => ?_⟩
    simp only [Prog.bind_eq, Prog.ret_bind, Prog.pure_eq_ret]
    split
    · refine (forwardRequest_plain _ _).bind fun nSend => ?_
      split
      · exact (cmpResponse_plain _).bind fun _ => trivial
      · exact sendCommand_then_plain _ _
    · exact sendCommand_then_plain _ _
  · exact sendCommand_then_plain _ _

theorem cmpAccessLog_plain : PlainProg (cmpAccessLog nSocket nCommand nSequence pData) := by
  unfold cmpAccessLog
  dsimp only
  split
  · refine ⟨trivial, fun _ => (insertLog_plain _ _).bind fun strOID => ?_⟩
    split <;> exact (sendCommand_plain _ _).bind fun _ => ⟨trivial, fun _ => trivial⟩
  · exact sendCommand_then_plain _ _

theorem cmpInitial_plain : PlainProg (cmpInitial nSocket nCommand nSequence pData) := by
  unfold cmpInitial
  dsimp only
  split
  · refine ⟨trivial, fun _ => ?_⟩
    simp only [Prog.bind_eq, Prog.ret_bind]
    -- whatever the texts of the initial data are
    generalize getInitData _ = strData
    split
    · exact sendCommand_then_plain _ _
    · exact (cmpResponse_plain _).bind fun _ => trivial
  · exact sendCommand_then_plain _ _

theorem cmpSdkTracker_plain : PlainProg (cmpSdkTracker nSocket nCommand nSequence pData) := by
  unfold cmpSdkTracker
  dsimp only
  split
  · refine (sendCommand_plain _ _).bind fun _ => (insertLog_plain _ _).bind fun strOID => ?_
    split <;> exact ⟨trivial, fun _ => trivial⟩
  · exact sendCommand_then_plain _ _

theorem cmpSignup_plain : PlainProg (cmpSignup nSocket nCommand nSequence pData) := by
  unfold cmpSignup
  dsimp only
  split
  · refine ⟨trivial, fun _ => (signupInsert_plain _).bind fun nInsert => ?_⟩
    exact (sendCommand_plain _ _).bind fun _ => trivial
  · exact sendCommand_then_plain _ _

theorem cmpMdmLogin_plain : PlainProg (cmpMdmLogin nSocket nCommand nSequence pData) := by
  unfold cmpMdmLogin
  dsimp only
  split
  · refine ⟨trivial, fun _ => ⟨trivial, fun rows => ?_⟩⟩
    simp only [Prog.bind_eq, Prog.ret_bind, Prog.pure_eq_ret]
    split
    · exact sendCommand_then_plain _ _
    · exact cmpResponse_plain _
  · exact sendCommand_then_plain _ _

theorem cmpMdmOperate_plain : PlainProg (cmpMdmOperate nSocket nCommand nSequence pData) := by
  unfold cmpMdmOperate
  dsimp only
  split
  · exact ⟨trivial, fun _ => cmpResponse_plain _⟩
  · exact sendCommand_then_plain _ _

/-- Only the handler of bind requests touches the registry. -/
theorem cmpRequest_plain (hbind : nCommand ≠ bindRequest) :
    PlainProg (cmpRequest nSocket nCommand nSequence pData) := by
  apply cmpRequest_cases (P := fun p => PlainProg p)
  case bind => exact fun hcommand => absurd hcommand hbind
  case unbind => exact fun _ => sendCommand_then_plain _ _
  case powerPortSet => exact fun _ => cmpPowerPort_plain _
  case powerPortState => exact fun _ => cmpPowerPortState_plain _
  case accessLog => exact fun _ => cmpAccessLog_plain _
  case initial => exact fun _ => cmpInitial_plain _
  case signUp => exact fun _ => cmpSignup_plain _
  case mdmLogin => exact fun _ => cmpMdmLogin_plain _
  case mdmOperate => exact fun _ => cmpMdmOperate_plain _
  case sdkTracker => exact fun _ => cmpSdkTracker_plain _
  case unknow => exact sendCommand_then_plain _ _

end Plain

/-- The calls that close no socket. -/
def CenterCall.NoClose : CenterCall → Prop
  | close _ => False
  | _ => True

theorem PlainProg.noClose {α : Type} {p : CenterProg α} (hp : PlainProg p) :
    p.Forall CenterCall.NoClose := by
  refine hp.mono fun c hc => ?_
  cases c with
  | close nSockFD => exact hc
  | _ => trivial

theorem ackPacket_noClose {nClientFD : ℤ} {nCommand : Word} :
    (ackPacket nClientFD nCommand).Forall CenterCall.NoClose := by
  unfold ackPacket
  split
  · refine ⟨trivial, fun v => ?_⟩
    simp only [Prog.bind_eq, Prog.ret_bind]
    split
    · exact ⟨trivial, fun _ => ⟨trivial, fun _ => ⟨trivial, fun _ => trivial⟩⟩⟩
    · trivial
  · trivial

theorem controllerSqlExec_noClose (sql : ControllerSql) :
    (controllerSqlExec sql).Forall CenterCall.NoClose := ⟨trivial, fun _ => trivial⟩

theorem cmpBind_noClose {nSocket : ℤ} {nCommand nSequence : Word} {pData : Bytes} :
    (cmpBind nSocket nCommand nSequence pData).Forall CenterCall.NoClose := by
  unfold cmpBind
  dsimp only
  split
  · refine (controllerSqlExec_noClose _).bind fun nRet => ?_
    split
    · refine (controllerSqlExec_noClose _).bind fun nRet => ?_
      split <;> exact (sendCommand_then_plain _ _).noClose
    · exact (sendCommand_then_plain _ _).noClose
  · exact (sendCommand_then_plain _ _).noClose

/-! ### What a packet does -/

variable {s s' : Center} {nClientFD : ℤ} {pData : Bytes} {chs : List CenterChoice}
  {tr : List CenterEvent}

/-- Run a program in the environment. -/
abbrev Center.run {α : Type} (p : CenterProg α) (s : Center) (chs : List CenterChoice) :
    Option (α × Center × List CenterEvent) := p.runIn Center.answer s chs

/-- Plain calls leave the registry alone. -/
theorem Center.answer_plain (s : Center) (c : CenterCall) (ch : CenterChoice) (hc : c.Plain) :
    (s.answer c ch).2.rows = s.rows ∧ (s.answer c ch).2.vEnquireLink = s.vEnquireLink := by
  cases c with
  | controllerExec sql => exact hc.elim
  | storeEnquireLink v => exact hc.elim
  | _ => exact ⟨rfl, rfl⟩

/-- Plain programs leave the registry alone. -/
theorem PlainProg.run {α : Type} {p : CenterProg α} (hp : PlainProg p) {a : α}
    (h : Center.run p s chs = some (a, s', tr)) :
    s'.rows = s.rows ∧ s'.vEnquireLink = s.vEnquireLink := by
  refine Prog.runIn_invariant (I := fun q => q.rows = s.rows ∧ q.vEnquireLink = s.vEnquireLink)
    (fun q c ch hc hI => ?_) hp h ⟨rfl, rfl⟩
  obtain ⟨hrows, hlink⟩ := q.answer_plain c ch hc
  exact ⟨hrows.trans hI.1, hlink.trans hI.2⟩

/-- Behind its first log line, `onCMP` is the program of the packet's kind. -/
theorem onCMP_run (h : Center.run (onCMP nClientFD pData) s chs = some ((), s', tr)) :
    ∃ nCommand nStatus nSequence nLength chs' tr',
      tr = ⟨.printPacket nCommand nStatus nSequence nLength "[Center Recv]" nClientFD, ()⟩ :: tr' ∧
      Center.run (
        if isAckPacket (getCommand pData) then ackPacket nClientFD (getCommand pData)
        else if 0xFF < (getCommand pData).toInt then do
          let _ ← sendCommand nClientFD (getCommand pData) statusRinvcmdid (getSequence pData) true
        else do
          let _ ← cmpRequest nClientFD (getCommand pData) (getSequence pData) pData) s chs' =
            some ((), s', tr') := by
  obtain ⟨ch, chs', tr', -, rfl, hrest⟩ := Prog.runIn_call_eq_some.mp h
  exact ⟨_, _, _, _, chs', tr', rfl, hrest⟩

/-- For a request the table has an entry for, this is its handler. -/
theorem onCMP_request_run (hack : isAckPacket (getCommand pData) = false)
    (hentry : ¬ 0xFF < (getCommand pData).toInt)
    (h : Center.run (onCMP nClientFD pData) s chs = some ((), s', tr)) :
    ∃ nCommand nStatus nSequence nLength chs' n tr',
      tr = ⟨.printPacket nCommand nStatus nSequence nLength "[Center Recv]" nClientFD, ()⟩ :: tr' ∧
      Center.run (cmpRequest nClientFD (getCommand pData) (getSequence pData) pData) s chs' =
        some (n, s', tr') := by
  rw [onCMP_request hack hentry] at h
  obtain ⟨ch, chs', tr', -, rfl, hrun⟩ := Prog.runIn_call_eq_some.mp h
  simp only [Prog.bind_eq, Prog.ret_bind] at hrun
  obtain ⟨chs₁, chs₂, n, s₁, tr₁, tr₂, -, rfl, hcmp, hret⟩ := Prog.runIn_bind_eq_some.mp hrun
  -- behind the handler there are no calls
  obtain ⟨-, -, rfl, rfl⟩ := Prog.runIn_ret_eq_some.mp hret
  rw [List.append_nil]
  exact ⟨_, _, _, _, chs₁, n, tr₁, rfl, hcmp⟩

/-- A packet that is no bind request and no enquire-link response leaves the registry alone. -/
theorem onCMP_plain (hbind : getCommand pData ≠ bindRequest)
    (hack : getCommand pData ≠ enquireLinkResponse)
    (h : Center.run (onCMP nClientFD pData) s chs = some ((), s', tr)) :
    s'.rows = s.rows ∧ s'.vEnquireLink = s.vEnquireLink := by
  obtain ⟨-, -, -, -, chs', tr', -, hrun⟩ := onCMP_run h
  refine PlainProg.run ?_ hrun
  split
  · -- any other response is ignored
    unfold ackPacket
    rw [if_neg hack]
    trivial
  split
  · exact (sendCommand_plain _ _).bind fun _ => trivial
  · exact (cmpRequest_plain _ hbind).bind fun _ => trivial

/-- An enquire-link response removes one entry of its socket. -/
theorem onCMP_enquireLinkResponse (hack : getCommand pData = enquireLinkResponse)
    (h : Center.run (onCMP nClientFD pData) s chs = some ((), s', tr)) :
    s'.rows = s.rows ∧ s'.vEnquireLink = s.vEnquireLink.erase nClientFD := by
  obtain ⟨-, -, -, -, chs', tr', -, hrun⟩ := onCMP_run h
  rw [hack, if_pos (by decide), ackPacket, if_pos rfl] at hrun
  obtain ⟨ch, chs₁, tr₁, -, -, hrun⟩ := Prog.runIn_call_eq_some.mp hrun
  simp only [Prog.bind_eq, Prog.ret_bind, Center.answer_loadEnquireLink] at hrun
  split at hrun
  · -- the entry is erased; what comes behind is only logged
    obtain ⟨ch, chs₂, tr₂, -, -, hrun⟩ := Prog.runIn_call_eq_some.mp hrun
    exact PlainProg.run (by exact ⟨trivial, fun _ => ⟨trivial, fun _ => trivial⟩⟩) hrun
  · -- a socket that is not on the list: nothing to erase
    next hmem =>
    obtain ⟨-, -, rfl, -⟩ := Prog.runIn_ret_eq_some.mp hrun
    exact ⟨rfl, (List.erase_of_not_mem hmem).symm⟩

/-- The id a bind request names. -/
def bindId (pData : Bytes) : Bytes := (parseBody bindRequest pData).2.get "id"

/-- The body of a bind request that has an id. -/
def BindAccepted (pData : Bytes) : Prop := 0 < (parseBody bindRequest pData).1

instance (pData : Bytes) : Decidable (BindAccepted pData) := inferInstanceAs (Decidable (_ < _))

/-- A bind request for an id. -/
def bindPacket (strId : Bytes) : Bytes :=
  CmpHeader.bytes ⟨.ofNat 32 (sizeofCmpHeader + strId.length + 1), bindRequest, statusRok, 1#32⟩ ++
    (strId ++ [0])

theorem controllerSqlExec_run {sql : ControllerSql} {nRet : ℤ}
    (h : Center.run (controllerSqlExec sql) s chs = some (nRet, s', tr)) :
    s'.vEnquireLink = s.vEnquireLink ∧
      (sql.QuoteFree → s'.rows = s.rows ∨ s'.rows = sql.exec s.rows) := by
  obtain ⟨ch, chs₁, tr₁, -, -, hret⟩ := Prog.runIn_call_eq_some.mp h
  obtain ⟨-, -, rfl, -⟩ := Prog.runIn_ret_eq_some.mp hret
  refine ⟨s.answer_controllerExec_vEnquireLink ch sql, fun hsql => ?_⟩
  rw [s.answer_controllerExec_quoteFree ch hsql]
  split
  · exact .inr rfl
  · exact .inl rfl

theorem cmpBind_run {nSocket n : ℤ} {nSequence : Word}
    (h : Center.run (cmpBind nSocket bindRequest nSequence pData) s chs = some (n, s', tr)) :
    s'.vEnquireLink = s.vEnquireLink ∧ (¬ BindAccepted pData → s'.rows = s.rows) ∧
      (sqlQuote ∉ bindId pData → ∃ rows,
        (rows = s.rows ∨ rows = (ControllerSql.deleteById (bindId pData)).exec s.rows) ∧
        (s'.rows = rows ∨ s'.rows = (ControllerSql.insert (bindId pData) nSocket).exec rows)) := by
  -- each failure ends with the same answer, which leaves the registry alone
  have hfail : ∀ {t t' : Center} {chs tr}, Center.run (do
      let _ ← sendCommand nSocket bindRequest statusRinvctrlid nSequence true
      pure fail) t chs = some (n, t', tr) → t'.rows = t.rows ∧ t'.vEnquireLink = t.vEnquireLink :=
    fun h => PlainProg.run (by exact sendCommand_then_plain _ _) h
  unfold cmpBind at h
  dsimp only at h
  split at h
  · next haccept =>
    obtain ⟨chs₁, chs₂, nRet₁, s₁, tr₁, tr₂, -, -, hdelete, h₁⟩ := Prog.runIn_bind_eq_some.mp h
    obtain ⟨hlink, hrows⟩ := controllerSqlExec_run hdelete
    split at h₁
    · -- the old row of the id is gone, and the new one is inserted or not
      obtain ⟨chs₃, chs₄, nRet₂, s₂, tr₃, tr₄, -, -, hinsert, h₂⟩ := Prog.runIn_bind_eq_some.mp h₁
      obtain ⟨hlink₂, hrows₂⟩ := controllerSqlExec_run hinsert
      have hend : s'.rows = s₂.rows ∧ s'.vEnquireLink = s₂.vEnquireLink := by
        split at h₂
        · exact PlainProg.run (by exact sendCommand_then_plain _ _) h₂
        · exact hfail h₂
      refine ⟨hend.2.trans (hlink₂.trans hlink), fun hnot => absurd haccept hnot, fun hid => ?_⟩
      refine ⟨s₁.rows, hrows ((ControllerSql.quoteFree_deleteById _).mpr hid), ?_⟩
      rw [hend.1]
      exact hrows₂ ((ControllerSql.quoteFree_insert _ _).mpr hid)
    · -- the first statement has failed
      obtain ⟨hend, hend'⟩ := hfail h₁
      exact ⟨hend'.trans hlink, fun hnot => absurd haccept hnot, fun hid =>
        ⟨s₁.rows, hrows ((ControllerSql.quoteFree_deleteById _).mpr hid), .inl hend⟩⟩
  · -- no id in the body
    obtain ⟨hend, hend'⟩ := hfail h
    exact ⟨hend', fun _ => hend, fun _ => ⟨s.rows, .inl rfl, .inl hend⟩⟩

/-- **Bind requests.** A row is removed or not, and a row of the requesting socket is added or
not, as the statements succeed. -/
theorem onCMP_bind (hbind : getCommand pData = bindRequest)
    (h : Center.run (onCMP nClientFD pData) s chs = some ((), s', tr)) :
    s'.vEnquireLink = s.vEnquireLink ∧ (¬ BindAccepted pData → s'.rows = s.rows) ∧
      (sqlQuote ∉ bindId pData → ∃ rows,
        (rows = s.rows ∨ rows = (ControllerSql.deleteById (bindId pData)).exec s.rows) ∧
        (s'.rows = rows ∨
          s'.rows = (ControllerSql.insert (bindId pData) nClientFD).exec rows)) := by
  have hack : isAckPacket (getCommand pData) = false := by rw [hbind]; rfl
  have hentry : ¬ 0xFF < (getCommand pData).toInt := by rw [hbind]; decide
  obtain ⟨-, -, -, -, chs', nRet, tr', -, hrun⟩ := onCMP_request_run hack hentry h
  rw [hbind, cmpRequest_bindRequest] at hrun
  exact cmpBind_run hrun

/-- A packet changes `vEnquireLink` only as an enquire-link response. -/
theorem onCMP_vEnquireLink (h : Center.run (onCMP nClientFD pData) s chs = some ((), s', tr)) :
    s'.vEnquireLink = if getCommand pData = enquireLinkResponse then
      s.vEnquireLink.erase nClientFD else s.vEnquireLink := by
  split
  · next hack => exact (onCMP_enquireLinkResponse hack h).2
  · next hack =>
    by_cases hbind : getCommand pData = bindRequest
    · exact (onCMP_bind hbind h).1
    · exact (onCMP_plain hbind hack h).2

/-! ### What a round of the keep-alive thread does -/

/-- The descriptors closed by the calls of a run, in order. -/
def closed (tr : List CenterEvent) : List ℤ :=
  tr.filterMap fun
    | ⟨.close nSockFD, _⟩ => some nSockFD
    | _ => none

/-- The sockets an enquire-link request was sent to, in order. -/
def enquired (tr : List CenterEvent) : List ℤ :=
  tr.filterMap fun
    | ⟨.socketSend nSockFD pBuf, _⟩ =>
      if getCommand pBuf = enquireLinkRequest then some nSockFD else none
    | _ => none

theorem closed_of_noClose {α : Type} {p : CenterProg α} {a : α}
    (hp : p.Forall CenterCall.NoClose) (h : Center.run p s chs = some (a, s', tr)) :
    closed tr = [] := by
  refine hp.filterMap_eq_nil (fun c r hc => ?_) (Prog.exec_of_runIn h)
  cases c with
  | close nSockFD => exact hc.elim
  | _ => rfl

/-- A packet closes no socket. -/
theorem onCMP_closed (h : Center.run (onCMP nClientFD pData) s chs = some ((), s', tr)) :
    closed tr = [] := by
  refine closed_of_noClose (p := onCMP nClientFD pData) ⟨trivial, fun _ => ?_⟩ h
  simp only [Prog.bind_eq, Prog.ret_bind]
  split
  · exact ackPacket_noClose
  split
  · exact PlainProg.noClose ((sendCommand_plain _ _).bind fun _ => trivial)
  by_cases hbind : getCommand pData = bindRequest
  · rw [hbind, cmpRequest_bindRequest]
    exact cmpBind_noClose.bind fun _ => trivial
  · exact PlainProg.noClose ((cmpRequest_plain _ hbind).bind fun _ => trivial)

/-- The descriptors whose rows have been deleted, in order. -/
def dropped (tr : List CenterEvent) : List ℤ :=
  tr.filterMap fun
    | ⟨.controllerExec (.deleteBySocketFD nSocketFD), rc⟩ =>
      if rc = sqliteOk then some nSocketFD else none
    | _ => none

theorem closed_append (tr₁ tr₂ : List CenterEvent) :
    closed (tr₁ ++ tr₂) = closed tr₁ ++ closed tr₂ := List.filterMap_append

theorem enquired_append (tr₁ tr₂ : List CenterEvent) :
    enquired (tr₁ ++ tr₂) = enquired tr₁ ++ enquired tr₂ := List.filterMap_append

theorem dropped_append (tr₁ tr₂ : List CenterEvent) :
    dropped (tr₁ ++ tr₂) = dropped tr₁ ++ dropped tr₂ := List.filterMap_append

theorem PlainProg.dropped {α : Type} {p : CenterProg α} {a : α} (hp : PlainProg p)
    (h : Center.run p s chs = some (a, s', tr)) : dropped tr = [] := by
  refine Prog.Forall.filterMap_eq_nil hp (fun c r hc => ?_) (Prog.exec_of_runIn h)
  cases c with
  | controllerExec sql => exact hc.elim
  | _ => rfl

/-- Every statement succeeds. -/
def Succeed (chs : List CenterChoice) : Prop := ∀ ch ∈ chs, ch.rc = sqliteOk

/-- Some sockets are closed, and lose their rows when the statements succeed. -/
structure Drops (v : List ℤ) (s s' : Center) (chs : List CenterChoice) (tr : List CenterEvent) :
    Prop where
  rows : s'.rows = s.rows.filter fun r => r.socketFd ∉ dropped tr
  vEnquireLink : s'.vEnquireLink = s.vEnquireLink
  closed : closed tr = v
  enquired : enquired tr = []
  dropped : Succeed chs → dropped tr = v

theorem Drops.nil (s : Center) : Drops [] s s [] [] :=
  ⟨by simp [ControlCenter.dropped], rfl, rfl, rfl, fun _ => rfl⟩

theorem Drops.append {v w : List ℤ} {s₁ : Center} {chs₁ chs₂ : List CenterChoice}
    {tr₁ tr₂ : List CenterEvent} (h₁ : Drops v s s₁ chs₁ tr₁) (h₂ : Drops w s₁ s' chs₂ tr₂) :
    Drops (v ++ w) s s' (chs₁ ++ chs₂) (tr₁ ++ tr₂) where
  rows := by
    rw [h₂.rows, h₁.rows, KeyedRows.filter_notMem_append, dropped_append]
  vEnquireLink := h₂.vEnquireLink.trans h₁.vEnquireLink
  closed := by rw [closed_append, h₁.closed, h₂.closed]
  enquired := by rw [enquired_append, h₁.enquired, h₂.enquired, List.append_nil]
  dropped hsucceed := by
    obtain ⟨hfirst, hsecond⟩ := List.forall_mem_append.mp hsucceed
    rw [dropped_append, h₁.dropped hfirst, h₂.dropped hsecond]

/-- An iterator at an entry of the vector. -/
theorem deref_run {α : Type} {k : ℤ → CenterProg α} {a : α} {it : ℕ} {nSocketFD : ℤ}
    (hit : s.vEnquireLink[it]? = some nSocketFD)
    (h : Center.run (deref it >>= k) s chs = some (a, s', tr)) :
    ∃ ch chs' tr', chs = ch :: chs' ∧ tr = ⟨.deref it, nSocketFD⟩ :: tr' ∧
      Center.run (k nSocketFD) s chs' = some (a, s', tr') := by
  obtain ⟨ch, chs', tr', rfl, rfl, hrest⟩ := Prog.runIn_call_bind_eq_some.mp h
  have hread : s.answer (.deref it) ch = (nSocketFD, s) := by
    simp only [Center.answer, List.getD_eq_getElem?_getD, hit, Option.getD_some]
  rw [hread] at hrest ⊢
  exact ⟨ch, chs', tr', rfl, rfl, hrest⟩

/-- The `DELETE` of a round removes the rows of its socket, or fails. -/
theorem deleteBySocketFD_run {nSocketFD n : ℤ}
    (h : Center.run (controllerSqlExec (.deleteBySocketFD nSocketFD)) s chs = some (n, s', tr)) :
    ∃ ch, chs = [ch] ∧ tr = [⟨.controllerExec (.deleteBySocketFD nSocketFD), ch.rc⟩] ∧
      s' = if ch.rc = sqliteOk then
        { s with rows := s.rows.filter fun r => r.socketFd ≠ nSocketFD } else s := by
  obtain ⟨ch, chs', tr', rfl, rfl, hret⟩ := Prog.runIn_call_eq_some.mp h
  obtain ⟨rfl, -, rfl, rfl⟩ := Prog.runIn_ret_eq_some.mp hret
  have hquote := ControllerSql.quoteFree_deleteBySocketFD nSocketFD
  rw [s.answer_controllerExec_quoteFree ch hquote]
  exact ⟨ch, rfl, rfl, rfl⟩

/-- A pass drops the socket the iterator is at. -/
theorem dropSocket_run {it : ℕ} {nSocketFD : ℤ} (hit : s.vEnquireLink[it]? = some nSocketFD)
    (h : Center.run (dropSocket it) s chs = some ((), s', tr)) :
    Drops [nSocketFD] s s' chs tr := by
  obtain ⟨ch₁, chs₁, tr₁, rfl, rfl, h₁⟩ := deref_run hit h
  obtain ⟨_, chs₃, n, s₁, _, tr₃, rfl, rfl, hdelete, h₂⟩ := Prog.runIn_bind_eq_some.mp h₁
  obtain ⟨ch₂, rfl, rfl, hs₁⟩ := deleteBySocketFD_run hdelete
  -- the iterator is where it was, whatever has become of the statement
  have hlink : s₁.vEnquireLink = s.vEnquireLink := by
    rw [hs₁]
    split <;> rfl
  rw [← hlink] at hit
  obtain ⟨ch₃, chs₃, tr₃, rfl, rfl, h₃⟩ := deref_run hit h₂
  obtain ⟨ch₄, chs₄, tr₄, rfl, rfl, h₄⟩ := Prog.runIn_call_bind_eq_some.mp h₃
  obtain ⟨ch₅, chs₅, tr₅, rfl, rfl, h₅⟩ := deref_run hit h₄
  obtain ⟨ch₆, chs₆, tr₆, rfl, rfl, h₆⟩ := Prog.runIn_call_eq_some.mp h₅
  obtain ⟨rfl, -, rfl, rfl⟩ := Prog.runIn_ret_eq_some.mp h₆
  refine ⟨?_, hlink, rfl, rfl, fun hsucceed => ?_⟩
  · show s₁.rows = _
    by_cases hrc : ch₂.rc = sqliteOk
    · simp [hs₁, dropped, hrc]
    · simp [hs₁, dropped, hrc]
  · have hrc : ch₂.rc = sqliteOk := hsucceed ch₂ (by simp)
    simp [dropped, hrc]

/-- The first loop: each socket of the vector is dropped. -/
theorem dropSockets_run {passes it : ℕ} (hpasses : s.vEnquireLink.length < it + passes)
    (hit : it ≤ s.vEnquireLink.length)
    (h : Center.run (dropSockets passes it) s chs = some ((), s', tr)) :
    Drops (s.vEnquireLink.drop it) s s' chs tr := by
  induction passes generalizing s it chs tr with
  | zero => omega
  | succ passes ih =>
    obtain ⟨ch, chs₁, tr₁, rfl, rfl, h₁⟩ := Prog.runIn_call_bind_eq_some.mp h
    have htest : Drops [] s s [ch] [⟨.notEnd it, (s.answer (.notEnd it) ch).1⟩] :=
      ⟨by simp [dropped], rfl, rfl, rfl, fun _ => rfl⟩
    rcases hit.eq_or_lt with hend | hlt
    · -- the iterator is at the end
      have hret : Center.run (pure ()) s chs₁ = some ((), s', tr₁) := by
        simpa [Center.answer, hend] using h₁
      obtain ⟨rfl, -, rfl, rfl⟩ := Prog.runIn_ret_eq_some.mp hret
      rw [hend] at htest
      rw [hend, List.drop_length]
      exact htest
    · have hpass : Center.run (dropSocket it >>= fun _ => dropSockets passes (it + 1)) s chs₁ =
          some ((), s', tr₁) := by
        simpa [Center.answer, hlt.ne] using h₁
      obtain ⟨chs₂, chs₃, u, s₁, tr₂, tr₃, rfl, rfl, hdrop, hrest⟩ :=
        Prog.runIn_bind_eq_some.mp hpass
      have hfirst := dropSocket_run (List.getElem?_eq_getElem hlt) hdrop
      have hlink := hfirst.vEnquireLink
      have hothers := ih (by rw [hlink]; omega) (by rw [hlink]; omega) hrest
      rw [hlink] at hothers
      rw [List.drop_eq_getElem_cons hlt]
      exact htest.append (hfirst.append hothers)

/-- What is left on the list is dropped. -/
theorem checkEnquireLink_run (h : Center.run checkEnquireLink s chs = some ((), s', tr)) :
    Drops s.vEnquireLink s s' chs tr := by
  obtain ⟨ch, chs₁, tr₁, rfl, rfl, h₁⟩ := Prog.runIn_call_bind_eq_some.mp h
  have hload : Drops [] s s [ch] [⟨.loadEnquireLink, s.vEnquireLink⟩] :=
    ⟨by simp [dropped], rfl, rfl, rfl, fun _ => rfl⟩
  change Center.run (if 0 < s.vEnquireLink.length then _ else _) s chs₁ = _ at h₁
  split at h₁
  · have hpasses : s.vEnquireLink.length < 0 + (s.vEnquireLink.length + 1) := by omega
    exact hload.append (dropSockets_run hpasses (Nat.zero_le _) h₁)
  · next hempty =>
    obtain ⟨rfl, -, rfl, rfl⟩ := Prog.runIn_ret_eq_some.mp h₁
    have hnil : s.vEnquireLink = [] :=
      List.eq_nil_of_length_eq_zero (Nat.eq_zero_of_not_pos hempty)
    rw [hnil] at hload
    rw [hnil]
    simpa [Center.answer, hnil] using hload

/-- An enquire-link request goes out on the socket. -/
theorem cmpEnquireLinkRequest_enquired {nSocketFD n : ℤ}
    (h : Center.run (cmpEnquireLinkRequest nSocketFD) s chs = some (n, s', tr)) :
    enquired tr = [nSocketFD] := by
  obtain ⟨n', tr₁, rfl, u, tr₂, rfl, r, tr₃, rfl, u', tr₄, rfl, rfl, -⟩ := Prog.exec_of_runIn h
  simp [enquired, formatHeader]

/-- The second loop: each bound socket is noted and asked. -/
theorem enquireSockets_run {l : List ℤ}
    (h : Center.run (enquireSockets l) s chs = some ((), s', tr)) :
    s'.rows = s.rows ∧ s'.vEnquireLink = s.vEnquireLink ++ l ∧ closed tr = [] ∧
      enquired tr = l ∧ dropped tr = [] := by
  induction l generalizing s chs tr with
  | nil =>
    obtain ⟨-, -, rfl, rfl⟩ := Prog.runIn_ret_eq_some.mp h
    simp [closed, enquired, dropped]
  | cons nSocketFD rest ih =>
    unfold enquireSockets at h
    obtain ⟨ch₁, chs₁, tr₁, -, rfl, h₁⟩ := Prog.runIn_call_bind_eq_some.mp h
    obtain ⟨ch₂, chs₂, tr₂, -, rfl, h₂⟩ := Prog.runIn_call_bind_eq_some.mp h₁
    obtain ⟨chs₃, chs₄, n, s₁, tr₃, tr₄, -, rfl, hask, h₃⟩ := Prog.runIn_bind_eq_some.mp h₂
    have hplain : PlainProg (cmpEnquireLinkRequest nSocketFD) :=
      ⟨trivial, fun _ => ⟨trivial, fun _ => sendCommand_plain _ _⟩⟩
    obtain ⟨hrows₁, hlink₁⟩ := hplain.run hask
    obtain ⟨hrows, hlink, hclosed, henquired, hdropped⟩ := ih h₃
    refine ⟨hrows.trans hrows₁, ?_, ?_, ?_, ?_⟩
    -- the calls of the first pass, then those of the other passes
    · rw [hlink, hlink₁]
      exact List.append_assoc _ [nSocketFD] rest
    · show closed (tr₃ ++ tr₄) = []
      rw [closed_append, closed_of_noClose hplain.noClose hask, hclosed, List.append_nil]
    · show enquired (tr₃ ++ tr₄) = _
      rw [enquired_append, cmpEnquireLinkRequest_enquired hask, henquired]
      rfl
    · show dropped (tr₃ ++ tr₄) = []
      rw [dropped_append, hplain.dropped hask, hdropped, List.append_nil]

/-- Of the bound sockets, those that are read are noted and asked. -/
theorem enquireBound_run (h : Center.run enquireBound s chs = some ((), s', tr)) :
    s'.rows = s.rows ∧ closed tr = [] ∧ dropped tr = [] ∧
      ∃ l, l <+: ControllerSql.selectBound.query s.rows ∧
        (Succeed chs → l = ControllerSql.selectBound.query s.rows) ∧
        s'.vEnquireLink = s.vEnquireLink ++ l ∧ enquired tr = l := by
  obtain ⟨ch, chs₁, tr₁, rfl, rfl, h₁⟩ := Prog.runIn_call_bind_eq_some.mp h
  have hquote := ControllerSql.quoteFree_selectBound
  have hfront := Center.answer_controllerQuery_prefix s ch hquote
  have hquery := Center.answer_controllerQuery_ok s ch hquote
  rw [Center.answer_controllerQuery_state] at h₁
  generalize (s.answer (.controllerQuery .selectBound) ch).1 = l at *
  have hrest : s'.rows = s.rows ∧ s'.vEnquireLink = s.vEnquireLink ++ l ∧ closed tr₁ = [] ∧
      enquired tr₁ = l ∧ dropped tr₁ = [] := by
    split at h₁
    · obtain ⟨ch₂, chs₂, tr₂, -, rfl, h₂⟩ := Prog.runIn_call_bind_eq_some.mp h₁
      obtain ⟨hrows, hlink, hclosed, henquired, hdropped⟩ := enquireSockets_run h₂
      exact ⟨hrows, hlink, hclosed, henquired, hdropped⟩
    · -- nobody is bound, and the vector stays as it is
      next hnone =>
      obtain ⟨-, -, rfl, rfl⟩ := Prog.runIn_ret_eq_some.mp h₁
      have hnil : l = [] := List.eq_nil_of_length_eq_zero (Nat.eq_zero_of_not_pos hnone)
      rw [hnil, List.append_nil]
      exact ⟨rfl, rfl, rfl, rfl, rfl⟩
  obtain ⟨hrows, hlink, hclosed, henquired, hdropped⟩ := hrest
  exact ⟨hrows, hclosed, hdropped, l, hfront,
    fun hsucceed => hquery (hsucceed ch List.mem_cons_self), hlink, henquired⟩

/-- **A round of the keep-alive thread.** The sockets of the vector are closed, and lose their rows
when the statements succeed; of the bound sockets that remain, those that are read are the new
vector, and are asked. -/
theorem enquireLinkRound_run (h : Center.run enquireLinkRound s chs = some ((), s', tr)) :
    closed tr = s.vEnquireLink ∧ s'.rows = (s.rows.filter fun r => r.socketFd ∉ dropped tr) ∧
      enquired tr = s'.vEnquireLink ∧
      s'.vEnquireLink <+: ControllerSql.selectBound.query s'.rows ∧
      (Succeed chs → dropped tr = s.vEnquireLink ∧
        s'.vEnquireLink = ControllerSql.selectBound.query s'.rows) := by
  obtain ⟨chs₁, chs₂, u, s₁, tr₁, tr₂, rfl, rfl, hcheck, h₁⟩ := Prog.runIn_bind_eq_some.mp h
  have hdrops := checkEnquireLink_run hcheck
  obtain ⟨ch, chs₃, tr₃, rfl, rfl, h₃⟩ := Prog.runIn_call_bind_eq_some.mp h₁
  obtain ⟨hrows, hclosed, hdropped, l, hfront, hquery, hlink, henquired⟩ := enquireBound_run h₃
  have hlink' : s'.vEnquireLink = l := hlink
  have hrows' : s'.rows = s₁.rows := hrows
  have hdropped' : dropped (tr₁ ++ ⟨.storeEnquireLink [], ()⟩ :: tr₃) = dropped tr₁ := by
    rw [dropped_append]
    exact (congrArg _ hdropped).trans (List.append_nil _)
  refine ⟨?_, ?_, ?_, ?_, fun hsucceed => ?_⟩
  · rw [closed_append, hdrops.closed]
    exact (congrArg _ hclosed).trans (List.append_nil _)
  · rw [hrows', hdrops.rows, hdropped']
  · rw [enquired_append, hdrops.enquired, hlink']
    exact henquired
  · rw [hlink', hrows']
    exact hfront
  · obtain ⟨hfirst, hsecond⟩ := List.forall_mem_append.mp hsucceed
    rw [hlink', hrows']
    exact ⟨hdropped'.trans (hdrops.dropped hfirst),
      hquery fun ch hch => hsecond ch (List.mem_cons_of_mem _ hch)⟩

end ControlCenter
end ControllerSystem
