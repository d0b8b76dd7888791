import ControllerSystem.Controller.Threads

/-!
# Which devices are bound

What becomes of a bind request of the Controller while the other threads run: two properties of the
table `device`, each with the condition on the steps of a run under which it holds.

* `one_bound` — no device has two bound rows, as long as between the `DELETE` and the `INSERT` of
  `cmpBind` no other thread inserts a row for the same id. The `DELETE` has removed all there were
  (`bindOrder`), but nothing in the table is unique.
* `stays_bound` — the row of an open connection stays bound until the connection unbinds, hangs up
  or is dropped, as long as no `UPDATE` of `setUnbindState` finds that its descriptor denotes
  another connection by now, nobody binds the device again, and the keep-alive thread closes the
  descriptor whose rows it has deleted. A notice waits in the queue, and a descriptor may be given
  away meanwhile.
-/

open Words Calls KeepAlive

namespace ControllerSystem.Controller

/-! ### One bound row for each device -/

/-- No id has two rows with status 1. -/
def OneBound (t : List DeviceRow) : Prop :=
  ((t.filter fun r => r.status = 1).map DeviceRow.id).Nodup

instance (t : List DeviceRow) : Decidable (OneBound t) := inferInstanceAs (Decidable (List.Nodup _))

section OneBound

variable {t : List DeviceRow}

theorem OneBound.filter (h : OneBound t) (q : DeviceRow → Bool) : OneBound (t.filter q) :=
  h.sublist (((List.filter_sublist).filter _).map _)

/-- A new bound row must be the only one of its id. -/
theorem oneBound_insert {strId : Bytes} {nFD : ℤ} :
    OneBound (t ++ [⟨strId, 1, nFD⟩]) ↔
      OneBound t ∧ ∀ r ∈ t, r.status = 1 → r.id ≠ strId := by
  have hnew : ((t ++ [(⟨strId, 1, nFD⟩ : DeviceRow)]).filter fun r => r.status = 1).map
      DeviceRow.id = (t.filter fun r => r.status = 1).map DeviceRow.id ++ [strId] := by
    simp
  rw [OneBound, hnew, ← List.concat_eq_append, List.nodup_concat, OneBound, and_comm]
  simp only [List.mem_map, List.mem_filter, decide_eq_true_eq, not_exists, not_and, and_imp, ne_eq]

/-- Unbinding leaves the bound rows of other sockets. -/
theorem OneBound.setUnbind (h : OneBound t) (nFD : ℤ) :
    OneBound (t.map fun r => if r.socketFd = nFD then { r with status := 0 } else r) := by
  have hids : ((t.map fun r => if r.socketFd = nFD then { r with status := 0 } else r).filter
      fun r => r.status = 1).map DeviceRow.id =
      ((t.filter fun r => r.socketFd ≠ nFD).filter fun r => r.status = 1).map DeviceRow.id := by
    clear h
    induction t with
    | nil => rfl
    | cons r t ih =>
      by_cases hfd : r.socketFd = nFD
      · simp [hfd, ih]
      · by_cases hstatus : r.status = 1 <;> simp [hfd, hstatus, ih]
  rw [OneBound, hids]
  exact h.filter _

/-- A statement executed as it is meant, unless it inserts a second row. -/
theorem OneBound.exec (h : OneBound t) (sql : DeviceSql)
    (hinsert : ∀ strId nFD, sql = .insert strId nFD → ∀ r ∈ t, r.status = 1 → r.id ≠ strId) :
    OneBound (sql.exec t) := by
  cases sql with
  | deleteById strId => exact h.filter _
  | insert strId nFD => exact oneBound_insert.mpr ⟨h, hinsert strId nFD rfl⟩
  | setUnbind nFD => exact h.setUnbind nFD
  | deleteBySocketFD nFD => exact h.filter _
  | selectBound => exact h

end OneBound

/-- The order of the statements of `cmpBind`: the `INSERT` of a row is the first thing behind the
`DELETE` of the rows of its id, which is the state. -/
def bindOrder : Option Bytes → ControllerEvent → Option (Option Bytes)
  | none, ⟨.deviceExec (.deleteById strId), _⟩ => some (some strId)
  | none, ⟨.deviceExec (.insert _ _), _⟩ => none
  | none, _ => some none
  | some strId, ⟨.deviceExec (.insert strId' _), _⟩ =>
    if strId' = strId then some none else none
  | some _, _ => none

/-- A program that inserts a row only behind the `DELETE` of the others. -/
def FollowsBind {α : Type} : Option Bytes → ControllerProg α → Prop :=
  Prog.Follows bindOrder (fun _ => True) (· = none)

/-- The calls that neither delete the rows of an id nor insert one. -/
def KeepsIds : ControllerCall → Prop
  | .deviceExec (.deleteById _) => False
  | .deviceExec (.insert _ _) => False
  | _ => True

section Programs

variable {mConfig : Config} {nSocket : ℤ} {nCommand nSequence : Word} {pData : Bytes}

theorem followsBind_of_forall {α : Type} {p : ControllerProg α} (hp : p.Forall KeepsIds) :
    FollowsBind none p := by
  refine Prog.Forall.follows (fun c r hc => ?_) rfl hp
  cases c with
  | deviceExec sql =>
    cases sql with
    | deleteById => exact hc.elim
    | insert => exact hc.elim
    | _ => rfl
  | _ => rfl

theorem CenterRequestCall.keepsIds {c : ControllerCall} (hc : CenterRequestCall c) :
    KeepsIds c := by
  cases hc <;> trivial

theorem LinkCall.keepsIds {c : ControllerCall} (hc : LinkCall c) : KeepsIds c := by
  cases hc <;> trivial

theorem DropCall.keepsIds {c : ControllerCall} (hc : DropCall c) : KeepsIds c := by
  cases hc <;> trivial

theorem AskCall.keepsIds {c : ControllerCall} (hc : AskCall c) : KeepsIds c := by
  cases hc with
  | link hc => exact hc.keepsIds
  | center hc => exact hc.keepsIds
  | _ => trivial

theorem sendCommandtoClient_keepsIds (nStatus : Word) (isResp : Bool) :
    (sendCommandtoClient nSocket nCommand nStatus nSequence isResp).Forall KeepsIds :=
  ⟨trivial, fun _ => ⟨trivial, fun _ => trivial⟩⟩

theorem cmpBind_follows : FollowsBind none (cmpBind nSocket nCommand nSequence pData) := by
  have hanswer (nStatus : Word) : FollowsBind none (do
      let _ ← sendCommandtoClient nSocket nCommand nStatus nSequence true
      pure (0 : ℤ)) :=
    followsBind_of_forall ((sendCommandtoClient_keepsIds _ _).bind fun _ => trivial)
  unfold cmpBind
  dsimp only
  split
  · exact fun _ _ => ⟨_, rfl, fun _ _ => ⟨none, if_pos rfl, hanswer _⟩⟩
  · exact hanswer _

theorem cmpAccessLog_keepsIds :
    (cmpAccessLog mConfig nSocket nCommand nSequence pData).Forall KeepsIds := by
  unfold cmpAccessLog
  dsimp only
  split
  · refine (sendCommandtoClient_keepsIds _ _).bind fun _ => ⟨trivial, fun nSocketFD => ?_⟩
    have hrequest : (cmpAccessLogRequest mConfig nSocketFD ((parseBody nCommand pData).2.get "type")
        ((parseBody nCommand pData).2.get "data")).Forall KeepsIds :=
      (centerRequest_calls _ _).mono fun _ hc => hc.keepsIds
    exact hrequest.bind fun _ => trivial
  · exact (sendCommandtoClient_keepsIds _ _).bind fun _ => trivial

theorem cmpRequest_followsBind :
    FollowsBind none (cmpRequest mConfig nSocket nCommand nSequence pData) := by
  apply cmpRequest_cases (P := FollowsBind none)
  case bind => exact fun _ => cmpBind_follows
  case unbind =>
    exact fun _ => followsBind_of_forall ⟨trivial, fun _ =>
      (sendCommandtoClient_keepsIds _ _).bind fun _ => trivial⟩
  case accessLog => exact fun _ => followsBind_of_forall cmpAccessLog_keepsIds
  case enquireLink =>
    exact fun _ => followsBind_of_forall
      ((sendCommandtoCenter_calls _ _).mono fun _ hc => hc.keepsIds)
  case unknow =>
    exact followsBind_of_forall ((sendCommandtoClient_keepsIds _ _).bind fun _ => trivial)

theorem onCMPWith_followsBind :
    FollowsBind none (onCMPWith (cmpRequest mConfig) nSocket pData) := by
  refine fun _ _ => ⟨none, rfl, ?_⟩
  simp only [Prog.bind_eq, Prog.ret_bind]
  split
  · exact followsBind_of_forall (ackPacket_calls.mono fun _ hc => hc.keepsIds)
  split
  · exact followsBind_of_forall ((sendCommandtoClient_keepsIds _ _).bind fun _ => trivial)
  · exact cmpRequest_followsBind.bind fun _ _ hend => hend

theorem onReceiveMessage_followsBind (notice : Notice) :
    FollowsBind none (onReceiveMessage notice) := by
  refine followsBind_of_forall ?_
  cases notice with
  | clientConnect nId => exact ⟨trivial, fun _ => trivial⟩
  | clientDisconnect nId => exact ⟨trivial, fun _ => trivial⟩
  | centerDisconnect nId => trivial

theorem enquireLinkRound_followsBind : FollowsBind none (enquireLinkRound mConfig) :=
  followsBind_of_forall (enquireLinkRound_calls.mono fun _ hc =>
    hc.elim DropCall.keepsIds AskCall.keepsIds)

end Programs

/-- The statements are executed as they are meant, and succeed. When a row is inserted, no row that
other threads have inserted for its id since the `DELETE` of this one is still bound. -/
def Separate (s : Threads) : ThreadsLabel → Prop
  | .call w ch => ∀ sql, next (s.program w) = some (.deviceExec sql) →
      sql.QuoteFree ∧ ch.rc = sqliteOk ∧ ∀ strId nFD, sql = .insert strId nFD →
        ∀ r ∈ s.newer w, r.status = 1 → r.id ≠ strId
  | _ => True

/-- All the rows of an id have been inserted since the `DELETE` of a thread. -/
def Threads.OnlyNewer (s : Threads) (w : Worker) (strId : Bytes) : Prop :=
  ∀ r ∈ s.device.rows, r.id = strId → r ∈ s.newer w

/-- What every step keeps: no id has two bound rows, and between a `DELETE` and its `INSERT` all the
rows of the id are new. -/
structure Threads.BindInv (s : Threads) : Prop where
  one : OneBound s.device.rows
  order : ∀ w, ∃ q, FollowsBind q (s.program w) ∧ ∀ strId, q = some strId → s.OnlyNewer w strId

/-- A statement does the same to the rows of an id and to the new ones. -/
theorem exec_newer {t u : List DeviceRow} {strId : Bytes} (sql : DeviceSql)
    (h : ∀ r ∈ t, r.id = strId → r ∈ u) : ∀ r ∈ sql.exec t, r.id = strId → r ∈ sql.exec u := by
  intro r hr hid
  cases sql with
  | deleteById strId' =>
    obtain ⟨hr, hne⟩ := List.mem_filter.mp hr
    exact List.mem_filter.mpr ⟨h r hr hid, hne⟩
  | insert strId' nFD =>
    rcases List.mem_append.mp hr with hr | hr
    · exact List.mem_append_left _ (h r hr hid)
    · exact List.mem_append_right _ hr
  | setUnbind nFD =>
    obtain ⟨r', hr', rfl⟩ := List.mem_map.mp hr
    refine List.mem_map_of_mem (h r' hr' ?_)
    rw [← hid]
    split <;> rfl
  | deleteBySocketFD nFD =>
    obtain ⟨hr, hne⟩ := List.mem_filter.mp hr
    exact List.mem_filter.mpr ⟨h r hr hid, hne⟩
  | selectBound => exact h r hr hid

section Threads

variable {mConfig : Config} {s s' : Threads} {l : ThreadsLabel}

/-- The statement of another thread leaves the rows of an id new. -/
theorem Threads.OnlyNewer.exec {w w' : Worker} {strId : Bytes} (h : s.OnlyNewer w' strId)
    (hne : w' ≠ w) (sql : DeviceSql) : ∀ r ∈ sql.exec s.device.rows, r.id = strId →
      r ∈ s.newerAfter w ⟨.deviceExec sql, sqliteOk⟩ w' := by
  have hafter : s.newerAfter w ⟨.deviceExec sql, sqliteOk⟩ w' = sql.exec (s.newer w') := by
    cases sql <;> simp [Threads.newerAfter, hne]
  rw [hafter]
  exact exec_newer sql h

/-- Beside statements, nothing is inserted. -/
theorem newerAfter_of_ne {w : Worker} {e : ControllerEvent} (he : ∀ sql, e.1 ≠ .deviceExec sql) :
    s.newerAfter w e = s.newer := by
  obtain ⟨c, r⟩ := e
  cases c with
  | deviceExec sql => exact absurd rfl (he sql)
  | _ => rfl

/-- A row is inserted behind the `DELETE` of its id. -/
theorem bindOrder_insert {q q' : Option Bytes} {strId : Bytes} {nFD rc : ℤ}
    (h : bindOrder q ⟨.deviceExec (.insert strId nFD), rc⟩ = some q') : q = some strId := by
  cases q with
  | none => cases h
  | some strId' =>
    simp only [bindOrder] at h
    split at h
    · next heq => rw [heq]
    · cases h

/-- Only a `DELETE` is followed by an `INSERT`. -/
theorem bindOrder_eq_some {q : Option Bytes} {e : ControllerEvent} {strId : Bytes}
    (h : bindOrder q e = some (some strId)) : e.1 = .deviceExec (.deleteById strId) := by
  obtain ⟨c, r⟩ := e
  cases q with
  | none =>
    cases c with
    | deviceExec sql =>
      cases sql <;> cases h
      rfl
    | _ => cases h
  | some strId' =>
    cases c with
    | deviceExec sql =>
      cases sql with
      | insert strId'' nFD =>
        simp only [bindOrder] at h
        split at h <;> cases h
      | _ => cases h
    | _ => cases h

section Act

variable {w : Worker} {ch : DeviceChoice} {p p' : ControllerProg Unit} {d : Device}
  {e : ControllerEvent} {sql : DeviceSql} {rc : ℤ} {q q' : Option Bytes}

/-- A turn leaves the others where they were, when it leaves their rows new. -/
theorem Threads.BindInv.of_order (h : s.BindInv) (hone : OneBound d.rows)
    (hself : FollowsBind q' p') (hempty : ∀ strId, q' = some strId → ∀ r ∈ d.rows, r.id ≠ strId)
    (hother : ∀ w' ≠ w, ∀ strId, s.OnlyNewer w' strId → (s.act w p' d e).OnlyNewer w' strId) :
    (s.act w p' d e).BindInv := by
  refine ⟨hone, fun w' => ?_⟩
  rcases eq_or_ne w' w with rfl | hne
  · have hprogram : (s.act w' p' d e).program w' = p' := Function.update_self _ _ _
    rw [hprogram]
    exact ⟨q', hself, fun strId hq r hr hid => absurd hid (hempty strId hq r hr)⟩
  · have hprogram : (s.act w p' d e).program w' = s.program w' := Function.update_of_ne hne _ _
    obtain ⟨q, hfollows, hnewer⟩ := h.order w'
    rw [hprogram]
    exact ⟨q, hfollows, fun strId hq => hother w' hne strId (hnewer strId hq)⟩

/-- A turn of a worker. -/
theorem Threads.BindInv.act (h : s.BindInv) (hturn : Turns p s.device ch p' d e)
    (hfollows : FollowsBind q p) (hnewer : ∀ strId, q = some strId → s.OnlyNewer w strId)
    (hok : ∀ sql, next p = some (.deviceExec sql) →
      sql.QuoteFree ∧ ch.rc = sqliteOk ∧ ∀ strId nFD, sql = .insert strId nFD →
        ∀ r ∈ s.newer w, r.status = 1 → r.id ≠ strId) : (s.act w p' d e).BindInv := by
  obtain ⟨q', hq', hfollows'⟩ := hturn.follows hfollows fun v v' q₁ hq₁ => by
    cases q with
    | none =>
      obtain rfl := Option.some.inj hq₁
      rfl
    | some strId => cases hq₁
  by_cases hexec : ∃ sql, e.1 = .deviceExec sql
  · obtain ⟨sql, hsql⟩ := hexec
    obtain ⟨c, rc⟩ := e
    dsimp only at hsql
    subst hsql
    obtain ⟨hquote, hrc, hinsert⟩ := hok sql hturn.next_eq
    obtain ⟨rfl, hrows⟩ := hturn.exec hquote
    rw [hrc] at hq' hrows ⊢
    rw [if_pos rfl] at hrows
    refine h.of_order ?_ hfollows' ?_ ?_
    · -- a bound row of the id that is inserted would be a new one
      rw [hrows]
      refine h.one.exec sql ?_
      rintro strId nFD rfl r hr hstatus hid
      have hrow : r ∈ s.newer w := hnewer strId (bindOrder_insert hq') r hr hid
      exact hinsert strId nFD rfl r hrow hstatus hid
    · rintro strId rfl r hr
      cases bindOrder_eq_some hq'
      rw [hrows] at hr
      simpa using (List.mem_filter.mp hr).2
    · intro w' hne strId hnew r hr
      change r ∈ d.rows at hr
      rw [hrows] at hr
      exact hnew.exec hne sql r hr
  · have he : ∀ sql, e.1 ≠ .deviceExec sql := fun sql hsql => hexec ⟨sql, hsql⟩
    have hrows : d.rows = s.device.rows := hturn.rows_eq he
    refine h.of_order (hrows ▸ h.one) hfollows' ?_ ?_
    · rintro strId rfl
      exact absurd (bindOrder_eq_some hq') (he _)
    · intro w' _ strId hnew r hr hid
      change r ∈ d.rows at hr
      show r ∈ s.newerAfter w e w'
      rw [newerAfter_of_ne he]
      exact hnew r (hrows ▸ hr) hid

end Act

/-- A worker begins a program. -/
theorem Threads.BindInv.begin (h : s.BindInv) {w : Worker} {p : ControllerProg Unit}
    (hp : FollowsBind none p) (hdevice : s'.device = s.device) (hnewer : s'.newer = s.newer)
    (hprogram : s'.program = Function.update s.program w p) : s'.BindInv := by
  refine ⟨hdevice ▸ h.one, fun w' => ?_⟩
  simp only [Threads.OnlyNewer, hdevice, hnewer, hprogram]
  rcases eq_or_ne w' w with rfl | hne
  · rw [Function.update_self]
    exact ⟨none, hp, nofun⟩
  · rw [Function.update_of_ne hne]
    exact h.order w'

theorem Threads.BindInv.step (h : s.BindInv) (hok : Separate s l)
    (hstep : (threadsSystem mConfig).step s l = some s') : s'.BindInv := by
  cases steps_of_step hstep with
  | accept => exact h.begin (p := .ret ()) rfl rfl rfl rfl
  | connect => exact h.begin (p := .ret ()) rfl rfl rfl rfl
  | receive => exact h.begin onCMPWith_followsBind rfl rfl rfl
  | @call w ch p d e hturn =>
    obtain ⟨q, hfollows, hnewer⟩ := h.order w
    exact h.act hturn hfollows hnewer hok
  | hangUp => exact ⟨h.one, h.order⟩
  | socketClose => exact ⟨h.one, h.order⟩
  | notice => exact h.begin (onReceiveMessage_followsBind _) rfl rfl rfl
  -- the first turn of a round reads `vEnquireLink`
  | tick _ hturn =>
    exact h.act hturn enquireLinkRound_followsBind nofun fun sql hnext => by cases hnext

/-- **One bound row for each device**, when no thread inserts a row for a device between the
`DELETE` and the `INSERT` of another. -/
theorem one_bound {ls : List ThreadsLabel}
    (h : (threadsSystem mConfig).RunWhere Separate (threadsSystem mConfig).init ls s) :
    OneBound s.device.rows := by
  have hinit : (threadsSystem mConfig).init.BindInv :=
    ⟨List.nodup_nil, fun _ => ⟨none, rfl, nofun⟩⟩
  have hinv : s.BindInv := h.invariant (fun _ _ _ hinv hok hstep => hinv.step hok hstep) hinit
  exact hinv.one

end Threads

/-- A bind request of a device with a name of one character. -/
def bindPacket (strId : Bytes) : Bytes :=
  CmpHeader.bytes ⟨18#32, bindRequest, statusRok, 7#32⟩ ++ (strId ++ [0])

/-- The settings of a Controller without a center. -/
def aloneConfig : Config := ⟨[], [], []⟩

/-- One client binds a device: the log line of its packet, the `DELETE`, the `INSERT`. -/
def bindOne : List ThreadsLabel :=
  [.accept 5, .receive 0 (bindPacket (ascii "a")), .call (.client 0) {}, .call (.client 0) {},
    .call (.client 0) {}]

/-- A second client binds the same device behind the first one. -/
def bindAgain : List ThreadsLabel :=
  bindOne ++ [.accept 6, .receive 1 (bindPacket (ascii "a")), .call (.client 1) {},
    .call (.client 1) {}, .call (.client 1) {}]

theorem one_bound_bind : ∃ s, (threadsSystem aloneConfig).Run (threadsSystem aloneConfig).init
    bindAgain s ∧ s.device.rows = [⟨ascii "a", 1, 6⟩] ∧ OneBound s.device.rows := by
  have hrun : ∃ s, (threadsSystem aloneConfig).RunWhere Separate (threadsSystem aloneConfig).init
      bindAgain s ∧ s.device.rows = [⟨ascii "a", 1, 6⟩] := by
    apply Exists.intro
    refine ⟨.cons trivial rfl (.cons trivial rfl (.cons (fun _ h => by cases h) rfl
      (.cons (fun _ h => ?_) rfl (.cons (fun _ h => ?_) rfl (.cons trivial rfl (.cons trivial rfl
      (.cons (fun _ h => by cases h) rfl (.cons (fun _ h => ?_) rfl (.cons (fun _ h => ?_) rfl
      (.nil _)))))))))), rfl⟩
    all_goals
      cases h
      refine ⟨by decide, rfl, fun _ _ heq r hr => ?_⟩
      cases heq <;> cases hr
  obtain ⟨s, hrun, hrows⟩ := hrun
  exact ⟨s, hrun.toRun, hrows, one_bound hrun⟩

/-- Two clients bind one device, and both delete its rows before either inserts its own. -/
theorem two_bound_rows : ∃ s, (threadsSystem aloneConfig).Run (threadsSystem aloneConfig).init
      [.accept 5, .accept 6, .receive 0 (bindPacket (ascii "a")),
        .receive 1 (bindPacket (ascii "a")), .call (.client 0) {}, .call (.client 0) {},
        .call (.client 1) {}, .call (.client 1) {}, .call (.client 0) {}, .call (.client 1) {}] s ∧
    s.device.rows = [⟨ascii "a", 1, 5⟩, ⟨ascii "a", 1, 6⟩] ∧ ¬ OneBound s.device.rows :=
  ⟨_, LTS.System.run_eq_some_iff.mp rfl, rfl, by decide⟩

/-! ### Bound as long as the connection is open -/

/-- The row of a connection that has bound a device and is still open is there, with status 1, or
the connection is being dropped. -/
def StaysBound (s : Threads) : Prop :=
  ∀ b ∈ s.bound, ∀ f, s.sockets.conn f = some b.1 →
    s.dropping = some f ∨ (⟨b.2, 1, f⟩ : DeviceRow) ∈ s.device.rows

/-- A statement of a worker spares the devices the open connections have bound: the descriptor of an
`UPDATE` denotes none of the others, and nobody binds one of these devices again. -/
def Spares (s : Threads) (w : Worker) : DeviceSql → Prop
  | .setUnbind nFD => ∀ b ∈ s.bound, s.sockets.conn nFD = some b.1 → w = .client b.1
  | .deleteById strId => ∀ b ∈ s.bound, ∀ f, s.sockets.conn f = some b.1 → b.2 ≠ strId
  | _ => True

/-- The statements are executed as they are meant, and those that succeed spare the devices of other
connections. The keep-alive thread closes the descriptor whose rows it has deleted. -/
def UnbindsOwn (s : Threads) : ThreadsLabel → Prop
  | .call w ch =>
    (∀ sql, next (s.program w) = some (.deviceExec sql) →
      sql.QuoteFree ∧ (ch.rc = sqliteOk → Spares s w sql)) ∧
    ∀ nFD, next (s.program w) = some (.close nFD) → ∀ f, s.dropping = some f → nFD = f
  | _ => True

/-- The order in which a round drops a socket: it closes it behind the `DELETE`, before it comes to
the next one. -/
def dropOrder : Bool → ControllerEvent → Option Bool
  | false, ⟨.deviceExec (.deleteBySocketFD _), _⟩ => some true
  | true, ⟨.deviceExec (.deleteBySocketFD _), _⟩ => none
  | _, ⟨.close _, _⟩ => some false
  | bDeleted, _ => some bDeleted

/-- A program that closes a descriptor before it deletes the rows of the next one. -/
def FollowsDrop {α : Type} : Bool → ControllerProg α → Prop :=
  Prog.Follows dropOrder (fun _ => True) (· = false)

section Programs

variable {mConfig : Config}

theorem followsDrop_of_forall {α : Type} {p : ControllerProg α} (hp : p.Forall AskCall) :
    FollowsDrop false p := by
  refine Prog.Forall.follows (fun c r hc => ?_) rfl hp
  cases hc with
  | link hc => cases hc <;> rfl
  | center hc => cases hc <;> rfl
  | _ => rfl

theorem dropSocket_follows {it : ℕ} : FollowsDrop false (dropSocket it) :=
  fun _ _ => ⟨_, rfl, fun _ _ => ⟨_, rfl, fun _ _ => ⟨_, rfl, fun _ _ => ⟨_, rfl,
    fun _ _ => ⟨_, rfl, fun _ _ => ⟨_, rfl, rfl⟩⟩⟩⟩⟩⟩

theorem dropSockets_follows {passes it : ℕ} : FollowsDrop false (dropSockets passes it) := by
  induction passes generalizing it with
  | zero => exact rfl
  | succ passes ih =>
    refine fun bMore _ => ⟨false, rfl, ?_⟩
    simp only [Prog.bind_eq, Prog.ret_bind]
    split
    · refine dropSocket_follows.bind fun _ q hq => ?_
      rw [hq]
      exact ih
    · exact rfl

theorem checkEnquireLink_followsDrop : FollowsDrop false checkEnquireLink := by
  refine fun vEnquireLink _ => ⟨false, rfl, ?_⟩
  simp only [Prog.bind_eq, Prog.ret_bind]
  split
  · exact dropSockets_follows
  · exact rfl

theorem enquireLinkRound_followsDrop : FollowsDrop false (enquireLinkRound mConfig) := by
  refine checkEnquireLink_followsDrop.bind fun _ q hq => ?_
  rw [hq]
  exact followsDrop_of_forall enquireLinkRound_rest_calls

end Programs

/-- What every step keeps. -/
structure Threads.BoundInv (s : Threads) : Prop where
  wellformed : s.Wellformed
  lt_opened : ∀ b ∈ s.bound, b.1 < s.sockets.opened
  stays : StaysBound s
  drop : ∃ bDeleted, FollowsDrop bDeleted (s.program .keepAlive) ∧
    (bDeleted = false → s.dropping = none)

section Threads

variable {mConfig : Config} {s s' : Threads} {l : ThreadsLabel}

section Act

variable {w : Worker} {ch : DeviceChoice} {p p' : ControllerProg Unit} {d : Device}
  {e : ControllerEvent} {sql : DeviceSql} {rc : ℤ} {b : ℕ × Bytes}

/-- A connection has bound a device by the `INSERT` of its thread. -/
theorem mem_boundAfter (hb : b ∈ s.boundAfter w e) :
    b ∈ s.bound ∨ w = .client b.1 ∧ ∃ nFD, e = ⟨.deviceExec (.insert b.2 nFD), sqliteOk⟩ := by
  cases w with
  | client c =>
    obtain ⟨call, r⟩ := e
    cases call with
    | deviceExec sql =>
      cases sql with
      | insert strId nFD =>
        simp only [Threads.boundAfter] at hb
        split at hb
        · next hrc =>
          rcases List.mem_append.mp hb with hb | hb
          · exact .inl hb
          · obtain rfl := List.mem_singleton.mp hb
            exact .inr ⟨rfl, nFD, by rw [hrc]⟩
        · exact .inl hb
      | setUnbind nFD => exact .inl (List.mem_of_mem_filter hb)
      | _ => exact .inl hb
    | _ => exact .inl hb
  | loop => exact .inl hb
  | keepAlive => exact .inl hb

/-- Who unbinds, has bound nothing any more. -/
theorem ne_of_mem_boundAfter {nFD : ℤ}
    (hb : b ∈ s.boundAfter w ⟨.deviceExec (.setUnbind nFD), rc⟩) : w ≠ .client b.1 := by
  rintro rfl
  simp [Threads.boundAfter] at hb

/-- A statement leaves the row of an open connection, or begins to drop the connection. -/
theorem StaysBound.exec (h : StaysBound s) (hrows : d.rows =
      if rc = sqliteOk then sql.exec s.device.rows else s.device.rows)
    (hspares : rc = sqliteOk → Spares s w sql)
    (hdrop : ∀ nFD, sql = .deleteBySocketFD nFD → s.dropping = none)
    (hafter : b ∈ s.boundAfter w ⟨.deviceExec sql, rc⟩) (hb : b ∈ s.bound) {f : ℤ}
    (hconn : s.sockets.conn f = some b.1) :
    s.droppingAfter ⟨.deviceExec sql, rc⟩ = some f ∨ (⟨b.2, 1, f⟩ : DeviceRow) ∈ d.rows := by
  have hold := h b hb f hconn
  rw [hrows]
  by_cases hrc : rc = sqliteOk
  · rw [if_pos hrc]
    have hspare := hspares hrc
    cases sql with
    | deleteById strId =>
      refine hold.imp_right fun hrow => List.mem_filter.mpr ⟨hrow, ?_⟩
      simpa using hspare b hb f hconn
    | insert strId nFD => exact hold.imp_right (List.mem_append_left _)
    | setUnbind nFD =>
      -- the descriptor is another one, or the connection would be the one that unbinds
      have hne : f ≠ nFD := fun heq => ne_of_mem_boundAfter hafter (hspare b hb (heq ▸ hconn))
      exact hold.imp_right fun hrow => List.mem_map.mpr ⟨_, hrow, if_neg hne⟩
    | deleteBySocketFD nFD =>
      rcases eq_or_ne f nFD with rfl | hne
      · exact .inl (if_pos hrc)
      · have hrow := hold.resolve_left (by rw [hdrop nFD rfl]; nofun)
        exact .inr (List.mem_filter.mpr ⟨hrow, by simpa using hne⟩)
    | selectBound => exact hold
  · rw [if_neg hrc]
    cases sql with
    | deleteBySocketFD nFD => exact .inr (hold.resolve_left (by rw [hdrop nFD rfl]; nofun))
    | _ => exact hold

/-- Beside statements and `close`, nothing is bound, unbound or dropped. -/
theorem noted_of_ne (hexec : ∀ sql, e.1 ≠ .deviceExec sql) (hclose : ∀ f, e.1 ≠ .close f) :
    s.boundAfter w e = s.bound ∧ s.droppingAfter e = s.dropping ∧ closed [e] = [] := by
  obtain ⟨c, r⟩ := e
  cases c with
  | deviceExec sql => exact absurd rfl (hexec sql)
  | close f => exact absurd rfl (hclose f)
  | _ => exact ⟨by cases w <;> rfl, rfl, rfl⟩

/-- A turn leaves the row of an open connection, or drops the connection. -/
theorem Threads.BoundInv.stays_act (h : s.BoundInv) (hturn : Turns p s.device ch p' d e)
    (hserves : ∀ c, w = .client c → ∃ f, s.sockets.fd c = some f ∧ Serves f e.1)
    (hok : ∀ sql, next p = some (.deviceExec sql) →
      sql.QuoteFree ∧ (ch.rc = sqliteOk → Spares s w sql))
    (hclose : ∀ nFD, e.1 = .close nFD → ∀ f, s.dropping = some f → nFD = f)
    (hdrop : ∀ nFD, e.1 = .deviceExec (.deleteBySocketFD nFD) → s.dropping = none) :
    StaysBound (s.act w p' d e) := by
  intro b hb f hopen
  change b ∈ s.boundAfter w e at hb
  -- what is still open now was open before
  obtain ⟨hnot, hconn⟩ := Sockets.conn_closeAll.mp hopen
  show s.droppingAfter e = some f ∨ _ ∈ d.rows
  by_cases hexec : ∃ sql, e.1 = .deviceExec sql
  · obtain ⟨sql, hsql⟩ := hexec
    obtain ⟨c, rc⟩ := e
    dsimp only at hsql
    subst hsql
    obtain ⟨hquote, hspares⟩ := hok sql hturn.next_eq
    obtain ⟨hrc, hrows⟩ := hturn.exec hquote
    rcases mem_boundAfter hb with hold | ⟨rfl, nFD, heq⟩
    · exact h.stays.exec hrows (fun hok => hspares (hrc.symm.trans hok))
        (fun nFD heq => hdrop nFD (by rw [heq])) hb hold hconn
    · -- the new row is that of the descriptor the thread serves
      cases heq
      obtain ⟨f', hfd, hserve⟩ := hserves _ rfl
      obtain rfl : f' = f := Option.some.inj (hfd.symm.trans (h.wellformed.valid.fd_eq hconn))
      obtain rfl : nFD = f' := hserve
      rw [hrows]
      exact .inr (List.mem_append_right _ (List.mem_singleton.mpr rfl))
  have he : ∀ sql, e.1 ≠ .deviceExec sql := fun sql hsql => hexec ⟨sql, hsql⟩
  rw [hturn.rows_eq he]
  by_cases hcloses : ∃ nFD, e.1 = .close nFD
  · obtain ⟨nFD, hnFD⟩ := hcloses
    obtain ⟨c, r⟩ := e
    dsimp only at hnFD
    subst hnFD
    have hold : b ∈ s.bound := by cases w <;> exact hb
    have hne : f ≠ nFD := fun heq => hnot (List.mem_singleton.mpr heq)
    exact .inr ((h.stays b hold f hconn).resolve_left fun hf => hne (hclose nFD rfl f hf).symm)
  · obtain ⟨hbound, hdropping, -⟩ :=
      noted_of_ne (s := s) (w := w) he fun f hf => hcloses ⟨f, hf⟩
    rw [hbound] at hb
    rw [hdropping]
    exact h.stays b hb f hconn

/-- The keep-alive thread closes what it has deleted before it goes on to the next one. -/
theorem dropping_of_follows {bDeleted bDeleted' : Bool}
    (hq : dropOrder bDeleted e = some bDeleted') (h : bDeleted = false → s.dropping = none) :
    (bDeleted' = false → s.droppingAfter e = none) ∧
      ∀ nFD, e.1 = .deviceExec (.deleteBySocketFD nFD) → s.dropping = none := by
  obtain ⟨c, r⟩ := e
  cases bDeleted with
  | false =>
    refine ⟨fun hq' => ?_, fun _ _ => h rfl⟩
    cases c with
    | deviceExec sql =>
      cases sql with
      | deleteBySocketFD nFD =>
        cases hq
        cases hq'
      | _ => exact h rfl
    | close nFD => rfl
    | _ => exact h rfl
  | true =>
    cases c with
    | deviceExec sql =>
      cases sql with
      | deleteBySocketFD nFD => cases hq
      | _ =>
        cases hq
        exact ⟨nofun, nofun⟩
    | close nFD => exact ⟨fun _ => rfl, nofun⟩
    | _ =>
      cases hq
      exact ⟨nofun, nofun⟩

/-- A thread that serves a descriptor drops none. -/
theorem dropping_of_serves {f : ℤ} (hserves : Serves f e.1) :
    s.droppingAfter e = s.dropping ∧ (∀ nFD, e.1 ≠ .deviceExec (.deleteBySocketFD nFD)) := by
  obtain ⟨c, r⟩ := e
  cases c with
  | deviceExec sql =>
    cases sql with
    | deleteBySocketFD nFD => exact hserves.elim
    | _ => exact ⟨rfl, nofun⟩
  | close nFD => exact hserves.elim
  | _ => exact ⟨rfl, nofun⟩

/-- What holds behind a turn of any worker. -/
theorem Threads.BoundInv.lt_act (h : s.BoundInv)
    (hserves : ∀ c, w = .client c → ∃ f, s.sockets.fd c = some f ∧ Serves f e.1) :
    ∀ b ∈ s.boundAfter w e, b.1 < s.sockets.opened := by
  intro b hb
  rcases mem_boundAfter hb with hb | ⟨rfl, -⟩
  · exact h.lt_opened b hb
  · obtain ⟨f, hfd, -⟩ := hserves _ rfl
    exact h.wellformed.lt_opened hfd

/-- A turn of the keep-alive thread. -/
theorem Threads.BoundInv.act_keepAlive (h : s.BoundInv) (hturn : Turns p s.device ch p' d e)
    {bDeleted : Bool} (hfollows : FollowsDrop bDeleted p)
    (hdropping : bDeleted = false → s.dropping = none)
    (hok : ∀ sql, next p = some (.deviceExec sql) →
      sql.QuoteFree ∧ (ch.rc = sqliteOk → Spares s .keepAlive sql))
    (hclose : ∀ nFD, e.1 = .close nFD → ∀ f, s.dropping = some f → nFD = f)
    (hwell : (s.act .keepAlive p' d e).Wellformed) : (s.act .keepAlive p' d e).BoundInv := by
  obtain ⟨bDeleted', hq, hfollows'⟩ := hturn.follows hfollows fun v v' q₁ hq₁ => by
    cases bDeleted <;> cases hq₁ <;> rfl
  obtain ⟨hafter, hdrop⟩ := dropping_of_follows hq hdropping
  have hprogram : (s.act .keepAlive p' d e).program .keepAlive = p' := by simp [Threads.act]
  have hserves : ∀ c, Worker.keepAlive = .client c → ∃ f, s.sockets.fd c = some f ∧ Serves f e.1 :=
    fun _ heq => by cases heq
  refine ⟨hwell, h.lt_act hserves, h.stays_act hturn hserves hok hclose hdrop, bDeleted', ?_,
    hafter⟩
  rw [hprogram]
  exact hfollows'

/-- A turn of another worker, which serves a descriptor. -/
theorem Threads.BoundInv.act_serves (h : s.BoundInv) (hturn : Turns p s.device ch p' d e)
    (hne : w ≠ .keepAlive) {f : ℤ} (hserve : Serves f e.1)
    (hserves : ∀ c, w = .client c → ∃ f, s.sockets.fd c = some f ∧ Serves f e.1)
    (hok : ∀ sql, next p = some (.deviceExec sql) →
      sql.QuoteFree ∧ (ch.rc = sqliteOk → Spares s w sql))
    (hwell : (s.act w p' d e).Wellformed) : (s.act w p' d e).BoundInv := by
  obtain ⟨hdropping, hdelete⟩ := dropping_of_serves (s := s) hserve
  obtain ⟨bDeleted, hfollows, hdrop⟩ := h.drop
  have hprogram : (s.act w p' d e).program .keepAlive = s.program .keepAlive :=
    Function.update_of_ne hne.symm _ _
  refine ⟨hwell, h.lt_act hserves, h.stays_act hturn hserves hok ?_ ?_, bDeleted, ?_, ?_⟩
  · intro nFD hclose
    rw [hclose] at hserve
    exact hserve.elim
  · exact fun nFD hsql => absurd hsql (hdelete nFD)
  · rw [hprogram]
    exact hfollows
  · intro hq
    exact hdropping.trans (hdrop hq)

end Act

/-- A new connection has bound nothing. -/
theorem Threads.BoundInv.opened (h : s.BoundInv) (f : ℤ) (toCenter : Bool)
    (queue : List Notice) : (s.opened f toCenter queue).BoundInv where
  wellformed := h.wellformed.opened f toCenter queue
  lt_opened b hb := Nat.lt_succ_of_lt (h.lt_opened b hb)
  stays := by
    intro b hb f' hconn
    rcases Sockets.conn_accept hconn with ⟨-, hnew⟩ | ⟨-, hold⟩
    · exact absurd hnew (Nat.ne_of_lt (h.lt_opened b hb))
    · exact h.stays b hb f' hold
  drop := h.drop

theorem Threads.BoundInv.step (h : s.BoundInv) (hok : UnbindsOwn s l)
    (hstep : (threadsSystem mConfig).step s l = some s') : s'.BoundInv := by
  have hwell : s'.Wellformed := h.wellformed.step hstep
  cases steps_of_step hstep with
  | accept => exact h.opened _ _ _
  | connect => exact h.opened _ _ _
  | receive => exact ⟨hwell, h.lt_opened, h.stays, h.drop⟩
  | @call w ch p d e hturn =>
    cases w with
    | client c =>
      obtain ⟨f, hfd⟩ := h.wellformed.exists_fd hturn
      have hserve : Serves f e.1 := (hturn.forall_step (h.wellformed.client hfd)).1
      refine h.act_serves hturn nofun hserve ?_ hok.1 hwell
      rintro c' heq
      cases heq
      exact ⟨f, hfd, hserve⟩
    | loop =>
      have hserve : Serves 0 e.1 := (hturn.forall_step (h.wellformed.loop 0)).1
      exact h.act_serves hturn nofun hserve nofun hok.1 hwell
    | keepAlive =>
      obtain ⟨bDeleted, hfollows, hdrop⟩ := h.drop
      refine h.act_keepAlive hturn hfollows hdrop hok.1 (fun nFD hclose => ?_) hwell
      exact hok.2 nFD (hturn.next_close hclose)
  | hangUp =>
    -- what the connection has bound is not its own any more
    refine ⟨hwell, fun b hb => h.lt_opened b (List.mem_of_mem_filter hb),
      fun b hb f hconn => ?_, h.drop⟩
    exact h.stays b (List.mem_of_mem_filter hb) f hconn
  | socketClose =>
    exact ⟨hwell, h.lt_opened, fun b hb f hconn =>
      h.stays b hb f (Sockets.conn_closeAll.mp hconn).2, h.drop⟩
  | notice => exact ⟨hwell, h.lt_opened, h.stays, h.drop⟩
  | @tick ch p d e hidle hturn =>
    -- the first turn of a round reads `vEnquireLink`, and nothing is being dropped
    have hdropping : s.dropping = none := by
      obtain ⟨bDeleted, hfollows, hdrop⟩ := h.drop
      rw [hidle] at hfollows
      exact hdrop hfollows
    refine h.act_keepAlive hturn enquireLinkRound_followsDrop (fun _ => hdropping)
      (fun _ hnext => by cases hnext) ?_ hwell
    intro nFD hclose
    cases hturn.next_close hclose

end Threads

end ControllerSystem.Controller
