import ControllerSystem.ControlCenter.Center

/-!
# What a failing bind request leaves behind

A bind request makes two statements, a `DELETE` and an `INSERT`, without a transaction around them.
`ControllerDb` is a database with the result code of each statement; a failing statement changes
nothing.

`controllerSqlExec` gives `SUCCESS` for `SQLITE_OK` and any other result code as it is, so an
`SQLITE_ERROR` is a `SUCCESS` as well.

* `cmpBind_outcome` — the table and the answer, from the two result codes;
* `cmpBind_atomic_iff` — when the request is atomic;
* `cmpBind_half_done` — a binding that is lost.
-/

open Words Calls

namespace ControllerSystem.ControlCenter

/-! ### Databases -/

/-- How the database takes the statements. -/
structure ControllerDb where
  /-- The result code of a statement. -/
  rc : ControllerSql → ℤ
  /-- What a statement whose text is not the one meant does to the table, if it is executed. -/
  exec : ControllerSql → List ControllerRow → List ControllerRow

namespace ControllerDb

/-- The choice of a call: a failing statement changes nothing. -/
def pick (db : ControllerDb) (s : Center) : CenterCall → CenterChoice → CenterChoice
  | .controllerExec sql, _ =>
    { rc := db.rc sql, rows := if db.rc sql = sqliteOk then db.exec sql s.rows else s.rows }
  | _, ch => ch

/-- What a call returns with this database, and the state afterwards. -/
def answer (db : ControllerDb) (s : Center) (c : CenterCall) (ch : CenterChoice) :
    c.Res × Center :=
  s.answer c (db.pick s c ch)

/-- Run a program with this database. -/
abbrev run {α : Type} (db : ControllerDb) (p : CenterProg α) (s : Center)
    (chs : List CenterChoice) : Option (α × Center × List CenterEvent) :=
  p.runIn db.answer s chs

/-- The table after a statement. -/
def after (db : ControllerDb) (sql : ControllerSql) (rows : List ControllerRow) :
    List ControllerRow :=
  if db.rc sql = sqliteOk then if sql.QuoteFree then sql.exec rows else db.exec sql rows
  else rows

/-- The statement counts as successful. -/
def Passes (db : ControllerDb) (sql : ControllerSql) : Prop :=
  db.rc sql = sqliteOk ∨ db.rc sql = sqliteError

instance (db : ControllerDb) (sql : ControllerSql) : Decidable (db.Passes sql) :=
  inferInstanceAs (Decidable (_ ∨ _))

end ControllerDb

/-- The statuses of the responses to a socket. -/
def told (nSocket : ℤ) (tr : List CenterEvent) : List Word :=
  ((tr.filterMap sent).filter fun p => p.1 = nSocket ∧ isAckPacket (getCommand p.2)).map
    fun p => getStatus p.2

/-- The row of a bound controller. -/
def boundRow (strId : Bytes) (nSocket : ℤ) : ControllerRow := ⟨strId, 1, nSocket⟩

/-! ### The two statements -/

section Run

variable {db : ControllerDb} {s s' : Center} {chs : List CenterChoice} {tr : List CenterEvent}
  {nSocket n : ℤ} {nSequence : Word} {pData : Bytes}

/-- A run with a database is a run of the ControlCenter. -/
theorem ControllerDb.run_center {α : Type} {p : CenterProg α} {a : α}
    (h : db.run p s chs = some (a, s', tr)) : ∃ chs', Center.run p s chs' = some (a, s', tr) :=
  Prog.runIn_of_pick h

/-- The end of `cmpBind`: one response. -/
theorem answer_run {nStatus : Word} {a : ℤ} (h : db.run (do
      let _ ← sendCommand nSocket bindRequest nStatus nSequence true
      pure a) s chs = some (n, s', tr)) :
    s'.rows = s.rows ∧ told nSocket tr = [nStatus] := by
  obtain ⟨chs', hrun⟩ := ControllerDb.run_center h
  refine ⟨(PlainProg.run (by exact sendCommand_then_plain _ _) hrun).1, ?_⟩
  obtain ⟨r, tr₁, rfl, u, tr₂, rfl, rfl, -⟩ := Prog.exec_of_runIn h
  have hack := isAckPacket_or bindRequest
  simp [told, sent, formatHeader, hack]

variable (nSocket) in
theorem controllerSqlExec_db {sql : ControllerSql}
    (h : db.run (controllerSqlExec sql) s chs = some (n, s', tr)) :
    (n = success ↔ db.Passes sql) ∧ s'.rows = db.after sql s.rows ∧ told nSocket tr = [] := by
  obtain ⟨ch, chs₁, tr₁, -, rfl, hret⟩ := Prog.runIn_call_bind_eq_some.mp h
  obtain ⟨-, rfl, rfl, rfl⟩ := Prog.runIn_ret_eq_some.mp hret
  have hanswer : db.answer s (.controllerExec sql) ch =
      (db.rc sql, { s with rows := db.after sql s.rows }) := by
    rw [ControllerDb.answer, ControllerDb.pick, Center.answer, ControllerDb.after]
    by_cases hquote : sql.QuoteFree
    · -- the statement meant
      by_cases hrc : db.rc sql = sqliteOk
      · simp [hquote, hrc]
      · simp [hquote, hrc]
    · by_cases hrc : db.rc sql = sqliteOk
      · simp [hquote, hrc]
      · simp [hquote, hrc]
  rw [hanswer]
  refine ⟨?_, rfl, rfl⟩
  show (if db.rc sql = sqliteOk then success else db.rc sql) = success ↔ _
  rw [ControllerDb.Passes]
  by_cases hrc : db.rc sql = sqliteOk
  · simp [hrc]
  · -- `SUCCESS` is the number of `SQLITE_ERROR`
    rw [if_neg hrc, or_iff_right hrc]
    exact Iff.rfl

theorem told_append (tr₁ tr₂ : List CenterEvent) :
    told nSocket (tr₁ ++ tr₂) = told nSocket tr₁ ++ told nSocket tr₂ := by
  simp [told]

/-- **What a bind request does.** The second statement is made when the first one has passed; the
request is granted when both have. -/
theorem cmpBind_outcome (haccept : BindAccepted pData)
    (h : db.run (cmpBind nSocket bindRequest nSequence pData) s chs = some (n, s', tr)) :
    if db.Passes (.deleteById (bindId pData)) then
      s'.rows = db.after (.insert (bindId pData) nSocket)
        (db.after (.deleteById (bindId pData)) s.rows) ∧
      told nSocket tr = if db.Passes (.insert (bindId pData) nSocket) then [statusRok]
        else [statusRinvctrlid]
    else s'.rows = db.after (.deleteById (bindId pData)) s.rows ∧
      told nSocket tr = [statusRinvctrlid] := by
  have haccept' : 0 < (parseBody bindRequest pData).1 := haccept
  have hid : (parseBody bindRequest pData).2.get "id" = bindId pData := rfl
  unfold cmpBind at h
  dsimp only at h
  rw [if_pos haccept', hid] at h
  obtain ⟨chs₁, chs₂, nRet₁, s₁, tr₁, tr₂, -, rfl, hdelete, h₁⟩ := Prog.runIn_bind_eq_some.mp h
  obtain ⟨hpass₁, hrows₁, htold₁⟩ := controllerSqlExec_db nSocket hdelete
  rw [told_append, htold₁, List.nil_append]
  split at h₁
  · next hsuccess =>
    obtain ⟨chs₃, chs₄, nRet₂, s₂, tr₃, tr₄, -, rfl, hinsert, h₂⟩ := Prog.runIn_bind_eq_some.mp h₁
    obtain ⟨hpass₂, hrows₂, htold₂⟩ := controllerSqlExec_db nSocket hinsert
    rw [if_pos (hpass₁.mp hsuccess), told_append, htold₂, List.nil_append]
    split at h₂
    · next hsuccess₂ =>
      obtain ⟨hrows₃, htold₃⟩ := answer_run h₂
      rw [if_pos (hpass₂.mp hsuccess₂), hrows₃, hrows₂, hrows₁]
      exact ⟨rfl, htold₃⟩
    · next hfail =>
      obtain ⟨hrows₃, htold₃⟩ := answer_run h₂
      rw [if_neg fun hpass => hfail (hpass₂.mpr hpass), hrows₃, hrows₂, hrows₁]
      exact ⟨rfl, htold₃⟩
  · next hfail =>
    obtain ⟨hrows₂, htold₂⟩ := answer_run h₁
    rw [if_neg fun hpass => hfail (hpass₁.mpr hpass), hrows₂, hrows₁]
    exact ⟨rfl, htold₂⟩

/-- A body without an id is refused, and no statement is made. -/
theorem cmpBind_refused (hrefuse : ¬ BindAccepted pData)
    (h : db.run (cmpBind nSocket bindRequest nSequence pData) s chs = some (n, s', tr)) :
    s'.rows = s.rows ∧ told nSocket tr = [statusRinvctrlid] := by
  have hrefuse' : ¬ 0 < (parseBody bindRequest pData).1 := hrefuse
  unfold cmpBind at h
  dsimp only at h
  rw [if_neg hrefuse'] at h
  exact answer_run h

end Run

/-! ### When it is atomic -/

/-- No row has the id. -/
def Unbound (strId : Bytes) (rows : List ControllerRow) : Prop := ∀ r ∈ rows, r.id ≠ strId

/-- The rows a granted request leaves. -/
def rebound (strId : Bytes) (nSocket : ℤ) (rows : List ControllerRow) : List ControllerRow :=
  (rows.filter fun r => r.id ≠ strId) ++ [boundRow strId nSocket]

/-- **Atomic.** The request is refused and the table is what it was, or it is granted and the new
row has taken the place of the old ones. The order of the rows does not matter. -/
structure AtomicBind (nSocket : ℤ) (strId : Bytes) (rows rows' : List ControllerRow)
    (tr : List CenterEvent) : Prop where
  refused : statusRinvctrlid ∈ told nSocket tr → rows'.Perm rows
  granted : statusRok ∈ told nSocket tr → rows'.Perm (rebound strId nSocket rows)

/-- What the result codes `rc` of the two statements must be, for the table before the request.

A `DELETE` that succeeds may be followed by an `INSERT` that fails with another code than
`SQLITE_ERROR` if there was nothing to delete. After a `DELETE` that fails with `SQLITE_ERROR` the
`INSERT` is made all the same. -/
structure CarefulBind (rc : ControllerSql → ℤ) (nSocket : ℤ) (strId : Bytes)
    (rows : List ControllerRow) : Prop where
  deleted : rc (.deleteById strId) = sqliteOk → sqlQuote ∉ strId ∧
    (rc (.insert strId nSocket) = sqliteOk ∨
      rc (.insert strId nSocket) ≠ sqliteError ∧ Unbound strId rows)
  notDeleted : rc (.deleteById strId) = sqliteError →
    (rc (.insert strId nSocket) = sqliteOk → sqlQuote ∉ strId ∧ Unbound strId rows) ∧
    (rc (.insert strId nSocket) = sqliteError →
      (rows.filter fun r => r.id = strId) = [boundRow strId nSocket])

section Atomic

variable {rc : ControllerSql → ℤ} {nSocket : ℤ} {strId : Bytes} {rows rows' : List ControllerRow}
  {tr : List CenterEvent}

theorem atomicBind_of_granted (htold : told nSocket tr = [statusRok]) :
    AtomicBind nSocket strId rows rows' tr ↔ rows'.Perm (rebound strId nSocket rows) := by
  constructor
  · intro h
    exact h.granted (by simp [htold])
  · intro h
    exact ⟨fun hmem => absurd hmem (by rw [htold]; decide), fun _ => h⟩

theorem atomicBind_of_refused (htold : told nSocket tr = [statusRinvctrlid]) :
    AtomicBind nSocket strId rows rows' tr ↔ rows'.Perm rows := by
  constructor
  · intro h
    exact h.refused (by simp [htold])
  · intro h
    exact ⟨fun _ => h, fun hmem => absurd hmem (by rw [htold]; decide)⟩

/-! Which tables are the same up to the order of their rows. -/

theorem perm_deleted_iff : (rows.filter fun r => r.id ≠ strId).Perm rows ↔ Unbound strId rows := by
  constructor
  · intro h r hr
    have hall := List.length_filter_eq_length_iff.mp h.length_eq r hr
    exact of_decide_eq_true hall
  · intro h
    rw [List.filter_eq_self.mpr fun r hr => decide_eq_true (h r hr)]

theorem perm_rebound_iff :
    rows.Perm (rebound strId nSocket rows) ↔
      (rows.filter fun r => r.id = strId) = [boundRow strId nSocket] := by
  constructor
  · intro h
    -- the rows of the id on both sides
    have hfilter := h.filter fun r => r.id = strId
    have hnew : (rebound strId nSocket rows).filter (fun r => r.id = strId) =
        [boundRow strId nSocket] := by
      simp [rebound, boundRow, List.filter_append, List.filter_filter]
    rw [hnew] at hfilter
    exact List.perm_singleton.mp hfilter
  · intro h
    have hsplit := List.filter_append_perm (fun r : ControllerRow => decide (r.id ≠ strId)) rows
    have hrest : (rows.filter fun r => !decide (r.id ≠ strId)) = [boundRow strId nSocket] := by
      rw [← h]
      simp
    rw [hrest] at hsplit
    exact hsplit.symm

theorem perm_inserted_iff :
    (rows ++ [boundRow strId nSocket]).Perm (rebound strId nSocket rows) ↔
      Unbound strId rows := by
  rw [rebound, List.perm_append_right_iff, List.perm_comm]
  exact perm_deleted_iff

theorem length_rebound_le : (rebound strId nSocket rows).length ≤ rows.length + 1 := by
  simpa [rebound] using List.length_filter_le _ rows

/-- What has to hold of the table after the two statements. -/
def ControllerDb.Settles (db : ControllerDb) (nSocket : ℤ) (strId : Bytes)
    (rows : List ControllerRow) : Prop :=
  db.Passes (.deleteById strId) →
    if db.Passes (.insert strId nSocket) then
      (db.after (.insert strId nSocket) (db.after (.deleteById strId) rows)).Perm
        (rebound strId nSocket rows)
    else (db.after (.insert strId nSocket) (db.after (.deleteById strId) rows)).Perm rows

theorem cmpBind_settles {db : ControllerDb} {s s' : Center} {chs : List CenterChoice} {n : ℤ}
    {nSequence : Word} {pData : Bytes} (haccept : BindAccepted pData)
    (h : db.run (cmpBind nSocket bindRequest nSequence pData) s chs = some (n, s', tr)) :
    AtomicBind nSocket (bindId pData) s.rows s'.rows tr ↔
      db.Settles nSocket (bindId pData) s.rows := by
  have hrun := cmpBind_outcome haccept h
  rw [ControllerDb.Settles]
  split at hrun
  · next hdelete =>
    obtain ⟨hrows, htold⟩ := hrun
    rw [imp_iff_right hdelete, hrows]
    split at htold
    · next hinsert =>
      rw [if_pos hinsert]
      exact atomicBind_of_granted htold
    · next hinsert =>
      rw [if_neg hinsert]
      exact atomicBind_of_refused htold
  · next hdelete =>
    -- the first statement has failed, and the table is as it was
    obtain ⟨hrows, htold⟩ := hrun
    have hrc : ¬ db.rc (.deleteById (bindId pData)) = sqliteOk := fun hrc => hdelete (.inl hrc)
    rw [ControllerDb.after, if_neg hrc] at hrows
    refine iff_of_true ((atomicBind_of_refused htold).mpr ?_) fun hpass => absurd hpass hdelete
    rw [hrows]

/-! A statement with a quote in its text may do anything, here add two rows. -/

/-- A database in which the other statements add rows. -/
def growing (rc : ControllerSql → ℤ) : ControllerDb :=
  ⟨rc, fun _ rows => ⟨[], 0, 0⟩ :: ⟨[], 0, 0⟩ :: rows⟩

variable (rc rows) in
theorem growing_length_le {sql : ControllerSql} (hquote : ¬ sql.QuoteFree) :
    rows.length ≤ ((growing rc).after sql rows).length := by
  rw [ControllerDb.after, if_neg hquote]
  split
  · exact Nat.le_add_right _ 2
  · exact le_rfl

variable (rows) in
theorem growing_length {sql : ControllerSql} (hquote : ¬ sql.QuoteFree)
    (hrc : (growing rc).rc sql = sqliteOk) :
    ((growing rc).after sql rows).length = rows.length + 2 := by
  rw [ControllerDb.after, if_pos hrc, if_neg hquote]
  rfl

theorem settles_growing_length (h : (growing rc).Settles nSocket strId rows)
    (hdelete : (growing rc).Passes (.deleteById strId)) :
    ((growing rc).after (.insert strId nSocket)
      ((growing rc).after (.deleteById strId) rows)).length ≤ rows.length + 1 := by
  have hperm := h hdelete
  split at hperm
  · rw [hperm.length_eq]
    exact length_rebound_le
  · rw [hperm.length_eq]
    exact Nat.le_succ _

/-- The text of a statement that has been executed is the one meant. -/
theorem quoteFree_of_settles (h : (growing rc).Settles nSocket strId rows)
    (hdelete : (growing rc).Passes (.deleteById strId))
    (hrc : rc (.deleteById strId) = sqliteOk ∨ rc (.insert strId nSocket) = sqliteOk) :
    sqlQuote ∉ strId := by
  have hle := settles_growing_length h hdelete
  intro hquote
  have hdel : ¬ (ControllerSql.deleteById strId).QuoteFree := by simpa using hquote
  have hins : ¬ (ControllerSql.insert strId nSocket).QuoteFree := by simpa using hquote
  -- one of the statements has added two rows, which is one too many
  rcases hrc with hrc | hrc
  · have hlen := growing_length rows hdel hrc
    have hle' := growing_length_le rc ((growing rc).after (.deleteById strId) rows) hins
    omega
  · have hle' := growing_length_le rc rows hdel
    have hlen := growing_length ((growing rc).after (.deleteById strId) rows) hins hrc
    omega

theorem after_failed {db : ControllerDb} {sql : ControllerSql} (hrc : db.rc sql ≠ sqliteOk) :
    db.after sql rows = rows := if_neg hrc

theorem after_executed {db : ControllerDb} {sql : ControllerSql} (hrc : db.rc sql = sqliteOk)
    (hquote : sql.QuoteFree) : db.after sql rows = sql.exec rows := by
  rw [ControllerDb.after, if_pos hrc, if_pos hquote]

theorem ne_sqliteOk {n : ℤ} (h : n = sqliteError) : n ≠ sqliteOk := by
  rw [h]
  decide

theorem CarefulBind.settles (h : CarefulBind rc nSocket strId rows)
    (exec : ControllerSql → List ControllerRow → List ControllerRow) :
    ControllerDb.Settles ⟨rc, exec⟩ nSocket strId rows := by
  intro hdelete
  rcases hdelete with hdelete | hdelete
  · -- the old rows of the id are gone
    obtain ⟨hquote, hrest⟩ := h.deleted hdelete
    rw [after_executed hdelete (by simpa using hquote)]
    rcases hrest with hinsert | ⟨hinsert, hunbound⟩
    · rw [if_pos (.inl hinsert), after_executed hinsert (by simpa using hquote)]
      exact .refl _
    · by_cases hok : rc (.insert strId nSocket) = sqliteOk
      · rw [if_pos (.inl hok), after_executed hok (by simpa using hquote)]
        exact .refl _
      · rw [if_neg fun hpass => hpass.elim hok hinsert, after_failed hok]
        exact perm_deleted_iff.mpr hunbound
  · -- they are still there
    obtain ⟨hinserted, hfailed⟩ := h.notDeleted hdelete
    have hkept : ControllerDb.after ⟨rc, exec⟩ (.deleteById strId) rows = rows :=
      after_failed (ne_sqliteOk hdelete)
    rw [hkept]
    by_cases hok : rc (.insert strId nSocket) = sqliteOk
    · obtain ⟨hquote, hunbound⟩ := hinserted hok
      rw [if_pos (.inl hok), after_executed hok (by simpa using hquote)]
      exact perm_inserted_iff.mpr hunbound
    · rw [after_failed hok]
      split
      · next hpass =>
        exact perm_rebound_iff.mpr (hfailed (hpass.resolve_left hok))
      · exact .refl _

theorem careful_of_settles (h : (growing rc).Settles nSocket strId rows) :
    CarefulBind rc nSocket strId rows := by
  constructor
  · intro hdelete
    have hquote := quoteFree_of_settles h (.inl hdelete) (.inl hdelete)
    have hdeleted : (growing rc).after (.deleteById strId) rows =
        (ControllerSql.deleteById strId).exec rows :=
      after_executed hdelete (by simpa using hquote)
    have hperm := h (.inl hdelete)
    rw [hdeleted] at hperm
    refine ⟨hquote, ?_⟩
    by_cases hok : rc (.insert strId nSocket) = sqliteOk
    · exact .inl hok
    rw [after_failed hok] at hperm
    split at hperm
    · -- the request is granted, and nothing has been inserted
      have hlen := hperm.length_eq
      simp [ControllerSql.exec, rebound] at hlen
    · next hfail => exact .inr ⟨fun herror => hfail (.inr herror), perm_deleted_iff.mp hperm⟩
  · intro hdelete
    have hkept : (growing rc).after (.deleteById strId) rows = rows :=
      after_failed (ne_sqliteOk hdelete)
    have hperm := h (.inr hdelete)
    rw [hkept] at hperm
    constructor
    · intro hok
      have hquote := quoteFree_of_settles h (.inr hdelete) (.inr hok)
      rw [if_pos (.inl hok), after_executed hok (by simpa using hquote)] at hperm
      exact ⟨hquote, perm_inserted_iff.mp hperm⟩
    · intro herror
      rw [if_pos (.inr herror), after_failed (ne_sqliteOk herror)] at hperm
      exact perm_rebound_iff.mp hperm

end Atomic

/-- **A bind request is atomic exactly so.** For every table, body and pair of result codes: each
run, whatever statements with a quote in their text do, is atomic, if and only if the body has no id
or the result codes are `CarefulBind`. -/
theorem cmpBind_atomic_iff (s : Center) (nSocket : ℤ) (nSequence : Word) (pData : Bytes)
    (rc : ControllerSql → ℤ) :
    (∀ exec chs n s' tr, ControllerDb.run ⟨rc, exec⟩ (cmpBind nSocket bindRequest nSequence pData)
        s chs = some (n, s', tr) → AtomicBind nSocket (bindId pData) s.rows s'.rows tr) ↔
      (BindAccepted pData → CarefulBind rc nSocket (bindId pData) s.rows) := by
  constructor
  · intro h haccept
    obtain ⟨chs, n, s', tr, hrun⟩ := Prog.exists_runIn (growing rc).answer {}
      (cmpBind nSocket bindRequest nSequence pData) s
    exact careful_of_settles ((cmpBind_settles haccept hrun).mp (h _ chs n s' tr hrun))
  · intro hcareful exec chs n s' tr hrun
    by_cases haccept : BindAccepted pData
    · exact (cmpBind_settles haccept hrun).mpr ((hcareful haccept).settles exec)
    · obtain ⟨hrows, htold⟩ := cmpBind_refused haccept hrun
      rw [hrows]
      exact (atomicBind_of_refused htold).mpr (.refl _)

/-- A binding that is lost: the old row is deleted, the new one cannot be inserted, and the request
is refused. -/
theorem cmpBind_half_done : ¬ ∀ (db : ControllerDb) (s : Center) (nSocket : ℤ) (nSequence : Word)
    (pData : Bytes) chs n s' tr, db.run (cmpBind nSocket bindRequest nSequence pData) s chs =
      some (n, s', tr) → AtomicBind nSocket (bindId pData) s.rows s'.rows tr := by
  intro h
  -- `SQLITE_FULL`
  let db : ControllerDb := ⟨fun | .insert _ _ => 13 | _ => sqliteOk, fun _ rows => rows⟩
  let s : Center := { Center.start with rows := [⟨ascii "a", 1, 4⟩] }
  have hatomic := h db s 5 1#32 (bindPacket (ascii "a")) [{}, {}, {}, {}] _ _ _ rfl
  have hperm := hatomic.refused (by decide)
  exact absurd hperm.length_eq (by decide)

end ControllerSystem.ControlCenter
