import ControllerSystem.ControlCenter.Center
import ControllerSystem.Lib.KeyedRows
import ControllerSystem.Lib.LTS

/-!
# The registry as a finite map

The message loop and the keep-alive thread as two programs that take turns, one call at a time,
with every SQL statement successful. The table has no key constraint: that it holds no id twice
rests on the pair of statements of `cmpBind`, with calls of the other thread in between.

`bindProtocol` is the order in which the message loop makes its statements; every handler follows
it. With it, the table represents the finite map the executed statements describe
(`Registry.Inv`), and a lookup returns the socket of the last `INSERT`, unless the keep-alive
thread has deleted that socket since: `getControllerSocketFD_refines`.
-/

open Words Calls KeyedRows

namespace ControllerSystem

/-! ### Statements on a finite map -/

namespace ControllerSql

/-- What a statement does to a finite map from ids to sockets. -/
def apply (m : Bytes → Option ℤ) : ControllerSql → Bytes → Option ℤ
  | deleteById strId => Function.update m strId none
  | insert strId nSocket => Function.update m strId (some nSocket)
  | deleteBySocketFD nSocketFD => fun strId =>
    if m strId = some nSocketFD then none else m strId
  | selectSocketFDById _ => m
  | selectBound => m

theorem apply_deleteBySocketFD (m : Bytes → Option ℤ) (nSocketFD : ℤ) (strId : Bytes) :
    (deleteBySocketFD nSocketFD).apply m strId =
      if m strId = some nSocketFD then none else m strId := rfl

/-- The `DELETE` of a bind request. -/
def isDeleteById : ControllerSql → Bool
  | deleteById _ => true
  | _ => false

end ControllerSql

/-- The map after some statements, the oldest first. -/
def registryAfter (history : List ControllerSql) : Bytes → Option ℤ :=
  history.foldl ControllerSql.apply fun _ => none

theorem registryAfter_append (history : List ControllerSql) (sql : ControllerSql) :
    registryAfter (history ++ [sql]) = sql.apply (registryAfter history) := by
  simp [registryAfter]

/-- The socket the last `INSERT` of an id gave it, unless a `DELETE` of that socket came later;
what a bind request deletes is not looked at. -/
def lastInsert (history : List ControllerSql) (strId : Bytes) : Option ℤ :=
  registryAfter (history.filter fun sql => !sql.isDeleteById) strId

theorem lastInsert_append (history : List ControllerSql) {sql : ControllerSql}
    (hsql : sql.isDeleteById = false) (strId : Bytes) :
    lastInsert (history ++ [sql]) strId = sql.apply (lastInsert history) strId := by
  have hfilter : (history ++ [sql]).filter (fun sql => !sql.isDeleteById) =
      history.filter (fun sql => !sql.isDeleteById) ++ [sql] := by
    simp [List.filter_append, hsql]
  rw [lastInsert, hfilter, registryAfter_append]
  rfl

@[simp] theorem lastInsert_append_deleteById (history : List ControllerSql) (strId' strId : Bytes) :
    lastInsert (history ++ [.deleteById strId']) strId = lastInsert history strId := by
  simp [lastInsert, List.filter_append, ControllerSql.isDeleteById]

/-- Without an `INSERT` there is nothing. -/
theorem lastInsert_eq_none {history : List ControllerSql} {strId : Bytes}
    (hnone : ∀ nSocket, .insert strId nSocket ∉ history) : lastInsert history strId = none := by
  induction history using List.reverseRecOn with
  | nil => rfl
  | append_singleton history sql ih =>
    have hrest := ih fun nSocket hmem => hnone nSocket (List.mem_append_left _ hmem)
    cases sql with
    | deleteById strId' => rwa [lastInsert_append_deleteById]
    | insert strId' nSocket =>
      -- the `INSERT` is one for another id
      have hne : strId ≠ strId' := by
        rintro rfl
        exact hnone nSocket (by simp)
      rw [lastInsert_append _ rfl, ControllerSql.apply, Function.update_of_ne hne, hrest]
    | deleteBySocketFD nSocketFD =>
      rw [lastInsert_append _ rfl, ControllerSql.apply_deleteBySocketFD, hrest]
      rfl
    | selectSocketFDById strId' => rwa [lastInsert_append _ rfl]
    | selectBound => rwa [lastInsert_append _ rfl]

/-- Behind the last `INSERT`, only the `DELETE` of its socket matters. -/
theorem lastInsert_eq {pre post : List ControllerSql} {strId : Bytes} {nSocket : ℤ}
    (hlast : ∀ nSocket', .insert strId nSocket' ∉ post) :
    lastInsert (pre ++ .insert strId nSocket :: post) strId =
      if .deleteBySocketFD nSocket ∈ post then none else some nSocket := by
  -- the induction takes the statements behind the `INSERT` from the oldest on
  induction post using List.reverseRecOn with
  | nil =>
    rw [lastInsert_append _ rfl, ControllerSql.apply, Function.update_self]
    rfl
  | append_singleton post sql ih =>
    have hrest := ih fun nSocket' hmem => hlast nSocket' (List.mem_append_left _ hmem)
    rw [← List.cons_append, ← List.append_assoc]
    cases sql with
    | deleteById strId' =>
      rw [lastInsert_append_deleteById, hrest]
      simp
    | insert strId' nSocket' =>
      have hne : strId ≠ strId' := by
        rintro rfl
        exact hlast nSocket' (by simp)
      rw [lastInsert_append _ rfl, ControllerSql.apply, Function.update_of_ne hne, hrest]
      simp
    | deleteBySocketFD nSocketFD =>
      rw [lastInsert_append _ rfl, ControllerSql.apply_deleteBySocketFD, hrest]
      -- the entry goes when the `DELETE` is for its socket
      rcases eq_or_ne nSocket nSocketFD with rfl | hne
      · simp
      · simp [hne]
    | selectSocketFDById strId' =>
      rw [lastInsert_append _ rfl, ControllerSql.apply, hrest]
      simp
    | selectBound =>
      rw [lastInsert_append _ rfl, ControllerSql.apply, hrest]
      simp

namespace ControlCenter

/-! ### Two threads -/

/-- The shared state, what each thread has left to do, and the statements executed so far. -/
structure Registry where
  center : Center
  /-- What is left of the packet the message loop works on. -/
  loop : CenterProg Unit
  /-- What is left of the round of the keep-alive thread. -/
  tick : CenterProg Unit
  history : List ControllerSql

inductive RegistryLabel
  /-- The message loop takes a packet from its queue. -/
  | deliver (nClientFD : ℤ) (pData : Bytes)
  /-- The message loop takes a disconnect notice; only the debug output tells of it. -/
  | disconnect (nClientFD : ℤ)
  /-- The keep-alive thread wakes up. -/
  | wake
  /-- The next call of the message loop. -/
  | loop (ch : CenterChoice)
  /-- The next call of the keep-alive thread. -/
  | tick (ch : CenterChoice)

/-- The statement a call has executed on the table. -/
def executed : CenterEvent → List ControllerSql
  | ⟨.controllerExec sql, rc⟩ => if rc = sqliteOk then [sql] else []
  | _ => []

def registryStep (s : Registry) : RegistryLabel → Option Registry
  | .deliver nClientFD pData =>
    match s.loop with
    | .ret _ => some { s with loop := onCMP nClientFD pData }
    -- the next packet waits until the loop is through with this one
    | .call _ _ => none
  | .disconnect _ =>
    match s.loop with
    | .ret _ => some s
    | .call _ _ => none
  | .wake =>
    match s.tick with
    | .ret _ => some { s with tick := enquireLinkRound }
    | .call _ _ => none
  | .loop ch => (s.loop.stepIn Center.answer s.center ch).map fun (loop, center, e) =>
    { s with loop, center, history := s.history ++ executed e }
  | .tick ch => (s.tick.stepIn Center.answer s.center ch).map fun (tick, center, e) =>
    { s with tick, center, history := s.history ++ executed e }

/-- The ControlCenter with its threads interleaved. -/
def registrySystem : LTS.System Registry RegistryLabel where
  init := ⟨.start, .ret (), .ret (), []⟩
  step := registryStep

theorem registryStep_loop {s s' : Registry} {ch : CenterChoice}
    (h : registryStep s (.loop ch) = some s') : ∃ loop center e,
      s.loop.stepIn Center.answer s.center ch = some (loop, center, e) ∧
      s' = { s with loop, center, history := s.history ++ executed e } := by
  obtain ⟨⟨loop, center, e⟩, hcall, rfl⟩ := Option.map_eq_some_iff.mp h
  exact ⟨loop, center, e, hcall, rfl⟩

theorem registryStep_tick {s s' : Registry} {ch : CenterChoice}
    (h : registryStep s (.tick ch) = some s') : ∃ tick center e,
      s.tick.stepIn Center.answer s.center ch = some (tick, center, e) ∧
      s' = { s with tick, center, history := s.history ++ executed e } := by
  obtain ⟨⟨tick, center, e⟩, hcall, rfl⟩ := Option.map_eq_some_iff.mp h
  exact ⟨tick, center, e, hcall, rfl⟩

/-- Statements succeed, and no bind request has a quote in its id. -/
def RegistryLabel.Ok : RegistryLabel → Prop
  | deliver _ pData => getCommand pData = bindRequest → sqlQuote ∉ bindId pData
  | disconnect _ => True
  | wake => True
  | loop ch => ch.rc = sqliteOk
  | tick ch => ch.rc = sqliteOk

/-- The message loop is where it can look up a socket: between two packets, or about to make a
query. -/
def Registry.AtLookup (s : Registry) : Prop :=
  match s.loop with
  | .ret _ => True
  | .call (.controllerQuery _) _ => True
  | .call _ _ => False

/-! ### The order of the statements -/

/-- The statements of the message loop. The state is the id that has been deleted and is still to
be inserted. -/
def bindProtocol : Option Bytes → CenterCall → Option (Option Bytes)
  | none, .controllerExec (.deleteById strId) =>
    if sqlQuote ∈ strId then none else some (some strId)
  -- an id may be inserted only right behind its own `DELETE`
  | some absent, .controllerExec (.insert strId _) =>
    if strId = absent ∧ sqlQuote ∉ strId then some none else none
  | none, .controllerQuery _ => some none
  | some _, .controllerQuery _ => none
  | _, .controllerExec _ => none
  | absent, _ => some absent

/-- A call and its result while every statement succeeds. -/
def Succeeds : CenterEvent → Prop
  | ⟨.controllerExec _, rc⟩ => rc = sqliteOk
  | _ => True

/-- A program of the message loop, from where an id may be absent. -/
abbrev FollowsBind {α : Type} (absent : Option Bytes) (p : CenterProg α) : Prop :=
  p.Follows (fun absent e => bindProtocol absent e.1) Succeeds (· = none) absent

/-- The calls that make no statement. -/
def CenterCall.NoStatement : CenterCall → Prop
  | controllerExec _ => False
  | _ => True

/-- The calls of the keep-alive thread. -/
def CenterCall.OfTick : CenterCall → Prop
  | controllerExec (.deleteBySocketFD _) => True
  | controllerExec _ => False
  | _ => True

theorem bindProtocol_noStatement {c : CenterCall} (hc : c.NoStatement) :
    bindProtocol none c = some none := by
  cases c with
  | controllerExec sql => exact hc.elim
  | _ => rfl

/-- What a call of the message loop can be. -/
theorem bindProtocol_eq_some {absent absent' : Option Bytes} {c : CenterCall}
    (h : bindProtocol absent c = some absent') :
    (∃ strId, c = .controllerExec (.deleteById strId) ∧ sqlQuote ∉ strId ∧ absent = none ∧
      absent' = some strId) ∨
    (∃ strId nSocket, c = .controllerExec (.insert strId nSocket) ∧ sqlQuote ∉ strId ∧
      absent = some strId ∧ absent' = none) ∨
    (c.NoStatement ∧ absent' = absent) := by
  cases c with
  | controllerExec sql =>
    -- of the pairs of a state and a statement, `bindProtocol` allows two
    rcases absent with _ | absent <;> cases sql <;>
      simp only [bindProtocol, reduceCtorEq] at h
    · next strId =>
      split at h
      · cases h
      · next hquote => exact .inl ⟨strId, rfl, hquote, rfl, (Option.some.inj h).symm⟩
    · next strId nSocket =>
      split at h
      · next hok =>
        exact .inr (.inl ⟨strId, nSocket, rfl, hok.2, by rw [hok.1], (Option.some.inj h).symm⟩)
      · cases h
  | controllerQuery sql =>
    rcases absent with _ | absent <;> simp only [bindProtocol, reduceCtorEq] at h
    exact .inr (.inr ⟨trivial, (Option.some.inj h).symm⟩)
  | _ =>
    rcases absent with _ | absent <;> exact .inr (.inr ⟨trivial, (Option.some.inj h).symm⟩)

/-- Plain programs may stand between two packets. -/
theorem PlainProg.followsBind {α : Type} {p : CenterProg α} (hp : PlainProg p) :
    FollowsBind none p := by
  refine Prog.Forall.follows (fun c _ hc => bindProtocol_noStatement ?_) rfl hp
  cases c with
  | controllerExec sql => exact hc
  | _ => trivial

theorem ackPacket_followsBind (nClientFD : ℤ) (nCommand : Word) :
    FollowsBind none (ackPacket nClientFD nCommand) := by
  refine Prog.Forall.follows (P := CenterCall.NoStatement)
    (fun c _ hc => bindProtocol_noStatement hc) rfl ?_
  unfold ackPacket
  split
  · refine ⟨trivial, fun v => ?_⟩
    simp only [Prog.bind_eq, Prog.ret_bind]
    split
    · exact ⟨trivial, fun _ => ⟨trivial, fun _ => ⟨trivial, fun _ => trivial⟩⟩⟩
    · trivial
  · trivial

theorem cmpBind_followsBind {nSocket : ℤ} {nSequence : Word} {pData : Bytes}
    (hid : sqlQuote ∉ bindId pData) :
    FollowsBind none (cmpBind nSocket bindRequest nSequence pData) := by
  have hfail : FollowsBind none (do
      let _ ← sendCommand nSocket bindRequest statusRinvctrlid nSequence true
      pure fail) := (sendCommand_then_plain _ _).followsBind
  unfold cmpBind
  dsimp only
  split
  · -- both statements succeed, so the id is inserted as soon as it has been deleted
    rintro rc rfl
    refine ⟨some (bindId pData), if_neg hid, ?_⟩
    rintro rc rfl
    exact ⟨none, if_pos ⟨rfl, hid⟩, (sendCommand_then_plain _ _).followsBind⟩
  · exact hfail

/-- Every packet follows the protocol. -/
theorem onCMP_followsBind {nClientFD : ℤ} {pData : Bytes}
    (hid : getCommand pData = bindRequest → sqlQuote ∉ bindId pData) :
    FollowsBind none (onCMP nClientFD pData) := by
  refine fun _ _ => ⟨none, rfl, ?_⟩
  simp only [Prog.bind_eq, Prog.ret_bind]
  split
  · exact ackPacket_followsBind _ _
  split
  · exact PlainProg.followsBind ((sendCommand_plain _ _).bind fun _ => trivial)
  by_cases hbind : getCommand pData = bindRequest
  · rw [hbind, cmpRequest_bindRequest]
    refine (cmpBind_followsBind (hid hbind)).bind ?_
    rintro n absent rfl
    rfl
  · exact PlainProg.followsBind ((cmpRequest_plain _ hbind).bind fun _ => trivial)

theorem dropSockets_ofTick (passes it : ℕ) :
    (dropSockets passes it).Forall CenterCall.OfTick := by
  induction passes generalizing it with
  | zero => trivial
  | succ passes ih =>
    refine ⟨trivial, fun more => ?_⟩
    simp only [Prog.bind_eq, Prog.ret_bind]
    split
    · exact ⟨trivial, fun _ => ⟨trivial, fun _ => ⟨trivial, fun _ => ⟨trivial, fun _ =>
        ⟨trivial, fun _ => ⟨trivial, fun _ => ih _⟩⟩⟩⟩⟩⟩
    · trivial

theorem enquireSockets_ofTick (l : List ℤ) : (enquireSockets l).Forall CenterCall.OfTick := by
  induction l with
  | nil => trivial
  | cons nSocketFD rest ih =>
    exact ⟨trivial, fun _ => ⟨trivial, fun _ => ⟨trivial, fun _ => ⟨trivial, fun _ =>
      ⟨trivial, fun _ => ⟨trivial, fun _ => ih⟩⟩⟩⟩⟩⟩

theorem enquireLinkRound_ofTick : enquireLinkRound.Forall CenterCall.OfTick := by
  have hcheck : checkEnquireLink.Forall CenterCall.OfTick := by
    refine ⟨trivial, fun v => ?_⟩
    simp only [Prog.bind_eq, Prog.ret_bind]
    split
    · exact dropSockets_ofTick _ _
    · trivial
  refine hcheck.bind fun _ => ⟨trivial, fun _ => ⟨trivial, fun l => ?_⟩⟩
  simp only [Prog.bind_eq, Prog.ret_bind]
  split
  · exact ⟨trivial, fun _ => enquireSockets_ofTick l⟩
  · trivial

/-! ### The invariant -/

theorem represents_exec {rows : List ControllerRow} {m : Bytes → Option ℤ} (sql : ControllerSql)
    (hinsert : ∀ strId nSocket, sql = .insert strId nSocket → m strId = none)
    (h : Represents ControllerRow.id ControllerRow.socketFd rows m) :
    Represents ControllerRow.id ControllerRow.socketFd (sql.exec rows) (sql.apply m) := by
  cases sql with
  | deleteById strId => exact h.filter_key strId
  -- the only statement that asks something of the map
  | insert strId nSocket => exact h.append (r := ⟨strId, 1, nSocket⟩) (hinsert _ _ rfl)
  | deleteBySocketFD nSocketFD => exact h.filter_val nSocketFD
  | selectSocketFDById strId => exact h
  | selectBound => exact h

theorem status_exec {rows : List ControllerRow} (sql : ControllerSql)
    (h : ∀ r ∈ rows, r.status = 1) : ∀ r ∈ sql.exec rows, r.status = 1 := by
  intro r hr
  cases sql with
  | deleteById strId => exact h r (List.mem_of_mem_filter hr)
  | insert strId nSocket =>
    rcases List.mem_append.mp hr with hr | hr
    · exact h r hr
    · rw [List.mem_singleton.mp hr]
  | deleteBySocketFD nSocketFD => exact h r (List.mem_of_mem_filter hr)
  | selectSocketFDById strId => exact h r hr
  | selectBound => exact h r hr

/-- A statement, when statements succeed. -/
theorem answer_executed (s : Center) {ch : CenterChoice} {sql : ControllerSql}
    (hch : ch.rc = sqliteOk) (hsql : sql.QuoteFree) :
    s.answer (.controllerExec sql) ch = (sqliteOk, { s with rows := sql.exec s.rows }) := by
  simp [Center.answer, hsql, hch]

/-- The other calls leave the table alone. -/
theorem answer_noStatement (s : Center) {c : CenterCall} (ch : CenterChoice)
    (hc : c.NoStatement) : (s.answer c ch).2.rows = s.rows ∧
      executed ⟨c, (s.answer c ch).1⟩ = [] := by
  cases c with
  | controllerExec sql => exact hc.elim
  | _ => exact ⟨rfl, rfl⟩

theorem answer_succeeds (s : Center) (c : CenterCall) {ch : CenterChoice}
    (hch : ch.rc = sqliteOk) : Succeeds ⟨c, (s.answer c ch).1⟩ := by
  cases c with
  | controllerExec sql =>
    simp only [Succeeds, Center.answer, hch, if_true]
    split <;> rfl
  | _ => trivial

/-- **The invariant.** The table represents the map of the statements executed. The message loop
may have deleted an id it is still to insert; of every other id, the map has what the last
`INSERT` gave it. -/
structure Registry.Inv (s : Registry) : Prop where
  represents :
    Represents ControllerRow.id ControllerRow.socketFd s.center.rows (registryAfter s.history)
  bound : ∀ r ∈ s.center.rows, r.status = 1
  tick : s.tick.Forall CenterCall.OfTick
  loop : ∃ absent, FollowsBind absent s.loop ∧
    (∀ strId, absent = some strId → registryAfter s.history strId = none) ∧
    ∀ strId, absent ≠ some strId → registryAfter s.history strId = lastInsert s.history strId

theorem registrySystem_init : registrySystem.init.Inv :=
  ⟨.nil, fun _ hr => absurd hr List.not_mem_nil, trivial, none, rfl, by simp, fun _ _ => rfl⟩

/-- A call of the message loop. -/
theorem Registry.Inv.loop_step {s s' : Registry} {ch : CenterChoice} (h : s.Inv)
    (hch : ch.rc = sqliteOk) (hstep : registryStep s (.loop ch) = some s') : s'.Inv := by
  obtain ⟨loop, center, e, hcall, rfl⟩ := registryStep_loop hstep
  obtain ⟨absent, hfollows, hnone, hlast⟩ := h.loop
  obtain ⟨c, k, hloop, rfl, rfl, rfl⟩ := Prog.stepIn_eq_some.mp hcall
  obtain ⟨absent', hprotocol, hfollows'⟩ :=
    hfollows.step hcall (answer_succeeds s.center c hch)
  rcases bindProtocol_eq_some hprotocol with
    ⟨strId, rfl, hquote, rfl, rfl⟩ | ⟨strId, nSocket, rfl, hquote, rfl, rfl⟩ | ⟨hc, rfl⟩
  · -- the `DELETE` of a bind request
    have hans := answer_executed s.center hch
      ((ControllerSql.quoteFree_deleteById strId).mpr hquote)
    rw [hans] at hfollows' ⊢
    refine ⟨?_, status_exec (.deleteById strId) h.bound, h.tick, some strId, hfollows', ?_, ?_⟩
    · rw [executed, if_pos rfl, registryAfter_append]
      exact represents_exec (.deleteById strId) (by simp) h.represents
    -- the id is missing now, and every other one is as it was
    · rintro strId' heq
      obtain rfl := Option.some.inj heq
      rw [executed, if_pos rfl, registryAfter_append, ControllerSql.apply, Function.update_self]
    · intro strId' hne
      have hne' : strId' ≠ strId := fun heq => hne (congrArg some heq.symm)
      rw [executed, if_pos rfl, registryAfter_append, ControllerSql.apply,
        Function.update_of_ne hne', lastInsert_append_deleteById]
      exact hlast strId' (by simp)
  · -- its `INSERT`
    have hans := answer_executed s.center hch
      ((ControllerSql.quoteFree_insert strId nSocket).mpr hquote)
    rw [hans] at hfollows' ⊢
    refine ⟨?_, status_exec (.insert strId nSocket) h.bound, h.tick, none, hfollows', by simp,
      ?_⟩
    · rw [executed, if_pos rfl, registryAfter_append]
      -- the protocol says that the id was deleted before, and nothing has brought it back
      refine represents_exec (.insert strId nSocket) ?_ h.represents
      intro strId' nSocket' heq
      obtain ⟨rfl, -⟩ := ControllerSql.insert.inj heq
      exact hnone strId rfl
    · intro strId' _
      rw [executed, if_pos rfl, registryAfter_append, lastInsert_append _ rfl,
        ControllerSql.apply, ControllerSql.apply]
      -- the id is where its last `INSERT` put it again
      rcases eq_or_ne strId' strId with rfl | hne
      · rw [Function.update_self, Function.update_self]
      · rw [Function.update_of_ne hne, Function.update_of_ne hne]
        exact hlast strId' fun heq => hne (Option.some.inj heq).symm
  · -- no statement
    obtain ⟨hrows, hexecuted⟩ := answer_noStatement s.center ch hc
    refine ⟨?_, ?_, h.tick, absent', hfollows', ?_, ?_⟩
    · rw [hexecuted, List.append_nil, hrows]
      exact h.represents
    · rw [hrows]
      exact h.bound
    · rw [hexecuted, List.append_nil]
      exact hnone
    · rw [hexecuted, List.append_nil]
      exact hlast

/-- A call of the keep-alive thread. -/
theorem Registry.Inv.tick_step {s s' : Registry} {ch : CenterChoice} (h : s.Inv)
    (hch : ch.rc = sqliteOk) (hstep : registryStep s (.tick ch) = some s') : s'.Inv := by
  obtain ⟨tick, center, e, hcall, rfl⟩ := registryStep_tick hstep
  obtain ⟨absent, hfollows, hnone, hlast⟩ := h.loop
  obtain ⟨hofTick, htick⟩ := h.tick.step hcall
  obtain ⟨c, k, hprog, rfl, rfl, rfl⟩ := Prog.stepIn_eq_some.mp hcall
  by_cases hc : c.NoStatement
  · obtain ⟨hrows, hexecuted⟩ := answer_noStatement s.center ch hc
    refine ⟨?_, ?_, htick, absent, hfollows, ?_, ?_⟩
    · rw [hexecuted, List.append_nil, hrows]
      exact h.represents
    · rw [hrows]
      exact h.bound
    · rw [hexecuted, List.append_nil]
      exact hnone
    · rw [hexecuted, List.append_nil]
      exact hlast
  · -- the `DELETE` of a socket
    obtain ⟨nSocketFD, rfl⟩ : ∃ nSocketFD, c = .controllerExec (.deleteBySocketFD nSocketFD) := by
      rcases c with ⟨_ | _ | nSocketFD | _ | _⟩ | _
      all_goals first | exact ⟨_, rfl⟩ | exact hofTick.elim | exact (hc trivial).elim
    have hans := answer_executed s.center hch (ControllerSql.quoteFree_deleteBySocketFD nSocketFD)
    rw [hans] at htick ⊢
    refine ⟨?_, status_exec (.deleteBySocketFD nSocketFD) h.bound, htick, absent, hfollows, ?_, ?_⟩
    · rw [executed, if_pos rfl, registryAfter_append]
      exact represents_exec (.deleteBySocketFD nSocketFD) (by simp) h.represents
    · -- an id that is missing stays missing
      intro strId heq
      rw [executed, if_pos rfl, registryAfter_append, ControllerSql.apply_deleteBySocketFD,
        hnone strId heq]
      rfl
    · -- the `DELETE` of a socket does the same to both maps
      intro strId hne
      rw [executed, if_pos rfl, registryAfter_append, lastInsert_append _ rfl,
        ControllerSql.apply_deleteBySocketFD, ControllerSql.apply_deleteBySocketFD,
        hlast strId hne]

theorem Registry.Inv.step {s s' : Registry} {l : RegistryLabel} (h : s.Inv) (hok : l.Ok)
    (hstep : registrySystem.step s l = some s') : s'.Inv := by
  obtain ⟨absent, hfollows, hnone, hlast⟩ := h.loop
  cases l with
  | deliver nClientFD pData =>
    simp only [registrySystem, registryStep] at hstep
    split at hstep
    · next hloop =>
      obtain rfl := Option.some.inj hstep
      rw [hloop] at hfollows
      -- the packet before it is finished, so no id is missing
      obtain rfl : absent = none := hfollows
      exact ⟨h.represents, h.bound, h.tick, none, onCMP_followsBind hok, hnone, hlast⟩
    · cases hstep
  | disconnect nClientFD =>
    simp only [registrySystem, registryStep] at hstep
    split at hstep
    · rwa [← Option.some.inj hstep]
    · cases hstep
  | wake =>
    simp only [registrySystem, registryStep] at hstep
    split at hstep
    · obtain rfl := Option.some.inj hstep
      exact ⟨h.represents, h.bound, enquireLinkRound_ofTick, h.loop⟩
    · cases hstep
  | loop ch => exact h.loop_step hok hstep
  | tick ch => exact h.tick_step hok hstep

theorem registryInv_of_run {s : Registry} {ls : List RegistryLabel}
    (h : registrySystem.RunWhere (fun _ l => l.Ok) registrySystem.init ls s) : s.Inv :=
  h.invariant (fun _ _ _ hinv hok hstep => hinv.step hok hstep) registrySystem_init

/-! ### Looking up -/

/-- Where a socket can be looked up, no id is missing between a `DELETE` and its `INSERT`. -/
theorem Registry.Inv.lookup {s : Registry} (h : s.Inv) (hat : s.AtLookup) (strId : Bytes) :
    registryAfter s.history strId = lastInsert s.history strId := by
  obtain ⟨absent, hfollows, -, hlast⟩ := h.loop
  refine hlast strId ?_
  unfold AtLookup at hat
  split at hat
  · next hloop =>
    rw [hloop] at hfollows
    obtain rfl : absent = none := hfollows
    simp
  · -- a query follows the protocol only while no id is missing
    next hloop =>
    rw [hloop] at hfollows
    obtain ⟨absent', hprotocol, -⟩ := hfollows [] trivial
    rcases absent with _ | absent
    · simp
    · cases hprotocol
  · exact hat.elim

/-- A lookup finds a socket of the query, if it finds one, and the first one if it succeeds. -/
theorem getControllerSocketFD_run {s s' : Center} {strId : Bytes} {chs : List CenterChoice}
    {n : ℤ} {tr : List CenterEvent} (hid : sqlQuote ∉ strId)
    (h : Center.run (getControllerSocketFD strId) s chs = some (n, s', tr)) :
    (n = fail ∨ n ∈ (ControllerSql.selectSocketFDById strId).query s.rows) ∧
      (Succeed chs →
        n = ((ControllerSql.selectSocketFDById strId).query s.rows).headD fail) := by
  obtain ⟨ch, chs', tr', rfl, -, hret⟩ := Prog.runIn_call_bind_eq_some.mp h
  have hquote := (ControllerSql.quoteFree_selectSocketFDById strId).mpr hid
  have hfront := Center.answer_controllerQuery_prefix s ch hquote
  have hquery := Center.answer_controllerQuery_ok s ch hquote
  generalize (s.answer (.controllerQuery (.selectSocketFDById strId)) ch).1 = listValue at *
  obtain ⟨-, rfl, -, -⟩ := Prog.runIn_ret_eq_some.mp hret
  refine ⟨?_, fun hsucceed => by rw [hquery (hsucceed ch List.mem_cons_self)]⟩
  cases listValue with
  | nil => exact .inl rfl
  | cons nSocketFD rest => exact .inr (hfront.subset List.mem_cons_self)

theorem Registry.Inv.query {s : Registry} (h : s.Inv) (strId : Bytes) :
    (ControllerSql.selectSocketFDById strId).query s.center.rows =
      (registryAfter s.history strId).toList := by
  rw [← h.represents.lookup strId, ControllerSql.query]
  congr 1
  -- every row has status 1, so the query asks for the id alone
  refine List.filter_congr fun r hr => ?_
  simp [h.bound r hr]

/-- **The registry is a finite map.** In every run in which statements succeed and no bind id has
a quote, whatever the order of the two threads' statements: the table holds no id twice, it
represents the map of the statements executed, and a lookup returns the socket of the last
`INSERT` for the id, or fails if the keep-alive thread has deleted that socket since, or if there
was none. -/
theorem getControllerSocketFD_refines (s : Registry) (ls : List RegistryLabel)
    (h : registrySystem.RunWhere (fun _ l => l.Ok) registrySystem.init ls s) :
    (s.center.rows.map ControllerRow.id).Nodup ∧
    Represents ControllerRow.id ControllerRow.socketFd s.center.rows (registryAfter s.history) ∧
    ∀ strId, sqlQuote ∉ strId → s.AtLookup → ∀ chs n s' tr, Succeed chs →
      Center.run (getControllerSocketFD strId) s.center chs = some (n, s', tr) →
      (∀ pre nSocket post, s.history = pre ++ .insert strId nSocket :: post →
        (∀ nSocket', .insert strId nSocket' ∉ post) →
        n = if .deleteBySocketFD nSocket ∈ post then fail else nSocket) ∧
      ((∀ nSocket, .insert strId nSocket ∉ s.history) → n = fail) := by
  have hinv := registryInv_of_run h
  refine ⟨hinv.represents.nodup, hinv.represents, fun strId hid hat chs n s' tr hsucceed hrun => ?_⟩
  have hn : n = (lastInsert s.history strId).getD fail := by
    rw [(getControllerSocketFD_run hid hrun).2 hsucceed, hinv.query, hinv.lookup hat]
    cases lastInsert s.history strId <;> rfl
  constructor
  · intro pre nSocket post hhistory hlast
    rw [hn, hhistory, lastInsert_eq hlast]
    split <;> rfl
  · intro hnone
    rw [hn, lastInsert_eq_none hnone]
    rfl

/-- Socket 5 binds while the keep-alive thread starts a round, and is found. -/
theorem getControllerSocketFD_refines_bound : ∃ s n s' tr,
    registrySystem.Run registrySystem.init ([.deliver 5 (bindPacket (ascii "a")), .loop {},
      .loop {}, .wake, .tick {}, .loop {}, .tick {}, .loop {}, .loop {}]) s ∧
    Center.run (getControllerSocketFD (ascii "a")) s.center [{}] = some (n, s', tr) ∧ n = 5 :=
  have hrun : registrySystem.Run registrySystem.init ([.deliver 5 (bindPacket (ascii "a")),
      .loop {}, .loop {}, .wake, .tick {}, .loop {}, .tick {}, .loop {}, .loop {}]) _ :=
    LTS.System.run_eq_some_iff.mp rfl
  have hok : ∀ l ∈ [.deliver 5 (bindPacket (ascii "a")), .loop {}, .loop {}, .wake, .tick {},
      .loop {}, .tick {}, .loop {}, .loop {}], RegistryLabel.Ok l := by
    simp [RegistryLabel.Ok]
    decide
  have hlookup := (getControllerSocketFD_refines _ _ (hrun.runWhere fun l hl _ => hok l hl)).2.2
    (ascii "a") (by decide) trivial [{}] _ _ _ (by simp [Succeed]) rfl
  ⟨_, _, _, _, hrun, rfl, hlookup.1 [.deleteById (ascii "a")] 5 [] rfl (by simp)⟩

/-- Sockets 5 and 6 bind one id, one after the other; socket 6 is asked, does not answer, and is
dropped. The lookup fails, although no `DELETE` of socket 5 has come behind its `INSERT`. -/
theorem getControllerSocketFD_forgets : ∃ s n s' tr,
    registrySystem.Run registrySystem.init
      (.deliver 5 (bindPacket (ascii "a")) :: .replicate 5 (.loop {}) ++
        .deliver 6 (bindPacket (ascii "a")) :: .replicate 5 (.loop {}) ++
        .wake :: .replicate 10 (.tick {}) ++ .wake :: .replicate 11 (.tick {})) s ∧ s.AtLookup ∧
    Center.run (getControllerSocketFD (ascii "a")) s.center [{}] = some (n, s', tr) ∧
    n = fail ∧ ∃ pre post, s.history = pre ++ .insert (ascii "a") 5 :: post ∧
      .deleteBySocketFD 5 ∉ post :=
  ⟨_, _, _, _, LTS.System.run_eq_some_iff.mp rfl, trivial, rfl, rfl, [.deleteById (ascii "a")],
    [.deleteById (ascii "a"), .insert (ascii "a") 6, .deleteBySocketFD 6], rfl, by decide⟩

end ControlCenter

end ControllerSystem
