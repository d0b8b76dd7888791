import ControllerSystem.Lib.LTS
import ControllerSystem.Socket.InetSocket

/-!
# Connecting to the center again

The keep-alive thread of the Controller connects to the center whenever `cmpClient` has no socket
(`reconnectCenter`), and `CSocketClient::start` creates two threads each time it succeeds. The one
that receives, `runSMSSocketReceive`, ends when the center disconnects; the message loop,
`runMessageReceive`, goes on until a signal interrupts it, and there is none here.

The system runs the connecting thread call by call (`call`), between the steps of all threads that
have been created: a receiver reads the descriptor it is to serve (`begin`), finds the connection
gone (`disconnect`), takes it out of the object if it is still there (`clear`), and closes it
(`close`).

* `Owns` — who may change the descriptor of the object: the connecting thread while there is none,
  and the one receiver that serves it otherwise;
* `successes` — how often a connect has succeeded, and the creation of a thread behind it: as often
  `start` has made a message loop;
* `Reconnects.Sound` — the invariant, and `sound_run` for runs;
* `oneEach_iff` — when there is one thread of each kind.
-/

open Words Calls

namespace ControllerSystem.Controller.Reconnect

open InetSocket

/-! ### The state -/

/-- Where a thread of `threadSocketRecvHandler` stands. -/
inductive Stage
  | absent
  /-- Created; the descriptor is still to be read. -/
  | created
  /-- In the loop of `runSMSSocketReceive`. -/
  | reading (nSocketFD : ℤ)
  /-- In `socketClose`, behind the comparison with the descriptor of the object. -/
  | clearing (nSocketFD : ℤ)
  /-- Still to close its descriptor. -/
  | closing (nSocketFD : ℤ)
  | ended
  deriving DecidableEq

structure Reconnects where
  env : SocketEnv
  /-- What is left to do of connecting. -/
  tick : SocketProg (Option ℤ)
  /-- The calls made for it so far. -/
  calls : List SocketEvent
  /-- The message loops. -/
  loops : ℕ
  receivers : ℕ
  stage : ℕ → Stage
  /-- The descriptor of the object when `start` created the receiver. -/
  born : ℕ → ℤ

/-- The call has created a thread. -/
def Creates (entry : ThreadEntry) : SocketEvent → Bool
  | ⟨.createThread entry', thd⟩ => entry = entry' && thd != 0
  | _ => false

/-! ### The steps -/

/-- The end of a round of `Controller::runEnquireLinkRequest`. -/
def reconnectCenter (rs : Resolver) (strIP strPort : Bytes) : SocketProg (Option ℤ) := do
  let m_nSocketFD ← loadSocketFD
  if m_nSocketFD = -1 then InetSocket.connectCenter rs strIP strPort else pure (some 0)

inductive Label
  /-- The keep-alive thread comes to the end of a round. -/
  | tick
  /-- It makes its next call. -/
  | call (ch : ℤ)
  /-- A receiver reads the descriptor of the object. -/
  | begin (i : ℕ)
  /-- It receives less than it has asked for. -/
  | disconnect (i : ℕ)
  /-- It takes its descriptor out of the object. -/
  | clear (i : ℕ)
  /-- It closes its descriptor, and ends. -/
  | close (i : ℕ)

/-- The state after a call for connecting. -/
def Reconnects.act (s : Reconnects) (p : SocketProg (Option ℤ)) (env : SocketEnv)
    (e : SocketEvent) : Reconnects :=
  { s with
    env := env
    tick := p
    calls := s.calls ++ [e]
    loops := if Creates .threadMessageReceive e then s.loops + 1 else s.loops
    receivers := if Creates .threadSocketRecvHandler e then s.receivers + 1 else s.receivers
    stage := if Creates .threadSocketRecvHandler e then Function.update s.stage s.receivers .created
      else s.stage
    born := if Creates .threadSocketRecvHandler e then
        Function.update s.born s.receivers env.m_nSocketFD
      else s.born }

/-- A receiver goes on. -/
def Reconnects.go (s : Reconnects) (i : ℕ) (stage : Stage) : Reconnects :=
  { s with stage := Function.update s.stage i stage }

def reconnectsStep (rs : Resolver) (strIP strPort : Bytes) (s : Reconnects) :
    Label → Option Reconnects
  | .tick =>
    match s.tick with
    -- an exception has ended the process
    | .ret (some _) => some { s with tick := reconnectCenter rs strIP strPort }
    | _ => none
  | .call ch => (s.tick.stepIn SocketEnv.answer s.env ch).map fun r => s.act r.1 r.2.1 r.2.2
  | .begin i =>
    if s.stage i = .created then some (s.go i (.reading s.env.m_nSocketFD)) else none
  | .disconnect i =>
    match s.stage i with
    | .reading nSocketFD =>
      if s.env.m_nSocketFD = nSocketFD then some (s.go i (.clearing nSocketFD))
      else some (s.go i (.closing nSocketFD))
    | _ => none
  | .clear i =>
    match s.stage i with
    | .clearing nSocketFD =>
      some { s.go i (.closing nSocketFD) with env := { s.env with m_nSocketFD := -1 } }
    | _ => none
  | .close i =>
    match s.stage i with
    | .closing nSocketFD =>
      some { s.go i .ended with env := { s.env with opened := s.env.opened.erase nSocketFD } }
    | _ => none

/-- The Controller and its connections to the center. -/
def reconnectsSystem (rs : Resolver) (strIP strPort : Bytes) : LTS.System Reconnects Label where
  init := ⟨⟨-1, []⟩, .ret (some 0), [], 0, 0, fun _ => .absent, fun _ => -1⟩
  step := reconnectsStep rs strIP strPort

/-! ### What is asked of a state -/

/-- One thread of each kind, and each receiver at the socket it was created for. -/
structure Reconnects.OneEach (s : Reconnects) : Prop where
  loops_le : s.loops ≤ 1
  /-- At most one receiver reads. -/
  reading_unique : ∀ i j f g, s.stage i = .reading f → s.stage j = .reading g → i = j
  serves : ∀ i f, s.stage i = .reading f → f = s.born i

/-! ### How often a connect succeeds -/

/-- `pthread_create` has succeeded, for whatever function. -/
def CreatesThread : SocketEvent → Bool
  | ⟨.createThread _, thd⟩ => thd != 0
  | _ => false

/-- A connect has succeeded, and no thread has been created since. -/
def connectedAfter (bConnected : Bool) : SocketEvent → Bool
  | ⟨.connect _ _, nResult⟩ => nResult != -1
  | ⟨.createThread _, _⟩ => false
  | _ => bConnected

/-- How often `connect` has succeeded, and the first `pthread_create` behind it. -/
def successes (bConnected : Bool) : List SocketEvent → ℕ
  | [] => 0
  | e :: tr => (if bConnected && CreatesThread e then 1 else 0) +
    successes (connectedAfter bConnected e) tr

theorem successes_append_singleton (bConnected : Bool) (tr : List SocketEvent) (e : SocketEvent) :
    successes bConnected (tr ++ [e]) = successes bConnected tr +
      if tr.foldl connectedAfter bConnected && CreatesThread e then 1 else 0 := by
  induction tr generalizing bConnected with
  | nil => exact Nat.add_comm _ _
  | cons e' tr ih => rw [List.cons_append, successes, successes, ih, ← Nat.add_assoc,
      List.foldl_cons]

/-- The calls of the connecting thread: the first thread created behind a connect is the message
loop, and no other is. -/
def counts (bConnected : Bool) (e : SocketEvent) : Option Bool :=
  match e with
  | ⟨.createThread entry, _⟩ =>
    if bConnected = decide (entry = .threadMessageReceive) then some false else none
  | e => some (connectedAfter bConnected e)

/-- What is counted as a success has created a message loop, and nothing else has. -/
theorem counts_eq_some {bConnected b : Bool} {e : SocketEvent}
    (h : counts bConnected e = some b) : b = connectedAfter bConnected e ∧
      Creates .threadMessageReceive e = (bConnected && CreatesThread e) := by
  obtain ⟨c, r⟩ := e
  cases c with
  | createThread entry =>
    obtain ⟨hentry, hb⟩ := Option.ite_none_right_eq_some.mp h
    subst hentry
    refine ⟨(Option.some.inj hb).symm, ?_⟩
    simp [Creates, CreatesThread, eq_comm]
  | _ =>
    refine ⟨(Option.some.inj h).symm, ?_⟩
    cases bConnected <;> rfl

/-- The calls of a program can be counted on. -/
def Counts {α : Type} (bConnected : Bool) (p : SocketProg α) : Prop :=
  p.Follows counts (fun _ => True) (fun _ => True) bConnected

theorem counts_call {α : Type} {bConnected b : Bool} {c : SocketCall} {k : c.Res → SocketProg α}
    (hb : ∀ r, counts bConnected ⟨c, r⟩ = some b) (hk : ∀ r, Counts b (k r)) :
    Counts bConnected (.call c k) := fun r _ => ⟨b, hb r, hk r⟩

theorem socketClose_counts {α : Type} (bConnected : Bool) (a : α) :
    Counts bConnected (socketClose >>= fun _ => pure a) := by
  refine counts_call (fun _ => rfl) fun fd => ?_
  show Counts _ ((if fd = -1 then _ else _ : SocketProg Unit) >>= _)
  split
  · trivial
  · exact counts_call (fun _ => rfl) fun _ => counts_call (fun _ => rfl) fun _ => trivial

/-- `start` creates one message loop behind a connect that has succeeded, and then the receiver. -/
theorem start_counts (rs : Resolver) (cszAddr : Bytes) (nPort : Short) (bConnected : Bool) :
    Counts bConnected (start rs cszAddr nPort) := by
  unfold start
  dsimp only
  split
  · trivial
  unfold createSocket
  generalize (if (setInetSocket (some cszAddr) nPort).socket.szIP = [] then some inaddrAny
    else rs.inetAton (setInetSocket (some cszAddr) nPort).socket.szIP) = addr
  cases addr with
  | none => trivial
  | some sinAddr =>
    refine counts_call (fun _ => rfl) fun fd => counts_call (fun _ => rfl) fun _ => ?_
    show Counts _ (if fd = -1 then _ else _)
    split
    · trivial
    -- `connectServer`
    refine counts_call (fun _ => rfl) fun m_nSocketFD => ?_
    show Counts _ ((if m_nSocketFD = -1 then _ else _ : SocketProg ℤ) >>= _)
    split
    · exact socketClose_counts _ _
    cases rs.gethostbyname (setInetSocket (some cszAddr) nPort).socket.szIP with
    | none => exact socketClose_counts _ _
    | some hAddr =>
      intro nResult _
      refine ⟨_, rfl, ?_⟩
      show Counts (nResult != -1) (if nResult = -1 then _ else _)
      split
      · exact socketClose_counts _ _
      next hconnected =>
      rw [bne_iff_ne.mpr hconnected]
      refine counts_call (fun _ => rfl) fun nMsgId => ?_
      show Counts _ (if nMsgId = -1 then _ else _)
      split
      · trivial
      -- the message loop, and the receiver
      refine counts_call (fun _ => rfl) fun _ => counts_call (fun _ => rfl) fun _ => ?_
      exact counts_call (fun _ => rfl) fun _ => trivial

theorem reconnectCenter_counts (rs : Resolver) (strIP strPort : Bytes) (bConnected : Bool) :
    Counts bConnected (reconnectCenter rs strIP strPort) := by
  refine counts_call (fun _ => rfl) fun r => ?_
  show Counts _ (if r = -1 then _ else _)
  split
  · unfold InetSocket.connectCenter
    split
    · trivial
    split
    · trivial
    refine Prog.Follows.bind (start_counts _ _ _ _) fun nRet b _ => ?_
    cases nRet with
    | none => trivial
    | some nRet =>
      refine counts_call (fun _ => rfl) fun r => ?_
      show Counts _ (if r = -1 then _ else _)
      split
      · trivial
      · exact counts_call (fun _ => rfl) fun _ => counts_call (fun _ => rfl) fun _ => trivial
  · trivial

/-! ### Who owns the descriptor -/

/-- The stages before the descriptor has been taken out of the object. -/
def Stage.Active : Stage → Prop
  | created => True
  | reading _ => True
  | clearing _ => True
  | _ => False

/-- The descriptor a stage has to do with. -/
def Stage.fd : Stage → Option ℤ
  | reading f => some f
  | clearing f => some f
  | _ => none

/-- Where the connecting thread stands. -/
inductive Phase
  /-- It leaves the descriptor of the object alone. -/
  | free
  /-- It has found no descriptor, and has set it to `fd` since. -/
  | starting (fd : ℤ)
  /-- Behind a result that cannot be. -/
  | never

/-- The calls of the connecting thread. -/
def follow : Phase → SocketEvent → Option Phase
  | .never, _ => some .never
  | .free, ⟨.loadSocketFD, r⟩ => some (if r = -1 then .starting (-1) else .free)
  | .free, ⟨.cmpBindRequest _, _⟩ => some .free
  | .free, _ => none
  | .starting fd, ⟨.loadSocketFD, r⟩ => some (if r = fd then .starting fd else .never)
  | .starting _, ⟨.storeSocketFD fd, _⟩ => some (.starting fd)
  | .starting fd, ⟨.createThread .threadSocketRecvHandler, _⟩ =>
    -- the thread owns the descriptor from here on
    if fd = -1 then none else some .free
  | .starting fd, _ => some (.starting fd)

/-- Who owns the descriptor. -/
def Owns (s : Reconnects) : Phase → Prop
  | .free => (∀ i, (s.stage i).Active → s.env.m_nSocketFD ≠ -1 ∧ s.born i = s.env.m_nSocketFD ∧
      ∀ f, (s.stage i).fd = some f → f = s.env.m_nSocketFD) ∧
    ∀ i j, (s.stage i).Active → (s.stage j).Active → i = j
  | .starting fd => s.env.m_nSocketFD = fd ∧ ∀ i, ¬ (s.stage i).Active
  | .never => False

/-- The calls of a program can follow. -/
def Goes {α : Type} (q : Phase) (p : SocketProg α) : Prop :=
  p.Follows follow (fun _ => True) (fun _ => True) q

theorem goes_never {α : Type} (p : SocketProg α) : Goes .never p := by
  induction p with
  | ret a => trivial
  | call c k ih => exact fun r _ => ⟨.never, rfl, ih r⟩

theorem goes_call {α : Type} {q q' : Phase} {c : SocketCall} {k : c.Res → SocketProg α}
    (hq : ∀ r, follow q ⟨c, r⟩ = some q') (hk : ∀ r, Goes q' (k r)) : Goes q (.call c k) :=
  fun r _ => ⟨q', hq r, hk r⟩

/-- What is read while the thread owns the descriptor. -/
theorem goes_load {α : Type} {fd : ℤ} {k : ℤ → SocketProg α} (hk : Goes (.starting fd) (k fd)) :
    Goes (.starting fd) (.call .loadSocketFD k) := by
  intro r _
  by_cases hr : r = fd
  · subst hr
    exact ⟨_, congrArg some (if_pos rfl), hk⟩
  · refine ⟨.never, ?_, goes_never _⟩
    show some (if r = fd then Phase.starting fd else .never) = _
    rw [if_neg hr]

/-- The descriptor is read, and the request sent on it, from any phase. -/
theorem exists_follow_load (q : Phase) (r : ℤ) : ∃ q', follow q ⟨.loadSocketFD, r⟩ = some q' := by
  cases q <;> exact ⟨_, rfl⟩

theorem exists_follow_cmpBindRequest (q : Phase) (fd r : ℤ) :
    ∃ q', follow q ⟨.cmpBindRequest fd, r⟩ = some q' := by
  cases q <;> exact ⟨_, rfl⟩

theorem socketClose_goes {α : Type} {fd : ℤ} (hfd : fd ≠ -1) (a : α) :
    Goes (.starting fd) (socketClose >>= fun _ => pure a) := by
  refine goes_load ?_
  show Goes _ ((if fd = -1 then _ else _ : SocketProg Unit) >>= _)
  rw [if_neg hfd]
  exact goes_call (fun _ => rfl) fun _ => goes_call (fun _ => rfl) fun _ => trivial

/-- `start` makes its calls on a descriptor it owns. -/
theorem start_goes (rs : Resolver) (cszAddr : Bytes) (nPort : Short) :
    Goes (.starting (-1)) (start rs cszAddr nPort) := by
  unfold start
  dsimp only
  split
  · trivial
  unfold createSocket
  generalize (if (setInetSocket (some cszAddr) nPort).socket.szIP = [] then some inaddrAny
    else rs.inetAton (setInetSocket (some cszAddr) nPort).socket.szIP) = addr
  cases addr with
  | none => trivial
  | some sinAddr =>
    refine goes_call (fun _ => rfl) fun fd => goes_call (fun _ => rfl) fun _ => ?_
    show Goes (.starting fd) (if fd = -1 then _ else _)
    split
    · trivial
    next hfd =>
    -- `connectServer`
    refine goes_load ?_
    show Goes _ ((if fd = -1 then _ else _ : SocketProg ℤ) >>= _)
    rw [if_neg hfd]
    cases rs.gethostbyname (setInetSocket (some cszAddr) nPort).socket.szIP with
    | none => exact socketClose_goes hfd _
    | some hAddr =>
      refine goes_call (fun _ => rfl) fun nResult => ?_
      show Goes _ (if nResult = -1 then _ else _)
      split
      · exact socketClose_goes hfd _
      refine goes_call (fun _ => rfl) fun nMsgId => ?_
      show Goes _ (if nMsgId = -1 then _ else _)
      split
      · trivial
      refine goes_call (fun _ => rfl) fun _ => goes_call (fun _ => if_neg hfd) fun _ => ?_
      exact fun r _ => ⟨_, rfl, trivial⟩

/-- A pass of the keep-alive thread over the connection. -/
theorem reconnectCenter_goes (rs : Resolver) (strIP strPort : Bytes) :
    Goes .free (reconnectCenter rs strIP strPort) := by
  rintro r -
  refine ⟨_, rfl, ?_⟩
  show Goes _ (if r = -1 then _ else _)
  split
  · unfold InetSocket.connectCenter
    split
    · trivial
    split
    · trivial
    refine Prog.Follows.bind (start_goes _ _ _) fun nRet q _ => ?_
    cases nRet with
    | none => trivial
    | some nRet =>
      -- whoever owns the descriptor by now
      intro r _
      obtain ⟨q', hq'⟩ := exists_follow_load q r
      refine ⟨q', hq', ?_⟩
      show Goes _ (if r = -1 then _ else _)
      split
      · trivial
      intro fd _
      obtain ⟨q'', hq''⟩ := exists_follow_load q' fd
      refine ⟨q'', hq'', fun nRet _ => ?_⟩
      obtain ⟨q₃, hq₃⟩ := exists_follow_cmpBindRequest q'' fd nRet
      exact ⟨q₃, hq₃, trivial⟩
  · trivial

/-! ### The invariant -/

/-- What holds of every state: the connecting thread follows its phase, and the descriptor is
owned accordingly; and there are as many message loops as connects have succeeded. -/
structure Reconnects.Sound (s : Reconnects) : Prop where
  owned : ∃ q, Goes q s.tick ∧ Owns s q
  counted : Counts (s.calls.foldl connectedAfter false) s.tick
  loops_eq : s.loops = successes false s.calls
  absent : ∀ i, s.receivers ≤ i → s.stage i = .absent

/-- Owning looks at the descriptor of the object and at the receivers only. -/
theorem owns_congr {s s' : Reconnects} {q : Phase} (hfd : s'.env.m_nSocketFD = s.env.m_nSocketFD)
    (hstage : s'.stage = s.stage) (hborn : s'.born = s.born) (h : Owns s q) : Owns s' q := by
  cases q with
  | free =>
    show (_ ∧ _)
    rw [hfd, hstage, hborn]
    exact h
  | starting fd =>
    show (_ ∧ _)
    rw [hfd, hstage]
    exact h
  | never => exact h

/-- Calls that create no receiver leave the receivers as they are. -/
theorem act_of_not_creates {s : Reconnects} {p : SocketProg (Option ℤ)} {env : SocketEnv}
    {e : SocketEvent} (he : Creates .threadSocketRecvHandler e = false) :
    (s.act p env e).stage = s.stage ∧ (s.act p env e).born = s.born := by
  simp [Reconnects.act, he]

/-- A receiver that is created owns the descriptor, and is the only one that does. -/
theorem owns_created {s : Reconnects} (p : SocketProg (Option ℤ)) {fd : ℤ} (ch : ℤ)
    (hfd : s.env.m_nSocketFD = fd) (hne : fd ≠ -1) (hnone : ∀ i, ¬ (s.stage i).Active) :
    Owns (s.act p s.env ⟨.createThread .threadSocketRecvHandler, ch⟩) .free := by
  by_cases hch : ch = 0
  · -- no thread
    have he : Creates .threadSocketRecvHandler
        ⟨.createThread .threadSocketRecvHandler, ch⟩ = false := by simp [Creates, hch]
    obtain ⟨hstage, hborn⟩ := @act_of_not_creates s p s.env _ he
    refine owns_congr (s := s) rfl hstage hborn ⟨?_, ?_⟩
    · exact fun i hi => absurd hi (hnone i)
    · exact fun i j hi _ => absurd hi (hnone i)
  · have he : Creates .threadSocketRecvHandler
        ⟨.createThread .threadSocketRecvHandler, ch⟩ = true := by simp [Creates, hch]
    have hstage : (s.act p s.env ⟨.createThread .threadSocketRecvHandler, ch⟩).stage =
        Function.update s.stage s.receivers .created := if_pos he
    have hborn : (s.act p s.env ⟨.createThread .threadSocketRecvHandler, ch⟩).born =
        Function.update s.born s.receivers s.env.m_nSocketFD := if_pos he
    have honly : ∀ i, ((s.act p s.env
        ⟨.createThread .threadSocketRecvHandler, ch⟩).stage i).Active → i = s.receivers := by
      intro i hi
      by_contra hne'
      rw [hstage, Function.update_of_ne hne'] at hi
      exact hnone i hi
    refine ⟨fun i hi => ?_, fun i j hi hj => (honly i hi).trans (honly j hj).symm⟩
    obtain rfl := honly i hi
    refine ⟨fun hm => hne (hfd.symm.trans hm), ?_, fun f hf => ?_⟩
    · show (s.act p s.env ⟨.createThread .threadSocketRecvHandler, ch⟩).born _ = _
      rw [hborn, Function.update_self]
      rfl
    · have hf' : ((s.act p s.env ⟨.createThread .threadSocketRecvHandler, ch⟩).stage
          s.receivers).fd = some f := hf
      rw [hstage, Function.update_self] at hf'
      cases hf'

/-- A call while the descriptor is left alone. -/
theorem owns_act_free {s : Reconnects} {p : SocketProg (Option ℤ)} {q' : Phase} {c : SocketCall}
    {ch : ℤ} (h : Owns s .free) (hq : follow .free ⟨c, (s.env.answer c ch).1⟩ = some q') :
    Owns (s.act p (s.env.answer c ch).2 ⟨c, (s.env.answer c ch).1⟩) q' := by
  cases c with
  | loadSocketFD =>
    cases hq
    have hsame : Owns (s.act p s.env ⟨.loadSocketFD, s.env.m_nSocketFD⟩) .free :=
      owns_congr rfl rfl rfl h
    by_cases hfd : s.env.m_nSocketFD = -1
    · -- nobody has a descriptor to take out
      show Owns _ (if s.env.m_nSocketFD = -1 then _ else _)
      rw [if_pos hfd]
      exact ⟨hfd, fun i hi => (h.1 i hi).1 hfd⟩
    · show Owns _ (if s.env.m_nSocketFD = -1 then _ else _)
      rw [if_neg hfd]
      exact hsame
  | cmpBindRequest fd =>
    cases hq
    exact owns_congr rfl rfl rfl h
  | _ => cases hq

/-- A call while the connecting thread owns the descriptor. -/
theorem owns_act_starting {s : Reconnects} {p : SocketProg (Option ℤ)} {fd : ℤ} {q' : Phase}
    {c : SocketCall} {ch : ℤ} (h : Owns s (.starting fd))
    (hq : follow (.starting fd) ⟨c, (s.env.answer c ch).1⟩ = some q') :
    Owns (s.act p (s.env.answer c ch).2 ⟨c, (s.env.answer c ch).1⟩) q' := by
  obtain ⟨hfd, hnone⟩ := h
  cases c with
  | loadSocketFD =>
    cases hq
    show Owns _ (if s.env.m_nSocketFD = fd then _ else _)
    rw [if_pos hfd]
    exact ⟨hfd, hnone⟩
  | storeSocketFD x =>
    cases hq
    exact ⟨rfl, hnone⟩
  | socket =>
    cases hq
    refine ⟨?_, hnone⟩
    show (s.env.answer .socket ch).2.m_nSocketFD = fd
    rw [← hfd]
    unfold SocketEnv.answer
    dsimp only
    split <;> rfl
  | createThread entry =>
    cases entry with
    | threadSocketRecvHandler =>
      have hne : fd ≠ -1 := by
        rintro rfl
        cases hq
      have hfree : follow (.starting fd) ⟨.createThread .threadSocketRecvHandler, ch⟩ =
        some .free := if_neg hne
      obtain rfl : Phase.free = q' := Option.some.inj (hfree.symm.trans hq)
      exact owns_created p ch hfd hne hnone
    | _ =>
      cases hq
      exact ⟨hfd, hnone⟩
  | _ =>
    cases hq
    exact ⟨hfd, hnone⟩

/-- One call keeps the descriptor owned. -/
theorem owns_act {s : Reconnects} {p : SocketProg (Option ℤ)} {q q' : Phase} {c : SocketCall}
    {ch : ℤ} (h : Owns s q) (hq : follow q ⟨c, (s.env.answer c ch).1⟩ = some q') :
    Owns (s.act p (s.env.answer c ch).2 ⟨c, (s.env.answer c ch).1⟩) q' := by
  cases q with
  | free => exact owns_act_free h hq
  | starting fd => exact owns_act_starting h hq
  | never => exact h.elim

/-- Whoever owns the descriptor, the connecting thread may leave it alone from now on. -/
theorem Owns.free {s : Reconnects} {q : Phase} (h : Owns s q) : Owns s .free := by
  cases q with
  | free => exact h
  | starting fd => exact ⟨fun i hi => absurd hi (h.2 i), fun i j hi _ => absurd hi (h.2 i)⟩
  | never => exact h.elim

/-- A receiver goes on, with the descriptor it owned or without one. -/
theorem owns_go {s : Reconnects} {q : Phase} {i : ℕ} {stage : Stage} (h : Owns s q)
    (hactive : stage.Active → (s.stage i).Active)
    (hfd : ∀ f, stage.fd = some f → f = s.env.m_nSocketFD) : Owns (s.go i stage) q := by
  have hback : ∀ j, ((s.go i stage).stage j).Active → (s.stage j).Active := by
    intro j hj
    by_cases hji : j = i
    · subst hji
      exact hactive (by simpa [Reconnects.go] using hj)
    · simpa [Reconnects.go, Function.update_of_ne hji] using hj
  cases q with
  | free =>
    refine ⟨fun j hj => ?_, fun j k hj hk => h.2 j k (hback j hj) (hback k hk)⟩
    obtain ⟨hm, hborn, hold⟩ := h.1 j (hback j hj)
    refine ⟨hm, hborn, fun f hf => ?_⟩
    by_cases hji : j = i
    · subst hji
      exact hfd f (by simpa [Reconnects.go] using hf)
    · exact hold f (by simpa [Reconnects.go, Function.update_of_ne hji] using hf)
  | starting fd => exact ⟨h.1, fun j hj => h.2 j (hback j hj)⟩
  | never => exact h

/-- The receiver that owns the descriptor gives it up. -/
theorem owns_clear {s : Reconnects} {q : Phase} {i : ℕ} {stage : Stage} (h : Owns s q)
    (hi : (s.stage i).Active) (hstage : ¬ stage.Active) :
    Owns { s.go i stage with env := { s.env with m_nSocketFD := -1 } } q := by
  cases q with
  | free =>
    -- there is no other receiver
    have hnone : ∀ j, ¬ ((s.go i stage).stage j).Active := by
      intro j hj
      by_cases hji : j = i
      · subst hji
        exact hstage (by simpa [Reconnects.go] using hj)
      · exact hji (h.2 j i (by simpa [Reconnects.go, Function.update_of_ne hji] using hj) hi)
    exact ⟨fun j hj => absurd hj (hnone j), fun j k hj _ => absurd hj (hnone j)⟩
  | starting fd => exact absurd hi (h.2 i)
  | never => exact h

namespace Reconnects

variable {rs : Resolver} {strIP strPort : Bytes} {s s' : Reconnects}

/-- A receiver that has been created. -/
theorem Sound.lt_receivers (h : s.Sound) {i : ℕ} (hi : s.stage i ≠ .absent) : i < s.receivers := by
  by_contra hge
  exact hi (h.absent i (not_lt.mp hge))

/-- A receiver goes on. -/
theorem Sound.go (h : s.Sound) (env : SocketEnv) {i : ℕ} {stage : Stage} (hi : i < s.receivers)
    (howned : ∀ q, Owns s q → Owns { s.go i stage with env := env } q) :
    Sound { s.go i stage with env := env } := by
  obtain ⟨q, hgoes, howns⟩ := h.owned
  refine ⟨⟨q, hgoes, howned q howns⟩, h.counted, h.loops_eq, fun j hj => ?_⟩
  have hji : j ≠ i := fun heq => absurd hi (not_lt.mpr (heq ▸ hj))
  show Function.update s.stage i stage j = _
  rw [Function.update_of_ne hji]
  exact h.absent j hj

/-- The connecting thread makes a call. -/
theorem Sound.call (h : s.Sound) {ch : ℤ} {p : SocketProg (Option ℤ)} {env : SocketEnv}
    {e : SocketEvent} (hcall : s.tick.stepIn SocketEnv.answer s.env ch = some (p, env, e)) :
    (s.act p env e).Sound := by
  obtain ⟨q, hgoes, howns⟩ := h.owned
  obtain ⟨q', hq', hgoes'⟩ := hgoes.step hcall trivial
  obtain ⟨b, hb, hcounts⟩ := h.counted.step hcall trivial
  obtain ⟨rfl, hcreates⟩ := counts_eq_some hb
  obtain ⟨c, k, -, -, rfl, rfl⟩ := Prog.stepIn_eq_some.mp hcall
  refine ⟨⟨q', hgoes', owns_act howns hq'⟩, ?_, ?_, fun i hi => ?_⟩
  · show Counts ((s.calls ++ [_]).foldl connectedAfter false) p
    rwa [List.foldl_append]
  · show (if _ then _ else _) = successes false (s.calls ++ [_])
    rw [successes_append_singleton, ← h.loops_eq, ← hcreates]
    split <;> rfl
  · -- the receivers are counted on
    by_cases he : Creates .threadSocketRecvHandler ⟨c, (s.env.answer c ch).1⟩ = true
    · have hle : s.receivers + 1 ≤ i := by simpa [act, he] using hi
      have hne : i ≠ s.receivers := fun heq => by omega
      have habsent := h.absent i (by omega)
      simpa [act, he, Function.update_of_ne hne] using habsent
    · have hle : s.receivers ≤ i := by simpa [act, he] using hi
      simpa [act, he] using h.absent i hle

/-- One step keeps the invariant. -/
theorem Sound.step (h : s.Sound) {l : Label}
    (hstep : reconnectsStep rs strIP strPort s l = some s') : s'.Sound := by
  cases l with
  | tick =>
    obtain ⟨q, -, howns⟩ := h.owned
    simp only [reconnectsStep] at hstep
    split at hstep
    · cases hstep
      exact ⟨⟨.free, reconnectCenter_goes rs strIP strPort, howns.free⟩,
        reconnectCenter_counts rs strIP strPort _, h.loops_eq, h.absent⟩
    · cases hstep
  | call ch =>
    obtain ⟨⟨p, env, e⟩, hcall, rfl⟩ := Option.map_eq_some_iff.mp hstep
    exact h.call hcall
  | begin i =>
    simp only [reconnectsStep] at hstep
    split at hstep
    · next hi =>
      cases hstep
      refine h.go s.env (h.lt_receivers (by simp [hi])) fun q hq => ?_
      refine owns_go hq (fun _ => by rw [hi]; trivial) fun f hf => ?_
      exact (Option.some.inj hf).symm
    · cases hstep
  | disconnect i =>
    simp only [reconnectsStep] at hstep
    split at hstep
    · next f hi =>
      have hlt := h.lt_receivers (i := i) (by simp [hi])
      split at hstep
      · next hfd =>
        cases hstep
        refine h.go s.env hlt fun q hq => ?_
        refine owns_go hq (fun _ => by rw [hi]; trivial) fun g hg => ?_
        exact (Option.some.inj hg).symm.trans hfd.symm
      · cases hstep
        exact h.go s.env hlt fun q hq => owns_go hq (fun hc => hc.elim) nofun
    · cases hstep
  | clear i =>
    simp only [reconnectsStep] at hstep
    split at hstep
    · next f hi =>
      cases hstep
      refine h.go _ (h.lt_receivers (by simp [hi])) fun q hq => ?_
      exact owns_clear hq (by rw [hi]; trivial) id
    · cases hstep
  | close i =>
    simp only [reconnectsStep] at hstep
    split at hstep
    · next f hi =>
      cases hstep
      refine h.go _ (h.lt_receivers (by simp [hi])) fun q hq => ?_
      exact owns_congr (s := s.go i .ended) rfl rfl rfl (owns_go hq (fun hc => hc.elim) nofun)
    · cases hstep

theorem sound_init : ((reconnectsSystem rs strIP strPort).init).Sound where
  owned := ⟨.free, trivial, fun _ hi => hi.elim, fun _ _ hi _ => hi.elim⟩
  counted := trivial
  loops_eq := rfl
  absent _ _ := rfl

/-- The invariant holds in every state of every run. -/
theorem sound_run {ls : List Label}
    (h : (reconnectsSystem rs strIP strPort).Run (reconnectsSystem rs strIP strPort).init ls s) :
    s.Sound :=
  LTS.System.RunWhere.invariant (I := Sound) (fun _ _ _ hI _ hstep => hI.step hstep) h sound_init

/-- Readers are never two, and serve the socket they were created for. -/
theorem Sound.readers (h : s.Sound) :
    (∀ i j f g, s.stage i = .reading f → s.stage j = .reading g → i = j) ∧
      ∀ i f, s.stage i = .reading f → f = s.born i := by
  obtain ⟨q, -, howns⟩ := h.owned
  obtain ⟨hactive, hunique⟩ := howns.free
  constructor
  · intro i j f g hi hj
    exact hunique i j (by rw [hi]; trivial) (by rw [hj]; trivial)
  · intro i f hi
    obtain ⟨-, hborn, hfd⟩ := hactive i (by rw [hi]; trivial)
    rw [hborn, hfd f (by rw [hi]; rfl)]

end Reconnects

/-! ### One thread of each kind -/

/-- **When there is one thread of each kind.** In every state of every run, whatever connects have
failed and whatever connections were lost before, there is at most one reader, at the socket it was
created for; and there is at most one message loop exactly if at most one connect so far has
succeeded, together with the creation of the first thread behind it. -/
theorem oneEach_iff {rs : Resolver} {strIP strPort : Bytes} {ls : List Label} {s : Reconnects}
    (h : (reconnectsSystem rs strIP strPort).Run (reconnectsSystem rs strIP strPort).init ls s) :
    s.OneEach ↔ successes false s.calls ≤ 1 := by
  have hsound := Reconnects.sound_run h
  constructor
  · intro heach
    rw [← hsound.loops_eq]
    exact heach.loops_le
  · intro hcount
    obtain ⟨hunique, hserves⟩ := hsound.readers
    exact ⟨hsound.loops_eq ▸ hcount, hunique, hserves⟩

/-- A round in which the connect succeeds. -/
def connects (nSocketFD : ℤ) : List Label :=
  [.tick, .call 0, .call nSocketFD, .call 0, .call 0, .call 0, .call 7, .call 100, .call 101,
    .call 0, .call 0, .call 0, .call 17]

/-- The center hangs up. -/
def hangsUp (i : ℕ) : List Label := [.begin i, .disconnect i, .clear i, .close i]

/-- One connection that is lost leaves one message loop. -/
theorem oneEach_once : ∃ s, (reconnectsSystem oneAddress (ascii "10.0.0.7") (ascii "8080")).Run
    (reconnectsSystem oneAddress (ascii "10.0.0.7") (ascii "8080")).init (connects 5 ++ hangsUp 0) s
      ∧ s.OneEach := by
  refine ⟨_, LTS.System.run_eq_some_iff.mp rfl, ?_⟩
  have hiff := @oneEach_iff oneAddress (ascii "10.0.0.7") (ascii "8080")
    (connects 5 ++ hangsUp 0) _ (LTS.System.run_eq_some_iff.mp rfl)
  exact hiff.mpr (by decide)

/-- With the second connection there are two. -/
theorem oneEach_not_twice : ∃ s,
    (reconnectsSystem oneAddress (ascii "10.0.0.7") (ascii "8080")).Run
      (reconnectsSystem oneAddress (ascii "10.0.0.7") (ascii "8080")).init
      (connects 5 ++ hangsUp 0 ++ connects 5) s ∧ s.loops = 2 ∧ ¬ s.OneEach := by
  refine ⟨_, LTS.System.run_eq_some_iff.mp rfl, rfl, fun h => ?_⟩
  exact absurd h.loops_le (by decide)

end ControllerSystem.Controller.Reconnect
