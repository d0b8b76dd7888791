import ControllerSystem.Controller.Bound

/-!
# Who closes which descriptor

Two code paths of the Controller close the descriptor of a client: its own thread when it ends, and
the keep-alive thread when it drops a socket of `vEnquireLink`. Neither knows whether the other has
done so before, and once a descriptor is closed it may be given to the next client.

`closes_own` — every `close` hits the connection that was served, or none that is open, as long as
a descriptor is not given away before everybody who still has to close it has done so, and the
iterator of the keep-alive thread stays inside the vector, from which the client threads erase
entries.
-/

open Words Calls KeepAlive

namespace ControllerSystem.Controller

/-- Nobody has to close the descriptor any more: the threads that served it have ended, and the
keep-alive thread has not noted it and does not close it next. -/
structure Threads.Released (s : Threads) (f : ℤ) : Prop where
  ended : ∀ c, s.sockets.fd c = some f → s.stage c = .ended
  link : f ∉ s.device.vEnquireLink
  drop : next (s.program .keepAlive) ≠ some (.close f)

/-- A descriptor is given away when nobody has to close it any more. The keep-alive thread reads an
entry of `vEnquireLink`, not behind the last one. -/
def Releases (s : Threads) : ThreadsLabel → Prop
  | .accept nChildSocketFD => s.Released nChildSocketFD
  | .connect nSocketFD => s.Released nSocketFD
  | .call .keepAlive _ => ∀ it, next (s.program .keepAlive) = some (.deref it) →
      it < s.device.vEnquireLink.length
  | _ => True

/-- Every `close` has hit the connection it was for, or none. -/
def ClosesOwn (s : Threads) : Prop := ∀ h ∈ s.closes, h.2 = none ∨ h.2 = h.1

/-! ### The sockets a round drops -/

/-- A descriptor is closed directly behind the call that has read it from `vEnquireLink`. The state
is what the last call has read. -/
def closeOrder : Option ℤ → ControllerEvent → Option (Option ℤ)
  | _, ⟨.deref _, nSocketFD⟩ => some (some nSocketFD)
  | read, ⟨.close nSocketFD, _⟩ => if read = some nSocketFD then some none else none
  | _, _ => some none

/-- A program that closes what it has just read. -/
def FollowsClose {α : Type} : Option ℤ → ControllerProg α → Prop :=
  Prog.Follows closeOrder (fun _ => True) fun _ => True

section Round

variable {mConfig : Config} {read : Option ℤ}

theorem followsClose_of_forall {α : Type} {p : ControllerProg α} (hp : p.Forall AskCall) :
    FollowsClose read p := by
  induction p generalizing read with
  | ret a => trivial
  | call c k ih =>
    obtain ⟨hc, hk⟩ := hp
    refine fun r _ => ⟨none, ?_, ih r (hk r)⟩
    cases hc with
    | link hc => cases hc <;> rfl
    | center hc => cases hc <;> rfl
    | _ => rfl

theorem dropSocket_followsClose {it : ℕ} : FollowsClose read (dropSocket it) :=
  fun _ _ => ⟨_, rfl, fun _ _ => ⟨_, rfl, fun _ _ => ⟨_, rfl, fun _ _ => ⟨_, if_pos rfl,
    fun _ _ => ⟨_, rfl, fun _ _ => ⟨_, rfl, trivial⟩⟩⟩⟩⟩⟩

theorem dropSockets_followsClose {passes it : ℕ} : FollowsClose read (dropSockets passes it) := by
  induction passes generalizing it read with
  | zero => trivial
  | succ passes ih =>
    refine fun bMore _ => ⟨none, rfl, ?_⟩
    simp only [Prog.bind_eq, Prog.ret_bind]
    split
    · exact dropSocket_followsClose.bind fun _ _ _ => ih
    · trivial

theorem checkEnquireLink_followsClose : FollowsClose read checkEnquireLink := by
  refine fun vEnquireLink _ => ⟨none, rfl, ?_⟩
  simp only [Prog.bind_eq, Prog.ret_bind]
  split
  · exact dropSockets_followsClose
  · trivial

/-- A round closes what it reads. -/
theorem enquireLinkRound_followsClose : FollowsClose read (enquireLinkRound mConfig) :=
  checkEnquireLink_followsClose.bind fun _ _ _ =>
    followsClose_of_forall enquireLinkRound_rest_calls

/-- What is closed next has just been read. -/
theorem closeOrder_next {read' : Option ℤ} {e : ControllerEvent} {p : ControllerProg Unit} {f : ℤ}
    (hq : closeOrder read e = some read') (hp : FollowsClose read' p)
    (hnext : next p = some (.close f)) : ∃ it, e = ⟨.deref it, f⟩ := by
  have hread : read' = some f := by
    cases p with
    | ret a => cases hnext
    | call c k =>
      obtain rfl : c = .close f := Option.some.inj hnext
      obtain ⟨q, hclose, -⟩ := hp () trivial
      by_contra hne
      rw [closeOrder, if_neg hne] at hclose
      cases hclose
  subst hread
  obtain ⟨c, r⟩ := e
  cases c with
  | deref it =>
    cases hq
    exact ⟨it, rfl⟩
  | close nSocketFD =>
    simp only [closeOrder] at hq
    split at hq <;> cases hq
  | _ => cases hq

end Round

/-! ### What every step keeps -/

/-- The descriptor is noted in `vEnquireLink`, or is closed next. -/
def Threads.Noted (s : Threads) (f : ℤ) : Prop :=
  f ∈ s.device.vEnquireLink ∨ next (s.program .keepAlive) = some (.close f)

/-- A descriptor denotes none but the connection whose thread is to close it, and the one it denoted
when it was noted. -/
structure Threads.CloseInv (s : Threads) : Prop where
  wellformed : s.Wellformed
  older : ∀ {f c c'}, s.sockets.conn f = some c → s.sockets.fd c' = some f → c' ≠ c →
    s.stage c' = .ended
  follows : ∃ read, FollowsClose read (s.program .keepAlive)
  noted : ∀ {f}, s.Noted f → s.sockets.conn f = none ∨ s.sockets.conn f = s.asked f
  own : ClosesOwn s

section Steps

variable {mConfig : Config} {s s' : Threads} {l : ThreadsLabel} {f : ℤ}

/-- A descriptor that is closed denotes nothing. -/
theorem conn_closeAll_cases (l : List ℤ) (f : ℤ) :
    (s.sockets.closeAll l).conn f = none ∨
      (s.sockets.closeAll l).conn f = s.sockets.conn f := by
  by_cases hmem : f ∈ l <;> simp [Sockets.closeAll, hmem]

theorem Threads.CloseInv.opened (h : s.CloseInv) (hreleased : s.Released f) (toCenter : Bool)
    (queue : List Notice) : (s.opened f toCenter queue).CloseInv where
  wellformed := h.wellformed.opened f toCenter queue
  older := by
    intro f' c c' hconn hfd hne
    rcases eq_or_ne c' s.sockets.opened with rfl | hold
    · -- the descriptor of the new connection denotes no other one
      obtain rfl : f = f' := by
        simpa [Threads.opened, Sockets.accept] using hfd
      rcases Sockets.conn_accept hconn with ⟨-, rfl⟩ | ⟨hne', -⟩
      · exact absurd rfl hne
      · exact absurd rfl hne'
    · rw [opened_fd_of_ne s f toCenter queue hold] at hfd
      have hstage : (s.opened f toCenter queue).stage c' = s.stage c' :=
        Function.update_of_ne hold _ _
      rw [hstage]
      rcases Sockets.conn_accept hconn with ⟨rfl, -⟩ | ⟨-, hconn'⟩
      · exact hreleased.ended c' hfd
      · exact h.older hconn' hfd hne
  follows := h.follows
  noted := by
    intro f' hnoted
    have hnoted' : s.Noted f' := hnoted
    have hne : f' ≠ f := by
      rintro rfl
      exact hnoted'.elim hreleased.link hreleased.drop
    have hconn : (s.opened f toCenter queue).sockets.conn f' = s.sockets.conn f' :=
      Function.update_of_ne hne _ _
    rw [hconn]
    exact h.noted hnoted'
  own := h.own

theorem mem_closed {e : ControllerEvent} : f ∈ closed [e] ↔ e.1 = .close f := by
  obtain ⟨c, r⟩ := e
  cases c <;> simp [closed, eq_comm]

/-- What is read from `vEnquireLink` is an entry of it. -/
theorem Turns.deref {p p' : ControllerProg Unit} {d d' : Device} {ch : DeviceChoice} {it : ℕ}
    (h : Turns p d ch p' d' ⟨.deref it, f⟩) : next p = some (.deref it) ∧
      (it < d.vEnquireLink.length → f ∈ d.vEnquireLink) := by
  cases h with
  | call c k =>
    refine ⟨rfl, fun hlt => ?_⟩
    simp [Device.answer, hlt]

/-- A turn of a worker. -/
theorem Threads.CloseInv.act (h : s.CloseInv) {w : Worker} {p : ControllerProg Unit} {d : Device}
    {e : ControllerEvent} (hwell : (s.act w p d e).Wellformed)
    (hfollows : ∃ read, FollowsClose read ((s.act w p d e).program .keepAlive))
    (hnoted : ∀ f, next ((s.act w p d e).program .keepAlive) = some (.close f) → s.Noted f)
    (hclose : ∀ f, e.1 = .close f → s.Noted f) : (s.act w p d e).CloseInv where
  wellformed := hwell
  older hconn hfd hne := h.older (Sockets.conn_closeAll.mp hconn).2 hfd hne
  follows := hfollows
  noted := by
    intro f hf
    have hasked : s.sockets.conn f = none ∨ s.sockets.conn f = (s.act w p d e).asked f := by
      simp only [Threads.act]
      split
      · exact .inr rfl
      · next hnot =>
        -- the descriptor had been noted before the turn
        refine h.noted ?_
        rcases hf with hlink | hnext
        · exact .inl (by_contra fun hnew => hnot ⟨hlink, hnew⟩)
        · exact hnoted f hnext
    show (s.sockets.closeAll (closed [e])).conn f = none ∨
      (s.sockets.closeAll (closed [e])).conn f = _
    rcases conn_closeAll_cases (closed [e]) f with hnone | hsame
    · exact .inl hnone
    · rwa [hsame]
  own := by
    intro x hx
    rcases List.mem_append.mp hx with hx | hx
    · exact h.own x hx
    · obtain ⟨f, hf, rfl⟩ := List.mem_map.mp hx
      exact h.noted (hclose f (mem_closed.mp hf))

/-- A turn of the keep-alive thread. -/
theorem Threads.CloseInv.act_keepAlive (h : s.CloseInv) {p p' : ControllerProg Unit} {d : Device}
    {ch : DeviceChoice} {e : ControllerEvent} {read : Option ℤ}
    (hturn : Turns p s.device ch p' d e) (hfollows : FollowsClose read p)
    (hok : ∀ it, next p = some (.deref it) → it < s.device.vEnquireLink.length)
    (hclose : ∀ f, e.1 = .close f → s.Noted f)
    (hwell : (s.act .keepAlive p' d e).Wellformed) : (s.act .keepAlive p' d e).CloseInv := by
  obtain ⟨read', hq, hfollows'⟩ := hturn.follows hfollows fun v v' q₁ hq₁ => by
    cases hq₁
    rfl
  have hprogram : (s.act .keepAlive p' d e).program .keepAlive = p' := by simp [Threads.act]
  refine h.act hwell ?_ ?_ hclose
  · rw [hprogram]
    exact ⟨read', hfollows'⟩
  · intro f hnext
    rw [hprogram] at hnext
    obtain ⟨it, rfl⟩ := closeOrder_next hq hfollows' hnext
    obtain ⟨hderef, hmem⟩ := hturn.deref
    exact .inl (hmem (hok it hderef))

/-- A turn of another worker, which serves a descriptor. -/
theorem Threads.CloseInv.act_serves (h : s.CloseInv) {w : Worker} {p : ControllerProg Unit}
    {d : Device} {e : ControllerEvent} (hne : w ≠ .keepAlive) (hserve : Serves f e.1)
    (hwell : (s.act w p d e).Wellformed) : (s.act w p d e).CloseInv := by
  have hprogram : (s.act w p d e).program .keepAlive = s.program .keepAlive :=
    Function.update_of_ne hne.symm _ _
  refine h.act hwell ?_ ?_ ?_
  · rw [hprogram]
    exact h.follows
  · intro f' hnext
    rw [hprogram] at hnext
    exact .inr hnext
  · intro f' hclose
    rw [hclose] at hserve
    exact hserve.elim

theorem Threads.CloseInv.step (h : s.CloseInv) (hok : Releases s l)
    (hstep : (threadsSystem mConfig).step s l = some s') : s'.CloseInv := by
  have hwell : s'.Wellformed := h.wellformed.step hstep
  cases steps_of_step hstep with
  | accept => exact h.opened hok _ _
  | connect => exact h.opened hok _ _
  | receive => exact ⟨hwell, h.older, h.follows, fun hnoted => h.noted hnoted, h.own⟩
  | @call w ch p d e hturn =>
    cases w with
    | client c =>
      obtain ⟨f', hfd⟩ := h.wellformed.exists_fd hturn
      exact h.act_serves nofun (hturn.forall_step (h.wellformed.client hfd)).1 hwell
    | loop => exact h.act_serves nofun (hturn.forall_step (h.wellformed.loop 0)).1 hwell
    | keepAlive =>
      obtain ⟨read, hfollows⟩ := h.follows
      exact h.act_keepAlive hturn hfollows hok (fun f hclose => .inr (hturn.next_close hclose))
        hwell
  | @hangUp c notice hstage =>
    refine ⟨hwell, @fun f c₁ c' hconn hfd hne => ?_, h.follows, h.noted, h.own⟩
    have hended : s.stage c' = .ended := h.older hconn hfd hne
    -- the thread that hangs up has not ended
    have hne' : c' ≠ c := by
      rintro rfl
      rw [hstage] at hended
      cases hended
    exact (Function.update_of_ne hne' _ _).trans hended
  | @socketClose c nFD hstage hfd =>
    refine ⟨hwell, @fun f c₁ c' hconn hfd' hne => ?_, h.follows, @fun f hnoted => ?_,
      fun x hx => ?_⟩
    · rcases eq_or_ne c' c with rfl | hne'
      · exact Function.update_self _ _ _
      · refine (Function.update_of_ne hne' _ _).trans ?_
        exact h.older (Sockets.conn_closeAll.mp hconn).2 hfd' hne
    · rcases conn_closeAll_cases [nFD] f with hnone | hsame
      · exact .inl hnone
      · dsimp only
        rw [hsame]
        exact h.noted hnoted
    · rcases List.mem_append.mp hx with hx | hx
      · exact h.own x hx
      · obtain rfl := List.mem_singleton.mp hx
        cases hconn : s.sockets.conn nFD with
        | none => exact .inl rfl
        | some c₁ =>
          -- were it another connection, this thread would have ended
          refine .inr (congrArg some (by_contra fun hne => ?_))
          have hended := h.older hconn hfd (Ne.symm hne)
          rw [hstage] at hended
          cases hended
  | notice => exact ⟨hwell, h.older, h.follows, fun hnoted => h.noted hnoted, h.own⟩
  | tick _ hturn =>
    -- the first turn of a round reads `vEnquireLink`
    have hfollows : FollowsClose none (enquireLinkRound mConfig) := enquireLinkRound_followsClose
    refine h.act_keepAlive hturn hfollows (fun it hnext => by cases hnext) ?_ hwell
    intro f hclose
    cases hturn.next_close hclose

/-- **Who closes which descriptor.** Every `close` hits the connection it is for, or none, when no
descriptor is given away before everybody who has to close it has done so, and nothing is read
behind the end of `vEnquireLink`. -/
theorem closes_own {ls : List ThreadsLabel}
    (h : (threadsSystem mConfig).RunWhere Releases (threadsSystem mConfig).init ls s) :
    ClosesOwn s := by
  have hinit : (threadsSystem mConfig).init.CloseInv :=
    ⟨wellformed_init, fun hconn => (nomatch hconn), ⟨none, trivial⟩, fun _ => .inl rfl,
      fun _ hx => absurd hx List.not_mem_nil⟩
  have hinv : s.CloseInv := h.invariant (fun _ _ _ hinv hok hstep => hinv.step hok hstep) hinit
  exact hinv.own

end Steps

/-- A client comes and goes. -/
theorem closes_own_client : ∃ s, (threadsSystem aloneConfig).Run (threadsSystem aloneConfig).init
    [.accept 5, .hangUp 0, .socketClose 0] s ∧ ClosesOwn s := by
  have hreleased : (threadsSystem aloneConfig).init.Released 5 :=
    ⟨fun _ _ => rfl, List.not_mem_nil, nofun⟩
  have hrun : ∃ s, (threadsSystem aloneConfig).RunWhere Releases (threadsSystem aloneConfig).init
      [.accept 5, .hangUp 0, .socketClose 0] s :=
    ⟨_, .cons hreleased rfl (.cons trivial rfl (.cons trivial rfl (.nil _)))⟩
  obtain ⟨s, hrun⟩ := hrun
  exact ⟨s, hrun.toRun, closes_own hrun⟩

/-- A client binds a device and is not heard of again. It is asked, then dropped; the next client
gets its descriptor, and the thread of the first closes it. -/
theorem close_hits_newer : ∃ s, (threadsSystem aloneConfig).Run (threadsSystem aloneConfig).init
      (bindOne ++ [.call (.client 0) {}, .call (.client 0) {}, .tick {}] ++
        List.replicate 8 (.call .keepAlive {}) ++ [.tick {}, .call .keepAlive {},
        .call .keepAlive {}, .call .keepAlive {}, .call .keepAlive {}, .call .keepAlive {},
        .accept 5, .hangUp 0, .socketClose 0]) s ∧
    s.closes = [(some 0, some 0), (some 0, some 1)] ∧ ¬ ClosesOwn s := by
  refine ⟨_, LTS.System.run_eq_some_iff.mp rfl, rfl, fun hown => ?_⟩
  have hlast := hown (some 0, some 1) (List.mem_cons_of_mem _ (List.mem_singleton.mpr rfl))
  exact absurd hlast (by decide)

end ControllerSystem.Controller
