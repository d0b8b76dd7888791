import ControllerSystem.Lib.ChildProcess
import ControllerSystem.Lib.LTS

/-!
# The parent process

Every program of the system starts as two processes: the child runs the service, and the parent
watches it in `Watching`, a loop that forks a child, waits for a change of its state and goes on
unless the child was killed by `SIGTERM` or the parent was told to stop. `PSigHander` handles the
signals to the parent: it sets `flag` and kills the child.

The parent is a state machine with the phases of its loop. The signals and the changes of its
children come between any two of its steps. The parent knows its latest child only, by `child_pid`.
-/

open ChildProcess

namespace ControllerSystem

/-- Where the parent stands in the loop. -/
inductive WatchPhase
  /-- Before `fork`. -/
  | fork
  /-- At `waitpid`, with the handlers that are to be installed first. -/
  | waitpid (todo : List Signo)
  /-- Behind `waitpid`: the message queue is closed, and the condition of the loop comes next. -/
  | condition (status : ℕ)
  /-- The parent has ended. -/
  | exited
  deriving DecidableEq

structure Watch where
  phase : WatchPhase
  /-- The signals `PSigHander` is installed for. -/
  installed : List Signo
  flag : Bool
  /-- The children, the one `child_pid` names first. -/
  children : List Child
  deriving DecidableEq

inductive WatchLabel
  /-- `fork`, which may fail. -/
  | fork (ok : Bool)
  /-- A call of `signal`. -/
  | install
  /-- `waitpid` reports a change of the child. -/
  | report
  /-- `waitpid` fails. -/
  | waitError
  /-- The condition of the loop is evaluated. -/
  | condition
  /-- The parent gets a signal. -/
  | signal (signo : Signo)
  /-- A child changes its state; they are counted from the latest. -/
  | change (i : ℕ) (e : StateChange)
  deriving DecidableEq

/-- `PSigHander`. -/
def pSigHander (s : Watch) (signo : Signo) : Watch :=
  if signo = sighup then s
  else
    { s with
      flag := true
      -- `child_pid` is the latest child, if there is any
      children := s.children.head?.toList.map Child.kill ++ s.children.tail }

/-- A step of `Watching`, of its children or of a signal. -/
def watchStep (s : Watch) : WatchLabel → Option Watch
  | .fork ok =>
    if s.phase = .fork then
      if ok then
        some { s with
          phase := .waitpid [sigint, sigterm, sighup]
          children := .start :: s.children }
      else some { s with phase := .exited }
    else none
  | .install =>
    match s.phase with
    | .waitpid (signo :: todo) =>
      some { s with phase := .waitpid todo, installed := signo :: s.installed }
    | _ => none
  | .report =>
    match s.phase, s.children with
    | .waitpid [], child :: earlier =>
      child.report.map fun e =>
        { s with phase := .condition e.status, children := child.reported :: earlier }
    | _, _ => none
  | .waitError => if s.phase = .waitpid [] then some { s with phase := .exited } else none
  | .condition =>
    match s.phase with
    | .condition status =>
      if sigterm ≠ wtermsig status ∧ !s.flag then some { s with phase := .fork }
      else some { s with phase := .exited }
    | _ => none
  | .signal signo =>
    if s.phase = .exited then none
    else if signo ∈ s.installed then some (pSigHander s signo)
    -- the default action of the three signals ends the parent
    else if signo ∈ [sighup, sigint, sigterm] then some { s with phase := .exited }
    else none
  | .change i e =>
    (s.children[i]?).bind fun child => (child.change e).map fun child' =>
      { s with children := s.children.set i child' }

/-- `Watching`. -/
def watching : LTS.System Watch WatchLabel where
  init := ⟨.fork, [], false, []⟩
  step := watchStep

/-! ### What a step can do -/

section Steps

variable {s s' : Watch}

theorem watchStep_fork {ok : Bool} (h : watchStep s (.fork ok) = some s') :
    s.phase = .fork ∧ (ok = true ∧ s' = { s with
        phase := .waitpid [sigint, sigterm, sighup], children := .start :: s.children } ∨
      ok = false ∧ s' = { s with phase := .exited }) := by
  obtain ⟨hphase, h⟩ := Option.ite_none_right_eq_some.mp h
  cases ok with
  | true => exact ⟨hphase, .inl ⟨rfl, (Option.some.inj h).symm⟩⟩
  | false => exact ⟨hphase, .inr ⟨rfl, (Option.some.inj h).symm⟩⟩

theorem watchStep_install (h : watchStep s .install = some s') :
    ∃ signo todo, s.phase = .waitpid (signo :: todo) ∧
      s' = { s with phase := .waitpid todo, installed := signo :: s.installed } := by
  simp only [watchStep] at h
  split at h
  · next signo todo hphase => exact ⟨signo, todo, hphase, (Option.some.inj h).symm⟩
  · cases h

theorem watchStep_report (h : watchStep s .report = some s') :
    ∃ child earlier e, s.phase = .waitpid [] ∧ s.children = child :: earlier ∧
      child.report = some e ∧
      s' = { s with phase := .condition e.status, children := child.reported :: earlier } := by
  simp only [watchStep] at h
  split at h
  · next child earlier hphase hchildren =>
    obtain ⟨e, he, rfl⟩ := Option.map_eq_some_iff.mp h
    exact ⟨child, earlier, e, hphase, hchildren, he, rfl⟩
  · cases h

theorem watchStep_condition (h : watchStep s .condition = some s') :
    ∃ status, s.phase = .condition status ∧
      (s' = { s with phase := .fork } ∧ s.flag = false ∨ s' = { s with phase := .exited }) := by
  simp only [watchStep] at h
  split at h
  · next status hphase =>
    split at h
    · next hcond =>
      have hflag : s.flag = false := by simpa using hcond.2
      exact ⟨status, hphase, .inl ⟨(Option.some.inj h).symm, hflag⟩⟩
    · exact ⟨status, hphase, .inr (Option.some.inj h).symm⟩
  · cases h

theorem watchStep_signal {signo : Signo} (h : watchStep s (.signal signo) = some s') :
    signo ∈ s.installed ∧ s' = pSigHander s signo ∨ s' = { s with phase := .exited } := by
  obtain ⟨-, h⟩ := Option.ite_none_left_eq_some.mp h
  split at h
  · next hmem => exact .inl ⟨hmem, (Option.some.inj h).symm⟩
  · obtain ⟨-, h⟩ := Option.ite_none_right_eq_some.mp h
    exact .inr (Option.some.inj h).symm

theorem watchStep_change {i : ℕ} {e : StateChange} (h : watchStep s (.change i e) = some s') :
    ∃ child child', s.children[i]? = some child ∧ child.change e = some child' ∧
      s' = { s with children := s.children.set i child' } := by
  obtain ⟨child, hchild, h⟩ := Option.bind_eq_some_iff.mp h
  obtain ⟨child', hchange, rfl⟩ := Option.map_eq_some_iff.mp h
  exact ⟨child, child', hchild, hchange, rfl⟩

end Steps

/-! ### One child at a time -/

/-- The children the parent does not wait for have terminated, all of them have before the next
one is forked, and the parent forks only when it was not told to stop. When it was, it does not
matter any more what its last report was. -/
structure Supervised (s : Watch) : Prop where
  sound : ∀ c ∈ s.children, c.Sound
  earlier : ∀ c ∈ s.children.tail, c.alive = false
  ended : (s.phase = .fork ∨ ∃ status, s.phase = .condition status) → s.flag = false →
    ∀ c ∈ s.children, c.alive = false
  unset : s.phase = .fork → s.flag = false

/-- What `waitpid` reports before the parent was told to stop is that the child has terminated,
and no signal tells it to stop between the condition of the loop and `fork`. -/
def Orderly (s : Watch) : WatchLabel → Prop
  | .report => s.flag = false → ∀ child e, s.children.head? = some child →
      child.report = some e → e.IsTermination = true
  | .signal signo => s.phase = .fork → signo ∈ s.installed → signo = sighup
  | _ => True

namespace Supervised

theorem init : Supervised watching.init :=
  ⟨fun _ hc => absurd hc List.not_mem_nil, fun _ hc => absurd hc List.not_mem_nil,
    fun _ _ _ hc => absurd hc List.not_mem_nil, fun _ => rfl⟩

variable {s s' : Watch}

/-- The parent ends. -/
theorem exit (h : Supervised s) : Supervised { s with phase := .exited } where
  sound := h.sound
  earlier := h.earlier
  ended := by
    rintro (hphase | ⟨status, hphase⟩)
    · cases hphase
    · cases hphase
  unset := nofun

/-- The parent waits for its child. -/
theorem waitpid (h : Supervised s) (todo : List Signo) (installed : List Signo) :
    Supervised { s with phase := .waitpid todo, installed := installed } where
  sound := h.sound
  earlier := h.earlier
  ended := by
    rintro (hphase | ⟨status, hphase⟩)
    · cases hphase
    · cases hphase
  unset := nofun

/-- A child is forked when all others have terminated. -/
theorem fork (h : Supervised s) (hphase : s.phase = .fork) :
    Supervised { s with
      phase := .waitpid [sigint, sigterm, sighup], children := .start :: s.children } where
  sound := List.forall_mem_cons.mpr ⟨Child.sound_start, h.sound⟩
  earlier := h.ended (.inl hphase) (h.unset hphase)
  ended := by
    rintro (hphase | ⟨status, hphase⟩)
    · cases hphase
    · cases hphase
  unset := nofun

/-- The termination of the child is reported. -/
theorem report (h : Supervised s) {child : Child} {earlier : List Child} {e : StateChange}
    (hchildren : s.children = child :: earlier) (he : child.report = some e)
    (hterm : s.flag = false → e.IsTermination = true) :
    Supervised { s with phase := .condition e.status, children := child.reported :: earlier } := by
  obtain ⟨hsound, hearlier, -, -⟩ := h
  rw [hchildren] at hsound hearlier
  obtain ⟨hchild, hsound⟩ := List.forall_mem_cons.mp hsound
  refine ⟨List.forall_mem_cons.mpr ⟨child.sound_reported, hsound⟩, hearlier,
    fun _ hflag => ?_, nofun⟩
  -- a noted termination is one
  have hdead : child.alive = false := hchild e he (hterm hflag)
  exact List.forall_mem_cons.mpr ⟨hdead, hearlier⟩

/-- The condition of the loop holds. -/
theorem again (h : Supervised s) {status : ℕ} (hphase : s.phase = .condition status)
    (hflag : s.flag = false) : Supervised { s with phase := .fork } where
  sound := h.sound
  earlier := h.earlier
  ended _ := h.ended (.inr ⟨status, hphase⟩)
  unset _ := hflag

/-- The child is killed from the handler. -/
theorem kill (h : Supervised s) (hphase : s.phase ≠ .fork) :
    Supervised { s with
      flag := true, children := s.children.head?.toList.map Child.kill ++ s.children.tail } := by
  obtain ⟨hsound, hearlier, hended, -⟩ := h
  cases hchildren : s.children with
  | nil =>
    refine ⟨fun _ hc => absurd hc List.not_mem_nil, fun _ hc => absurd hc List.not_mem_nil,
      fun _ _ _ hc => absurd hc List.not_mem_nil, fun hfork => absurd hfork hphase⟩
  | cons child earlier =>
    rw [hchildren] at hsound hearlier
    obtain ⟨hchild, hsound⟩ := List.forall_mem_cons.mp hsound
    exact ⟨List.forall_mem_cons.mpr ⟨Child.sound_kill hchild, hsound⟩, hearlier,
      fun _ _ => List.forall_mem_cons.mpr ⟨child.alive_kill, hearlier⟩,
      fun hfork => absurd hfork hphase⟩

/-- A child changes its state: only the latest one can. -/
theorem change (h : Supervised s) {i : ℕ} {child child' : Child} {e : StateChange}
    (hi : s.children[i]? = some child) (hchange : child.change e = some child') :
    Supervised { s with children := s.children.set i child' } := by
  obtain ⟨hsound', halive⟩ := Child.change_eq_some hchange
  have hmem : child ∈ s.children := List.mem_of_getElem? hi
  refine ⟨fun c hc => ?_, ?_, fun hphase hflag => ?_, h.unset⟩
  · rcases List.mem_or_eq_of_mem_set hc with hc | rfl
    · exact h.sound c hc
    · exact hsound'
  · cases i with
    | zero =>
      have htail : (s.children.set 0 child').tail = s.children.tail := by
        cases s.children with
        | nil => rfl
        | cons _ _ => rfl
      rw [htail]
      exact h.earlier
    | succ i =>
      -- an earlier child has terminated, and changes no more
      have htail : child ∈ s.children.tail := by
        rw [← List.getElem?_tail] at hi
        exact List.mem_of_getElem? hi
      rw [h.earlier child htail] at halive
      cases halive
  · rw [h.ended hphase hflag child hmem] at halive
    cases halive

/-- An orderly step keeps the children supervised. -/
theorem step (h : Supervised s) {l : WatchLabel} (hok : Orderly s l)
    (hstep : watching.step s l = some s') : Supervised s' := by
  cases l with
  | fork ok =>
    obtain ⟨hphase, ⟨-, rfl⟩ | ⟨-, rfl⟩⟩ := watchStep_fork hstep
    · exact h.fork hphase
    · exact h.exit
  | install =>
    obtain ⟨signo, todo, -, rfl⟩ := watchStep_install hstep
    exact h.waitpid todo _
  | report =>
    obtain ⟨child, earlier, e, -, hchildren, he, rfl⟩ := watchStep_report hstep
    exact h.report hchildren he fun hflag => hok hflag child e (by rw [hchildren]; rfl) he
  | waitError =>
    obtain ⟨-, heq⟩ := Option.ite_none_right_eq_some.mp hstep
    obtain rfl := Option.some.inj heq
    exact h.exit
  | condition =>
    obtain ⟨status, hphase, ⟨rfl, hflag⟩ | rfl⟩ := watchStep_condition hstep
    · exact h.again hphase hflag
    · exact h.exit
  | signal signo =>
    rcases watchStep_signal hstep with ⟨hmem, rfl⟩ | rfl
    · rw [pSigHander]
      split
      · exact h
      · next hother => exact h.kill fun hphase => hother (hok hphase hmem)
    · exact h.exit
  | change i e =>
    obtain ⟨child, child', hi, hchange, rfl⟩ := watchStep_change hstep
    exact h.change hi hchange

/-- At most the latest child is alive. -/
theorem length_alive_le (h : Supervised s) : (s.children.filter Child.alive).length ≤ 1 := by
  have hearlier := h.earlier
  cases hchildren : s.children with
  | nil => exact Nat.zero_le 1
  | cons child earlier =>
    rw [hchildren] at hearlier
    have hnone : earlier.filter Child.alive = [] :=
      List.filter_eq_nil_iff.mpr fun c hc => by rw [hearlier c hc]; exact Bool.false_ne_true
    calc ((child :: earlier).filter Child.alive).length
        ≤ (earlier.filter Child.alive).length + 1 := by
          rw [List.filter_cons]
          split
          · exact Nat.le_refl _
          · exact Nat.le_succ _
      _ = 1 := by rw [hnone, List.length_nil]

end Supervised

/-- **One child at a time.** In every run in which `waitpid` reports nothing but terminations
before the parent was told to stop, and no signal tells it to stop between the condition of its
loop and `fork`, at most one child is alive at any time, and a child is forked only when all others
have terminated and `flag` is not set. -/
theorem watching_one_child (ls : List WatchLabel) (s : Watch)
    (hrun : watching.RunWhere Orderly watching.init ls s) :
    (s.children.filter Child.alive).length ≤ 1 ∧
      ∀ s', watching.step s (.fork true) = some s' →
        (∀ c ∈ s.children, c.alive = false) ∧ s.flag = false := by
  have h : Supervised s :=
    hrun.invariant (fun _ _ _ hs hok hstep => hs.step hok hstep) Supervised.init
  refine ⟨h.length_alive_le, fun s' hstep => ?_⟩
  obtain ⟨hphase, -⟩ := watchStep_fork hstep
  exact ⟨h.ended (.inl hphase) (h.unset hphase), h.unset hphase⟩

/-- A child that is forked, exits, and is reported. -/
def restartRun : List WatchLabel :=
  [.fork true, .install, .install, .install, .change 0 (.exited 1), .report, .condition]

theorem watching_one_child_restart :
    (([⟨.terminated, none⟩] : List Child).filter Child.alive).length ≤ 1 ∧
      ∀ s', watching.step ⟨.fork, [sighup, sigterm, sigint], false, [⟨.terminated, none⟩]⟩
          (.fork true) = some s' →
        (∀ c ∈ ([⟨.terminated, none⟩] : List Child), c.alive = false) ∧ false = false :=
  watching_one_child restartRun
    ⟨.fork, [sighup, sigterm, sigint], false, [⟨.terminated, none⟩]⟩
    (.cons trivial rfl <| .cons trivial rfl <| .cons trivial rfl <| .cons trivial rfl <|
      .cons trivial rfl <| .cons (fun _ _ _ hc he => by cases hc; cases he; rfl) rfl <|
      .cons trivial rfl <| .nil _)

/-- A child that is stopped, and one that is forked after the parent was told to stop: the parent
takes the first report for the end of the child, and does not look at `flag` again. -/
theorem watching_forks_again :
    watching.Run watching.init
      [.fork true, .install, .install, .install, .change 0 (.stopped 19), .report, .condition,
        .fork true]
      ⟨.waitpid [sigint, sigterm, sighup], [sighup, sigterm, sigint], false,
        [⟨.running, none⟩, ⟨.stopped, none⟩]⟩ ∧
    watching.Run watching.init
      [.fork true, .install, .install, .install, .change 0 (.exited 1), .report, .condition,
        .signal sigterm, .fork true]
      ⟨.waitpid [sigint, sigterm, sighup], [sighup, sigterm, sigint], true,
        [⟨.running, none⟩, ⟨.terminated, none⟩]⟩ ∧
    ¬ (([⟨.running, none⟩, ⟨.stopped, none⟩] : List Child).filter Child.alive).length ≤ 1 :=
  ⟨LTS.System.run_eq_some_iff.mp rfl, LTS.System.run_eq_some_iff.mp rfl, by decide⟩

end ControllerSystem
