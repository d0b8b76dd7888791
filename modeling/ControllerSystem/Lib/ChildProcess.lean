import Mathlib.Data.Fin.Basic

/-!
# Child processes and what `waitpid` reports of them

A child process runs, is stopped or has terminated, and changes its state on its own. Its parent
learns of the changes from `waitpid`, here with `WUNTRACED | WCONTINUED`: each change is noted for
the parent until it is reported or the next one comes, and one call reports one change as a status
word (`StateChange.status`).

`Child.Sound` is what the two have to do with each other: what is noted of a child that has not
terminated is not a termination. It holds of a new child and is kept by every change and report.
-/

namespace ChildProcess

/-- A signal number; there are 64 signals. -/
abbrev Signo := Fin 65

def sighup : Signo := 1
def sigint : Signo := 2
def sigkill : Signo := 9
def sigterm : Signo := 15

/-- A change of the state of a process. -/
inductive StateChange
  | exited (code : Fin 256)
  | killed (signo : Signo) (core : Bool)
  | stopped (signo : Signo)
  | continued
  deriving DecidableEq

namespace StateChange

/-- The status word for a change. -/
def status : StateChange → ℕ
  | .exited code => code * 256
  | .killed signo core => signo + if core then 128 else 0
  | .stopped signo => signo * 256 + 127
  | .continued => 65535

/-- The process does not run any more afterwards. -/
def IsTermination : StateChange → Bool
  | .exited _ => true
  | .killed _ _ => true
  | .stopped _ => false
  | .continued => false

end StateChange

/-- `WTERMSIG`. -/
def wtermsig (status : ℕ) : ℕ := status % 128

inductive RunState
  | running
  | stopped
  | terminated
  deriving DecidableEq

/-- A child process, with the change that its parent has not been told of. -/
structure Child where
  state : RunState
  report : Option StateChange
  deriving DecidableEq

namespace Child

/-- A new process. -/
def start : Child := ⟨.running, none⟩

/-- The process has not terminated. -/
def alive (c : Child) : Bool := c.state != .terminated

/-- A change of the state, where the process can make it. -/
def change (c : Child) : StateChange → Option Child
  | .exited code => if c.state = .running then some ⟨.terminated, some (.exited code)⟩ else none
  | .killed signo core =>
    -- a stopped process can be killed
    if c.state = .terminated then none else some ⟨.terminated, some (.killed signo core)⟩
  | .stopped signo => if c.state = .running then some ⟨.stopped, some (.stopped signo)⟩ else none
  | .continued => if c.state = .stopped then some ⟨.running, some .continued⟩ else none

/-- `kill` with `SIGKILL`; nothing happens to a process that has terminated. -/
def kill (c : Child) : Child := (c.change (.killed sigkill false)).getD c

/-- The change is reported, and noted no longer. -/
def reported (c : Child) : Child := { c with report := none }

/-- A termination is noted only of a process that has terminated. -/
def Sound (c : Child) : Prop :=
  ∀ e, c.report = some e → e.IsTermination = true → c.alive = false

theorem sound_start : start.Sound := nofun

theorem sound_reported (c : Child) : c.reported.Sound := nofun

/-- A change keeps the noted change sound, and revives no process. -/
theorem change_eq_some {c c' : Child} {e : StateChange} (h : c.change e = some c') :
    c'.Sound ∧ c.alive = true := by
  cases e with
  | exited code =>
    obtain ⟨hrun, heq⟩ := Option.ite_none_right_eq_some.mp h
    obtain rfl := Option.some.inj heq
    exact ⟨fun _ _ _ => rfl, by rw [alive, hrun]; rfl⟩
  | killed signo core =>
    obtain ⟨hrun, heq⟩ := Option.ite_none_left_eq_some.mp h
    obtain rfl := Option.some.inj heq
    exact ⟨fun _ _ _ => rfl, bne_iff_ne.mpr hrun⟩
  | stopped signo =>
    obtain ⟨hrun, heq⟩ := Option.ite_none_right_eq_some.mp h
    obtain rfl := Option.some.inj heq
    refine ⟨fun e he hterm => ?_, by rw [alive, hrun]; rfl⟩
    -- what is noted is a stop
    cases he
    cases hterm
  | continued =>
    obtain ⟨hstop, heq⟩ := Option.ite_none_right_eq_some.mp h
    obtain rfl := Option.some.inj heq
    refine ⟨fun e he hterm => ?_, by rw [alive, hstop]; rfl⟩
    cases he
    cases hterm

theorem sound_kill {c : Child} (h : c.Sound) : c.kill.Sound := by
  rw [kill]
  cases hchange : c.change (.killed sigkill false) with
  | none => exact h
  | some c' => exact (change_eq_some hchange).1

/-- A process that has been killed does not run. -/
theorem alive_kill (c : Child) : c.kill.alive = false := by
  rw [kill, change]
  by_cases hterm : c.state = .terminated
  · -- nothing happens, and it did not run before
    rw [if_pos hterm, Option.getD_none, alive, hterm]
    rfl
  · rw [if_neg hterm, Option.getD_some]
    rfl

end Child
end ChildProcess
