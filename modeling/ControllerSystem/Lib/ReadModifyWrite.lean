import ControllerSystem.Lib.LTS
import Mathlib.Data.Bool.Basic
import Mathlib.Logic.Function.Basic

/-!
# Two read-modify-write updates of one cell

Two parties, `false` and `true`, each change a shared cell by reading it and, some time later,
writing back what they read with their own change `f t` made to it. Reads and writes are atomic,
nothing else is.

`cell_eq_both_iff` says when both changes are in the cell after both writes, for changes that
commute: whenever a party wrote what it had read before the other's write, the other's change was
none.
-/

namespace ReadModifyWrite

variable {α : Type}

/-- How far a party is. -/
inductive Phase (α : Type)
  | idle
  | holds (a : α)
  | done

inductive Access
  | read
  | write
  deriving DecidableEq

/-- The cell and the two parties. -/
structure State (α : Type) where
  cell : α
  phase : Bool → Phase α

/-- A party reads while it is idle, and writes what it holds, changed. -/
def step (f : Bool → α → α) (s : State α) : Bool × Access → Option (State α)
  | (t, .read) =>
    match s.phase t with
    | .idle => some { s with phase := Function.update s.phase t (.holds s.cell) }
    | _ => none
  | (t, .write) =>
    match s.phase t with
    -- what is changed is the value read, not the one in the cell by now
    | .holds a => some ⟨f t a, Function.update s.phase t .done⟩
    | _ => none

/-- The two parties around a cell that holds `a`. -/
def system (f : Bool → α → α) (a : α) : LTS.System (State α) (Bool × Access) where
  init := ⟨a, fun _ => .idle⟩
  step := step f

/-- The party wrote what it had read before the other's write. -/
def Stale (t : Bool) (ls : List (Bool × Access)) : Prop :=
  List.Sublist [(t, .read), (!t, .write), (t, .write)] ls

instance (t : Bool) (ls : List (Bool × Access)) : Decidable (Stale t ls) :=
  inferInstanceAs (Decidable (List.Sublist _ _))

section Step

variable {f : Bool → α → α} {s s' : State α} {t : Bool}

theorem step_read_eq_some : step f s (t, .read) = some s' ↔
    s.phase t = .idle ∧ s' = { s with phase := Function.update s.phase t (.holds s.cell) } := by
  cases hphase : s.phase t <;> simp [step, hphase, eq_comm]

theorem step_write_eq_some : step f s (t, .write) = some s' ↔
    ∃ a, s.phase t = .holds a ∧ s' = ⟨f t a, Function.update s.phase t .done⟩ := by
  cases hphase : s.phase t <;> simp [step, hphase, eq_comm]

end Step

variable {f : Bool → α → α} {a : α} {s s' : State α} {ls : List (Bool × Access)} {t : Bool}

/-! ### The schedules of two updates -/

theorem eq_or_eq_not (t u : Bool) : u = t ∨ u = !t := by cases u <;> cases t <;> simp

/-- What is known of both parties is known of each. -/
theorem phase_cases {P : Bool → Phase α → Prop} {phase : Bool → Phase α} (t : Bool)
    (ht : P t (phase t)) (hother : P (!t) (phase (!t))) (u : Bool) : P u (phase u) := by
  obtain rfl | rfl := eq_or_eq_not t u
  · exact ht
  · exact hother

/-- From where both are done, nothing happens. -/
theorem run_done (hphase : ∀ t, s.phase t = .done) (h : (system f a).Run s ls s') :
    ls = [] ∧ s' = s := by
  cases h with
  | nil => exact ⟨rfl, rfl⟩
  | @cons _ l _ _ _ _ hstep _ =>
    -- no access of a party that is done is enabled
    obtain ⟨t, act⟩ := l
    cases act with
    | read => simp [step_read_eq_some, system, hphase] at hstep
    | write => simp [step_write_eq_some, system, hphase] at hstep

/-- One party is done, the other one holds a value: it writes. -/
theorem run_holds {b : α} (ht : s.phase t = .done) (hother : s.phase (!t) = .holds b)
    (h : (system f a).Run s ls s') (hdone : ∀ u, s'.phase u = .done) :
    ls = [(!t, .write)] ∧ s'.cell = f (!t) b := by
  cases h with
  | nil => exact absurd (hother.symm.trans (hdone (!t))) (by simp)
  | @cons _ l s₁ ls _ _ hstep hrest =>
    change step f s l = some s₁ at hstep
    obtain ⟨u, act⟩ := l
    obtain rfl | rfl := eq_or_eq_not t u
    · cases act <;> simp [step_read_eq_some, step_write_eq_some, ht] at hstep
    cases act with
    | read => simp [step_read_eq_some, hother] at hstep
    | write =>
      obtain ⟨b', hb, rfl⟩ := step_write_eq_some.mp hstep
      obtain rfl : b = b' := Phase.holds.inj (hother.symm.trans hb)
      -- both are done by now, so this was the last access
      have hall : ∀ u, Function.update s.phase (!t) .done u = Phase.done :=
        phase_cases (P := fun _ p => p = .done) t (by simp [ht]) (by simp)
      obtain ⟨rfl, rfl⟩ := run_done hall hrest
      exact ⟨rfl, rfl⟩

/-- One party is done, the other one idle: it reads and writes. -/
theorem run_idle (ht : s.phase t = .done) (hother : s.phase (!t) = .idle)
    (h : (system f a).Run s ls s') (hdone : ∀ u, s'.phase u = .done) :
    ls = [(!t, .read), (!t, .write)] ∧ s'.cell = f (!t) s.cell := by
  cases h with
  | nil => exact absurd (hother.symm.trans (hdone (!t))) (by simp)
  | @cons _ l s₁ ls _ _ hstep hrest =>
    change step f s l = some s₁ at hstep
    obtain ⟨u, act⟩ := l
    obtain rfl | rfl := eq_or_eq_not t u
    · cases act <;> simp [step_read_eq_some, step_write_eq_some, ht] at hstep
    cases act with
    | read =>
      obtain ⟨-, rfl⟩ := step_read_eq_some.mp hstep
      -- it holds the cell's value now, and the write is what is left
      obtain ⟨rfl, hcell⟩ := run_holds (t := t) (b := s.cell) (by simp [ht]) (by simp) hrest hdone
      exact ⟨rfl, hcell⟩
    | write => simp [step_write_eq_some, hother] at hstep

/-- Both hold one value: they write in some order. -/
theorem run_both_hold {b : α} (hphase : ∀ u, s.phase u = .holds b)
    (h : (system f a).Run s ls s') (hdone : ∀ u, s'.phase u = .done) :
    ∃ u, ls = [(u, .write), (!u, .write)] ∧ s'.cell = f (!u) b := by
  cases h with
  | nil => simp [hphase] at hdone
  | @cons _ l s₁ ls _ _ hstep hrest =>
    change step f s l = some s₁ at hstep
    obtain ⟨u, act⟩ := l
    cases act with
    | read => simp [step_read_eq_some, hphase] at hstep
    | write =>
      obtain ⟨b', hb, rfl⟩ := step_write_eq_some.mp hstep
      obtain rfl : b = b' := Phase.holds.inj ((hphase u).symm.trans hb)
      -- the one that writes last overwrites this with its change to the same value
      obtain ⟨rfl, hcell⟩ := run_holds (t := u) (b := b) (by simp) (by simp [hphase]) hrest hdone
      exact ⟨u, rfl, hcell⟩

/-- **The schedules.** Two updates that are done were made one after the other, or both read the
first value. -/
theorem complete_run (h : (system f a).Run (system f a).init ls s)
    (hdone : ∀ t, s.phase t = .done) : ∃ t,
    (ls = [(t, .read), (t, .write), (!t, .read), (!t, .write)] ∧ s.cell = f (!t) (f t a)) ∨
    ∃ u, ls = [(t, .read), (!t, .read), (u, .write), (!u, .write)] ∧ s.cell = f (!u) a := by
  cases h with
  | nil => simp [system] at hdone
  | @cons _ l s₁ ls _ _ hstep hrest =>
    obtain ⟨t, act⟩ := l
    cases act with
    | write => simp [step_write_eq_some, system] at hstep
    | read =>
      change step f ⟨a, fun _ => .idle⟩ (t, .read) = some s₁ at hstep
      obtain ⟨-, rfl⟩ := step_read_eq_some.mp hstep
      refine ⟨t, ?_⟩
      -- `t` has read first: the schedules differ in the second access
      cases hrest with
      | nil => simpa using hdone (!t)
      | @cons _ l s₂ ls _ _ hstep hrest =>
        change step f _ l = some s₂ at hstep
        obtain ⟨u, act⟩ := l
        obtain rfl | rfl := eq_or_eq_not t u
        · -- `t` writes before the other one has read
          cases act with
          | read => simp [step_read_eq_some] at hstep
          | write =>
            obtain ⟨b, hb, rfl⟩ := step_write_eq_some.mp hstep
            obtain rfl : a = b := by simpa using hb
            obtain ⟨rfl, hcell⟩ := run_idle (t := u) (by simp) (by simp) hrest hdone
            exact .inl ⟨rfl, hcell⟩
        · -- the other one reads what `t` has read
          cases act with
          | write => simp [step_write_eq_some] at hstep
          | read =>
            obtain ⟨-, rfl⟩ := step_read_eq_some.mp hstep
            obtain ⟨u, rfl, hcell⟩ := run_both_hold (b := a)
              (phase_cases (P := fun _ p => p = .holds a) t (by simp) (by simp))
              hrest hdone
            exact .inr ⟨u, rfl, hcell⟩

/-! ### Both changes -/

/-- **When no update is lost.** For changes that commute, the cell holds both changes if and only
if the change of a party is none whenever the other one wrote what it had read before. -/
theorem cell_eq_both_iff (hcomm : ∀ b, f true (f false b) = f false (f true b))
    (h : (system f a).Run (system f a).init ls s) (hdone : ∀ t, s.phase t = .done) :
    s.cell = f true (f false a) ↔ ∀ t, Stale t ls → f t a = f t (f (!t) a) := by
  -- for commuting changes both orders give one value
  have hboth : ∀ t, f true (f false a) = f (!t) (f t a) := by
    intro t
    cases t
    · rfl
    · exact hcomm a
  obtain ⟨t, ⟨rfl, hcell⟩ | ⟨u, rfl, hcell⟩⟩ := complete_run h hdone
  · -- one after the other: nobody is stale
    refine iff_of_true (hcell.trans (hboth t).symm) fun u hstale => absurd hstale ?_
    cases t <;> cases u <;> decide
  · -- both read `a`, and the last one to write is stale
    have hstale : ∀ v, Stale v [(t, .read), (!t, .read), (u, .write), (!u, .write)] ↔ v = !u := by
      intro v
      cases t <;> cases u <;> cases v <;> decide
    rw [hcell, hboth u]
    constructor
    · intro heq v hv
      obtain rfl := (hstale v).mp hv
      simpa using heq
    · intro hall
      simpa using hall (!u) ((hstale _).mpr rfl)

end ReadModifyWrite
