import ControllerSystem.Lib.LTS

/-!
# A mailbox with several takers

A first-in first-out queue that items are put into at one end and taken from at the other. Whoever
takes an item gets the oldest one, whatever it is; the state notes who has taken what.

Nothing but the order says who gets which item: the `k`-th taker has taken the `k`-th item that was
put in (`taken_eq_zip`).
-/

namespace Mailbox

variable {α ρ : Type}

inductive Op (α ρ : Type)
  /-- An item comes in. -/
  | put (a : α)
  /-- Somebody takes the oldest item. -/
  | take (r : ρ)

structure State (α ρ : Type) where
  queue : List α
  /-- Who has taken which item, in order. -/
  taken : List (ρ × α)

def step (s : State α ρ) : Op α ρ → Option (State α ρ)
  | .put a => some { s with queue := s.queue ++ [a] }
  | .take r =>
    match s.queue with
    | [] => none
    | a :: rest => some ⟨rest, s.taken ++ [(r, a)]⟩

/-- The mailbox, empty at first. -/
def system (α ρ : Type) : LTS.System (State α ρ) (Op α ρ) where
  init := ⟨[], []⟩
  step := step

/-- The item that comes in, if one does. -/
def Op.item? : Op α ρ → Option α
  | .put a => some a
  | .take _ => none

/-- Who takes an item, if somebody does. -/
def Op.taker? : Op α ρ → Option ρ
  | .put _ => none
  | .take r => some r

/-- The items put in, in order. -/
def items (ls : List (Op α ρ)) : List α := ls.filterMap Op.item?

/-- Those who took an item, in order. -/
def takers (ls : List (Op α ρ)) : List ρ := ls.filterMap Op.taker?

@[simp] theorem items_put (a : α) (ls : List (Op α ρ)) : items (.put a :: ls) = a :: items ls := rfl

@[simp] theorem items_take (r : ρ) (ls : List (Op α ρ)) : items (.take r :: ls) = items ls := rfl

@[simp] theorem takers_put (a : α) (ls : List (Op α ρ)) : takers (.put a :: ls) = takers ls := rfl

@[simp] theorem takers_take (r : ρ) (ls : List (Op α ρ)) :
    takers (.take r :: ls) = r :: takers ls := rfl

section Steps

variable {s s' : State α ρ} {ls : List (Op α ρ)}

theorem step_take_eq_some {r : ρ} : step s (.take r) = some s' ↔
    ∃ a rest, s.queue = a :: rest ∧ s' = ⟨rest, s.taken ++ [(r, a)]⟩ := by
  cases hqueue : s.queue <;> simp [step, hqueue, eq_comm]

/-- What is taken in a run from a queue that need not be empty at first. -/
theorem taken_of_run (h : (system α ρ).Run s ls s') :
    s'.taken = s.taken ++ (takers ls).zip (s.queue ++ items ls) := by
  induction h with
  | nil s => exact (List.append_nil _).symm
  | @cons s l s₁ ls s₂ _ hstep _ ih =>
    cases l with
    | put a =>
      cases hstep
      -- the item is behind the others, and before those of the rest
      rw [items_put, takers_put, List.append_cons]
      exact ih
    | take r =>
      obtain ⟨a, rest, hcons, rfl⟩ := step_take_eq_some.mp hstep
      rw [items_take, takers_take, hcons, ih]
      exact List.append_assoc ..

end Steps

variable {s : State α ρ} {ls : List (Op α ρ)}

/-- **Takers and items in order.** The `k`-th taker has taken the `k`-th item. -/
theorem taken_eq_zip (h : (system α ρ).Run (system α ρ).init ls s) :
    s.taken = (takers ls).zip (items ls) := taken_of_run h

end Mailbox
