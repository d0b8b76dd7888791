import ControllerSystem.Lib.Words

/-!
# Functions that walk over a text

A function that reads a NUL-terminated text takes a pointer into it and returns the pointer behind
what it has read. The text at a pointer is what the bytes are from there to the terminator, so a
pointer further on is a suffix.

* `Outcome` — such a function returns, or fails and leaves an error pointer, or touches memory
  outside its text and its buffers; one whose recursion is bounded from outside may be stopped.
* `Outcome.Ends` — what is known of an outcome, with the rules for `pure` and `bind`. It is never
  stopped.
-/

open Words

namespace TextPointer

/-- How a function that walks over a text ends. -/
inductive Outcome (α : Type)
  | done (a : α)
  /-- It fails; the text at the error pointer. -/
  | failed (ep : Bytes)
  /-- An access outside the text or outside a buffer. -/
  | undefined
  /-- The recursion has not come to its end. -/
  | outOfFuel
  deriving DecidableEq

namespace Outcome

variable {α β : Type}

/-- Go on from where a call has returned. -/
def bind : Outcome α → (α → Outcome β) → Outcome β
  | done a, f => f a
  | failed ep, _ => failed ep
  | undefined, _ => undefined
  | outOfFuel, _ => outOfFuel

instance : Monad Outcome where
  pure := done
  bind := bind

@[simp] theorem done_bind (a : α) (f : α → Outcome β) : (done a >>= f) = f a := rfl

/-- The outcome is a value with `P`, or a failure with an error pointer in `E`, or undefined
behaviour, and then `U` holds. -/
def Ends (P : α → Prop) (E : Bytes → Prop) (U : Prop) : Outcome α → Prop
  | done a => P a
  | failed ep => E ep
  | undefined => U
  | outOfFuel => False

variable {P P' : α → Prop} {Q : β → Prop} {E E' : Bytes → Prop} {U U' : Prop}

theorem Ends.mono {x : Outcome α} (hx : x.Ends P E U) (hP : ∀ a, P a → P' a)
    (hE : ∀ ep, E ep → E' ep) (hU : U → U') : x.Ends P' E' U' := by
  cases x with
  | done a => exact hP a hx
  | failed ep => exact hE ep hx
  | undefined => exact hU hx
  | outOfFuel => exact hx

/-- What is known of a call, and of what is done with its result. -/
theorem Ends.bind {x : Outcome α} {f : α → Outcome β} (hx : x.Ends P E U)
    (hf : ∀ a, P a → (f a).Ends Q E U) : (x >>= f).Ends Q E U := by
  cases x with
  | done a => exact hf a hx
  | failed ep => exact hx
  | undefined => exact hx
  | outOfFuel => exact hx

end Outcome

/-! ### Pointers -/

/-- The byte a pointer points to: the terminator at the end of the text. -/
def peek (t : Bytes) : UInt8 := t.headD 0

@[simp] theorem peek_cons (b : UInt8) (t : Bytes) : peek (b :: t) = b := rfl

/-- `strncmp` finds no difference in the length of a word. -/
def startsWith (word t : Bytes) : Bool := t.take word.length == word

theorem startsWith_cons_of_ne {b c : UInt8} (h : b ≠ c) (word t : Bytes) :
    startsWith (b :: word) (c :: t) = false := by
  simp [startsWith, h.symm]

/-- The word a text starts with is a part of the text. -/
theorem startsWith_iff {word t : Bytes} : startsWith word t = true ↔ word <+: t := by
  rw [startsWith, beq_iff_eq, List.prefix_iff_eq_take, eq_comm]

end TextPointer
