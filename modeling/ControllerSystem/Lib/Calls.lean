import Mathlib.Algebra.GroupWithZero.Nat
import Mathlib.Data.List.Basic

/-!
# Programs that make external calls

A `Prog Call Res α` is a program that computes, makes calls of the kinds `Call` on its environment,
goes on from what they return (a call `c` returns a `Res c`), and ends with an `α`. It is a tree, so
a program that has been stopped before one of its calls is again a program: a thread of a
concurrent system is what is left of its program.

There are ten ways to read a program.

* `Prog.Exec p tr a` — the program `p` makes the calls `tr`, with the results noted there, and
  returns `a`. Nothing is said about the environment: every result is possible.
* `Prog.eval answer p` — what the program returns where every call is answered by a function.
* `Prog.runIn answer p s chs` — the program runs in an environment with a state, without
  interruption; `answer s c ch` is what the environment in state `s` returns to the call `c` and
  the state it goes to, for the choice `ch` of whatever it leaves open.
* `Prog.Forall P p` — every call the program may make, on whatever path, satisfies `P`. With
  `runIn_invariant`, a property of the state kept by those calls is kept by the program.
* `Prog.ForallOn ok P p` — every call on a path along which all results are `ok` satisfies `P`:
  `forallOn_iff` says this of the executions.
* `Prog.Meets P p` — on every path some call satisfies `P`: a thread stopped before it still has it
  to make.
* `Prog.Emits f S p` — on every path the list the calls emit is in `S`, where `f` is what one call
  emits; `Prog.Costs f w n p` bounds its weight.
* `Prog.Timely ok f p` — on every path all that the calls emit is emitted before the first call that
  is not `ok`, where the path may as well end (`upTo`).
* `Prog.EmitsUpTo good ok f fin S p` — on every path whose results are `good` and whose end is in
  `fin`, what the calls before the first that is not `ok` emit is in `S`.
* `Prog.Follows δ ok fin q p` — on every path the calls of `p` and their results follow the
  automaton `δ` from the state `q`, and end in a state of `fin`; a path ends where a result is not
  `ok`. `stepIn` runs a single call, and `Follows.step` takes the automaton along, so this is what
  is known of a thread that has been stopped between two calls.
-/

namespace Calls

/-- A program with calls. -/
inductive Prog (Call : Type) (Res : Call → Type) (α : Type) : Type
  | ret (a : α)
  | call (c : Call) (k : Res c → Prog Call Res α)

namespace Prog

variable {Call : Type} {Res : Call → Type} {α β : Type}

/-- Run a second program on the result of a first. -/
def bind : Prog Call Res α → (α → Prog Call Res β) → Prog Call Res β
  | .ret a, f => f a
  | .call c k, f => .call c fun r => bind (k r) f

instance : Monad (Prog Call Res) where
  pure := .ret
  bind := bind

@[simp] theorem pure_eq_ret (a : α) : (pure a : Prog Call Res α) = .ret a := rfl

@[simp] theorem bind_eq (p : Prog Call Res α) (f : α → Prog Call Res β) :
    p.bind f = (p >>= f) := rfl

@[simp] theorem ret_bind (a : α) (f : α → Prog Call Res β) : (.ret a >>= f) = f a := rfl

@[simp] theorem call_bind (c : Call) (k : Res c → Prog Call Res α) (f : α → Prog Call Res β) :
    (.call c k >>= f) = .call c fun r => k r >>= f := rfl

/-! ### Executions with arbitrary results -/

theorem bind_assoc {γ : Type} (p : Prog Call Res α) (f : α → Prog Call Res β)
    (g : β → Prog Call Res γ) :
    (p >>= f) >>= g = p >>= fun a => f a >>= g := by
  induction p with
  | ret a => rfl
  | call c k ih => exact congrArg (Prog.call c) (funext ih)

/-- A call together with what it returned. -/
abbrev Event (Call : Type) (Res : Call → Type) := (c : Call) × Res c

/-- The program makes the calls of the trace, with these results, and returns `b`. -/
def Exec : Prog Call Res α → List (Event Call Res) → α → Prop
  | .ret a, tr, b => tr = [] ∧ a = b
  | .call c k, tr, b => ∃ r tr', tr = ⟨c, r⟩ :: tr' ∧ Exec (k r) tr' b

/-- The calls of a sequence of two programs. -/
theorem exec_bind {p : Prog Call Res α} {f : α → Prog Call Res β} {tr : List (Event Call Res)}
    {b : β} : Exec (p >>= f) tr b ↔
      ∃ tr₁ a tr₂, tr = tr₁ ++ tr₂ ∧ Exec p tr₁ a ∧ Exec (f a) tr₂ b := by
  induction p generalizing tr with
  | ret a =>
    -- the first program makes no call, so the whole trace is that of the second
    constructor
    · intro h
      exact ⟨[], a, tr, rfl, ⟨rfl, rfl⟩, h⟩
    · rintro ⟨tr₁, a', tr₂, rfl, ⟨rfl, rfl⟩, h⟩
      exact h
  | call c k ih =>
    -- the first call belongs to the first program; the rest is cut by the induction hypothesis
    constructor
    · rintro ⟨r, tr', rfl, h⟩
      obtain ⟨tr₁, a, tr₂, rfl, h₁, h₂⟩ := (ih r).mp h
      exact ⟨⟨c, r⟩ :: tr₁, a, tr₂, rfl, ⟨r, tr₁, rfl, h₁⟩, h₂⟩
    · rintro ⟨tr₁, a, tr₂, rfl, ⟨r, tr', rfl, h₁⟩, h₂⟩
      exact ⟨r, tr' ++ tr₂, rfl, (ih r).mpr ⟨tr', a, tr₂, rfl, h₁, h₂⟩⟩

/-! ### Executions with fixed answers -/

/-- What the program returns where `answer` answers its calls. -/
def eval (answer : (c : Call) → Res c) : Prog Call Res α → α
  | .ret a => a
  | .call c k => eval answer (k (answer c))

@[simp] theorem eval_ret (answer : (c : Call) → Res c) (a : α) :
    eval answer (.ret a : Prog Call Res α) = a := rfl

@[simp] theorem eval_call (answer : (c : Call) → Res c) (c : Call)
    (k : Res c → Prog Call Res α) : eval answer (.call c k) = eval answer (k (answer c)) := rfl

@[simp] theorem eval_bind (answer : (c : Call) → Res c) (p : Prog Call Res α)
    (f : α → Prog Call Res β) : eval answer (p >>= f) = eval answer (f (eval answer p)) := by
  induction p with
  | ret a => rfl
  | call c k ih => exact ih (answer c)

/-! ### The calls a program may make -/

/-- Every call on every path satisfies `P`. -/
def Forall (P : Call → Prop) : Prog Call Res α → Prop
  | .ret _ => True
  | .call c k => P c ∧ ∀ r, Forall P (k r)

@[simp] theorem forall_ret {P : Call → Prop} (a : α) :
    Forall P (.ret a : Prog Call Res α) := trivial

theorem Forall.bind {P : Call → Prop} {p : Prog Call Res α} {f : α → Prog Call Res β}
    (hp : p.Forall P) (hf : ∀ a, (f a).Forall P) : (p >>= f).Forall P := by
  induction p with
  | ret a => exact hf a
  | call c k ih => exact ⟨hp.1, fun r => ih r (hp.2 r)⟩

theorem Forall.mono {P Q : Call → Prop} (hPQ : ∀ c, P c → Q c) {p : Prog Call Res α}
    (hp : p.Forall P) : p.Forall Q := by
  induction p with
  | ret a => trivial
  | call c k ih => exact ⟨hPQ c hp.1, fun r => ih r (hp.2 r)⟩

/-- The calls of an execution are calls the program may make. -/
theorem Forall.of_mem {P : Call → Prop} {p : Prog Call Res α} (hp : p.Forall P)
    {tr : List (Event Call Res)} {a : α} (h : p.Exec tr a) : ∀ e ∈ tr, P e.1 := by
  induction p generalizing tr with
  | ret a =>
    obtain ⟨rfl, -⟩ := h
    simp
  | call c k ih =>
    obtain ⟨r, tr', rfl, h⟩ := h
    intro e he
    -- the first event is the call itself, and the others are events of what is left
    rcases List.mem_cons.mp he with rfl | he
    · exact hp.1
    · exact ih r (hp.2 r) h e he

/-- What no call of the program contributes to is not found among its calls. -/
theorem Forall.filterMap_eq_nil {γ : Type} {P : Call → Prop} {p : Prog Call Res α}
    (hp : p.Forall P) {f : Event Call Res → Option γ} (hf : ∀ c r, P c → f ⟨c, r⟩ = none)
    {tr : List (Event Call Res)} {a : α} (h : p.Exec tr a) : tr.filterMap f = [] := by
  rw [List.filterMap_eq_nil_iff]
  intro e he
  exact hf e.1 e.2 (hp.of_mem h e he)

/-! ### The calls made while the results are as expected -/

section ForallOn

variable {ok : Event Call Res → Prop} {P : Call → Prop}

/-- Every call on a path satisfies `P` as long as the results before it are `ok`. -/
def ForallOn (ok : Event Call Res → Prop) (P : Call → Prop) : Prog Call Res α → Prop
  | .ret _ => True
  | .call c k => P c ∧ ∀ r, ok ⟨c, r⟩ → ForallOn ok P (k r)

/-- Where each call has a result that is `ok`, there is an execution in which all are. -/
theorem exists_exec (hok : ∀ c, ∃ r, ok ⟨c, r⟩) (p : Prog Call Res α) :
    ∃ tr a, p.Exec tr a ∧ ∀ e ∈ tr, ok e := by
  induction p with
  | ret a => exact ⟨[], a, ⟨rfl, rfl⟩, fun _ he => absurd he List.not_mem_nil⟩
  | call c k ih =>
    obtain ⟨r, hr⟩ := hok c
    obtain ⟨tr, a, hexec, hall⟩ := ih r
    exact ⟨⟨c, r⟩ :: tr, a, ⟨r, tr, rfl, hexec⟩, List.forall_mem_cons.mpr ⟨hr, hall⟩⟩

/-- What `ForallOn` says of the executions. -/
theorem forallOn_iff (hok : ∀ c, ∃ r, ok ⟨c, r⟩) {p : Prog Call Res α} :
    p.ForallOn ok P ↔ ∀ tr a, p.Exec tr a → (∀ e ∈ tr, ok e) → ∀ e ∈ tr, P e.1 := by
  induction p with
  | ret a =>
    refine iff_of_true trivial ?_
    rintro tr b ⟨rfl, -⟩ - e he
    exact absurd he List.not_mem_nil
  | call c k ih =>
    constructor
    · rintro ⟨hc, hk⟩ tr a ⟨r, tr', rfl, hexec⟩ hall
      obtain ⟨hr, hall⟩ := List.forall_mem_cons.mp hall
      exact List.forall_mem_cons.mpr ⟨hc, (ih r).mp (hk r hr) tr' a hexec hall⟩
    · intro h
      constructor
      · -- some execution goes on behind the call
        obtain ⟨tr, a, hexec, hall⟩ := exists_exec hok (call c k)
        obtain ⟨r, tr', rfl, hrest⟩ := hexec
        exact h _ a ⟨r, tr', rfl, hrest⟩ hall _ List.mem_cons_self
      · intro r hr
        refine (ih r).mpr fun tr a hexec hall => ?_
        have hevents := h _ a ⟨r, tr, rfl, hexec⟩ (List.forall_mem_cons.mpr ⟨hr, hall⟩)
        exact (List.forall_mem_cons.mp hevents).2

/-- Behind the last call nothing more is asked. -/
theorem forallOn_bind_ret {p : Prog Call Res α} {f : α → Prog Call Res β}
    (hf : ∀ a, (f a).ForallOn ok P) : (p >>= f).ForallOn ok P ↔ p.ForallOn ok P := by
  induction p with
  | ret a => exact iff_of_true (hf a) trivial
  | call c k ih =>
    exact and_congr_right fun _ => forall_congr' fun r => imp_congr_right fun _ => ih r

end ForallOn

/-! ### What a program emits -/

/-- In every execution the list the calls emit satisfies `S`. -/
def Emits {γ : Type} (f : Event Call Res → Option γ) (S : List γ → Prop)
    (p : Prog Call Res α) : Prop :=
  ∀ tr a, p.Exec tr a → S (tr.filterMap f)

section Emits

variable {γ : Type} {f : Event Call Res → Option γ} {S S₁ : List γ → Prop}

theorem Emits.ret {a : α} (h : S []) : Emits f S (.ret a : Prog Call Res α) := by
  rintro tr b ⟨rfl, -⟩
  exact h

theorem Emits.mono {p : Prog Call Res α} (hp : p.Emits f S₁) (h : ∀ l, S₁ l → S l) :
    p.Emits f S := fun tr a hexec => h _ (hp tr a hexec)

/-- What the second of two programs emits comes behind what the first one does. -/
theorem Emits.bind {p : Prog Call Res α} {k : α → Prog Call Res β} (hp : p.Emits f S₁)
    (hk : ∀ a l₁, S₁ l₁ → (k a).Emits f fun l₂ => S (l₁ ++ l₂)) : (p >>= k).Emits f S := by
  intro tr b h
  obtain ⟨tr₁, a, tr₂, rfl, h₁, h₂⟩ := exec_bind.mp h
  rw [List.filterMap_append]
  exact hk a _ (hp tr₁ a h₁) tr₂ b h₂

/-- Where the calls emit nothing, nothing is made of what they emit. -/
theorem Emits.nil_of_nil {δ : Type} {g : Event Call Res → Option δ} {p : Prog Call Res α}
    (hp : p.Emits f (· = [])) (hg : ∀ e, f e = none → g e = none) : p.Emits g (· = []) := by
  intro tr a h
  have hnone := List.filterMap_eq_nil_iff.mp (hp tr a h)
  exact List.filterMap_eq_nil_iff.mpr fun e he => hg e (hnone e he)

/-- A first program that emits nothing. -/
theorem Emits.nil_bind {p : Prog Call Res α} {k : α → Prog Call Res β} (hp : p.Emits f (· = []))
    (hk : ∀ a, (k a).Emits f S) : (p >>= k).Emits f S := by
  refine hp.bind fun a l₁ hl₁ => ?_
  subst hl₁
  exact hk a

/-- A second program that emits nothing. -/
theorem Emits.bind_nil {p : Prog Call Res α} {k : α → Prog Call Res β} (hp : p.Emits f S)
    (hk : ∀ a, (k a).Emits f (· = [])) : (p >>= k).Emits f S := by
  refine hp.bind fun a l₁ hl₁ => (hk a).mono fun l₂ hl₂ => ?_
  rw [hl₂, List.append_nil]
  exact hl₁

/-- A call that emits nothing. -/
theorem Emits.call_none {c : Call} {k : Res c → Prog Call Res α} (hc : ∀ r, f ⟨c, r⟩ = none)
    (hk : ∀ r, (k r).Emits f S) : (call c k).Emits f S := by
  rintro tr a ⟨r, tr', rfl, h⟩
  rw [List.filterMap_cons_none (hc r)]
  exact hk r tr' a h

/-- A call that emits the same whatever it returns. -/
theorem Emits.call_some {c : Call} {k : Res c → Prog Call Res α} {x : γ}
    (hc : ∀ r, f ⟨c, r⟩ = some x) (hk : ∀ r, (k r).Emits f fun l => S (x :: l)) :
    (call c k).Emits f S := by
  rintro tr a ⟨r, tr', rfl, h⟩
  rw [List.filterMap_cons_some (hc r)]
  exact hk r tr' a h

/-- In every execution what the calls emit weighs at most `n`. -/
def Costs (f : Event Call Res → Option γ) (w : γ → ℕ) (n : ℕ) (p : Prog Call Res α) : Prop :=
  p.Emits f fun l => (l.map w).sum ≤ n

variable {w : γ → ℕ} {n m : ℕ}

theorem Costs.ret (a : α) : Costs f w n (.ret a : Prog Call Res α) :=
  Emits.ret (Nat.zero_le n)

theorem Costs.mono {p : Prog Call Res α} (hp : p.Costs f w n) (h : n ≤ m) : p.Costs f w m :=
  Emits.mono hp fun _ hl => Nat.le_trans hl h

/-- The costs of a sequence of two programs. -/
theorem Costs.bind {p : Prog Call Res α} {k : α → Prog Call Res β} (hp : p.Costs f w n)
    (hk : ∀ a, (k a).Costs f w m) : (p >>= k).Costs f w (n + m) := by
  refine Emits.bind hp fun a l₁ h₁ => Emits.mono (hk a) fun l₂ h₂ => ?_
  rw [List.map_append, List.sum_append]
  exact Nat.add_le_add h₁ h₂

/-- A first program that emits nothing. -/
theorem Costs.nil_bind {p : Prog Call Res α} {k : α → Prog Call Res β} (hp : p.Emits f (· = []))
    (hk : ∀ a, (k a).Costs f w n) : (p >>= k).Costs f w n := Emits.nil_bind hp hk

/-- A second program that emits nothing. -/
theorem Costs.bind_nil {p : Prog Call Res α} {k : α → Prog Call Res β} (hp : p.Costs f w n)
    (hk : ∀ a, (k a).Emits f (· = [])) : (p >>= k).Costs f w n := Emits.bind_nil hp hk

theorem Costs.call_none {c : Call} {k : Res c → Prog Call Res α} (hc : ∀ r, f ⟨c, r⟩ = none)
    (hk : ∀ r, (k r).Costs f w n) : (call c k).Costs f w n := Emits.call_none hc hk

theorem Costs.call_some {c : Call} {k : Res c → Prog Call Res α} {x : γ}
    (hc : ∀ r, f ⟨c, r⟩ = some x) (hx : w x ≤ n) (hk : ∀ r, (k r).Emits f (· = [])) :
    (call c k).Costs f w n := by
  refine Emits.call_some hc fun r => Emits.mono (hk r) fun l hl => ?_
  rw [hl]
  simpa using hx

end Emits

/-! ### The calls before the first that is not as expected -/

section UpTo

variable {ok : Call → Prop} [DecidablePred ok] {γ : Type} {f : Event Call Res → Option γ}
  {p : Prog Call Res α}

/-- The events before the first whose call is not `ok`. -/
def upTo (ok : Call → Prop) [DecidablePred ok] (tr : List (Event Call Res)) :
    List (Event Call Res) :=
  tr.takeWhile fun e => ok e.1

theorem upTo_cons_of_pos {e : Event Call Res} (he : ok e.1) (tr : List (Event Call Res)) :
    upTo ok (e :: tr) = e :: upTo ok tr := List.takeWhile_cons_of_pos (by simpa using he)

theorem upTo_cons_of_neg {e : Event Call Res} (he : ¬ ok e.1) (tr : List (Event Call Res)) :
    upTo ok (e :: tr) = [] := List.takeWhile_cons_of_neg (by simpa using he)

/-- What emits nothing, emits nothing up to some call. -/
theorem filterMap_upTo_eq_nil {tr : List (Event Call Res)} (h : tr.filterMap f = []) :
    (upTo ok tr).filterMap f = [] := by
  rw [List.filterMap_eq_nil_iff] at h ⊢
  exact fun e he => h e ((List.takeWhile_subset _) he)

/-- What comes behind without emitting anything does not matter. -/
theorem filterMap_upTo_append {tr₁ tr₂ : List (Event Call Res)} (h : tr₂.filterMap f = []) :
    (upTo ok (tr₁ ++ tr₂)).filterMap f = (upTo ok tr₁).filterMap f := by
  induction tr₁ with
  | nil => exact filterMap_upTo_eq_nil h
  | cons e tr₁ ih =>
    by_cases he : ok e.1
    · rw [List.cons_append, upTo_cons_of_pos he, upTo_cons_of_pos he, List.filterMap_cons,
        List.filterMap_cons, ih]
    · rw [List.cons_append, upTo_cons_of_neg he, upTo_cons_of_neg he]

/-- In every execution all that is emitted is emitted before the first call that is not `ok`. -/
def Timely (ok : Call → Prop) [DecidablePred ok] (f : Event Call Res → Option γ)
    (p : Prog Call Res α) : Prop :=
  ∀ tr a, p.Exec tr a → (upTo ok tr).filterMap f = tr.filterMap f

/-- A program that emits nothing. -/
theorem Emits.timely (hp : p.Emits f (· = [])) : p.Timely ok f := by
  intro tr a h
  rw [hp tr a h]
  exact filterMap_upTo_eq_nil (hp tr a h)

theorem Timely.call {c : Call} {k : Res c → Prog Call Res α} (hc : ok c)
    (hk : ∀ r, (k r).Timely ok f) : (call c k).Timely ok f := by
  rintro tr a ⟨r, tr', rfl, h⟩
  rw [upTo_cons_of_pos hc, List.filterMap_cons, List.filterMap_cons, hk r tr' a h]

/-- A second program that emits nothing. -/
theorem Timely.bind_nil {k : α → Prog Call Res β} (hp : p.Timely ok f)
    (hk : ∀ a, (k a).Emits f (· = [])) : (p >>= k).Timely ok f := by
  intro tr b h
  obtain ⟨tr₁, a, tr₂, rfl, h₁, h₂⟩ := exec_bind.mp h
  rw [filterMap_upTo_append (hk a tr₂ b h₂), hp tr₁ a h₁, List.filterMap_append, hk a tr₂ b h₂,
    List.append_nil]

/-- In every execution whose results are `good` and whose value is in `fin`, what the calls before
the first that is not `ok` emit satisfies `S`. -/
def EmitsUpTo (good : Event Call Res → Prop) (ok : Call → Prop) [DecidablePred ok]
    (f : Event Call Res → Option γ) (fin : α → Prop) (S : List γ → Prop)
    (p : Prog Call Res α) : Prop :=
  ∀ tr a, p.Exec tr a → (∀ e ∈ tr, good e) → fin a → S ((upTo ok tr).filterMap f)

section EmitsUpTo

variable {good : Event Call Res → Prop} {fin : α → Prop} {S : List γ → Prop} {c : Call}
  {k : Res c → Prog Call Res α}

theorem EmitsUpTo.ret {a : α} (h : fin a → S []) :
    (ret a : Prog Call Res α).EmitsUpTo good ok f fin S := by
  rintro tr b ⟨rfl, rfl⟩ - hfin
  exact h hfin

theorem EmitsUpTo.call_none (hc : ok c) (hnone : ∀ r, f ⟨c, r⟩ = none)
    (hk : ∀ r, good ⟨c, r⟩ → (k r).EmitsUpTo good ok f fin S) :
    (call c k).EmitsUpTo good ok f fin S := by
  rintro tr a ⟨r, tr', rfl, h⟩ hgood hfin
  obtain ⟨hr, hgood'⟩ := List.forall_mem_cons.mp hgood
  rw [upTo_cons_of_pos hc, List.filterMap_cons_none (hnone r)]
  exact hk r hr tr' a h hgood' hfin

theorem EmitsUpTo.call_some {x : γ} (hc : ok c) (hsome : ∀ r, f ⟨c, r⟩ = some x)
    (hk : ∀ r, (k r).EmitsUpTo good ok f fin fun l => S (x :: l)) :
    (call c k).EmitsUpTo good ok f fin S := by
  rintro tr a ⟨r, tr', rfl, h⟩ hgood hfin
  rw [upTo_cons_of_pos hc, List.filterMap_cons_some (hsome r)]
  exact hk r tr' a h (List.forall_mem_cons.mp hgood).2 hfin

/-- A call that is not `ok` ends it. -/
theorem EmitsUpTo.call_neg (hc : ¬ ok c) (h : S []) : (call c k).EmitsUpTo good ok f fin S := by
  rintro tr a ⟨r, tr', rfl, -⟩ - -
  rw [upTo_cons_of_neg hc]
  exact h

end EmitsUpTo

end UpTo

/-! ### Running in an environment -/

variable {σ Choice : Type}

/-- Run without interruption, with one choice for each call. The result is the value returned, the
state of the environment afterwards, and the calls made. -/
def runIn (answer : σ → (c : Call) → Choice → Res c × σ) :
    Prog Call Res α → σ → List Choice → Option (α × σ × List (Event Call Res))
  | .ret a, s, [] => some (a, s, [])
  -- one choice for each call, no more and no fewer
  | .ret _, _, _ :: _ => none
  | .call _ _, _, [] => none
  | .call c k, s, ch :: chs =>
    let r := answer s c ch
    (runIn answer (k r.1) r.2 chs).map fun (a, s', tr) => (a, s', ⟨c, r.1⟩ :: tr)

variable {answer : σ → (c : Call) → Choice → Res c × σ}

@[simp] theorem runIn_ret_eq_some {a b : α} {s s' : σ} {chs : List Choice}
    {tr : List (Event Call Res)} :
    runIn answer (.ret a) s chs = some (b, s', tr) ↔ chs = [] ∧ a = b ∧ s = s' ∧ tr = [] := by
  cases chs <;> simp [runIn, eq_comm]

@[simp] theorem runIn_call_eq_some {c : Call} {k : Res c → Prog Call Res α} {b : α} {s s' : σ}
    {chs : List Choice} {tr : List (Event Call Res)} :
    runIn answer (.call c k) s chs = some (b, s', tr) ↔
      ∃ ch chs' tr', chs = ch :: chs' ∧ tr = ⟨c, (answer s c ch).1⟩ :: tr' ∧
        runIn answer (k (answer s c ch).1) (answer s c ch).2 chs' = some (b, s', tr') := by
  cases chs with
  | nil => simp [runIn]
  | cons ch chs =>
    simp only [runIn, Option.map_eq_some_iff, Prod.mk.injEq]
    constructor
    · rintro ⟨⟨a, s₁, tr'⟩, h, rfl, rfl, rfl⟩
      exact ⟨ch, chs, tr', rfl, rfl, h⟩
    · rintro ⟨ch', chs', tr', heq, rfl, h⟩
      obtain ⟨rfl, rfl⟩ := List.cons.inj heq
      exact ⟨(b, s', tr'), h, rfl, rfl, rfl⟩

/-- The first call of a program written as a sequence. -/
theorem runIn_call_bind_eq_some {c : Call} {f : Res c → Prog Call Res β} {b : β} {s s' : σ}
    {chs : List Choice} {tr : List (Event Call Res)} :
    runIn answer (.call c .ret >>= f) s chs = some (b, s', tr) ↔
      ∃ ch chs' tr', chs = ch :: chs' ∧ tr = ⟨c, (answer s c ch).1⟩ :: tr' ∧
        runIn answer (f (answer s c ch).1) (answer s c ch).2 chs' = some (b, s', tr') :=
  runIn_call_eq_some

theorem runIn_bind_eq_some {p : Prog Call Res α} {f : α → Prog Call Res β} {b : β} {s s' : σ}
    {chs : List Choice} {tr : List (Event Call Res)} :
    runIn answer (p >>= f) s chs = some (b, s', tr) ↔
      ∃ chs₁ chs₂ a s₁ tr₁ tr₂, chs = chs₁ ++ chs₂ ∧ tr = tr₁ ++ tr₂ ∧
        runIn answer p s chs₁ = some (a, s₁, tr₁) ∧
        runIn answer (f a) s₁ chs₂ = some (b, s', tr₂) := by
  induction p generalizing s chs tr with
  | ret a =>
    -- no choice and no call is the first program's
    constructor
    · intro h
      exact ⟨[], chs, a, s, [], tr, rfl, rfl, rfl, h⟩
    · rintro ⟨chs₁, chs₂, a', s₁, tr₁, tr₂, rfl, rfl, h₁, h₂⟩
      obtain ⟨rfl, rfl, rfl, rfl⟩ := runIn_ret_eq_some.mp h₁
      exact h₂
  | call c k ih =>
    rw [call_bind, runIn_call_eq_some]
    constructor
    · -- the first choice goes with the first call; the induction hypothesis cuts the others
      rintro ⟨ch, chs', tr', rfl, rfl, h⟩
      obtain ⟨chs₁, chs₂, a, s₁, tr₁, tr₂, rfl, rfl, h₁, h₂⟩ := (ih _).mp h
      exact ⟨ch :: chs₁, chs₂, a, s₁, _ :: tr₁, tr₂, rfl, rfl,
        runIn_call_eq_some.mpr ⟨ch, chs₁, tr₁, rfl, rfl, h₁⟩, h₂⟩
    · rintro ⟨chs₁, chs₂, a, s₁, tr₁, tr₂, rfl, rfl, h₁, h₂⟩
      obtain ⟨ch, chs', tr', rfl, rfl, h⟩ := runIn_call_eq_some.mp h₁
      exact ⟨ch, chs' ++ chs₂, tr' ++ tr₂, rfl, rfl,
        (ih _).mpr ⟨chs', chs₂, a, s₁, tr', tr₂, rfl, rfl, h, h₂⟩⟩

/-- The calls of a run are those of an execution. -/
theorem exec_of_runIn {p : Prog Call Res α} {s s' : σ} {chs : List Choice} {a : α}
    {tr : List (Event Call Res)} (h : runIn answer p s chs = some (a, s', tr)) :
    p.Exec tr a := by
  induction p generalizing s chs tr with
  | ret b =>
    obtain ⟨-, rfl, -, rfl⟩ := runIn_ret_eq_some.mp h
    exact ⟨rfl, rfl⟩
  | call c k ih =>
    obtain ⟨ch, chs', tr', -, rfl, hrest⟩ := runIn_call_eq_some.mp h
    exact ⟨_, tr', rfl, ih _ hrest⟩

/-- **Invariant rule for programs.** What the calls a program may make preserve, the program
preserves. -/
theorem runIn_invariant {P : Call → Prop} {I : σ → Prop}
    (hans : ∀ s c ch, P c → I s → I (answer s c ch).2)
    {p : Prog Call Res α} (hp : p.Forall P) {s s' : σ} {chs : List Choice} {a : α}
    {tr : List (Event Call Res)} (h : runIn answer p s chs = some (a, s', tr)) (hI : I s) :
    I s' := by
  induction p generalizing s chs tr with
  | ret b =>
    obtain ⟨-, -, rfl, -⟩ := runIn_ret_eq_some.mp h
    exact hI
  | call c k ih =>
    obtain ⟨ch, chs', tr', -, -, hrest⟩ := runIn_call_eq_some.mp h
    -- the answer to the first call keeps `I`, and what is left runs from there
    have hnext : I (answer s c ch).2 := hans s c ch hp.1 hI
    exact ih _ (hp.2 _) hrest hnext

/-- A run whose choices are made by `pick` is a run. -/
theorem runIn_of_pick {Choice' : Type} {pick : σ → Call → Choice' → Choice}
    {p : Prog Call Res α} {s s' : σ} {chs : List Choice'} {a : α} {tr : List (Event Call Res)}
    (h : runIn (fun s c ch => answer s c (pick s c ch)) p s chs = some (a, s', tr)) :
    ∃ chs', runIn answer p s chs' = some (a, s', tr) := by
  induction p generalizing s chs tr with
  | ret b =>
    obtain ⟨-, rfl, rfl, rfl⟩ := runIn_ret_eq_some.mp h
    exact ⟨[], rfl⟩
  | call c k ih =>
    obtain ⟨ch, chs₁, tr₁, -, rfl, hrest⟩ := runIn_call_eq_some.mp h
    obtain ⟨chs', hrun⟩ := ih _ hrest
    exact ⟨pick s c ch :: chs', runIn_call_eq_some.mpr ⟨_, chs', tr₁, rfl, rfl, hrun⟩⟩

variable (answer) in
/-- Every program comes to an end, here with the same choice at every call. -/
theorem exists_runIn (ch : Choice) (p : Prog Call Res α) (s : σ) :
    ∃ chs a s' tr, runIn answer p s chs = some (a, s', tr) := by
  induction p generalizing s with
  | ret a => exact ⟨[], a, s, [], rfl⟩
  | call c k ih =>
    obtain ⟨chs, a, s', tr, h⟩ := ih _ (answer s c ch).2
    exact ⟨ch :: chs, a, s', _, runIn_call_eq_some.mpr ⟨ch, chs, tr, rfl, rfl, h⟩⟩

/-! ### Running one call -/

/-- Run the next call. The result is what is left of the program, the state of the environment
afterwards, and the call. -/
def stepIn (answer : σ → (c : Call) → Choice → Res c × σ) :
    Prog Call Res α → σ → Choice → Option (Prog Call Res α × σ × Event Call Res)
  | .ret _, _, _ => none
  | .call c k, s, ch => some (k (answer s c ch).1, (answer s c ch).2, ⟨c, (answer s c ch).1⟩)

theorem stepIn_eq_some {p p' : Prog Call Res α} {s s' : σ} {ch : Choice}
    {e : Event Call Res} : stepIn answer p s ch = some (p', s', e) ↔
      ∃ c k, p = .call c k ∧ p' = k (answer s c ch).1 ∧ s' = (answer s c ch).2 ∧
        e = ⟨c, (answer s c ch).1⟩ := by
  cases p with
  | ret a => simp [stepIn]
  | call c k =>
    simp only [stepIn, Option.some.injEq, Prod.mk.injEq, call.injEq]
    constructor
    · rintro ⟨rfl, rfl, rfl⟩
      exact ⟨c, k, ⟨rfl, HEq.rfl⟩, rfl, rfl, rfl⟩
    · rintro ⟨c, k, ⟨rfl, rfl⟩, rfl, rfl, rfl⟩
      exact ⟨rfl, rfl, rfl⟩

/-- What is left of a program makes no other calls. -/
theorem Forall.step {P : Call → Prop} {p p' : Prog Call Res α} {s s' : σ} {ch : Choice}
    {e : Event Call Res} (hp : p.Forall P) (h : stepIn answer p s ch = some (p', s', e)) :
    P e.1 ∧ p'.Forall P := by
  obtain ⟨c, k, rfl, rfl, -, rfl⟩ := stepIn_eq_some.mp h
  exact ⟨hp.1, hp.2 _⟩

/-! ### The calls a program cannot avoid -/

section Meets

variable {P : Call → Prop}

/-- On every path some call satisfies `P`. -/
def Meets (P : Call → Prop) : Prog Call Res α → Prop
  | .ret _ => False
  | .call c k => P c ∨ ∀ r, Meets P (k r)

theorem Meets.bind {p : Prog Call Res α} (hp : p.Meets P) (f : α → Prog Call Res β) :
    (p >>= f).Meets P := by
  induction p with
  | ret a => exact hp.elim
  | call c k ih =>
    rcases hp with hc | hk
    · exact .inl hc
    · exact .inr fun r => ih r (hk r)

/-- The call comes in what follows the first program. -/
theorem meets_bind (p : Prog Call Res α) {f : α → Prog Call Res β} (hf : ∀ a, (f a).Meets P) :
    (p >>= f).Meets P := by
  induction p with
  | ret a => exact hf a
  | call c k ih => exact .inr ih

end Meets

/-! ### Programs that follow an automaton -/

section Follows

variable {Q : Type} {δ : Q → Event Call Res → Option Q} {ok : Event Call Res → Prop}
  {fin fin' : Q → Prop}

/-- On every path the calls and their results follow the automaton. -/
def Follows (δ : Q → Event Call Res → Option Q) (ok : Event Call Res → Prop) (fin : Q → Prop) :
    Q → Prog Call Res α → Prop
  | q, .ret _ => fin q
  -- nothing is asked of a path behind a result that is not `ok`
  | q, .call c k => ∀ r, ok ⟨c, r⟩ → ∃ q', δ q ⟨c, r⟩ = some q' ∧ Follows δ ok fin q' (k r)

theorem Follows.bind {p : Prog Call Res α} {f : α → Prog Call Res β} {q : Q}
    (hp : p.Follows δ ok fin q) (hf : ∀ a q', fin q' → (f a).Follows δ ok fin' q') :
    (p >>= f).Follows δ ok fin' q := by
  induction p generalizing q with
  | ret a => exact hf a q hp
  | call c k ih =>
    intro r hr
    obtain ⟨q', hq, hk⟩ := hp r hr
    exact ⟨q', hq, ih r hk⟩

/-- Calls that leave the automaton where it is. -/
theorem Forall.follows {P : Call → Prop} {p : Prog Call Res α} {q : Q}
    (hstay : ∀ c r, P c → δ q ⟨c, r⟩ = some q) (hfin : fin q) (hp : p.Forall P) :
    p.Follows δ ok fin q := by
  induction p with
  | ret a => exact hfin
  | call c k ih => exact fun r _ => ⟨q, hstay c r hp.1, ih r (hp.2 r)⟩

/-- What is left of a program follows the automaton from the next state. -/
theorem Follows.step {p p' : Prog Call Res α} {q : Q} {s s' : σ} {ch : Choice}
    {e : Event Call Res} (hp : p.Follows δ ok fin q)
    (h : stepIn answer p s ch = some (p', s', e)) (hok : ok e) :
    ∃ q', δ q e = some q' ∧ p'.Follows δ ok fin q' := by
  obtain ⟨c, k, rfl, rfl, -, rfl⟩ := stepIn_eq_some.mp h
  exact hp _ hok

end Follows

end Prog
end Calls
