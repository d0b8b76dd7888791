import Mathlib.Algebra.BigOperators.Group.Multiset.Basic
import Mathlib.Algebra.GroupWithZero.Nat
import Mathlib.Algebra.Order.BigOperators.Group.Multiset
import Mathlib.Data.List.Chain

/-!
# Messages in flight

A finite multiset of messages in flight. A delivery takes one of them out, in any order, and puts in
what its receiver sends: `R m out` says that the messages `out` are a possible answer to `m`.

When every possible answer weighs less than the message it answers (`Lightens R w`), each delivery
makes the multiset lighter (`Delivery.weight_lt`). So no sequence of deliveries goes on for ever
(`wellFounded_delivery`), and none from `s` is longer than the weight of `s`
(`length_le_weight`).

A `Run` has messages that come from outside, too. When no answer weighs more than the message it
answers, less what has been paid for it (`Pays R w d`), all that is paid in a run has come from
outside (`Run.paid_le`).
-/

namespace Deliveries

variable {M : Type}

/-- A message leaves, and what is sent in answer to it comes. -/
def Delivery (R : M → Multiset M → Prop) (s t : Multiset M) : Prop :=
  ∃ m rest out, s = m ::ₘ rest ∧ R m out ∧ t = out + rest

/-- The messages in flight, weighed together. -/
def weight (w : M → ℕ) (s : Multiset M) : ℕ := (s.map w).sum

/-- Every answer weighs less than the message. -/
def Lightens (R : M → Multiset M → Prop) (w : M → ℕ) : Prop := ∀ m out, R m out → weight w out < w m

variable {R : M → Multiset M → Prop} {w : M → ℕ}

@[simp] theorem weight_zero : weight w 0 = 0 := rfl

@[simp] theorem weight_cons (m : M) (s : Multiset M) : weight w (m ::ₘ s) = w m + weight w s := by
  rw [weight, weight, Multiset.map_cons, Multiset.sum_cons]

@[simp] theorem weight_singleton (m : M) : weight w {m} = w m := by
  rw [weight, Multiset.map_singleton, Multiset.sum_singleton]

@[simp] theorem weight_add (s t : Multiset M) : weight w (s + t) = weight w s + weight w t := by
  rw [weight, weight, weight, Multiset.map_add, Multiset.sum_add]

@[simp] theorem weight_coe (l : List M) : weight w (l : Multiset M) = (l.map w).sum := by
  rw [weight, Multiset.map_coe, Multiset.sum_coe]

/-- The messages that come of a list, where not every entry makes one. -/
theorem weight_filterMap {A : Type} (g : A → Option M) (l : List A) :
    weight w (l.filterMap g : Multiset M) = (l.map fun a => (g a).elim 0 w).sum := by
  rw [weight_coe]
  induction l with
  | nil => rfl
  | cons a l ih => cases hg : g a <;> simp [hg, ih]

/-- Losing messages makes the flight no heavier. -/
theorem weight_mono {s t : Multiset M} (h : s ≤ t) : weight w s ≤ weight w t := by
  obtain ⟨u, rfl⟩ := Multiset.le_iff_exists_add.mp h
  rw [weight_add]
  exact Nat.le_add_right _ _

/-- Every message weighs no more than it does on another scale. -/
theorem weight_le_weight {w' : M → ℕ} (h : ∀ m, w m ≤ w' m) (s : Multiset M) :
    weight w s ≤ weight w' s := by
  induction s using Multiset.induction_on with
  | empty => exact Nat.le_refl 0
  | cons m s ih =>
    rw [weight_cons, weight_cons]
    exact Nat.add_le_add (h m) ih

/-- Counting is weighing. -/
theorem weight_ite (p : M → Prop) [DecidablePred p] (s : Multiset M) :
    weight (fun m => if p m then 1 else 0) s = s.countP p := by
  induction s using Multiset.induction_on with
  | empty => rfl
  | cons m s ih =>
    rw [weight_cons, ih, Multiset.countP_cons, Nat.add_comm]

/-- A bound for what comes of a list is one for what is left of it. -/
theorem weight_lt_of_filterMap {A : Type} {g : A → Option M} {l : List A} {s : Multiset M}
    {n k : ℕ} (hs : s ≤ (l.filterMap g : Multiset M))
    (hcost : (l.map fun a => (g a).elim 0 w).sum ≤ n) (hlt : n < k) : weight w s < k := by
  refine lt_of_le_of_lt (weight_mono hs) ?_
  rw [weight_filterMap]
  exact lt_of_le_of_lt hcost hlt

/-- **Every delivery makes the flight lighter.** -/
theorem Delivery.weight_lt (hw : Lightens R w) {s t : Multiset M} (h : Delivery R s t) :
    weight w t < weight w s := by
  obtain ⟨m, rest, out, rfl, hm, rfl⟩ := h
  rw [weight_add, weight_cons]
  exact Nat.add_lt_add_right (hw m out hm) _

/-- No sequence of deliveries goes on for ever. -/
theorem wellFounded_delivery (hw : Lightens R w) : WellFounded fun t s => Delivery R s t :=
  Subrelation.wf (fun h => Delivery.weight_lt hw h) (measure (weight w)).wf

/-- A sequence of deliveries is no longer than the flight is heavy. -/
theorem length_le_weight (hw : Lightens R w) {s : Multiset M} {ts : List (Multiset M)}
    (h : (s :: ts).IsChain (Delivery R)) : ts.length ≤ weight w s := by
  induction ts generalizing s with
  | nil => exact Nat.zero_le _
  | cons t ts ih =>
    obtain ⟨hstep, hrest⟩ := List.isChain_cons_cons.mp h
    have hlt : weight w t < weight w s := hstep.weight_lt hw
    have hle : ts.length ≤ weight w t := ih hrest
    rw [List.length_cons]
    omega

/-! ### Messages from outside -/

/-- What happens to messages. -/
inductive Event (M : Type)
  | issued (m : M)
  | delivered (m : M)

/-- The runs from an empty flight: what has happened, in order, and what is in flight. The messages
in `O` come from outside. -/
inductive Run (R : M → Multiset M → Prop) (O : M → Prop) : List (Event M) → Multiset M → Prop
  | nil : Run R O [] 0
  | issue {es : List (Event M)} {s : Multiset M} (m : M) :
    Run R O es s → O m → Run R O (es ++ [.issued m]) (m ::ₘ s)
  | deliver {es : List (Event M)} {s : Multiset M} (m : M) (out : Multiset M) :
    Run R O es (m ::ₘ s) → R m out → Run R O (es ++ [.delivered m]) (out + s)

/-- What has been issued has come from outside. -/
theorem Run.issued {O : M → Prop} {es : List (Event M)} {s : Multiset M} (h : Run R O es s) :
    ∀ m, Event.issued m ∈ es → O m := by
  induction h with
  | nil => exact fun m hm => absurd hm List.not_mem_nil
  | issue m _ hm ih =>
    intro m' hm'
    rcases List.mem_append.mp hm' with hm' | hm'
    · exact ih m' hm'
    · cases List.mem_singleton.mp hm'
      exact hm
  | deliver m out _ _ ih =>
    intro m' hm'
    rcases List.mem_append.mp hm' with hm' | hm'
    · exact ih m' hm'
    · cases List.mem_singleton.mp hm'

/-- The answer to a message and what is paid on its delivery weigh no more than the message. -/
def Pays (R : M → Multiset M → Prop) (w d : M → ℕ) : Prop :=
  ∀ m out, R m out → weight w out + d m ≤ w m

/-- What has come from outside, weighed. -/
def Event.income (w : M → ℕ) : Event M → ℕ
  | .issued m => w m
  | .delivered _ => 0

/-- What has been paid on delivery. -/
def Event.paid (d : M → ℕ) : Event M → ℕ
  | .issued _ => 0
  | .delivered m => d m

/-- **Nothing is paid twice.** What is in flight and what has been paid have come from outside. -/
theorem Run.paid_le {O : M → Prop} {d : M → ℕ} (hd : Pays R w d) {es : List (Event M)}
    {s : Multiset M} (h : Run R O es s) :
    (es.map (Event.paid d)).sum + weight w s ≤ (es.map (Event.income w)).sum := by
  induction h with
  | nil => exact Nat.le_refl 0
  | issue m _ _ ih =>
    simp only [List.map_append, List.sum_append, List.map_singleton, List.sum_singleton,
      weight_cons, Event.paid, Event.income]
    omega
  | deliver m out _ hm ih =>
    have hpay := hd m out hm
    simp only [List.map_append, List.sum_append, List.map_singleton, List.sum_singleton,
      weight_cons, weight_add, Event.paid, Event.income] at ih ⊢
    omega

end Deliveries
