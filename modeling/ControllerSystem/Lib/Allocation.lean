import Mathlib.Algebra.Order.Group.Multiset
import Mathlib.Data.Multiset.MapFold
import Mathlib.Data.Multiset.UnionInter
import Mathlib.Data.Nat.Find
import Mathlib.Data.Set.Finite.Basic

/-!
# Programs that allocate

A heap has a block at each address that is allocated. A program allocates blocks, reads and writes
them, and frees them; it returns a value, or returns early. An access to an address that is not
allocated is undefined.

`Adds h bs h'` says which blocks a program has to its own: `h'` is `h` with the blocks `bs` beside
it, each at an address of its own. They can be written and freed one by one
(`Adds.set`, `Adds.uncons`), and taken together and apart (`Adds.trans`, `Adds.split`).

An allocator may return `NULL`. Whether it can do so to a program is a question of the heap the
program starts on (`Allocator.Fails`): from a heap with addresses enough, one that hands out what is
free never does (`Allocator.first_not_fails`).
-/

namespace Allocation

variable {B E α β : Type}

/-- The blocks that are allocated, by address. -/
abbrev Heap (B : Type) := ℕ → Option B

/-- An allocator. Its answer may depend on the heap and on how many calls there have been; it may be
`NULL`. -/
structure Allocator (B : Type) where
  malloc : ℕ → Heap B → ℕ → Option ℕ
  fresh : ∀ {k h n a}, malloc k h n = some a → h a = none

/-- The allocator that hands out one address after the other. -/
def Allocator.counting (B : Type) : Allocator B where
  malloc k h _ := if (h k).isNone then some k else none
  fresh hk := by
    split_ifs at hk with hnone
    cases hk
    exact Option.isNone_iff_eq_none.mp hnone

/-- The heap, and the number of calls of the allocator so far. -/
structure Memory (B : Type) where
  heap : Heap B
  mallocs : ℕ

/-- How a program ends. -/
inductive Result (B E α : Type)
  | done (a : α) (s : Memory B)
  /-- It returns early. -/
  | early (e : E) (s : Memory B)
  /-- An access outside the allocated blocks. -/
  | fault
  | outOfFuel

/-- The program ends, early or not, with a memory that has `Q`. -/
def Result.Ends (Q : Memory B → Prop) : Result B E α → Prop
  | .done _ s => Q s
  | .early _ s => Q s
  | .fault => False
  | .outOfFuel => False

/-- A program. -/
structure Code (B E α : Type) where
  run : Memory B → Result B E α

namespace Code

/-- Go on where a program has returned. -/
def bind (x : Code B E α) (f : α → Code B E β) : Code B E β where
  run s :=
    match x.run s with
    | .done a s => (f a).run s
    | .early e s => .early e s
    | .fault => .fault
    | .outOfFuel => .outOfFuel

instance : Monad (Code B E) where
  pure a := ⟨fun s => .done a s⟩
  bind := bind

/-- Return early. -/
def throw (e : E) : Code B E α := ⟨fun s => .early e s⟩

/-- Go on where a program has returned early. -/
def onEarly (x : Code B E α) (f : E → Code B E α) : Code B E α where
  run s :=
    match x.run s with
    | .early e s => (f e).run s
    | r => r

/-- Do something under a condition. -/
def when (c : Prop) [Decidable c] (x : Code B E Unit) : Code B E Unit := if c then x else pure ()

/-- Undefined behaviour. -/
def fault : Code B E α := ⟨fun _ => .fault⟩

def outOfFuel : Code B E α := ⟨fun _ => .outOfFuel⟩

/-- Allocate a block of `n` bytes, with `b` in it. -/
def malloc (m : Allocator B) (n : ℕ) (b : B) : Code B E (Option ℕ) where
  run s :=
    match m.malloc s.mallocs s.heap n with
    | some a => .done (some a) ⟨Function.update s.heap a (some b), s.mallocs + 1⟩
    | none => .done none ⟨s.heap, s.mallocs + 1⟩

/-- Read a block. -/
def load (a : ℕ) : Code B E B where
  run s :=
    match s.heap a with
    | some b => .done b s
    | none => .fault

/-- Write a block. -/
def store (a : ℕ) (b : B) : Code B E Unit where
  run s :=
    if (s.heap a).isSome then .done () { s with heap := Function.update s.heap a (some b) }
    else .fault

/-- Free a block. -/
def free (a : ℕ) : Code B E Unit where
  run s :=
    if (s.heap a).isSome then .done () { s with heap := Function.update s.heap a none }
    else .fault

variable {x : Code B E α} {f : α → Code B E β} {s s' : Memory B} {a : α} {e : E}

theorem when_pos {c : Prop} [Decidable c] (hc : c) (x : Code B E Unit) : when c x = x := if_pos hc

theorem run_bind (x : Code B E α) (f : α → Code B E β) (s : Memory B) : (x >>= f).run s =
    match x.run s with
    | .done a s => (f a).run s
    | .early e s => .early e s
    | .fault => .fault
    | .outOfFuel => .outOfFuel := rfl

theorem run_onEarly (x : Code B E α) (f : E → Code B E α) (s : Memory B) : (x.onEarly f).run s =
    match x.run s with
    | .early e s => (f e).run s
    | r => r := rfl

theorem bind_done (h : x.run s = .done a s') : (x >>= f).run s = (f a).run s' := by
  rw [run_bind, h]

theorem load_done {a : ℕ} {b : B} (h : s.heap a = some b) :
    (load a : Code B E B).run s = .done b s := by
  simp only [load, h]

theorem store_done {a : ℕ} {b : B} (h : s.heap a = some b) (b' : B) :
    (store a b' : Code B E Unit).run s =
      .done () { s with heap := Function.update s.heap a (some b') } :=
  if_pos (Option.isSome_of_eq_some h)

theorem free_done {a : ℕ} {b : B} (h : s.heap a = some b) :
    (free a : Code B E Unit).run s =
      .done () { s with heap := Function.update s.heap a none } :=
  if_pos (Option.isSome_of_eq_some h)

/-- A block is allocated, or `NULL` is returned. -/
theorem malloc_cases (m : Allocator B) (n : ℕ) (b : B) (s : Memory B) :
    (∃ a s', (malloc m n b : Code B E (Option ℕ)).run s = .done (some a) s' ∧ s.heap a = none ∧
      s'.heap = Function.update s.heap a (some b)) ∨
    ∃ s', (malloc m n b : Code B E (Option ℕ)).run s = .done none s' ∧ s'.heap = s.heap ∧
      m.malloc s.mallocs s.heap n = none := by
  rcases hm : m.malloc s.mallocs s.heap n with - | a
  · exact .inr ⟨⟨s.heap, s.mallocs + 1⟩, by simp only [malloc, hm], rfl, rfl⟩
  · exact .inl ⟨a, ⟨Function.update s.heap a (some b), s.mallocs + 1⟩, by simp only [malloc, hm],
      m.fresh hm, rfl⟩

end Code

/-! ### The blocks of a program -/

/-- The heap `h'` is `h` with these blocks. -/
structure Adds (h : Heap B) (bs : Multiset (ℕ × B)) (h' : Heap B) : Prop where
  nodup : (bs.map Prod.fst).Nodup
  fresh : ∀ p ∈ bs, h p.1 = none
  mem : ∀ p ∈ bs, h' p.1 = some p.2
  off : ∀ a, (∀ p ∈ bs, p.1 ≠ a) → h' a = h a

namespace Adds

variable {h h₁ h' : Heap B} {bs cs : Multiset (ℕ × B)} {a : ℕ} {b : B}

theorem zero (h : Heap B) : Adds h 0 h :=
  ⟨Multiset.nodup_zero, fun _ hp => absurd hp (Multiset.notMem_zero _),
    fun _ hp => absurd hp (Multiset.notMem_zero _), fun _ _ => rfl⟩

theorem eq_of_zero (hadds : Adds h 0 h') : h' = h :=
  funext fun a => hadds.off a fun _ hp => absurd hp (Multiset.notMem_zero _)

theorem eq_iff (hadds : Adds h bs h') : h' = h ↔ bs = 0 := by
  refine ⟨?_, ?_⟩
  · rintro rfl
    refine Multiset.eq_zero_of_forall_notMem fun p hp => ?_
    have hmem := hadds.mem p hp
    rw [hadds.fresh p hp] at hmem
    cases hmem
  · rintro rfl
    exact hadds.eq_of_zero

/-- What is not allocated is not one of the blocks. -/
theorem ne_of_none (hadds : Adds h bs h') (ha : h' a = none) : ∀ p ∈ bs, p.1 ≠ a := by
  rintro p hp rfl
  rw [hadds.mem p hp] at ha
  cases ha

/-- A new block. -/
theorem cons (hadds : Adds h bs h') (ha : h' a = none) (b : B) :
    Adds h ((a, b) ::ₘ bs) (Function.update h' a (some b)) := by
  have hne := hadds.ne_of_none ha
  refine ⟨?_, fun p hp => ?_, fun p hp => ?_, fun a' hoff => ?_⟩
  · rw [Multiset.map_cons, Multiset.nodup_cons]
    refine ⟨fun hmem => ?_, hadds.nodup⟩
    obtain ⟨p, hp, heq⟩ := Multiset.mem_map.mp hmem
    exact hne p hp heq
  · rcases Multiset.mem_cons.mp hp with rfl | hp
    · exact (hadds.off _ hne).symm.trans ha
    · exact hadds.fresh p hp
  · rcases Multiset.mem_cons.mp hp with rfl | hp
    · exact Function.update_self ..
    · rw [Function.update_of_ne (hne p hp)]
      exact hadds.mem p hp
  · have ha' : a' ≠ a := (hoff _ (Multiset.mem_cons_self _ _)).symm
    rw [Function.update_of_ne ha']
    exact hadds.off a' fun p hp => hoff p (Multiset.mem_cons_of_mem hp)

/-- One of the blocks, read. -/
theorem head (hadds : Adds h ((a, b) ::ₘ bs) h') : h' a = some b :=
  hadds.mem _ (Multiset.mem_cons_self _ _)

/-- One of the blocks, freed. -/
theorem uncons (hadds : Adds h ((a, b) ::ₘ bs) h') : Adds h bs (Function.update h' a none) := by
  have hnodup := hadds.nodup
  rw [Multiset.map_cons, Multiset.nodup_cons] at hnodup
  have hne : ∀ p ∈ bs, p.1 ≠ a := by
    rintro p hp rfl
    exact hnodup.1 (Multiset.mem_map.mpr ⟨p, hp, rfl⟩)
  refine ⟨hnodup.2, fun p hp => hadds.fresh p (Multiset.mem_cons_of_mem hp), fun p hp => ?_,
    fun a' hoff => ?_⟩
  · rw [Function.update_of_ne (hne p hp)]
    exact hadds.mem p (Multiset.mem_cons_of_mem hp)
  · rcases eq_or_ne a' a with rfl | ha'
    · rw [Function.update_self]
      exact (hadds.fresh _ (Multiset.mem_cons_self _ _)).symm
    · rw [Function.update_of_ne ha']
      refine hadds.off a' fun p hp => ?_
      rcases Multiset.mem_cons.mp hp with rfl | hp
      · exact ha'.symm
      · exact hoff p hp

/-- One of the blocks, written. -/
theorem set (hadds : Adds h ((a, b) ::ₘ bs) h') (b' : B) :
    Adds h ((a, b') ::ₘ bs) (Function.update h' a (some b')) := by
  have hfree := hadds.uncons.cons (Function.update_self ..) b'
  rwa [Function.update_idem] at hfree

/-- Blocks of one heap, and then of the next. -/
theorem trans (hbs : Adds h bs h₁) (hcs : Adds h₁ cs h') : Adds h (bs + cs) h' := by
  induction cs using Multiset.induction_on generalizing h' with
  | empty =>
    rw [hcs.eq_of_zero, add_zero]
    exact hbs
  | cons p cs ih =>
    obtain ⟨a, b⟩ := p
    -- the block is freed for the induction, and allocated again at the same address
    have hadd := (ih hcs.uncons).cons (Function.update_self ..) b
    rw [Function.update_idem, Function.update_eq_self_iff.mpr hcs.head.symm] at hadd
    rwa [Multiset.add_cons]

/-- Some of the blocks, and then the others. -/
theorem split (hadds : Adds h (bs + cs) h') : ∃ h₁, Adds h bs h₁ ∧ Adds h₁ cs h' := by
  induction cs using Multiset.induction_on generalizing h' with
  | empty =>
    rw [add_zero] at hadds
    exact ⟨h', hadds, zero h'⟩
  | cons p cs ih =>
    obtain ⟨a, b⟩ := p
    rw [Multiset.add_cons] at hadds
    obtain ⟨h₁, hbs, hcs⟩ := ih hadds.uncons
    have hadd := hcs.cons (Function.update_self ..) b
    rw [Function.update_idem, Function.update_eq_self_iff.mpr hadds.head.symm] at hadd
    exact ⟨h₁, hbs, hadd⟩

/-- There are finitely many blocks. -/
theorem infinite_free (hadds : Adds h bs h') (hfree : {a | h a = none}.Infinite) :
    {a | h' a = none}.Infinite := by
  have hfin : {a | a ∈ bs.map Prod.fst}.Finite := Multiset.finite_toSet _
  refine (hfree.sdiff hfin).mono ?_
  rintro a ⟨ha, hoff⟩
  exact (hadds.off a fun p hp hpa => hoff (Multiset.mem_map.mpr ⟨p, hp, hpa⟩)).trans ha

end Adds

/-! ### Allocators that fail -/

namespace Allocator

variable {m : Allocator B} {h h₁ : Heap B} {bs : Multiset (ℕ × B)}

/-- The allocator may return `NULL` to a program that has started on the heap `h`. -/
def Fails (m : Allocator B) (h : Heap B) : Prop :=
  ∃ k bs h' n, Adds h bs h' ∧ m.malloc k h' n = none

theorem Fails.of_adds (hbs : Adds h bs h₁) (hfails : m.Fails h₁) : m.Fails h := by
  obtain ⟨k, cs, h', n, hcs, hnull⟩ := hfails
  exact ⟨k, bs + cs, h', n, hbs.trans hcs, hnull⟩

open Classical in
/-- The allocator that hands out the first address that is free. -/
noncomputable def first (B : Type) : Allocator B where
  malloc _ h _ := if hfree : ∃ a, h a = none then some (Nat.find hfree) else none
  fresh ha := by
    split_ifs at ha with hfree
    cases ha
    exact Nat.find_spec hfree

theorem first_not_fails (hfree : {a | h a = none}.Infinite) : ¬ (first B).Fails h := by
  rintro ⟨k, bs, h', n, hadds, hnull⟩
  obtain ⟨a, ha⟩ := (hadds.infinite_free hfree).nonempty
  have hsome : (first B).malloc k h' n = some (Nat.find ⟨a, ha⟩) := dif_pos ⟨a, ha⟩
  rw [hsome] at hnull
  cases hnull

end Allocator

end Allocation
