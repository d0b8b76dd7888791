import ControllerSystem.Lib.LTS
import Mathlib.Logic.Function.Basic
import Mathlib.Order.Interval.Finset.Nat

/-!
# Counters that begin again

A counter that goes from 0 to `N`, and then on with 1. `system` is such a counter in a cell that
threads share without a lock: a call increments the cell, puts 1 there if it is behind the last
number, and returns what it reads in the cell at the end. Reads and writes are atomic, nothing else
is.

* `iterate_next` — the counter in closed form;
* `nodup_window` — as many numbers in a row as there are, are different;
* `run_call` — a call that nobody comes in between makes one step of the counter;
* `run_undisturbed` — the results of calls that may overlap, but write in nobody's call.
-/

namespace Counter

/-- The step of the counter. -/
def next (N : ℕ) (x : ℤ) : ℤ := if (N : ℤ) < x + 1 then 1 else x + 1

/-- The numbers of the counter, the first of them for 0. -/
def number (N i : ℕ) : ℤ := (i % N : ℕ) + 1

variable {N : ℕ} (hN : 0 < N)

include hN

theorem number_bounds (i : ℕ) : 1 ≤ number N i ∧ number N i ≤ N := by
  have hlt := Nat.mod_lt i hN
  rw [number]
  omega

theorem next_number (i : ℕ) : next N (number N i) = number N (i + 1) := by
  have hlt := Nat.mod_lt i hN
  have hmod : (i + 1) % N = (i % N + 1) % N := by rw [Nat.mod_add_mod]
  rw [next, number, number, hmod]
  by_cases hlast : i % N + 1 = N
  · -- the counter begins again
    rw [hlast, Nat.mod_self, if_pos (by omega)]
    rfl
  · rw [Nat.mod_eq_of_lt (by omega : i % N + 1 < N), if_neg (by omega)]
    rfl

/-- **The counter in closed form.** -/
theorem iterate_next (i : ℕ) : (next N)^[i + 1] 0 = number N i := by
  induction i with
  | zero =>
    show next N 0 = number N 0
    rw [next, number, Nat.zero_mod, if_neg (by omega)]
    rfl
  | succ i ih => rw [Function.iterate_succ_apply', ih, next_number hN]

omit hN in
/-- As many numbers in a row as there are, are different. -/
theorem nodup_window (n k : ℕ) : ((((List.range n).map (number N)).drop k).take N).Nodup := by
  rw [← List.map_drop, ← List.map_take]
  refine List.Nodup.map_on ?_ ?_
  · intro i hi j hj hij
    have hmem : ∀ i ∈ ((List.range n).drop k).take N, i ∈ Finset.Ico k (k + N) := by
      intro i hi
      obtain ⟨j, hj, rfl⟩ := List.getElem_of_mem hi
      have hlt : j < N := lt_of_lt_of_le hj (List.length_take_le N _)
      rw [List.getElem_take, List.getElem_drop, List.getElem_range, Finset.mem_Ico]
      exact ⟨Nat.le_add_right k j, Nat.add_lt_add_left hlt k⟩
    refine Nat.mod_injOn_Ico k N (hmem i hi) (hmem j hj) ?_
    exact Int.ofNat_inj.mp (add_right_cancel hij)
  · exact (List.nodup_range.sublist (List.drop_sublist k _)).sublist (List.take_sublist N _)

omit hN

/-! ### Threads that share a counter -/

section Threads

open Function

/-- The accesses of a call. -/
inductive Access
  /-- `++` reads the cell, -/
  | load
  /-- and writes one more than it has read. -/
  | store
  /-- The cell is compared with the last number. -/
  | test
  | restart
  /-- The cell is read for the result. -/
  | give
  deriving DecidableEq

/-- How far a thread is in its call. -/
inductive Phase
  | idle
  | loaded (a : ℤ)
  | stored
  | exceeded
  | stepped
  deriving DecidableEq

/-- The cell has been written, and the call has not returned. -/
def Phase.Busy : Phase → Prop
  | stored | exceeded | stepped => True
  | idle | loaded _ => False

/-- The cell and its threads. -/
structure Shared (Thread : Type) where
  cell : ℤ
  phase : Thread → Phase
  /-- What `++` was applied to, in the order of the writes. -/
  incremented : List ℤ
  /-- The results, in the order of the returns. -/
  results : List ℤ

variable {Thread : Type} [DecidableEq Thread]

/-- An access that is next in the call of its thread. -/
def step (N : ℕ) (s : Shared Thread) : Thread × Access → Option (Shared Thread)
  | (t, .load) =>
    match s.phase t with
    | .idle => some { s with phase := update s.phase t (.loaded s.cell) }
    | _ => none
  | (t, .store) =>
    match s.phase t with
    -- what is incremented is the value read, not the one in the cell by now
    | .loaded a => some { s with
        cell := a + 1
        phase := update s.phase t .stored
        incremented := s.incremented ++ [a] }
    | _ => none
  | (t, .test) =>
    match s.phase t with
    | .stored => some { s with
        phase := update s.phase t (if (N : ℤ) < s.cell then .exceeded else .stepped) }
    | _ => none
  | (t, .restart) =>
    match s.phase t with
    | .exceeded => some { s with cell := 1, phase := update s.phase t .stepped }
    | _ => none
  | (t, .give) =>
    match s.phase t with
    | .stepped => some { s with
        phase := update s.phase t .idle
        results := s.results ++ [s.cell] }
    | _ => none

/-- The counter, and threads that have not called yet. -/
def system (N : ℕ) (Thread : Type) [DecidableEq Thread] :
    LTS.System (Shared Thread) (Thread × Access) where
  init := ⟨0, fun _ => .idle, [], []⟩
  step := step N

/-- A write of the cell is in no call but its own. -/
def Undisturbed (s : Shared Thread) : Thread × Access → Prop
  | (t, .store) | (t, .restart) => ∀ u, u ≠ t → s.phase u = .idle
  | _ => True

section Step

variable {s s' : Shared Thread} {t : Thread}

theorem step_load_eq_some : step N s (t, .load) = some s' ↔
    s.phase t = .idle ∧ s' = { s with phase := update s.phase t (.loaded s.cell) } := by
  cases hphase : s.phase t <;> simp [step, hphase, eq_comm]

theorem step_store_eq_some : step N s (t, .store) = some s' ↔
    ∃ a, s.phase t = .loaded a ∧ s' = { s with
      cell := a + 1, phase := update s.phase t .stored, incremented := s.incremented ++ [a] } := by
  cases hphase : s.phase t <;> simp [step, hphase, eq_comm]

theorem step_test_eq_some : step N s (t, .test) = some s' ↔
    s.phase t = .stored ∧ s' = { s with
      phase := update s.phase t (if (N : ℤ) < s.cell then .exceeded else .stepped) } := by
  cases hphase : s.phase t <;> simp [step, hphase, eq_comm]

theorem step_restart_eq_some : step N s (t, .restart) = some s' ↔
    s.phase t = .exceeded ∧ s' = { s with cell := 1, phase := update s.phase t .stepped } := by
  cases hphase : s.phase t <;> simp [step, hphase, eq_comm]

theorem step_give_eq_some : step N s (t, .give) = some s' ↔
    s.phase t = .stepped ∧
      s' = { s with phase := update s.phase t .idle, results := s.results ++ [s.cell] } := by
  cases hphase : s.phase t <;> simp [step, hphase, eq_comm]

end Step

/-- A call that nobody comes in between makes one step of the counter, and returns it. -/
theorem run_call {s : Shared Thread} {t : Thread} (hidle : s.phase t = .idle) :
    ∃ ls, (∀ l ∈ ls, l.1 = t) ∧ (system N Thread).Run s ls { s with
      cell := next N s.cell
      incremented := s.incremented ++ [s.cell]
      results := s.results ++ [next N s.cell] } := by
  have hback : update s.phase t .idle = s.phase := by
    rw [← hidle]
    exact update_eq_self t s.phase
  by_cases hover : (N : ℤ) < s.cell + 1
  · refine ⟨[(t, .load), (t, .store), (t, .test), (t, .restart), (t, .give)], by simp, ?_⟩
    rw [← LTS.System.run_eq_some_iff]
    simp [LTS.System.run, system, step, next, hidle, hover, hback]
  · refine ⟨[(t, .load), (t, .store), (t, .test), (t, .give)], by simp, ?_⟩
    rw [← LTS.System.run_eq_some_iff]
    simp [LTS.System.run, system, step, next, hidle, hover, hback]

/-! ### Calls that overlap -/

/-- What the cell holds while a call that has read `x` is in some phase. -/
def Midway (N : ℕ) (x cell : ℤ) : Phase → Prop
  | .idle | .loaded _ => False
  | .stored => cell = x + 1
  | .exceeded => cell = x + 1 ∧ (N : ℤ) < cell
  | .stepped => cell = next N x

/-- **The invariant.** The calls that have written are steps of the counter, at most one of them
has not returned, and whoever has read the cell has what is in it. -/
structure Regular (N : ℕ) (s : Shared Thread) : Prop where
  incremented_eq : s.incremented =
    (List.range s.incremented.length).map fun i => (next N)^[i] 0
  results_eq : s.results = (List.range s.results.length).map fun i => (next N)^[i + 1] 0
  loaded : ∀ t a, s.phase t = .loaded a → a = s.cell
  stage : (∀ t, ¬ (s.phase t).Busy) ∧ s.incremented.length = s.results.length ∧
      s.cell = (next N)^[s.results.length] 0 ∨
    ∃ t, (∀ u, u ≠ t → ¬ (s.phase u).Busy) ∧
      s.incremented.length = s.results.length + 1 ∧
      Midway N ((next N)^[s.results.length] 0) s.cell (s.phase t)

section Regular

variable {s s' : Shared Thread} {t : Thread} {l : Thread × Access}

theorem regular_init : Regular N (system N Thread).init :=
  ⟨rfl, rfl, fun _ _ h => Phase.noConfusion h, .inl ⟨fun _ h => h, rfl, rfl⟩⟩

omit [DecidableEq Thread] in
/-- The stage is that of the busy thread. -/
theorem Regular.busy (h : Regular N s) (ht : (s.phase t).Busy) :
    (∀ u, u ≠ t → ¬ (s.phase u).Busy) ∧ s.incremented.length = s.results.length + 1 ∧
      Midway N ((next N)^[s.results.length] 0) s.cell (s.phase t) := by
  obtain ⟨hnone, -⟩ | ⟨u, hothers, hstage⟩ := h.stage
  · exact absurd ht (hnone t)
  · obtain rfl : t = u := by_contra fun hne => hothers t hne ht
    exact ⟨hothers, hstage⟩

/-- Nobody is busy where a thread that is not may write. -/
theorem Regular.quiet (h : Regular N s) (ht : ¬ (s.phase t).Busy)
    (hothers : ∀ u, u ≠ t → s.phase u = .idle) :
    s.incremented.length = s.results.length ∧ s.cell = (next N)^[s.results.length] 0 := by
  obtain ⟨-, hstage⟩ | ⟨u, -, -, hmid⟩ := h.stage
  · exact hstage
  · by_cases hu : u = t
    · subst hu
      revert ht hmid
      cases s.phase u <;> simp [Phase.Busy, Midway]
    · rw [hothers u hu] at hmid
      exact hmid.elim

/-- The numbers of one call more. -/
theorem map_range_concat {xs : List ℤ} {x : ℤ} {f : ℕ → ℤ}
    (hxs : xs = (List.range xs.length).map f) (hx : x = f xs.length) :
    xs ++ [x] = (List.range (xs ++ [x]).length).map f := by
  rw [List.length_append, List.length_singleton, List.range_succ, List.map_append, ← hxs, hx]
  rfl

/-- Whoever has read a cell has what is in it, after one thread has gone on. -/
theorem loaded_update {phase : Thread → Phase} {p : Phase} {c : ℤ}
    (hp : ∀ a, p = .loaded a → a = c)
    (hothers : ∀ u, u ≠ t → ∀ a, phase u = .loaded a → a = c) :
    ∀ u a, update phase t p u = .loaded a → a = c :=
  (forall_update_iff phase fun _ p => ∀ a, p = .loaded a → a = c).mpr ⟨hp, hothers⟩

theorem Regular.load (h : Regular N s) (hstep : step N s (t, .load) = some s') :
    Regular N s' := by
  obtain ⟨hidle, rfl⟩ := step_load_eq_some.mp hstep
  refine ⟨h.incremented_eq, h.results_eq, ?_, ?_⟩
  · refine loaded_update (fun a ha => (Phase.loaded.inj ha).symm) fun u _ a hu => ?_
    exact h.loaded u a hu
  -- the thread was not busy, and is not
  have hbusy : ∀ Q : Thread → Prop, (∀ u, Q u → ¬ (s.phase u).Busy) →
      ∀ u, Q u → ¬ (update s.phase t (.loaded s.cell) u).Busy := by
    intro Q hQ
    refine (forall_update_iff s.phase fun u p => Q u → ¬ p.Busy).mpr ⟨fun _ => id, fun u _ => hQ u⟩
  obtain ⟨hnone, hstage⟩ | ⟨u, hothers, hlength, hmid⟩ := h.stage
  · exact .inl ⟨fun u => hbusy (fun _ => True) (fun u _ => hnone u) u trivial, hstage⟩
  · have hut : u ≠ t := by
      rintro rfl
      rw [hidle] at hmid
      exact hmid
    refine .inr ⟨u, hbusy (· ≠ u) hothers, hlength, ?_⟩
    show Midway N _ _ (update s.phase t _ u)
    rw [update_of_ne hut]
    exact hmid

/-- A call that has written is in its phase, and nobody else is. -/
theorem Regular.of_busy {p : Phase} {c : ℤ} {inc : List ℤ} (h : Regular N s)
    (hp : ∀ a, p ≠ .loaded a)
    (hloaded : ∀ u, u ≠ t → ∀ a, s.phase u = .loaded a → a = c)
    (hothers : ∀ u, u ≠ t → ¬ (s.phase u).Busy)
    (hinc : inc = (List.range inc.length).map fun i => (next N)^[i] 0)
    (hlength : inc.length = s.results.length + 1)
    (hmid : Midway N ((next N)^[s.results.length] 0) c p) :
    Regular N ⟨c, update s.phase t p, inc, s.results⟩ := by
  refine ⟨hinc, h.results_eq, ?_, .inr ⟨t, fun u hu => ?_, hlength, ?_⟩⟩
  · exact loaded_update (fun a ha => absurd ha (hp a)) hloaded
  · show ¬ (update s.phase t p u).Busy
    rw [update_of_ne hu]
    exact hothers u hu
  · show Midway N _ c (update s.phase t p t)
    rw [update_self]
    exact hmid

/-- A thread that leaves the cell alone goes on in its call. -/
theorem Regular.advance {p : Phase} (h : Regular N s) (ht : (s.phase t).Busy)
    (hp : ∀ a, p ≠ .loaded a) (hmid : Midway N ((next N)^[s.results.length] 0) s.cell p) :
    Regular N { s with phase := update s.phase t p } := by
  obtain ⟨hothers, hlength, -⟩ := h.busy ht
  exact h.of_busy hp (fun u _ => h.loaded u) hothers h.incremented_eq hlength hmid

/-- A thread writes while nobody else is in a call. -/
theorem Regular.write {p : Phase} {c : ℤ} {inc : List ℤ} (h : Regular N s)
    (hothers : ∀ u, u ≠ t → s.phase u = .idle) (hp : ∀ a, p ≠ .loaded a)
    (hinc : inc = (List.range inc.length).map fun i => (next N)^[i] 0)
    (hlength : inc.length = s.results.length + 1)
    (hmid : Midway N ((next N)^[s.results.length] 0) c p) :
    Regular N ⟨c, update s.phase t p, inc, s.results⟩ := by
  refine h.of_busy hp (fun u hu a ha => ?_) (fun u hu => ?_) hinc hlength hmid
  · rw [hothers u hu] at ha
    cases ha
  · rw [hothers u hu]
    exact id

theorem Regular.store (h : Regular N s) (hok : Undisturbed s (t, .store))
    (hstep : step N s (t, .store) = some s') : Regular N s' := by
  obtain ⟨a, hphase, rfl⟩ := step_store_eq_some.mp hstep
  have hidle : ¬ (s.phase t).Busy := by rw [hphase]; exact id
  obtain ⟨hlength, hcell⟩ := h.quiet hidle hok
  -- what the thread has read is still in the cell
  have ha : a = (next N)^[s.results.length] 0 := (h.loaded t a hphase).trans hcell
  refine h.write hok (fun _ => Phase.noConfusion) (map_range_concat h.incremented_eq ?_) ?_ ?_
  · rw [ha, hlength]
  · rw [List.length_append, hlength, List.length_singleton]
  · show a + 1 = _
    rw [ha]

theorem Regular.test (h : Regular N s) (hstep : step N s (t, .test) = some s') :
    Regular N s' := by
  obtain ⟨hphase, rfl⟩ := step_test_eq_some.mp hstep
  have ht : (s.phase t).Busy := by rw [hphase]; trivial
  have hmid : s.cell = (next N)^[s.results.length] 0 + 1 := by
    simpa only [hphase, Midway] using (h.busy ht).2.2
  split
  case isTrue hlt => exact h.advance ht (fun _ => Phase.noConfusion) ⟨hmid, hlt⟩
  case isFalse hlt =>
    refine h.advance ht (fun _ => Phase.noConfusion) ?_
    show s.cell = next N _
    rw [next, ← hmid, if_neg hlt]

theorem Regular.restart (h : Regular N s) (hok : Undisturbed s (t, .restart))
    (hstep : step N s (t, .restart) = some s') : Regular N s' := by
  obtain ⟨hphase, rfl⟩ := step_restart_eq_some.mp hstep
  have ht : (s.phase t).Busy := by rw [hphase]; trivial
  obtain ⟨-, hlength, hmid⟩ := h.busy ht
  rw [hphase] at hmid
  obtain ⟨hcell, hlt⟩ := hmid
  refine h.write hok (fun _ => Phase.noConfusion) h.incremented_eq hlength ?_
  show 1 = next N _
  rw [next, ← hcell, if_pos hlt]

theorem Regular.give (h : Regular N s) (hstep : step N s (t, .give) = some s') :
    Regular N s' := by
  obtain ⟨hphase, rfl⟩ := step_give_eq_some.mp hstep
  have ht : (s.phase t).Busy := by rw [hphase]; trivial
  obtain ⟨hothers, hlength, hmid⟩ := h.busy ht
  rw [hphase] at hmid
  have hcell : s.cell = (next N)^[s.results.length + 1] 0 := by
    rw [Function.iterate_succ_apply']
    exact hmid
  refine ⟨h.incremented_eq, map_range_concat h.results_eq hcell, ?_, .inl ⟨?_, ?_, ?_⟩⟩
  · exact loaded_update (fun a => Phase.noConfusion) fun u _ => h.loaded u
  · exact (forall_update_iff s.phase fun _ p => ¬ p.Busy).mpr ⟨id, hothers⟩
  · rw [hlength, List.length_append, List.length_singleton]
  · rw [hcell, List.length_append, List.length_singleton]

/-- **Step lemma.** -/
theorem Regular.step (h : Regular N s) (hok : Undisturbed s l)
    (hstep : Counter.step N s l = some s') : Regular N s' := by
  obtain ⟨t, access⟩ := l
  cases access with
  | load => exact h.load hstep
  | store => exact h.store hok hstep
  | test => exact h.test hstep
  | restart => exact h.restart hok hstep
  | give => exact h.give hstep

end Regular

/-- **Calls that overlap.** Where no call writes during another one, the results are the numbers of
the counter, and so is what was incremented. -/
theorem run_undisturbed {s : Shared Thread} {ls : List (Thread × Access)}
    (h : (system N Thread).RunWhere Undisturbed (system N Thread).init ls s) :
    s.results = (List.range s.results.length).map (fun i => (next N)^[i + 1] 0) ∧
      s.incremented = (List.range s.incremented.length).map fun i => (next N)^[i] 0 := by
  have hregular : Regular N s := by
    refine h.invariant (fun s l s' hs hok hstep => ?_) regular_init
    exact hs.step hok hstep
  exact ⟨hregular.results_eq, hregular.incremented_eq⟩

end Threads

end Counter
