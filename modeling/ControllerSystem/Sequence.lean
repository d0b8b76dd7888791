import ControllerSystem.ControlCenter.Center
import ControllerSystem.Controller.Device
import ControllerSystem.Lib.Counter

/-!
# Sequence numbers

`getSequence` of the ControlCenter and `getSerialSequence` of the Controller step a signed counter
and return it. Below the largest `int` the counter begins again with 1. Nothing locks the counter:
the message loop and the keep-alive thread of the ControlCenter both call `getSequence`, and all
threads of the Controller `getSerialSequence`.

* `sequenceAfter_eq`, `serialSequenceAfter_eq` — the steps of the counters;
* `nextSequence_call`, `getSerialSequence_call` — the handlers' programs make a call that nobody
  comes in between;
* `getSequence_overlapping` — two calls that return one number;
* `numbered_of_undisturbed` — the numbers of any number of calls, where none writes during another.
-/

open Words Calls Counter

namespace ControllerSystem

/-- The number of different sequence numbers. -/
def sequenceNumbers : ℕ := 0x7FFFFFFE

/-- The results of some calls, and the values that `++` was applied to: the results go round in the
numbers from 1 on, none comes again before all have been there, and no increment overflows. -/
structure Numbered (results loaded : List ℤ) : Prop where
  nth : ∀ i (h : i < results.length), results[i] = (i % sequenceNumbers : ℕ) + 1
  bounds : ∀ r ∈ results, 1 ≤ r ∧ r ≤ 0x7FFFFFFE
  noOverflow : ∀ m ∈ loaded, 0 ≤ m ∧ m + 1 ≤ 0x7FFFFFFF
  distinct : ∀ k, ((results.drop k).take sequenceNumbers).Nodup

theorem sequenceNumbers_pos : 0 < sequenceNumbers := by decide

/-- The comparison of the code. -/
theorem sequenceNumbers_lt_iff (n : ℤ) : 0x7FFFFFFF ≤ n ↔ (sequenceNumbers : ℤ) < n := by
  rw [sequenceNumbers]
  omega

/-- The numbers of a counter that starts with 0. -/
theorem numbered_iterate (n m : ℕ) :
    Numbered ((List.range n).map fun i => (Counter.next sequenceNumbers)^[i + 1] 0)
      ((List.range m).map fun i => (Counter.next sequenceNumbers)^[i] 0) := by
  have hnumber : ((List.range n).map fun i => (Counter.next sequenceNumbers)^[i + 1] 0) =
      (List.range n).map (number sequenceNumbers) :=
    List.map_congr_left fun i _ => iterate_next sequenceNumbers_pos i
  have hbounds := number_bounds sequenceNumbers_pos
  rw [hnumber]
  refine ⟨fun i h => ?_, fun r hr => ?_, fun m hm => ?_, nodup_window n⟩
  · rw [List.getElem_map, List.getElem_range]
    rfl
  · obtain ⟨i, -, rfl⟩ := List.mem_map.mp hr
    exact hbounds i
  · obtain ⟨i, -, rfl⟩ := List.mem_map.mp hm
    cases i with
    | zero => decide
    | succ i =>
      have hi := hbounds i
      rw [iterate_next sequenceNumbers_pos]
      simp only [sequenceNumbers] at hi ⊢
      omega

variable (Thread : Type) [DecidableEq Thread]

namespace ControlCenter

/-- `getSequence` and its counter, which any threads call. The comparison of the code is that of
`Counter.step`, by `sequenceNumbers_lt_iff`. -/
def getSequence : LTS.System (Shared Thread) (Thread × Access) :=
  Counter.system sequenceNumbers Thread

theorem sequenceAfter_eq (msnSequence : ℤ) :
    sequenceAfter msnSequence = Counter.next sequenceNumbers msnSequence :=
  if_congr (sequenceNumbers_lt_iff _) rfl rfl

variable {Thread} {c : Shared Thread} {t : Thread}

/-- The program of the handlers is a call that nobody comes in between. -/
theorem nextSequence_call {s s' : Center} {chs : List CenterChoice} {r : ℤ} {tr : List CenterEvent}
    (h : Center.run nextSequence s chs = some (r, s', tr)) (hidle : c.phase t = .idle)
    (hcell : c.cell = s.msnSequence) :
    ∃ ls, (∀ l ∈ ls, l.1 = t) ∧ (getSequence Thread).Run c ls { c with
      cell := s'.msnSequence
      incremented := c.incremented ++ [s.msnSequence]
      results := c.results ++ [r] } := by
  obtain ⟨ch, chs₁, tr₁, -, rfl, h₁⟩ := Prog.runIn_call_bind_eq_some.mp h
  obtain ⟨ch', chs₂, tr₂, -, rfl, h₂⟩ := Prog.runIn_call_bind_eq_some.mp h₁
  obtain ⟨-, rfl, rfl, rfl⟩ := Prog.runIn_ret_eq_some.mp h₂
  have hcall := run_call (N := sequenceNumbers) hidle
  rw [hcell, ← sequenceAfter_eq] at hcall
  exact hcall

end ControlCenter

namespace Controller

/-- `getSerialSequence` and its counter. -/
def serialSequence : LTS.System (Shared Thread) (Thread × Access) :=
  Counter.system sequenceNumbers Thread

theorem serialSequenceAfter_eq (msnSequence : ℤ) :
    serialSequenceAfter msnSequence = Counter.next sequenceNumbers msnSequence :=
  if_congr (sequenceNumbers_lt_iff _) rfl rfl

variable {Thread} {c : Shared Thread} {t : Thread}

theorem getSerialSequence_call {s s' : Device} {chs : List DeviceChoice} {r : ℤ}
    {tr : List ControllerEvent} (h : Device.run getSerialSequence s chs = some (r, s', tr))
    (hidle : c.phase t = .idle) (hcell : c.cell = s.msnSequence) :
    ∃ ls, (∀ l ∈ ls, l.1 = t) ∧ (serialSequence Thread).Run c ls { c with
      cell := s'.msnSequence
      incremented := c.incremented ++ [s.msnSequence]
      results := c.results ++ [r] } := by
  obtain ⟨ch, chs₁, tr₁, -, rfl, h₁⟩ := Prog.runIn_call_bind_eq_some.mp h
  obtain ⟨ch', chs₂, tr₂, -, rfl, h₂⟩ := Prog.runIn_call_bind_eq_some.mp h₁
  obtain ⟨-, rfl, rfl, rfl⟩ := Prog.runIn_ret_eq_some.mp h₂
  have hcall := run_call (N := sequenceNumbers) hidle
  rw [hcell, ← serialSequenceAfter_eq] at hcall
  exact hcall

end Controller

variable {Thread}

/-- **Sequence numbers.** Any calls of either function from any threads, none of which writes the
counter during a call of another thread. -/
theorem numbered_of_undisturbed :
    (∀ ls s, (ControlCenter.getSequence Thread).RunWhere Undisturbed
        (ControlCenter.getSequence Thread).init ls s → Numbered s.results s.incremented) ∧
    ∀ ls s, (Controller.serialSequence Thread).RunWhere Undisturbed
        (Controller.serialSequence Thread).init ls s → Numbered s.results s.incremented := by
  have hnumbered : ∀ ls s, (Counter.system sequenceNumbers Thread).RunWhere Undisturbed
      (Counter.system sequenceNumbers Thread).init ls s →
      Numbered s.results s.incremented := by
    intro ls s h
    obtain ⟨hresults, hincremented⟩ := run_undisturbed h
    rw [hresults, hincremented]
    exact numbered_iterate _ _
  exact ⟨hnumbered, hnumbered⟩

/-- Two threads in turn; the second one reads the counter before the first one returns. -/
theorem numbered_turns : Numbered [1, 2] [0, 1] := by
  have hrun := (@numbered_of_undisturbed Bool _).1
    [(false, .load), (false, .store), (false, .test), (true, .load), (false, .give),
      (true, .store), (true, .test), (true, .give)]
  refine hrun _ <| .cons trivial rfl <| .cons ?first rfl <| .cons trivial rfl <|
    .cons trivial rfl <| .cons trivial rfl <| .cons ?second rfl <| .cons trivial rfl <|
    .cons trivial rfl <| .nil _
  · intro u hu
    cases u
    · exact absurd rfl hu
    · rfl
  · intro u hu
    cases u
    · rfl
    · exact absurd rfl hu

/-- Both threads read the counter before either has written it: they return one number. -/
theorem getSequence_overlapping :
    (¬ ∀ ls s, (ControlCenter.getSequence Bool).Run (ControlCenter.getSequence Bool).init ls s →
      Numbered s.results s.incremented) ∧
    ¬ ∀ ls s, (Controller.serialSequence Bool).Run (Controller.serialSequence Bool).init ls s →
      Numbered s.results s.incremented := by
  have hoverlap : ¬ ∀ ls s, (Counter.system sequenceNumbers Bool).Run
      (Counter.system sequenceNumbers Bool).init ls s → Numbered s.results s.incremented := by
    intro hall
    have hnumbered := hall
      [(false, .load), (true, .load), (false, .store), (false, .test), (false, .give),
        (true, .store), (true, .test), (true, .give)] _ (LTS.System.run_eq_some_iff.mp rfl)
    -- both results are 1, and the second call should return 2
    have hsecond : (1 : ℤ) = 2 := hnumbered.nth 1 (by decide)
    exact absurd hsecond (by decide)
  exact ⟨hoverlap, hoverlap⟩

end ControllerSystem
