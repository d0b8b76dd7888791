import Mathlib.Data.List.Basic

/-!
# Labelled transition systems and their finite runs

A `System` is an initial state and an executable step: `sys.step s l` is the state the label
`l` leads to, and `none` when `l` is not enabled in `s`. Every choice of the environment is
carried by the label.

A finite run is the relation `sys.RunWhere ok s ls s'`: the labels `ls`, taken in order, lead
from `s` to `s'`, and every step met the guard `ok`. `sys.Run` is the run without a guard.

* `RunWhere.invariant` — what every guarded step preserves, every guarded run preserves;
* `RunWhere.simulate` — when every guarded step of one system is a guarded run of another one,
  every guarded run is;
* `RunWhere.filterMap` — when every step of one system is a step of another one, or none, as a
  function of its label says, so is every run;
* `RunWhere.rank` — what waits for `Q` with a rank that some steps lower waits for no more of them
  than its rank;
* `run_eq_some_iff` — replaying a list of labels decides whether it is a run.
-/

namespace LTS

/-- An item of a history that has grown by one. -/
theorem getElem?_concat_cases {α : Type} {xs : List α} {x y : α} {k : ℕ}
    (h : (xs ++ [x])[k]? = some y) : xs[k]? = some y ∨ k = xs.length ∧ x = y := by
  rcases Nat.lt_trichotomy k xs.length with hlt | rfl | hgt
  · rw [List.getElem?_append_left hlt] at h
    exact .inl h
  · rw [List.getElem?_concat_length] at h
    exact .inr ⟨rfl, Option.some.inj h⟩
  · have hlength : (xs ++ [x]).length ≤ k := by
      rw [List.length_append, List.length_singleton]
      exact hgt
    rw [List.getElem?_eq_none hlength] at h
    cases h

/-- An initial state and a step that is enabled on some of the labels. -/
structure System (State Label : Type) where
  /-- The unique initial state of the system. -/
  init : State
  step : State → Label → Option State

namespace System

variable {State Label : Type}

/-- Finite runs all of whose steps meet the guard `ok`, as the labels taken. -/
inductive RunWhere (sys : System State Label) (ok : State → Label → Prop) :
    State → List Label → State → Prop
  | nil (s : State) : RunWhere sys ok s [] s
  | cons {s : State} {l : Label} {s₁ : State} {ls : List Label} {s₂ : State} :
      ok s l → sys.step s l = some s₁ → RunWhere sys ok s₁ ls s₂ →
      RunWhere sys ok s (l :: ls) s₂

/-- Finite runs. -/
def Run (sys : System State Label) : State → List Label → State → Prop :=
  sys.RunWhere fun _ _ => True

/-- The states some run from the initial state leads to. -/
def Reachable (sys : System State Label) (s : State) : Prop :=
  ∃ ls, sys.Run sys.init ls s

/-- Replay a list of labels; `none` if some label along the way is not enabled. -/
def run (sys : System State Label) (s : State) (ls : List Label) : Option State :=
  ls.foldlM sys.step s

variable {sys : System State Label} {ok : State → Label → Prop}

@[simp] theorem runWhere_nil_iff {s s' : State} : sys.RunWhere ok s [] s' ↔ s = s' := by
  constructor
  · intro h
    cases h
    rfl
  · rintro rfl
    exact .nil s

@[simp] theorem runWhere_cons_iff {s s' : State} {l : Label} {ls : List Label} :
    sys.RunWhere ok s (l :: ls) s' ↔
      ok s l ∧ ∃ s₁, sys.step s l = some s₁ ∧ sys.RunWhere ok s₁ ls s' := by
  constructor
  · intro h
    cases h with
    | cons hok hstep hrun => exact ⟨hok, _, hstep, hrun⟩
  · rintro ⟨hok, s₁, hstep, hrun⟩
    exact .cons hok hstep hrun

theorem RunWhere.append {s s₁ s₂ : State} {ls ls' : List Label}
    (h : sys.RunWhere ok s ls s₁) (h' : sys.RunWhere ok s₁ ls' s₂) :
    sys.RunWhere ok s (ls ++ ls') s₂ := by
  induction h with
  | nil s => exact h'
  | cons hok hstep _ ih => exact .cons hok hstep (ih h')

/-- Dropping the guard. -/
theorem RunWhere.toRun {s s' : State} {ls : List Label} (h : sys.RunWhere ok s ls s') :
    sys.Run s ls s' := by
  induction h with
  | nil s => exact .nil s
  | cons _ hstep _ ih => exact .cons trivial hstep ih

/-- A guard on the labels alone. -/
theorem Run.runWhere {s s' : State} {ls : List Label} (h : sys.Run s ls s')
    (hok : ∀ l ∈ ls, ∀ s, ok s l) : sys.RunWhere ok s ls s' := by
  induction h with
  | nil s => exact .nil s
  | @cons s l s₁ ls s₂ _ hstep _ ih =>
    -- the labels of the rest are labels of the whole run
    refine .cons (hok l List.mem_cons_self s) hstep (ih fun l hl => ?_)
    exact hok l (List.mem_cons_of_mem _ hl)

/-- The guard was met on the way. -/
theorem RunWhere.of_prefix {s s' s₁ : State} {ls ls₁ : List Label} (h : sys.RunWhere ok s ls s')
    (hpre : ls₁ <+: ls) (hrun : sys.Run s ls₁ s₁) : sys.RunWhere ok s ls₁ s₁ := by
  induction hrun generalizing ls with
  | nil s => exact .nil s
  | cons _ hstep _ ih =>
    obtain ⟨ls', rfl⟩ := hpre
    cases h with
    | cons hok hstep' hrest =>
      -- a label leads to one state only
      rw [hstep] at hstep'
      cases hstep'
      exact .cons hok hstep (ih hrest (List.prefix_append _ _))

/-- Replaying the labels decides the run relation. -/
theorem run_eq_some_iff {s s' : State} {ls : List Label} :
    sys.run s ls = some s' ↔ sys.Run s ls s' := by
  induction ls generalizing s with
  | nil => simp [run, Run]
  | cons l ls ih =>
    cases hstep : sys.step s l with
    | none =>
      -- the label is not enabled, so both sides are false
      simp [run, Run, hstep]
    | some s₁ =>
      have h₁ := @ih s₁
      simp only [run, Run] at h₁
      simp [run, Run, hstep, h₁]

theorem Reachable.run {s s' : State} {ls : List Label}
    (h : sys.Reachable s) (hrun : sys.Run s ls s') : sys.Reachable s' := by
  obtain ⟨ls₀, h₀⟩ := h
  exact ⟨ls₀ ++ ls, h₀.append hrun⟩

/-- **Invariant rule for guarded runs.** -/
theorem RunWhere.invariant {I : State → Prop}
    (hstep : ∀ s l s', I s → ok s l → sys.step s l = some s' → I s')
    {s s' : State} {ls : List Label} (h : sys.RunWhere ok s ls s') (hI : I s) : I s' := by
  induction h with
  | nil s => exact hI
  | cons hok hs _ ih => exact ih (hstep _ _ _ hI hok hs)

/-- **Invariant rule for reachable states.** -/
theorem Reachable.invariant {I : State → Prop} (hinit : I sys.init)
    (hstep : ∀ s l s', I s → sys.step s l = some s' → I s')
    {s : State} (h : sys.Reachable s) : I s := by
  obtain ⟨ls, hrun⟩ := h
  exact hrun.invariant (fun s l s' hI _ => hstep s l s' hI) hinit

/-- **Ranking rule.** Let every step from a state in `I` either reach `Q` or stay in `I`, with
the rank lowered when its label is one of `p`. Then a run from such a state comes by `Q`, or it has
no more labels of `p` than the rank it has used up. -/
theorem RunWhere.rank {I Q : State → Prop} (rank : State → ℕ) (p : Label → Bool)
    (hstep : ∀ s l s', I s → ok s l → sys.step s l = some s' →
      Q s' ∨ I s' ∧ rank s' + (if p l then 1 else 0) ≤ rank s)
    {s s' : State} {ls : List Label} (h : sys.RunWhere ok s ls s') (hs : I s) :
    (∃ ls₁ s₁, ls₁ <+: ls ∧ sys.RunWhere ok s ls₁ s₁ ∧ Q s₁) ∨
      I s' ∧ rank s' + ls.countP p ≤ rank s := by
  induction h with
  | nil s => exact .inr ⟨hs, Nat.le_refl _⟩
  | @cons s l s₁ ls s₂ hok hstep' _ ih =>
    rcases hstep s l s₁ hs hok hstep' with hQ | ⟨hI, hrank⟩
    · exact .inl ⟨[l], s₁, ⟨ls, rfl⟩, .cons hok hstep' (.nil s₁), hQ⟩
    · rcases ih hI with ⟨ls₁, s₃, hpre, hrun, hQ⟩ | ⟨hI', hrank'⟩
      · refine .inl ⟨l :: ls₁, s₃, ?_, .cons hok hstep' hrun, hQ⟩
        exact List.cons_prefix_cons.mpr ⟨rfl, hpre⟩
      · refine .inr ⟨hI', ?_⟩
        rw [List.countP_cons]
        omega

/-- **Simulation.** A function between the states that turns every guarded step into a guarded run
turns guarded runs into guarded runs. -/
theorem RunWhere.simulate {State' Label' : Type} {sys' : System State' Label'}
    {ok' : State' → Label' → Prop} (abs : State → State')
    (hstep : ∀ s l s', ok s l → sys.step s l = some s' →
      ∃ ls', sys'.RunWhere ok' (abs s) ls' (abs s'))
    {s s' : State} {ls : List Label} (h : sys.RunWhere ok s ls s') :
    ∃ ls', sys'.RunWhere ok' (abs s) ls' (abs s') := by
  induction h with
  | nil s => exact ⟨[], .nil _⟩
  | cons hok hs _ ih =>
    -- the run that simulates the first step goes before the one for the rest
    obtain ⟨ls₁, h₁⟩ := hstep _ _ _ hok hs
    obtain ⟨ls₂, h₂⟩ := ih
    exact ⟨ls₁ ++ ls₂, h₁.append h₂⟩

/-- **Projection.** Where the steps keep `I`, and a step with the label `l` is the step `f l` of
another system, or none if there is no `f l`, a run is a run of the other system. -/
theorem RunWhere.filterMap {State' Label' : Type} {sys' : System State' Label'} {I : State → Prop}
    (abs : State → State') (f : Label → Option Label')
    (hI : ∀ s l s', I s → sys.step s l = some s' → I s')
    (hnone : ∀ s l s', I s → sys.step s l = some s' → f l = none → abs s' = abs s)
    (hsome : ∀ s l s' l', I s → sys.step s l = some s' → f l = some l' →
      sys'.step (abs s) l' = some (abs s'))
    {s s' : State} {ls : List Label} (h : sys.RunWhere ok s ls s') (hs : I s) :
    sys'.Run (abs s) (ls.filterMap f) (abs s') := by
  induction h with
  | nil s => exact .nil _
  | @cons s l s₁ ls s₂ _ hstep _ ih =>
    have hrest : sys'.Run (abs s₁) (ls.filterMap f) (abs s₂) := ih (hI s l s₁ hs hstep)
    cases hf : f l with
    | none =>
      rw [List.filterMap_cons_none hf, ← hnone s l s₁ hs hstep hf]
      exact hrest
    | some l' =>
      rw [List.filterMap_cons_some hf]
      exact .cons trivial (hsome s l s₁ l' hs hstep hf) hrest

end System
end LTS
