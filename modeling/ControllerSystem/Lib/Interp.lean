import ControllerSystem.Lib.Calls

/-!
# Programs whose calls are carried out by programs

`interp f p` is the program `p` with each of its calls `c` carried out by the program `f c`, one
level down. Carrying out a call may fail with an exception: then nothing behind the call is done,
and the exception is the result of the whole program. There is no handler; a program that catches
an exception is one whose result is no exception.

* `exec_interp_bind` — the executions of a sequence;
* `Exec.of_interp` — an execution without an exception is one of the program above, with the
  results of the programs below.
-/

namespace Calls.Prog

variable {Call Call' : Type} {Res : Call → Type} {Res' : Call' → Type} {α β ε : Type}

/-- Go on unless there was an exception. -/
def onOk (g : α → Prog Call' Res' (Except ε β)) : Except ε α → Prog Call' Res' (Except ε β)
  | .ok a => g a
  | .error e => .ret (.error e)

/-- Carry out the calls of a program. -/
def interp (f : (c : Call) → Prog Call' Res' (Except ε (Res c))) :
    Prog Call Res α → Prog Call' Res' (Except ε α)
  | .ret a => .ret (.ok a)
  | .call c k => f c >>= onOk fun r => interp f (k r)

variable {f : (c : Call) → Prog Call' Res' (Except ε (Res c))}

/-- A sequence of two programs is carried out one behind the other. -/
theorem interp_bind (p : Prog Call Res α) (k : α → Prog Call Res β) :
    interp f (p >>= k) = interp f p >>= onOk fun a => interp f (k a) := by
  induction p with
  | ret a => rfl
  | call c q ih =>
    rw [call_bind, interp, interp, bind_assoc]
    congr 1
    funext r
    cases r with
    | ok r => exact ih r
    | error e => rfl

/-- A call is carried out, and the program goes on unless there was an exception. -/
theorem exec_interp_call {c : Call} {k : Res c → Prog Call Res α}
    {tr : List (Event Call' Res')} {res : Except ε α} :
    (interp f (.call c k)).Exec tr res ↔
      (∃ tr₁ r tr₂, tr = tr₁ ++ tr₂ ∧ (f c).Exec tr₁ (.ok r) ∧ (interp f (k r)).Exec tr₂ res) ∨
      ∃ e, res = .error e ∧ (f c).Exec tr (.error e) := by
  rw [interp, exec_bind]
  constructor
  · rintro ⟨tr₁, r, tr₂, rfl, h₁, h₂⟩
    cases r with
    | ok r => exact .inl ⟨tr₁, r, tr₂, rfl, h₁, h₂⟩
    | error e =>
      -- nothing is done behind the exception
      obtain ⟨rfl, rfl⟩ := h₂
      exact .inr ⟨e, rfl, by rwa [List.append_nil]⟩
  · rintro (⟨tr₁, r, tr₂, rfl, h₁, h₂⟩ | ⟨e, rfl, h⟩)
    · exact ⟨tr₁, .ok r, tr₂, rfl, h₁, h₂⟩
    · exact ⟨tr, .error e, [], by rw [List.append_nil], h, rfl, rfl⟩

/-- A program of one call. -/
theorem exec_interp_single {c : Call} {tr : List (Event Call' Res')} {res : Except ε (Res c)} :
    (interp f (.call c .ret)).Exec tr res ↔ (f c).Exec tr res := by
  rw [exec_interp_call]
  constructor
  · rintro (⟨tr₁, r, tr₂, rfl, h₁, rfl, rfl⟩ | ⟨e, rfl, h⟩)
    · rwa [List.append_nil]
    · exact h
  · intro h
    cases res with
    | ok r => exact .inl ⟨tr, r, [], (List.append_nil tr).symm, h, rfl, rfl⟩
    | error e => exact .inr ⟨e, rfl, h⟩

/-- The executions of a sequence of two programs. -/
theorem exec_interp_bind {p : Prog Call Res α} {k : α → Prog Call Res β}
    {tr : List (Event Call' Res')} {res : Except ε β} :
    (interp f (p >>= k)).Exec tr res ↔
      (∃ tr₁ a tr₂, tr = tr₁ ++ tr₂ ∧ (interp f p).Exec tr₁ (.ok a) ∧
        (interp f (k a)).Exec tr₂ res) ∨
      ∃ e, res = .error e ∧ (interp f p).Exec tr (.error e) := by
  induction p generalizing tr with
  | ret a =>
    -- the first program makes no call and throws nothing
    constructor
    · intro h
      exact .inl ⟨[], a, tr, rfl, ⟨rfl, rfl⟩, h⟩
    · rintro (⟨tr₁, a', tr₂, rfl, ⟨rfl, heq⟩, h⟩ | ⟨e, rfl, -, heq⟩)
      · cases heq
        exact h
      · cases heq
  | call c q ih =>
    rw [call_bind, exec_interp_call]
    constructor
    · rintro (⟨tr₁, r, tr₂, rfl, h₁, h₂⟩ | ⟨e, rfl, h⟩)
      · -- what follows the first call is cut by the induction hypothesis
        rcases (ih r).mp h₂ with ⟨tr₃, a, tr₄, rfl, h₃, h₄⟩ | ⟨e, rfl, h₃⟩
        · exact .inl ⟨tr₁ ++ tr₃, a, tr₄, by rw [List.append_assoc],
            exec_interp_call.mpr (.inl ⟨tr₁, r, tr₃, rfl, h₁, h₃⟩), h₄⟩
        · exact .inr ⟨e, rfl, exec_interp_call.mpr (.inl ⟨tr₁, r, tr₂, rfl, h₁, h₃⟩)⟩
      · exact .inr ⟨e, rfl, exec_interp_call.mpr (.inr ⟨e, rfl, h⟩)⟩
    · rintro (⟨tr₁, a, tr₂, rfl, h₁, h₂⟩ | ⟨e, rfl, h⟩)
      · rcases exec_interp_call.mp h₁ with ⟨tr₃, r, tr₄, rfl, h₃, h₄⟩ | ⟨e, heq, -⟩
        · exact .inl ⟨tr₃, r, tr₄ ++ tr₂, by rw [List.append_assoc], h₃,
            (ih r).mpr (.inl ⟨tr₄, a, tr₂, rfl, h₄, h₂⟩)⟩
        · cases heq
      · rcases exec_interp_call.mp h with ⟨tr₃, r, tr₄, rfl, h₃, h₄⟩ | ⟨e', heq, h₃⟩
        · exact .inl ⟨tr₃, r, tr₄, rfl, h₃, (ih r).mpr (.inr ⟨e, rfl, h₄⟩)⟩
        · obtain rfl : e = e' := by cases heq; rfl
          exact .inr ⟨e, rfl, h₃⟩

/-- The calls below are those that carry out the calls above. -/
theorem Forall.interp {P : Call → Prop} {Q : Call' → Prop} (hf : ∀ c, P c → (f c).Forall Q)
    {p : Prog Call Res α} (hp : p.Forall P) : (Prog.interp f p).Forall Q := by
  induction p with
  | ret a => trivial
  | call c k ih =>
    refine (hf c hp.1).bind fun r => ?_
    cases r with
    | ok r => exact ih r (hp.2 r)
    | error e => trivial

/-- An execution without an exception is an execution of the program above. Where what the
programs below emit is what their calls emit above, the two emit the same. -/
theorem Exec.of_interp {γ : Type} {g : Event Call Res → Option γ}
    {g' : Event Call' Res' → Option γ}
    (hg : ∀ c tr r, (f c).Exec tr (.ok r) →
      tr.filterMap g' = [(⟨c, r⟩ : Event Call Res)].filterMap g)
    {p : Prog Call Res α} {tr : List (Event Call' Res')} {a : α}
    (h : (interp f p).Exec tr (.ok a)) :
    ∃ tr', p.Exec tr' a ∧ tr.filterMap g' = tr'.filterMap g := by
  induction p generalizing tr with
  | ret b =>
    obtain ⟨rfl, heq⟩ := h
    cases heq
    exact ⟨[], ⟨rfl, rfl⟩, rfl⟩
  | call c k ih =>
    rcases exec_interp_call.mp h with ⟨tr₁, r, tr₂, rfl, h₁, h₂⟩ | ⟨e, heq, -⟩
    · obtain ⟨tr', hexec, heq⟩ := ih r h₂
      refine ⟨⟨c, r⟩ :: tr', ⟨r, tr', rfl, hexec⟩, ?_⟩
      calc (tr₁ ++ tr₂).filterMap g'
          = tr₁.filterMap g' ++ tr₂.filterMap g' := List.filterMap_append
        _ = [(⟨c, r⟩ : Event Call Res)].filterMap g ++ tr'.filterMap g := by
          rw [hg c tr₁ r h₁, heq]
        _ = (⟨c, r⟩ :: tr').filterMap g := List.filterMap_append.symm
    · cases heq

end Calls.Prog
