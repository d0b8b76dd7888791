import ControllerSystem.Lib.ChunkedReader
import ControllerSystem.Lib.LTS

/-!
# Reading a stream that is still arriving

A `Reader` on a stream whose bytes arrive in pieces, one after the other, at any time. A receive
call of the reader either waits until there are bytes, or looks for them a number of times and then
returns without any: `patience s` is that number in the state `s`, and `none` means that the call
waits. The pieces, the calls that find bytes and the looks that find none are the steps of
`arrivals`; they come in any order, so a piece may be late by any number of looks.

* `TakesPieces R s pieces es s'` — `R` reads the pieces with one call each, and does `es`;
* `InTime` — the step is not the last look of a call that finds nothing;
* `onTrack_of_runWhere` — a reader that takes the pieces when each call returns one of them takes
  them however they arrive, when every step is in time.
-/

namespace ArrivingStream

open ChunkedReader

variable {State Byte Effect : Type}

/-- A reader in the middle of a stream. -/
structure Connection (State Byte Effect : Type) where
  state : State
  /-- The bytes that have arrived and were not received yet. -/
  unread : List Byte
  /-- The pieces that have not arrived. -/
  coming : List (List Byte)
  /-- How often the present call has looked and found nothing. -/
  looks : ℕ
  effects : List Effect

inductive Label
  /-- The next piece arrives. -/
  | arrive
  /-- The call finds bytes and returns as many as are there, at most those it asks for. -/
  | receive
  /-- The call looks and finds nothing. -/
  | look
  deriving DecidableEq

/-- The reader goes on with the bytes a call has returned. -/
def Connection.received (R : Reader State Byte Effect) (c : Connection State Byte Effect) (n : ℕ) :
    Connection State Byte Effect :=
  let r := R.onRecv c.state (c.unread.take n)
  { c with state := r.1, unread := c.unread.drop n, looks := 0, effects := c.effects ++ r.2 }

/-- One step. -/
def arrivalStep (R : Reader State Byte Effect) (patience : State → Option ℕ)
    (c : Connection State Byte Effect) : Label → Option (Connection State Byte Effect)
  | .arrive =>
    match c.coming with
    | [] => none
    | piece :: rest => some { c with unread := c.unread ++ piece, coming := rest }
  | .receive => if c.unread = [] then none else (R.request c.state).map (c.received R)
  | .look =>
    if c.unread = [] ∧ (R.request c.state).isSome then
      (patience c.state).map fun m =>
        -- the last look ends the call, and the reader gets no bytes
        if c.looks + 1 < m then { c with looks := c.looks + 1 } else c.received R 0
    else none

/-- A reader and the pieces on their way to it. -/
def arrivals (R : Reader State Byte Effect) (patience : State → Option ℕ) (s : State)
    (pieces : List (List Byte)) : LTS.System (Connection State Byte Effect) Label where
  init := ⟨s, [], pieces, 0, []⟩
  step := arrivalStep R patience

/-- No call gives up: the last look of a call finds bytes. -/
def InTime (patience : State → Option ℕ) (c : Connection State Byte Effect) (l : Label) : Prop :=
  l = .look → ∀ m, patience c.state = some m → c.looks + 1 < m

/-- The reader takes the pieces with one call each, which asks for as many bytes as the piece
has, and does the effects. -/
inductive TakesPieces (R : Reader State Byte Effect) :
    State → List (List Byte) → List Effect → State → Prop
  | nil (s : State) : TakesPieces R s [] [] s
  | cons {s s₁ s₂ : State} {piece : List Byte} {rest : List (List Byte)} {es₁ es₂ : List Effect} :
      piece ≠ [] → R.request s = some piece.length → R.onRecv s piece = (s₁, es₁) →
      TakesPieces R s₁ rest es₂ s₂ → TakesPieces R s (piece :: rest) (es₁ ++ es₂) s₂

variable {R : Reader State Byte Effect} {patience : State → Option ℕ}
  {c c' : Connection State Byte Effect}

theorem TakesPieces.append {s s₁ s₂ : State} {p₁ p₂ : List (List Byte)} {es₁ es₂ : List Effect}
    (h₁ : TakesPieces R s p₁ es₁ s₁) (h₂ : TakesPieces R s₁ p₂ es₂ s₂) :
    TakesPieces R s (p₁ ++ p₂) (es₁ ++ es₂) s₂ := by
  induction h₁ with
  | nil s => exact h₂
  | cons hne hreq hrecv _ ih =>
    rw [List.append_assoc]
    exact .cons hne hreq hrecv (ih h₂)

/-- A reader that does not read takes nothing. -/
theorem TakesPieces.eq_of_request_eq_none {s s' : State} {pieces : List (List Byte)}
    {es : List Effect} (h : TakesPieces R s pieces es s') (hs : R.request s = none) :
    pieces = [] ∧ s' = s := by
  cases h with
  | nil => exact ⟨rfl, rfl⟩
  | cons _ hreq _ _ =>
    rw [hs] at hreq
    cases hreq

/-- The pieces that are taken have bytes in them. -/
theorem TakesPieces.eq_nil_of_flatten_eq_nil {s s' : State} {pieces : List (List Byte)}
    {es : List Effect} (h : TakesPieces R s pieces es s') (hnil : pieces.flatten = []) :
    es = [] := by
  cases h with
  | nil => rfl
  | cons hne _ _ _ => exact absurd (List.append_eq_nil_iff.mp hnil).1 hne

/-! ### What a step can do -/

theorem arrivalStep_arrive (h : arrivalStep R patience c .arrive = some c') :
    ∃ piece, c.coming = piece :: c'.coming ∧
      c' = { c with unread := c.unread ++ piece, coming := c'.coming } := by
  simp only [arrivalStep] at h
  split at h
  · cases h
  · next piece rest hcoming =>
    obtain rfl := Option.some.inj h
    exact ⟨piece, hcoming, rfl⟩

theorem arrivalStep_receive (h : arrivalStep R patience c .receive = some c') :
    c.unread ≠ [] ∧ ∃ n, R.request c.state = some n ∧ c' = c.received R n := by
  obtain ⟨hne, hrecv⟩ := Option.ite_none_left_eq_some.mp h
  obtain ⟨n, hn, rfl⟩ := Option.map_eq_some_iff.mp hrecv
  exact ⟨hne, n, hn, rfl⟩

/-- A look in time is only counted. -/
theorem arrivalStep_look (h : arrivalStep R patience c .look = some c')
    (htime : InTime patience c .look) : c' = { c with looks := c.looks + 1 } := by
  obtain ⟨-, hlook⟩ := Option.ite_none_right_eq_some.mp h
  obtain ⟨m, hm, rfl⟩ := Option.map_eq_some_iff.mp hlook
  rw [if_pos (htime rfl m hm)]

/-! ### Reading in time -/

/-- The reader has taken the front of the pieces, and is ready for those that have arrived and
those that are coming: what is to be done is `es`, up to the state `fin`. -/
def OnTrack (R : Reader State Byte Effect) (es : List Effect) (fin : State)
    (c : Connection State Byte Effect) : Prop :=
  ∃ arrived rest, c.unread = arrived.flatten ∧ es = c.effects ++ rest ∧
    TakesPieces R c.state (arrived ++ c.coming) rest fin

/-- A step in time keeps the reader on track. -/
theorem OnTrack.step {es : List Effect} {fin : State} (h : OnTrack R es fin c) {l : Label}
    (htime : InTime patience c l) (hstep : arrivalStep R patience c l = some c') :
    OnTrack R es fin c' := by
  obtain ⟨arrived, rest, hunread, hes, htakes⟩ := h
  cases l with
  | arrive =>
    obtain ⟨piece, hcoming, hc'⟩ := arrivalStep_arrive hstep
    refine ⟨arrived ++ [piece], rest, ?_, ?_, ?_⟩
    · rw [hc', List.flatten_append, List.flatten_singleton, hunread]
    · rw [hc', hes]
    · -- the piece goes from one list to the other
      rw [hcoming] at htakes
      rw [List.append_assoc, List.singleton_append, hc']
      exact htakes
  | receive =>
    obtain ⟨hne, n, hn, rfl⟩ := arrivalStep_receive hstep
    cases arrived with
    | nil => exact absurd hunread hne
    | cons piece arrived =>
      -- the call asks for the first of the pieces that have arrived
      cases htakes with
      | @cons _ s₁ _ _ _ es₁ es₂ _ hreq hrecv htakes =>
        obtain rfl := Option.some.inj (hn.symm.trans hreq)
        have htake : c.unread.take piece.length = piece := by
          rw [hunread, List.flatten_cons, List.take_left]
        have hdrop : c.unread.drop piece.length = arrived.flatten := by
          rw [hunread, List.flatten_cons, List.drop_left]
        refine ⟨arrived, es₂, hdrop, ?_, ?_⟩
        · simp only [Connection.received, htake, hrecv]
          rw [hes, List.append_assoc]
        · simp only [Connection.received, htake, hrecv]
          exact htakes
  | look =>
    obtain rfl := arrivalStep_look hstep htime
    exact ⟨arrived, rest, hunread, hes, htakes⟩

/-- Something can happen as long as not all of the pieces were taken. -/
theorem OnTrack.exists_step {es : List Effect} {fin : State} (h : OnTrack R es fin c)
    (hleft : c.effects ≠ es) : ∃ l c', l ≠ .look ∧ arrivalStep R patience c l = some c' := by
  obtain ⟨arrived, rest, hunread, hes, htakes⟩ := h
  cases hcoming : c.coming with
  | cons piece coming =>
    have harrive : arrivalStep R patience c .arrive =
        some { c with unread := c.unread ++ piece, coming := coming } := by
      rw [arrivalStep, hcoming]
    exact ⟨.arrive, _, nofun, harrive⟩
  | nil =>
    rw [hcoming, List.append_nil] at htakes
    cases htakes with
    | nil => exact absurd (by rw [hes, List.append_nil]) hleft
    | @cons _ _ _ piece _ _ _ hne hreq _ _ =>
      -- the first of the pieces that have arrived can be received
      have hbytes : c.unread ≠ [] := by
        rw [hunread, List.flatten_cons]
        exact fun hnil => hne (List.append_eq_nil_iff.mp hnil).1
      have hreceive : arrivalStep R patience c .receive = some (c.received R piece.length) := by
        rw [arrivalStep, if_neg hbytes, hreq, Option.map_some]
      exact ⟨.receive, _, nofun, hreceive⟩

/-- When everything has arrived and was received, everything is done. -/
theorem OnTrack.effects_eq {es : List Effect} {fin : State} (h : OnTrack R es fin c)
    (hcoming : c.coming = []) (hunread : c.unread = []) : c.effects = es := by
  obtain ⟨arrived, rest, harrived, hes, htakes⟩ := h
  rw [hcoming, List.append_nil] at htakes
  have hrest : rest = [] := htakes.eq_nil_of_flatten_eq_nil (harrived.symm.trans hunread)
  rw [hes, hrest, List.append_nil]

/-- **Reading in time.** However the pieces arrive, while no call gives up the reader is on
track. -/
theorem onTrack_of_runWhere {s fin : State} {pieces : List (List Byte)} {es : List Effect}
    (htakes : TakesPieces R s pieces es fin) {ls : List Label}
    (hrun : (arrivals R patience s pieces).RunWhere (InTime patience)
      (arrivals R patience s pieces).init ls c) : OnTrack R es fin c :=
  hrun.invariant (fun _ _ _ h htime hstep => h.step htime hstep) ⟨[], es, rfl, rfl, htakes⟩

end ArrivingStream
