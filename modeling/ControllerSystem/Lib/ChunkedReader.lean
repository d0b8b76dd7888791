import Mathlib.Data.List.Basic
import Mathlib.Data.Int.Notation

/-!
# Programs that read a byte stream in chunks

A `Reader` is a program around a receive call: in each of its states it either asks for a number
of bytes or reads no more, and it reacts to the bytes it gets. The stream is the list of bytes
still unread. How the stream is cut up is a list of numbers, the results of the successive calls.

* `Reader.run` — the effects of a reader on a stream cut up in a given way, and where it stops;
* `Reader.visits` — the states it passes through, with the stream unread in each;
* `Reader.Legal` — every result is at least one and at most what was asked for and is there;
* `Reader.Full` — every call returns all the bytes it asks for;
* `Reader.Returns` — what calls may return that can fail, too;
* `Reader.Drained`, `Reader.Starved` — no further result of the one or the other kind can come.
-/

namespace ChunkedReader

/-- A program around a receive call. -/
structure Reader (State Byte Effect : Type) where
  /-- The number of bytes asked for; `none` when the program reads no more. -/
  request : State → Option ℕ
  /-- The reaction to the bytes received. -/
  onRecv : State → List Byte → State × List Effect

/-- What a reader did, where it stands and what it left unread. -/
structure Outcome (State Byte Effect : Type) where
  effects : List Effect
  state : State
  unread : List Byte

namespace Reader

variable {State Byte Effect : Type} (R : Reader State Byte Effect)

/-- Run the reader on a stream, with the results of the receive calls given. -/
def run (s : State) (u : List Byte) : List ℕ → Outcome State Byte Effect
  | [] => ⟨[], s, u⟩
  | k :: ks =>
    -- the call returns the next `k` bytes; the rest of the run reads what comes behind them
    let r := R.onRecv s (u.take k)
    let o := run r.1 (u.drop k) ks
    ⟨r.2 ++ o.effects, o.state, o.unread⟩

/-- The states the reader stands in along a run, each with the stream unread there. -/
def visits (s : State) (u : List Byte) : List ℕ → List (State × List Byte)
  | [] => [(s, u)]
  | k :: ks => (s, u) :: visits (R.onRecv s (u.take k)).1 (u.drop k) ks

/-- Every call returns between one and the requested number of the unread bytes. -/
def Legal (s : State) (u : List Byte) : List ℕ → Prop
  | [] => True
  | k :: ks => (∃ n, R.request s = some n ∧ 0 < k ∧ k ≤ n ∧ k ≤ u.length) ∧
      Legal (R.onRecv s (u.take k)).1 (u.drop k) ks

/-- Every call returns all the bytes it asks for. -/
def Full (s : State) (u : List Byte) : List ℕ → Prop
  | [] => True
  | k :: ks => R.request s = some k ∧ k ≤ u.length ∧
      Full (R.onRecv s (u.take k)).1 (u.drop k) ks

/-- What the calls may return when they may also fail: -1, or a number of unread bytes, at most as
many as were asked for. A call that fails takes no bytes, and none is the end of the stream. -/
def Returns (s : State) (u : List Byte) : List ℤ → Prop
  | [] => True
  | r :: rs => (∃ n : ℕ, R.request s = some n ∧ -1 ≤ r ∧ r ≤ n ∧ r ≤ u.length) ∧
      Returns (R.onRecv s (u.take r.toNat)).1 (u.drop r.toNat) rs

/-- The reader has left its loop or the stream is used up. -/
def Drained (o : Outcome State Byte Effect) : Prop := R.request o.state = none ∨ o.unread = []

/-- The reader has left its loop or asks for more bytes than there are. -/
def Starved (o : Outcome State Byte Effect) : Prop :=
  ∀ n, R.request o.state = some n → o.unread.length < n

variable {R}

/-- The next call takes the front of the stream. -/
theorem run_cons_append {s : State} {a : List Byte} {k : ℕ} (hk : a.length = k) (u : List Byte)
    (ks : List ℕ) :
    R.run s (a ++ u) (k :: ks) =
      let r := R.onRecv s a
      let o := R.run r.1 u ks
      ⟨r.2 ++ o.effects, o.state, o.unread⟩ := by
  rw [run, List.take_left' hk, List.drop_left' hk]

theorem visits_cons_append {s : State} {a : List Byte} {k : ℕ} (hk : a.length = k) (u : List Byte)
    (ks : List ℕ) :
    R.visits s (a ++ u) (k :: ks) = (s, a ++ u) :: R.visits (R.onRecv s a).1 u ks := by
  rw [visits, List.take_left' hk, List.drop_left' hk]

theorem mem_visits_self (s : State) (u : List Byte) (ks : List ℕ) :
    (s, u) ∈ R.visits s u ks := by
  cases ks <;> simp [visits]

/-- The unread stream never grows. -/
theorem length_le_of_mem_visits {s s' : State} {u u' : List Byte} {ks : List ℕ}
    (h : (s', u') ∈ R.visits s u ks) : u'.length ≤ u.length := by
  induction ks generalizing s u with
  | nil =>
    obtain ⟨-, rfl⟩ : s' = s ∧ u' = u := by simpa [visits] using h
    exact Nat.le_refl _
  | cons k ks ih =>
    rcases List.mem_cons.mp h with h | h
    · obtain ⟨-, rfl⟩ := Prod.mk.inj h
      exact Nat.le_refl _
    · -- a later state: the stream has already lost `k` bytes
      have hle := ih h
      rw [List.length_drop] at hle
      omega

/-- A reader that asks for nothing gets nothing. -/
theorem Legal.eq_nil {s : State} {u : List Byte} {ks : List ℕ} (h : R.Legal s u ks)
    (hs : R.request s = none) : ks = [] := by
  cases ks with
  | nil => rfl
  | cons k ks =>
    obtain ⟨⟨n, hn, -⟩, -⟩ := h
    rw [hs] at hn
    exact absurd hn (by simp)

theorem Returns.eq_nil {s : State} {u : List Byte} {rs : List ℤ} (h : R.Returns s u rs)
    (hs : R.request s = none) : rs = [] := by
  cases rs with
  | nil => rfl
  | cons r rs =>
    obtain ⟨⟨n, hn, -⟩, -⟩ := h
    rw [hs] at hn
    exact absurd hn (by simp)

/-- The first result of a legal run that is not over yet. -/
theorem Legal.exists_cons {s : State} {u : List Byte} {ks : List ℕ} {n : ℕ}
    (h : R.Legal s u ks) (hd : R.Drained (R.run s u ks)) (hs : R.request s = some n)
    (hu : u ≠ []) :
    ∃ k ks', ks = k :: ks' ∧ k ≤ n ∧ k ≤ u.length ∧
      R.Legal (R.onRecv s (u.take k)).1 (u.drop k) ks' ∧
      R.Drained (R.run (R.onRecv s (u.take k)).1 (u.drop k) ks') := by
  cases ks with
  | nil =>
    -- a run without calls has neither left the loop nor used the stream up
    rcases hd with hd | hd
    · exact absurd (hs.symm.trans hd) (by simp)
    · exact absurd hd hu
  | cons k ks =>
    obtain ⟨⟨m, hm, -, hkm, hku⟩, hrest⟩ := h
    rw [hs] at hm
    obtain rfl := Option.some.inj hm
    exact ⟨k, ks, rfl, hkm, hku, hrest, hd⟩

/-- The first result of a full run that is not over yet. -/
theorem Full.exists_cons {s : State} {u : List Byte} {ks : List ℕ} {n : ℕ}
    (h : R.Full s u ks) (hd : R.Starved (R.run s u ks)) (hs : R.request s = some n)
    (hu : n ≤ u.length) :
    ∃ ks', ks = n :: ks' ∧ R.Full (R.onRecv s (u.take n)).1 (u.drop n) ks' ∧
      R.Starved (R.run (R.onRecv s (u.take n)).1 (u.drop n) ks') := by
  cases ks with
  | nil =>
    -- there are enough bytes for one more call
    exact absurd (hd n hs) (Nat.not_lt.mpr hu)
  | cons k ks =>
    obtain ⟨hk, -, hrest⟩ := h
    obtain rfl := Option.some.inj (hs.symm.trans hk)
    exact ⟨ks, rfl, hrest, hd⟩

end Reader
end ChunkedReader
