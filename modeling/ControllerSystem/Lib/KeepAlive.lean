import ControllerSystem.Lib.LTS
import Mathlib.Data.List.Count
import Mathlib.Logic.Function.Basic

/-!
# Keep-alive over descriptors

A server that asks its connections now and then whether they are still there, and drops those that
have not answered before it asks again. It knows a connection by its descriptor alone, and a
descriptor that has been closed may be given to a new connection.

The state has the list of the descriptors asked, less one entry for each answer handled; answers
wait in a queue before they are handled. The log says, of each connection, how often it was asked
in the last round and how often it has answered since.

* `drop_justified` — a round drops only connections that were asked in the round before and have
  not answered since, as long as no descriptor is given away while it is on the list, and no
  descriptor on the list has all its answers in the queue when the round begins.
-/

namespace KeepAlive

variable {F : Type} [DecidableEq F]

/-! ### Descriptors and connections -/

/-- What the descriptors denote. Connections are numbered as they are opened. -/
structure Sockets (F : Type) where
  conn : F → Option ℕ
  /-- The descriptor a connection was opened with. -/
  fd : ℕ → Option F
  opened : ℕ

namespace Sockets

def start : Sockets F := ⟨fun _ => none, fun _ => none, 0⟩

/-- A new connection gets the descriptor. -/
def accept (s : Sockets F) (f : F) : Sockets F where
  conn := Function.update s.conn f (some s.opened)
  fd := Function.update s.fd s.opened (some f)
  opened := s.opened + 1

def closeAll (s : Sockets F) (l : List F) : Sockets F :=
  { s with conn := fun f => if f ∈ l then none else s.conn f }

/-- A descriptor denotes a connection that was opened with it. -/
structure Valid (s : Sockets F) : Prop where
  fd_eq : ∀ {f c}, s.conn f = some c → s.fd c = some f
  lt : ∀ {f c}, s.conn f = some c → c < s.opened

variable {s : Sockets F} {f : F} {c : ℕ}

omit [DecidableEq F] in
theorem valid_start : (start : Sockets F).Valid :=
  ⟨fun h => by simp [start] at h, fun h => by simp [start] at h⟩

theorem conn_accept {f' : F} (h : (s.accept f').conn f = some c) :
    f = f' ∧ c = s.opened ∨ f ≠ f' ∧ s.conn f = some c := by
  rcases eq_or_ne f f' with rfl | hne
  · -- the descriptor just given away denotes the new connection
    have hc : some s.opened = some c := by simpa [accept] using h
    exact .inl ⟨rfl, (Option.some.inj hc).symm⟩
  · exact .inr ⟨hne, by simpa [accept, hne] using h⟩

theorem Valid.accept (h : s.Valid) (f : F) : (s.accept f).Valid where
  fd_eq hconn := by
    rcases conn_accept hconn with ⟨rfl, rfl⟩ | ⟨-, hold⟩
    · simp [Sockets.accept]
    · -- an older connection has a smaller number, so its entry is not touched
      have hne := Nat.ne_of_lt (h.lt hold)
      simpa [Sockets.accept, hne] using h.fd_eq hold
  lt hconn := by
    rcases conn_accept hconn with ⟨-, rfl⟩ | ⟨-, hold⟩
    · exact Nat.lt_succ_self _
    · exact Nat.lt_succ_of_lt (h.lt hold)

theorem conn_closeAll {l : List F} :
    (s.closeAll l).conn f = some c ↔ f ∉ l ∧ s.conn f = some c := by
  by_cases hmem : f ∈ l <;> simp [closeAll, hmem]

theorem Valid.closeAll (h : s.Valid) (l : List F) : (s.closeAll l).Valid where
  fd_eq hconn := h.fd_eq (conn_closeAll.mp hconn).2
  lt hconn := h.lt (conn_closeAll.mp hconn).2

@[simp] theorem closeAll_nil (s : Sockets F) : s.closeAll [] = s := by simp [closeAll]

end Sockets

/-! ### The protocol -/

/-- What each connection was asked and has answered since. -/
structure Log where
  /-- The requests of the last round. -/
  asks : ℕ → ℕ
  answers : ℕ → ℕ
  /-- How many connections had been opened at the last round. -/
  openedBefore : ℕ

def Log.start : Log := ⟨fun _ => 0, fun _ => 0, 0⟩

def Log.answer (w : Log) (c : ℕ) : Log :=
  { w with answers := Function.update w.answers c (w.answers c + 1) }

/-- A round has asked the descriptors of a list. -/
def Log.round (s : Sockets F) (l : List F) : Log where
  asks c :=
    match s.fd c with
    -- a connection is asked only through a descriptor that still denotes it
    | some f => if s.conn f = some c then l.count f else 0
    | none => 0
  answers _ := 0
  openedBefore := s.opened

structure State (F : Type) where
  sockets : Sockets F
  /-- The descriptors asked, less the answers handled. -/
  waiting : List F
  /-- The descriptors of the answers to be handled, the oldest first. -/
  pending : List F
  log : Log

inductive Label (F : Type)
  | accept (f : F)
  | close (f : F)
  /-- The connection answers. -/
  | answer (c : ℕ)
  /-- The server handles an answer. -/
  | handle
  /-- The server drops who is on the list, and asks anew. -/
  | round (l : List F)

def step (s : State F) : Label F → Option (State F)
  | .accept f =>
    if s.sockets.conn f = none then some { s with sockets := s.sockets.accept f } else none
  -- the list is not told: a closed descriptor stays on it
  | .close f => some { s with sockets := s.sockets.closeAll [f] }
  | .answer c => (s.sockets.fd c).map fun f =>
    { s with pending := s.pending ++ [f], log := s.log.answer c }
  | .handle =>
    match s.pending with
    | [] => none
    -- one entry of the list goes with each answer, whoever the descriptor denotes by then
    | f :: rest => some { s with pending := rest, waiting := s.waiting.erase f }
  | .round l => some
    { s with
      sockets := s.sockets.closeAll s.waiting
      waiting := l
      log := .round (s.sockets.closeAll s.waiting) l }

def system (F : Type) [DecidableEq F] : LTS.System (State F) (Label F) where
  init := ⟨.start, [], [], .start⟩
  step := step

/-- No descriptor on the list is given away, and no round finds as many answers of one in the queue
as it has entries on the list. -/
def Ok (s : State F) : Label F → Prop
  | .accept f => f ∉ s.waiting
  | .round _ => ∀ f ∈ s.waiting, s.pending.count f < s.waiting.count f
  | _ => True

/-- One step is a run. -/
theorem run_step {s s' : State F} {l : Label F} (hok : Ok s l) (h : step s l = some s') :
    ∃ ls, (system F).RunWhere Ok s ls s' :=
  ⟨[l], .cons hok h (.nil s')⟩

/-- No step is a run. -/
theorem run_eq {s s' : State F} (h : s' = s) : ∃ ls, (system F).RunWhere Ok s ls s' := by
  subst h
  exact ⟨[], .nil s'⟩

/-- **The invariant.** A connection on the list was asked at least as often as it has entries there,
and answers that have been handled. -/
structure Inv (s : State F) : Prop where
  valid : s.sockets.Valid
  asked : ∀ {f c}, s.sockets.conn f = some c → f ∈ s.waiting →
    s.waiting.count f + s.log.answers c ≤ s.log.asks c + s.pending.count f
  old : ∀ {f c}, s.sockets.conn f = some c → f ∈ s.waiting → c < s.log.openedBefore

theorem inv_init : Inv (system F).init where
  valid := Sockets.valid_start
  asked hconn := by simp [system, Sockets.start] at hconn
  old hconn := by simp [system, Sockets.start] at hconn

theorem Inv.step {s s' : State F} {l : Label F} (h : Inv s) (hok : Ok s l)
    (hstep : step s l = some s') : Inv s' := by
  cases l with
  | accept f =>
    simp only [KeepAlive.step] at hstep
    split at hstep
    · obtain rfl := Option.some.inj hstep
      -- the new connection's descriptor is not on the list, so there is nothing to show of it
      refine ⟨h.valid.accept f, fun hconn hmem => ?_, fun hconn hmem => ?_⟩
      · rcases Sockets.conn_accept hconn with ⟨rfl, -⟩ | ⟨-, hold⟩
        · exact absurd hmem hok
        · exact h.asked hold hmem
      · rcases Sockets.conn_accept hconn with ⟨rfl, -⟩ | ⟨-, hold⟩
        · exact absurd hmem hok
        · exact h.old hold hmem
    · cases hstep
  | close f =>
    obtain rfl := Option.some.inj hstep
    -- a descriptor that still denotes a connection denoted it before
    exact ⟨h.valid.closeAll [f],
      fun hconn hmem => h.asked (Sockets.conn_closeAll.mp hconn).2 hmem,
      fun hconn hmem => h.old (Sockets.conn_closeAll.mp hconn).2 hmem⟩
  | answer c =>
    obtain ⟨f, hfd, rfl⟩ := Option.map_eq_some_iff.mp hstep
    refine ⟨h.valid, @fun f' c' hconn hmem => ?_, fun hconn hmem => h.old hconn hmem⟩
    have hold := h.asked hconn hmem
    simp only [Log.answer, List.count_append, List.count_singleton]
    rcases eq_or_ne c' c with rfl | hne
    · -- the answer counted for the connection is also one more in the queue
      obtain rfl : f = f' := Option.some.inj (hfd.symm.trans (h.valid.fd_eq hconn))
      simp only [Function.update_self, beq_self_eq_true, if_true]
      omega
    · rw [Function.update_of_ne hne]
      omega
  | handle =>
    simp only [KeepAlive.step] at hstep
    split at hstep
    · cases hstep
    · next f rest hpending =>
      obtain rfl := Option.some.inj hstep
      refine ⟨h.valid, @fun f' c hconn hmem => ?_,
        fun hconn hmem => h.old hconn (List.mem_of_mem_erase hmem)⟩
      have hold := h.asked hconn (List.mem_of_mem_erase hmem)
      rw [hpending] at hold
      dsimp only at hmem ⊢
      rcases eq_or_ne f f' with rfl | hne
      · -- the answer leaves the queue and takes one entry off the list
        have hpos : 0 < (s.waiting.erase f).count f := List.count_pos_iff.mpr hmem
        rw [List.count_erase_self] at hpos ⊢
        rw [List.count_cons_self] at hold
        omega
      · rw [List.count_erase_of_ne hne.symm]
        rwa [List.count_cons_of_ne hne] at hold
  | round l =>
    obtain rfl := Option.some.inj hstep
    refine ⟨h.valid.closeAll _, @fun f c hconn hmem => ?_,
      fun hconn _ => h.valid.lt (Sockets.conn_closeAll.mp hconn).2⟩
    -- a descriptor that is still open has been asked as often as it stands on the new list
    have hfd := (h.valid.closeAll s.waiting).fd_eq hconn
    have hasks : (Log.round (s.sockets.closeAll s.waiting) l).asks c = l.count f := by
      simp only [Log.round, hfd]
      exact if_pos hconn
    dsimp only
    rw [hasks]
    exact Nat.le_add_right _ _

theorem inv_of_run {s : State F} {ls : List (Label F)}
    (h : (system F).RunWhere Ok (system F).init ls s) : Inv s :=
  h.invariant (fun _ _ _ hinv hok hstep => hinv.step hok hstep) inv_init

/-- **Who is dropped.** A descriptor that a round drops denotes a connection that was there at the
round before, was asked then, and has fewer answers than it was asked. -/
theorem drop_justified {s : State F} {ls : List (Label F)} {l : List F}
    (h : (system F).RunWhere Ok (system F).init ls s) (hok : Ok s (.round l)) {f : F} {c : ℕ}
    (hmem : f ∈ s.waiting) (hconn : s.sockets.conn f = some c) :
    s.log.answers c < s.log.asks c ∧ c < s.log.openedBefore := by
  have hinv := inv_of_run h
  have hasked := hinv.asked hconn hmem
  -- the queue holds fewer answers than the list has entries, so one request has no answer yet
  have hmore : s.pending.count f < s.waiting.count f := hok f hmem
  exact ⟨by omega, hinv.old hconn hmem⟩

end KeepAlive
