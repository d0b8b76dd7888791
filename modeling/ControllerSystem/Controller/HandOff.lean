import ControllerSystem.Lib.LTS
import Mathlib.Data.Int.Notation

/-!
# Handing a descriptor to its thread

The accept thread of `CSocketServer` posts every descriptor to the message thread, which hands it to
a new thread through the member `m_nClientFD`: `smsHandler` takes the mutex, writes the member and
creates the thread; the new thread, `threadSMSHandler`, reads the member and releases the mutex.
`smsHandler` does not look at what `createThread` returns.

Here every access to the mutex or the member is a step of its own. A handler counts as serving from
its call of `runSMSHandler` on.

* `smsHandler_handsOver` — every created thread serves the descriptor it was created for; the mutex
  is always about to be released as long as no thread creation fails, and not any more once one
  has;
* `second_client_waits` — one failure, and the message thread waits for ever at the next client.
-/

namespace ControllerSystem.Controller

/-- Where the message thread stands in `smsHandler`. -/
inductive SmsHandlerStage
  /-- It waits for a message. -/
  | outside
  /-- At `threadLock`. -/
  | threadLock (nFD : ℤ)
  /-- At the write of `m_nClientFD`. -/
  | writeClientFD (nFD : ℤ)
  /-- At `createThread`. -/
  | createThread (nFD : ℤ)
  deriving DecidableEq

/-- Where a created thread stands in `threadSMSHandler`. -/
inductive ClientThread
  /-- At the read of `m_nClientFD`. -/
  | starting
  /-- At `threadUnLock`. -/
  | threadUnLock (nFD : ℤ)
  /-- In `runSMSHandler`, or behind it. -/
  | serving (nFD : ℤ)
  deriving DecidableEq

structure HandOff where
  /-- The descriptors in messages `EVENT_COMMAND_SOCKET_ACCEPT` not yet received. -/
  queue : List ℤ
  stage : SmsHandlerStage
  /-- Whether the mutex is held. -/
  mutex : Bool
  m_nClientFD : ℤ
  /-- The threads created, in order. -/
  threads : List ClientThread
  /-- The descriptors `smsHandler` had when it created them. -/
  created : List ℤ
  deriving DecidableEq

inductive HandOffLabel
  /-- The accept thread posts a descriptor. -/
  | accept (nChildSocketFD : ℤ)
  /-- The message thread receives the first message and calls `smsHandler`. -/
  | receive
  | threadLock
  | writeClientFD
  /-- `createThread`, with what `pthread_create` returns. -/
  | createThread (rc : ℤ)
  /-- A created thread reads `m_nClientFD`; they are counted in the order of their creation. -/
  | readClientFD (k : ℕ)
  | threadUnLock (k : ℕ)
  deriving DecidableEq

def handOffStep (s : HandOff) : HandOffLabel → Option HandOff
  | .accept nChildSocketFD => some { s with queue := s.queue ++ [nChildSocketFD] }
  | .receive =>
    match s.stage, s.queue with
    | .outside, nFD :: queue => some { s with stage := .threadLock nFD, queue := queue }
    | _, _ => none
  | .threadLock =>
    match s.stage, s.mutex with
    | .threadLock nFD, false => some { s with stage := .writeClientFD nFD, mutex := true }
    | _, _ => none
  | .writeClientFD =>
    match s.stage with
    | .writeClientFD nFD => some { s with stage := .createThread nFD, m_nClientFD := nFD }
    | _ => none
  | .createThread rc =>
    match s.stage with
    | .createThread nFD =>
      if rc = 0 then
        some { s with
          stage := .outside
          threads := s.threads ++ [.starting]
          created := s.created ++ [nFD] }
      -- `createThread` returns 0, and `smsHandler` returns all the same
      else some { s with stage := .outside }
    | _ => none
  | .readClientFD k =>
    match s.threads[k]? with
    | some .starting => some { s with threads := s.threads.set k (.threadUnLock s.m_nClientFD) }
    | _ => none
  | .threadUnLock k =>
    match s.threads[k]? with
    | some (.threadUnLock nFD) =>
      some { s with threads := s.threads.set k (.serving nFD), mutex := false }
    | _ => none

def handOff : LTS.System HandOff HandOffLabel where
  init := ⟨[], .outside, false, -1, [], []⟩
  step := handOffStep

/-! ### What a step can do -/

section Steps

variable {s s' : HandOff}

theorem handOffStep_receive (h : handOffStep s .receive = some s') :
    ∃ nFD queue, s.stage = .outside ∧ s.queue = nFD :: queue ∧
      s' = { s with stage := .threadLock nFD, queue := queue } := by
  simp only [handOffStep] at h
  split at h
  · next nFD queue hstage hqueue => exact ⟨nFD, queue, hstage, hqueue, (Option.some.inj h).symm⟩
  · cases h

theorem handOffStep_threadLock (h : handOffStep s .threadLock = some s') :
    ∃ nFD, s.stage = .threadLock nFD ∧ s.mutex = false ∧
      s' = { s with stage := .writeClientFD nFD, mutex := true } := by
  simp only [handOffStep] at h
  split at h
  · next nFD hstage hmutex => exact ⟨nFD, hstage, hmutex, (Option.some.inj h).symm⟩
  · cases h

theorem handOffStep_writeClientFD (h : handOffStep s .writeClientFD = some s') :
    ∃ nFD, s.stage = .writeClientFD nFD ∧
      s' = { s with stage := .createThread nFD, m_nClientFD := nFD } := by
  simp only [handOffStep] at h
  split at h
  · next nFD hstage => exact ⟨nFD, hstage, (Option.some.inj h).symm⟩
  · cases h

theorem handOffStep_createThread {rc : ℤ} (h : handOffStep s (.createThread rc) = some s') :
    ∃ nFD, s.stage = .createThread nFD ∧
      (rc = 0 ∧ s' = { s with
        stage := .outside, threads := s.threads ++ [.starting], created := s.created ++ [nFD] } ∨
      rc ≠ 0 ∧ s' = { s with stage := .outside }) := by
  simp only [handOffStep] at h
  split at h
  · next nFD hstage =>
    refine ⟨nFD, hstage, ?_⟩
    split at h
    · next hrc => exact .inl ⟨hrc, (Option.some.inj h).symm⟩
    · next hrc => exact .inr ⟨hrc, (Option.some.inj h).symm⟩
  · cases h

theorem handOffStep_readClientFD {k : ℕ} (h : handOffStep s (.readClientFD k) = some s') :
    s.threads[k]? = some .starting ∧
      s' = { s with threads := s.threads.set k (.threadUnLock s.m_nClientFD) } := by
  simp only [handOffStep] at h
  split at h
  · next hthread => exact ⟨hthread, (Option.some.inj h).symm⟩
  · cases h

theorem handOffStep_threadUnLock {k : ℕ} (h : handOffStep s (.threadUnLock k) = some s') :
    ∃ nFD, s.threads[k]? = some (.threadUnLock nFD) ∧
      s' = { s with threads := s.threads.set k (.serving nFD), mutex := false } := by
  simp only [handOffStep] at h
  split at h
  · next nFD hthread => exact ⟨nFD, hthread, (Option.some.inj h).symm⟩
  · cases h

end Steps

/-! ### Who is going to release the mutex -/

/-- Between `threadLock` and the return of `createThread`. -/
def SmsHandlerStage.holds : SmsHandlerStage → Bool
  | .outside | .threadLock _ => false
  | .writeClientFD _ | .createThread _ => true

/-- The thread has not called `threadUnLock` yet. -/
def ClientThread.holds : ClientThread → Bool
  | .starting | .threadUnLock _ => true
  | .serving _ => false

/-- The thread has nothing else than `nFD`. -/
def Gets (nFD : ℤ) : ClientThread → Prop
  | .starting => True
  | .threadUnLock nFD' | .serving nFD' => nFD' = nFD

/-- A step of the created thread `k`. -/
def HandOffLabel.isOf (k : ℕ) : HandOffLabel → Bool
  | .readClientFD k' | .threadUnLock k' => k' = k
  | _ => false

/-- `pthread_create` fails. -/
def HandOffLabel.fails : HandOffLabel → Bool
  | .createThread rc => rc ≠ 0
  | _ => false

/-- Thread `k` has released the mutex and serves. -/
def HandOff.ReleasedBy (s : HandOff) (k : ℕ) : Prop :=
  s.mutex = false ∧ ∃ nFD, s.threads[k]? = some (.serving nFD)

/-- Thread `k` is still going to release the mutex, and to serve: until it has, its next step is
enabled, whatever the others do, and with its second step at the latest it has. -/
def HandOff.WillRelease (s : HandOff) (k : ℕ) : Prop :=
  ∀ ls s', handOff.Run s ls s' →
    (∃ ls₁ s₁, ls₁ <+: ls ∧ handOff.Run s ls₁ s₁ ∧ s₁.ReleasedBy k) ∨
      (∃ l, l.isOf k = true ∧ (handOffStep s' l).isSome) ∧ ls.countP (HandOffLabel.isOf k) < 2

/-- How many hold the mutex, or are to take over from the one who does. -/
def HandOff.holders (s : HandOff) : ℕ :=
  s.stage.holds.toNat + s.threads.countP ClientThread.holds

/-! ### The invariant -/

structure HandOff.Inv (s : HandOff) : Prop where
  length : s.threads.length = s.created.length
  gets : ∀ (k : ℕ) (t : ClientThread), s.threads[k]? = some t →
    ∃ nFD, s.created[k]? = some nFD ∧ Gets nFD t
  /-- A thread that has not read the member yet will find its descriptor there. -/
  member : ∀ k : ℕ, s.threads[k]? = some .starting → s.created[k]? = some s.m_nClientFD
  written : ∀ nFD, s.stage = .createThread nFD → s.m_nClientFD = nFD
  holders : s.holders ≤ s.mutex.toNat

section Invariant

variable {s s' : HandOff}

theorem HandOff.countP_threads_set {k : ℕ} {t : ClientThread} (h : s.threads[k]? = some t)
    (t' : ClientThread) :
    (s.threads.set k t').countP ClientThread.holds + t.holds.toNat =
      s.threads.countP ClientThread.holds + t'.holds.toNat := by
  obtain ⟨hk, rfl⟩ := List.getElem?_eq_some_iff.mp h
  rw [List.countP_set hk]
  -- a thread that holds is counted, so the subtraction is one
  have hpos : s.threads[k].holds = true → 0 < s.threads.countP ClientThread.holds := fun ht =>
    List.countP_pos_iff.mpr ⟨_, List.getElem_mem hk, ht⟩
  cases ht : s.threads[k].holds with
  | true =>
    have := hpos ht
    cases ht' : t'.holds <;> simp <;> omega
  | false => cases ht' : t'.holds <;> simp

/-- **Conservation.** A step takes the mutex for one more holder, releases it for one, or hands it
on; a `createThread` that fails loses a holder. -/
theorem HandOff.Inv.conserve {l : HandOffLabel} (h : s.Inv) (hstep : handOffStep s l = some s') :
    s'.mutex.toNat + s.holders = s'.holders + l.fails.toNat + s.mutex.toNat := by
  cases l with
  | accept nFD =>
    obtain rfl := Option.some.inj hstep
    exact Nat.add_comm _ _
  | receive =>
    obtain ⟨nFD, queue, hstage, -, rfl⟩ := handOffStep_receive hstep
    simp only [HandOff.holders, HandOffLabel.fails, hstage, SmsHandlerStage.holds, Bool.toNat_false]
    omega
  | threadLock =>
    obtain ⟨nFD, hstage, hmutex, rfl⟩ := handOffStep_threadLock hstep
    simp only [HandOff.holders, HandOffLabel.fails, hstage, hmutex, SmsHandlerStage.holds,
      Bool.toNat_false, Bool.toNat_true]
    omega
  | writeClientFD =>
    obtain ⟨nFD, hstage, rfl⟩ := handOffStep_writeClientFD hstep
    simp only [HandOff.holders, HandOffLabel.fails, hstage, SmsHandlerStage.holds, Bool.toNat_false]
    omega
  | createThread rc =>
    obtain ⟨nFD, hstage, ⟨rfl, rfl⟩ | ⟨hrc, rfl⟩⟩ := handOffStep_createThread hstep
    · -- the new thread takes over
      have hcount : (s.threads ++ [ClientThread.starting]).countP ClientThread.holds =
          s.threads.countP ClientThread.holds + 1 := List.countP_append
      have hfails : (HandOffLabel.createThread 0).fails = false := rfl
      simp only [HandOff.holders, hfails, hstage, SmsHandlerStage.holds, hcount, Bool.toNat_false,
        Bool.toNat_true]
      omega
    · -- nobody does
      have hfails : (HandOffLabel.createThread rc).fails = true := decide_eq_true hrc
      simp only [HandOff.holders, hfails, hstage, SmsHandlerStage.holds, Bool.toNat_false,
        Bool.toNat_true]
      omega
  | readClientFD k =>
    obtain ⟨hthread, rfl⟩ := handOffStep_readClientFD hstep
    have hcount := countP_threads_set hthread (.threadUnLock s.m_nClientFD)
    simp only [HandOff.holders, HandOffLabel.fails, ClientThread.holds,
      Bool.toNat_false] at hcount ⊢
    omega
  | threadUnLock k =>
    obtain ⟨nFD, hthread, rfl⟩ := handOffStep_threadUnLock hstep
    have hcount := countP_threads_set hthread (.serving nFD)
    -- the thread is one of the holders, and there is one holder at most
    have hholders := h.holders
    have hmutex : s.mutex.toNat ≤ 1 := Bool.toNat_le s.mutex
    simp only [HandOff.holders, HandOffLabel.fails, ClientThread.holds, Bool.toNat_true,
      Bool.toNat_false] at hcount hholders ⊢
    omega

/-- While the message thread holds the mutex, all threads serve. -/
theorem HandOff.Inv.serving (h : s.Inv) (hstage : s.stage.holds = true) {k : ℕ} {t : ClientThread}
    (hthread : s.threads[k]? = some t) : t.holds = false := by
  have hholders := h.holders
  have hmutex : s.mutex.toNat ≤ 1 := Bool.toNat_le s.mutex
  rw [HandOff.holders, hstage] at hholders
  have hcount : s.threads.countP ClientThread.holds = 0 := by
    rw [Bool.toNat_true] at hholders
    omega
  exact Bool.eq_false_iff.mpr (List.countP_eq_zero.mp hcount t (List.mem_of_getElem? hthread))

/-- A thread that goes on with its own descriptor. -/
theorem HandOff.Inv.gets_set (h : s.Inv) {k : ℕ} {t' : ClientThread} {nFD : ℤ}
    (hcreated : s.created[k]? = some nFD) (ht' : Gets nFD t') (k' : ℕ) (t : ClientThread)
    (ht : (s.threads.set k t')[k']? = some t) : ∃ nFD, s.created[k']? = some nFD ∧ Gets nFD t := by
  rw [List.getElem?_set] at ht
  split at ht
  · next heq =>
    subst heq
    split at ht
    · cases ht
      exact ⟨nFD, hcreated, ht'⟩
    · cases ht
  · exact h.gets k' t ht

/-- A thread that goes on does not read the member again. -/
theorem HandOff.Inv.member_set (h : s.Inv) {k : ℕ} {t' : ClientThread} (ht' : t' ≠ .starting)
    (k' : ℕ) (hthread : (s.threads.set k t')[k']? = some .starting) :
    s.created[k']? = some s.m_nClientFD := by
  rw [List.getElem?_set] at hthread
  split at hthread
  · split at hthread
    · exact absurd (Option.some.inj hthread) ht'
    · cases hthread
  · exact h.member k' hthread

theorem HandOff.Inv.step {l : HandOffLabel} (h : s.Inv) (hstep : handOffStep s l = some s') :
    s'.Inv := by
  have hconserve := h.conserve hstep
  have hholders : s'.holders ≤ s'.mutex.toNat := by
    have := h.holders
    omega
  cases l with
  | accept nFD =>
    obtain rfl := Option.some.inj hstep
    exact ⟨h.length, h.gets, h.member, h.written, hholders⟩
  | receive =>
    obtain ⟨nFD, queue, hstage, -, rfl⟩ := handOffStep_receive hstep
    exact ⟨h.length, h.gets, h.member, (fun _ heq => by cases heq), hholders⟩
  | threadLock =>
    obtain ⟨nFD, hstage, hmutex, rfl⟩ := handOffStep_threadLock hstep
    exact ⟨h.length, h.gets, h.member, (fun _ heq => by cases heq), hholders⟩
  | writeClientFD =>
    obtain ⟨nFD, hstage, rfl⟩ := handOffStep_writeClientFD hstep
    refine ⟨h.length, h.gets, fun k hthread => ?_, fun nFD' heq => ?_, hholders⟩
    · -- no thread is about to read what is overwritten
      have hserving := h.serving (by rw [hstage]; rfl) hthread
      cases hserving
    · cases heq
      rfl
  | createThread rc =>
    obtain ⟨nFD, hstage, ⟨rfl, rfl⟩ | ⟨hrc, rfl⟩⟩ := handOffStep_createThread hstep
    · have hlength : (s.threads ++ [ClientThread.starting]).length =
          (s.created ++ [nFD]).length := by
        rw [List.length_append, List.length_append, h.length]
        rfl
      have hnew : (s.created ++ [nFD])[s.threads.length]? = some nFD := by
        rw [h.length]
        exact List.getElem?_concat_length
      refine ⟨hlength, fun k t ht => ?_, fun k ht => ?_, (fun _ heq => by cases heq), hholders⟩
      · rcases LTS.getElem?_concat_cases ht with hold | ⟨rfl, rfl⟩
        · obtain ⟨nFD', hcreated, hgets⟩ := h.gets k t hold
          obtain ⟨hlt, -⟩ := List.getElem?_eq_some_iff.mp hcreated
          exact ⟨nFD', (List.getElem?_append_left hlt).trans hcreated, hgets⟩
        · exact ⟨nFD, hnew, trivial⟩
      · rcases LTS.getElem?_concat_cases ht with hold | ⟨rfl, -⟩
        · -- the older threads all serve
          have hserving := h.serving (by rw [hstage]; rfl) hold
          cases hserving
        · rw [hnew, h.written nFD hstage]
    · exact ⟨h.length, h.gets, h.member, (fun _ heq => by cases heq), hholders⟩
  | readClientFD k =>
    obtain ⟨hthread, rfl⟩ := handOffStep_readClientFD hstep
    exact ⟨List.length_set.trans h.length, h.gets_set (h.member k hthread) rfl,
      h.member_set (fun heq => by cases heq), h.written, hholders⟩
  | threadUnLock k =>
    obtain ⟨nFD, hthread, rfl⟩ := handOffStep_threadUnLock hstep
    obtain ⟨nFD', hcreated, hgets⟩ := h.gets k _ hthread
    exact ⟨List.length_set.trans h.length, h.gets_set hcreated hgets,
      h.member_set (fun heq => by cases heq), h.written, hholders⟩

theorem HandOff.inv_init : handOff.init.Inv where
  length := rfl
  gets := fun _ _ ht => by cases ht
  member := fun _ ht => by cases ht
  written := fun _ heq => by cases heq
  holders := Nat.le_refl _

/-- What a run does to the mutex and to those who hold it. -/
theorem HandOff.Inv.run {ls : List HandOffLabel} (hrun : handOff.Run s ls s') (h : s.Inv) :
    s'.Inv ∧ s'.mutex.toNat + s.holders =
      s'.holders + ls.countP HandOffLabel.fails + s.mutex.toNat := by
  induction hrun with
  | nil s => exact ⟨h, Nat.add_comm _ _⟩
  | @cons s l s₁ ls s₂ _ hstep _ ih =>
    obtain ⟨hinv, hrest⟩ := ih (h.step hstep)
    refine ⟨hinv, ?_⟩
    have hfirst := h.conserve hstep
    rw [List.countP_cons]
    cases hfails : l.fails <;> simp only [hfails, Bool.toNat_false, Bool.toNat_true] at hfirst <;>
      simp <;> omega

/-! ### What becomes of a thread that holds the mutex -/

/-- How many steps thread `k` has to take until it serves. -/
def HandOff.stepsLeft (k : ℕ) (s : HandOff) : ℕ :=
  match s.threads[k]? with
  | some .starting => 2
  | some (.threadUnLock _) => 1
  | _ => 0

theorem HandOff.stepsLeft_of {k : ℕ} {t : ClientThread} (ht : s.threads[k]? = some t)
    (hholds : t.holds = true) : 1 ≤ s.stepsLeft k ∧ s.stepsLeft k ≤ 2 ∧
      ∃ l, l.isOf k = true ∧ (handOffStep s l).isSome := by
  cases t with
  | starting =>
    refine ⟨by simp [stepsLeft, ht], by simp [stepsLeft, ht], .readClientFD k, ?_, ?_⟩
    · exact decide_eq_true rfl
    · simp [handOffStep, ht]
  | threadUnLock nFD =>
    refine ⟨by simp [stepsLeft, ht], by simp [stepsLeft, ht], .threadUnLock k, ?_, ?_⟩
    · exact decide_eq_true rfl
    · simp [handOffStep, ht]
  | serving nFD => cases hholds

/-- A thread takes its own steps, and nobody else takes them. -/
theorem HandOff.thread_step {l : HandOffLabel} {k : ℕ} {t : ClientThread}
    (ht : s.threads[k]? = some t) (hstep : handOffStep s l = some s') :
    l.isOf k = false ∧ s'.threads[k]? = some t ∨
      l = .readClientFD k ∧ t = .starting ∧ s'.threads[k]? = some (.threadUnLock s.m_nClientFD) ∨
      l = .threadUnLock k ∧ s'.ReleasedBy k := by
  obtain ⟨hk, -⟩ := List.getElem?_eq_some_iff.mp ht
  cases l with
  | accept nFD =>
    obtain rfl := Option.some.inj hstep
    exact .inl ⟨rfl, ht⟩
  | receive =>
    obtain ⟨nFD, queue, -, -, rfl⟩ := handOffStep_receive hstep
    exact .inl ⟨rfl, ht⟩
  | threadLock =>
    obtain ⟨nFD, -, -, rfl⟩ := handOffStep_threadLock hstep
    exact .inl ⟨rfl, ht⟩
  | writeClientFD =>
    obtain ⟨nFD, -, rfl⟩ := handOffStep_writeClientFD hstep
    exact .inl ⟨rfl, ht⟩
  | createThread rc =>
    obtain ⟨nFD, -, ⟨-, rfl⟩ | ⟨-, rfl⟩⟩ := handOffStep_createThread hstep
    · exact .inl ⟨rfl, (List.getElem?_append_left hk).trans ht⟩
    · exact .inl ⟨rfl, ht⟩
  | readClientFD k' =>
    obtain ⟨hthread, rfl⟩ := handOffStep_readClientFD hstep
    rcases eq_or_ne k' k with rfl | hne
    · rw [hthread] at ht
      cases ht
      exact .inr (.inl ⟨rfl, rfl, List.getElem?_set_self hk⟩)
    · exact .inl ⟨decide_eq_false hne, (List.getElem?_set_ne hne).trans ht⟩
  | threadUnLock k' =>
    obtain ⟨nFD, hthread, rfl⟩ := handOffStep_threadUnLock hstep
    rcases eq_or_ne k' k with rfl | hne
    · exact .inr (.inr ⟨rfl, rfl, nFD, List.getElem?_set_self hk⟩)
    · exact .inl ⟨decide_eq_false hne, (List.getElem?_set_ne hne).trans ht⟩

theorem HandOff.willRelease {k : ℕ} {t : ClientThread} (ht : s.threads[k]? = some t)
    (hholds : t.holds = true) : s.WillRelease k := by
  intro ls s' hrun
  obtain ⟨-, hleft, -⟩ := stepsLeft_of ht hholds
  have hrank := hrun.rank (I := fun s => ∃ t, s.threads[k]? = some t ∧ t.holds = true)
    (Q := fun s => s.ReleasedBy k) (stepsLeft k) (HandOffLabel.isOf k) ?_ ⟨t, ht, hholds⟩
  · rcases hrank with hreleased | ⟨⟨t', ht', hholds'⟩, hle⟩
    · exact .inl hreleased
    · obtain ⟨hleft', -, henabled⟩ := stepsLeft_of ht' hholds'
      exact .inr ⟨henabled, by omega⟩
  · rintro s l s₁ ⟨t, ht, hholds⟩ - hstep
    rcases thread_step ht hstep with ⟨hl, ht'⟩ | ⟨rfl, rfl, ht'⟩ | ⟨-, hreleased⟩
    · refine .inr ⟨⟨t, ht', hholds⟩, ?_⟩
      simp [stepsLeft, ht, ht', hl]
    · refine .inr ⟨⟨_, ht', rfl⟩, ?_⟩
      simp [stepsLeft, ht, ht', HandOffLabel.isOf]
    · exact .inl hreleased

/-- A thread that is going to release the mutex can do so with two steps of its own. -/
theorem HandOff.WillRelease.exists_run {k : ℕ} (h : s.WillRelease k) :
    ∃ ls s', handOff.Run s ls s' ∧ s'.mutex = false := by
  rcases h [] s (.nil s) with ⟨ls, s', -, hrun, hreleased⟩ | ⟨⟨l, hl, hsome⟩, -⟩
  · exact ⟨ls, s', hrun, hreleased.1⟩
  · obtain ⟨s₁, hstep⟩ := Option.isSome_iff_exists.mp hsome
    have hrun₁ : handOff.Run s [l] s₁ := .cons trivial hstep (.nil s₁)
    rcases h [l] s₁ hrun₁ with ⟨ls, s', -, hrun, hreleased⟩ | ⟨⟨l', hl', hsome'⟩, -⟩
    · exact ⟨ls, s', hrun, hreleased.1⟩
    · obtain ⟨s₂, hstep'⟩ := Option.isSome_iff_exists.mp hsome'
      have hrun₂ : handOff.Run s [l, l'] s₂ := .cons trivial hstep (.cons trivial hstep' (.nil s₂))
      rcases h [l, l'] s₂ hrun₂ with ⟨ls, s', -, hrun, hreleased⟩ | ⟨-, hcount⟩
      · exact ⟨ls, s', hrun, hreleased.1⟩
      · rw [List.countP_cons_of_pos hl, List.countP_cons_of_pos hl'] at hcount
        exact absurd hcount (by omega)

end Invariant

/-! ### Every run -/

/-- Every thread created serves the descriptor it was created for, or is going to. -/
def HandOff.ServesCreated (s : HandOff) : Prop :=
  s.threads.length = s.created.length ∧
    ∀ (k : ℕ) (t : ClientThread), s.threads[k]? = some t →
      ∃ nFD, s.created[k]? = some nFD ∧ Gets nFD t ∧ (t = .serving nFD ∨ s.WillRelease k)

/-- Whenever the mutex is held, the message thread is about to create the thread that will release
it, or a created thread is going to release it. -/
def HandOff.ReleaseAhead (s : HandOff) : Prop :=
  s.mutex = true → s.stage.holds = true ∨ ∃ k, s.WillRelease k

/-- The message thread is at `threadLock`, and the mutex will never be free. -/
def HandOff.BlockedForEver (s : HandOff) : Prop :=
  (∃ nFD, s.stage = .threadLock nFD) ∧ ∀ ls s', handOff.Run s ls s' → s'.mutex = true

section Runs

variable {s s' : HandOff}

theorem HandOff.Inv.servesCreated (h : s.Inv) : s.ServesCreated := by
  refine ⟨h.length, fun k t ht => ?_⟩
  obtain ⟨nFD, hcreated, hgets⟩ := h.gets k t ht
  refine ⟨nFD, hcreated, hgets, ?_⟩
  cases t with
  | starting => exact .inr (willRelease ht rfl)
  | threadUnLock nFD' => exact .inr (willRelease ht rfl)
  | serving nFD' =>
    obtain rfl : nFD' = nFD := hgets
    exact .inl rfl

/-- With a holder, the release is ahead. -/
theorem HandOff.releaseAhead_of_holders (h : 0 < s.holders) : s.ReleaseAhead := by
  intro _
  cases hstage : s.stage.holds with
  | true => exact .inl rfl
  | false =>
    rw [HandOff.holders, hstage, Bool.toNat_false, Nat.zero_add] at h
    obtain ⟨t, hmem, hholds⟩ := List.countP_pos_iff.mp h
    obtain ⟨k, hk, rfl⟩ := List.mem_iff_getElem.mp hmem
    exact .inr ⟨k, willRelease (List.getElem?_eq_getElem hk) hholds⟩

/-- With the release ahead, the message thread is not blocked for ever. -/
theorem HandOff.ReleaseAhead.not_blocked (h : s.ReleaseAhead) : ¬ s.BlockedForEver := by
  rintro ⟨⟨nFD, hstage⟩, hheld⟩
  rcases h (hheld [] s (.nil s)) with hholds | ⟨k, hrelease⟩
  · rw [hstage] at hholds
    cases hholds
  · obtain ⟨ls, s', hrun, hfree⟩ := hrelease.exists_run
    rw [hheld ls s' hrun] at hfree
    cases hfree

/-- A mutex without a holder is never released. -/
theorem HandOff.Inv.never_released (h : s.Inv) (hmutex : s.mutex = true) (hholders : s.holders = 0)
    {ls : List HandOffLabel} (hrun : handOff.Run s ls s') : s'.mutex = true := by
  obtain ⟨hinv, hconserve⟩ := HandOff.Inv.run hrun h
  cases hmutex' : s'.mutex with
  | true => rfl
  | false =>
    rw [hmutex, hmutex', hholders] at hconserve
    simp at hconserve

/-- Where a thread creation has failed, the release is not ahead any more. -/
theorem HandOff.Inv.not_releaseAhead (h : s.Inv) (hmutex : s.mutex = true)
    (hholders : s.holders = 0) : ¬ s.ReleaseAhead := by
  intro hahead
  rcases hahead hmutex with hholds | ⟨k, hrelease⟩
  · rw [HandOff.holders, hholds] at hholders
    simp at hholders
  · obtain ⟨ls, s', hrun, hfree⟩ := hrelease.exists_run
    rw [h.never_released hmutex hholders hrun] at hfree
    cases hfree

/-- **The hand-off.** Every created thread serves its descriptor, in every run. The release of the
mutex is always ahead, and the message thread never blocked for ever, in exactly the runs in which
no thread creation fails. -/
theorem smsHandler_handsOver {ls : List HandOffLabel} (h : handOff.Run handOff.init ls s) :
    s.ServesCreated ∧
      ((∀ rc, .createThread rc ∈ ls → rc = 0) ↔ s.ReleaseAhead ∧ ¬ s.BlockedForEver) := by
  obtain ⟨hinv, hconserve⟩ := HandOff.Inv.run h HandOff.inv_init
  have hinit : handOff.init.holders = 0 := rfl
  have hfree : handOff.init.mutex.toNat = 0 := rfl
  rw [hinit, hfree] at hconserve
  refine ⟨hinv.servesCreated, fun hok => ?_, fun ⟨hahead, _⟩ rc hmem => ?_⟩
  · have hcount : ls.countP HandOffLabel.fails = 0 := by
      refine List.countP_eq_zero.mpr fun l hl => ?_
      cases l with
      | createThread rc => simp [HandOffLabel.fails, hok rc hl]
      | _ => simp [HandOffLabel.fails]
    have hahead : s.ReleaseAhead := by
      intro hmutex
      rw [hmutex, hcount, Bool.toNat_true] at hconserve
      exact HandOff.releaseAhead_of_holders (by omega) hmutex
    exact ⟨hahead, hahead.not_blocked⟩
  · by_contra hrc
    -- the failure has a share of the mutex that nobody holds
    have hcount : 0 < ls.countP HandOffLabel.fails :=
      List.countP_pos_iff.mpr ⟨_, hmem, decide_eq_true hrc⟩
    have hle : s.mutex.toNat ≤ 1 := Bool.toNat_le s.mutex
    have hmutex : s.mutex = true := by
      cases hmutex : s.mutex with
      | true => rfl
      | false =>
        rw [hmutex, Bool.toNat_false] at hconserve
        omega
    exact hinv.not_releaseAhead hmutex (by omega) hahead

end Runs

/-- A client is accepted and served. -/
theorem smsHandler_handsOver_client : ∃ s, handOff.Run handOff.init [.accept 5, .receive,
      .threadLock, .writeClientFD, .createThread 0, .readClientFD 0, .threadUnLock 0] s ∧
    s.ServesCreated ∧ s.ReleaseAhead ∧ ¬ s.BlockedForEver := by
  refine ⟨_, LTS.System.run_eq_some_iff.mp rfl, ?_⟩
  have h := smsHandler_handsOver (LTS.System.run_eq_some_iff.mp (rfl : handOff.run handOff.init
    [.accept 5, .receive, .threadLock, .writeClientFD, .createThread 0, .readClientFD 0,
      .threadUnLock 0] = some ⟨[], .outside, false, 5, [.serving 5], [5]⟩))
  exact ⟨h.1, h.2.mp (by simp)⟩

/-- `pthread_create` fails with `EAGAIN` for the first client. The message thread takes the second,
and waits for ever for a mutex it has locked itself. -/
theorem second_client_waits : ∃ s, handOff.Run handOff.init [.accept 5, .receive, .threadLock,
      .writeClientFD, .createThread 11, .accept 6, .receive] s ∧
    s.BlockedForEver ∧ ¬ s.ReleaseAhead := by
  have hrun : handOff.Run handOff.init [.accept 5, .receive, .threadLock, .writeClientFD,
      .createThread 11, .accept 6, .receive] ⟨[], .threadLock 6, true, 5, [], []⟩ :=
    LTS.System.run_eq_some_iff.mp rfl
  obtain ⟨hinv, -⟩ := HandOff.Inv.run hrun HandOff.inv_init
  refine ⟨_, hrun, ⟨⟨6, rfl⟩, fun ls s' hrun' => ?_⟩, hinv.not_releaseAhead rfl rfl⟩
  exact hinv.never_released rfl rfl hrun'

end ControllerSystem.Controller
