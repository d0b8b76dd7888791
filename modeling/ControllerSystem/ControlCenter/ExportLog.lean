import ControllerSystem.Lib.LTS
import ControllerSystem.Lib.Words

/-!
# The export of the log

`printPacket` and `printLog` push every line onto `extListLog`; `runExportLog` takes one line off
the list in each iteration and writes it to the log file, as many times as the list had lines when
it looked. The pushes come from other threads, between any two steps of the iteration.

The file stands for the files of all days, and opens always. The state notes the lines pushed.

* `runExportLog_exports_iff` — every line is in the file or in the list, once and in order, if and
  only if every iteration finds exactly one line.
-/

open Words

namespace ControllerSystem.ControlCenter

/-- Where the exporting thread stands in an iteration of `runExportLog`. -/
inductive ExportPhase
  /-- At `threadSleep`, or at `size` behind it. -/
  | threadSleep
  /-- At `begin`. -/
  | begin (nCount : ℕ)
  /-- At `pop_front`. -/
  | popFront (strLog : Bytes) (nCount : ℕ)
  /-- In the loop, with `i` lines written. -/
  | write (strLog : Bytes) (nCount i : ℕ)
  /-- The first line of an empty list has been read or popped. -/
  | undefined
  deriving DecidableEq

structure ExportLog where
  phase : ExportPhase
  extListLog : List Bytes
  /-- The lines written. -/
  file : List Bytes
  /-- The lines pushed so far. -/
  pushed : List Bytes
  deriving DecidableEq

inductive ExportLabel
  /-- Some thread pushes a line. -/
  | pushBack (szLog : Bytes)
  | size
  | begin
  | popFront
  /-- One round of the loop. -/
  | fprintf
  /-- The loop is over. -/
  | fclose
  deriving DecidableEq

def exportStep (s : ExportLog) : ExportLabel → Option ExportLog
  | .pushBack szLog =>
    some { s with extListLog := s.extListLog ++ [szLog], pushed := s.pushed ++ [szLog] }
  | .size =>
    match s.phase with
    | .threadSleep => some { s with phase := .begin s.extListLog.length }
    | _ => none
  | .begin =>
    match s.phase, s.extListLog with
    | .begin nCount, strLog :: _ => some { s with phase := .popFront strLog nCount }
    | .begin _, [] => some { s with phase := .undefined }
    | _, _ => none
  | .popFront =>
    match s.phase, s.extListLog with
    | .popFront strLog nCount, _ :: rest =>
      some { s with phase := .write strLog nCount 0, extListLog := rest }
    | .popFront _ _, [] => some { s with phase := .undefined }
    | _, _ => none
  | .fprintf =>
    match s.phase with
    | .write strLog nCount i =>
      if i < nCount then
        some { s with phase := .write strLog nCount (i + 1), file := s.file ++ [strLog] }
      else none
    | _ => none
  | .fclose =>
    match s.phase with
    | .write _ nCount i => if i < nCount then none else some { s with phase := .threadSleep }
    | _ => none

def exportLog : LTS.System ExportLog ExportLabel where
  init := ⟨.threadSleep, [], [], []⟩
  step := exportStep

/-- The line that has been taken off the list and not been written yet. -/
def ExportLog.inHand (s : ExportLog) : List Bytes :=
  match s.phase with
  | .write strLog _ 0 => [strLog]
  | _ => []

/-- Every line pushed is in the file, in the hand of the exporting thread or in the list, once and
in order, and no line of an empty list has been taken. -/
def ExportLog.Exported (s : ExportLog) : Prop :=
  s.phase ≠ .undefined ∧ s.file ++ s.inHand ++ s.extListLog = s.pushed

/-- When the size of the list is asked, the list has exactly one line. -/
def FindsOne (s : ExportLog) (l : ExportLabel) : Prop :=
  l = .size → s.extListLog.length = 1

/-! ### What a step can do -/

section Steps

variable {s s' : ExportLog}

theorem exportStep_size (h : exportStep s .size = some s') :
    s.phase = .threadSleep ∧ s' = { s with phase := .begin s.extListLog.length } := by
  simp only [exportStep] at h
  split at h
  · next hphase => exact ⟨hphase, (Option.some.inj h).symm⟩
  · cases h

theorem exportStep_begin (h : exportStep s .begin = some s') :
    ∃ nCount, s.phase = .begin nCount ∧
      ((∃ strLog rest, s.extListLog = strLog :: rest ∧
        s' = { s with phase := .popFront strLog nCount }) ∨
      s.extListLog = [] ∧ s' = { s with phase := .undefined }) := by
  simp only [exportStep] at h
  split at h
  · next nCount strLog rest hphase hlist =>
    exact ⟨nCount, hphase, .inl ⟨strLog, rest, hlist, (Option.some.inj h).symm⟩⟩
  · next nCount hphase hlist => exact ⟨nCount, hphase, .inr ⟨hlist, (Option.some.inj h).symm⟩⟩
  · cases h

theorem exportStep_popFront (h : exportStep s .popFront = some s') :
    ∃ strLog nCount, s.phase = .popFront strLog nCount ∧
      ((∃ first rest, s.extListLog = first :: rest ∧
        s' = { s with phase := .write strLog nCount 0, extListLog := rest }) ∨
      s.extListLog = [] ∧ s' = { s with phase := .undefined }) := by
  simp only [exportStep] at h
  split at h
  · next strLog nCount first rest hphase hlist =>
    exact ⟨strLog, nCount, hphase, .inl ⟨first, rest, hlist, (Option.some.inj h).symm⟩⟩
  · next strLog nCount hphase hlist =>
    exact ⟨strLog, nCount, hphase, .inr ⟨hlist, (Option.some.inj h).symm⟩⟩
  · cases h

theorem exportStep_fprintf (h : exportStep s .fprintf = some s') :
    ∃ strLog nCount i, s.phase = .write strLog nCount i ∧ i < nCount ∧
      s' = { s with phase := .write strLog nCount (i + 1), file := s.file ++ [strLog] } := by
  simp only [exportStep] at h
  split at h
  · next strLog nCount i hphase =>
    obtain ⟨hlt, h⟩ := Option.ite_none_right_eq_some.mp h
    exact ⟨strLog, nCount, i, hphase, hlt, (Option.some.inj h).symm⟩
  · cases h

theorem exportStep_fclose (h : exportStep s .fclose = some s') :
    ∃ strLog nCount i, s.phase = .write strLog nCount i ∧ nCount ≤ i ∧
      s' = { s with phase := .threadSleep } := by
  simp only [exportStep] at h
  split at h
  · next strLog nCount i hphase =>
    obtain ⟨hge, h⟩ := Option.ite_none_left_eq_some.mp h
    exact ⟨strLog, nCount, i, hphase, Nat.le_of_not_lt hge, (Option.some.inj h).symm⟩
  · cases h

end Steps

/-! ### Iterations that find one line -/

/-- What holds in each phase as long as every iteration has found one line. -/
def ExportLog.Good (s : ExportLog) : Prop :=
  match s.phase with
  | .threadSleep => s.file ++ s.extListLog = s.pushed
  | .begin nCount => nCount = 1 ∧ s.extListLog ≠ [] ∧ s.file ++ s.extListLog = s.pushed
  | .popFront strLog nCount =>
    nCount = 1 ∧ s.extListLog.head? = some strLog ∧ s.file ++ s.extListLog = s.pushed
  | .write strLog nCount i =>
    nCount = 1 ∧ (i = 0 ∧ s.file ++ strLog :: s.extListLog = s.pushed ∨
      i = 1 ∧ s.file ++ s.extListLog = s.pushed)
  | .undefined => False

section Good

variable {s s' : ExportLog}

theorem ExportLog.Good.exported (h : s.Good) : s.Exported := by
  obtain ⟨phase, extListLog, file, pushed⟩ := s
  cases phase with
  | threadSleep => exact ⟨fun heq => (nomatch heq), by simpa [Good, inHand] using h⟩
  | begin nCount => exact ⟨fun heq => (nomatch heq), by simpa [inHand] using h.2.2⟩
  | popFront strLog nCount => exact ⟨fun heq => (nomatch heq), by simpa [inHand] using h.2.2⟩
  | write strLog nCount i =>
    refine ⟨fun heq => (nomatch heq), ?_⟩
    obtain ⟨-, ⟨rfl, hall⟩ | ⟨rfl, hall⟩⟩ := h
    · simpa [inHand] using hall
    · simpa [inHand] using hall
  | undefined => exact h.elim

theorem ExportLog.Good.step {l : ExportLabel} (h : s.Good) (hok : FindsOne s l)
    (hstep : exportStep s l = some s') : s'.Good := by
  cases l with
  | pushBack szLog =>
    obtain rfl := Option.some.inj hstep
    obtain ⟨phase, extListLog, file, pushed⟩ := s
    -- the new line goes behind all others on both sides
    cases phase with
    | threadSleep => exact (List.append_assoc _ _ _).symm.trans (congrArg (· ++ [szLog]) h)
    | begin nCount =>
      obtain ⟨hcount, hne, hall⟩ := h
      exact ⟨hcount, by simp, (List.append_assoc _ _ _).symm.trans (congrArg (· ++ [szLog]) hall)⟩
    | popFront strLog nCount =>
      obtain ⟨hcount, hhead, hall⟩ := h
      refine ⟨hcount, ?_, (List.append_assoc _ _ _).symm.trans (congrArg (· ++ [szLog]) hall)⟩
      show (extListLog ++ [szLog]).head? = some strLog
      rw [List.head?_append, hhead]
      rfl
    | write strLog nCount i =>
      obtain ⟨hcount, ⟨hi, hall⟩ | ⟨hi, hall⟩⟩ := h
      · refine ⟨hcount, .inl ⟨hi, ?_⟩⟩
        exact (List.append_assoc _ (strLog :: extListLog) _).symm.trans
          (congrArg (· ++ [szLog]) hall)
      · refine ⟨hcount, .inr ⟨hi, ?_⟩⟩
        exact (List.append_assoc _ _ _).symm.trans (congrArg (· ++ [szLog]) hall)
    | undefined => exact h.elim
  | size =>
    obtain ⟨hphase, rfl⟩ := exportStep_size hstep
    rw [Good, hphase] at h
    have hone : s.extListLog.length = 1 := hok rfl
    refine ⟨hone, fun hnil => ?_, h⟩
    rw [show s.extListLog = [] from hnil] at hone
    cases hone
  | begin =>
    obtain ⟨nCount, hphase, ⟨strLog, rest, hlist, rfl⟩ | ⟨hlist, rfl⟩⟩ := exportStep_begin hstep
    · rw [Good, hphase] at h
      exact ⟨h.1, congrArg List.head? hlist, h.2.2⟩
    · rw [Good, hphase] at h
      exact h.2.1 hlist
  | popFront =>
    obtain ⟨strLog, nCount, hphase, ⟨first, rest, hlist, rfl⟩ | ⟨hlist, rfl⟩⟩ :=
      exportStep_popFront hstep
    · rw [Good, hphase, hlist] at h
      obtain ⟨hcount, hhead, hall⟩ := h
      cases hhead
      exact ⟨hcount, .inl ⟨rfl, hall⟩⟩
    · rw [Good, hphase, hlist] at h
      cases h.2.1
  | fprintf =>
    obtain ⟨strLog, nCount, i, hphase, hlt, rfl⟩ := exportStep_fprintf hstep
    rw [Good, hphase] at h
    obtain ⟨rfl, ⟨rfl, hall⟩ | ⟨rfl, hall⟩⟩ := h
    · exact ⟨rfl, .inr ⟨rfl, (List.append_assoc _ _ _).trans hall⟩⟩
    · cases Nat.lt_irrefl 1 hlt
  | fclose =>
    obtain ⟨strLog, nCount, i, hphase, hge, rfl⟩ := exportStep_fclose hstep
    rw [Good, hphase] at h
    obtain ⟨rfl, ⟨rfl, hall⟩ | ⟨rfl, hall⟩⟩ := h
    · cases hge
    · exact hall

end Good

/-! ### Iterations that do not -/

/-- Between two iterations, or at an end. -/
def ExportLog.Settled (s : ExportLog) : Prop :=
  s.phase = .threadSleep ∨ s.phase = .undefined

/-- How many lines more the rest of the iteration writes than it takes. -/
def ExportPhase.toCome : ExportPhase → ℤ
  | .begin nCount | .popFront _ nCount => nCount - 1
  | .write _ nCount i => nCount - i
  | .threadSleep | .undefined => 0

/-- How many lines more there are in the file and the list than have been pushed, once the iteration
is over. -/
def ExportLog.surplus (s : ExportLog) : ℤ :=
  s.file.length + s.extListLog.length - s.pushed.length + s.phase.toCome

/-- The loop does not write too often. -/
def ExportLog.Bounded (s : ExportLog) : Prop :=
  ∀ strLog nCount i, s.phase = .write strLog nCount i → i ≤ nCount

section Surplus

variable {s s' : ExportLog}

/-- The surplus is settled when the size of the list is asked. -/
theorem ExportLog.surplus_step {l : ExportLabel} (hl : l ≠ .size) (hbound : s.Bounded)
    (hstep : exportStep s l = some s') :
    s'.phase = .undefined ∨ s'.surplus = s.surplus ∧ s'.Bounded := by
  cases l with
  | pushBack szLog =>
    obtain rfl := Option.some.inj hstep
    refine .inr ⟨?_, hbound⟩
    simp only [surplus, List.length_append, List.length_singleton]
    omega
  | size => exact absurd rfl hl
  | begin =>
    obtain ⟨nCount, hphase, ⟨strLog, rest, hlist, rfl⟩ | ⟨hlist, rfl⟩⟩ := exportStep_begin hstep
    · refine .inr ⟨?_, fun _ _ _ heq => by cases heq⟩
      simp only [surplus, hphase, ExportPhase.toCome]
    · exact .inl rfl
  | popFront =>
    obtain ⟨strLog, nCount, hphase, ⟨first, rest, hlist, rfl⟩ | ⟨hlist, rfl⟩⟩ :=
      exportStep_popFront hstep
    · refine .inr ⟨?_, fun _ _ _ heq => ?_⟩
      · simp only [surplus, hphase, hlist, ExportPhase.toCome, List.length_cons]
        omega
      · cases heq
        exact Nat.zero_le _
    · exact .inl rfl
  | fprintf =>
    obtain ⟨strLog, nCount, i, hphase, hlt, rfl⟩ := exportStep_fprintf hstep
    refine .inr ⟨?_, fun _ _ _ heq => ?_⟩
    · simp only [surplus, hphase, ExportPhase.toCome, List.length_append, List.length_singleton]
      omega
    · cases heq
      exact hlt
  | fclose =>
    obtain ⟨strLog, nCount, i, hphase, hge, rfl⟩ := exportStep_fclose hstep
    obtain rfl : i = nCount := le_antisymm (hbound _ _ _ hphase) hge
    refine .inr ⟨?_, fun _ _ _ heq => by cases heq⟩
    simp only [surplus, hphase, ExportPhase.toCome]
    omega

/-- A run that ends settled comes by a settled state with the surplus of its first state. -/
theorem ExportLog.exists_settled {ls : List ExportLabel} (hrun : exportLog.Run s ls s')
    (hsettled : s'.Settled) (hbound : s.Bounded) :
    ∃ ls₁ s₁, ls₁ <+: ls ∧ exportLog.Run s ls₁ s₁ ∧
      (s₁.phase = .undefined ∨ s₁.phase = .threadSleep ∧ s₁.surplus = s.surplus) := by
  induction hrun with
  | nil s =>
    refine ⟨[], s, List.prefix_rfl, .nil s, ?_⟩
    rcases hsettled with hsleep | hundefined
    · exact .inr ⟨hsleep, rfl⟩
    · exact .inl hundefined
  | @cons s l s₁ ls s₂ _ hstep _ ih =>
    rcases eq_or_ne l .size with rfl | hl
    · -- the run is between two iterations
      exact ⟨[], s, List.nil_prefix, .nil s, .inr ⟨(exportStep_size hstep).1, rfl⟩⟩
    · rcases surplus_step hl hbound hstep with hundefined | ⟨hsurplus, hbound₁⟩
      · exact ⟨[l], s₁, ⟨ls, rfl⟩, .cons trivial hstep (.nil s₁), .inl hundefined⟩
      · obtain ⟨ls₁, s₃, hpre, hrun, hend⟩ := ih hsettled hbound₁
        rw [hsurplus] at hend
        exact ⟨l :: ls₁, s₃, List.cons_prefix_cons.mpr ⟨rfl, hpre⟩, .cons trivial hstep hrun,
          hend⟩

theorem ExportLog.Exported.surplus_eq (h : s.Exported) (hphase : s.phase = .threadSleep) :
    s.surplus = 0 := by
  have hlength := congrArg List.length h.2
  rw [List.length_append, List.length_append] at hlength
  have hhand : s.inHand = [] := by rw [inHand, hphase]
  rw [hhand, List.length_nil] at hlength
  simp only [surplus, hphase, ExportPhase.toCome]
  omega

/-- With every line accounted for at every moment, each iteration has found one line. -/
theorem ExportLog.Good.runWhere {ls : List ExportLabel} (hrun : exportLog.Run s ls s')
    (hsettled : s'.Settled) (hgood : s.Good)
    (hall : ∀ ls₁ s₁, ls₁ <+: ls → exportLog.Run s ls₁ s₁ → s₁.Exported) :
    exportLog.RunWhere FindsOne s ls s' := by
  induction hrun with
  | nil s => exact .nil s
  | @cons s l s₁ ls s₂ _ hstep hrest ih =>
    have hrest' : ∀ ls₁ s₃, ls₁ <+: ls → exportLog.Run s₁ ls₁ s₃ → s₃.Exported :=
      fun ls₁ s₃ hpre hrun =>
        hall (l :: ls₁) s₃ (List.cons_prefix_cons.mpr ⟨rfl, hpre⟩) (.cons trivial hstep hrun)
    have hok : FindsOne s l := by
      rintro rfl
      obtain ⟨hphase, rfl⟩ := exportStep_size hstep
      -- the surplus at the end of the iteration says how many lines it has found
      obtain ⟨ls₁, s₃, hpre, hrun, hend⟩ :=
        exists_settled hrest hsettled (fun _ _ _ heq => by cases heq)
      have hexported := hrest' ls₁ s₃ hpre hrun
      rcases hend with hundefined | ⟨hsleep, hsurplus⟩
      · exact absurd hundefined hexported.1
      · have hbefore := hgood.exported.surplus_eq hphase
        rw [hexported.surplus_eq hsleep] at hsurplus
        simp only [surplus, hphase, ExportPhase.toCome] at hbefore hsurplus
        omega
    exact .cons hok hstep (ih hsettled (hgood.step hok hstep) hrest')

end Surplus

/-! ### Every run -/

/-- Every line is accounted for at every moment of the run. -/
def ExportsAll (ls : List ExportLabel) : Prop :=
  ∀ ls₁ s₁, ls₁ <+: ls → exportLog.Run exportLog.init ls₁ s₁ → s₁.Exported

/-- **The export.** In a run in which each iteration finds one line, every line pushed is exported
once; a run that does not end inside an iteration and has exported so is one of these. -/
theorem runExportLog_exports_iff {ls : List ExportLabel} {s : ExportLog}
    (h : exportLog.Run exportLog.init ls s) :
    (exportLog.RunWhere FindsOne exportLog.init ls s → ExportsAll ls) ∧
      (s.Settled → ExportsAll ls → exportLog.RunWhere FindsOne exportLog.init ls s) := by
  have hinit : exportLog.init.Good := rfl
  refine ⟨fun hrun ls₁ s₁ hpre hrun₁ => ?_, fun hsettled hall => ?_⟩
  · have hgood : s₁.Good := (hrun.of_prefix hpre hrun₁).invariant
      (fun _ _ _ hgood hok hstep => hgood.step hok hstep) hinit
    exact hgood.exported
  · exact hinit.runWhere h hsettled hall

/-- A line, and an iteration that finds it. -/
def exportOne (strLine : Bytes) : List ExportLabel :=
  [.pushBack strLine, .size, .begin, .popFront, .fprintf, .fclose]

theorem runExportLog_exports_one :
    ExportsAll (exportOne (ascii "a") ++ exportOne (ascii "b") ++ exportOne (ascii "a")) := by
  have hone : ∀ strLine pushed file,
      exportLog.RunWhere FindsOne ⟨.threadSleep, [], pushed, file⟩ (exportOne strLine)
        ⟨.threadSleep, [], pushed ++ [strLine], file ++ [strLine]⟩ := fun strLine pushed file =>
    .cons (fun h => by cases h) rfl (.cons (fun _ => rfl) rfl (.cons (fun h => by cases h) rfl
      (.cons (fun h => by cases h) rfl (.cons (fun h => by cases h) rfl
        (.cons (fun h => by cases h) rfl (.nil _))))))
  have hrun : exportLog.RunWhere FindsOne exportLog.init
      (exportOne (ascii "a") ++ exportOne (ascii "b") ++ exportOne (ascii "a")) _ :=
    ((hone (ascii "a") [] []).append (hone (ascii "b") _ _)).append (hone (ascii "a") _ _)
  exact (runExportLog_exports_iff hrun.toRun).1 hrun

/-- With two lines in the list the first is written twice; with none an iteration takes the first
line of an empty list. -/
theorem runExportLog_repeats :
    (∃ s, exportLog.Run exportLog.init [.pushBack (ascii "a"), .pushBack (ascii "b"), .size, .begin,
        .popFront, .fprintf, .fprintf, .fclose] s ∧
      s.file = [ascii "a", ascii "a"] ∧ s.extListLog = [ascii "b"] ∧ ¬ s.Exported) ∧
    ∃ s, exportLog.Run exportLog.init [.size, .begin] s ∧ s.phase = .undefined ∧ ¬ s.Exported := by
  refine ⟨⟨_, LTS.System.run_eq_some_iff.mp rfl, rfl, rfl, fun h => ?_⟩,
    _, LTS.System.run_eq_some_iff.mp rfl, rfl, fun h => h.1 rfl⟩
  have hlength := congrArg List.length h.2
  cases hlength

end ControllerSystem.ControlCenter
