import ControllerSystem.ControlCenter.Center
import ControllerSystem.Lib.LTS

/-!
# Rounds of the keep-alive thread

The ControlCenter with packets and rounds of the keep-alive thread as its steps. Between two rounds
`vEnquireLink` is the list of the sockets asked, less one entry for each response; with the state
a round leaves, `RoundEnded`, this gives what the next one does: `enquireLinkRound_drops_iff`. The
thread does not look at the results of its statements, and closes a socket whose rows it has not
been able to delete like any other (`enquireLinkRound_keeps_rows`).
-/

open Words Calls

namespace ControllerSystem.ControlCenter

/-! ### Steps -/

/-- A packet from a socket, or a round of the keep-alive thread, with the choices of its calls. -/
inductive CenterLabel
  | packet (nClientFD : ℤ) (pData : Bytes) (chs : List CenterChoice)
  | tick (chs : List CenterChoice)

/-- A step, with the calls it makes. -/
def centerStep (s : Center) : CenterLabel → Option (Center × List CenterEvent)
  | .packet nClientFD pData chs => (Center.run (onCMP nClientFD pData) s chs).map Prod.snd
  | .tick chs => (Center.run enquireLinkRound s chs).map Prod.snd

/-- The ControlCenter with atomic steps. -/
def centerSystem : LTS.System Center CenterLabel where
  init := .start
  step := fun s l => (centerStep s l).map Prod.fst

theorem centerStep_packet_eq_some {s s' : Center} {nClientFD : ℤ} {pData : Bytes}
    {chs : List CenterChoice} {tr : List CenterEvent} :
    centerStep s (.packet nClientFD pData chs) = some (s', tr) ↔
      Center.run (onCMP nClientFD pData) s chs = some ((), s', tr) := by
  constructor
  · intro h
    obtain ⟨⟨⟨⟩, r⟩, hrun, rfl⟩ := Option.map_eq_some_iff.mp h
    exact hrun
  · intro h
    simp [centerStep, h]

theorem centerStep_tick_eq_some {s s' : Center} {chs : List CenterChoice}
    {tr : List CenterEvent} : centerStep s (.tick chs) = some (s', tr) ↔
      Center.run enquireLinkRound s chs = some ((), s', tr) := by
  constructor
  · intro h
    obtain ⟨⟨⟨⟩, r⟩, hrun, rfl⟩ := Option.map_eq_some_iff.mp h
    exact hrun
  · intro h
    simp [centerStep, h]

theorem centerSystem_step_eq_some {s s' : Center} {l : CenterLabel} :
    centerSystem.step s l = some s' ↔ ∃ tr, centerStep s l = some (s', tr) := by
  simp [centerSystem, Option.map_eq_some_iff]

/-- The step is a packet. -/
def CenterLabel.IsPacket : CenterLabel → Prop
  | packet _ _ _ => True
  | tick _ => False

/-- The step is an enquire-link response from the socket. -/
def CenterLabel.isResponseFrom (nSocketFD : ℤ) : CenterLabel → Bool
  | packet nClientFD pData _ => nClientFD = nSocketFD ∧ getCommand pData = enquireLinkResponse
  | tick _ => false

/-- How many enquire-link responses from the socket are among the steps. -/
def responsesFrom (nSocketFD : ℤ) (ls : List CenterLabel) : ℕ :=
  ls.countP (CenterLabel.isResponseFrom nSocketFD)

/-- How many rows with status 1 a socket has. -/
def boundRows (nSocketFD : ℤ) (rows : List ControllerRow) : ℕ :=
  rows.countP fun r => r.status = 1 ∧ r.socketFd = nSocketFD

/-- The state a round has just ended in, all of whose statements have succeeded, or the one before
the first round. -/
def RoundEnded (s : Center) : Prop :=
  s = .start ∨ ∃ s₀ chs tr, centerSystem.Reachable s₀ ∧ Succeed chs ∧
    centerStep s₀ (.tick chs) = some (s, tr)

/-! ### Between two rounds -/

theorem count_selectBound (nSocketFD : ℤ) (rows : List ControllerRow) :
    (ControllerSql.selectBound.query rows).count nSocketFD = boundRows nSocketFD rows := by
  rw [ControllerSql.query, List.count, List.countP_map, List.countP_filter, boundRows]
  refine List.countP_congr fun r _ => ?_
  simp [and_comm]

/-- A round notes every bound socket once for each of its rows. -/
theorem RoundEnded.vEnquireLink {s : Center} (h : RoundEnded s) :
    s.vEnquireLink = ControllerSql.selectBound.query s.rows := by
  rcases h with rfl | ⟨s₀, chs, tr, -, hsucceed, htick⟩
  · rfl
  · obtain ⟨-, -, -, -, hlink⟩ := enquireLinkRound_run (centerStep_tick_eq_some.mp htick)
    exact (hlink hsucceed).2

/-- What one packet does to the entries of a socket. -/
theorem count_step {s s' : Center} {l : CenterLabel} (hl : l.IsPacket)
    (h : centerSystem.step s l = some s') (nSocketFD : ℤ) :
    s'.vEnquireLink.count nSocketFD =
      s.vEnquireLink.count nSocketFD - responsesFrom nSocketFD [l] := by
  obtain ⟨tr, hstep⟩ := centerSystem_step_eq_some.mp h
  cases l with
  | tick chs => exact hl.elim
  | packet nClientFD pData chs =>
    rw [onCMP_vEnquireLink (centerStep_packet_eq_some.mp hstep)]
    by_cases hack : getCommand pData = enquireLinkResponse
    · -- a response takes one entry of its own socket, if there is one
      rw [if_pos hack, List.count_erase]
      simp [responsesFrom, CenterLabel.isResponseFrom, hack]
    · simp [responsesFrom, CenterLabel.isResponseFrom, hack]

/-- **Between two rounds** a socket has as many entries as it had, less its responses. -/
theorem count_run {s s' : Center} {ls : List CenterLabel} (h : centerSystem.Run s ls s')
    (hls : ∀ l ∈ ls, l.IsPacket) (nSocketFD : ℤ) :
    s'.vEnquireLink.count nSocketFD =
      s.vEnquireLink.count nSocketFD - responsesFrom nSocketFD ls := by
  induction h with
  | nil s => rfl
  | @cons s l s₁ ls s' _ hstep _ ih =>
    have hrest := ih fun l hl => hls l (List.mem_cons_of_mem _ hl)
    have hfirst := count_step (hls l List.mem_cons_self) hstep nSocketFD
    -- truncated subtraction is taken step by step
    have hsum : responsesFrom nSocketFD (l :: ls) =
        responsesFrom nSocketFD [l] + responsesFrom nSocketFD ls := by
      simp [responsesFrom, List.countP_cons, Nat.add_comm]
    omega

/-! ### The next round -/

/-- **What a round does.** From the end of one round to the end of the next, when the statements of
both succeed: exactly the sockets with fewer responses than they had bound rows are closed, exactly
their rows are deleted, and each bound row that remains has had one request sent to its socket. -/
theorem enquireLinkRound_drops_iff (s₁ s₂ s₃ : Center) (ls : List CenterLabel)
    (chs : List CenterChoice) (tr : List CenterEvent) (hended : RoundEnded s₁)
    (hls : ∀ l ∈ ls, l.IsPacket) (hrun : centerSystem.Run s₁ ls s₂) (hsucceed : Succeed chs)
    (htick : centerStep s₂ (.tick chs) = some (s₃, tr)) :
    (∀ nSocketFD, nSocketFD ∈ closed tr ↔
      responsesFrom nSocketFD ls < boundRows nSocketFD s₁.rows) ∧
    s₃.rows = (s₂.rows.filter fun r => r.socketFd ∉ closed tr) ∧
    enquired tr = (s₃.rows.filter fun r => r.status = 1).map ControllerRow.socketFd := by
  obtain ⟨hclosed, hrows, henquired, -, hall⟩ :=
    enquireLinkRound_run (centerStep_tick_eq_some.mp htick)
  obtain ⟨hdropped, hlink⟩ := hall hsucceed
  refine ⟨fun nSocketFD => ?_, ?_, ?_⟩
  · -- a socket is closed when it has an entry left
    have hcount := count_run hrun hls nSocketFD
    rw [hended.vEnquireLink, count_selectBound] at hcount
    rw [hclosed, ← List.count_pos_iff, hcount]
    omega
  · rw [hclosed, hrows, hdropped]
  · rw [henquired, hlink]
    rfl

/-- Socket 5 has bound itself and has been asked. -/
def askedCenter : Center := ⟨[⟨ascii "a", 1, 5⟩], [5], 1⟩

theorem askedCenter_ended : RoundEnded askedCenter := by
  have hbind : centerSystem.Run Center.start
      [.packet 5 (bindPacket (ascii "a")) (List.replicate 5 {})]
      ⟨[⟨ascii "a", 1, 5⟩], [], 0⟩ := LTS.System.run_eq_some_iff.mp rfl
  refine .inr ⟨_, List.replicate 10 {}, _, ⟨_, hbind⟩, fun ch hch => ?_, rfl⟩
  rw [List.eq_of_mem_replicate hch]

/-- Socket 5 does not answer, and is dropped. -/
theorem enquireLinkRound_drops_iff_silent : ∃ s₃ tr,
    centerStep askedCenter (.tick (List.replicate 11 {})) = some (s₃, tr) ∧
    (∀ nSocketFD, nSocketFD ∈ closed tr ↔
      responsesFrom nSocketFD [] < boundRows nSocketFD askedCenter.rows) ∧
    s₃.rows = (askedCenter.rows.filter fun r => r.socketFd ∉ closed tr) ∧
    enquired tr = (s₃.rows.filter fun r => r.status = 1).map ControllerRow.socketFd := by
  have hsucceed : Succeed (List.replicate 11 {}) := by
    intro ch hch
    rw [List.eq_of_mem_replicate hch]
  have htick : centerStep askedCenter (.tick (List.replicate 11 {})) = some (⟨[], [], 1⟩, _) := rfl
  exact ⟨_, _, htick, enquireLinkRound_drops_iff _ _ _ [] _ _ askedCenter_ended (by simp) (.nil _)
    hsucceed htick⟩

/-- The table is locked while socket 5 is dropped: the socket is closed, and its row stays. -/
theorem enquireLinkRound_keeps_rows : RoundEnded askedCenter ∧ ∃ s₃ tr,
    centerStep askedCenter (.tick (.replicate 3 {} ++ ({ rc := 5 } : CenterChoice) ::
      .replicate 14 {})) = some (s₃, tr) ∧
    5 ∈ closed tr ∧ ¬ s₃.rows = askedCenter.rows.filter fun r => r.socketFd ∉ closed tr := by
  refine ⟨askedCenter_ended, _, _, rfl, @List.mem_of_getElem? _ _ 0 _ rfl, ?_⟩
  decide

end ControllerSystem.ControlCenter
