import ControllerSystem.ControlCenter.Drops
import ControllerSystem.Controller.Server

/-!
# Whom the keep-alive threads drop

The ControlCenter and the Controller side by side. Both keep bare descriptors in `vEnquireLink` from
one round to the next and do not look at the end of a connection, so a descriptor given away in
between makes a round close a connection that has never been asked
(`enquireLinkRound_drops_stranger`). As long as this does not happen a round drops only who
was asked at the round before and still owes an answer (`enquireLinkRound_drops_silent`).
-/

open Words Calls KeepAlive

namespace ControllerSystem

/-- **Whom a round drops.** In every run in which no descriptor is given away while it is in
`vEnquireLink` (and, in the ControlCenter, no round finds a descriptor there that has all its
responses in the queue): a connection that a round closes was there at the round before, was sent
enquire-link requests then, and has sent fewer responses since. -/
theorem enquireLinkRound_drops_silent (mConfig : Controller.Config) :
    (∀ (s s' : ControlCenter.Server) ls chs tr,
      ControlCenter.serverSystem.RunWhere ControlCenter.Server.Fresh
        ControlCenter.serverSystem.init ls s →
      s.Fresh (.tick chs) → ControlCenter.serverStep s (.tick chs) = some (s', tr) →
      ∀ nSocketFD ∈ ControlCenter.closed tr, ∀ c, s.sockets.conn nSocketFD = some c →
        s.log.answers c < s.log.asks c ∧ c < s.log.openedBefore) ∧
    ∀ (s s' : Controller.Server) ls chs tr,
      (Controller.serverSystem mConfig).RunWhere Controller.Server.Fresh
        (Controller.serverSystem mConfig).init ls s →
      Controller.serverStep mConfig s (.tick chs) = some (s', tr) →
      ∀ nSocketFD ∈ Controller.closed tr, ∀ c, s.sockets.conn nSocketFD = some c →
        s.log.answers c < s.log.asks c ∧ c < s.log.openedBefore :=
  ⟨fun _ _ _ _ _ hrun hfresh hstep _ hclosed _ hconn =>
      ControlCenter.closed_justified hrun hfresh hstep hclosed hconn,
    fun _ _ _ _ _ hrun hstep _ hclosed _ hconn =>
      Controller.closed_justified hrun hstep hclosed hconn⟩

/-- Client 0 binds, is asked, does not answer, and is dropped, by either program. -/
theorem enquireLinkRound_drops_silent_bound :
    (∃ s s' tr, ControlCenter.serverSystem.Run ControlCenter.serverSystem.init
        [.accept 5, .receive 0 (ControlCenter.bindPacket (ascii "a")),
          .handle (List.replicate 5 {}), .tick (List.replicate 10 {})] s ∧
      ControlCenter.serverStep s (.tick (List.replicate 11 {})) = some (s', tr) ∧
      5 ∈ ControlCenter.closed tr ∧ s.log.answers 0 < s.log.asks 0 ∧ 0 < s.log.openedBefore) ∧
    ∃ s s' tr, (Controller.serverSystem ⟨[], [], []⟩).Run
        (Controller.serverSystem ⟨[], [], []⟩).init
        [.accept 5, .receive 0 (ControlCenter.bindPacket (ascii "a")) (List.replicate 5 {}),
          .tick (List.replicate 11 {})] s ∧
      Controller.serverStep ⟨[], [], []⟩ s (.tick (List.replicate 12 {})) = some (s', tr) ∧
      5 ∈ Controller.closed tr ∧ s.log.answers 0 < s.log.asks 0 ∧ 0 < s.log.openedBefore := by
  constructor
  · obtain ⟨s, hrun, hlink, hunhandled, ⟨s', tr, hstep, hmem⟩, hconn⟩ : ∃ s,
        ControlCenter.serverSystem.RunWhere ControlCenter.Server.Fresh
          ControlCenter.serverSystem.init [.accept 5,
          .receive 0 (ControlCenter.bindPacket (ascii "a")), .handle (List.replicate 5 {}),
          .tick (List.replicate 10 {})] s ∧
        s.center.vEnquireLink = [5] ∧ s.unhandled = [] ∧
        (∃ s' tr, ControlCenter.serverStep s (.tick (List.replicate 11 {})) = some (s', tr) ∧
          5 ∈ ControlCenter.closed tr) ∧ s.sockets.conn 5 = some 0 :=
      ⟨_, .cons List.not_mem_nil rfl (.cons trivial rfl (.cons trivial rfl
        (.cons (fun _ h => absurd h List.not_mem_nil) rfl (.nil _)))), rfl, rfl,
        ⟨_, _, rfl, @List.mem_of_getElem? _ _ 0 _ rfl⟩, rfl⟩
    -- no response is in the queue
    have hfresh : s.Fresh (.tick (List.replicate 11 {})) := by
      intro nSocketFD hlist
      rw [hunhandled, List.count_nil]
      exact List.count_pos_iff.mpr hlist
    exact ⟨s, s', tr, hrun.toRun, hstep, hmem,
      (enquireLinkRound_drops_silent ⟨[], [], []⟩).1 s s' _ _ tr hrun hfresh hstep 5 hmem 0 hconn⟩
  · obtain ⟨s, hrun, ⟨s', tr, hstep, hmem⟩, hconn⟩ : ∃ s,
        (Controller.serverSystem ⟨[], [], []⟩).RunWhere Controller.Server.Fresh
          (Controller.serverSystem ⟨[], [], []⟩).init [.accept 5,
          .receive 0 (ControlCenter.bindPacket (ascii "a")) (List.replicate 5 {}),
          .tick (List.replicate 11 {})] s ∧
        (∃ s' tr, Controller.serverStep ⟨[], [], []⟩ s (.tick (List.replicate 12 {})) =
          some (s', tr) ∧ 5 ∈ Controller.closed tr) ∧ s.sockets.conn 5 = some 0 :=
      ⟨_, .cons List.not_mem_nil rfl (.cons trivial rfl (.cons trivial rfl (.nil _))),
        ⟨_, _, rfl, @List.mem_of_getElem? _ _ 0 _ rfl⟩, rfl⟩
    exact ⟨s, s', tr, hrun.toRun, hstep, hmem,
      (enquireLinkRound_drops_silent ⟨[], [], []⟩).2 s s' _ _ tr hrun hstep 5 hmem 0 hconn⟩

/-- Client 0 binds and is asked, and its connection ends; client 1 gets its descriptor, and the next
round closes it. Client 1 has not been asked, and was not there when the last round ended. -/
theorem enquireLinkRound_drops_stranger :
    (∃ s s' tr, ControlCenter.serverSystem.Run ControlCenter.serverSystem.init
        [.accept 5, .receive 0 (ControlCenter.bindPacket (ascii "a")),
          .handle (List.replicate 5 {}), .tick (List.replicate 10 {}), .exit 0, .handle [],
          .accept 5] s ∧
      ControlCenter.serverStep s (.tick (List.replicate 11 {})) = some (s', tr) ∧
      5 ∈ ControlCenter.closed tr ∧ s.sockets.conn 5 = some 1 ∧ s.log.asks 1 = 0 ∧
      ¬ 1 < s.log.openedBefore) ∧
    ∃ s s' tr, (Controller.serverSystem ⟨[], [], []⟩).Run
        (Controller.serverSystem ⟨[], [], []⟩).init
        [.accept 5, .receive 0 (ControlCenter.bindPacket (ascii "a")) (List.replicate 5 {}),
          .tick (List.replicate 11 {}), .exit 0, .notice [{}], .notice [{}], .accept 5] s ∧
      Controller.serverStep ⟨[], [], []⟩ s (.tick (List.replicate 12 {})) = some (s', tr) ∧
      5 ∈ Controller.closed tr ∧ s.sockets.conn 5 = some 1 ∧ s.log.asks 1 = 0 ∧
      ¬ 1 < s.log.openedBefore :=
  ⟨⟨_, _, _, LTS.System.run_eq_some_iff.mp rfl, rfl, @List.mem_of_getElem? _ _ 0 _ rfl, rfl, rfl,
      Nat.lt_irrefl 1⟩,
    ⟨_, _, _, LTS.System.run_eq_some_iff.mp rfl, rfl, @List.mem_of_getElem? _ _ 0 _ rfl, rfl, rfl,
      Nat.lt_irrefl 1⟩⟩

end ControllerSystem
