import ControllerSystem.ControlCenter.Center

/-!
# The responses to the keep-alive requests

`CControlCenter::ackPacket` looks for the socket of an enquire-link response in `vEnquireLink`,
erases its entry, and makes a log line from the iterator of the entry. The iterator is no longer
valid then: in its place there is the next entry, or the end.

* `ackPacketLoop_eq` — the loop with its iterator is the program of the handlers;
* `ackPacketLoop_run` — what a response does, with everything a read through the iterator may give;
* `acks_iff` — a response is dealt with as it should be just if its socket is not on the list.
-/

open Words Calls

namespace ControllerSystem.ControlCenter

/-! ### The loop -/

/-- The loop from the iterator `it` on: the entries before it and the entries from it on. -/
def enquireLinkLoop (nClientSocketFD : ℤ) : List ℤ → List ℤ → CenterProg Unit
  | _, [] => pure ()
  | before, it :: behind =>
    if nClientSocketFD = it then do
      -- the entries behind it move up, and `it` is not valid any more
      storeEnquireLink (before ++ behind)
      let nSocketFD ← derefErased
      printLog (ascii "Keep alive Socket FD = " ++ convertToString nSocketFD) "[Center]"
    else enquireLinkLoop nClientSocketFD (before ++ [it]) behind

/-- `CControlCenter::ackPacket` with its loop. -/
def ackPacketLoop (nClientSocketFD : ℤ) (nCommand : Word) : CenterProg Unit :=
  if nCommand = enquireLinkResponse then do
    let vEnquireLink ← loadEnquireLink
    enquireLinkLoop nClientSocketFD [] vEnquireLink
  else pure ()

/-- From an iterator on, the loop erases the first entry of the socket. -/
theorem enquireLinkLoop_eq (nClientSocketFD : ℤ) (before behind : List ℤ) :
    enquireLinkLoop nClientSocketFD before behind =
      if nClientSocketFD ∈ behind then do
        storeEnquireLink (before ++ behind.erase nClientSocketFD)
        let nSocketFD ← derefErased
        printLog (ascii "Keep alive Socket FD = " ++ convertToString nSocketFD) "[Center]"
      else pure () := by
  induction behind generalizing before with
  | nil => rfl
  | cons it behind ih =>
    rw [enquireLinkLoop]
    by_cases hit : nClientSocketFD = it
    · subst hit
      rw [if_pos rfl, if_pos List.mem_cons_self, List.erase_cons_head]
    · have hmem : nClientSocketFD ∈ it :: behind ↔ nClientSocketFD ∈ behind := by
        rw [List.mem_cons, or_iff_right hit]
      have herase : (it :: behind).erase nClientSocketFD = it :: behind.erase nClientSocketFD :=
        List.erase_cons_tail (by simpa using Ne.symm hit)
      rw [if_neg hit, ih, herase, List.append_assoc, List.singleton_append]
      exact if_congr hmem.symm rfl rfl

/-- The loop is the one of the handlers. -/
theorem ackPacketLoop_eq (nClientSocketFD : ℤ) (nCommand : Word) :
    ackPacketLoop nClientSocketFD nCommand = ackPacket nClientSocketFD nCommand := by
  simp only [ackPacketLoop, ackPacket, enquireLinkLoop_eq, List.nil_append]

/-! ### Runs -/

section

variable {s s' : Center} {nClientSocketFD : ℤ} {chs : List CenterChoice} {tr : List CenterEvent}

/-- The log line for a socket. -/
def keepAliveLine (nSocketFD : ℤ) : Bytes :=
  ascii "Keep alive Socket FD = " ++ convertToString nSocketFD

/-- A response, dealt with as it should be: the first entry of the socket is gone and nothing else,
no iterator of an erased entry is read, and the log names the socket. -/
structure Acks (nClientSocketFD : ℤ) (s s' : Center) (tr : List CenterEvent) : Prop where
  erased : s' = { s with vEnquireLink := s.vEnquireLink.erase nClientSocketFD }
  valid : ∀ e ∈ tr, e.1 ≠ .derefErased
  named : ∀ e ∈ tr, ∀ strMsg strDesc, e.1 = .printLog strMsg strDesc →
    strMsg = keepAliveLine nClientSocketFD

/-- **What a response does.** The first entry of its socket is erased; if there is one, the log line
is that of whatever is read through the iterator. -/
theorem ackPacketLoop_run
    (h : Center.run (ackPacketLoop nClientSocketFD enquireLinkResponse) s chs = some ((), s', tr)) :
    s' = { s with vEnquireLink := s.vEnquireLink.erase nClientSocketFD } ∧
      if nClientSocketFD ∈ s.vEnquireLink then ∃ stale : ℤ,
        tr = [⟨.loadEnquireLink, s.vEnquireLink⟩,
          ⟨.storeEnquireLink (s.vEnquireLink.erase nClientSocketFD), ()⟩, ⟨.derefErased, stale⟩,
          ⟨.printLog (keepAliveLine stale) "[Center]", ()⟩]
      else tr = [⟨.loadEnquireLink, s.vEnquireLink⟩] := by
  rw [ackPacketLoop_eq, ackPacket, if_pos rfl] at h
  obtain ⟨ch, chs₁, tr₁, -, rfl, h₁⟩ := Prog.runIn_call_bind_eq_some.mp h
  rw [Center.answer_loadEnquireLink] at h₁
  dsimp only at h₁
  split at h₁
  · next hmem =>
    obtain ⟨ch, chs₂, tr₂, -, rfl, h₂⟩ := Prog.runIn_call_bind_eq_some.mp h₁
    obtain ⟨ch, chs₃, tr₃, -, rfl, h₃⟩ := Prog.runIn_call_bind_eq_some.mp h₂
    obtain ⟨ch', chs₄, tr₄, -, rfl, h₄⟩ := Prog.runIn_call_eq_some.mp h₃
    obtain ⟨-, -, rfl, rfl⟩ := Prog.runIn_ret_eq_some.mp h₄
    rw [if_pos hmem]
    exact ⟨rfl, ch.stale, rfl⟩
  · next hmem =>
    obtain ⟨-, -, rfl, rfl⟩ := Prog.runIn_ret_eq_some.mp h₁
    rw [if_neg hmem, List.erase_of_not_mem hmem]
    exact ⟨rfl, rfl⟩

/-- **When a response is dealt with.** Only when there is nothing to be erased. -/
theorem acks_iff
    (h : Center.run (ackPacketLoop nClientSocketFD enquireLinkResponse) s chs = some ((), s', tr)) :
    Acks nClientSocketFD s s' tr ↔ nClientSocketFD ∉ s.vEnquireLink := by
  obtain ⟨herase, htr⟩ := ackPacketLoop_run h
  constructor
  · intro hacks hmem
    rw [if_pos hmem] at htr
    obtain ⟨stale, rfl⟩ := htr
    exact hacks.valid ⟨.derefErased, stale⟩ (by simp) rfl
  · intro hmem
    rw [if_neg hmem] at htr
    subst htr
    refine ⟨herase, fun e he => ?_, fun e he strMsg strDesc hline => ?_⟩
    · obtain rfl := List.mem_singleton.mp he
      exact nofun
    · obtain rfl := List.mem_singleton.mp he
      cases hline

end

/-- A response from a socket that has not been asked. -/
theorem acks_unasked :
    Acks 8 ⟨[], [7], 0⟩ ⟨[], [7], 0⟩ [⟨.loadEnquireLink, ([7] : List ℤ)⟩] :=
  (@acks_iff ⟨[], [7], 0⟩ ⟨[], [7], 0⟩ 8 [{}] _ rfl).mpr (by decide)

/-- The calls for a response from the first of two sockets; the read gives the second. -/
def nextEntryRun : List CenterEvent :=
  [⟨.loadEnquireLink, ([7, 8] : List ℤ)⟩, ⟨.storeEnquireLink [8], ()⟩, ⟨.derefErased, (8 : ℤ)⟩,
    ⟨.printLog (keepAliveLine 8) "[Center]", ()⟩]

/-- The iterator of the erased entry is read, and the other socket is in the log. -/
theorem acks_not :
    Center.run (ackPacketLoop 7 enquireLinkResponse) ⟨[], [7, 8], 0⟩ [{}, {}, { stale := 8 }, {}] =
      some ((), ⟨[], [8], 0⟩, nextEntryRun) ∧
    keepAliveLine 8 ≠ keepAliveLine 7 ∧ ¬ Acks 7 ⟨[], [7, 8], 0⟩ ⟨[], [8], 0⟩ nextEntryRun := by
  refine ⟨rfl, by decide, fun h => ?_⟩
  exact h.valid ⟨.derefErased, (8 : ℤ)⟩ (by simp [nextEntryRun]) rfl

end ControllerSystem.ControlCenter
