import ControllerSystem.ControllerAw2401.PortSet
import ControllerSystem.ControllerClient.Handlers

/-!
# What is written to a power device

The Aw2401 controller and the ControllerClient switch a port in the same way: they read the status
of the device, a text, take its first four characters for the states of the ports, and write four
states back. Neither looks at the text or at the number of the port before it writes.

`powerPort_careful_iff` says when all goes well, for every request and every text a device may
return.
-/

open Words Calls

namespace ControllerSystem

open Controller (sendCommandtoClient)
open ControllerAw2401 (PortState setPortState switchPort portOn)

/-- The states a status reports, one character a port. -/
def reportedState (strState : Bytes) : PortState :=
  ⟨strState[0]? = some 49, strState[1]? = some 49, strState[2]? = some 49, strState[3]? = some 49⟩

/-- What a call sets, with the device. -/
def setting : ControllerEvent → Option (Bytes × PortState)
  | ⟨.setPortState strIP bPort1 bPort2 bPort3 bPort4, _⟩ =>
    some (strIP, ⟨bPort1, bPort2, bPort3, bPort4⟩)
  | _ => none

/-- The settings sent to devices. -/
def settings (tr : List ControllerEvent) : List (Bytes × PortState) := tr.filterMap setting

/-- The call answers a failure. -/
def AnswersFailure (nSocket : ℤ) (nCommand nSequence : Word) : ControllerEvent → Prop
  | ⟨.clientSend nSocket' pBuf, _⟩ =>
    nSocket' = nSocket ∧ getCommand pBuf = genericNack ||| nCommand ∧
      getSequence pBuf = nSequence ∧ getStatus pBuf ≠ statusRok
  | _ => False

/-- The status has a digit for each port, and the port is one of the four. -/
def Addresses (strState : Bytes) (nPort : ℤ) : Prop :=
  4 ≤ strState.length ∧ (∀ c ∈ strState.take 4, c = 48 ∨ c = 49) ∧ 1 ≤ nPort ∧ nPort ≤ 4

/-- Nothing is thrown; and either a failure is answered and nothing set, or the status and the port
are right and one setting has been sent, which has the requested state at the port and the
reported states at the others. -/
def Careful (nSocket : ℤ) (nCommand nSequence : Word) (strState : Bytes) (nPort : ℤ)
    (bState : Bool) (tr : List ControllerEvent) : Prop :=
  (∀ e ∈ tr, e.1 ≠ .outOfRange) ∧
    ((settings tr = [] ∧ ∃ e ∈ tr, AnswersFailure nSocket nCommand nSequence e) ∨
      Addresses strState nPort ∧ ∃ strIP w, settings tr = [(strIP, w)] ∧
        ∀ n, 1 ≤ n → n ≤ 4 → w.get n = if n = nPort then bState else (reportedState strState).get n)

section Switch

variable {nSocket : ℤ} {nCommand nSequence : Word} {strIP strState : Bytes} {nPort n : ℤ}
  {bState : Bool} {tr : List ControllerEvent}

/-- The calls of an answer. -/
theorem answer_exec {nStatus : Word} {m : ℤ}
    (h : Prog.Exec (do
      let _ ← sendCommandtoClient nSocket nCommand nStatus nSequence true
      (pure m : ControllerProg ℤ)) tr n) :
    settings tr = [] ∧ (∀ e ∈ tr, e.1 ≠ .outOfRange) ∧
      (nStatus ≠ statusRok → ∃ e ∈ tr, AnswersFailure nSocket nCommand nSequence e) := by
  obtain ⟨r, tr', rfl, u, tr'', rfl, rfl, -⟩ := h
  refine ⟨rfl, fun e he => ?_, fun hstatus => ⟨_, List.mem_cons_self, rfl, ?_⟩⟩
  · rcases List.mem_cons.mp he with rfl | he
    · exact fun heq => by cases heq
    · rw [List.mem_singleton.mp he]
      exact fun heq => by cases heq
  · rw [getCommand_bytes, getSequence_bytes, getStatus_bytes]
    exact ⟨rfl, rfl, hstatus⟩

/-- Where the status has a digit, the handlers take it for what it says. -/
theorem portOn_eq {i : ℕ} (hi : i < 4) (hlength : 4 ≤ strState.length)
    (hdigits : ∀ c ∈ strState.take 4, c = 48 ∨ c = 49) :
    portOn strState i = decide (strState[i]? = some 49) := by
  have hlt : i < strState.length := by omega
  have hmem : strState[i] ∈ strState.take 4 := List.mem_take_iff_getElem.mpr ⟨i, by omega, rfl⟩
  have hone : (strState.drop i).take 1 = [strState[i]] := by
    rw [List.drop_eq_getElem_cons hlt]
    rfl
  rw [portOn, hone, List.getElem?_eq_getElem hlt]
  rcases hdigits _ hmem with hdigit | hdigit <;> rw [hdigit] <;> decide

theorem ofText_eq (hlength : 4 ≤ strState.length)
    (hdigits : ∀ c ∈ strState.take 4, c = 48 ∨ c = 49) :
    PortState.ofText strState = reportedState strState := by
  rw [PortState.ofText, reportedState, portOn_eq (by omega) hlength hdigits,
    portOn_eq (by omega) hlength hdigits, portOn_eq (by omega) hlength hdigits,
    portOn_eq (by omega) hlength hdigits]

/-- From the status on, all goes well if there is no status or a right one for a right port. -/
theorem switchPort_careful_iff
    (h : (switchPort nSocket nCommand nSequence (setPortState strIP) nPort bState strState).Exec
      tr n) :
    Careful nSocket nCommand nSequence strState nPort bState tr ↔
      strState = [] ∨ Addresses strState nPort := by
  unfold switchPort at h
  split at h
  · next hempty =>
    obtain ⟨hnone, hrange, hfails⟩ := answer_exec h
    exact iff_of_true ⟨hrange, .inl ⟨hnone, hfails (by decide)⟩⟩ (.inl hempty)
  next hne =>
  split at h
  · next hshort =>
    -- the third or the fourth character is asked for, and `substr` throws
    obtain ⟨u, tr', rfl, -⟩ := h
    refine iff_of_false (fun hcareful => hcareful.1 _ List.mem_cons_self rfl) ?_
    rintro (hempty | ⟨hlength, -⟩)
    · exact hne hempty
    · omega
  · obtain ⟨nSet, tr', rfl, h'⟩ := h
    have hanswer : settings tr' = [] ∧ ∀ e ∈ tr', e.1 ≠ .outOfRange := by
      simp only [Prog.bind_eq, Prog.ret_bind] at h'
      split at h'
      · exact ⟨(answer_exec h').1, (answer_exec h').2.1⟩
      · exact ⟨(answer_exec h').1, (answer_exec h').2.1⟩
    -- one setting has been sent, and it is made of the first four characters
    have hsettings : settings (⟨.setPortState strIP _ _ _ _, nSet⟩ :: tr') =
        [(strIP, (PortState.ofText strState).set nPort bState)] :=
      congrArg (_ :: ·) hanswer.1
    constructor
    · rintro ⟨-, ⟨hnone, -⟩ | ⟨haddresses, -⟩⟩
      · rw [hsettings] at hnone
        cases hnone
      · exact .inr haddresses
    · rintro (hempty | haddresses)
      · exact absurd hempty hne
      · refine ⟨fun e he => ?_, .inr ⟨haddresses, strIP, _, hsettings, fun n h₁ h₄ => ?_⟩⟩
        · rcases List.mem_cons.mp he with rfl | he
          · exact fun heq => by cases heq
          · exact hanswer.2 e he
        · rw [PortState.get_set _ h₁ h₄, ofText_eq haddresses.1 haddresses.2.1]

end Switch

/-! ### The two handlers -/

/-- The request has the three fields. -/
def HasPort (nRet : ℤ) (rData : CDataHandler) : Prop :=
  0 < nRet ∧ rData.isValidKey "wire" ∧ rData.isValidKey "port" ∧ rData.isValidKey "state"

/-- The state a request asks for. -/
def requestedState (rData : CDataHandler) : Bool := rData.get "state" ≠ ascii "0"

/-- What the device has returned, if it has been asked. -/
def Reports (strState : Bytes) (tr : List ControllerEvent) : Prop :=
  ∀ strIP r, (⟨.getPortStatus strIP, r⟩ : ControllerEvent) ∈ tr → r = strState

section Handlers

variable {nSocket n nRet : ℤ} {nCommand nSequence : Word} {pData strState : Bytes}
  {rData : CDataHandler} {tr : List ControllerEvent}

/-- Asking the device sets nothing and answers nothing. -/
theorem careful_cons {nPort : ℤ} {bState : Bool} {strIP r : Bytes} :
    Careful nSocket nCommand nSequence strState nPort bState
        ((⟨.getPortStatus strIP, r⟩ : ControllerEvent) :: tr) ↔
      Careful nSocket nCommand nSequence strState nPort bState tr := by
  have hsettings : settings ((⟨.getPortStatus strIP, r⟩ : ControllerEvent) :: tr) = settings tr :=
    rfl
  simp [Careful, hsettings, AnswersFailure]

/-- The status is read, and the rest is `switchPort`. -/
theorem switchPort_after_careful_iff {nPort : ℤ} {bState : Bool} {strIP : Bytes}
    (h : Prog.Exec (do
      let strState ← ControllerAw2401.getPortStatus strIP
      switchPort nSocket nCommand nSequence (setPortState strIP) nPort bState strState) tr n)
    (hreport : Reports strState tr) :
    Careful nSocket nCommand nSequence strState nPort bState tr ↔
      strState = [] ∨ Addresses strState nPort := by
  obtain ⟨r, tr', rfl, h⟩ := h
  obtain rfl := hreport strIP r List.mem_cons_self
  rw [careful_cons]
  exact switchPort_careful_iff h

theorem cmpPowerPortSet_careful_iff
    (hparse : ControllerAw2401.parseBody nCommand pData = (nRet, rData))
    (h : (ControllerAw2401.cmpPowerPortSet nSocket nCommand nSequence pData).Exec tr n)
    (hreport : Reports strState tr) :
    Careful nSocket nCommand nSequence strState (convertFromString (rData.get "port"))
        (requestedState rData) tr ↔
      HasPort nRet rData ∧
        (ControllerAw2401.wireIP (convertFromString (rData.get "wire")) = none ∨ strState = [] ∨
          Addresses strState (convertFromString (rData.get "port"))) := by
  unfold ControllerAw2401.cmpPowerPortSet ControllerAw2401.wireStatus at h
  rw [hparse] at h
  dsimp only at h
  split at h
  · next hfields =>
    cases hwire : ControllerAw2401.wireIP (convertFromString (rData.get "wire")) with
    | none =>
      -- there is no such wire, and the status stays empty
      rw [hwire] at h
      obtain ⟨hnone, hrange, hfails⟩ := answer_exec h
      exact iff_of_true ⟨hrange, .inl ⟨hnone, hfails (by decide)⟩⟩ ⟨hfields, .inl rfl⟩
    | some strIP =>
      rw [hwire, ControllerAw2401.setWireState_some hwire] at h
      have hcareful : Careful nSocket nCommand nSequence strState
          (convertFromString (rData.get "port")) (requestedState rData) tr ↔ _ :=
        switchPort_after_careful_iff h hreport
      rw [hcareful]
      simp [show HasPort nRet rData from hfields]
  · next hfields =>
    -- no answer at all
    obtain ⟨rfl, -⟩ := h
    refine iff_of_false ?_ fun hcond => hfields hcond.1
    rintro ⟨-, ⟨-, e, he, -⟩ | ⟨-, strIP, w, hset, -⟩⟩
    · cases he
    · cases hset

theorem cmpPowerPort_careful_iff
    (hparse : ControllerClient.parseBody nCommand pData = (nRet, rData))
    (h : (ControllerClient.cmpPowerPort nSocket nCommand nSequence pData).Exec tr n)
    (hreport : Reports strState tr) :
    Careful nSocket nCommand nSequence strState (ControllerClient.atoi (rData.get "port"))
        (requestedState rData) tr ↔
      (HasPort nRet rData → ControllerClient.mapWire.lookup (rData.get "wire") = none ∨
        strState = [] ∨ Addresses strState (ControllerClient.atoi (rData.get "port"))) := by
  unfold ControllerClient.cmpPowerPort at h
  rw [hparse] at h
  dsimp only at h
  split at h
  · next hfields =>
    obtain ⟨hret, hwire, hport, hstate, hknown⟩ := hfields
    have hcareful : Careful nSocket nCommand nSequence strState
        (ControllerClient.atoi (rData.get "port")) (requestedState rData) tr ↔ _ :=
      switchPort_after_careful_iff h hreport
    rw [hcareful]
    have hport : HasPort nRet rData := ⟨hret, hwire, hport, hstate⟩
    have hne : ControllerClient.mapWire.lookup (rData.get "wire") ≠ none := by
      intro heq
      rw [heq] at hknown
      cases hknown
    simp [hport, hne]
  · next hfields =>
    obtain ⟨hnone, hrange, hfails⟩ := answer_exec h
    refine iff_of_true ⟨hrange, .inl ⟨hnone, hfails (by decide)⟩⟩ fun hport => .inl ?_
    by_contra hne
    exact hfields ⟨hport.1, hport.2.1, hport.2.2.1, hport.2.2.2, Option.isSome_iff_ne_none.mpr hne⟩

/-- **What is set.** The handling of a request is careful if and only if the request has its fields
and names a wire, the status is empty or starts with four digits 0 or 1, and the port is one of the
four; the Aw2401 controller does not answer without the fields. -/
theorem powerPort_careful_iff :
    (ControllerAw2401.parseBody nCommand pData = (nRet, rData) →
      (ControllerAw2401.cmpPowerPortSet nSocket nCommand nSequence pData).Exec tr n →
      Reports strState tr →
      (Careful nSocket nCommand nSequence strState (convertFromString (rData.get "port"))
          (requestedState rData) tr ↔
        HasPort nRet rData ∧
          (ControllerAw2401.wireIP (convertFromString (rData.get "wire")) = none ∨
            strState = [] ∨ Addresses strState (convertFromString (rData.get "port"))))) ∧
    (ControllerClient.parseBody nCommand pData = (nRet, rData) →
      (ControllerClient.cmpPowerPort nSocket nCommand nSequence pData).Exec tr n →
      Reports strState tr →
      (Careful nSocket nCommand nSequence strState (ControllerClient.atoi (rData.get "port"))
          (requestedState rData) tr ↔
        (HasPort nRet rData → ControllerClient.mapWire.lookup (rData.get "wire") = none ∨
          strState = [] ∨ Addresses strState (ControllerClient.atoi (rData.get "port"))))) :=
  ⟨cmpPowerPortSet_careful_iff, cmpPowerPort_careful_iff⟩

end Handlers

open ControllerAw2401 (portSetPacket)

/-- Four ports that are off, as wire 1 reports them. -/
def reportedOff : ControllerEvent :=
  ⟨.getPortStatus (ascii "192.168.0.111"), ascii "0000"⟩

/-- Wire 1 is set, and the request answered with `STATUS_ROK`. -/
def setAndAnswered (w : PortState) : List ControllerEvent :=
  [⟨.setPortState (ascii "192.168.0.111") w.port1 w.port2 w.port3 w.port4, (0 : ℤ)⟩,
    ⟨.clientSend 5 (formatHeader powerPortSetResponse statusRok 1#32).bytes, (16 : ℤ)⟩,
    ⟨.printPacket powerPortSetResponse statusRok 1#32 16 "[Controller Send to Client]" 5, ()⟩]

theorem reports_off (w : PortState) : Reports (ascii "0000") (reportedOff :: setAndAnswered w) := by
  intro strIP r hmem
  simp only [reportedOff, setAndAnswered, List.mem_cons, Sigma.mk.injEq, reduceCtorEq, false_and,
    List.not_mem_nil, or_false] at hmem
  obtain ⟨heq, hr⟩ := hmem
  cases heq
  exact eq_of_heq hr

set_option maxRecDepth 2000 in
/-- Port 1 is switched on. -/
theorem powerPort_careful_iff_port1 :
    Careful 5 powerPortSetRequest 1#32 (ascii "0000") 1 true
      (reportedOff :: setAndAnswered ⟨true, false, false, false⟩) := by
  refine ((@powerPort_careful_iff 5 0 3 powerPortSetRequest 1#32 (portSetPacket 1#32 49)
    (ascii "0000") _ _).1 rfl ?_ (reports_off _)).mpr ⟨?_, .inr (.inr ?_)⟩
  · exact ⟨_, _, rfl, _, _, rfl, _, _, rfl, _, _, rfl, rfl, rfl⟩
  · unfold HasPort
    decide
  · unfold Addresses
    decide

set_option maxRecDepth 2000 in
/-- Port 9: all four states are written back as they were read, and `STATUS_ROK` is answered. With
the status `1`, an exception is thrown. -/
theorem cmpPowerPortSet_careless :
    ((ControllerAw2401.cmpPowerPortSet 5 powerPortSetRequest 1#32 (portSetPacket 9#32 49)).Exec
        (reportedOff :: setAndAnswered ⟨false, false, false, false⟩) 0 ∧
      ¬ Careful 5 powerPortSetRequest 1#32 (ascii "0000") 9 true
        (reportedOff :: setAndAnswered ⟨false, false, false, false⟩)) ∧
    (ControllerAw2401.cmpPowerPortSet 5 powerPortSetRequest 1#32 (portSetPacket 1#32 49)).Exec
        [⟨.getPortStatus (ascii "192.168.0.111"), ascii "1"⟩, ⟨.outOfRange, ()⟩] fail ∧
      ¬ Careful 5 powerPortSetRequest 1#32 (ascii "1") 1 true
        [⟨.getPortStatus (ascii "192.168.0.111"), ascii "1"⟩, ⟨.outOfRange, ()⟩] := by
  refine ⟨⟨⟨_, _, rfl, _, _, rfl, _, _, rfl, _, _, rfl, rfl, rfl⟩, ?_⟩,
    ⟨_, _, rfl, _, _, rfl, rfl, rfl⟩, ?_⟩
  · rintro ⟨-, ⟨hnone, -⟩ | ⟨⟨-, -, -, hport⟩, -⟩⟩
    · cases hnone
    · exact absurd hport (by decide)
  · rintro ⟨hrange, -⟩
    exact hrange _ (List.mem_cons_of_mem _ List.mem_cons_self) rfl

end ControllerSystem
