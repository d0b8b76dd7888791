import ControllerSystem.ControlCenter.Handlers
import ControllerSystem.Lib.DecimalText

/-!
# The lines of the log

`printPacket` and `printLog` of `packet.h` put a line together in arrays of fixed sizes, with
`strcpy` and `sprintf`, which do not look at the sizes. `PacketLogFits` and `printLogFits` say that
the texts and their final zero bytes fit.

* `printPacket_fits_iff` — the line of a received packet fits unless its status is
  `STATUS_RINVBNDSTS`, whose text is longer than the array for it.
-/

open Words DecimalText

namespace ControllerSystem.ControlCenter

/-! ### The tables of texts -/

def mapCommand : List (Word × String) :=
  [(genericNack, "generic_nack"), (bindRequest, "bind_request"), (bindResponse, "bind_response"),
    (authenticationRequest, "authentication_request"),
    (authenticationResponse, "authentication_response"),
    (accessLogRequest, "access_log_request"), (accessLogResponse, "access_log_response"),
    (enquireLinkRequest, "enquire_link_request"), (enquireLinkResponse, "enquire_link_response"),
    (unbindRequest, "unbind_request"), (unbindResponse, "unbind_response"),
    (updateRequest, "update_request"), (updateResponse, "update_response"),
    (rebootRequest, "reboot_request"), (rebootResponse, "reboot_response"),
    (configRequest, "config_request"), (configResponse, "config_response"),
    (powerPortSetRequest, "power_port_request"), (powerPortSetResponse, "power_port_response"),
    (powerPortStateRequest, "power_port_state_request"),
    (powerPortStateResponse, "power_port_state_response"),
    (initialRequest, "initial_request"), (initialResponse, "initial_response"),
    (signUpRequest, "sign_up_request"), (signUpResponse, "sign_up_response"),
    (mdmLoginRequest, "mdm_login_request"), (mdmLoginResponse, "mdm_login_response"),
    (mdmOperateRequest, "mdm_operate_request"), (mdmOperateResponse, "mdm_operate_response"),
    (sdkTrackerRequest, "sdk_tracker_request"), (sdkTrackerResponse, "sdk_tracker_response")]

def mapStatus : List (Word × String) :=
  [(statusRok, "No Error"), (statusRinvmsglen, "Message Length is invalid"),
    (statusRinvcmdlen, "Command Length is invalid"), (statusRinvcmdid, "Invalid Command ID"),
    (statusRinvbndsts, "Incorrect BIND Status for given command"),
    (statusRalybnd, "Already in Bound State"), (statusRsyserr, "System Error"),
    (statusRbindfail, "Bind Failed"), (statusRppsfail, "Power Port Setting Fail"),
    (statusRinvbody, "Invalid Packet Body Data"), (statusRinvctrlid, "Invalid Controller ID"),
    (statusRinvjson, "Invalid JSON Data"), (statusRoperate, "MDM operate notify"),
    (statusRmdmloginfail, "MDM Login fail, no token")]

/-- `operator[]`: a missing code reads as the empty string. -/
def mapText (m : List (Word × String)) (n : Word) : Bytes := ascii ((m.lookup n).getD "")

/-! ### Formatting -/

/-- What `std::localtime` gives: the time is one with a year of four digits. -/
structure Tm where
  year : ℕ
  month : ℕ
  day : ℕ
  hour : ℕ
  minute : ℕ
  second : ℕ
  year_mem : 1000 ≤ year ∧ year < 10000
  month_mem : 1 ≤ month ∧ month ≤ 12
  day_mem : 1 ≤ day ∧ day ≤ 31
  hour_lt : hour < 24
  minute_lt : minute < 60
  -- a leap second
  second_le : second ≤ 60

/-- A date. -/
def someTm : Tm where
  year := 2016
  month := 1
  day := 14
  hour := 10
  minute := 30
  second := 0
  year_mem := by decide
  month_mem := by decide
  day_mem := by decide
  hour_lt := by decide
  minute_lt := by decide
  second_le := by decide

/-- Two digits. -/
def twoDigits (n : ℕ) : Bytes := [.ofNat (48 + n / 10), .ofNat (48 + n % 10)]

/-- `std::strftime` with the format `%d/%m/%Y %T`. -/
def strftime (t : Tm) : Bytes :=
  twoDigits t.day ++ ascii "/" ++ twoDigits t.month ++ ascii "/" ++ natText t.year ++ ascii " " ++
    twoDigits t.hour ++ ascii ":" ++ twoDigits t.minute ++ ascii ":" ++ twoDigits t.second

/-- `%-20s`. -/
def padRight (width : ℕ) (s : Bytes) : Bytes := s ++ List.replicate (width - s.length) 32

/-- The line `printPacket` makes with `sprintf`. -/
def packetLine (t : Tm) (nCommand nStatus nSequence : Word) (nLength : ℤ) (szDesc : String)
    (nClientFD : ℤ) : Bytes :=
  strftime t ++ ascii "-" ++ ascii szDesc ++ ascii " CMP : Command=" ++
    padRight 20 (mapText mapCommand nCommand) ++ ascii " Status=" ++
    padRight 20 (mapText mapStatus nStatus) ++ ascii " Sequence=" ++
    convertToString nSequence.toInt ++ ascii " Length=" ++ convertToString nLength ++
    ascii " [Socket FD=" ++ convertToString nClientFD ++ ascii "]"

/-- The line `printLog` makes. -/
def logLine (t : Tm) (szMsg : Bytes) (szDesc : String) : Bytes :=
  strftime t ++ ascii "-" ++ ascii szDesc ++ ascii " : " ++ padRight 20 (cstr szMsg)

/-- The texts of `printPacket` fit `szCmd`, `szSta` and `szLog`, with their zero bytes. -/
structure PacketLogFits (t : Tm) (nCommand nStatus nSequence : Word) (nLength : ℤ)
    (szDesc : String) (nClientFD : ℤ) : Prop where
  szCmd : (mapText mapCommand nCommand).length + 1 ≤ 48
  szSta : (mapText mapStatus nStatus).length + 1 ≤ 32
  szLog : (packetLine t nCommand nStatus nSequence nLength szDesc nClientFD).length + 1 ≤ 255

instance (t : Tm) (nCommand nStatus nSequence : Word) (nLength : ℤ) (szDesc : String)
    (nClientFD : ℤ) :
    Decidable (PacketLogFits t nCommand nStatus nSequence nLength szDesc nClientFD) :=
  decidable_of_iff (_ ∧ _ ∧ _) ⟨fun ⟨h₁, h₂, h₃⟩ => ⟨h₁, h₂, h₃⟩, fun ⟨h₁, h₂, h₃⟩ => ⟨h₁, h₂, h₃⟩⟩

/-! ### Lengths -/

theorem length_ascii (s : String) : (ascii s).length = s.length := by
  rw [ascii, List.length_map, String.length_toList]

theorem length_strftime (t : Tm) : (strftime t).length = 19 := by
  have hyear : (natText t.year).length = 4 := length_natText t.year_mem.1 t.year_mem.2
  simp only [strftime, List.length_append, hyear, twoDigits, List.length_cons, List.length_nil,
    length_ascii]
  rfl

theorem length_padRight (width : ℕ) (s : Bytes) :
    (padRight width s).length = max width s.length := by
  rw [padRight, List.length_append, List.length_replicate]
  omega

/-- A text of a table is that of its code, or empty. -/
theorem mapText_ind {m : List (Word × String)} {n : Word} {P : Bytes → Prop} (hnil : P [])
    (hm : ∀ e ∈ m, e.1 = n → P (ascii e.2)) : P (mapText m n) := by
  rw [mapText]
  cases hfind : m.lookup n with
  | none => exact hnil
  | some s =>
    obtain ⟨l₁, l₂, rfl, -⟩ := List.lookup_eq_some_iff.mp hfind
    exact hm (n, s) (by simp) rfl

theorem length_mapCommand_le (nCommand : Word) : (mapText mapCommand nCommand).length ≤ 25 := by
  have htable : ∀ e ∈ mapCommand, e.2.length ≤ 25 := by decide +kernel
  refine mapText_ind (P := fun s => s.length ≤ 25) (Nat.zero_le _) fun e he _ => ?_
  rw [length_ascii]
  exact htable e he

/-- One text is too long. -/
theorem length_statusRinvbndsts : (mapText mapStatus statusRinvbndsts).length = 39 := by
  decide +kernel

theorem length_mapStatus_le {nStatus : Word} (hne : nStatus ≠ statusRinvbndsts) :
    (mapText mapStatus nStatus).length ≤ 25 := by
  have htable : ∀ e ∈ mapStatus, e.1 ≠ statusRinvbndsts → e.2.length ≤ 25 := by decide +kernel
  refine mapText_ind (P := fun s => s.length ≤ 25) (Nat.zero_le _) fun e he heq => ?_
  rw [length_ascii]
  exact htable e he (by rwa [heq])

/-- An `int` has at most ten digits and a sign. -/
theorem length_convertToString_le (w : Word) : (convertToString w.toInt).length ≤ 11 := by
  refine length_ascii_toString_le (Nat.succ_pos 9) ?_
  have hlow := BitVec.le_toInt w
  have hhigh := BitVec.toInt_lt (x := w)
  omega

/-- The line of a packet, for numbers that are `int`s and a short description, fits unless its
status is `STATUS_RINVBNDSTS`. -/
theorem packetLogFits_iff (t : Tm) (nCommand nStatus nSequence nLength nClientFD : Word)
    {szDesc : String} (hdesc : szDesc.length ≤ 32) :
    PacketLogFits t nCommand nStatus nSequence nLength.toInt szDesc nClientFD.toInt ↔
      nStatus ≠ statusRinvbndsts := by
  constructor
  · rintro hfits heq
    have hlen := hfits.szSta
    rw [heq, length_statusRinvbndsts] at hlen
    omega
  · intro hne
    have hcommand := length_mapCommand_le nCommand
    have hstatus := length_mapStatus_le hne
    refine ⟨by omega, by omega, ?_⟩
    have hsequence := length_convertToString_le nSequence
    have hlength := length_convertToString_le nLength
    have hsocket := length_convertToString_le nClientFD
    -- what stands between the texts and the numbers
    have hfixed : "-".length + " CMP : Command=".length + " Status=".length +
        " Sequence=".length + " Length=".length + " [Socket FD=".length + "]".length = 55 := rfl
    simp only [packetLine, List.length_append, length_strftime, length_padRight, length_ascii]
    omega

/-- Which messages fit behind a description. -/
theorem logLine_fits_iff (t : Tm) (szMsg : Bytes) {szDesc : String} (hdesc : szDesc.length ≤ 20) :
    (logLine t szMsg szDesc).length + 1 ≤ maxDataLen ↔ strlen szMsg + szDesc.length ≤ 2024 := by
  have hfixed : "-".length + " : ".length = 4 := rfl
  have hstrlen : (cstr szMsg).length = strlen szMsg := rfl
  simp only [logLine, List.length_append, length_strftime, length_padRight, length_ascii, hstrlen,
    maxDataLen]
  omega

/-- **The line of a received packet.** For every header and descriptor, the texts fit if and only
if the status is not `STATUS_RINVBNDSTS`. -/
theorem printPacket_fits_iff (h : CmpHeader) (nClientFD : Word) (t : Tm) :
    PacketLogFits t h.commandId h.commandStatus h.sequenceNumber h.commandLength.toInt
      "[Center Recv]" nClientFD.toInt ↔ h.commandStatus ≠ statusRinvbndsts :=
  packetLogFits_iff t _ _ _ _ _ (by decide)

/-- The status fills and overruns its array, so the bound does not hold of every header. -/
theorem printPacket_overruns : ¬ ∀ (h : CmpHeader) (nClientFD : Word) (t : Tm),
    PacketLogFits t h.commandId h.commandStatus h.sequenceNumber h.commandLength.toInt
      "[Center Recv]" nClientFD.toInt := by
  intro h
  have hlen := (h ⟨16#32, bindRequest, statusRinvbndsts, 1#32⟩ 5#32 someTm).szSta
  rw [show (CmpHeader.mk 16#32 bindRequest statusRinvbndsts 1#32).commandStatus =
    statusRinvbndsts from rfl, length_statusRinvbndsts] at hlen
  exact absurd hlen (by decide)

/-- The first thing `onCMP` does with a packet is to log its header. -/
theorem onCMP_logs (nClientFD : ℤ) (pData : Bytes) : ∃ k, onCMP nClientFD pData =
    .call (.printPacket (getCommand pData) (getStatus pData) (getSequence pData)
      (getLength pData).toInt "[Center Recv]" nClientFD) k :=
  ⟨_, rfl⟩

end ControllerSystem.ControlCenter
