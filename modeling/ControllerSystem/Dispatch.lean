import ControllerSystem.ControlCenter.Handlers
import ControllerSystem.Controller.Handlers
import ControllerSystem.Lib.HandlerTable

/-!
# The tables of requests

The constructors of the ControlCenter and of the Controller fill an array `cmpRequest` with
`cmpUnknow`, and assign the handlers they have. The three dispatchers look at the command of a
packet as a signed number before they use it as an index.

* `ControlCenter.getElem_requestTable`, `Controller.getElem_requestTable` — the arrays are the
  tables of requests of the handlers;
* `dispatch_safe` — each dispatcher does exactly one of three things, and no index is outside of the
  array.
-/

open Words Calls HandlerTable

namespace ControllerSystem

/-- `MAX_FUNC_POINT`. -/
def maxFuncPoint : ℕ := 256

/-- Build the array from the assignments of a constructor. -/
def requestTableOf {H : Type} (cmpUnknow : H) (entries : List (Word × H)) : Vector H maxFuncPoint :=
  build maxFuncPoint cmpUnknow (entries.map fun e => (e.1.toNat, e.2))

/-- In each place of the array is the last assignment for its command. -/
theorem getElem_requestTableOf {H : Type} {unknow : H} {entries : List (Word × H)}
    {nCommand : Word} (h : nCommand.toNat < maxFuncPoint) :
    (requestTableOf unknow entries)[nCommand.toNat] =
      (entries.reverse.lookup nCommand).getD unknow := by
  have hlookup : ∀ l : List (Word × H), (l.map fun e => (e.1.toNat, e.2)).lookup nCommand.toNat =
      l.lookup nCommand := by
    intro l
    induction l with
    | nil => rfl
    | cons e l ih =>
      have hkey : (nCommand.toNat == e.1.toNat) = (nCommand == e.1) := by
        rw [Bool.eq_iff_iff, beq_iff_eq, beq_iff_eq, BitVec.toNat_inj]
      rw [List.map_cons, List.lookup_cons, List.lookup_cons, hkey, ih]
  simp only [requestTableOf]
  rw [getElem_build h, ← List.map_reverse, hlookup]

/-- The top bit tells a response. -/
theorem isAckPacket_eq_msb (nCommand : Word) : isAckPacket nCommand = nCommand.msb := by
  have hbit : genericNack = BitVec.twoPow 32 31 := by decide
  rw [isAckPacket, hbit, BitVec.and_comm, BitVec.and_twoPow, BitVec.msb_eq_getLsbD_last]
  split
  · next h => rw [h, beq_self_eq_true]
  · next h =>
    rw [Bool.not_eq_true] at h
    rw [h]
    decide

/-- The comparison with a signed number. -/
theorem lt_toInt_iff {nCommand : Word} (h : nCommand.msb = false) :
    0xFF < nCommand.toInt ↔ 0xFF < nCommand.toNat := by
  rw [BitVec.toInt_eq_toNat_of_msb h]
  exact Int.ofNat_lt (n := 0xFF)

section

variable {Call : Type} {Res : Call → Type}

/-- The common body of the dispatchers. Where the index is outside of the array there is no entry,
and no result. -/
def dispatch (nCommand : Word) (log ackPacket sendCommand : Prog Call Res Unit)
    (entry : Option (Prog Call Res Unit)) : Option (Prog Call Res Unit) :=
  let handled :=
    if isAckPacket nCommand then some ackPacket
    else if 0xFF < nCommand.toInt then some sendCommand
    else entry
  handled.map fun handled => log >>= fun _ => handled

/-- A dispatcher does one of three things with a packet: it takes a response to `ackPacket` and
sends nothing; it answers a request behind the end of the array, and changes nothing; or it calls
one entry of the array. `byTable` is the dispatcher with its array. -/
structure Dispatches (sent : Prog.Event Call Res → Option (ℤ × Bytes)) (changes : Call → Prop)
    (nFD : ℤ) (pData : Bytes) (byTable : Option (Prog Call Res Unit))
    (log ackPacket : Prog Call Res Unit) (cmpRequest : Fin maxFuncPoint → Prog Call Res Unit)
    (onCMP : Prog Call Res Unit) : Prop where
  total : byTable = some onCMP
  ack : (getCommand pData).msb = true →
    onCMP = (log >>= fun _ => ackPacket) ∧ onCMP.Emits sent (· = [])
  invalid : (getCommand pData).msb = false → 0xFF < (getCommand pData).toNat →
    onCMP.Emits sent (· = [(nFD, (formatHeader (genericNack ||| getCommand pData)
      statusRinvcmdid (getSequence pData)).bytes)]) ∧ onCMP.Forall fun c => ¬ changes c
  entry : (getCommand pData).msb = false → (getCommand pData).toNat ≤ 0xFF →
    ∃ h : (getCommand pData).toNat < maxFuncPoint,
      onCMP = (log >>= fun _ => cmpRequest ⟨(getCommand pData).toNat, h⟩)

variable {sent : Prog.Event Call Res → Option (ℤ × Bytes)} {changes : Call → Prop} {nFD : ℤ}
  {pData : Bytes} {log ackPacket sendCommand request onCMP : Prog Call Res Unit}
  {byTable : Option (Prog Call Res Unit)} {cmpRequest : Fin maxFuncPoint → Prog Call Res Unit}

/-- What the common body does, from what its parts do. -/
theorem dispatches_of
    (honCMP : onCMP = (log >>= fun _ =>
      if isAckPacket (getCommand pData) then ackPacket
      else if 0xFF < (getCommand pData).toInt then sendCommand else request))
    (hlog : log.Emits sent (· = []) ∧ log.Forall fun c => ¬ changes c)
    (hack : ackPacket.Emits sent (· = []))
    (hsend : sendCommand.Emits sent (· = [(nFD, (formatHeader (genericNack ||| getCommand pData)
      statusRinvcmdid (getSequence pData)).bytes)]) ∧ sendCommand.Forall fun c => ¬ changes c)
    (hrequest : ∀ h : (getCommand pData).toNat < maxFuncPoint,
      request = cmpRequest ⟨(getCommand pData).toNat, h⟩)
    (hentry : (getCommand pData).toInt = (getCommand pData).toNat →
      (getCommand pData).toNat < maxFuncPoint → byTable = some request) :
    Dispatches sent changes nFD pData
      (dispatch (getCommand pData) log ackPacket sendCommand byTable) log ackPacket cmpRequest
      onCMP := by
  by_cases hresp : isAckPacket (getCommand pData) = true
  · have hmsb : (getCommand pData).msb = true := by rwa [← isAckPacket_eq_msb]
    have hno : ¬ (getCommand pData).msb = false := by simp [hmsb]
    rw [if_pos hresp] at honCMP
    refine ⟨?_, fun _ => ⟨honCMP, ?_⟩, fun h => absurd h hno, fun h => absurd h hno⟩
    · rw [dispatch, if_pos hresp, honCMP]
      rfl
    · rw [honCMP]
      exact hlog.1.nil_bind fun _ => hack
  rw [if_neg hresp] at honCMP
  have hmsb : (getCommand pData).msb = false := by
    rw [← isAckPacket_eq_msb, Bool.eq_false_iff]
    exact hresp
  have hno : ¬ (getCommand pData).msb = true := by simp [hmsb]
  by_cases hend : 0xFF < (getCommand pData).toInt
  · have hlt := (lt_toInt_iff hmsb).mp hend
    rw [if_pos hend] at honCMP
    refine ⟨?_, fun h => absurd h hno, fun _ _ => ?_, fun _ h => absurd hlt (Nat.not_lt.mpr h)⟩
    · rw [dispatch, if_neg hresp, if_pos hend, honCMP]
      rfl
    · rw [honCMP]
      exact ⟨hlog.1.nil_bind fun _ => hsend.1, hlog.2.bind fun _ => hsend.2⟩
  · have hle : (getCommand pData).toNat ≤ 0xFF := Nat.not_lt.mp fun h =>
      hend ((lt_toInt_iff hmsb).mpr h)
    have hlt : (getCommand pData).toNat < maxFuncPoint := Nat.lt_succ_of_le hle
    rw [if_neg hend] at honCMP
    refine ⟨?_, fun h => absurd h hno, fun _ h => absurd h (Nat.not_lt.mpr hle),
      fun _ _ => ⟨hlt, ?_⟩⟩
    · rw [dispatch, if_neg hresp, if_neg hend,
        hentry (BitVec.toInt_eq_toNat_of_msb hmsb) hlt, honCMP]
      rfl
    · rw [honCMP, hrequest hlt]

end

namespace ControlCenter

/-- The member functions of the array. -/
abbrev MemFn := ℤ → Word → Word → Bytes → CenterProg ℤ

/-- The assignments of the constructor. -/
def requestEntries : List (Word × MemFn) :=
  [(bindRequest, cmpBind),
    (unbindRequest, fun nSocket nCommand nSequence _ => cmpUnbind nSocket nCommand nSequence),
    (powerPortSetRequest, cmpPowerPort),
    (powerPortStateRequest, cmpPowerPortState),
    (accessLogRequest, cmpAccessLog),
    (initialRequest, cmpInitial),
    (signUpRequest, cmpSignup),
    (mdmLoginRequest, cmpMdmLogin),
    (mdmOperateRequest, cmpMdmOperate),
    (sdkTrackerRequest, cmpSdkTracker)]

/-- The array `cmpRequest`. -/
def requestTable : Vector MemFn maxFuncPoint :=
  requestTableOf (fun nSocket nCommand nSequence _ => cmpUnknow nSocket nCommand nSequence)
    requestEntries

/-- `CControlCenter::onCMP` with the array. -/
def onCMPByTable (nClientFD : ℤ) (pData : Bytes) : Option (CenterProg Unit) :=
  let nCommand := getCommand pData
  let nSequence := getSequence pData
  dispatch nCommand
    (printPacket nCommand (getStatus pData) nSequence (getLength pData).toInt "[Center Recv]"
      nClientFD)
    (ackPacket nClientFD nCommand)
    (do let _ ← sendCommand nClientFD nCommand statusRinvcmdid nSequence true)
    ((entry requestTable nCommand.toInt).map fun handler => do
      let _ ← handler nClientFD nCommand nSequence pData)

/-- The array is the table of requests. -/
theorem getElem_requestTable {nCommand : Word} (h : nCommand.toNat < maxFuncPoint) (nSocket : ℤ)
    (nSequence : Word) (pData : Bytes) :
    requestTable[nCommand.toNat] nSocket nCommand nSequence pData =
      cmpRequest nSocket nCommand nSequence pData := by
  simp only [requestTable, getElem_requestTableOf h, cmpRequest]
  -- the commands that have a handler
  iterate 10 refine iteInduction (fun hc => by rw [hc]; rfl) fun _ => ?_
  -- a command that nothing has been assigned to
  have hnone : requestEntries.reverse.lookup nCommand = none := by
    simp only [List.lookup_eq_none_iff, requestEntries, List.mem_reverse, List.forall_mem_cons]
    simp [*]
  rw [hnone]
  rfl

/-- The calls that change the registry or `vEnquireLink`. -/
def Changes : CenterCall → Prop
  | .controllerExec _ => True
  | .storeEnquireLink _ => True
  | _ => False

section Parts

variable {nSocket : ℤ} {nCommand nSequence : Word}

theorem ackPacket_sends : (ackPacket nSocket nCommand).Emits sent (· = []) := by
  unfold ackPacket
  split
  · refine .call_none (fun _ => rfl) fun vEnquireLink => ?_
    simp only [Prog.bind_eq, Prog.ret_bind]
    split
    · exact .call_none (fun _ => rfl) fun _ => .call_none (fun _ => rfl) fun _ =>
        .call_none (fun _ => rfl) fun _ => .ret rfl
    · exact .ret rfl
  · exact .ret rfl

theorem sendCommand_sends (nStatus : Word) :
    (sendCommand nSocket nCommand nStatus nSequence true).Emits sent
      (· = [(nSocket, (formatHeader (genericNack ||| nCommand) nStatus nSequence).bytes)]) :=
  .call_some (fun _ => rfl) fun _ => .call_none (fun _ => rfl) fun _ => .ret rfl

theorem sendCommand_keeps (nStatus : Word) (isResp : Bool) :
    (sendCommand nSocket nCommand nStatus nSequence isResp).Forall fun c => ¬ Changes c :=
  ⟨id, fun _ => ⟨id, fun _ => trivial⟩⟩

end Parts

/-- A program is a dispatcher of the ControlCenter. -/
def DispatchedBy (nClientFD : ℤ) (pData : Bytes) (onCMP : CenterProg Unit) : Prop :=
  Dispatches sent Changes nClientFD pData (onCMPByTable nClientFD pData)
    (printPacket (getCommand pData) (getStatus pData) (getSequence pData)
      (getLength pData).toInt "[Center Recv]" nClientFD)
    (ackPacket nClientFD (getCommand pData))
    (fun i => do
      let _ ← requestTable[i] nClientFD (getCommand pData) (getSequence pData) pData) onCMP

theorem onCMP_dispatchedBy (nClientFD : ℤ) (pData : Bytes) :
    DispatchedBy nClientFD pData (onCMP nClientFD pData) := by
  refine dispatches_of rfl ⟨?_, id, fun _ => trivial⟩ ackPacket_sends ⟨?_, ?_⟩ (fun h => ?_)
    fun htoInt h => ?_
  · exact .call_none (fun _ => rfl) fun _ => .ret rfl
  · exact (sendCommand_sends _).bind_nil fun _ => .ret rfl
  · exact (sendCommand_keeps _ _).bind fun _ => trivial
  · rw [← getElem_requestTable h]
    rfl
  · rw [htoInt, entry_natCast h, Option.map_some, getElem_requestTable h]

end ControlCenter

namespace Controller

/-- The member functions of the array. -/
abbrev MemFn := ℤ → Word → Word → Bytes → ControllerProg ℤ

/-- The assignments of the constructor. -/
def requestEntries (mConfig : Config) : List (Word × MemFn) :=
  [(bindRequest, cmpBind),
    (unbindRequest, fun nSocket nCommand nSequence _ => cmpUnbind nSocket nCommand nSequence),
    (accessLogRequest, cmpAccessLog mConfig),
    (enquireLinkRequest, fun _ nCommand nSequence _ => cmpEnquireLink nCommand nSequence)]

/-- The array `cmpRequest`. -/
def requestTable (mConfig : Config) : Vector MemFn maxFuncPoint :=
  requestTableOf (fun nSocket nCommand nSequence _ => cmpUnknow nSocket nCommand nSequence)
    (requestEntries mConfig)

/-- The common body of `onClientCMP` and `onCenterCMP` with the array. -/
def onCMPByTable (mConfig : Config) (nFD : ℤ) (pData : Bytes) : Option (ControllerProg Unit) :=
  let nCommand := getCommand pData
  let nSequence := getSequence pData
  dispatch nCommand
    (printPacket nCommand (getStatus pData) nSequence (getLength pData).toInt "[Controller Recv]"
      nFD)
    (ackPacket nFD nCommand)
    (do let _ ← sendCommandtoClient nFD nCommand statusRinvcmdid nSequence true)
    ((entry (requestTable mConfig) nCommand.toInt).map fun handler => do
      let _ ← handler nFD nCommand nSequence pData)

variable {mConfig : Config} {nSocket : ℤ} {nCommand nSequence : Word} {pData : Bytes}

/-- The array is the table of requests. -/
theorem getElem_requestTable (h : nCommand.toNat < maxFuncPoint) :
    (requestTable mConfig)[nCommand.toNat] nSocket nCommand nSequence pData =
      cmpRequest mConfig nSocket nCommand nSequence pData := by
  simp only [requestTable, getElem_requestTableOf h, cmpRequest]
  -- the commands that have a handler
  iterate 4 refine iteInduction (fun hc => by rw [hc]; rfl) fun _ => ?_
  -- a command that nothing has been assigned to
  have hnone : (requestEntries mConfig).reverse.lookup nCommand = none := by
    simp only [List.lookup_eq_none_iff, requestEntries, List.mem_reverse, List.forall_mem_cons]
    simp [*]
  rw [hnone]
  rfl

/-- The calls that change the table `device` or `vEnquireLink`. -/
def Changes : ControllerCall → Prop
  | .deviceExec _ => True
  | .storeEnquireLink _ => True
  | _ => False

theorem ackPacket_sends : (ackPacket nSocket nCommand).Emits sent (· = []) := by
  unfold ackPacket
  split
  · refine .call_none (fun _ => rfl) fun vEnquireLink => ?_
    simp only [Prog.bind_eq, Prog.ret_bind]
    split
    · exact .call_none (fun _ => rfl) fun _ => .ret rfl
    · exact .ret rfl
  · exact .ret rfl

theorem sendCommandtoClient_sends (nStatus : Word) :
    (sendCommandtoClient nSocket nCommand nStatus nSequence true).Emits sent
      (· = [(nSocket, (formatHeader (genericNack ||| nCommand) nStatus nSequence).bytes)]) :=
  .call_some (fun _ => rfl) fun _ => .call_none (fun _ => rfl) fun _ => .ret rfl

theorem sendCommandtoClient_keeps (nStatus : Word) (isResp : Bool) :
    (sendCommandtoClient nSocket nCommand nStatus nSequence isResp).Forall fun c => ¬ Changes c :=
  ⟨id, fun _ => ⟨id, fun _ => trivial⟩⟩

/-- A program is a dispatcher of the Controller. -/
def DispatchedBy (mConfig : Config) (nFD : ℤ) (pData : Bytes) (onCMP : ControllerProg Unit) :
    Prop :=
  Dispatches sent Changes nFD pData (onCMPByTable mConfig nFD pData)
    (printPacket (getCommand pData) (getStatus pData) (getSequence pData)
      (getLength pData).toInt "[Controller Recv]" nFD)
    (ackPacket nFD (getCommand pData))
    (fun i => do
      let _ ← (requestTable mConfig)[i] nFD (getCommand pData) (getSequence pData) pData) onCMP

theorem onCMPWith_dispatchedBy (mConfig : Config) (nFD : ℤ) (pData : Bytes) :
    DispatchedBy mConfig nFD pData (onCMPWith (cmpRequest mConfig) nFD pData) := by
  refine dispatches_of rfl ⟨?_, id, fun _ => trivial⟩ ackPacket_sends ⟨?_, ?_⟩ (fun h => ?_)
    fun htoInt h => ?_
  · exact .call_none (fun _ => rfl) fun _ => .ret rfl
  · exact (sendCommandtoClient_sends _).bind_nil fun _ => .ret rfl
  · exact (sendCommandtoClient_keeps _ _).bind fun _ => trivial
  · rw [← getElem_requestTable h]
    rfl
  · rw [htoInt, entry_natCast h, Option.map_some, getElem_requestTable h]

end Controller

/-- **Dispatch is total and safe.** Each of the three dispatchers does one of three things, for
every command a packet can have. -/
theorem dispatch_safe (mConfig : Controller.Config) (nFD : ℤ) (pData : Bytes) :
    ControlCenter.DispatchedBy nFD pData (ControlCenter.onCMP nFD pData) ∧
      Controller.DispatchedBy mConfig nFD pData (Controller.onClientCMP mConfig nFD pData) ∧
      Controller.DispatchedBy mConfig nFD pData (Controller.onCenterCMP mConfig nFD pData) :=
  ⟨ControlCenter.onCMP_dispatchedBy nFD pData,
    Controller.onCMPWith_dispatchedBy mConfig nFD pData,
    Controller.onCMPWith_dispatchedBy mConfig nFD pData⟩

end ControllerSystem
