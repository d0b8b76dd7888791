import ControllerSystem.ControlCenter.Binding
import ControllerSystem.ControlCenter.Responses

/-!
# Requests for power ports

A client sets a power port of a controller, or asks for the state of its ports, through the center:
the center looks the controller up in the registry, forwards the request on the socket it finds, and
answers the client. Three parties are concerned, but the answer is given while the client's packet
is handled, and what the controller makes of the forwarded request comes later or not at all. A
`power_port_state_response` is only logged (`onCMP_powerPortStateResponse`).

An answer is backed when the request went out, whole, on the socket that is bound for the
controller, and, for a question about the state, when it is what the controller reports. When this
is so is said in `cmpPower_backed_iff`.
-/

open Words Calls

namespace ControllerSystem.ControlCenter

/-! ### What was asked -/

/-- The socket bound for a controller: that of its first row. -/
def boundSocket (rows : List ControllerRow) (strId : Bytes) : Option ℤ :=
  ((ControllerSql.selectSocketFDById strId).query rows).head?

/-- The fields of a request that are forwarded. -/
def forwardedFields (pData : Bytes) : List Bytes :=
  let rData := (parseBody (getCommand pData) pData).2
  if getCommand pData = powerPortSetRequest then
    [rData.get "wire", rData.get "port", rData.get "state"]
  else [rData.get "wire"]

/-- The body of a request has all of its fields. -/
def PowerAccepted (pData : Bytes) : Prop :=
  let (nRet, rData) := parseBody (getCommand pData) pData
  if getCommand pData = powerPortSetRequest then
    0 < nRet ∧ rData.isValidKey "wire" ∧ rData.isValidKey "port" ∧ rData.isValidKey "state" ∧
      rData.isValidKey "controller"
  else 0 < nRet ∧ rData.isValidKey "wire" ∧ rData.isValidKey "controller"

/-- A request to a controller for what the client has asked. -/
def IsRequestFor (pData req : Bytes) : Prop :=
  getCommand req = getCommand pData ∧
    req.drop sizeofCmpHeader = (forwardedFields pData).map fun f => f.headD 0

/-- The body of the center's answer to a question about the state: a fixed text. -/
def stateText : Bytes :=
  ascii "\x7b\"count\":1,\"wires\":[\x7b\"wire\":1,\"state\": \"1111\"\x7d]\x7d" ++ [0]

/-! ### What was done -/

/-- The positive answers on a socket. -/
def positives (nSocket : ℤ) (tr : List CenterEvent) : List Bytes :=
  tr.filterMap fun
    | ⟨.socketSend nSockFD pBuf, _⟩ =>
      if nSockFD = nSocket ∧ isAckPacket (getCommand pBuf) ∧ getStatus pBuf = statusRok then
        some pBuf
      else none
    | _ => none

/-- The requests sent, each with its socket and the number of bytes the socket has taken. -/
def requests (tr : List CenterEvent) : List (ℤ × Bytes × ℤ) :=
  tr.filterMap fun
    | ⟨.socketSend nSockFD pBuf, nRet⟩ =>
      if isAckPacket (getCommand pBuf) then none else some (nSockFD, pBuf, nRet)
    | _ => none

/-- The queries for rows of the registry, with what they have found. -/
def queries (tr : List CenterEvent) : List (ControllerSql × List ℤ) :=
  tr.filterMap fun
    | ⟨.controllerQuery sql, listValue⟩ => some (sql, listValue)
    | _ => none

/-- The sockets the queries have led to. -/
def lookups (tr : List CenterEvent) : List ℤ := (queries tr).map fun q => q.2.headD fail

/-- All bytes of the requests have been taken. -/
def TakenWhole (tr : List CenterEvent) : Prop :=
  ∀ r ∈ requests tr, r.2.2 = (r.2.1.length : ℤ)

/-- The answer `pBuf` is backed: a request for what was asked went out whole on the bound socket,
and the state is the one the controller reports. -/
def Backed (rows : List ControllerRow) (pData : Bytes) (report : ℤ → Option Bytes)
    (tr : List CenterEvent) (pBuf : Bytes) : Prop :=
  ∃ nFD req, boundSocket rows (controllerId pData) = some nFD ∧
    (nFD, req, (req.length : ℤ)) ∈ requests tr ∧ IsRequestFor pData req ∧
    (getCommand pData = powerPortStateRequest → report nFD = some (pBuf.drop sizeofCmpHeader))

/-! ### A report -/

/-- Whatever a controller reports, the center writes a line about it and nothing else. -/
theorem onCMP_powerPortStateResponse {nClientFD : ℤ} {pData : Bytes} {tr : List CenterEvent}
    (hcommand : getCommand pData = powerPortStateResponse)
    (h : (onCMP nClientFD pData).Exec tr ()) :
    tr = [⟨.printPacket (getCommand pData) (getStatus pData) (getSequence pData)
      (getLength pData).toInt "[Center Recv]" nClientFD, ()⟩] := by
  obtain ⟨u, tr', rfl, h⟩ := h
  simp only [Prog.bind_eq, Prog.ret_bind, hcommand] at h
  rw [if_pos (by decide), ackPacket, if_neg (by decide)] at h
  obtain ⟨rfl, -⟩ := h
  rfl

/-! ### The handlers -/

section Handlers

variable {nSocket nFD : ℤ} {nCommand nStatus nSequence : Word} {pData : Bytes}
  {tr : List CenterEvent} {β : Type} {b : β}

/-- What a status adds to the positive answers. -/
def statusAnswer (nCommand nStatus nSequence : Word) : List Bytes :=
  if nStatus = statusRok then [(formatHeader (genericNack ||| nCommand) nStatus nSequence).bytes]
  else []

@[simp] theorem requests_nil : requests [] = [] := rfl

@[simp] theorem queries_nil : queries [] = [] := rfl

/-- A status, and what comes behind it. -/
theorem sendCommand_then_exec {k : ℤ → CenterProg β}
    (h : (sendCommand nSocket nCommand nStatus nSequence true >>= k).Exec tr b) :
    ∃ nRet tr', positives nSocket tr = statusAnswer nCommand nStatus nSequence ++
        positives nSocket tr' ∧
      requests tr = requests tr' ∧ queries tr = queries tr' ∧ (k nRet).Exec tr' b := by
  obtain ⟨nRet, tr₁, rfl, u, tr₂, rfl, h⟩ := h
  have hack := isAckPacket_or nCommand
  refine ⟨nRet, tr₂, ?_, ?_, rfl, h⟩
  · simp only [positives, statusAnswer, List.filterMap_cons, getCommand_bytes, getStatus_bytes,
      formatHeader, if_true, hack, true_and]
    split <;> simp_all
  · simp only [requests, List.filterMap_cons, getCommand_bytes, formatHeader, if_true, hack]

/-- A negative answer at the end of a handler. -/
theorem refusal_exec {k : β} (hstatus : nStatus ≠ statusRok)
    (h : Prog.Exec (do
      let _ ← sendCommand nSocket nCommand nStatus nSequence true
      pure k) tr b) : positives nSocket tr = [] ∧ requests tr = [] ∧ queries tr = [] := by
  obtain ⟨nRet, tr₁, hpos, hreq, hqueries, rfl, -⟩ := sendCommand_then_exec h
  rw [statusAnswer, if_neg hstatus] at hpos
  exact ⟨hpos, hreq, hqueries⟩

/-- A forwarded request, and what comes behind it. -/
theorem forwardRequest_then_exec (nSocket : ℤ) {fields : List Bytes} {strMsg : Bytes}
    {k : ℤ → CenterProg β} (hreq : isAckPacket nCommand = false)
    (h : (forwardRequest nFD nCommand fields strMsg >>= k).Exec tr b) :
    ∃ req nRet tr', getCommand req = nCommand ∧
      req.drop sizeofCmpHeader = fields.map (fun f => f.headD 0) ∧
      requests tr = (nFD, req, nRet) :: requests tr' ∧
      positives nSocket tr = positives nSocket tr' ∧ queries tr = queries tr' ∧
      (k nRet).Exec tr' b := by
  obtain ⟨n, tr₁, rfl, u, tr₂, rfl, nRet, tr₃, rfl, u', tr₄, rfl, h⟩ := h
  let header := { formatHeader nCommand statusRok (.ofInt 32 (sequenceAfter n)) with
    commandLength := .ofNat 32 (sizeofCmpHeader + fields.length) }
  have hack : isAckPacket (getCommand (header.bytes ++ fields.map fun f => f.headD 0)) = false := by
    rw [getCommand_append]
    exact hreq
  refine ⟨header.bytes ++ fields.map fun f => f.headD 0, nRet, tr₄, getCommand_append _ _,
    List.drop_left' header.length_bytes, ?_, ?_, rfl, h⟩
  · have hnone : ¬ isAckPacket (getCommand (header.bytes ++ fields.map fun f => f.headD 0)) := by
      rw [hack]
      exact Bool.false_ne_true
    -- the two uses of the counter come before the request, and a line of the log behind it
    simp only [requests, List.filterMap_cons]
    rw [if_neg hnone]
  · have hnone : ¬ (nFD = nSocket ∧
        isAckPacket (getCommand (header.bytes ++ fields.map fun f => f.headD 0)) ∧
        getStatus (header.bytes ++ fields.map fun f => f.headD 0) = statusRok) := by
      rw [hack]
      exact fun hpos => Bool.false_ne_true hpos.2.1
    simp only [positives, List.filterMap_cons]
    rw [if_neg hnone]

/-- A look into the registry, and what comes behind it. -/
theorem getControllerSocketFD_then_exec (nSocket : ℤ) {strId : Bytes} {k : ℤ → CenterProg β}
    (h : (getControllerSocketFD strId >>= k).Exec tr b) :
    ∃ listValue tr', positives nSocket tr = positives nSocket tr' ∧ requests tr = requests tr' ∧
      queries tr = (.selectSocketFDById strId, listValue) :: queries tr' ∧
      (k (listValue.headD fail)).Exec tr' b := by
  obtain ⟨listValue, tr', rfl, h⟩ := h
  exact ⟨listValue, tr', rfl, rfl, rfl, h⟩

/-- The answer with the fixed text. -/
theorem cmpResponse_stateText_exec {nRet : ℤ}
    (h : (cmpResponse nSocket powerPortStateResponse nSequence
      (ascii "\x7b\"count\":1,\"wires\":[\x7b\"wire\":1,\"state\": \"1111\"\x7d]\x7d")).Exec
        tr nRet) :
    (∃ pBuf, positives nSocket tr = [pBuf] ∧ pBuf.drop sizeofCmpHeader = stateText) ∧
      requests tr = [] ∧ queries tr = [] := by
  rw [cmpResponse, if_neg (by decide)] at h
  obtain ⟨nSent, tr₁, rfl, u, tr₂, rfl, h⟩ := h
  -- what is left writes one of two lines
  obtain ⟨c, u', rfl⟩ : ∃ c u', tr₂ = [⟨.printLog c "[Center]", u'⟩] := by
    simp only [Prog.bind_eq, Prog.ret_bind] at h
    split at h
    · obtain ⟨u', tr', rfl, rfl, -⟩ := h
      exact ⟨_, u', rfl⟩
    · obtain ⟨u', tr', rfl, rfl, -⟩ := h
      exact ⟨_, u', rfl⟩
  let header := { formatHeader powerPortStateResponse statusRok nSequence with
    commandLength := .ofNat 32 (sizeofCmpHeader + stateText.length) }
  have hresponse : isAckPacket powerPortStateResponse := by decide
  have hack : isAckPacket (getCommand (header.bytes ++ stateText)) := by
    rw [getCommand_append]
    exact hresponse
  refine ⟨⟨header.bytes ++ stateText, ?_, List.drop_left' header.length_bytes⟩, ?_, rfl⟩
  · exact List.filterMap_cons_some (if_pos ⟨rfl, hack, getStatus_append header stateText⟩)
  · exact List.filterMap_cons_none (if_pos hack)

/-- A socket has been looked up, and the request has been sent if the socket is one. -/
def Asked (pData : Bytes) (tr : List CenterEvent) (nFD : ℤ) : Prop :=
  (∃ listValue, queries tr = [(.selectSocketFDById (controllerId pData), listValue)] ∧
    nFD = listValue.headD fail) ∧
  (¬ 0 < nFD → requests tr = [])

/-- The request for `pData` on the socket `nFD`, of which the socket has taken `nRet` bytes. -/
def Requested (pData : Bytes) (tr : List CenterEvent) (nFD nRet : ℤ) : Prop :=
  ∃ req, requests tr = [(nFD, req, nRet)] ∧ IsRequestFor pData req

/-- **`cmpPowerPort`**: an accepted body is answered `STATUS_ROK` whatever is found. -/
theorem cmpPowerPort_exec (hcommand : getCommand pData = powerPortSetRequest) {n : ℤ}
    (h : (cmpPowerPort nSocket powerPortSetRequest nSequence pData).Exec tr n) :
    (¬ PowerAccepted pData → positives nSocket tr = []) ∧
    (PowerAccepted pData → positives nSocket tr ≠ [] ∧
      ∃ nFD, Asked pData tr nFD ∧ (0 < nFD → ∃ nRet, Requested pData tr nFD nRet)) := by
  simp only [PowerAccepted, hcommand, if_true]
  unfold cmpPowerPort at h
  dsimp only at h
  split at h
  · next haccept =>
    refine ⟨fun hnot => absurd haccept hnot, fun _ => ?_⟩
    obtain ⟨nRet, tr₁, hpos, hreq, hqueries, h⟩ := sendCommand_then_exec h
    obtain ⟨listValue, tr₂, -, hreq₁, hqueries₁, h⟩ := getControllerSocketFD_then_exec nSocket h
    have hanswered : positives nSocket tr ≠ [] := by
      rw [hpos]
      exact List.cons_ne_nil _ _
    refine ⟨hanswered, listValue.headD fail, ?_⟩
    rw [Asked, controllerId, hcommand, hqueries, hqueries₁, hreq, hreq₁]
    split at h
    · next hfound =>
      obtain ⟨req, nSent, tr₃, hcmd, hbody, hreq₂, -, hqueries₂, rfl, -⟩ :=
        forwardRequest_then_exec nSocket (by decide) h
      have hfor : IsRequestFor pData req := by
        refine ⟨hcmd.trans hcommand.symm, ?_⟩
        rw [hbody, forwardedFields, hcommand]
        rfl
      refine ⟨⟨⟨listValue, ?_, rfl⟩, fun hnot => absurd hfound hnot⟩,
        fun _ => ⟨nSent, req, ?_, hfor⟩⟩
      · rw [hqueries₂, queries_nil]
      · rw [hreq, hreq₁, hreq₂, requests_nil]
    · -- nobody is bound under the name, and nothing is sent
      next hnone =>
      obtain ⟨rfl, -⟩ := h
      exact ⟨⟨⟨listValue, rfl, rfl⟩, fun _ => rfl⟩, fun hfound => absurd hfound hnone⟩
  · next haccept =>
    exact ⟨fun _ => (refusal_exec (by decide) h).1, fun hall => absurd hall haccept⟩

/-- **`cmpPowerPortState`**: an accepted body is answered with the fixed text as soon as any byte
of the request has been taken. -/
theorem cmpPowerPortState_exec (hcommand : getCommand pData = powerPortStateRequest) {n : ℤ}
    (h : (cmpPowerPortState nSocket powerPortStateRequest nSequence pData).Exec tr n) :
    (¬ PowerAccepted pData → positives nSocket tr = []) ∧
    (PowerAccepted pData → ∃ nFD, Asked pData tr nFD ∧
      (¬ 0 < nFD → positives nSocket tr = []) ∧
      (0 < nFD → ∃ nRet, Requested pData tr nFD nRet ∧
        (¬ 0 < nRet → positives nSocket tr = []) ∧
        (0 < nRet → ∃ pBuf, positives nSocket tr = [pBuf] ∧
          pBuf.drop sizeofCmpHeader = stateText))) := by
  have hother : ¬ powerPortStateRequest = powerPortSetRequest := by decide
  simp only [PowerAccepted, hcommand, if_neg hother]
  unfold cmpPowerPortState at h
  dsimp only at h
  split at h
  · next haccept =>
    refine ⟨fun hnot => absurd haccept hnot, fun _ => ?_⟩
    obtain ⟨listValue, tr₁, hpos, hreq, hqueries, h⟩ := getControllerSocketFD_then_exec nSocket h
    refine ⟨listValue.headD fail, ?_⟩
    rw [Asked, controllerId, hcommand, hqueries, hreq, hpos]
    split at h
    · next hfound =>
      obtain ⟨req, nSent, tr₂, hcmd, hbody, hreq₁, hpos₁, hqueries₁, h⟩ :=
        forwardRequest_then_exec nSocket (by decide) h
      have hfor : IsRequestFor pData req := by
        refine ⟨hcmd.trans hcommand.symm, ?_⟩
        rw [hbody, forwardedFields, hcommand]
        rfl
      obtain ⟨hanswer, hreq₂, hqueries₂⟩ : ((¬ 0 < nSent → positives nSocket tr₂ = []) ∧
          (0 < nSent → ∃ pBuf, positives nSocket tr₂ = [pBuf] ∧
            pBuf.drop sizeofCmpHeader = stateText)) ∧ requests tr₂ = [] ∧ queries tr₂ = [] := by
        split at h
        · next htaken =>
          obtain ⟨tr₃, a, tr₄, rfl, hresponse, rfl, -⟩ := Prog.exec_bind.mp h
          rw [List.append_nil]
          obtain ⟨hanswer, hrest⟩ := cmpResponse_stateText_exec hresponse
          exact ⟨⟨fun hnot => absurd htaken hnot, fun _ => hanswer⟩, hrest⟩
        · next htaken =>
          obtain ⟨hnone, hrest⟩ := refusal_exec (by decide) h
          exact ⟨⟨fun _ => hnone, fun hyes => absurd hyes htaken⟩, hrest⟩
      rw [hqueries₁, hqueries₂, hpos₁]
      refine ⟨⟨⟨listValue, rfl, rfl⟩, fun hnot => absurd hfound hnot⟩,
        fun hnot => absurd hfound hnot, fun _ => ⟨nSent, ⟨req, ?_, hfor⟩, hanswer⟩⟩
      rw [hreq, hreq₁, hreq₂]
    · next hnone =>
      obtain ⟨hpos₁, hreq₁, hqueries₁⟩ := refusal_exec (by decide) h
      rw [hqueries₁]
      exact ⟨⟨⟨listValue, rfl, rfl⟩, fun _ => hreq₁⟩, fun _ => hpos₁,
        fun hfound => absurd hfound hnone⟩
  · next haccept =>
    exact ⟨fun _ => (refusal_exec (by decide) h).1, fun hall => absurd hall haccept⟩

end Handlers

/-! ### The packet -/

section Packet

variable {s s' : Center} {nClientFD : ℤ} {pData : Bytes} {chs : List CenterChoice}
  {tr : List CenterEvent}

/-- A power-port request is in the log first, and then with its handler. -/
theorem onCMP_power_exec (hpower : IsPowerPort pData)
    (h : (onCMP nClientFD pData).Exec tr ()) :
    ∃ n tr', positives nClientFD tr = positives nClientFD tr' ∧ requests tr = requests tr' ∧
      queries tr = queries tr' ∧
      (cmpRequest nClientFD (getCommand pData) (getSequence pData) pData).Exec tr' n := by
  rw [onCMP_request hpower.isAckPacket hpower.hasEntry] at h
  obtain ⟨u, tr', rfl, h⟩ := h
  simp only [Prog.bind_eq, Prog.ret_bind] at h
  obtain ⟨tr₁, n, tr₂, rfl, hcmp, rfl, -⟩ := Prog.exec_bind.mp h
  rw [List.append_nil]
  exact ⟨n, tr₁, rfl, rfl, rfl, hcmp⟩

/-- An answer is backed by the one request there is. -/
theorem backed_iff {rows : List ControllerRow} {report : ℤ → Option Bytes} {nFD nRet : ℤ}
    {pBuf : Bytes} (hreq : Requested pData tr nFD nRet) :
    Backed rows pData report tr pBuf ↔
      boundSocket rows (controllerId pData) = some nFD ∧ TakenWhole tr ∧
      (getCommand pData = powerPortStateRequest →
        report nFD = some (pBuf.drop sizeofCmpHeader)) := by
  obtain ⟨req, hreq, hfor⟩ := hreq
  simp only [Backed, TakenWhole, hreq, List.mem_singleton, forall_eq, Prod.mk.injEq]
  constructor
  · rintro ⟨nFD', req', hbound, ⟨rfl, rfl, hlen⟩, -, hreport⟩
    exact ⟨hbound, hlen.symm, hreport⟩
  · rintro ⟨hbound, hlen, hreport⟩
    exact ⟨nFD, req, hbound, ⟨rfl, rfl, hlen.symm⟩, hfor, hreport⟩

theorem Asked.lookups_eq {nFD : ℤ} (hask : Asked pData tr nFD) : lookups tr = [nFD] := by
  obtain ⟨⟨listValue, hqueries, rfl⟩, -⟩ := hask
  rw [lookups, hqueries]
  rfl

/-- An answer that is given in any case. -/
theorem set_backed_iff {rows : List ControllerRow} {report : ℤ → Option Bytes} {nFD : ℤ}
    (hcommand : getCommand pData = powerPortSetRequest)
    (hpos : positives nClientFD tr ≠ []) (hask : Asked pData tr nFD)
    (hsent : 0 < nFD → ∃ nRet, Requested pData tr nFD nRet) :
    (∀ pBuf ∈ positives nClientFD tr, Backed rows pData report tr pBuf) ↔
      ∃ n, boundSocket rows (controllerId pData) = some n ∧ 0 < n ∧ lookups tr = [n] ∧
        TakenWhole tr := by
  have hother : getCommand pData ≠ powerPortStateRequest := by
    rw [hcommand]
    decide
  constructor
  · intro hall
    obtain ⟨pBuf, hmem⟩ := List.exists_mem_of_ne_nil _ hpos
    have hback := hall pBuf hmem
    have hvalid : 0 < nFD := by
      by_contra hnot
      obtain ⟨n, req, -, hreq, -⟩ := hback
      rw [hask.2 hnot] at hreq
      exact absurd hreq List.not_mem_nil
    obtain ⟨nRet, hreq⟩ := hsent hvalid
    obtain ⟨hbound, hwhole, -⟩ := (backed_iff hreq).mp hback
    exact ⟨nFD, hbound, hvalid, hask.lookups_eq, hwhole⟩
  · rintro ⟨n, hbound, hvalid, hlookups, hwhole⟩ pBuf -
    -- the request went to the socket that was found
    obtain rfl := List.singleton_inj.mp (hask.lookups_eq.symm.trans hlookups)
    obtain ⟨nRet, hreq⟩ := hsent hvalid
    exact (backed_iff hreq).mpr ⟨hbound, hwhole, fun heq => absurd heq hother⟩

/-- An answer that is given when the request has been taken. -/
theorem state_backed_iff {rows : List ControllerRow} {report : ℤ → Option Bytes} {nFD : ℤ}
    (hcommand : getCommand pData = powerPortStateRequest) (hask : Asked pData tr nFD)
    (hinvalid : ¬ 0 < nFD → positives nClientFD tr = [])
    (hsent : 0 < nFD → ∃ nRet, Requested pData tr nFD nRet ∧
      (¬ 0 < nRet → positives nClientFD tr = []) ∧
      (0 < nRet → ∃ pBuf, positives nClientFD tr = [pBuf] ∧
        pBuf.drop sizeofCmpHeader = stateText)) :
    (∀ pBuf ∈ positives nClientFD tr, Backed rows pData report tr pBuf) ↔
      ∀ n, lookups tr = [n] → 0 < n → (∀ r ∈ requests tr, 0 < r.2.2) →
        boundSocket rows (controllerId pData) = some n ∧ TakenWhole tr ∧
          report n = some stateText := by
  rw [hask.lookups_eq]
  by_cases hvalid : 0 < nFD
  · obtain ⟨nRet, hreq, hnone, hsome⟩ := hsent hvalid
    have htaken : (∀ r ∈ requests tr, 0 < r.2.2) ↔ 0 < nRet := by
      obtain ⟨req, heq, -⟩ := hreq
      rw [heq]
      exact List.forall_mem_singleton
    rw [htaken]
    by_cases hpos : 0 < nRet
    · obtain ⟨pBuf, heq, htext⟩ := hsome hpos
      rw [heq, List.forall_mem_singleton, backed_iff hreq, htext]
      constructor
      · rintro ⟨hbound, hwhole, hreport⟩ n hn - -
        obtain rfl := List.singleton_inj.mp hn
        exact ⟨hbound, hwhole, hreport hcommand⟩
      · intro hall
        obtain ⟨hbound, hwhole, hreport⟩ := hall nFD rfl hvalid hpos
        exact ⟨hbound, hwhole, fun _ => hreport⟩
    · -- the request has not gone out, and the client is told so
      rw [hnone hpos]
      exact iff_of_true (fun _ hmem => absurd hmem List.not_mem_nil)
        fun _ _ _ hyes => absurd hyes hpos
  · rw [hinvalid hvalid]
    refine iff_of_true (fun _ hmem => absurd hmem List.not_mem_nil) fun n hn hyes => ?_
    obtain rfl := List.singleton_inj.mp hn
    exact absurd hyes hvalid

/-- **Positive answers.** Whatever the registry, the sockets and the controller do, the positive
answers of a power-port request are backed if and only if its body is not accepted, or: for a
request to set a port, a socket is bound for the controller, the query finds it, and it takes the
request whole; for a question about the state, when a valid socket is found and takes any byte of
the request, it is the bound one, it takes the request whole, and the state the controller reports
is the fixed text. -/
theorem cmpPower_backed_iff (s s' : Center) (nClientFD : ℤ) (pData : Bytes)
    (chs : List CenterChoice) (tr : List CenterEvent) (report : ℤ → Option Bytes)
    (hpower : IsPowerPort pData)
    (h : Center.run (onCMP nClientFD pData) s chs = some ((), s', tr)) :
    (∀ pBuf ∈ positives nClientFD tr, Backed s.rows pData report tr pBuf) ↔
    (PowerAccepted pData →
      (getCommand pData = powerPortSetRequest → ∃ nFD,
        boundSocket s.rows (controllerId pData) = some nFD ∧ 0 < nFD ∧ lookups tr = [nFD] ∧
        TakenWhole tr) ∧
      (getCommand pData = powerPortStateRequest → ∀ nFD,
        lookups tr = [nFD] → 0 < nFD → (∀ r ∈ requests tr, 0 < r.2.2) →
        boundSocket s.rows (controllerId pData) = some nFD ∧ TakenWhole tr ∧
          report nFD = some stateText)) := by
  obtain ⟨n, tr', hpos, hreq, hquery, hexec⟩ := onCMP_power_exec hpower (Prog.exec_of_runIn h)
  have hasked : ∀ {nFD}, Asked pData tr' nFD → Asked pData tr nFD := by
    intro nFD hask
    rwa [Asked, hquery, hreq]
  have hrequested : ∀ {nFD nRet}, Requested pData tr' nFD nRet → Requested pData tr nFD nRet := by
    intro nFD nRet hrequested
    rwa [Requested, hreq]
  by_cases haccept : PowerAccepted pData
  · rw [forall_prop_of_true haccept]
    rcases hpower with hcommand | hcommand
    · have hother : getCommand pData ≠ powerPortStateRequest := by rw [hcommand]; decide
      rw [hcommand, cmpRequest_powerPortSetRequest] at hexec
      obtain ⟨hne, nFD, hask, hsent⟩ := (cmpPowerPort_exec hcommand hexec).2 haccept
      rw [← hpos] at hne
      rw [set_backed_iff hcommand hne (hasked hask) fun hvalid =>
        (hsent hvalid).imp fun _ => hrequested]
      exact ⟨fun hall => ⟨fun _ => hall, fun heq => absurd heq hother⟩, fun hall => hall.1 hcommand⟩
    · have hother : getCommand pData ≠ powerPortSetRequest := by rw [hcommand]; decide
      rw [hcommand, cmpRequest_powerPortStateRequest] at hexec
      obtain ⟨nFD, hask, hinvalid, hsent⟩ := (cmpPowerPortState_exec hcommand hexec).2 haccept
      rw [← hpos] at hinvalid hsent
      rw [state_backed_iff hcommand (hasked hask) hinvalid fun hvalid =>
        (hsent hvalid).imp fun _ hreq => ⟨hrequested hreq.1, hreq.2⟩]
      exact ⟨fun hall => ⟨fun heq => absurd heq hother, fun _ => hall⟩, fun hall => hall.2 hcommand⟩
  · -- a body without one of its fields is refused
    have hnone : positives nClientFD tr = [] := by
      rw [hpos]
      rcases hpower with hcommand | hcommand
      · rw [hcommand, cmpRequest_powerPortSetRequest] at hexec
        exact (cmpPowerPort_exec hcommand hexec).1 haccept
      · rw [hcommand, cmpRequest_powerPortStateRequest] at hexec
        exact (cmpPowerPortState_exec hcommand hexec).1 haccept
    rw [hnone]
    exact iff_of_true (fun _ hmem => absurd hmem List.not_mem_nil) fun hall => absurd hall haccept

end Packet

/-- A question about the state of the ports of a controller. -/
def powerPortStatePacket (strId : Bytes) : Bytes :=
  CmpHeader.bytes ⟨.ofNat 32 (sizeofCmpHeader + 1 + strId.length + 1), powerPortStateRequest,
    statusRok, 2#32⟩ ++ (ascii "1" ++ (strId ++ [0]))

/-- The controller `a` is bound with descriptor 5. -/
def portCenter : Center := ⟨[⟨ascii "a", 1, 5⟩], [], 0⟩

/-- The controller takes the request whole and reports the fixed text. -/
theorem cmpPower_backed_iff_reported : ∃ s' tr,
    Center.run (onCMP 6 (powerPortStatePacket (ascii "a"))) portCenter
      (List.replicate 9 { sent := 17 }) = some ((), s', tr) ∧
    ((∀ pBuf ∈ positives 6 tr, Backed portCenter.rows (powerPortStatePacket (ascii "a"))
        (fun _ => some stateText) tr pBuf) ↔
    (PowerAccepted (powerPortStatePacket (ascii "a")) →
      (getCommand (powerPortStatePacket (ascii "a")) = powerPortSetRequest → ∃ nFD,
        boundSocket portCenter.rows (controllerId (powerPortStatePacket (ascii "a"))) =
          some nFD ∧ 0 < nFD ∧ lookups tr = [nFD] ∧ TakenWhole tr) ∧
      (getCommand (powerPortStatePacket (ascii "a")) = powerPortStateRequest → ∀ nFD,
        lookups tr = [nFD] → 0 < nFD → (∀ r ∈ requests tr, 0 < r.2.2) →
        boundSocket portCenter.rows (controllerId (powerPortStatePacket (ascii "a"))) =
          some nFD ∧ TakenWhole tr ∧ some stateText = some stateText))) := by
  obtain ⟨s', tr, hrun⟩ : ∃ s' tr, Center.run (onCMP 6 (powerPortStatePacket (ascii "a")))
      portCenter (List.replicate 9 { sent := 17 }) = some ((), s', tr) := ⟨_, _, rfl⟩
  exact ⟨s', tr, hrun, cmpPower_backed_iff portCenter s' 6 _ _ tr (fun _ => some stateText)
    (.inr rfl) hrun⟩

/-- Nobody is bound: the client is told `STATUS_ROK`, and no request is sent. A controller is bound
and reports something else: the client gets the fixed text. -/
theorem cmpPower_unbacked :
    (∃ s' tr, Center.run (onCMP 6 (powerPortSetPacket (ascii "a"))) .start
      (List.replicate 4 {}) = some ((), s', tr) ∧
      ∃ pBuf ∈ positives 6 tr, ∀ report,
        ¬ Backed [] (powerPortSetPacket (ascii "a")) report tr pBuf) ∧
    (∃ s' tr, Center.run (onCMP 6 (powerPortStatePacket (ascii "a"))) portCenter
      (List.replicate 9 { sent := 17 }) = some ((), s', tr) ∧
      ∃ pBuf ∈ positives 6 tr, ¬ Backed portCenter.rows (powerPortStatePacket (ascii "a"))
        (fun _ => some (ascii "\x7b\"count\":0\x7d\x00")) tr pBuf) := by
  refine ⟨⟨_, _, rfl, _, List.mem_singleton_self _, ?_⟩,
    ⟨_, _, rfl, _, List.mem_singleton_self _, ?_⟩⟩
  · rintro report ⟨nFD, req, hbound, -⟩
    cases hbound
  · rintro ⟨nFD, req, hbound, -, -, hreport⟩
    exact absurd (Option.some.inj (hreport rfl)) (by decide)

end ControllerSystem.ControlCenter
