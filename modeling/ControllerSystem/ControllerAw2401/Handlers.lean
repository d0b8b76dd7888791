import ControllerSystem.Controller.Handlers

/-!
# The power handlers of the Aw2401 controller

The Aw2401 controller is the Controller with two more handlers, for the four switched ports of a
power device on each of two wires. Both ask the device for the states of its ports, as a text of
four digits; `cmpPowerPortSet` changes one of them and writes all four back.
-/

open Words Calls

namespace ControllerSystem.ControllerAw2401

open Controller (clientSend printPacket printLog overrun sendCommandtoClient Config onCMPWith)

abbrev getPortStatus (strIP : Bytes) : ControllerProg Bytes := .call (.getPortStatus strIP) .ret

abbrev setPortState (strIP : Bytes) (bPort1 bPort2 bPort3 bPort4 : Bool) : ControllerProg ℤ :=
  .call (.setPortState strIP bPort1 bPort2 bPort3 bPort4) .ret

abbrev outOfRange : ControllerProg Unit := .call .outOfRange .ret

/-- The device on a wire: `WIRE_1` or `WIRE_2`. -/
def wireIP (nWire : ℤ) : Option Bytes :=
  if nWire = 1 then some (ascii "192.168.0.111")
  else if nWire = 2 then some (ascii "192.168.0.112")
  else none

/-- The cases of `CCmpHandler::parseBody` the handlers use. -/
def bodyFields (nCommand : Word) (r : BodyReader) : BodyReader :=
  if nCommand = powerPortStateRequest then r.takeInt "wire"
  else if nCommand = powerPortSetRequest then
    (((r.takeInt "wire").takeInt "port").takeByte "state").takeStr "controller"
  else Controller.bodyFields nCommand r

/-- `CCmpHandler::parseBody` of the Aw2401 controller. -/
def parseBody (nCommand : Word) (pData : Bytes) : ℤ × CDataHandler :=
  parseBodyWith (bodyFields nCommand) pData

/-- `Controller::cmpResponse`. -/
def cmpResponse (nSocket : ℤ) (nCommandId nSequence : Word) (szData : Bytes) : ControllerProg ℤ :=
  if maxDataLen < strlen szData + 1 then do
    overrun
    pure (-1)
  else do
    let header := { formatHeader nCommandId statusRok nSequence with
      commandLength := .ofNat 32 (sizeofCmpHeader + (strlen szData + 1)) }
    let nRet ← clientSend nSocket (header.bytes ++ (cstr szData ++ [0]))
    printPacket nCommandId statusRok nSequence nRet "[Center]" nSocket
    if nRet ≤ 0 then
      printLog (ascii "CMP Response fail, socket:" ++ convertToString nSocket) "[Center]"
    else
      printLog (ascii "CMP Response success, data:" ++ cstr szData) "[Center]"
    pure nRet

section Handlers

variable (mConfig : Config) (nSocket : ℤ) (nCommand nSequence : Word) (pData : Bytes)

/-- The status of the device on a wire, empty without such a wire. -/
def wireStatus (nWire : ℤ) : ControllerProg Bytes :=
  match wireIP nWire with
  | some strIP => getPortStatus strIP
  | none => pure []

/-- `Controller::cmpPowerPortState`. -/
def cmpPowerPortState : ControllerProg ℤ := do
  let (nRet, rData) := parseBody nCommand pData
  if 0 < nRet ∧ rData.isValidKey "wire" then
    let strState ← wireStatus (convertFromString (rData.get "wire"))
    if strState ≠ [] then
      let _ ← cmpResponse nSocket powerPortStateResponse nSequence strState
      pure 0
    else
      let _ ← sendCommandtoClient nSocket nCommand statusRppstafail nSequence true
      pure 0
  else
    let _ ← sendCommandtoClient nSocket nCommand statusRinvbody nSequence true
    pure 0

/-- A port is on unless its digit is `0`. -/
def portOn (strState : Bytes) (nPort : ℕ) : Bool := (strState.drop nPort).take 1 ≠ ascii "0"

/-- Writing the states of the device on a wire; without such a wire `nRet` stays as it was. -/
def setWireState (nWire nRet : ℤ) (bPort1 bPort2 bPort3 bPort4 : Bool) : ControllerProg ℤ :=
  match wireIP nWire with
  | some strIP => setPortState strIP bPort1 bPort2 bPort3 bPort4
  | none => pure nRet

theorem setWireState_some {nWire : ℤ} {strIP : Bytes} (h : wireIP nWire = some strIP) (nRet : ℤ) :
    setWireState nWire nRet = setPortState strIP := by
  funext bPort1 bPort2 bPort3 bPort4
  rw [setWireState, h]

/-- What `cmpPowerPortSet` does with the status of a device, and `cmpPowerPort` of the
ControllerClient does as well: from the status to the answer. Behind the end of the status there is
nothing to take a digit from, and `substr` throws. -/
def switchPort (setState : Bool → Bool → Bool → Bool → ControllerProg ℤ) (nPort : ℤ)
    (bState : Bool) (strState : Bytes) : ControllerProg ℤ := do
  if strState = [] then
    let _ ← sendCommandtoClient nSocket nCommand statusRppsfail nSequence true
    pure fail
  -- `substr` throws only from a position behind the end
  else if strState.length < 3 then
    outOfRange
    pure fail
  else
    -- a port other than 1 to 4 leaves all four as they were read
    let bPort1 := if nPort = 1 then bState else portOn strState 0
    let bPort2 := if nPort = 2 then bState else portOn strState 1
    let bPort3 := if nPort = 3 then bState else portOn strState 2
    let bPort4 := if nPort = 4 then bState else portOn strState 3
    let nSet ← setState bPort1 bPort2 bPort3 bPort4
    if nSet ≠ -1 then
      let _ ← sendCommandtoClient nSocket nCommand statusRok nSequence true
      pure 0
    else
      let _ ← sendCommandtoClient nSocket nCommand statusRppsfail nSequence true
      pure 0

/-- `Controller::cmpPowerPortSet`. A body without the three fields gets no answer. -/
def cmpPowerPortSet : ControllerProg ℤ := do
  let (nRet, rData) := parseBody nCommand pData
  if 0 < nRet ∧ rData.isValidKey "wire" ∧ rData.isValidKey "port" ∧ rData.isValidKey "state" then
    let nWire := convertFromString (rData.get "wire")
    let nPort := convertFromString (rData.get "port")
    let bState : Bool := rData.get "state" ≠ ascii "0"
    let strState ← wireStatus nWire
    switchPort nSocket nCommand nSequence (setWireState nWire nRet) nPort bState strState
  else pure 0

/-- The table `cmpRequest`. -/
def cmpRequest : ControllerProg ℤ :=
  if nCommand = powerPortStateRequest then cmpPowerPortState nSocket nCommand nSequence pData
  else if nCommand = powerPortSetRequest then cmpPowerPortSet nSocket nCommand nSequence pData
  -- the other entries are those of the Controller
  else Controller.cmpRequest mConfig nSocket nCommand nSequence pData

end Handlers

/-- `Controller::onClientCMP`. -/
def onClientCMP (mConfig : Config) (nClientFD : ℤ) (pData : Bytes) : ControllerProg Unit :=
  onCMPWith (cmpRequest mConfig) nClientFD pData

/-- `Controller::onCenterCMP`. -/
def onCenterCMP (mConfig : Config) (nServerFD : ℤ) (pData : Bytes) : ControllerProg Unit :=
  onCMPWith (cmpRequest mConfig) nServerFD pData

end ControllerSystem.ControllerAw2401
