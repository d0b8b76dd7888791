import ControllerSystem.ControllerAw2401.Handlers

/-!
# The relaying handlers of the ControllerClient

The ControllerClient has its own copy of the Controller's code. Here is what it does with an
`access_log_request`: its `parseBody`, and the handler that hands the log on to the center; and what
it does with a `power_port_request`, where it has its own copy of the Aw2401 controller's code. What
the programs have in common is used from these.
-/

open Words Calls

namespace ControllerSystem.ControllerClient

open Controller (Config sendCommandtoClient getSocketfd centerRequest)
open ControllerAw2401 (getPortStatus setPortState switchPort)

/-- The cases of `CCmpHandler::parseBody`. -/
def bodyFields (nCommand : Word) (r : BodyReader) : BodyReader :=
  if nCommand = bindRequest then r.takeStr "id"
  else if nCommand = powerPortRequest then
    -- the controller is not sent to a controller, and found only where something follows the state
    (((r.takeByte "wire").takeByte "port").takeByte "state").takeStr "controller"
  else if nCommand = accessLogRequest then (r.takeByte "type").takeStr "data"
  else r

/-- `CCmpHandler::parseBody` of the ControllerClient. -/
def parseBody (nCommand : Word) (pData : Bytes) : ℤ × CDataHandler :=
  parseBodyWith (bodyFields nCommand) pData

/-- `Controller::cmpAccessLogRequest`. -/
def cmpAccessLogRequest (mConfig : Config) (nSocketFD : ℤ) (strType strLog : Bytes) :
    ControllerProg ℤ :=
  centerRequest nSocketFD accessLogRequest (strType ++ strLog)
    (ascii "Access Log to Center Controller ID:" ++ mConfig.strMAC)

/-- `Controller::cmpAccessLog`. -/
def cmpAccessLog (mConfig : Config) (nSocket : ℤ) (nCommand nSequence : Word) (pData : Bytes) :
    ControllerProg ℤ := do
  let (nRet, rData) := parseBody nCommand pData
  if 0 < nRet ∧ rData.isValidKey "type" ∧ rData.isValidKey "data" then
    let _ ← sendCommandtoClient nSocket nCommand statusRok nSequence true
    let nSocketFD ← getSocketfd
    let _ ← cmpAccessLogRequest mConfig nSocketFD (rData.get "type") (rData.get "data")
    pure 0
  else
    let _ ← sendCommandtoClient nSocket nCommand statusRinvbody nSequence true
    pure 0

/-- `mapWire`: the devices on the wires. -/
def mapWire : List (Bytes × Bytes) :=
  [(ascii "1", ascii "192.168.0.111"), (ascii "2", ascii "192.168.0.112"),
    (ascii "3", ascii "192.168.0.113"), (ascii "4", ascii "192.168.0.114")]

/-- `atoi`, which reads a number that fits as a stream does. -/
def atoi (str : Bytes) : ℤ := convertFromString str

/-- `Controller::cmpPowerPort`. -/
def cmpPowerPort (nSocket : ℤ) (nCommand nSequence : Word) (pData : Bytes) : ControllerProg ℤ := do
  let (nRet, rData) := parseBody nCommand pData
  if 0 < nRet ∧ rData.isValidKey "wire" ∧ rData.isValidKey "port" ∧ rData.isValidKey "state" ∧
      (mapWire.lookup (rData.get "wire")).isSome then
    let nPort := atoi (rData.get "port")
    let bState : Bool := rData.get "state" ≠ ascii "0"
    let strIP := (mapWire.lookup (rData.get "wire")).getD []
    let strState ← getPortStatus strIP
    switchPort nSocket nCommand nSequence (setPortState strIP) nPort bState strState
  else
    let _ ← sendCommandtoClient nSocket nCommand statusRinvbody nSequence true
    pure 0

end ControllerSystem.ControllerClient
