import ControllerSystem.ControlCenter.Handlers

/-!
# The relaying handlers of the ControllerServer

The ControllerServer has its own copy of the ControlCenter's code. Here is what it does with a
`power_port_request`: its `parseBody`, and the handler that hands the request on to a controller.
What the two programs have in common is used from the ControlCenter.
-/

open Words Calls

namespace ControllerSystem.ControllerServer

open ControlCenter (CenterProg sendCommand getControllerSocketFD forwardRequest)

/-- The cases of `CCmpHandler::parseBody`. The type of an access log is a single byte here. -/
def bodyFields (nCommand : Word) (r : BodyReader) : BodyReader :=
  if nCommand = bindRequest then r.takeStr "id"
  else if nCommand = powerPortRequest then
    (((r.takeByte "wire").takeByte "port").takeByte "state").takeStr "controller"
  else if nCommand = powerPortStateRequest then (r.takeByte "wire").takeStr "controller"
  else if nCommand = accessLogRequest then (r.takeByte "type").takeStr "data"
  else if nCommand = initialRequest then r.takeInt "type"
  else if nCommand = signUpRequest then (r.takeInt "type").takeStr "data"
  else if nCommand = mdmLoginRequest then (r.takeStr "account").takeStr "password"
  else if nCommand = mdmOperateRequest then r.takeStr "token"
  else r

/-- `CCmpHandler::parseBody` of the ControllerServer. -/
def parseBody (nCommand : Word) (pData : Bytes) : ℤ × CDataHandler :=
  parseBodyWith (bodyFields nCommand) pData

/-- `CControlCenter::cmpPowerPortRequest`. -/
def cmpPowerPortRequest (nSocket : ℤ) (strWire strPort strState : Bytes) : CenterProg ℤ :=
  forwardRequest nSocket powerPortRequest [strWire, strPort, strState]
    (ascii "Power Port Request to SocketFD:")

/-- `CControlCenter::cmpPowerPort`. -/
def cmpPowerPort (nSocket : ℤ) (nCommand nSequence : Word) (pData : Bytes) : CenterProg ℤ := do
  let (nRet, rData) := parseBody nCommand pData
  if 0 < nRet ∧ rData.isValidKey "wire" ∧ rData.isValidKey "port" ∧ rData.isValidKey "state" ∧
      rData.isValidKey "controller" then
    let _ ← sendCommand nSocket nCommand statusRok nSequence true
    let nFD ← getControllerSocketFD (rData.get "controller")
    if 0 < nFD then
      let _ ← cmpPowerPortRequest nFD (rData.get "wire") (rData.get "port") (rData.get "state")
      pure 0
    else pure 0
  else
    let _ ← sendCommand nSocket nCommand statusRinvbody nSequence true
    pure 0

end ControllerSystem.ControllerServer
