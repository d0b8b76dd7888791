import ControllerSystem.CmpHandler
import ControllerSystem.Lib.Calls

/-!
# The packet handlers of the Controller

What the Controller does with a packet from a client or from the center (`onClientCMP`,
`onCenterCMP`), with a disconnect notice (`setUnbindState`), and in one round of its keep-alive
thread, as programs that make calls. The Aw2401 controller is built from the same code with two
more handlers, which exchange messages with power devices; its programs make the same kinds of
calls.

The debug output of `_DBG` is left out, and so is `ClientHandler::setClientSocket`, which only
stores a pointer.
-/

open Words Calls

namespace ControllerSystem

/-! ### Calls -/

/-- The statements on the table `device`. -/
inductive DeviceSql
  /-- In `Controller::cmpBind`. -/
  | deleteById (strId : Bytes)
  /-- In `Controller::cmpBind`. -/
  | insert (strId : Bytes) (nSocket : ℤ)
  /-- In `Controller::setUnbindState`. -/
  | setUnbind (nSocketFD : ℤ)
  /-- In `Controller::runEnquireLinkRequest`. -/
  | deleteBySocketFD (nSocketFD : ℤ)
  /-- In `Controller::getBindSocket`. -/
  | selectBound
  deriving DecidableEq

/-- The text a statement is executed with. -/
def DeviceSql.text : DeviceSql → Bytes
  | .deleteById strId => ascii "DELETE FROM device WHERE id = '" ++ strId ++ ascii "';"
  | .insert strId nSocket =>
    ascii "INSERT INTO device(id, status, socket_fd, created_date)values('" ++ strId ++
      ascii "',1," ++ convertToString nSocket ++ ascii ",datetime());"
  | .setUnbind nSocketFD =>
    ascii "UPDATE device set status = 0 , updated_date = datetime() WHERE socket_fd = " ++
      convertToString nSocketFD ++ ascii ";"
  | .deleteBySocketFD nSocketFD =>
    ascii "DELETE FROM device WHERE socket_fd = " ++ convertToString nSocketFD ++ ascii ";"
  | .selectBound => ascii "SELECT socket_fd FROM device WHERE status = 1;"

/-- The calls of the Controller's threads. -/
inductive ControllerCall
  /-- `CSqliteHandler::deviceSqlExec`. -/
  | deviceExec (sql : DeviceSql)
  /-- `CSqliteHandler::getDeviceColumeValueInt`. -/
  | deviceQuery (sql : DeviceSql)
  /-- `cmpServer->socketSend`. -/
  | clientSend (nSocket : ℤ) (pBuf : Bytes)
  /-- `cmpClient->socketSend`. -/
  | centerSend (nSocketFD : ℤ) (pBuf : Bytes)
  /-- `cmpClient->isValidSocketFD`. -/
  | isValidSocketFD
  /-- `cmpClient->getSocketfd`. -/
  | getSocketfd
  /-- `cmpClient->start`, with a new socket. -/
  | centerStart (cszAddr : Bytes) (nPort : ℤ)
  | close (nSocketFD : ℤ)
  /-- Read the counter `msnSequence`. -/
  | loadSequence
  | storeSequence (n : ℤ)
  /-- Read the vector `vEnquireLink`. -/
  | loadEnquireLink
  | storeEnquireLink (v : List ℤ)
  /-- `it != vEnquireLink.end()`, for the iterator at a position. -/
  | notEnd (it : ℕ)
  /-- `*it`. Behind the last entry, C++ does not say what is read. -/
  | deref (it : ℕ)
  | printPacket (nCommand nStatus nSequence : Word) (nLength : ℤ) (strDesc : String) (nClientFD : ℤ)
  | printLog (strMsg : Bytes) (strDesc : String)
  /-- A write behind the end of `CMP_BODY.cmpdata`. -/
  | overrun
  /-- `CAreawell::getPortStatus`; the result is empty without an answer. -/
  | getPortStatus (strIP : Bytes)
  /-- `CAreawell::setPortState`; the result is -1 without a connection. -/
  | setPortState (strIP : Bytes) (bPort1 bPort2 bPort3 bPort4 : Bool)
  /-- `std::out_of_range`, which nothing catches. -/
  | outOfRange
  deriving DecidableEq

/-- What the calls return. -/
abbrev ControllerCall.Res : ControllerCall → Type
  | deviceExec _ => ℤ
  | deviceQuery _ => List ℤ
  | clientSend _ _ => ℤ
  | centerSend _ _ => ℤ
  | isValidSocketFD => Bool
  | getSocketfd => ℤ
  | centerStart _ _ => ℤ
  | close _ => Unit
  | loadSequence => ℤ
  | storeSequence _ => Unit
  | loadEnquireLink => List ℤ
  | storeEnquireLink _ => Unit
  | notEnd _ => Bool
  | deref _ => ℤ
  | printPacket _ _ _ _ _ _ => Unit
  | printLog _ _ => Unit
  | overrun => Unit
  | getPortStatus _ => Bytes
  | setPortState _ _ _ _ _ => ℤ
  | outOfRange => Unit

/-- The programs of the Controller. -/
abbrev ControllerProg (α : Type) := Prog ControllerCall ControllerCall.Res α

/-- The calls of an execution, with their results. -/
abbrev ControllerEvent := Prog.Event ControllerCall ControllerCall.Res

namespace Controller

/-- The packet a call sends to the center, with its socket. -/
def sentToCenter : ControllerEvent → Option (ℤ × Bytes)
  | ⟨.centerSend nSocketFD pBuf, _⟩ => some (nSocketFD, pBuf)
  | _ => none

/-- The packet a call sends, with its socket: both objects send on the descriptor they are given. -/
def sent : ControllerEvent → Option (ℤ × Bytes)
  | ⟨.clientSend nSocket pBuf, _⟩ => some (nSocket, pBuf)
  | ⟨.centerSend nSocketFD pBuf, _⟩ => some (nSocketFD, pBuf)
  | _ => none

abbrev deviceExec (sql : DeviceSql) : ControllerProg ℤ := .call (.deviceExec sql) .ret

abbrev deviceQuery (sql : DeviceSql) : ControllerProg (List ℤ) := .call (.deviceQuery sql) .ret

abbrev clientSend (nSocket : ℤ) (pBuf : Bytes) : ControllerProg ℤ :=
  .call (.clientSend nSocket pBuf) .ret

abbrev centerSend (nSocketFD : ℤ) (pBuf : Bytes) : ControllerProg ℤ :=
  .call (.centerSend nSocketFD pBuf) .ret

abbrev isValidSocketFD : ControllerProg Bool := .call .isValidSocketFD .ret

abbrev getSocketfd : ControllerProg ℤ := .call .getSocketfd .ret

abbrev centerStart (cszAddr : Bytes) (nPort : ℤ) : ControllerProg ℤ :=
  .call (.centerStart cszAddr nPort) .ret

abbrev close (nSocketFD : ℤ) : ControllerProg Unit := .call (.close nSocketFD) .ret

abbrev loadSequence : ControllerProg ℤ := .call .loadSequence .ret

abbrev storeSequence (n : ℤ) : ControllerProg Unit := .call (.storeSequence n) .ret

abbrev loadEnquireLink : ControllerProg (List ℤ) := .call .loadEnquireLink .ret

abbrev storeEnquireLink (v : List ℤ) : ControllerProg Unit := .call (.storeEnquireLink v) .ret

abbrev notEnd (it : ℕ) : ControllerProg Bool := .call (.notEnd it) .ret

abbrev deref (it : ℕ) : ControllerProg ℤ := .call (.deref it) .ret

abbrev printPacket (nCommand nStatus nSequence : Word) (nLength : ℤ) (strDesc : String)
    (nClientFD : ℤ) : ControllerProg Unit :=
  .call (.printPacket nCommand nStatus nSequence nLength strDesc nClientFD) .ret

abbrev printLog (strMsg : Bytes) (strDesc : String) : ControllerProg Unit :=
  .call (.printLog strMsg strDesc) .ret

abbrev overrun : ControllerProg Unit := .call .overrun .ret

/-! ### Shared functions -/

/-- The settings of `mConfig` the programs read. -/
structure Config where
  strMAC : Bytes
  strCenterServerIP : Bytes
  strCenterServerPort : Bytes

/-- The cases of `CCmpHandler::parseBody` the Controller's handlers use. -/
def bodyFields (nCommand : Word) (r : BodyReader) : BodyReader :=
  if nCommand = bindRequest then r.takeStr "id"
  else if nCommand = accessLogRequest then (r.takeByte "type").takeStr "data"
  else r

/-- `CCmpHandler::parseBody` of the Controller. -/
def parseBody (nCommand : Word) (pData : Bytes) : ℤ × CDataHandler :=
  parseBodyWith (bodyFields nCommand) pData

/-- The step of the sequence counter in `getSerialSequence`. -/
def serialSequenceAfter (msnSequence : ℤ) : ℤ :=
  -- the counter starts again at 1 below the largest `int`
  if 0x7FFFFFFF ≤ msnSequence + 1 then 1 else msnSequence + 1

/-- `getSerialSequence`. -/
def getSerialSequence : ControllerProg ℤ := do
  let msnSequence ← loadSequence
  storeSequence (serialSequenceAfter msnSequence)
  pure (serialSequenceAfter msnSequence)

/-- `Controller::sendCommandtoClient`. -/
def sendCommandtoClient (nSocket : ℤ) (nCommand nStatus nSequence : Word) (isResp : Bool) :
    ControllerProg ℤ := do
  let nCommandSend := if isResp then genericNack ||| nCommand else nCommand
  let nRet ← clientSend nSocket (formatHeader nCommandSend nStatus nSequence).bytes
  printPacket nCommandSend nStatus nSequence nRet "[Controller Send to Client]" nSocket
  pure nRet

/-- `Controller::sendCommandtoCenter`. -/
def sendCommandtoCenter (nCommand nStatus nSequence : Word) (isResp : Bool) :
    ControllerProg ℤ := do
  if ← isValidSocketFD then
    let nCommandSend := if isResp then genericNack ||| nCommand else nCommand
    let nSocketFD ← getSocketfd
    let nRet ← centerSend nSocketFD (formatHeader nCommandSend nStatus nSequence).bytes
    -- asked again for the log line
    let nSocketFD ← getSocketfd
    printPacket nCommandSend nStatus nSequence nRet "[Controller Send to Center]" nSocketFD
    pure nRet
  else pure (-1)

/-- The requests to the center: a header and a body that ends with a zero byte, copied into
`cmpdata` without a look at its length. -/
def centerRequest (nSocket : ℤ) (nCommand : Word) (body strMsg : Bytes) : ControllerProg ℤ := do
  let nSequence ← getSerialSequence
  if maxDataLen < body.length + 1 then
    overrun
    pure (-1)
  else
    let header := { formatHeader nCommand statusRok (.ofInt 32 nSequence) with
      commandLength := .ofNat 32 (sizeofCmpHeader + (body.length + 1)) }
    let nRet ← centerSend nSocket (header.bytes ++ (body ++ [0]))
    printLog strMsg "[Controller]"
    pure nRet

/-- `Controller::cmpBindRequest`. -/
def cmpBindRequest (mConfig : Config) (nSocket : ℤ) : ControllerProg ℤ :=
  centerRequest nSocket bindRequest mConfig.strMAC
    (ascii "Bind to Center Controller ID:" ++ mConfig.strMAC)

/-- `Controller::cmpAccessLogRequest`. -/
def cmpAccessLogRequest (mConfig : Config) (nSocketFD : ℤ) (strType strLog : Bytes) :
    ControllerProg ℤ :=
  centerRequest nSocketFD accessLogRequest (strType ++ strLog)
    (ascii "Access Log to Center Controller ID:" ++ mConfig.strMAC)

/-- `Controller::connectCenter`; the first two results are its `FALSE`. For `atoi`,
`convertFromString` stands, which agrees with it on every number that is an `int`. -/
def connectCenter (mConfig : Config) : ControllerProg ℤ :=
  if mConfig.strCenterServerIP = [] ∨ mConfig.strCenterServerPort = [] then pure 0
  else if convertFromString mConfig.strCenterServerPort ≤ 0 then pure 0
  else do
    let _ ← centerStart mConfig.strCenterServerIP (convertFromString mConfig.strCenterServerPort)
    -- its result is not looked at; the socket is
    if ← isValidSocketFD then
      let nSocketFD ← getSocketfd
      cmpBindRequest mConfig nSocketFD
    else pure fail

/-- `Controller::setUnbindState`. -/
def setUnbindState (nSocketFD : ℤ) : ControllerProg Unit := do
  let _ ← deviceExec (.setUnbind nSocketFD)

/-! ### The handlers -/

section Handlers

variable (mConfig : Config) (nSocket : ℤ) (nCommand nSequence : Word) (pData : Bytes)

/-- `Controller::cmpUnknow`. -/
def cmpUnknow : ControllerProg ℤ := do
  let _ ← sendCommandtoClient nSocket nCommand statusRinvcmdid nSequence true
  pure 0

/-- `Controller::cmpBind`. Nobody looks at the results of the statements. -/
def cmpBind : ControllerProg ℤ := do
  let (nRet, rData) := parseBody nCommand pData
  if 0 < nRet then
    let _ ← deviceExec (.deleteById (rData.get "id"))
    let _ ← deviceExec (.insert (rData.get "id") nSocket)
    let _ ← sendCommandtoClient nSocket nCommand statusRok nSequence true
    pure 0
  else
    let _ ← sendCommandtoClient nSocket nCommand statusRinvctrlid nSequence true
    pure 0

/-- `Controller::cmpUnbind`. -/
def cmpUnbind : ControllerProg ℤ := do
  setUnbindState nSocket
  let _ ← sendCommandtoClient nSocket nCommand statusRok nSequence true
  pure 0

/-- `Controller::cmpEnquireLink`. The answer goes to the center, whoever asked. -/
def cmpEnquireLink : ControllerProg ℤ := sendCommandtoCenter nCommand statusRok nSequence true

/-- `Controller::cmpAccessLog`. -/
def cmpAccessLog : ControllerProg ℤ := do
  let (nRet, rData) := parseBody nCommand pData
  if 0 < nRet ∧ rData.isValidKey "type" ∧ rData.isValidKey "data" then
    -- the client is told `STATUS_ROK` before the center has been asked
    let _ ← sendCommandtoClient nSocket nCommand statusRok nSequence true
    let nSocketFD ← getSocketfd
    let _ ← cmpAccessLogRequest mConfig nSocketFD (rData.get "type") (rData.get "data")
    pure 0
  else
    let _ ← sendCommandtoClient nSocket nCommand statusRinvbody nSequence true
    pure 0

/-- The table `cmpRequest`. -/
def cmpRequest : ControllerProg ℤ :=
  if nCommand = bindRequest then cmpBind nSocket nCommand nSequence pData
  else if nCommand = unbindRequest then cmpUnbind nSocket nCommand nSequence
  else if nCommand = accessLogRequest then cmpAccessLog mConfig nSocket nCommand nSequence pData
  else if nCommand = enquireLinkRequest then cmpEnquireLink nCommand nSequence
  else cmpUnknow nSocket nCommand nSequence

end Handlers

/-- What holds of the entry of each command, holds of the table. -/
theorem cmpRequest_cases {mConfig : Config} {nSocket : ℤ} {nCommand nSequence : Word}
    {pData : Bytes} {P : ControllerProg ℤ → Prop}
    (bind : nCommand = bindRequest → P (cmpBind nSocket nCommand nSequence pData))
    (unbind : nCommand = unbindRequest → P (cmpUnbind nSocket nCommand nSequence))
    (accessLog : nCommand = accessLogRequest →
      P (cmpAccessLog mConfig nSocket nCommand nSequence pData))
    (enquireLink : nCommand = enquireLinkRequest → P (cmpEnquireLink nCommand nSequence))
    (unknow : P (cmpUnknow nSocket nCommand nSequence)) :
    P (cmpRequest mConfig nSocket nCommand nSequence pData) := by
  refine iteInduction bind fun _ => iteInduction unbind fun _ => ?_
  exact iteInduction accessLog fun _ => iteInduction enquireLink fun _ => unknow

/-- `Controller::ackPacket`. Only an enquire-link response does anything: the first entry of its
socket leaves `vEnquireLink`. -/
def ackPacket (nClientSocketFD : ℤ) (nCommand : Word) : ControllerProg Unit :=
  if nCommand = enquireLinkResponse then do
    let vEnquireLink ← loadEnquireLink
    if nClientSocketFD ∈ vEnquireLink then storeEnquireLink (vEnquireLink.erase nClientSocketFD)
    else pure ()
  else pure ()

/-- The common body of `onClientCMP` and `onCenterCMP`, over the table of requests. -/
def onCMPWith (cmpRequest : ℤ → Word → Word → Bytes → ControllerProg ℤ) (nFD : ℤ)
    (pData : Bytes) : ControllerProg Unit := do
  let nCommand := getCommand pData
  let nSequence := getSequence pData
  printPacket nCommand (getStatus pData) nSequence (getLength pData).toInt "[Controller Recv]" nFD
  if isAckPacket nCommand then ackPacket nFD nCommand
  else if 0xFF < nCommand.toInt then
    let _ ← sendCommandtoClient nFD nCommand statusRinvcmdid nSequence true
  else
    let _ ← cmpRequest nFD nCommand nSequence pData

/-- `Controller::onClientCMP`. -/
def onClientCMP (mConfig : Config) (nClientFD : ℤ) (pData : Bytes) : ControllerProg Unit :=
  onCMPWith (cmpRequest mConfig) nClientFD pData

/-- `Controller::onCenterCMP`. -/
def onCenterCMP (mConfig : Config) (nServerFD : ℤ) (pData : Bytes) : ControllerProg Unit :=
  onCMPWith (cmpRequest mConfig) nServerFD pData

/-- The notices the socket threads leave in the queue of the message loop. -/
inductive Notice
  /-- `EVENT_COMMAND_SOCKET_CLIENT_CONNECT`. -/
  | clientConnect (nId : ℤ)
  /-- `EVENT_COMMAND_SOCKET_CLIENT_DISCONNECT`. -/
  | clientDisconnect (nId : ℤ)
  /-- `EVENT_COMMAND_CONTROL_CENTER_DISCONNECT`. -/
  | centerDisconnect (nId : ℤ)

/-- `Controller::onReceiveMessage`. Packets do not come this way: `ServerReceive` and
`ClientReceive` hand them over in the threads that have read them. -/
def onReceiveMessage : Notice → ControllerProg Unit
  | .clientConnect nId => do
    let _ ← clientSend nId (ascii "welcome")
  | .clientDisconnect nId => setUnbindState nId
  | .centerDisconnect _ => pure ()

/-! ### The keep-alive thread -/

/-- `Controller::getBindSocket`. -/
def getBindSocket : ControllerProg (List ℤ) := deviceQuery .selectBound

/-- `Controller::cmpEnquireLinkRequest`. -/
def cmpEnquireLinkRequest (nSocketFD : ℤ) : ControllerProg ℤ := do
  let nSequence ← getSerialSequence
  sendCommandtoClient nSocketFD enquireLinkRequest statusRok (.ofInt 32 nSequence) false

/-- A pass of the loop over `vEnquireLink`: drop the socket the iterator is at. The iterator is a
position, and each use of it looks into the vector anew, from which the client threads erase entries
meanwhile. -/
def dropSocket (it : ℕ) : ControllerProg Unit := do
  let nSocketFD ← deref it
  let _ ← deviceExec (.deleteBySocketFD nSocketFD)
  let nSocketFD ← deref it
  close nSocketFD
  let nSocketFD ← deref it
  printLog (ascii "Dropped connection, Close socket file descriptor filedes = " ++
    convertToString nSocketFD) "[Controller]"

/-- The loop over `vEnquireLink`. Nobody adds an entry meanwhile, so an iterator that stays in the
vector is at its end before the passes are used up. -/
def dropSockets : ℕ → ℕ → ControllerProg Unit
  | 0, _ => pure ()
  | passes + 1, it => do
    if ← notEnd it then
      dropSocket it
      dropSockets passes (it + 1)
    else pure ()

/-- Whoever is still on the list has not answered since the last round. -/
def checkEnquireLink : ControllerProg Unit := do
  let vEnquireLink ← loadEnquireLink
  if 0 < vEnquireLink.length then dropSockets (vEnquireLink.length + 1) 0
  else pure ()

/-- The loop over the bound sockets: note each socket and ask it. -/
def enquireSockets : List ℤ → ControllerProg Unit
  | [] => pure ()
  | nSocketFD :: rest => do
    let vEnquireLink ← loadEnquireLink
    storeEnquireLink (vEnquireLink ++ [nSocketFD])
    let _ ← cmpEnquireLinkRequest nSocketFD
    enquireSockets rest

/-- The last part of a round: connect to the center again when the connection is gone. -/
def reconnectCenter (mConfig : Config) : ControllerProg Unit := do
  if ← isValidSocketFD then pure ()
  else
    let _ ← connectCenter mConfig

/-- Whoever is bound is noted and asked. -/
def enquireBound : ControllerProg Unit := do
  let listValue ← getBindSocket
  if 0 < listValue.length then
    printLog (ascii "Run Enquire Link Request") "[Controller]"
    enquireSockets listValue
  else pure ()

/-- One pass through the loop of `Controller::runEnquireLinkRequest`, behind the sleep. -/
def enquireLinkRound (mConfig : Config) : ControllerProg Unit := do
  checkEnquireLink
  storeEnquireLink []
  enquireBound
  reconnectCenter mConfig

/-! ### What the programs call -/

/-- The calls of what is sent to the center: methods of `cmpClient`, the sequence counter and the
log. -/
inductive CenterRequestCall : ControllerCall → Prop
  | isValidSocketFD : CenterRequestCall .isValidSocketFD
  | getSocketfd : CenterRequestCall .getSocketfd
  | centerStart {cszAddr : Bytes} {nPort : ℤ} : CenterRequestCall (.centerStart cszAddr nPort)
  | loadSequence : CenterRequestCall .loadSequence
  | storeSequence {n : ℤ} : CenterRequestCall (.storeSequence n)
  /-- A header alone. -/
  | command (nSocketFD : ℤ) (nCommand nStatus nSequence : Word) :
      CenterRequestCall (.centerSend nSocketFD (formatHeader nCommand nStatus nSequence).bytes)
  /-- A header and a body that fits. -/
  | request (nSocketFD : ℤ) (nCommand nStatus nSequence : Word) {body : Bytes}
      (hfit : ¬ maxDataLen < body.length + 1) :
      CenterRequestCall (.centerSend nSocketFD
        (CmpHeader.bytes { formatHeader nCommand nStatus nSequence with
          commandLength := .ofNat 32 (sizeofCmpHeader + (body.length + 1)) } ++ (body ++ [0])))
  | overrun : CenterRequestCall .overrun
  | printPacket {nCommand nStatus nSequence : Word} {nLength : ℤ} {strDesc : String}
      {nClientFD : ℤ} :
      CenterRequestCall (.printPacket nCommand nStatus nSequence nLength strDesc nClientFD)
  | printLog {strMsg : Bytes} {strDesc : String} : CenterRequestCall (.printLog strMsg strDesc)

/-- The calls of the handler of a request on a socket: statements, an answer on this socket, and
what is sent to the center. -/
inductive RequestCall (nSocket : ℤ) : ControllerCall → Prop
  | deleteById {strId : Bytes} : RequestCall nSocket (.deviceExec (.deleteById strId))
  | insert {strId : Bytes} : RequestCall nSocket (.deviceExec (.insert strId nSocket))
  | setUnbind : RequestCall nSocket (.deviceExec (.setUnbind nSocket))
  | answer (nCommand nStatus nSequence : Word) :
      RequestCall nSocket (.clientSend nSocket (formatHeader nCommand nStatus nSequence).bytes)
  | center {c : ControllerCall} (hc : CenterRequestCall c) : RequestCall nSocket c

/-- The calls that read and write `vEnquireLink`. -/
inductive LinkCall : ControllerCall → Prop
  | load : LinkCall .loadEnquireLink
  | store {v : List ℤ} : LinkCall (.storeEnquireLink v)

/-- The calls by which a round drops a socket. -/
inductive DropCall : ControllerCall → Prop
  | notEnd {it : ℕ} : DropCall (.notEnd it)
  | deref {it : ℕ} : DropCall (.deref it)
  | delete {nSocketFD : ℤ} : DropCall (.deviceExec (.deleteBySocketFD nSocketFD))
  | close {nSocketFD : ℤ} : DropCall (.close nSocketFD)
  | printLog {strMsg : Bytes} {strDesc : String} : DropCall (.printLog strMsg strDesc)

/-- The other calls of a round: who is bound is noted and asked, and the center is connected. -/
inductive AskCall : ControllerCall → Prop
  | link {c : ControllerCall} (hc : LinkCall c) : AskCall c
  | select : AskCall (.deviceQuery .selectBound)
  | ask (nSocket : ℤ) (nSequence : Word) :
      AskCall (.clientSend nSocket (formatHeader enquireLinkRequest statusRok nSequence).bytes)
  | center {c : ControllerCall} (hc : CenterRequestCall c) : AskCall c

section Calls

variable {mConfig : Config} {nSocket : ℤ} {nCommand nSequence : Word} {pData : Bytes}

theorem sendCommandtoClient_calls (nStatus : Word) (isResp : Bool) :
    (sendCommandtoClient nSocket nCommand nStatus nSequence isResp).Forall (RequestCall nSocket) :=
  ⟨.answer _ _ _, fun _ => ⟨.center .printPacket, fun _ => trivial⟩⟩

theorem sendCommandtoCenter_calls (nStatus : Word) (isResp : Bool) :
    (sendCommandtoCenter nCommand nStatus nSequence isResp).Forall CenterRequestCall := by
  refine ⟨.isValidSocketFD, fun bValid => ?_⟩
  simp only [Prog.bind_eq, Prog.ret_bind]
  split
  · exact ⟨.getSocketfd, fun nSocketFD => ⟨.command _ _ _ _, fun _ => ⟨.getSocketfd, fun _ =>
      ⟨.printPacket, fun _ => trivial⟩⟩⟩⟩
  · trivial

theorem centerRequest_calls (body strMsg : Bytes) :
    (centerRequest nSocket nCommand body strMsg).Forall CenterRequestCall := by
  refine ⟨.loadSequence, fun _ => ⟨.storeSequence, fun _ => ?_⟩⟩
  simp only [Prog.bind_eq, Prog.ret_bind]
  split
  · exact ⟨.overrun, fun _ => trivial⟩
  · next hfit => exact ⟨.request _ _ _ _ hfit, fun _ => ⟨.printLog, fun _ => trivial⟩⟩

theorem reconnectCenter_calls : (reconnectCenter mConfig).Forall CenterRequestCall := by
  refine ⟨.isValidSocketFD, fun bValid => ?_⟩
  simp only [Prog.bind_eq, Prog.ret_bind]
  split
  · trivial
  -- the connection to the center is gone
  have hconnect : (connectCenter mConfig).Forall CenterRequestCall := by
    unfold connectCenter
    split
    · trivial
    split
    · trivial
    refine ⟨.centerStart, fun _ => ⟨.isValidSocketFD, fun bValid => ?_⟩⟩
    simp only [Prog.bind_eq, Prog.ret_bind]
    split
    · exact ⟨.getSocketfd, fun _ => centerRequest_calls _ _⟩
    · trivial
  exact hconnect.bind fun _ => trivial

theorem ackPacket_calls : (ackPacket nSocket nCommand).Forall LinkCall := by
  unfold ackPacket
  split
  · refine ⟨.load, fun vEnquireLink => ?_⟩
    simp only [Prog.bind_eq, Prog.ret_bind]
    split
    · exact ⟨.store, fun _ => trivial⟩
    · trivial
  · trivial

theorem cmpAccessLog_calls :
    (cmpAccessLog mConfig nSocket nCommand nSequence pData).Forall (RequestCall nSocket) := by
  unfold cmpAccessLog
  dsimp only
  split
  · refine (sendCommandtoClient_calls _ _).bind fun _ => ⟨.center .getSocketfd, fun nSocketFD => ?_⟩
    have hrequest : (cmpAccessLogRequest mConfig nSocketFD ((parseBody nCommand pData).2.get "type")
        ((parseBody nCommand pData).2.get "data")).Forall (RequestCall nSocket) :=
      (centerRequest_calls _ _).mono fun _ hc => .center hc
    exact hrequest.bind fun _ => trivial
  · exact (sendCommandtoClient_calls _ _).bind fun _ => trivial

/-- **What a request does.** It works on the rows of its own socket, answers on it, and sends to the
center. -/
theorem cmpRequest_calls :
    (cmpRequest mConfig nSocket nCommand nSequence pData).Forall (RequestCall nSocket) := by
  apply cmpRequest_cases (P := fun p => p.Forall (RequestCall nSocket))
  case bind =>
    intro _
    unfold cmpBind
    dsimp only
    split
    · refine ⟨.deleteById, fun _ => ⟨.insert, fun _ => ?_⟩⟩
      exact (sendCommandtoClient_calls _ _).bind fun _ => trivial
    · exact (sendCommandtoClient_calls _ _).bind fun _ => trivial
  case unbind =>
    exact fun _ => ⟨.setUnbind, fun _ => (sendCommandtoClient_calls _ _).bind fun _ => trivial⟩
  case accessLog => exact fun _ => cmpAccessLog_calls
  case enquireLink => exact fun _ => (sendCommandtoCenter_calls _ _).mono fun _ hc => .center hc
  case unknow => exact (sendCommandtoClient_calls _ _).bind fun _ => trivial

theorem onCMPWith_calls : (onCMPWith (cmpRequest mConfig) nSocket pData).Forall fun c =>
    RequestCall nSocket c ∨ LinkCall c := by
  refine ⟨.inl (.center .printPacket), fun _ => ?_⟩
  simp only [Prog.bind_eq, Prog.ret_bind]
  split
  · exact ackPacket_calls.mono fun _ hc => .inr hc
  split
  · refine Prog.Forall.bind ?_ fun _ => trivial
    exact (sendCommandtoClient_calls _ _).mono fun _ hc => .inl hc
  · refine Prog.Forall.bind ?_ fun _ => trivial
    exact cmpRequest_calls.mono fun _ hc => .inl hc

theorem dropSocket_calls {it : ℕ} : (dropSocket it).Forall DropCall :=
  ⟨.deref, fun _ => ⟨.delete, fun _ => ⟨.deref, fun _ => ⟨.close, fun _ => ⟨.deref, fun _ =>
    ⟨.printLog, fun _ => trivial⟩⟩⟩⟩⟩⟩

theorem dropSockets_calls {passes it : ℕ} : (dropSockets passes it).Forall DropCall := by
  induction passes generalizing it with
  | zero => trivial
  | succ passes ih =>
    refine ⟨.notEnd, fun bMore => ?_⟩
    simp only [Prog.bind_eq, Prog.ret_bind]
    split
    · exact dropSocket_calls.bind fun _ => ih
    · trivial

theorem enquireSockets_calls (l : List ℤ) : (enquireSockets l).Forall AskCall := by
  induction l with
  | nil => trivial
  | cons nSocketFD rest ih =>
    have hask : (cmpEnquireLinkRequest nSocketFD).Forall AskCall :=
      ⟨.center .loadSequence, fun _ => ⟨.center .storeSequence, fun _ =>
        ⟨.ask _ _, fun _ => ⟨.center .printPacket, fun _ => trivial⟩⟩⟩⟩
    exact ⟨.link .load, fun _ => ⟨.link .store, fun _ => hask.bind fun _ => ih⟩⟩

theorem enquireBound_calls : enquireBound.Forall AskCall := by
  refine ⟨.select, fun listValue => ?_⟩
  simp only [Prog.bind_eq, Prog.ret_bind]
  split
  · exact ⟨.center .printLog, fun _ => enquireSockets_calls listValue⟩
  · trivial

/-- Behind its loop over `vEnquireLink` a round drops nothing. -/
theorem enquireLinkRound_rest_calls : (do
    storeEnquireLink []
    enquireBound
    reconnectCenter mConfig).Forall AskCall :=
  ⟨.link .store, fun _ => enquireBound_calls.bind fun _ =>
    reconnectCenter_calls.mono fun _ hc => .center hc⟩

/-- **The calls of a round.** -/
theorem enquireLinkRound_calls :
    (enquireLinkRound mConfig).Forall fun c => DropCall c ∨ AskCall c := by
  have hcheck : checkEnquireLink.Forall fun c => DropCall c ∨ AskCall c := by
    refine ⟨.inr (.link .load), fun vEnquireLink => ?_⟩
    simp only [Prog.bind_eq, Prog.ret_bind]
    split
    · exact dropSockets_calls.mono fun _ hc => .inl hc
    · trivial
  exact hcheck.bind fun _ => enquireLinkRound_rest_calls.mono fun _ hc => .inr hc

end Calls

end Controller
end ControllerSystem
