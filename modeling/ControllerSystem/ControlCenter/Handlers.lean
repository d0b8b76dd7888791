import ControllerSystem.CmpHandler
import ControllerSystem.Lib.Calls

/-!
# The packet handlers of the ControlCenter

`CControlCenter::onCMP` and what it dispatches to, and one round of the keep-alive thread
(`runEnquireLinkRequest`), as programs that make calls. A call is a use of something the handlers
share with other threads or with the world: the databases, the sockets, the log, the counter of
sequence numbers, and the vector `vEnquireLink`. What a call returns is left to the environment,
so the handlers are complete with their branches for every failure.

The log lines of `printPacket` and `printLog` are calls as well. The debug output of `_DBG` is
left out.

* `onCMP` — a packet that arrived from a client;
* `cmpRequest` — the table of handlers;
* `enquireLinkRound` — one pass through the loop of the keep-alive thread.
-/

open Words Calls

namespace ControllerSystem.ControlCenter

/-! ### Calls -/

/-- The strings of a JSON object: the text of a field, if it is there and is a string. -/
abbrev JsonStrings := Bytes → Option Bytes

/-- The calls of the ControlCenter's threads. -/
inductive CenterCall
  /-- `sqlite3_exec` on the controller database. -/
  | controllerExec (sql : ControllerSql)
  /-- A query for one column of numbers on the controller database. -/
  | controllerQuery (sql : ControllerSql)
  /-- A query for one column of texts on the MDM database. -/
  | mdmQuery (szSql : Bytes)
  /-- `sqlite3_exec` on the ideas database. -/
  | ideasExec (szSql : Bytes)
  /-- A query for one column of texts on the ideas database. -/
  | ideasQuery (szSql : Bytes)
  /-- `CMongoDBHandler::insert`. -/
  | mongoInsert (strDB strCollection strData : Bytes)
  /-- `cJSON_Parse`. -/
  | jsonParse (strJSON : Bytes)
  | socketSend (nSockFD : ℤ) (pBuf : Bytes)
  | close (nSockFD : ℤ)
  /-- Read the counter `msnSequence`. -/
  | loadSequence
  | storeSequence (n : ℤ)
  /-- Read the vector `vEnquireLink`. -/
  | loadEnquireLink
  | storeEnquireLink (v : List ℤ)
  /-- `it != vEnquireLink.end()`, for the iterator at a position. -/
  | notEnd (it : ℕ)
  /-- `*it`. Behind the last entry, C++ does not say what is read. -/
  | deref (it : ℕ)
  | printPacket (nCommand nStatus nSequence : Word) (nLength : ℤ) (strDesc : String) (nClientFD : ℤ)
  | printLog (strMsg : Bytes) (strDesc : String)
  /-- Read through an iterator whose element has been erased; C++ does not say what is read. -/
  | derefErased
  /-- A write behind the end of `CMP_BODY.cmpdata`. -/
  | overrun
  deriving DecidableEq

/-- What the calls return. -/
abbrev CenterCall.Res : CenterCall → Type
  | controllerExec _ => ℤ
  | controllerQuery _ => List ℤ
  | mdmQuery _ => List Bytes
  | ideasExec _ => ℤ
  | ideasQuery _ => List Bytes
  | mongoInsert _ _ _ => Bytes
  | jsonParse _ => Option JsonStrings
  | socketSend _ _ => ℤ
  | close _ => Unit
  | loadSequence => ℤ
  | storeSequence _ => Unit
  | loadEnquireLink => List ℤ
  | storeEnquireLink _ => Unit
  | notEnd _ => Bool
  | deref _ => ℤ
  | printPacket _ _ _ _ _ _ => Unit
  | printLog _ _ => Unit
  | derefErased => ℤ
  | overrun => Unit

/-- The programs of the ControlCenter. -/
abbrev CenterProg (α : Type) := Prog CenterCall CenterCall.Res α

/-- The calls of an execution, with their results. -/
abbrev CenterEvent := Prog.Event CenterCall CenterCall.Res

/-- The packet a call sends, with its socket. -/
def sent : CenterEvent → Option (ℤ × Bytes)
  | ⟨.socketSend nSockFD pBuf, _⟩ => some (nSockFD, pBuf)
  | _ => none

abbrev controllerExec (sql : ControllerSql) : CenterProg ℤ := .call (.controllerExec sql) .ret

abbrev controllerQuery (sql : ControllerSql) : CenterProg (List ℤ) :=
  .call (.controllerQuery sql) .ret

abbrev mdmQuery (szSql : Bytes) : CenterProg (List Bytes) := .call (.mdmQuery szSql) .ret

abbrev ideasExec (szSql : Bytes) : CenterProg ℤ := .call (.ideasExec szSql) .ret

abbrev ideasQuery (szSql : Bytes) : CenterProg (List Bytes) := .call (.ideasQuery szSql) .ret

abbrev mongoInsert (strDB strCollection strData : Bytes) : CenterProg Bytes :=
  .call (.mongoInsert strDB strCollection strData) .ret

abbrev jsonParse (strJSON : Bytes) : CenterProg (Option JsonStrings) :=
  .call (.jsonParse strJSON) .ret

abbrev socketSend (nSockFD : ℤ) (pBuf : Bytes) : CenterProg ℤ :=
  .call (.socketSend nSockFD pBuf) .ret

abbrev close (nSockFD : ℤ) : CenterProg Unit := .call (.close nSockFD) .ret

abbrev loadSequence : CenterProg ℤ := .call .loadSequence .ret

abbrev storeSequence (n : ℤ) : CenterProg Unit := .call (.storeSequence n) .ret

abbrev loadEnquireLink : CenterProg (List ℤ) := .call .loadEnquireLink .ret

abbrev storeEnquireLink (v : List ℤ) : CenterProg Unit := .call (.storeEnquireLink v) .ret

abbrev notEnd (it : ℕ) : CenterProg Bool := .call (.notEnd it) .ret

abbrev deref (it : ℕ) : CenterProg ℤ := .call (.deref it) .ret

abbrev printPacket (nCommand nStatus nSequence : Word) (nLength : ℤ) (strDesc : String)
    (nClientFD : ℤ) : CenterProg Unit :=
  .call (.printPacket nCommand nStatus nSequence nLength strDesc nClientFD) .ret

abbrev printLog (strMsg : Bytes) (strDesc : String) : CenterProg Unit :=
  .call (.printLog strMsg strDesc) .ret

abbrev derefErased : CenterProg ℤ := .call .derefErased .ret

abbrev overrun : CenterProg Unit := .call .overrun .ret

/-! ### Shared functions -/

/-- The step of the sequence counter in `getSequence`. -/
def sequenceAfter (msnSequence : ℤ) : ℤ :=
  -- the counter starts again at 1 below the largest `int`
  if 0x7FFFFFFF ≤ msnSequence + 1 then 1 else msnSequence + 1

/-- `getSequence`. -/
def nextSequence : CenterProg ℤ := do
  let msnSequence ← loadSequence
  storeSequence (sequenceAfter msnSequence)
  pure (sequenceAfter msnSequence)

/-- `CSqliteHandler::controllerSqlExec`. A result other than `SQLITE_OK` is returned as it is. -/
def controllerSqlExec (sql : ControllerSql) : CenterProg ℤ := do
  let nRet ← controllerExec sql
  pure (if nRet = sqliteOk then success else nRet)

/-- `CSqliteHandler::ideasSqlExec`. -/
def ideasSqlExec (szSql : Bytes) : CenterProg ℤ := do
  let nRet ← ideasExec szSql
  pure (if nRet = sqliteOk then success else nRet)

/-- `CControlCenter::sendCommand`. -/
def sendCommand (nSocket : ℤ) (nCommand nStatus nSequence : Word) (isResp : Bool) :
    CenterProg ℤ := do
  let nCommandSend := if isResp then genericNack ||| nCommand else nCommand
  let nRet ← socketSend nSocket (formatHeader nCommandSend nStatus nSequence).bytes
  printPacket nCommandSend nStatus nSequence nRet "[Center Send]" nSocket
  pure nRet

/-- `CControlCenter::cmpResponse`. The data and its final zero byte are copied into `cmpdata`
without a look at their length; a program that overruns the array is followed no further. -/
def cmpResponse (nSocket : ℤ) (nCommandId nSequence : Word) (szData : Bytes) : CenterProg ℤ :=
  if maxDataLen < strlen szData + 1 then do
    overrun
    pure (-1)
  else do
    let header := { formatHeader nCommandId statusRok nSequence with
      commandLength := .ofNat 32 (sizeofCmpHeader + (strlen szData + 1)) }
    let nRet ← socketSend nSocket (header.bytes ++ (cstr szData ++ [0]))
    printPacket nCommandId statusRok nSequence nRet "[Center]" nSocket
    if nRet ≤ 0 then
      printLog (ascii "CMP Response fail, socket:" ++ convertToString nSocket) "[Center]"
    else
      printLog (ascii "CMP Response success, data:" ++ cstr szData) "[Center]"
    pure nRet

/-- The common part of the requests forwarded to a controller: a header and the first bytes of
some strings. -/
def forwardRequest (nSocket : ℤ) (nCommand : Word) (fields : List Bytes) (strMsg : Bytes) :
    CenterProg ℤ := do
  let nSequence ← nextSequence
  let header := { formatHeader nCommand statusRok (.ofInt 32 nSequence) with
    commandLength := .ofNat 32 (sizeofCmpHeader + fields.length) }
  -- `memcpy( pIndex, strWire.c_str(), 1 )`: of an empty string this is its final zero byte
  let nRet ← socketSend nSocket (header.bytes ++ fields.map fun f => f.headD 0)
  printLog (strMsg ++ convertToString nSocket) "[Center]"
  pure nRet

/-- `CControlCenter::cmpPowerPortRequest`. -/
def cmpPowerPortRequest (nSocket : ℤ) (strWire strPort strState : Bytes) : CenterProg ℤ :=
  forwardRequest nSocket powerPortSetRequest [strWire, strPort, strState]
    (ascii "Power Port Request to SocketFD:")

/-- `CControlCenter::cmpPowerPortStateRequest`. -/
def cmpPowerPortStateRequest (nSocket : ℤ) (strWire : Bytes) : CenterProg ℤ :=
  forwardRequest nSocket powerPortStateRequest [strWire]
    (ascii "Power Port State Request to SocketFD:")

/-- `CControlCenter::getControllerSocketFD`. -/
def getControllerSocketFD (strControllerID : Bytes) : CenterProg ℤ := do
  let listValue ← controllerQuery (.selectSocketFDById strControllerID)
  -- the first of the rows that match
  pure (listValue.headD fail)

/-- `CAccessLog::insertLog`; the result is empty when nothing was stored. -/
def insertLog (nType : ℤ) (strData : Bytes) : CenterProg Bytes :=
  if nType = typeMobileTracker then mongoInsert (ascii "access") (ascii "mobile") strData
  else if nType = typePowerStation then mongoInsert (ascii "access") (ascii "power") strData
  else if nType = typeSdkTracker then mongoInsert (ascii "access") (ascii "sdk") strData
  else do
    printLog (ascii "Insert Access log fail, unknow service type") "[AccessLog]"
    pure []

/-- A log of a known type goes into the collection of its type. -/
theorem insertLog_cases {nType : ℤ} {strData : Bytes} {P : CenterProg Bytes → Prop}
    (known : nType ∈ [typeMobileTracker, typePowerStation, typeSdkTracker] →
      ∀ strCollection, P (mongoInsert (ascii "access") strCollection strData))
    (unknown : nType ∉ [typeMobileTracker, typePowerStation, typeSdkTracker] → P (do
      printLog (ascii "Insert Access log fail, unknow service type") "[AccessLog]"
      pure [])) : P (insertLog nType strData) := by
  refine iteInduction (fun htype => known ?_ _) fun hmobile =>
    iteInduction (fun htype => known ?_ _) fun hpower =>
      iteInduction (fun htype => known ?_ _) fun hsdk => unknown ?_
  · simp [htype]
  · simp [htype]
  · simp [htype]
  · simp [hmobile, hpower, hsdk]

/-- `CMdmHandler::login`; the result is empty without a matching row. -/
def login (strAccount strPassword : Bytes) : CenterProg Bytes := do
  let listValue ← mdmQuery (CMdmHandler.loginSql strAccount strPassword)
  pure (listValue.headD [])

/-- `CInitial::getInitData`. -/
def getInitData (nType : ℤ) : Bytes :=
  if nType = typeMobileTracker then
    ascii "\x7b\"server\": [\x7b\"id\": 0,\"name\": \"startTrack\",\"ip\": \"54.199.198.94\"," ++
      ascii "\"port\": 6607\t\x7d,\t\x7b\"id\": 1,\"name\": \"tracker\"," ++
      ascii "\"ip\": \"54.199.198.94\",\"port\": 6607\t\x7d]\x7d"
  else []

/-- `CSignup::isExist`. -/
def isExist (strId : Bytes) : CenterProg Bool := do
  let listValue ← ideasQuery (CSignup.isExistSql strId)
  pure (0 < listValue.length)

/-- The results of `CSignup::insert`. -/
def insertFail : ℤ := 0
def insertSuccess : ℤ := 1
def recordExist : ℤ := 2

/-- The strings of a sign-up: `id` and `app_id` have been found, the others are optional. -/
def signupUser (root : JsonStrings) (strId strAppId : Bytes) : CSignup.User where
  strId := strId
  strAppId := strAppId
  strMac := (root (ascii "mac")).getD []
  strOs := (root (ascii "os")).getD []
  strPhone := (root (ascii "phone")).getD []
  strFbId := (root (ascii "fb_id")).getD []
  strFbName := (root (ascii "fb_name")).getD []
  strFbEmail := (root (ascii "fb_email")).getD []
  strFbAccount := (root (ascii "fb_account")).getD []
  strGAccount := (root (ascii "g_account")).getD []
  strTAccount := (root (ascii "t_account")).getD []

/-- `CSignup::insert`; the log path is set. -/
def signupInsert (strJSON : Bytes) : CenterProg ℤ :=
  if strJSON = [] then pure insertFail
  else do
    match ← jsonParse strJSON with
    | some root =>
      match root (ascii "id") with
      | some strId =>
        -- an existing record is no failure: its result is not `INSERT_FAIL`
        if ← isExist strId then pure recordExist
        else
          match root (ascii "app_id") with
          | some strAppId =>
            let nRet ← ideasSqlExec (CSignup.insertSql (signupUser root strId strAppId))
            pure (if nRet = success then insertSuccess else insertFail)
          | none =>
            printLog (ascii "Invalid app_id , " ++ strJSON) "[Sign up Parse Fail]"
            pure insertFail
      | none =>
        printLog (ascii "Invalid id , " ++ strJSON) "[Sign up Parse Fail]"
        pure insertFail
    | none =>
      printLog strJSON "[Sign up Parse Fail]"
      pure insertFail

/-! ### The handlers -/

section Handlers

variable (nSocket : ℤ) (nCommand nSequence : Word) (pData : Bytes)

/-- `CControlCenter::cmpUnknow`. -/
def cmpUnknow : CenterProg ℤ := do
  let _ ← sendCommand nSocket nCommand statusRinvcmdid nSequence true
  pure 0

/-- `CControlCenter::cmpBind`. -/
def cmpBind : CenterProg ℤ := do
  let (nRet, rData) := parseBody nCommand pData
  if 0 < nRet then
    let nRet ← controllerSqlExec (.deleteById (rData.get "id"))
    if nRet = success then
      let nRet ← controllerSqlExec (.insert (rData.get "id") nSocket)
      if nRet = success then
        let _ ← sendCommand nSocket nCommand statusRok nSequence true
        return nRet
  -- an empty body, and a failure of either statement; the row may be gone by then
  let _ ← sendCommand nSocket nCommand statusRinvctrlid nSequence true
  return fail

/-- `CControlCenter::cmpUnbind`. -/
def cmpUnbind : CenterProg ℤ := do
  let _ ← sendCommand nSocket nCommand statusRok nSequence true
  pure 0

/-- `CControlCenter::cmpPowerPort`. -/
def cmpPowerPort : CenterProg ℤ := do
  let (nRet, rData) := parseBody nCommand pData
  if 0 < nRet ∧ rData.isValidKey "wire" ∧ rData.isValidKey "port" ∧ rData.isValidKey "state" ∧
      rData.isValidKey "controller" then
    -- the client is told `STATUS_ROK` before the controller has been looked up
    let _ ← sendCommand nSocket nCommand statusRok nSequence true
    let nFD ← getControllerSocketFD (rData.get "controller")
    if 0 < nFD then
      let _ ← cmpPowerPortRequest nFD (rData.get "wire") (rData.get "port") (rData.get "state")
      pure 0
    else pure 0
  else
    let _ ← sendCommand nSocket nCommand statusRinvbody nSequence true
    pure 0

/-- `CControlCenter::cmpPowerPortState`. -/
def cmpPowerPortState : CenterProg ℤ := do
  let (nRet, rData) := parseBody nCommand pData
  if 0 < nRet ∧ rData.isValidKey "wire" ∧ rData.isValidKey "controller" then
    let nFD ← getControllerSocketFD (rData.get "controller")
    if 0 < nFD then
      let nSend ← cmpPowerPortStateRequest nFD (rData.get "wire")
      if 0 < nSend then
        -- a fixed text; the controller's own answer is not waited for
        let _ ← cmpResponse nSocket powerPortStateResponse nSequence
          (ascii "\x7b\"count\":1,\"wires\":[\x7b\"wire\":1,\"state\": \"1111\"\x7d]\x7d")
        pure 0
      else
        let _ ← sendCommand nSocket nCommand statusRppstafail nSequence true
        pure 0
    else
      let _ ← sendCommand nSocket nCommand statusRsyserr nSequence true
      pure 0
  else
    let _ ← sendCommand nSocket nCommand statusRinvbody nSequence true
    pure 0

/-- `CControlCenter::cmpAccessLog`. -/
def cmpAccessLog : CenterProg ℤ := do
  let (nRet, rData) := parseBody nCommand pData
  if 0 < nRet ∧ rData.isValidKey "type" ∧ rData.isValidKey "data" then
    printLog (rData.get "type" ++ ascii "," ++ rData.get "data") "[Center Recv Body]"
    let strOID ← insertLog (convertFromString (rData.get "type")) (rData.get "data")
    if strOID = [] then
      let _ ← sendCommand nSocket nCommand statusRinvbody nSequence true
      printLog (ascii "Insert Access Log Fail: " ++ rData.get "data") "[Center]"
      pure 0
    else
      let _ ← sendCommand nSocket nCommand statusRok nSequence true
      printLog (ascii "Insert Access Log Success: " ++ rData.get "data" ++ ascii " OID:" ++ strOID)
        "[Center]"
      pure 0
  else
    let _ ← sendCommand nSocket nCommand statusRinvbody nSequence true
    pure 0

/-- `CControlCenter::cmpInitial`. -/
def cmpInitial : CenterProg ℤ := do
  let (nRet, rData) := parseBody nCommand pData
  if 0 < nRet ∧ rData.isValidKey "type" then
    printLog (rData.get "type") "[Center Recv Body]"
    let strData := getInitData (convertFromString (rData.get "type"))
    if strData = [] then
      let _ ← sendCommand nSocket nCommand statusRsyserr nSequence true
      pure nRet
    else
      let _ ← cmpResponse nSocket initialResponse nSequence strData
      pure nRet
  else
    let _ ← sendCommand nSocket nCommand statusRinvbody nSequence true
    pure nRet

/-- `CControlCenter::cmpSdkTracker`. -/
def cmpSdkTracker : CenterProg ℤ := do
  let (nRet, rData) := parseBody nCommand pData
  if 0 < nRet ∧ rData.isValidKey "data" then
    let _ ← sendCommand nSocket nCommand statusRok nSequence true
    let strOID ← insertLog typeSdkTracker (rData.get "data")
    if strOID = [] then
      printLog (ascii "Insert SDK Tracker Log Fail: " ++ rData.get "data") "[Center]"
      pure nRet
    else
      printLog (ascii "Insert SDK Tracker Success: " ++ rData.get "data" ++ ascii " OID:" ++ strOID)
        "[Center]"
      pure nRet
  else
    let _ ← sendCommand nSocket nCommand statusRinvbody nSequence true
    pure nRet

/-- `CControlCenter::cmpSignup`. -/
def cmpSignup : CenterProg ℤ := do
  let (nRet, rData) := parseBody nCommand pData
  if 0 < nRet ∧ rData.isValidKey "type" ∧ rData.isValidKey "data" then
    printLog (rData.get "type" ++ ascii "," ++ rData.get "data") "[Center Recv Body]"
    let nInsert ← signupInsert (rData.get "data")
    let _ ← sendCommand nSocket nCommand
      (if nInsert ≠ insertFail then statusRok else statusRsyserr) nSequence true
    pure nRet
  else
    let _ ← sendCommand nSocket nCommand statusRinvbody nSequence true
    pure nRet

/-- `CControlCenter::cmpMdmLogin`. -/
def cmpMdmLogin : CenterProg ℤ := do
  let (nRet, rData) := parseBody nCommand pData
  if 0 < nRet ∧ rData.isValidKey "account" ∧ rData.isValidKey "password" then
    printLog (rData.get "account" ++ ascii "," ++ rData.get "password") "[Center Recv Body]"
    let strLogin ← login (rData.get "account") (rData.get "password")
    let strToken := trim strLogin
    if strToken = [] then
      let _ ← sendCommand nSocket nCommand statusRmdmloginfail nSequence true
      pure fail
    else cmpResponse nSocket mdmLoginResponse nSequence strToken
  else
    let _ ← sendCommand nSocket nCommand statusRinvbody nSequence true
    pure nRet

/-- `CControlCenter::cmpMdmOperate`. The answer goes out as an `mdm_login_response`. -/
def cmpMdmOperate : CenterProg ℤ := do
  let (nRet, rData) := parseBody nCommand pData
  if 0 < nRet ∧ rData.isValidKey "token" then
    printLog (rData.get "token") "[Center Recv Body]"
    cmpResponse nSocket mdmLoginResponse nSequence (ascii "opreate_json")
  else
    let _ ← sendCommand nSocket nCommand statusRinvbody nSequence true
    pure nRet

/-- The table `cmpRequest`. -/
def cmpRequest : CenterProg ℤ :=
  if nCommand = bindRequest then cmpBind nSocket nCommand nSequence pData
  else if nCommand = unbindRequest then cmpUnbind nSocket nCommand nSequence
  else if nCommand = powerPortSetRequest then cmpPowerPort nSocket nCommand nSequence pData
  else if nCommand = powerPortStateRequest then cmpPowerPortState nSocket nCommand nSequence pData
  else if nCommand = accessLogRequest then cmpAccessLog nSocket nCommand nSequence pData
  else if nCommand = initialRequest then cmpInitial nSocket nCommand nSequence pData
  else if nCommand = signUpRequest then cmpSignup nSocket nCommand nSequence pData
  else if nCommand = mdmLoginRequest then cmpMdmLogin nSocket nCommand nSequence pData
  else if nCommand = mdmOperateRequest then cmpMdmOperate nSocket nCommand nSequence pData
  else if nCommand = sdkTrackerRequest then cmpSdkTracker nSocket nCommand nSequence pData
  -- the constructor fills the table with `cmpUnknow` first
  else cmpUnknow nSocket nCommand nSequence

end Handlers

/-- What holds of the entry of each command, holds of the table. -/
theorem cmpRequest_cases {nSocket : ℤ} {nCommand nSequence : Word} {pData : Bytes}
    {P : CenterProg ℤ → Prop}
    (bind : nCommand = bindRequest → P (cmpBind nSocket nCommand nSequence pData))
    (unbind : nCommand = unbindRequest → P (cmpUnbind nSocket nCommand nSequence))
    (powerPortSet : nCommand = powerPortSetRequest →
      P (cmpPowerPort nSocket nCommand nSequence pData))
    (powerPortState : nCommand = powerPortStateRequest →
      P (cmpPowerPortState nSocket nCommand nSequence pData))
    (accessLog : nCommand = accessLogRequest → P (cmpAccessLog nSocket nCommand nSequence pData))
    (initial : nCommand = initialRequest → P (cmpInitial nSocket nCommand nSequence pData))
    (signUp : nCommand = signUpRequest → P (cmpSignup nSocket nCommand nSequence pData))
    (mdmLogin : nCommand = mdmLoginRequest → P (cmpMdmLogin nSocket nCommand nSequence pData))
    (mdmOperate : nCommand = mdmOperateRequest →
      P (cmpMdmOperate nSocket nCommand nSequence pData))
    (sdkTracker : nCommand = sdkTrackerRequest →
      P (cmpSdkTracker nSocket nCommand nSequence pData))
    (unknow : P (cmpUnknow nSocket nCommand nSequence)) :
    P (cmpRequest nSocket nCommand nSequence pData) := by
  refine iteInduction bind fun _ => iteInduction unbind fun _ => ?_
  refine iteInduction powerPortSet fun _ => iteInduction powerPortState fun _ => ?_
  refine iteInduction accessLog fun _ => iteInduction initial fun _ => ?_
  refine iteInduction signUp fun _ => iteInduction mdmLogin fun _ => ?_
  exact iteInduction mdmOperate fun _ => iteInduction sdkTracker fun _ => unknow

section Entries

variable {nSocket : ℤ} {nSequence : Word} {pData : Bytes}

theorem cmpRequest_bindRequest : cmpRequest nSocket bindRequest nSequence pData =
    cmpBind nSocket bindRequest nSequence pData := by
  rw [cmpRequest, if_pos rfl]

theorem cmpRequest_unbindRequest : cmpRequest nSocket unbindRequest nSequence pData =
    cmpUnbind nSocket unbindRequest nSequence := by
  rw [cmpRequest, if_neg (by decide), if_pos rfl]

theorem cmpRequest_powerPortSetRequest : cmpRequest nSocket powerPortSetRequest nSequence pData =
    cmpPowerPort nSocket powerPortSetRequest nSequence pData := by
  rw [cmpRequest, if_neg (by decide), if_neg (by decide), if_pos rfl]

theorem cmpRequest_powerPortStateRequest :
    cmpRequest nSocket powerPortStateRequest nSequence pData =
      cmpPowerPortState nSocket powerPortStateRequest nSequence pData := by
  rw [cmpRequest, if_neg (by decide), if_neg (by decide), if_neg (by decide), if_pos rfl]

end Entries

/-- `CControlCenter::ackPacket`. Only an enquire-link response does anything: the first entry of
its socket leaves `vEnquireLink`. The log line is made from the iterator of that entry, behind
the `erase`. -/
def ackPacket (nClientSocketFD : ℤ) (nCommand : Word) : CenterProg Unit :=
  if nCommand = enquireLinkResponse then do
    let vEnquireLink ← loadEnquireLink
    if nClientSocketFD ∈ vEnquireLink then
      storeEnquireLink (vEnquireLink.erase nClientSocketFD)
      let nSocketFD ← derefErased
      printLog (ascii "Keep alive Socket FD = " ++ convertToString nSocketFD) "[Center]"
    else pure ()
  else pure ()

/-- `CControlCenter::onCMP`. -/
def onCMP (nClientFD : ℤ) (pData : Bytes) : CenterProg Unit := do
  let nCommand := getCommand pData
  let nSequence := getSequence pData
  printPacket nCommand (getStatus pData) nSequence (getLength pData).toInt "[Center Recv]" nClientFD
  if isAckPacket nCommand then ackPacket nClientFD nCommand
  -- the table has entries up to 0xFF
  else if 0xFF < nCommand.toInt then
    let _ ← sendCommand nClientFD nCommand statusRinvcmdid nSequence true
  else
    let _ ← cmpRequest nClientFD nCommand nSequence pData

/-- A request the table has an entry for is in the log first, and then with its handler. -/
theorem onCMP_request {nClientFD : ℤ} {pData : Bytes}
    (hack : isAckPacket (getCommand pData) = false) (hentry : ¬ 0xFF < (getCommand pData).toInt) :
    onCMP nClientFD pData = (do
      printPacket (getCommand pData) (getStatus pData) (getSequence pData)
        (getLength pData).toInt "[Center Recv]" nClientFD
      let _ ← cmpRequest nClientFD (getCommand pData) (getSequence pData) pData) := by
  have hno : ¬ isAckPacket (getCommand pData) := by
    rw [hack]
    exact Bool.false_ne_true
  simp only [onCMP, if_neg hno, if_neg hentry]

/-! ### The keep-alive thread -/

/-- `CControlCenter::getBindSocket`. -/
def getBindSocket : CenterProg (List ℤ) := controllerQuery .selectBound

/-- `CControlCenter::cmpEnquireLinkRequest`. -/
def cmpEnquireLinkRequest (nSocketFD : ℤ) : CenterProg ℤ := do
  let nSequence ← nextSequence
  sendCommand nSocketFD enquireLinkRequest statusRok (.ofInt 32 nSequence) false

/-- A pass of the loop over `vEnquireLink`: drop the socket the iterator is at. The iterator is a
position, and each use of it looks into the vector anew, from which the message loop erases entries
meanwhile. -/
def dropSocket (it : ℕ) : CenterProg Unit := do
  let nSocketFD ← deref it
  -- nobody looks at the result
  let _ ← controllerSqlExec (.deleteBySocketFD nSocketFD)
  let nSocketFD ← deref it
  close nSocketFD
  let nSocketFD ← deref it
  printLog (ascii "Dropped connection, Close socket file descriptor filedes = " ++
    convertToString nSocketFD) "[Center]"

/-- The loop over `vEnquireLink`. Nobody adds an entry meanwhile, so an iterator that stays in the
vector is at its end before the passes are used up. -/
def dropSockets : ℕ → ℕ → CenterProg Unit
  | 0, _ => pure ()
  | passes + 1, it => do
    if ← notEnd it then
      dropSocket it
      dropSockets passes (it + 1)
    else pure ()

/-- Whoever is still on the list has not answered since the last round. -/
def checkEnquireLink : CenterProg Unit := do
  let vEnquireLink ← loadEnquireLink
  if 0 < vEnquireLink.length then dropSockets (vEnquireLink.length + 1) 0
  else pure ()

/-- The loop over the bound sockets: note each socket and ask it. -/
def enquireSockets : List ℤ → CenterProg Unit
  | [] => pure ()
  | nSocketFD :: rest => do
    let vEnquireLink ← loadEnquireLink
    -- `push_back` comes before the request is sent
    storeEnquireLink (vEnquireLink ++ [nSocketFD])
    let _ ← cmpEnquireLinkRequest nSocketFD
    enquireSockets rest

/-- Whoever is bound is noted and asked. -/
def enquireBound : CenterProg Unit := do
  let listValue ← getBindSocket
  if 0 < listValue.length then
    printLog (ascii "Run Enquire Link Request") "[Center]"
    enquireSockets listValue
  else pure ()

/-- One pass through the loop of `CControlCenter::runEnquireLinkRequest`, behind the sleep. -/
def enquireLinkRound : CenterProg Unit := do
  checkEnquireLink
  storeEnquireLink []
  enquireBound

end ControllerSystem.ControlCenter
