import ControllerSystem.Socket.SmsHandler
import ControllerSystem.Sql

/-!
# Reading and writing packets

`CCmpHandler` and `CDataHandler`: the fields of a received packet, the header of a packet to send,
and the fields of a body, put into a map from names to strings.

A received packet is a piece of memory, zero behind its end. `BodyReader` is the common state of the
cases of `parseBody`, the map and the rest of the body, with one operation for each kind of
field: a byte, a 32-bit number, a C string. The cases of the ControlCenter's `parseBody` are in
`ControlCenter.parseBody`.
-/

open Words

namespace ControllerSystem

/-- `SUCCESS`, `FAIL` and `SQLITE_OK`. -/
def success : ℤ := 1
def fail : ℤ := -1
def sqliteOk : ℤ := 0

/-- `SQLITE_ERROR`, for an error without a code of its own: the same number as `SUCCESS`. -/
def sqliteError : ℤ := 1

/-! ### Headers -/

def getCommand (pData : Bytes) : Word := (CmpHeader.ofBytes pData).commandId

def getLength (pData : Bytes) : Word := (CmpHeader.ofBytes pData).commandLength

def getStatus (pData : Bytes) : Word := (CmpHeader.ofBytes pData).commandStatus

def getSequence (pData : Bytes) : Word := (CmpHeader.ofBytes pData).sequenceNumber

/-- `CCmpHandler::formatHeader`. -/
def formatHeader (nCommand nStatus nSequence : Word) : CmpHeader where
  commandLength := .ofNat 32 sizeofCmpHeader
  commandId := nCommand
  commandStatus := nStatus
  sequenceNumber := nSequence

/-- `CCmpHandler::isAckPacket`. -/
def isAckPacket (nCommand : Word) : Bool := genericNack == genericNack &&& nCommand

@[simp] theorem getCommand_append (h : CmpHeader) (m : Bytes) :
    getCommand (h.bytes ++ m) = h.commandId := by
  simp [getCommand]

@[simp] theorem getSequence_append (h : CmpHeader) (m : Bytes) :
    getSequence (h.bytes ++ m) = h.sequenceNumber := by
  simp [getSequence]

@[simp] theorem getStatus_append (h : CmpHeader) (m : Bytes) :
    getStatus (h.bytes ++ m) = h.commandStatus := by
  simp [getStatus]

@[simp] theorem getCommand_bytes (h : CmpHeader) : getCommand h.bytes = h.commandId := by
  simpa using getCommand_append h []

@[simp] theorem getSequence_bytes (h : CmpHeader) : getSequence h.bytes = h.sequenceNumber := by
  simpa using getSequence_append h []

@[simp] theorem getStatus_bytes (h : CmpHeader) : getStatus h.bytes = h.commandStatus := by
  simpa using getStatus_append h []

theorem isAckPacket_or (nCommand : Word) : isAckPacket (genericNack ||| nCommand) = true := by
  have habs : genericNack &&& (genericNack ||| nCommand) = genericNack := by
    ext i hi
    simp only [BitVec.getElem_and, BitVec.getElem_or]
    -- bit by bit this is absorption
    cases genericNack[i] <;> simp
  simp [isAckPacket, habs]

/-! ### The map of fields -/

/-- `MAX_SIZE`. -/
def maxSize : ℕ := 2048

/-- `isValidStr`. -/
def isValidStr (szStr : Bytes) (nMaxSize : ℕ) : Bool := 0 < strlen szStr && strlen szStr < nMaxSize

/-- `CDataHandler<std::string>`, a map with one value for each name. -/
abbrev CDataHandler := List (String × Bytes)

namespace CDataHandler

/-- `setData` with a `std::string` value. -/
def setData (m : CDataHandler) (szName : String) (tValue : Bytes) : CDataHandler :=
  (szName, tValue) :: m.filter fun e => e.1 != szName

/-- `setData` with a C string, which is stored only when it is valid. -/
def setDataStr (m : CDataHandler) (szName : String) (szValue : Bytes) : CDataHandler :=
  if isValidStr szValue maxSize then m.setData szName (cstr szValue) else m

/-- `operator[]`; a missing name reads as the empty string. -/
def get (m : CDataHandler) (szName : String) : Bytes := (m.lookup szName).getD []

def isValidKey (m : CDataHandler) (szName : String) : Bool := (m.lookup szName).isSome

def size (m : CDataHandler) : ℤ := m.length

end CDataHandler

/-! ### Numbers as text -/

/-- The value of a run of decimal digits. -/
def digitsValue (ds : Bytes) : ℕ := ds.foldl (fun n d => 10 * n + (d.toNat - 48)) 0

/-- `convertFromString` for an `int`: white space, a sign, digits. Without digits the value
becomes 0, and a number out of range becomes the nearest `int`. -/
def convertFromString (s : Bytes) : ℤ :=
  let s := s.dropWhile fun c => c == 32 || (9 ≤ c && c ≤ 13)
  let negative := s.head? == some 45
  let s := if negative || s.head? == some 43 then s.drop 1 else s
  -- what comes behind the digits is not looked at
  let n : ℤ := digitsValue (s.takeWhile fun c => 48 ≤ c && c ≤ 57)
  max (-2147483648) (min 2147483647 (if negative then -n else n))

/-- `trim`. -/
def trim (strSource : Bytes) : Bytes :=
  let blank := fun c : UInt8 => c == 32 || c == 10 || c == 13 || c == 9
  ((strSource.dropWhile blank).reverse.dropWhile blank).reverse

/-! ### Bodies -/

/-- The state of `parseBody` in a case: the fields stored so far and the rest of the body. -/
structure BodyReader where
  rData : CDataHandler
  pBody : Bytes

namespace BodyReader

/-- A C string: stored when valid, otherwise the reader stays where it is. -/
def takeStr (r : BodyReader) (szName : String) : BodyReader :=
  if isValidStr r.pBody maxSize then
    -- the reader steps over the zero byte behind the string
    ⟨r.rData.setDataStr szName (cstr r.pBody), r.pBody.drop (strlen r.pBody + 1)⟩
  else r

/-- A single byte, stored as a string of one character. -/
def takeByte (r : BodyReader) (szName : String) : BodyReader :=
  ⟨r.rData.setDataStr szName (r.pBody.take 1), r.pBody.drop 1⟩

/-- A 32-bit number, stored in decimal. -/
def takeInt (r : BodyReader) (szName : String) : BodyReader :=
  ⟨r.rData.setData szName (convertToString (wordAt r.pBody 0).toInt), r.pBody.drop 4⟩

end BodyReader

/-- The frame of `parseBody`: the cases see the body of a packet whose announced length leaves
room for one. The first component is the result of the call, the number of fields or -1. -/
def parseBodyWith (fields : BodyReader → BodyReader) (pData : Bytes) : ℤ × CDataHandler :=
  if 0 < nBodyLen (CmpHeader.ofBytes pData) then
    let r := fields ⟨[], pData.drop sizeofCmpHeader⟩
    -- `rData.size()`: a field that was not stored is not counted
    (r.rData.size, r.rData)
  else (-1, [])

namespace ControlCenter

/-- The cases of `CCmpHandler::parseBody` in the ControlCenter. -/
def bodyFields (nCommand : Word) (r : BodyReader) : BodyReader :=
  if nCommand = bindRequest then r.takeStr "id"
  else if nCommand = powerPortSetRequest then
    (((r.takeByte "wire").takeByte "port").takeByte "state").takeStr "controller"
  else if nCommand = powerPortStateRequest then (r.takeByte "wire").takeStr "controller"
  else if nCommand = accessLogRequest then (r.takeInt "type").takeStr "data"
  else if nCommand = initialRequest then r.takeInt "type"
  else if nCommand = signUpRequest then (r.takeInt "type").takeStr "data"
  else if nCommand = mdmLoginRequest then (r.takeStr "account").takeStr "password"
  else if nCommand = mdmOperateRequest then r.takeStr "token"
  else if nCommand = sdkTrackerRequest then r.takeStr "data"
  else r

/-- `CCmpHandler::parseBody` of the ControlCenter. -/
def parseBody (nCommand : Word) (pData : Bytes) : ℤ × CDataHandler :=
  parseBodyWith (bodyFields nCommand) pData

end ControlCenter
end ControllerSystem
