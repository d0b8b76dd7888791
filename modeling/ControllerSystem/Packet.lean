import ControllerSystem.Lib.Words

/-!
# CMP packets

The Controller Message Protocol of `global_inc/packet.h`: the header of four 32-bit words, the
command and status codes, and the packet as header and body.

`CmpPacket` is a packet whose `command_length` is its real size and whose body fits the body
array; `CmpPacket.image` is the `CMP_PACKET` structure in memory after it was received into
zeroed memory. A header is written to the wire by `CmpHeader.bytes`, and `CmpHeader.ofBytes` reads
it back from the front of whatever it stands before (`CmpHeader.ofBytes_bytes`).

The header fields are read with `ntohl` and written with `htonl` throughout, so a header is kept
here in host order and the two conversions are part of reading and writing its bytes.
-/

open Words

namespace ControllerSystem

/-! ### Sizes and codes -/

/-- `MAX_DATA_LEN`, the size of `CMP_BODY.cmpdata`. -/
def maxDataLen : ℕ := 2048

/-- `sizeof(CMP_HEADER)`. -/
def sizeofCmpHeader : ℕ := 16

def genericNack : Word := 0x80000000#32
def bindRequest : Word := 0x00000001#32
def bindResponse : Word := 0x80000001#32
def authenticationRequest : Word := 0x00000002#32
def authenticationResponse : Word := 0x80000002#32
def accessLogRequest : Word := 0x00000003#32
def accessLogResponse : Word := 0x80000003#32
def initialRequest : Word := 0x00000004#32
def initialResponse : Word := 0x80000004#32
def signUpRequest : Word := 0x00000005#32
def signUpResponse : Word := 0x80000005#32
def unbindRequest : Word := 0x00000006#32
def unbindResponse : Word := 0x80000006#32
def updateRequest : Word := 0x00000007#32
def updateResponse : Word := 0x80000007#32
def rebootRequest : Word := 0x00000010#32
def rebootResponse : Word := 0x80000010#32
def configRequest : Word := 0x00000011#32
def configResponse : Word := 0x80000011#32
/-- `power_port_request`: the same code in the ControllerServer and the ControllerClient. -/
def powerPortRequest : Word := 0x00000012#32
def powerPortSetRequest : Word := 0x00000012#32
def powerPortSetResponse : Word := 0x80000012#32
def powerPortStateRequest : Word := 0x00000013#32
def powerPortStateResponse : Word := 0x80000013#32
def enquireLinkRequest : Word := 0x00000015#32
def enquireLinkResponse : Word := 0x80000015#32
def mdmLoginRequest : Word := 0x00000016#32
def mdmLoginResponse : Word := 0x80000016#32
def mdmOperateRequest : Word := 0x00000017#32
def mdmOperateResponse : Word := 0x80000017#32
def sdkTrackerRequest : Word := 0x00000018#32
def sdkTrackerResponse : Word := 0x80000018#32

def statusRok : Word := 0x00000000#32
def statusRinvmsglen : Word := 0x00000001#32
def statusRinvcmdlen : Word := 0x00000002#32
def statusRinvcmdid : Word := 0x00000003#32
def statusRinvbndsts : Word := 0x00000004#32
def statusRalybnd : Word := 0x00000005#32
def statusRoperate : Word := 0x00000006#32
def statusRsyserr : Word := 0x00000008#32
def statusRbindfail : Word := 0x00000010#32
def statusRppsfail : Word := 0x00000011#32
def statusRppstafail : Word := 0x00000012#32
def statusRmdmloginfail : Word := 0x00000014#32
def statusRinvbody : Word := 0x00000040#32
def statusRinvctrlid : Word := 0x00000041#32
def statusRinvjson : Word := 0x00000042#32

/-- `TYPE_MOBILE_TRACKER`, `TYPE_POWER_STATION` and `TYPE_SDK_TRACKER`. -/
def typeMobileTracker : ℤ := 1
def typePowerStation : ℤ := 2
def typeSdkTracker : ℤ := 3

/-! ### Headers -/

/-- `CMP_HEADER`, in host order. -/
structure CmpHeader where
  commandLength : Word
  commandId : Word
  commandStatus : Word
  sequenceNumber : Word
  deriving DecidableEq

namespace CmpHeader

/-- The sixteen bytes of a header on the wire. -/
def bytes (h : CmpHeader) : Bytes :=
  beBytes h.commandLength ++
    (beBytes h.commandId ++ (beBytes h.commandStatus ++ beBytes h.sequenceNumber))

/-- The header at the front of a piece of memory. -/
def ofBytes (m : Bytes) : CmpHeader where
  commandLength := wordAt m 0
  commandId := wordAt m 4
  commandStatus := wordAt m 8
  sequenceNumber := wordAt m 12

@[simp] theorem length_bytes (h : CmpHeader) : h.bytes.length = 16 := rfl

/-- A header reads back from the front of a packet. -/
@[simp] theorem ofBytes_bytes (h : CmpHeader) (m : Bytes) : ofBytes (h.bytes ++ m) = h := by
  obtain ⟨len, id, status, seq⟩ := h
  have h₁ := wordAt_append (beBytes len) id (beBytes status ++ (beBytes seq ++ m))
  have h₂ := wordAt_append (beBytes len ++ beBytes id) status (beBytes seq ++ m)
  have h₃ := wordAt_append (beBytes len ++ (beBytes id ++ beBytes status)) seq m
  -- what stands before the three later words is four, eight and twelve bytes long
  simp only [List.append_assoc, List.length_append, length_beBytes, Nat.reduceAdd] at h₁ h₂ h₃
  simp [bytes, ofBytes, h₁, h₂, h₃]

/-- A header is read from the first sixteen bytes. -/
theorem ofBytes_take {m : Bytes} {n : ℕ} (hn : 16 ≤ n) : ofBytes (m.take n) = ofBytes m := by
  have hword : ∀ off, off + 4 ≤ n → wordAt (m.take n) off = wordAt m off := by
    intro off hoff
    refine wordAt_eq_iff.mpr fun j hj => ?_
    rw [List.getD_eq_getElem?_getD, List.getD_eq_getElem?_getD,
      List.getElem?_take_of_lt (by omega)]
  rw [ofBytes, ofBytes, hword 0 (by omega), hword 4 (by omega), hword 8 (by omega),
    hword 12 (by omega)]

end CmpHeader

/-! ### Packets -/

/-- The memory of a `CMP_PACKET` that was zeroed before a header and a body were received into
it. -/
def packetImage (h : CmpHeader) (body : Bytes) : Bytes :=
  h.bytes ++ (body ++ List.replicate (maxDataLen - body.length) 0)

/-- A well-formed packet: its `command_length` is its real size, and its body fits. -/
structure CmpPacket where
  cmpHeader : CmpHeader
  cmpBody : Bytes
  commandLength_eq : cmpHeader.commandLength.toNat = sizeofCmpHeader + cmpBody.length
  cmpBody_le : cmpBody.length ≤ maxDataLen

namespace CmpPacket

/-- The packet on the wire. -/
def bytes (p : CmpPacket) : Bytes := p.cmpHeader.bytes ++ p.cmpBody

/-- The packet in the zeroed receive buffer. -/
def image (p : CmpPacket) : Bytes := packetImage p.cmpHeader p.cmpBody

@[simp] theorem length_bytes (p : CmpPacket) : p.bytes.length = 16 + p.cmpBody.length := by
  simp [bytes]

/-- The first `command_length` bytes of the buffer are the packet. -/
theorem take_image (p : CmpPacket) : p.image.take p.cmpHeader.commandLength.toNat = p.bytes := by
  rw [p.commandLength_eq, image, packetImage, bytes, ← List.append_assoc]
  exact List.take_left' (by simp [sizeofCmpHeader])

/-- The bytes of a sequence of packets written to one stream. -/
def stream (ps : List CmpPacket) : Bytes := ps.flatMap bytes

@[simp] theorem stream_nil : stream [] = [] := rfl

@[simp] theorem stream_cons (p : CmpPacket) (ps : List CmpPacket) :
    stream (p :: ps) = p.cmpHeader.bytes ++ (p.cmpBody ++ stream ps) := by
  simp [stream, bytes]

end CmpPacket
end ControllerSystem
