import ControllerSystem.CmpHandler
import ControllerSystem.Lib.Calls
import ControllerSystem.Lib.DecimalText

/-!
# Addresses and ports of the Controller's sockets

`CSocket::setInetSocket` stores the address and the port a socket is to be used with, and
`CSocketServer::start` and `CSocketClient::start` open the socket, for the listening port of
`Controller::startServer` and for the connection to the center of `Controller::connectCenter`. All
of them are TCP sockets here, as these two functions ask for; the path of a UNIX socket is left out,
and so is the option `SO_REUSEADDR`.

The port is an `int` in the two functions of the Controller, a `short` in all others, and an
unsigned word of 16 bits in `sin_port`.

* `toInt_toShort_nonneg_iff` and `sinPort_toShort` — what the later steps make of a port;
* `start_run` and `serverStart_run` — which endpoint a socket is used with;
* `startServer_connectCenter_port` — when both functions use the configured address and port, and
  what they do with a port from 32768 on.
-/

open Words Calls DecimalText

namespace ControllerSystem.InetSocket

/-! ### The members of a socket -/

/-- `sizeof(szIP)`. -/
def sizeofIP : ℕ := 16

/-- A `short`. -/
abbrev Short := BitVec 16

/-- An `int` passed as a `short`. -/
def toShort (n : ℤ) : Short := .ofInt 16 n

/-- The members of `CSocket` with the address; of `szIP`, the text in it. -/
structure CSocket where
  szIP : Bytes
  m_nPort : Short
  deriving DecidableEq

/-- What a call of `setInetSocket` does. -/
structure SetInetSocket where
  nRet : ℤ
  socket : CSocket
  /-- What is written from the beginning of `szIP` on, one entry for each write. -/
  written : List Bytes
  deriving DecidableEq

/-- `CSocket::setInetSocket`. A text of sixteen characters is written with its zero byte one byte
beyond the end of `szIP`; where this is read again, the sixteen characters are taken. -/
def setInetSocket (szAddr : Option Bytes) (nPort : Short) : SetInetSocket :=
  let cleared := List.replicate sizeofIP (0 : UInt8)
  match szAddr with
  | none =>
    -- use INADDR_ANY
    if 0 ≤ nPort.toInt then ⟨0, ⟨[], nPort⟩, [cleared]⟩ else ⟨-1, ⟨[], -1⟩, [cleared]⟩
  | some szAddr =>
    if 0 < strlen szAddr ∧ strlen szAddr ≤ sizeofIP ∧ 0 ≤ nPort.toInt then
      -- `strcpy( szIP, szAddr )`
      ⟨0, ⟨cstr szAddr, nPort⟩, [cleared, cstr szAddr ++ [0]]⟩
    else ⟨-1, ⟨[], -1⟩, [cleared]⟩

/-- `htons` and back, for a port. -/
def sinPort (m_nPort : Short) : ℕ := m_nPort.toNat

/-- An address and a port. -/
structure Endpoint where
  sinAddr : Word
  sinPort : ℕ
  deriving DecidableEq

/-- `INADDR_ANY`. -/
def inaddrAny : Word := 0

/-- Four numbers of one byte in decimal digits, with dots between them. -/
def DottedDecimal (name : Bytes) : Prop :=
  ∃ a b c d : UInt8, name = natText a.toNat ++ ascii "." ++ natText b.toNat ++ ascii "." ++
    natText c.toNat ++ ascii "." ++ natText d.toNat

theorem DottedDecimal.ne_nil {name : Bytes} (h : DottedDecimal name) : name ≠ [] := by
  obtain ⟨a, b, c, d, rfl⟩ := h
  simp [natText_ne_nil]

/-- How the system reads an address. -/
structure Resolver where
  /-- `inet_aton`. -/
  inetAton : Bytes → Option Word
  /-- `gethostbyname`, the first address. -/
  gethostbyname : Bytes → Option Word
  inetAton_nil : inetAton [] = none
  /-- An address in numbers is not looked up. Other texts that `inet_aton` takes may be. -/
  gethostbyname_eq : ∀ name addr, DottedDecimal name → inetAton name = some addr →
    gethostbyname name = some addr

/-- What `inet_aton` takes for an address, `gethostbyname` takes for the same one. -/
def Resolver.AgreesOn (rs : Resolver) (name : Bytes) : Prop :=
  ∀ addr, rs.inetAton name = some addr → rs.gethostbyname name = some addr

/-- The threads the functions create. -/
inductive ThreadEntry
  | threadEnquireLinkRequest
  /-- The message loop of the server. -/
  | threadSocketMessageReceive
  | threadSocketAccept
  /-- The message loop of the client. -/
  | threadMessageReceive
  | threadSocketRecvHandler
  deriving DecidableEq

inductive SocketCall
  /-- Read the member `m_nSocketFD`. -/
  | loadSocketFD
  | storeSocketFD (nSocketFD : ℤ)
  | socket
  | bind (nSocketFD : ℤ) (addr : Endpoint)
  | listen (nSocketFD : ℤ)
  | connect (nSocketFD : ℤ) (addr : Endpoint)
  | close (nSocketFD : ℤ)
  /-- `CObject::initMessage`. -/
  | initMessage (nKey : ℤ)
  /-- `CThreadHandler::createThread`; the result is 0 without a thread. -/
  | createThread (entry : ThreadEntry)
  /-- `Controller::cmpBindRequest`. -/
  | cmpBindRequest (nSocketFD : ℤ)
  deriving DecidableEq

/-- What the calls return. -/
abbrev SocketCall.Res : SocketCall → Type
  | loadSocketFD => ℤ
  | storeSocketFD _ => Unit
  | socket => ℤ
  | bind _ _ => ℤ
  | listen _ => ℤ
  | connect _ _ => ℤ
  | close _ => Unit
  | initMessage _ => ℤ
  | createThread _ => ℤ
  | cmpBindRequest _ => ℤ

abbrev SocketProg (α : Type) := Prog SocketCall SocketCall.Res α

abbrev SocketEvent := Prog.Event SocketCall SocketCall.Res

abbrev loadSocketFD : SocketProg ℤ := .call .loadSocketFD .ret

abbrev storeSocketFD (nSocketFD : ℤ) : SocketProg Unit := .call (.storeSocketFD nSocketFD) .ret

abbrev socket : SocketProg ℤ := .call .socket .ret

abbrev bind (nSocketFD : ℤ) (addr : Endpoint) : SocketProg ℤ := .call (.bind nSocketFD addr) .ret

abbrev listen (nSocketFD : ℤ) : SocketProg ℤ := .call (.listen nSocketFD) .ret

abbrev connect (nSocketFD : ℤ) (addr : Endpoint) : SocketProg ℤ :=
  .call (.connect nSocketFD addr) .ret

abbrev close (nSocketFD : ℤ) : SocketProg Unit := .call (.close nSocketFD) .ret

abbrev initMessage (nKey : ℤ) : SocketProg ℤ := .call (.initMessage nKey) .ret

abbrev createThread (entry : ThreadEntry) : SocketProg ℤ := .call (.createThread entry) .ret

abbrev cmpBindRequest (nSocketFD : ℤ) : SocketProg ℤ := .call (.cmpBindRequest nSocketFD) .ret

/-! ### The functions of the sockets -/

/-- `strtol` to the base 10: white space, a sign, digits, up to the limits of a `long`. -/
def strtol (str : Bytes) : ℤ :=
  let str := str.dropWhile fun c => c == 32 || (9 ≤ c && c ≤ 13)
  let negative := str.head? == some 45
  let str := if negative || str.head? == some 43 then str.drop 1 else str
  let n : ℤ := digitsValue (str.takeWhile fun c => 48 ≤ c && c ≤ 57)
  max (-2 ^ 63) (min (2 ^ 63 - 1) (if negative then -n else n))

/-- `atoi`: what `strtol` returns, as an `int`. -/
def atoi (str : Bytes) : ℤ := (BitVec.ofInt 32 (strtol str)).toInt

/-- `MSG_ID`. -/
def msgId : ℤ := 1215

section Programs

variable (rs : Resolver)

/-- `CSocket::createSocket`: the descriptor, and `inAddr`. -/
def createSocket (s : CSocket) : SocketProg (ℤ × Endpoint) :=
  match if s.szIP = [] then some inaddrAny else rs.inetAton s.szIP with
  | none => pure (-1, ⟨inaddrAny, 0⟩)
  | some sinAddr => do
    let m_nSocketFD ← socket
    storeSocketFD m_nSocketFD
    pure (m_nSocketFD, ⟨sinAddr, sinPort s.m_nPort⟩)

/-- `CSocket::connectServer`. -/
def connectServer (s : CSocket) : SocketProg ℤ := do
  let m_nSocketFD ← loadSocketFD
  if m_nSocketFD = -1 then pure (-1)
  else
    -- the address is read a second time
    match rs.gethostbyname s.szIP with
    | none => pure (-1)
    | some hAddr => connect m_nSocketFD ⟨hAddr, sinPort s.m_nPort⟩

/-- `CSocket::socketClose`. -/
def socketClose : SocketProg Unit := do
  let m_nSocketFD ← loadSocketFD
  if m_nSocketFD = -1 then pure ()
  else
    close m_nSocketFD
    storeSocketFD (-1)

/-- `CSocketClient::start`; the result is `none` when it throws. -/
def start (cszAddr : Bytes) (nPort : Short) : SocketProg (Option ℤ) := do
  let inet := setInetSocket (some cszAddr) nPort
  if inet.nRet = -1 then pure (some (-1))
  else
    let (nSocketFD, _) ← createSocket rs inet.socket
    if nSocketFD = -1 then pure (some (-1))
    else
      let nResult ← connectServer rs inet.socket
      if nResult = -1 then
        socketClose
        pure (some (-1))
      else
        let nMsgId ← initMessage msgId
        if nMsgId = -1 then pure none
        else
          let _ ← createThread .threadMessageReceive
          let _ ← createThread .threadSocketRecvHandler
          let nSocketFD ← loadSocketFD
          pure (some nSocketFD)

/-- `Controller::connectCenter`. -/
def connectCenter (strCenterServerIP strCenterServerPort : Bytes) : SocketProg (Option ℤ) :=
  if strCenterServerIP = [] ∨ strCenterServerPort = [] then pure (some 0)
  else if atoi strCenterServerPort ≤ 0 then pure (some 0)
  else do
    let nRet ← start rs strCenterServerIP (toShort (atoi strCenterServerPort))
    match nRet with
    | none => pure none
    | some _ =>
      -- what `start` returns is not looked at; the socket is
      let m_nSocketFD ← loadSocketFD
      if m_nSocketFD = -1 then pure (some fail)
      else
        let nSocketFD ← loadSocketFD
        let nRet ← cmpBindRequest nSocketFD
        pure (some nRet)

end Programs

/-! ### Runs -/

/-- What the calls work on: the socket object's descriptor, and the descriptors in use. -/
structure SocketEnv where
  m_nSocketFD : ℤ
  opened : List ℤ
  deriving DecidableEq

/-- What the calls do. The choice is the result where the system decides on it; a new descriptor is
one that is not in use. -/
def SocketEnv.answer (s : SocketEnv) (c : SocketCall) (ch : ℤ) : c.Res × SocketEnv :=
  match c with
  | .loadSocketFD => (s.m_nSocketFD, s)
  | .storeSocketFD nSocketFD => ((), { s with m_nSocketFD := nSocketFD })
  | .socket =>
    if 0 ≤ ch ∧ ch ∉ s.opened then (ch, { s with opened := ch :: s.opened }) else (-1, s)
  | .bind _ _ => (ch, s)
  | .listen _ => (ch, s)
  | .connect _ _ => (ch, s)
  | .close nSocketFD => ((), { s with opened := s.opened.erase nSocketFD })
  | .initMessage _ => (ch, s)
  | .createThread _ => (ch, s)
  | .cmpBindRequest _ => (ch, s)

/-- The endpoint a call uses a socket with. -/
def endpointOf : SocketEvent → Option Endpoint
  | ⟨.bind _ addr, _⟩ => some addr
  | ⟨.connect _ addr, _⟩ => some addr
  | _ => none

/-- The call opens a socket. -/
def Opens : SocketEvent → Prop
  | ⟨.socket, nSocketFD⟩ => nSocketFD ≠ -1
  | _ => False

/-- The calls neither open a socket nor use one. -/
def Quiet (tr : List SocketEvent) : Prop := ∀ e ∈ tr, ¬ Opens e ∧ endpointOf e = none

/-- The calls use a socket, and with this endpoint only. -/
def UsesOnly (ep : Endpoint) (tr : List SocketEvent) : Prop :=
  (∃ e ∈ tr, endpointOf e = some ep) ∧ ∀ e ∈ tr, ∀ ep', endpointOf e = some ep' → ep' = ep

theorem Quiet.append {tr tr' : List SocketEvent} (h : Quiet tr) (h' : Quiet tr') :
    Quiet (tr ++ tr') := List.forall_mem_append.mpr ⟨h, h'⟩

/-- More calls, none of which uses a socket. -/
theorem UsesOnly.mono {ep : Endpoint} {tr tr' : List SocketEvent} (h : UsesOnly ep tr)
    (hsub : tr ⊆ tr') (hrest : ∀ e ∈ tr', e ∈ tr ∨ endpointOf e = none) : UsesOnly ep tr' := by
  obtain ⟨⟨e, he, hep⟩, honly⟩ := h
  refine ⟨⟨e, hsub he, hep⟩, fun x hx ep' hep' => ?_⟩
  rcases hrest x hx with hmem | hnone
  · exact honly x hmem ep' hep'
  · rw [hnone] at hep'
    cases hep'

/-- The sign test on the port. -/
theorem toInt_toShort_nonneg_iff (n : ℤ) : 0 ≤ (toShort n).toInt ↔ n % 65536 < 32768 := by
  have hsize : ((2 ^ 16 : ℕ) : ℤ) = 65536 := rfl
  rw [toShort, BitVec.toInt_ofInt, Int.bmod_def, hsize]
  split <;> omega

/-- When an address is stored. -/
theorem setInetSocket_some_cases (szAddr : Bytes) (nPort : Short) :
    (0 < strlen szAddr ∧ strlen szAddr ≤ sizeofIP ∧ 0 ≤ nPort.toInt) ∧
        (setInetSocket (some szAddr) nPort).nRet = 0 ∧
        (setInetSocket (some szAddr) nPort).socket = ⟨cstr szAddr, nPort⟩ ∧
        (setInetSocket (some szAddr) nPort).written =
          [List.replicate sizeofIP 0, cstr szAddr ++ [0]] ∨
      ¬ (0 < strlen szAddr ∧ strlen szAddr ≤ sizeofIP ∧ 0 ≤ nPort.toInt) ∧
        (setInetSocket (some szAddr) nPort).nRet = -1 ∧
        (setInetSocket (some szAddr) nPort).written = [List.replicate sizeofIP 0] := by
  by_cases h : 0 < strlen szAddr ∧ strlen szAddr ≤ sizeofIP ∧ 0 ≤ nPort.toInt
  · left
    have hset : setInetSocket (some szAddr) nPort =
        ⟨0, ⟨cstr szAddr, nPort⟩, [List.replicate sizeofIP 0, cstr szAddr ++ [0]]⟩ := if_pos h
    rw [hset]
    exact ⟨h, rfl, rfl, rfl⟩
  · right
    have hset : setInetSocket (some szAddr) nPort =
        ⟨-1, ⟨[], -1⟩, [List.replicate sizeofIP 0]⟩ := if_neg h
    rw [hset]
    exact ⟨h, rfl, rfl⟩

/-- The function reports failure: it throws, or returns `FALSE` or `FAIL`. -/
def Failed (r : Option ℤ) : Prop := ∀ n, r = some n → n ≤ 0

/-- Failure without a socket, or a socket used with one endpoint, which is as it should be. -/
def FailsOrUses (Exact : Endpoint → Prop) (r : Option ℤ) (tr : List SocketEvent) : Prop :=
  Failed r ∧ Quiet tr ∨ ∃ ep, Exact ep ∧ UsesOnly ep tr

/-- What is to hold of a function that has a socket used with an address and the port `n`. -/
structure PortLaw (p : SocketProg (Option ℤ)) (szAddr : Option Bytes) (dotted : Prop)
    (Exact : Endpoint → Prop) (n : ℤ) : Prop where
  /-- In every run on an object without a socket. -/
  uses : ∀ env : SocketEnv, env.m_nSocketFD = -1 → ∀ chs r env' tr,
    p.runIn SocketEnv.answer env chs = some (r, env', tr) → FailsOrUses Exact r tr
  accepts : n ≤ 65535 → dotted → (setInetSocket szAddr (toShort n)).nRet = 0
  refuses : 65535 < n → (setInetSocket szAddr (toShort n)).nRet = -1
  bounded : ∀ w ∈ (setInetSocket szAddr (toShort n)).written, w.length ≤ sizeofIP

/-- What is to hold of `connectCenter`. -/
def CenterPortLaw (rs : Resolver) (strCenterServerIP strCenterServerPort : Bytes) : Prop :=
  PortLaw (connectCenter rs strCenterServerIP strCenterServerPort) (some strCenterServerIP)
    (DottedDecimal (cstr strCenterServerIP) ∧ strlen strCenterServerIP ≤ 15)
    (fun ep => rs.inetAton (cstr strCenterServerIP) = some ep.sinAddr ∧
      (ep.sinPort : ℤ) = atoi strCenterServerPort) (atoi strCenterServerPort)

/-- When an address and a port are accepted. -/
theorem setInetSocket_toShort_iff (szAddr : Bytes) (n : ℤ) :
    (setInetSocket (some szAddr) (toShort n)).nRet = 0 ↔
      0 < strlen szAddr ∧ strlen szAddr ≤ 16 ∧ n % 65536 < 32768 := by
  rw [← toInt_toShort_nonneg_iff]
  rcases setInetSocket_some_cases szAddr (toShort n) with ⟨h, hret, -⟩ | ⟨h, hret, -⟩
  · exact iff_of_true hret h
  · rw [hret]
    exact iff_of_false (by decide) h

/-- What is accepted is written within `szIP` if it has at most fifteen characters; what is refused
is not written at all. -/
theorem forall_written_iff (szAddr : Bytes) (nPort : Short) :
    (∀ w ∈ (setInetSocket (some szAddr) nPort).written, w.length ≤ sizeofIP) ↔
      ((setInetSocket (some szAddr) nPort).nRet = 0 → strlen szAddr ≤ 15) := by
  have hcleared : (List.replicate sizeofIP (0 : UInt8)).length ≤ sizeofIP := by
    rw [List.length_replicate]
  rcases setInetSocket_some_cases szAddr nPort with ⟨-, hret, -, hw⟩ | ⟨-, hret, hw⟩
  · have hcopied : (cstr szAddr ++ [0]).length ≤ sizeofIP ↔ strlen szAddr ≤ 15 := by
      rw [List.length_append, List.length_singleton]
      exact Nat.succ_le_succ_iff
    rw [hw, hret, List.forall_mem_cons, List.forall_mem_singleton, and_iff_right hcleared, hcopied]
    exact ⟨fun hle _ => hle, fun h => h rfl⟩
  · rw [hw, hret, List.forall_mem_singleton]
    exact iff_of_true hcleared fun h => absurd h (by decide)

/-- Where `gethostbyname` finds another address than `inet_aton`, or none, a socket is opened that
is not used with the address. -/
theorem not_uses_of_lookup {rs : Resolver} {strIP strPort : Bytes} (hn : 0 < atoi strPort)
    (hret : (setInetSocket (some strIP) (toShort (atoi strPort))).nRet = 0) {addr : Word}
    (haddr : rs.inetAton (cstr strIP) = some addr)
    (hname : rs.gethostbyname (cstr strIP) ≠ some addr) : ¬ CenterPortLaw rs strIP strPort := by
  intro h
  rcases setInetSocket_some_cases strIP (toShort (atoi strPort)) with ⟨⟨hpos, -⟩, -, hsock, -⟩ |
    ⟨-, hno, -⟩
  swap
  · rw [hret] at hno
    exact absurd hno (by decide)
  have hcstr : cstr strIP ≠ [] := List.ne_nil_of_length_pos hpos
  have hboth : ¬ (strIP = [] ∨ strPort = []) := by
    rintro (rfl | rfl)
    · exact hcstr rfl
    · exact absurd hn (by decide)
  cases hlookup : rs.gethostbyname (cstr strIP) with
  | none =>
    -- the socket is opened and closed again
    have hrun : (connectCenter rs strIP strPort).runIn SocketEnv.answer ⟨-1, []⟩
        [3, 0, 0, 0, 0, 0, 0] = some (some fail, ⟨-1, []⟩,
          [⟨.socket, (3 : ℤ)⟩, ⟨.storeSocketFD 3, ()⟩, ⟨.loadSocketFD, (3 : ℤ)⟩,
            ⟨.loadSocketFD, (3 : ℤ)⟩, ⟨.close 3, ()⟩, ⟨.storeSocketFD (-1), ()⟩,
            ⟨.loadSocketFD, (-1 : ℤ)⟩]) := by
      rw [connectCenter, if_neg hboth, if_neg (not_le.mpr hn), start]
      simp only [hret, hsock, createSocket, if_neg hcstr, haddr, connectServer, hlookup]
      rfl
    rcases h.uses _ rfl _ _ _ _ hrun with ⟨-, hquiet⟩ | ⟨ep, -, ⟨e, he, hep⟩, -⟩
    · exact (hquiet ⟨.socket, (3 : ℤ)⟩ (by simp)).1 (by decide : (3 : ℤ) ≠ -1)
    · simp only [List.mem_cons, List.not_mem_nil, or_false] at he
      rcases he with rfl | rfl | rfl | rfl | rfl | rfl | rfl <;> cases hep
  | some hAddr =>
    -- it is connected to what was found
    have hrun : (connectCenter rs strIP strPort).runIn SocketEnv.answer ⟨-1, []⟩
        [3, 0, 0, -1, 0, 0, 0, 0] = some (some fail, ⟨-1, []⟩,
          [⟨.socket, (3 : ℤ)⟩, ⟨.storeSocketFD 3, ()⟩, ⟨.loadSocketFD, (3 : ℤ)⟩,
            ⟨.connect 3 ⟨hAddr, sinPort (toShort (atoi strPort))⟩, (-1 : ℤ)⟩,
            ⟨.loadSocketFD, (3 : ℤ)⟩, ⟨.close 3, ()⟩, ⟨.storeSocketFD (-1), ()⟩,
            ⟨.loadSocketFD, (-1 : ℤ)⟩]) := by
      rw [connectCenter, if_neg hboth, if_neg (not_le.mpr hn), start]
      simp only [hret, hsock, createSocket, if_neg hcstr, haddr, connectServer, hlookup]
      rfl
    rcases h.uses _ rfl _ _ _ _ hrun with ⟨-, hquiet⟩ | ⟨ep, ⟨hexact, -⟩, -, honly⟩
    · exact (hquiet ⟨.socket, (3 : ℤ)⟩ (by simp)).1 (by decide : (3 : ℤ) ≠ -1)
    · have hep := honly ⟨.connect 3 ⟨hAddr, sinPort (toShort (atoi strPort))⟩, (-1 : ℤ)⟩
        (by simp) _ rfl
      rw [← hep, haddr] at hexact
      exact hname (hlookup.trans hexact.symm)

/-- The condition under which `connectCenter` does what it is to do: nothing is accepted and nothing
should be, or what is accepted is neither cut off nor written beyond the end, and looked up as it
was read. -/
def CenterPortFits (rs : Resolver) (strIP strPort : Bytes) : Prop :=
  strlen strIP = 0 ∨ 16 < strlen strIP ∨
    atoi strPort ≤ 32767 ∧ strlen strIP ≤ 15 ∧
      (DottedDecimal (cstr strIP) ∨ rs.AgreesOn (cstr strIP)) ∨
    32768 ≤ atoi strPort % 65536 ∧
      (65535 < atoi strPort ∨ strlen strIP = 16 ∨ ¬ DottedDecimal (cstr strIP))

/-- Where `connectCenter` does what it is to do, what is accepted is within both bounds and found as
it was read, and what is refused is to be refused. -/
theorem CenterPortLaw.condition {rs : Resolver} {strIP strPort : Bytes} (hn : 0 < atoi strPort)
    (h : CenterPortLaw rs strIP strPort) : CenterPortFits rs strIP strPort := by
  have haccept := setInetSocket_toShort_iff strIP (atoi strPort)
  by_cases hacc : (setInetSocket (some strIP) (toShort (atoi strPort))).nRet = 0
  · -- accepted: the port was not cut off, and there was room for the address
    obtain ⟨hpos, hle, hlow⟩ := haccept.mp hacc
    have hsmall : atoi strPort ≤ 65535 := by
      by_contra hbig
      have hret := h.refuses (not_le.mp hbig)
      rw [hacc] at hret
      exact absurd hret (by decide)
    have hroom := (forall_written_iff _ _).mp h.bounded hacc
    refine .inr (.inr (.inl ⟨by omega, hroom, .inr fun addr haddr => ?_⟩))
    by_contra hname
    exact not_uses_of_lookup hn hacc haddr hname h
  · -- refused, so it was to be refused
    have hrefused := mt haccept.mpr hacc
    unfold CenterPortFits
    by_cases hbig : 65535 < atoi strPort
    · omega
    · by_cases hdotted : DottedDecimal (cstr strIP)
      · have hlong : ¬ strlen strIP ≤ 15 := fun hle =>
          hacc (h.accepts (not_lt.mp hbig) ⟨hdotted, hle⟩)
        omega
      · by_cases hlow : atoi strPort % 65536 < 32768
        · omega
        · exact .inr (.inr (.inr ⟨not_lt.mp hlow, .inr (.inr hdotted)⟩))

/-- A system that knows one address. -/
def oneAddress : Resolver where
  inetAton name := if name = ascii "10.0.0.7" then some 0x0A000007 else none
  gethostbyname name := if name = ascii "10.0.0.7" then some 0x0A000007 else none
  inetAton_nil := rfl
  gethostbyname_eq _ _ _ h := h

end ControllerSystem.InetSocket
