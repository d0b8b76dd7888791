import ControllerSystem.Body
import ControllerSystem.ControllerAw2401.Handlers
import ControllerSystem.Lib.Mailbox

/-!
# The datagram socket of `CAreawell`

`CAreawell::sendCommand` sends a command to a power device and waits, three times for a second, for
a datagram on `udpsockfd`; the first one it finds there is its result. There is one such socket for
all threads and both wires. Whom a datagram comes from is not looked at, and nothing in it says what
it answers, so one that comes late stays in the socket, for the next call.

The state holds what is left of every call of `sendCommand`, as a program that takes its turns
between those of the others, and the datagrams in the socket. It also notes what the program does
not know: the call a datagram is the reply to, and the datagram a result is the text of.

To the calls the socket is a mailbox (`mailbox_run`), so datagrams and calls are matched by their
order alone. `sendCommand_answered_iff` — every result is the content of a reply of the device to
that call, if and only if the datagrams have come in the order in which the calls took them.
-/

open Words Calls DecimalText

namespace ControllerSystem.ControllerAw2401.CAreawell

/-! ### One call -/

/-- The size of the buffer datagrams are received into. -/
def bufsize : ℕ := 1024

/-- `STATE_PORT_GET`, the command of `getPortStatus`. -/
def statePortGet : Bytes := ascii "get iControl port state"

/-- The buffer after `recvfrom`; it was zeroed before. -/
def receivedBuffer (content : Bytes) : Bytes :=
  content.take bufsize ++ List.replicate (bufsize - content.length) 0

/-- `strRecv = buffer`. Without a zero byte in the buffer, the text goes on with whatever is behind
it. -/
def bufferText (content : Bytes) : Option Bytes :=
  if 0 ∈ receivedBuffer content then some (cstr (receivedBuffer content)) else none

/-- A number up to 255 in decimal, without leading zeros. -/
def octet (l : Bytes) : Option UInt8 :=
  if l ≠ [] ∧ (l.all fun b => IsDigit b) ∧ (l.head? = some 48 → l = [48]) ∧
      l.foldl addDigit 0 ≤ 255 then
    some (.ofNat (l.foldl addDigit 0))
  else none

/-- `inet_pton` for `AF_INET`; `none` when it does not return 1. -/
def inetPton (strIP : Bytes) : Option Bytes :=
  match (cstr strIP).splitOn 46 with
  | [l₁, l₂, l₃, l₄] => do return [← octet l₁, ← octet l₂, ← octet l₃, ← octet l₄]
  | _ => none

/-- What `sendCommand` calls on. -/
inductive AreawellCall
  /-- The member `udpsockfd` is read. -/
  | udpsockfd
  /-- `sendto`, to the port 9999 of an address. -/
  | sendto (strCommand address : Bytes)
  /-- `epoll_wait` for a second: whether there is an event `EPOLLIN` of `udpsockfd`. -/
  | epollWait
  /-- `recvfrom`: what a datagram contains, nothing when the result is -1. -/
  | recvfrom

/-- What a call returns. -/
def AreawellCall.Res : AreawellCall → Type
  | .udpsockfd => ℤ
  | .sendto _ _ => ℤ
  | .epollWait => Bool
  | .recvfrom => Option Bytes

abbrev AreawellProg (α : Type) := Prog AreawellCall AreawellCall.Res α

abbrev getUdpsockfd : AreawellProg ℤ := .call .udpsockfd .ret

abbrev sendto (strCommand address : Bytes) : AreawellProg ℤ :=
  .call (.sendto strCommand address) .ret

abbrev epollWait : AreawellProg Bool := .call .epollWait .ret

abbrev recvfrom : AreawellProg (Option Bytes) := .call .recvfrom .ret

/-- The loop of `sendCommand`, with the number of rounds left. -/
def rounds : ℕ → AreawellProg (Option Bytes)
  | 0 => pure (some [])
  | i + 1 => do
    let bEvent ← epollWait
    if bEvent then
      match ← recvfrom with
      | some content => pure (bufferText content)
      | none => rounds i
    else rounds i

/-- `CAreawell::sendCommand`. -/
def sendCommand (strIP strCommand : Bytes) : AreawellProg (Option Bytes) :=
  if strIP = [] ∨ strCommand = [] then pure (some [])
  else do
    let udpsockfd ← getUdpsockfd
    if udpsockfd = -1 then pure (some [])
    else
      match inetPton strIP with
      | none => pure (some [])
      | some address => do
        let nSent ← sendto strCommand address
        if nSent ≠ -1 then rounds 3 else pure (some [])

/-- `CAreawell::startUdpServer`, with the results of `socket` and `bind`: `udpsockfd` afterwards. -/
def startUdpServer (nSocket nBind : ℤ) : ℤ :=
  if nSocket = -1 then -1 else if nBind = -1 then -1 else nSocket

/-! ### All calls -/

structure Datagram where
  sender : Bytes
  content : Bytes
  /-- The call whose command the sender answers with it, if it does. -/
  replyTo : Option ℕ

/-- A call that has returned. -/
structure Return where
  call : ℕ
  /-- The result, when it is a text of the buffer. -/
  strRecv : Option Bytes
  /-- The datagram it has received. -/
  datagram : Option Datagram

/-- The calls of `sendCommand`, numbered as they come, and their socket. -/
structure UdpServer where
  udpsockfd : ℤ
  /-- `startUdpServer` has been called, as it is once. -/
  started : Bool
  /-- The datagrams in the socket, the oldest first. -/
  queue : List Datagram
  /-- How many calls there have been. -/
  called : ℕ
  strIP : ℕ → Bytes
  /-- Where the command of a call has gone to. -/
  sentTo : ℕ → Option Bytes
  /-- What is left of a call that has not returned. -/
  program : ℕ → Option (AreawellProg (Option Bytes))
  returned : List Return

namespace UdpServer

/-- A reply comes from the device the command has gone to. -/
def Genuine (s : UdpServer) (d : Datagram) : Prop := ∀ c ∈ d.replyTo, s.sentTo c = some d.sender

instance (s : UdpServer) (d : Datagram) : Decidable (s.Genuine d) :=
  inferInstanceAs (Decidable (∀ c ∈ d.replyTo, s.sentTo c = some d.sender))

/-- A call has come to what is left of it, after it received a datagram or none. -/
def goOn (s : UdpServer) (c : ℕ) (datagram : Option Datagram) :
    AreawellProg (Option Bytes) → UdpServer
  | .ret strRecv =>
    { s with
      program := Function.update s.program c none
      returned := s.returned ++ [⟨c, strRecv, datagram⟩] }
  | .call a k => { s with program := Function.update s.program c (some (.call a k)) }

/-- Where the commands have gone to, after a turn of a call. -/
def sentAfter (s : UdpServer) (c : ℕ) (a : AreawellCall) (r : a.Res) : ℕ → Option Bytes :=
  match a, r with
  | .sendto _ address, (nSent : ℤ) =>
    if nSent ≠ -1 then Function.update s.sentTo c (some address) else s.sentTo
  | _, _ => s.sentTo

end UdpServer

/-- What a turn leaves open. -/
structure UdpChoice where
  /-- `sendto` fails. -/
  fails : Bool := false
  /-- `epoll_wait` has seen an event; by now another call may have taken the datagram. -/
  event : Bool := false

/-- What a call returns in a turn that receives nothing. -/
def answer (udpsockfd : ℤ) (ch : UdpChoice) : (a : AreawellCall) → a.Res
  | .udpsockfd => udpsockfd
  | .sendto strCommand _ => (if udpsockfd = -1 ∨ ch.fails then -1 else strCommand.length : ℤ)
  | .epollWait => ch.event
  | .recvfrom => none

inductive UdpLabel
  | startUdpServer (nSocket nBind : ℤ)
  | stopUdpServer
  /-- A datagram comes in: a reply, early, late or once more, or anything else. -/
  | arrive (d : Datagram)
  /-- A thread calls `sendCommand`. -/
  | sendCommand (strIP strCommand : Bytes)
  /-- A call takes a turn and receives nothing. -/
  | turn (c : ℕ) (ch : UdpChoice)
  /-- A call receives the oldest datagram. -/
  | receive (c : ℕ)

def udpStep (s : UdpServer) : UdpLabel → Option UdpServer
  | .startUdpServer nSocket nBind =>
    if s.started then none
    else some { s with started := true, udpsockfd := startUdpServer nSocket nBind }
  | .stopUdpServer => some { s with udpsockfd := -1 }
  | .arrive d =>
    if s.udpsockfd ≠ -1 ∧ s.Genuine d then some { s with queue := s.queue ++ [d] } else none
  | .sendCommand strIP strCommand =>
    let s₁ := { s with
      called := s.called + 1
      strIP := Function.update s.strIP s.called strIP }
    some (s₁.goOn s.called none (sendCommand strIP strCommand))
  | .turn c ch =>
    match s.program c with
    | some (.call a k) =>
      let r := answer s.udpsockfd ch a
      some ({ s with sentTo := s.sentAfter c a r }.goOn c none (k r))
    | _ => none
  | .receive c =>
    match s.program c, s.queue with
    | some (.call .recvfrom k), d :: rest =>
      if s.udpsockfd ≠ -1 then some ({ s with queue := rest }.goOn c (some d) (k (some d.content)))
      else none
    | _, _ => none

/-- The calls of `sendCommand` from the start of the program. -/
def udpSystem : LTS.System UdpServer UdpLabel where
  init := ⟨-1, false, [], 0, fun _ => [], fun _ => none, fun _ => none, []⟩
  step := udpStep

/-! ### The text of a buffer -/

section BufferText

variable {content : Bytes}

/-- The text is empty when the datagram is, or when it starts with a zero byte. -/
theorem bufferText_eq_some_nil : bufferText content = some [] ↔ content.headD 0 = 0 := by
  cases content with
  | nil => exact iff_of_true rfl rfl
  | cons b l =>
    have hbuffer : receivedBuffer (b :: l) =
        b :: (l.take (bufsize - 1) ++ List.replicate (bufsize - (b :: l).length) 0) := rfl
    rw [List.headD_cons, bufferText, hbuffer]
    constructor
    · intro h
      by_contra hb
      split at h
      · have hcstr := Option.some.inj h
        rw [cstr, List.takeWhile_cons_of_pos (by simpa using hb)] at hcstr
        cases hcstr
      · cases h
    · rintro rfl
      rw [if_pos List.mem_cons_self]
      rfl

/-- The text is what the datagram contains when the buffer has room for it and a zero byte. -/
theorem bufferText_eq_some_self :
    bufferText content = some content ↔ content.length < bufsize ∧ 0 ∉ content := by
  constructor
  · intro h
    rw [bufferText] at h
    split at h
    · next hmem =>
      have hcstr : cstr (receivedBuffer content) = content := Option.some.inj h
      have hlen : (receivedBuffer content).length ≤ bufsize := by
        rw [receivedBuffer, List.length_append, List.length_take, List.length_replicate]
        omega
      have hlt : strlen (receivedBuffer content) < bufsize :=
        strlen_lt_of_mem ((List.take_of_length_le hlen).symm ▸ hmem)
      rw [strlen, hcstr] at hlt
      have hzero := zero_notMem_cstr (receivedBuffer content)
      rw [hcstr] at hzero
      exact ⟨hlt, hzero⟩
    · cases h
  · rintro ⟨hlt, hzero⟩
    have hbuffer : receivedBuffer content =
        content ++ 0 :: List.replicate (bufsize - content.length - 1) 0 := by
      rw [receivedBuffer, List.take_of_length_le hlt.le, ← List.replicate_succ]
      congr
      omega
    rw [bufferText, hbuffer, if_pos (List.mem_append_right _ List.mem_cons_self),
      cstr_append hzero]

end BufferText

/-! ### What is left of a call -/

/-- What is left of a call of `sendCommand`: it sends to the device, returns the text of the first
datagram it receives, and the empty text without one. -/
def OfCall (strIP : Bytes) : AreawellProg (Option Bytes) → Prop
  | .ret strRecv => strRecv = some []
  | .call .recvfrom k =>
    (∀ content, k (some content) = .ret (bufferText content)) ∧ OfCall strIP (k none)
  | .call (.sendto _ address) k => inetPton strIP = some address ∧ ∀ r, OfCall strIP (k r)
  | .call _ k => ∀ r, OfCall strIP (k r)

section OfCall

variable {strIP : Bytes}

theorem rounds_ofCall (i : ℕ) : OfCall strIP (rounds i) := by
  induction i with
  | zero => rfl
  | succ i ih =>
    intro bEvent
    cases bEvent with
    | false => exact ih
    | true => exact ⟨fun _ => rfl, ih⟩

theorem sendCommand_ofCall (strIP strCommand : Bytes) :
    OfCall strIP (sendCommand strIP strCommand) := by
  rw [sendCommand]
  split
  · rfl
  · intro (udpsockfd : ℤ)
    show OfCall strIP (if udpsockfd = -1 then _ else _)
    split
    · rfl
    · split
      · rfl
      · next address haddress =>
        refine ⟨haddress, fun (nSent : ℤ) => ?_⟩
        show OfCall strIP (if nSent ≠ -1 then _ else _)
        split
        · exact rounds_ofCall 3
        · rfl

/-- A turn leaves what is left of the same call. -/
theorem OfCall.turn {a : AreawellCall} {k : a.Res → AreawellProg (Option Bytes)}
    (h : OfCall strIP (.call a k)) (udpsockfd : ℤ) (ch : UdpChoice) :
    OfCall strIP (k (answer udpsockfd ch a)) := by
  cases a with
  | udpsockfd => exact h _
  | sendto strCommand address => exact h.2 _
  | epollWait => exact h _
  | recvfrom => exact h.2

end OfCall

/-! ### What every step keeps -/

/-- An entry of a table of which one entry has been changed. -/
theorem update_eq_some {α : Type} {f : ℕ → Option α} {c c' : ℕ} {v : Option α} {x : α}
    (h : Function.update f c v c' = some x) : c' = c ∧ v = some x ∨ f c' = some x := by
  rcases eq_or_ne c' c with rfl | hne
  · rw [Function.update_self] at h
    exact .inl ⟨rfl, h⟩
  · rw [Function.update_of_ne hne] at h
    exact .inr h

namespace UdpServer

/-- A result is the text of the datagram received, and empty when none was. -/
def Explains (s : UdpServer) (r : Return) : Prop :=
  match r.datagram with
  | none => r.strRecv = some []
  | some d => r.strRecv = bufferText d.content ∧ s.Genuine d

/-- Every call goes on as `sendCommand` does, and every reply is one to a command that was sent. -/
structure Inv (s : UdpServer) : Prop where
  program : ∀ {c p}, s.program c = some p → c < s.called ∧ OfCall (s.strIP c) p
  sentTo : ∀ {c address}, s.sentTo c = some address →
    c < s.called ∧ inetPton (s.strIP c) = some address
  queue : ∀ d ∈ s.queue, s.Genuine d
  returned : ∀ r ∈ s.returned, s.Explains r

section Steps

variable {s s' : UdpServer} {c : ℕ} {p : AreawellProg (Option Bytes)} {d : Datagram} {r : Return}

theorem Genuine.mono (h : s.Genuine d)
    (hsent : ∀ c address, s.sentTo c = some address → s'.sentTo c = some address) :
    s'.Genuine d := fun c hc => hsent c d.sender (h c hc)

theorem Explains.mono (h : s.Explains r)
    (hsent : ∀ c address, s.sentTo c = some address → s'.sentTo c = some address) :
    s'.Explains r := by
  obtain ⟨c, strRecv, datagram⟩ := r
  cases datagram with
  | none => exact h
  | some d => exact ⟨h.1, h.2.mono hsent⟩

/-- A call returns. -/
theorem Inv.ret (h : s.Inv) {strRecv : Option Bytes} {datagram : Option Datagram}
    (hr : s.Explains ⟨c, strRecv, datagram⟩) : (s.goOn c datagram (.ret strRecv)).Inv where
  program := by
    intro c' p' hp'
    rcases update_eq_some hp' with ⟨-, hnone⟩ | hp
    · cases hnone
    · exact h.program hp
  sentTo := h.sentTo
  queue := h.queue
  returned := by
    intro r' hr'
    rcases List.mem_append.mp hr' with hr' | hr'
    · exact h.returned r' hr'
    · obtain rfl := List.mem_singleton.mp hr'
      exact hr

/-- A call goes on without a datagram. -/
theorem Inv.goOn (h : s.Inv) (hc : c < s.called) (hp : OfCall (s.strIP c) p) :
    (s.goOn c none p).Inv := by
  cases p with
  | ret strRecv => exact h.ret hp
  | call a k =>
    refine ⟨?_, h.sentTo, h.queue, h.returned⟩
    intro c' p' hp'
    rcases update_eq_some hp' with ⟨rfl, hcall⟩ | hold
    · cases hcall
      exact ⟨hc, hp⟩
    · exact h.program hold

/-- A new call gets a number of its own. -/
theorem Inv.call (h : s.Inv) (strIP : Bytes) :
    Inv { s with called := s.called + 1, strIP := Function.update s.strIP s.called strIP } where
  program := by
    intro c p hp
    obtain ⟨hc, hof⟩ := h.program hp
    refine ⟨Nat.lt_succ_of_lt hc, ?_⟩
    dsimp only
    rwa [Function.update_of_ne hc.ne]
  sentTo := by
    intro c address hsent
    obtain ⟨hc, hip⟩ := h.sentTo hsent
    refine ⟨Nat.lt_succ_of_lt hc, ?_⟩
    dsimp only
    rwa [Function.update_of_ne hc.ne]
  queue := h.queue
  returned := h.returned

/-- The command of a call goes to the device at its address, however often. -/
theorem Inv.sent (h : s.Inv) {a : AreawellCall} {k : a.Res → AreawellProg (Option Bytes)}
    (hp : s.program c = some (.call a k)) (res : a.Res) :
    Inv { s with sentTo := s.sentAfter c a res } := by
  obtain ⟨hc, hof⟩ := h.program hp
  cases a with
  | udpsockfd => exact h
  | epollWait => exact h
  | recvfrom => exact h
  | sendto strCommand address =>
    simp only [sentAfter]
    split
    · have hsame : ∀ c' address', s.sentTo c' = some address' →
          Function.update s.sentTo c (some address) c' = some address' := by
        intro c' address' hsent
        rcases eq_or_ne c' c with rfl | hne
        · -- an earlier command of the call has gone to the same device
          rw [Function.update_self, ← hof.1, (h.sentTo hsent).2]
        · rwa [Function.update_of_ne hne]
      refine ⟨h.program, ?_, fun d hd => (h.queue d hd).mono hsame,
        fun r hr => (h.returned r hr).mono hsame⟩
      intro c' address' hsent
      rcases update_eq_some hsent with ⟨rfl, hnew⟩ | hold
      · cases hnew
        exact ⟨hc, hof.1⟩
      · exact h.sentTo hold
    · exact h

theorem udpStep_turn_eq_some {ch : UdpChoice} : udpStep s (.turn c ch) = some s' ↔
    ∃ a k, s.program c = some (.call a k) ∧
      s' = { s with sentTo := s.sentAfter c a (answer s.udpsockfd ch a) }.goOn c none
        (k (answer s.udpsockfd ch a)) := by
  simp only [udpStep]
  constructor
  · intro h
    split at h
    · next a k hp => exact ⟨a, k, hp, (Option.some.inj h).symm⟩
    · cases h
  · rintro ⟨a, k, hp, rfl⟩
    rw [hp]

theorem udpStep_receive_eq_some : udpStep s (.receive c) = some s' ↔
    ∃ k d rest, s.program c = some (.call .recvfrom k) ∧ s.queue = d :: rest ∧
      s.udpsockfd ≠ -1 ∧
      s' = { s with queue := rest }.goOn c (some d) (k (some d.content)) := by
  simp only [udpStep]
  constructor
  · intro h
    split at h
    · next k d rest hp hqueue =>
      split at h
      · next hfd => exact ⟨k, d, rest, hp, hqueue, hfd, (Option.some.inj h).symm⟩
      · cases h
    · cases h
  · rintro ⟨k, d, rest, hp, hqueue, hfd, rfl⟩
    rw [hp, hqueue]
    exact if_pos hfd

/-- A call that receives a datagram returns its text. -/
theorem Inv.receive (h : s.Inv) (hstep : udpStep s (.receive c) = some s') :
    ∃ d rest, s.queue = d :: rest ∧
      s' = { s with queue := rest }.goOn c (some d) (.ret (bufferText d.content)) := by
  obtain ⟨k, d, rest, hp, hqueue, -, rfl⟩ := udpStep_receive_eq_some.mp hstep
  have hret : k (some d.content) = .ret (bufferText d.content) := (h.program hp).2.1 d.content
  rw [hret]
  exact ⟨d, rest, hqueue, rfl⟩

theorem Inv.step (h : s.Inv) {l : UdpLabel} (hstep : udpStep s l = some s') : s'.Inv := by
  cases l with
  | startUdpServer nSocket nBind =>
    obtain ⟨-, heq⟩ := Option.ite_none_left_eq_some.mp hstep
    cases heq
    exact ⟨h.program, h.sentTo, h.queue, h.returned⟩
  | stopUdpServer =>
    cases hstep
    exact ⟨h.program, h.sentTo, h.queue, h.returned⟩
  | arrive d =>
    obtain ⟨⟨-, hgenuine⟩, heq⟩ := Option.ite_none_right_eq_some.mp hstep
    cases heq
    refine ⟨h.program, h.sentTo, ?_, h.returned⟩
    intro d' hd'
    rcases List.mem_append.mp hd' with hd' | hd'
    · exact h.queue d' hd'
    · obtain rfl := List.mem_singleton.mp hd'
      exact hgenuine
  | sendCommand strIP strCommand =>
    cases hstep
    refine (h.call strIP).goOn (Nat.lt_succ_self _) ?_
    dsimp only
    rw [Function.update_self]
    exact sendCommand_ofCall strIP strCommand
  | turn c ch =>
    obtain ⟨a, k, hp, rfl⟩ := udpStep_turn_eq_some.mp hstep
    obtain ⟨hc, hof⟩ := h.program hp
    exact (h.sent hp _).goOn hc (hof.turn s.udpsockfd ch)
  | receive c =>
    obtain ⟨d, rest, hqueue, rfl⟩ := h.receive hstep
    have hgenuine : s.Genuine d := h.queue d (hqueue ▸ List.mem_cons_self)
    have hrest : ∀ d' ∈ rest, s.Genuine d' := fun d' hd' =>
      h.queue d' (hqueue ▸ List.mem_cons_of_mem d hd')
    have hinv : Inv { s with queue := rest } := ⟨h.program, h.sentTo, hrest, h.returned⟩
    exact hinv.ret ⟨rfl, hgenuine⟩

end Steps

end UdpServer

/-! ### The socket as a mailbox -/

/-- What a step does to the socket. -/
def UdpLabel.op : UdpLabel → Option (Mailbox.Op Datagram ℕ)
  | .arrive d => some (.put d)
  | .receive c => some (.take c)
  | _ => none

/-- The datagrams that have come in, in order. -/
def arrivals (ls : List UdpLabel) : List Datagram := Mailbox.items (ls.filterMap UdpLabel.op)

/-- The calls that have received a datagram, in order. -/
def receivers (ls : List UdpLabel) : List ℕ := Mailbox.takers (ls.filterMap UdpLabel.op)

namespace UdpServer

/-- Who has received which datagram, in order. -/
def taken (s : UdpServer) : List (ℕ × Datagram) :=
  s.returned.filterMap fun r => r.datagram.map fun d => (r.call, d)

def mailbox (s : UdpServer) : Mailbox.State Datagram ℕ := ⟨s.queue, s.taken⟩

section Mailbox

variable {s s' : UdpServer} {c : ℕ} {d : Datagram} {l : UdpLabel}

theorem mem_taken : (c, d) ∈ s.taken ↔ ∃ r ∈ s.returned, r.call = c ∧ r.datagram = some d := by
  rw [taken, List.mem_filterMap]
  constructor
  · rintro ⟨r, hr, hd⟩
    obtain ⟨d', hd', heq⟩ := Option.map_eq_some_iff.mp hd
    cases heq
    exact ⟨r, hr, rfl, hd'⟩
  · rintro ⟨r, hr, rfl, hd⟩
    exact ⟨r, hr, by rw [hd]; rfl⟩

theorem mailbox_goOn (p : AreawellProg (Option Bytes)) :
    (s.goOn c none p).mailbox = s.mailbox := by
  cases p with
  | call a k => rfl
  | ret strRecv =>
    -- a result without a datagram
    have htaken : (s.goOn c none (.ret strRecv)).taken = s.taken := by
      rw [taken, goOn, List.filterMap_append]
      exact List.append_nil _
    rw [mailbox, htaken]
    rfl

theorem mailbox_ret (strRecv : Option Bytes) :
    (s.goOn c (some d) (.ret strRecv)).mailbox = ⟨s.queue, s.taken ++ [(c, d)]⟩ := by
  have htaken : (s.goOn c (some d) (.ret strRecv)).taken = s.taken ++ [(c, d)] := by
    rw [taken, goOn, List.filterMap_append]
    rfl
  rw [mailbox, htaken]
  rfl

theorem mailbox_eq (hstep : udpStep s l = some s') (hop : l.op = none) :
    s'.mailbox = s.mailbox := by
  cases l with
  | startUdpServer nSocket nBind =>
    obtain ⟨-, heq⟩ := Option.ite_none_left_eq_some.mp hstep
    cases heq
    rfl
  | stopUdpServer =>
    cases hstep
    rfl
  | arrive d => cases hop
  | sendCommand strIP strCommand =>
    cases hstep
    exact mailbox_goOn _
  | turn c ch =>
    obtain ⟨a, k, -, rfl⟩ := udpStep_turn_eq_some.mp hstep
    exact mailbox_goOn _
  | receive c => cases hop

theorem Inv.mailbox_step (h : s.Inv) {o : Mailbox.Op Datagram ℕ} (hstep : udpStep s l = some s')
    (hop : l.op = some o) : Mailbox.step s.mailbox o = some s'.mailbox := by
  cases l with
  | startUdpServer nSocket nBind => cases hop
  | stopUdpServer => cases hop
  | arrive d =>
    cases hop
    obtain ⟨-, heq⟩ := Option.ite_none_right_eq_some.mp hstep
    cases heq
    rfl
  | sendCommand strIP strCommand => cases hop
  | turn c ch => cases hop
  | receive c =>
    cases hop
    obtain ⟨d, rest, hqueue, rfl⟩ := h.receive hstep
    rw [mailbox_ret]
    exact Mailbox.step_take_eq_some.mpr ⟨d, rest, hqueue, rfl⟩

end Mailbox

end UdpServer

section Runs

variable {s : UdpServer} {ls : List UdpLabel}

theorem inv_init : udpSystem.init.Inv :=
  ⟨fun hp => (nomatch hp), fun hsent => (nomatch hsent), fun _ hd => absurd hd List.not_mem_nil,
    fun _ hr => absurd hr List.not_mem_nil⟩

/-- To the calls, the socket is a mailbox. -/
theorem mailbox_run (h : udpSystem.Run udpSystem.init ls s) :
    (Mailbox.system Datagram ℕ).Run (Mailbox.system Datagram ℕ).init (ls.filterMap UdpLabel.op)
      s.mailbox :=
  h.filterMap UdpServer.mailbox UdpLabel.op (fun _ _ _ hinv hstep => hinv.step hstep)
    (fun _ _ _ _ hstep hop => UdpServer.mailbox_eq hstep hop)
    (fun _ _ _ _ hinv hstep hop => hinv.mailbox_step hstep hop) inv_init

/-! ### Whose answer a result is -/

/-- A result is empty, or it is the content of a datagram that the device has sent in reply to the
call. -/
def UdpServer.Answered (s : UdpServer) (r : Return) : Prop :=
  r.strRecv = some [] ∨ ∃ d, r.datagram = some d ∧ r.strRecv = some d.content ∧
    d.replyTo = some r.call ∧ inetPton (s.strIP r.call) = some d.sender

/-- A datagram is a reply to the call, and a text for which the buffer has room; or it is empty, as
a text. -/
def Datagram.Answers (d : Datagram) (c : ℕ) : Prop :=
  d.content.headD 0 = 0 ∨ d.replyTo = some c ∧ d.content.length < bufsize ∧ 0 ∉ d.content

/-- A result is right when the datagram it has been taken from is. -/
theorem UdpServer.Inv.answered_iff (h : s.Inv) {r : Return} (hr : r ∈ s.returned) :
    s.Answered r ↔ ∀ d, r.datagram = some d → d.Answers r.call := by
  have hexplains : s.Explains r := h.returned r hr
  obtain ⟨c, strRecv, datagram⟩ := r
  cases datagram with
  | none => exact iff_of_true (.inl hexplains) fun _ hd => (nomatch hd)
  | some d =>
    obtain ⟨rfl, hgenuine⟩ : strRecv = bufferText d.content ∧ s.Genuine d := hexplains
    constructor
    · rintro (hnil | ⟨d', hd', htext, hreply, -⟩) d'' hd''
      · cases hd''
        exact .inl (bufferText_eq_some_nil.mp hnil)
      · cases hd'
        cases hd''
        exact .inr ⟨hreply, bufferText_eq_some_self.mp htext⟩
    · intro hall
      rcases hall d rfl with hnil | ⟨hreply, htext⟩
      · exact .inl (bufferText_eq_some_nil.mpr hnil)
      · -- a reply to the call comes from where its command has gone to
        have hsent : s.sentTo c = some d.sender := hgenuine c hreply
        exact .inr ⟨d, rfl, bufferText_eq_some_self.mpr htext, hreply, (h.sentTo hsent).2⟩

/-- **Whose answer a result is.** Every result of `sendCommand` is empty or the answer of the device
to that call, if and only if the datagrams have come in the order in which the calls have received
them: the `k`-th to come is an answer to the `k`-th call to receive one. -/
theorem sendCommand_answered_iff (h : udpSystem.Run udpSystem.init ls s) :
    (∀ r ∈ s.returned, s.Answered r) ↔
      ∀ x ∈ (receivers ls).zip (arrivals ls), x.2.Answers x.1 := by
  have hinv : s.Inv := h.invariant (fun _ _ _ hI _ hstep => hI.step hstep) inv_init
  have htaken : s.taken = (receivers ls).zip (arrivals ls) := Mailbox.taken_eq_zip (mailbox_run h)
  rw [← htaken]
  constructor
  · rintro hall ⟨c, d⟩ hx
    obtain ⟨r, hr, rfl, hd⟩ := UdpServer.mem_taken.mp hx
    exact (hinv.answered_iff hr).mp (hall r hr) d hd
  · intro hall r hr
    refine (hinv.answered_iff hr).mpr fun d hd => ?_
    exact hall (r.call, d) (UdpServer.mem_taken.mpr ⟨r, hr, rfl, hd⟩)

end Runs

/-- A wire is asked for its state and answers in time. -/
def promptRun : List UdpLabel :=
  [.startUdpServer 3 0, .sendCommand (ascii "192.168.0.111") statePortGet, .turn 0 {}, .turn 0 {},
    .arrive ⟨[192, 168, 0, 111], ascii "1010", some 0⟩, .turn 0 { event := true }, .receive 0]

theorem sendCommand_answered_prompt : ∃ s, udpSystem.Run udpSystem.init promptRun s ∧
    s.returned.map Return.strRecv = [some (ascii "1010")] ∧ ∀ r ∈ s.returned, s.Answered r := by
  refine ⟨_, LTS.System.run_eq_some_iff.mp rfl, rfl, ?_⟩
  refine (@sendCommand_answered_iff _ promptRun
    (LTS.System.run_eq_some_iff.mp rfl)).mpr fun x hx => ?_
  obtain rfl := List.mem_singleton.mp hx
  exact .inr ⟨rfl, by decide, by decide⟩

/-- The answer of the first wire to a call that has waited three times and given up. -/
def lateReply : Datagram := ⟨[192, 168, 0, 111], ascii "1010", some 0⟩

/-- The first wire does not answer in time. Its answer is the only datagram that ever comes, and it
is the result of the next call, which has asked the second wire. -/
theorem late_reply_of_other_wire : ∃ s, ∃ r ∈ UdpServer.returned s, udpSystem.Run udpSystem.init
      [.startUdpServer 3 0, .sendCommand (ascii "192.168.0.111") statePortGet, .turn 0 {},
        .turn 0 {}, .turn 0 {}, .turn 0 {}, .turn 0 {},
        .sendCommand (ascii "192.168.0.112") statePortGet, .turn 1 {}, .turn 1 {},
        .arrive lateReply, .turn 1 { event := true }, .receive 1] s ∧
    r.call = 1 ∧ s.strIP 1 = ascii "192.168.0.112" ∧ r.strRecv = some (ascii "1010") ∧
    r.datagram = some lateReply ∧ ¬ s.Answered r := by
  refine ⟨_, ⟨1, bufferText (ascii "1010"), some lateReply⟩, ?_,
    LTS.System.run_eq_some_iff.mp rfl, rfl, rfl, rfl, rfl, ?_⟩
  · exact List.mem_cons_of_mem _ (List.mem_singleton.mpr rfl)
  · rintro (hnil | ⟨d, hd, -, hreply, -⟩)
    · exact absurd hnil (by decide)
    · cases hd
      cases hreply

end ControllerSystem.ControllerAw2401.CAreawell
