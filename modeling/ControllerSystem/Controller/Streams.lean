import ControllerSystem.Controller.Bound

/-!
# What is written to a client

Every send of the Controller, whichever thread makes it, adds to the stream of bytes of one
connection, the one its descriptor denotes by then. A reader takes the stream apart by the
`command_length` of its headers (`SmsFraming`), so each send must be a packet, and each packet must
go out whole.

* `streams_packets` — what has been written to a client is a sequence of well-formed packets, as
  long as no greeting is sent to a client and no send is cut short;
* `greeting_is_no_packet` — the stream of a client that is greeted begins with seven bytes that are
  no packet.
-/

open Words Calls KeepAlive

namespace ControllerSystem.Controller

/-! ### Streams -/

/-- The bytes of a send that have been taken, with the socket. -/
def wrote : ControllerEvent → Option (ℤ × Bytes)
  | ⟨.clientSend nSocket pBuf, nRet⟩ => some (nSocket, pBuf.take (Int.toNat nRet))
  | ⟨.centerSend nSocketFD pBuf, nRet⟩ => some (nSocketFD, pBuf.take (Int.toNat nRet))
  | _ => none

/-- The threads, with what has been written to each connection. -/
structure Streams where
  threads : Threads
  written : ℕ → Bytes

/-- The bytes go to the connection the descriptor denotes, if there is one. -/
def Streams.writtenAfter (s : Streams) (e : ControllerEvent) : ℕ → Bytes :=
  match wrote e with
  | some (nSocket, bytes) =>
    match s.threads.sockets.conn nSocket with
    | some c => Function.update s.written c (s.written c ++ bytes)
    | none => s.written
  | none => s.written

/-- A call adds to one stream, or to none. -/
theorem Streams.writtenAfter_cases (s : Streams) (e : ControllerEvent) :
    s.writtenAfter e = s.written ∨ ∃ nSocket bytes c, wrote e = some (nSocket, bytes) ∧
      s.threads.sockets.conn nSocket = some c ∧
      s.writtenAfter e = Function.update s.written c (s.written c ++ bytes) := by
  unfold Streams.writtenAfter
  split
  · next nSocket bytes hwrote =>
    split
    · next c hconn => exact .inr ⟨nSocket, bytes, c, hwrote, hconn, rfl⟩
    · exact .inl rfl
  · exact .inl rfl

/-- The call a step makes. -/
def called (mConfig : Config) (s : Threads) : ThreadsLabel → Option ControllerEvent
  | .call w ch => (turn (s.program w) s.device ch).map fun r => r.2.2
  | .tick ch => (turn (enquireLinkRound mConfig) s.device ch).map fun r => r.2.2
  | _ => none

def streamsStep (mConfig : Config) (s : Streams) (l : ThreadsLabel) : Option Streams :=
  ((threadsSystem mConfig).step s.threads l).map fun t =>
    { threads := t
      written := (called mConfig s.threads l).elim s.written s.writtenAfter }

/-- The Controller, call by call, with its streams. -/
def streamsSystem (mConfig : Config) : LTS.System Streams ThreadsLabel where
  init := ⟨(threadsSystem mConfig).init, fun _ => []⟩
  step := streamsStep mConfig

/-- A sequence of well-formed packets. -/
def IsPackets (bs : Bytes) : Prop := ∃ ps : List CmpPacket, bs = ps.flatMap CmpPacket.bytes

theorem isPackets_nil : IsPackets [] := ⟨[], rfl⟩

theorem IsPackets.append {bs : Bytes} (h : IsPackets bs) (p : CmpPacket) :
    IsPackets (bs ++ p.bytes) := by
  obtain ⟨ps, rfl⟩ := h
  refine ⟨ps ++ [p], ?_⟩
  rw [List.flatMap_append, List.flatMap_singleton]

/-- A sequence of packets is empty or begins with a header. -/
theorem IsPackets.length (bs : Bytes) (h : IsPackets bs) (hne : bs ≠ []) :
    sizeofCmpHeader ≤ bs.length := by
  obtain ⟨ps, rfl⟩ := h
  cases ps with
  | nil => exact absurd rfl hne
  | cons p ps =>
    rw [List.flatMap_cons, List.length_append, p.length_bytes]
    exact Nat.le_trans (Nat.le_add_right _ _) (Nat.le_add_right _ _)

/-! ### The packets of the programs -/

/-- What is sent to a new client. -/
def greeting : Bytes := ascii "welcome"

/-- A send is one of a packet, or of the greeting. -/
def Framed : ControllerCall → Prop
  | .clientSend _ pBuf => (∃ p : CmpPacket, pBuf = p.bytes) ∨ pBuf = greeting
  | .centerSend _ pBuf => ∃ p : CmpPacket, pBuf = p.bytes
  | _ => True

section Programs

variable {nSocket : ℤ} {mConfig : Config} {pData : Bytes}

/-- A header alone is a packet. -/
theorem formatHeader_packet (nCommand nStatus nSequence : Word) :
    ∃ p : CmpPacket, (formatHeader nCommand nStatus nSequence).bytes = p.bytes :=
  ⟨⟨formatHeader nCommand nStatus nSequence, [], rfl, Nat.zero_le _⟩, (List.append_nil _).symm⟩

/-- A header with the length of a body that fits, and the body. -/
theorem request_packet (nCommand nStatus nSequence : Word) {body : Bytes}
    (hfit : ¬ maxDataLen < body.length + 1) :
    ∃ p : CmpPacket, CmpHeader.bytes { formatHeader nCommand nStatus nSequence with
      commandLength := .ofNat 32 (sizeofCmpHeader + (body.length + 1)) } ++ (body ++ [0]) =
        p.bytes := by
  have hlen : (body ++ [0]).length = body.length + 1 := List.length_append
  have hle : body.length + 1 ≤ maxDataLen := Nat.le_of_not_lt hfit
  refine ⟨⟨_, body ++ [0], ?_, hlen ▸ hle⟩, rfl⟩
  rw [hlen]
  refine (BitVec.toNat_ofNat _ _).trans (Nat.mod_eq_of_lt ?_)
  calc sizeofCmpHeader + (body.length + 1)
      ≤ sizeofCmpHeader + maxDataLen := Nat.add_le_add_left hle _
    _ < 2 ^ 32 := by decide

theorem CenterRequestCall.framed {c : ControllerCall} (hc : CenterRequestCall c) : Framed c := by
  cases hc with
  | command => exact formatHeader_packet _ _ _
  | request _ _ _ _ hfit => exact request_packet _ _ _ hfit
  | _ => trivial

/-- What a request answers is a header, and what it sends to the center a packet. -/
theorem RequestCall.framed {c : ControllerCall} (hc : RequestCall nSocket c) : Framed c := by
  cases hc with
  | answer => exact .inl (formatHeader_packet _ _ _)
  | center hc => exact hc.framed
  | _ => trivial

theorem onCMPWith_framed : (onCMPWith (cmpRequest mConfig) nSocket pData).Forall Framed := by
  refine onCMPWith_calls.mono fun c hc => ?_
  rcases hc with hc | hc
  · exact hc.framed
  · cases hc <;> trivial

theorem onReceiveMessage_framed (notice : Notice) : (onReceiveMessage notice).Forall Framed := by
  cases notice with
  | clientConnect nId => exact ⟨.inr rfl, fun _ => trivial⟩
  | clientDisconnect nId => exact ⟨trivial, fun _ => trivial⟩
  | centerDisconnect nId => trivial

theorem DropCall.framed {c : ControllerCall} (hc : DropCall c) : Framed c := by
  cases hc <;> trivial

theorem AskCall.framed {c : ControllerCall} (hc : AskCall c) : Framed c := by
  cases hc with
  | link hc => cases hc <;> trivial
  | ask nSocket nSequence => exact (@RequestCall.answer nSocket _ _ _).framed
  | center hc => exact hc.framed
  | select => trivial

theorem enquireLinkRound_framed : (enquireLinkRound mConfig).Forall Framed :=
  enquireLinkRound_calls.mono fun _ hc => hc.elim DropCall.framed AskCall.framed

end Programs

/-! ### What a step writes -/

/-- A send to a client is not of the greeting, and takes all of the packet or nothing. -/
def WholeSends (s : Streams) : ThreadsLabel → Prop
  | .call w ch => ∀ nSocket pBuf,
      (next (s.threads.program w) = some (.clientSend nSocket pBuf) ∨
        next (s.threads.program w) = some (.centerSend nSocket pBuf)) →
      ∀ c, s.threads.sockets.conn nSocket = some c → s.threads.toCenter c = false →
        ch.number ≤ 0 ∨ ch.number = pBuf.length ∧ pBuf ≠ greeting
  | _ => True

section Steps

variable {mConfig : Config} {s s' : Streams} {l : ThreadsLabel} {w : Worker}
  {p : ControllerProg Unit} {d : Device} {ch : DeviceChoice} {e : ControllerEvent}

/-- What a turn has written is the front of the packet the program sends next. -/
theorem Turns.wrote {p : ControllerProg Unit} {d d' : Device} {p' : ControllerProg Unit}
    (h : Turns p d ch p' d' e) {nSocket : ℤ} {bytes : Bytes}
    (hwrote : Controller.wrote e = some (nSocket, bytes)) :
    ∃ pBuf, (next p = some (.clientSend nSocket pBuf) ∨ next p = some (.centerSend nSocket pBuf)) ∧
      bytes = pBuf.take ch.number.toNat := by
  cases h with
  | call c k =>
    cases c with
    | clientSend n pBuf =>
      obtain ⟨rfl, rfl⟩ := Prod.mk.inj (Option.some.inj hwrote)
      exact ⟨pBuf, .inl rfl, rfl⟩
    | centerSend n pBuf =>
      obtain ⟨rfl, rfl⟩ := Prod.mk.inj (Option.some.inj hwrote)
      exact ⟨pBuf, .inr rfl, rfl⟩
    | _ => cases hwrote
  | update => cases hwrote

/-- The next call of a program is one it may make. -/
theorem forall_next {P : ControllerCall → Prop} (hp : p.Forall P) {c : ControllerCall}
    (hnext : next p = some c) : P c := by
  cases p with
  | ret a => cases hnext
  | call c' k =>
    obtain rfl := Option.some.inj hnext
    exact hp.1

/-- The streams of the clients are sequences of packets, and all programs send packets. -/
structure Streams.Framing (s : Streams) : Prop where
  wellformed : s.threads.Wellformed
  programs : ∀ w, (s.threads.program w).Forall Framed
  fresh : ∀ c, s.threads.sockets.opened ≤ c → s.written c = []
  packets : ∀ c, s.threads.toCenter c = false → IsPackets (s.written c)

/-- A send that is not cut short adds a packet, or nothing. -/
theorem IsPackets.send {bs pBuf : Bytes} (h : IsPackets bs)
    (hframed : (∃ p : CmpPacket, pBuf = p.bytes) ∨ pBuf = greeting) {nRet : ℤ}
    (hwhole : nRet ≤ 0 ∨ nRet = pBuf.length ∧ pBuf ≠ greeting) :
    IsPackets (bs ++ pBuf.take nRet.toNat) := by
  rcases hwhole with hnone | ⟨hall, hne⟩
  · rw [Int.toNat_of_nonpos hnone, List.take_zero, List.append_nil]
    exact h
  · obtain ⟨p, rfl⟩ := hframed.resolve_right hne
    rw [hall, Int.toNat_natCast, List.take_length]
    exact h.append p

/-- A turn keeps the streams in order. -/
theorem Streams.Framing.write (h : s.Framing)
    (hok : WholeSends s (.call w ch))
    (hturn : Turns (s.threads.program w) s.threads.device ch p d e) :
    (∀ c, s.threads.sockets.opened ≤ c → s.writtenAfter e c = []) ∧
      ∀ c, s.threads.toCenter c = false → IsPackets (s.writtenAfter e c) := by
  rcases s.writtenAfter_cases e with heq | ⟨nSocket, bytes, c, hwrote, hconn, heq⟩
  · rw [heq]
    exact ⟨h.fresh, h.packets⟩
  obtain ⟨pBuf, hnext, rfl⟩ := hturn.wrote hwrote
  rw [heq]
  constructor
  · intro c' hc'
    -- a connection that has a descriptor has been opened
    have hne : c' ≠ c := Nat.ne_of_gt (Nat.lt_of_lt_of_le (h.wellformed.valid.lt hconn) hc')
    rw [Function.update_of_ne hne]
    exact h.fresh c' hc'
  · intro c' hclient
    rcases eq_or_ne c' c with rfl | hne
    · rw [Function.update_self]
      have hframed : (∃ p : CmpPacket, pBuf = p.bytes) ∨ pBuf = greeting := by
        rcases hnext with hnext | hnext
        · exact forall_next (h.programs w) hnext
        · exact .inl (forall_next (h.programs w) hnext)
      exact (h.packets c' hclient).send hframed (hok nSocket pBuf hnext c' hconn hclient)
    · rw [Function.update_of_ne hne]
      exact h.packets c' hclient

/-- A new program for one worker. -/
theorem forall_update {program : Worker → ControllerProg Unit} {P : ControllerCall → Prop}
    (h : ∀ w, (program w).Forall P) (hp : p.Forall P) (w w' : Worker) :
    (Function.update program w p w').Forall P := by
  rcases eq_or_ne w' w with rfl | hne
  · rw [Function.update_self]
    exact hp
  · rw [Function.update_of_ne hne]
    exact h w'

/-- A new connection has nothing written to it. -/
theorem Streams.Framing.opened (h : s.Framing) (f : ℤ) (toCenter : Bool) (queue : List Notice) :
    Streams.Framing ⟨s.threads.opened f toCenter queue, s.written⟩ where
  wellformed := h.wellformed.opened f toCenter queue
  programs := forall_update (p := .ret ()) h.programs trivial _
  fresh := fun c hc => h.fresh c (Nat.le_of_succ_le hc)
  packets := by
    intro c hclient
    rcases eq_or_ne c s.threads.sockets.opened with rfl | hne
    · show IsPackets (s.written _)
      rw [h.fresh _ (Nat.le_refl _)]
      exact isPackets_nil
    · have hold : (s.threads.opened f toCenter queue).toCenter c = s.threads.toCenter c :=
        Function.update_of_ne hne _ _
      exact h.packets c (hold.symm.trans hclient)

/-- The round begins with `vEnquireLink`, and writes nothing yet. -/
theorem enquireLinkRound_wrote {d' : Device}
    (hturn : Turns (enquireLinkRound mConfig) d ch p d' e) : wrote e = none := by
  cases hturn <;> rfl

/-- **Every step keeps the streams of the clients in order.** -/
theorem Streams.Framing.step (h : s.Framing) (hok : WholeSends s l)
    (hstep : (streamsSystem mConfig).step s l = some s') : s'.Framing := by
  obtain ⟨t, ht, rfl⟩ := Option.map_eq_some_iff.mp hstep
  have hwf : t.Wellformed := h.wellformed.step ht
  cases l with
  | call w ch =>
    obtain ⟨⟨p, d, e⟩, hturn, rfl⟩ := Option.map_eq_some_iff.mp ht
    have hcalled : called mConfig s.threads (.call w ch) = some e := by
      rw [called, hturn]
      rfl
    dsimp only
    rw [hcalled]
    have hturns := turns_of_turn hturn
    obtain ⟨hfresh, hpackets⟩ := h.write hok hturns
    exact ⟨hwf, forall_update h.programs (hturns.forall_step (h.programs w)).2 w, hfresh,
      hpackets⟩
  | tick ch =>
    change (if Idle _ then Option.map _ _ else none) = some t at ht
    split at ht
    · obtain ⟨⟨p, d, e⟩, hturn, rfl⟩ := Option.map_eq_some_iff.mp ht
      have hcalled : called mConfig s.threads (.tick ch) = some e := by
        rw [called, hturn]
        rfl
      dsimp only
      have hturns := turns_of_turn hturn
      rw [hcalled]
      rcases s.writtenAfter_cases e with heq | ⟨nSocket, bytes, c, hwrote, -⟩
      · rw [Option.elim_some, heq]
        exact ⟨hwf, forall_update h.programs (hturns.forall_step enquireLinkRound_framed).2
          .keepAlive, h.fresh, h.packets⟩
      · rw [enquireLinkRound_wrote hturns] at hwrote
        cases hwrote
    · cases ht
  | accept nFD =>
    cases steps_of_step ht
    exact h.opened nFD false _
  | connect nFD =>
    cases steps_of_step ht
    exact h.opened nFD true _
  | receive c pData =>
    cases steps_of_step ht with
    | receive hfd => exact ⟨hwf, forall_update h.programs onCMPWith_framed _, h.fresh, h.packets⟩
  | hangUp c =>
    cases steps_of_step ht
    exact ⟨hwf, h.programs, h.fresh, h.packets⟩
  | socketClose c =>
    cases steps_of_step ht
    exact ⟨hwf, h.programs, h.fresh, h.packets⟩
  | notice =>
    cases steps_of_step ht
    exact ⟨hwf, forall_update h.programs (onReceiveMessage_framed _) _, h.fresh, h.packets⟩

/-- **The streams of the clients.** In every run, whatever the threads do and in whatever order,
the bytes written to a client are a sequence of well-formed packets, as long as no greeting is sent
to a client and every send to one takes all of its packet or nothing. -/
theorem streams_packets {ls : List ThreadsLabel}
    (h : (streamsSystem mConfig).RunWhere WholeSends (streamsSystem mConfig).init ls s) (c : ℕ)
    (hclient : s.threads.toCenter c = false) :
    ∃ ps : List CmpPacket, s.written c = ps.flatMap CmpPacket.bytes := by
  have hwell : (threadsSystem mConfig).init.Wellformed := wellformed_init
  have hinit : (streamsSystem mConfig).init.Framing :=
    ⟨hwell, fun _ => trivial, fun _ _ => rfl, fun _ _ => isPackets_nil⟩
  have hframing := h.invariant (fun _ _ _ hI hok hstep => Streams.Framing.step hI hok hstep) hinit
  exact hframing.packets c hclient

end Steps

/-- An unbind request. -/
def unbindPacket : Bytes := CmpHeader.bytes ⟨16#32, unbindRequest, statusRok, 8#32⟩

/-- A client binds a device and is answered, and then unbinds it and is answered. -/
def answeredBind : List ThreadsLabel :=
  bindOne ++ [.call (.client 0) { number := 16 }, .call (.client 0) {}, .receive 0 unbindPacket,
    .call (.client 0) {}, .call (.client 0) {}, .call (.client 0) { number := 16 }]

theorem streams_packets_bind : ∃ s,
    (streamsSystem aloneConfig).Run (streamsSystem aloneConfig).init answeredBind s ∧
    s.written 0 = (formatHeader bindResponse statusRok 7#32).bytes ++
      (formatHeader unbindResponse statusRok 8#32).bytes ∧
    ∃ ps : List CmpPacket, s.written 0 = ps.flatMap CmpPacket.bytes := by
  have hrun : ∃ s, (streamsSystem aloneConfig).RunWhere WholeSends (streamsSystem aloneConfig).init
      answeredBind s ∧ s.threads.toCenter 0 = false ∧
      s.written 0 = (formatHeader bindResponse statusRok 7#32).bytes ++
        (formatHeader unbindResponse statusRok 8#32).bytes := by
    refine ⟨_, .cons trivial rfl (.cons trivial rfl (.cons ?_ rfl (.cons ?_ rfl (.cons ?_ rfl
      (.cons ?send rfl (.cons ?_ rfl (.cons trivial rfl (.cons ?_ rfl (.cons ?_ rfl
        (.cons ?send' rfl (.nil _))))))))))), rfl, rfl⟩
    case send | send' =>
      -- the response goes out whole
      rintro nSocket pBuf (h | h)
      · cases h
        exact fun _ _ _ => .inr ⟨rfl, by decide⟩
      · cases h
    all_goals
      rintro nSocket pBuf (h | h)
      · cases h
      · cases h
  obtain ⟨s, hrun, hclient, hwritten⟩ := hrun
  exact ⟨s, hrun.toRun, hwritten, streams_packets hrun 0 hclient⟩

/-- A client is accepted and greeted: what it gets is not a sequence of packets. -/
theorem greeting_is_no_packet : ∃ s,
    (streamsSystem aloneConfig).Run (streamsSystem aloneConfig).init
      [.accept 5, .notice, .call .loop { number := 7 }] s ∧
    s.threads.toCenter 0 = false ∧ s.written 0 = ascii "welcome" ∧
    ¬ ∃ ps : List CmpPacket, s.written 0 = ps.flatMap CmpPacket.bytes := by
  refine ⟨_, LTS.System.run_eq_some_iff.mp rfl, rfl, rfl, fun hpackets => ?_⟩
  exact absurd (IsPackets.length _ hpackets (by decide)) (by decide)

end ControllerSystem.Controller
