import ControllerSystem.Socket.SmsHandler

/-!
# Packet boundaries in the client thread

A stream of well-formed packets, and the client thread reading it. `Takes R p e` says that the
loop `R` takes the packet `p` in one header read and, if there is a body, one body read, and then
does `e`; what follows from it for a run (`Takes.run`, `Takes.visits`, `Takes.full_cons`) is the
same for both loops.

A receive call of TCP returns as soon as there are any bytes. Both loops give the connection up
on a call that returns fewer bytes than asked for, so the Controller's loop hands on the packets of
a stream exactly when no call does that (`Controller.runSMSHandler_receives_iff`).

The ControlCenter's loop leaves the body of an enquire-link request in the stream. With every
call returning all it asks for, it stays aligned with the packets exactly when no such
request has a body (`ControlCenter.runSMSHandler_aligned_iff`); any stream is taken packet by packet
when a body of that kind counts as packets of its own (`ControlCenter.runSMSHandler_packetsIn`).
-/

open Words ChunkedReader

namespace ControllerSystem

/-! ### Taking one packet -/

/-- The results of the receive calls that take a packet whole. -/
def CmpPacket.reads (p : CmpPacket) : List ℕ :=
  sizeofCmpHeader :: if p.cmpBody = [] then [] else [p.cmpBody.length]

/-- The loop takes the packet `p` by one header read and, for a nonempty body, one body read, and
then does `e`. -/
structure Takes (R : Reader SmsState UInt8 SmsEffect) (p : CmpPacket) (e : SmsEffect) : Prop where
  request_header : R.request .header = some 16
  request_body : R.request (.body p.cmpHeader) = some p.cmpBody.length
  onRecv_header : R.onRecv .header p.cmpHeader.bytes =
    if p.cmpBody = [] then (.header, [e]) else (.body p.cmpHeader, [])
  onRecv_body : p.cmpBody ≠ [] → R.onRecv (.body p.cmpHeader) p.cmpBody = (.header, [e])

namespace Takes

variable {R : Reader SmsState UInt8 SmsEffect} {p : CmpPacket} {e : SmsEffect}

/-- Taking a packet, then running on. -/
theorem run (h : Takes R p e) (u : Bytes) (ks : List ℕ) :
    R.run .header (p.cmpHeader.bytes ++ (p.cmpBody ++ u)) (p.reads ++ ks) =
      let o := R.run .header u ks
      ⟨e :: o.effects, o.state, o.unread⟩ := by
  rw [CmpPacket.reads, sizeofCmpHeader, List.cons_append,
    Reader.run_cons_append p.cmpHeader.length_bytes, h.onRecv_header]
  by_cases hb : p.cmpBody = []
  · simp [hb]
  · -- the second call takes the body, and `e` is done there
    simp only [if_neg hb, List.cons_append, List.nil_append]
    rw [Reader.run_cons_append rfl, h.onRecv_body hb]
    rfl

/-- Between the header and the body of a packet the loop does not stand at a header read. -/
theorem visits (h : Takes R p e) (u u' : Bytes) (ks : List ℕ) :
    (.header, u') ∈ R.visits .header (p.cmpHeader.bytes ++ (p.cmpBody ++ u)) (p.reads ++ ks) ↔
      u' = p.cmpHeader.bytes ++ (p.cmpBody ++ u) ∨ (.header, u') ∈ R.visits .header u ks := by
  rw [CmpPacket.reads, sizeofCmpHeader, List.cons_append,
    Reader.visits_cons_append p.cmpHeader.length_bytes, h.onRecv_header]
  by_cases hb : p.cmpBody = []
  · simp [hb]
  · -- the state between the two calls is a body read
    simp only [if_neg hb, List.cons_append, List.nil_append]
    rw [Reader.visits_cons_append rfl, h.onRecv_body hb]
    simp

/-- When every call returns all it asks for, the first calls take the packet. -/
theorem full_cons (h : Takes R p e) {u : Bytes} {ks : List ℕ}
    (hfull : R.Full .header (p.cmpHeader.bytes ++ (p.cmpBody ++ u)) ks)
    (hend : R.Starved (R.run .header (p.cmpHeader.bytes ++ (p.cmpBody ++ u)) ks)) :
    ∃ ks', ks = p.reads ++ ks' ∧ R.Full .header u ks' ∧ R.Starved (R.run .header u ks') := by
  have htake : (p.cmpHeader.bytes ++ (p.cmpBody ++ u)).take 16 = p.cmpHeader.bytes :=
    List.take_left' p.cmpHeader.length_bytes
  have hdrop : (p.cmpHeader.bytes ++ (p.cmpBody ++ u)).drop 16 = p.cmpBody ++ u :=
    List.drop_left' p.cmpHeader.length_bytes
  obtain ⟨ks₁, rfl, h₁, hend₁⟩ := hfull.exists_cons hend h.request_header (by simp)
  rw [htake, hdrop, h.onRecv_header] at h₁ hend₁
  by_cases hb : p.cmpBody = []
  · -- the header was the whole packet
    refine ⟨ks₁, by simp [CmpPacket.reads, hb, sizeofCmpHeader], ?_, ?_⟩
    · simpa [hb] using h₁
    · simpa [hb] using hend₁
  · -- the next call asks for the body, and gets all of it
    rw [if_neg hb] at h₁ hend₁
    obtain ⟨ks₂, rfl, h₂, hend₂⟩ := h₁.exists_cons hend₁ h.request_body (by simp)
    rw [List.take_left, List.drop_left, h.onRecv_body hb] at h₂ hend₂
    exact ⟨ks₂, by simp [CmpPacket.reads, hb, sizeofCmpHeader], h₂, hend₂⟩

/-- Behind a packet taken whole a run is full when the rest of it is. -/
theorem full_append (h : Takes R p e) (u : Bytes) (ks : List ℕ) :
    R.Full .header (p.cmpHeader.bytes ++ (p.cmpBody ++ u)) (p.reads ++ ks) ↔
      R.Full .header u ks := by
  have htake : (p.cmpHeader.bytes ++ (p.cmpBody ++ u)).take 16 = p.cmpHeader.bytes :=
    List.take_left' p.cmpHeader.length_bytes
  have hdrop : (p.cmpHeader.bytes ++ (p.cmpBody ++ u)).drop 16 = p.cmpBody ++ u :=
    List.drop_left' p.cmpHeader.length_bytes
  have hlen : 16 ≤ (p.cmpHeader.bytes ++ (p.cmpBody ++ u)).length := by simp
  rw [CmpPacket.reads, sizeofCmpHeader, List.cons_append, Reader.Full,
    and_iff_right h.request_header, and_iff_right hlen, htake, hdrop, h.onRecv_header]
  by_cases hb : p.cmpBody = []
  · simp [hb]
  · -- the body is the second full read
    simp only [if_neg hb, List.cons_append, List.nil_append]
    rw [Reader.Full, and_iff_right h.request_body, and_iff_right (by simp), List.take_left,
      List.drop_left, h.onRecv_body hb]

end Takes

/-! ### A few requests -/

/-- An enquire-link request without a body. -/
def enquireLinkPacket : CmpPacket where
  cmpHeader := ⟨16#32, enquireLinkRequest, statusRok, 1#32⟩
  cmpBody := []
  commandLength_eq := rfl
  cmpBody_le := Nat.zero_le _

/-- A bind request, which has a body. -/
def bindPacket : CmpPacket where
  cmpHeader := ⟨18#32, bindRequest, statusRok, 2#32⟩
  cmpBody := [97, 0]
  commandLength_eq := rfl
  cmpBody_le := by decide

/-- An enquire-link request whose body is the bytes of another one. -/
def nestedEnquireLinkPacket : CmpPacket where
  cmpHeader := ⟨32#32, enquireLinkRequest, statusRok, 1#32⟩
  cmpBody := CmpHeader.bytes ⟨16#32, enquireLinkRequest, statusRok, 2#32⟩
  commandLength_eq := rfl
  cmpBody_le := by decide

/-! ### The Controller's loop and short reads -/

namespace Controller

/-- What `ServerReceive` is called with. -/
def receives (es : List SmsEffect) : List (ℤ × ℤ × Bytes) :=
  es.filterMap fun
    | .serverReceive nSocketFD nDataLen pData => some (nSocketFD, nDataLen, pData)
    | _ => none

@[simp] theorem receives_nil : receives [] = [] := rfl

@[simp] theorem receives_serverReceive (fd n : ℤ) (data : Bytes) (es : List SmsEffect) :
    receives (.serverReceive fd n data :: es) = (fd, n, data) :: receives es := rfl

variable {t : SmsThread}

/-- The thread ends without a call of `ServerReceive`. -/
theorem receives_leave : receives t.leave = [] := by
  unfold SmsThread.leave
  split <;> rfl

theorem takes (hvalid : t.externalEvent.isValid) (p : CmpPacket) :
    Takes (runSMSHandler t) p (.serverReceive t.nClientFD (nTotalLen p.cmpHeader) p.image) where
  request_header := rfl
  request_body := by simp [runSMSHandler, smsRequest, p.nBodyLen_eq]
  onRecv_header := by
    have hof : CmpHeader.ofBytes p.cmpHeader.bytes = p.cmpHeader := by
      simpa using p.cmpHeader.ofBytes_bytes []
    by_cases hb : p.cmpBody = []
    · simp [runSMSHandler, onRecv, hof, p.nBodyLen_eq, hb, deliver, hvalid, CmpPacket.image,
        sizeofCmpHeader]
    · have hpos := List.length_pos_of_ne_nil hb
      simp [runSMSHandler, onRecv, hof, p.nBodyLen_eq, hb, hpos, sizeofCmpHeader]
  onRecv_body := by
    intro _
    have hle := p.cmpBody_le
    simp [runSMSHandler, onRecv, SmsThread.receiveBody, p.nBodyLen_eq, hle, deliver, hvalid,
      CmpPacket.image]

/-- A header that arrives in part ends the thread. -/
theorem onRecv_header_short {bs : Bytes} (h : bs.length < 16) :
    (runSMSHandler t).onRecv .header bs = (.closed, t.leave) := by
  have hne : bs.length ≠ sizeofCmpHeader := by simp only [sizeofCmpHeader]; omega
  exact if_neg hne

/-- A body that arrives in part ends the thread. -/
theorem onRecv_body_short {p : CmpPacket} {bs : Bytes} (h : bs.length < p.cmpBody.length) :
    (runSMSHandler t).onRecv (.body p.cmpHeader) bs = (.closed, t.leave) := by
  have hle := p.cmpBody_le
  have hne : ¬ ((bs.length : ℤ) = p.cmpBody.length) := by omega
  simp [runSMSHandler, onRecv, SmsThread.receiveBody, p.nBodyLen_eq, hne,
    show bs.length ≤ maxDataLen by omega]

/-- A run whose next reaction ends the thread hands nothing on. -/
theorem receives_run_leave {s : SmsState} {u : Bytes} {k : ℕ} {ks : List ℕ}
    (hleave : (runSMSHandler t).onRecv s (u.take k) = (.closed, t.leave))
    (hlegal : (runSMSHandler t).Legal .closed (u.drop k) ks) :
    receives ((runSMSHandler t).run s u (k :: ks)).effects = [] := by
  -- a thread that has left its loop makes no further call
  obtain rfl := hlegal.eq_nil rfl
  simp [Reader.run, hleave, receives_leave]

/-- **Cut packets are lost.** In a legal run that uses up the stream the first packet is either
taken whole, or some call cuts it and nothing is handed on any more. -/
theorem legal_cons (hvalid : t.externalEvent.isValid) {p : CmpPacket} {u : Bytes} {ks : List ℕ}
    (hlegal : (runSMSHandler t).Legal .header (p.cmpHeader.bytes ++ (p.cmpBody ++ u)) ks)
    (hend : (runSMSHandler t).Drained
      ((runSMSHandler t).run .header (p.cmpHeader.bytes ++ (p.cmpBody ++ u)) ks)) :
    (∃ ks', ks = p.reads ++ ks' ∧ (runSMSHandler t).Legal .header u ks' ∧
      (runSMSHandler t).Drained ((runSMSHandler t).run .header u ks')) ∨
    (∀ ks', ks ≠ p.reads ++ ks') ∧ receives
      ((runSMSHandler t).run .header (p.cmpHeader.bytes ++ (p.cmpBody ++ u)) ks).effects = [] := by
  have ht := takes hvalid p
  have htake : (p.cmpHeader.bytes ++ (p.cmpBody ++ u)).take 16 = p.cmpHeader.bytes :=
    List.take_left' p.cmpHeader.length_bytes
  have hdrop : (p.cmpHeader.bytes ++ (p.cmpBody ++ u)).drop 16 = p.cmpBody ++ u :=
    List.drop_left' p.cmpHeader.length_bytes
  obtain ⟨k, ks₁, rfl, hk, -, h₁, hend₁⟩ := hlegal.exists_cons hend ht.request_header
    (by simp [CmpHeader.bytes, beBytes])
  rcases Nat.lt_or_eq_of_le hk with hlt | rfl
  · -- the header arrives in part
    right
    have hshort : (runSMSHandler t).onRecv .header
        ((p.cmpHeader.bytes ++ (p.cmpBody ++ u)).take k) = (.closed, t.leave) :=
      onRecv_header_short (by rw [List.length_take]; omega)
    rw [hshort] at h₁
    refine ⟨fun ks' heq => ?_, receives_run_leave hshort h₁⟩
    have hk16 : k = 16 := (List.cons.inj heq).1
    omega
  rw [htake, hdrop, ht.onRecv_header] at h₁ hend₁
  by_cases hb : p.cmpBody = []
  · -- the whole header is the whole packet
    left
    refine ⟨ks₁, by simp [CmpPacket.reads, hb, sizeofCmpHeader], ?_, ?_⟩
    · simpa [hb] using h₁
    · simpa [hb] using hend₁
  rw [if_neg hb] at h₁ hend₁
  obtain ⟨k, ks₂, rfl, hk, -, h₂, hend₂⟩ :=
    h₁.exists_cons hend₁ ht.request_body (by simp [hb])
  rcases Nat.lt_or_eq_of_le hk with hlt | rfl
  · -- the body arrives in part
    right
    have hshort : (runSMSHandler t).onRecv (.body p.cmpHeader) ((p.cmpBody ++ u).take k) =
        (.closed, t.leave) := onRecv_body_short (by rw [List.length_take]; omega)
    rw [hshort] at h₂
    refine ⟨fun ks' heq => ?_, ?_⟩
    · simp only [CmpPacket.reads, if_neg hb, List.cons_append, List.nil_append,
        List.cons.injEq] at heq
      omega
    · rw [Reader.run, htake, hdrop, ht.onRecv_header, if_neg hb]
      exact receives_run_leave hshort h₂
  · -- header and body arrive whole
    left
    rw [List.take_left, List.drop_left, ht.onRecv_body hb] at h₂ hend₂
    exact ⟨ks₂, by simp [CmpPacket.reads, hb, sizeofCmpHeader], h₂, hend₂⟩

/-- **Framing under TCP segmentation.** On a stream of well-formed packets, however it is cut,
the Controller's loop hands exactly those packets to `ServerReceive`, whole and in order, if and
only if each receive call returned a whole header or a whole body. -/
theorem runSMSHandler_receives_iff (nInternalFilter threadID nClientFD : ℤ)
    (ps : List CmpPacket) (ks : List ℕ)
    (hlegal : (runSMSHandler (smsThread nInternalFilter threadID nClientFD)).Legal .header
      (CmpPacket.stream ps) ks)
    (hend : (runSMSHandler (smsThread nInternalFilter threadID nClientFD)).Drained
      ((runSMSHandler (smsThread nInternalFilter threadID nClientFD)).run .header
        (CmpPacket.stream ps) ks)) :
    receives ((runSMSHandler (smsThread nInternalFilter threadID nClientFD)).run .header
        (CmpPacket.stream ps) ks).effects =
      ps.map (fun p => (nClientFD, nTotalLen p.cmpHeader, p.image)) ↔
    ks = ps.flatMap CmpPacket.reads := by
  have hvalid : (smsThread nInternalFilter threadID nClientFD).externalEvent.isValid := rfl
  induction ps generalizing ks with
  | nil =>
    -- nothing was written, so nothing can be received
    obtain rfl : ks = [] := by
      cases ks with
      | nil => rfl
      | cons k ks =>
        obtain ⟨⟨n, -, hpos, -, hle⟩, -⟩ := hlegal
        simp only [CmpPacket.stream_nil, List.length_nil] at hle
        omega
    simp [Reader.run]
  | cons p ps ih =>
    rw [CmpPacket.stream_cons] at hlegal hend ⊢
    rcases legal_cons hvalid hlegal hend with ⟨ks', rfl, hlegal', hend'⟩ | ⟨hcut, hnone⟩
    · -- `p` is handed on whole, and the rest is the induction hypothesis
      have htail := ih ks' hlegal' hend'
      rw [(takes hvalid p).run, List.map_cons, List.flatMap_cons, List.append_cancel_left_eq]
      simpa [smsThread] using htail
    · -- `p` is cut: nothing is handed on, and the calls are not those for `p`
      rw [hnone, List.flatMap_cons]
      constructor
      · intro h
        exact absurd h (by simp)
      · intro h
        exact absurd h (hcut _)

theorem runSMSHandler_receives_iff_whole :
    receives ((runSMSHandler (smsThread 6001 0 5)).run .header
        (CmpPacket.stream [enquireLinkPacket, bindPacket, enquireLinkPacket])
          [16, 16, 2, 16]).effects =
      [enquireLinkPacket, bindPacket, enquireLinkPacket].map
        (fun p => (5, nTotalLen p.cmpHeader, p.image)) ↔
    [16, 16, 2, 16] =
      [enquireLinkPacket, bindPacket, enquireLinkPacket].flatMap CmpPacket.reads :=
  runSMSHandler_receives_iff 6001 0 5 [enquireLinkPacket, bindPacket, enquireLinkPacket]
    [16, 16, 2, 16]
    ⟨⟨16, rfl, by decide, by decide, by decide⟩, ⟨16, rfl, by decide, by decide, by decide⟩,
      ⟨2, rfl, by decide, by decide, by decide⟩, ⟨16, rfl, by decide, by decide, by decide⟩,
      trivial⟩ (.inr rfl)

/-- A header that arrives as ten bytes and six: the first call returns ten, the connection is
closed, and the packet is not handed on. -/
theorem runSMSHandler_loses_cut_header :
    (runSMSHandler (smsThread 6001 0 5)).Legal .header
      (CmpPacket.stream [enquireLinkPacket]) [10] ∧
    (runSMSHandler (smsThread 6001 0 5)).Drained
      ((runSMSHandler (smsThread 6001 0 5)).run .header
        (CmpPacket.stream [enquireLinkPacket]) [10]) ∧
    receives ((runSMSHandler (smsThread 6001 0 5)).run .header
        (CmpPacket.stream [enquireLinkPacket]) [10]).effects ≠
      [enquireLinkPacket].map (fun p => (5, nTotalLen p.cmpHeader, p.image)) := by
  refine ⟨⟨⟨16, rfl, by decide, by decide, by decide⟩, trivial⟩, .inl rfl, ?_⟩
  -- nothing is handed on, and one packet was sent
  intro h
  exact absurd (congrArg List.length h) (by decide)

end Controller

/-! ### The ControlCenter's loop and enquire-link requests -/

namespace ControlCenter

/-- What the loop owes each packet: an enquire-link request is answered, any other packet is
queued. -/
def handled (t : SmsThread) (p : CmpPacket) : SmsEffect :=
  if p.cmpHeader.commandId = enquireLinkRequest then
    .socketSend t.nClientFD (enquireLinkReply p.cmpHeader).bytes
  else
    .sendMessage ⟨t.externalEvent.nEventFilter, t.externalEvent.nEventRecvCommand, t.nClientFD,
      some (nTotalLen p.cmpHeader), p.bytes⟩

/-- Whenever the loop stands at a header read, the unread bytes are the last ones of the packets:
it is at the boundary of two packets or behind the last. -/
def Aligned (R : Reader SmsState UInt8 SmsEffect) (ps : List CmpPacket) (u : Bytes)
    (ks : List ℕ) : Prop :=
  ∀ u', (.header, u') ∈ R.visits .header u ks → ∃ qs, qs <:+ ps ∧ u' = CmpPacket.stream qs

variable {t : SmsThread}

/-- A packet that fits is queued as it came. -/
theorem deliver_packet (hvalid : t.externalEvent.isValid) (p : CmpPacket) :
    deliver t p.cmpHeader p.cmpBody =
      (.header, [.sendMessage ⟨t.externalEvent.nEventFilter, t.externalEvent.nEventRecvCommand,
        t.nClientFD, some (nTotalLen p.cmpHeader), p.bytes⟩]) := by
  have hpos : 0 < nTotalLen p.cmpHeader := by
    rw [p.nTotalLen_eq]
    omega
  have hnat : (nTotalLen p.cmpHeader).toNat = p.cmpHeader.commandLength.toNat := by
    rw [p.nTotalLen_eq, p.commandLength_eq, sizeofCmpHeader]
    omega
  -- 16 + 2048 bytes fit into `cData`
  have hle : ¬ dataLen < (nTotalLen p.cmpHeader).toNat := by
    have := p.cmpBody_le
    rw [hnat, p.commandLength_eq]
    simp only [maxDataLen, sizeofCmpHeader, dataLen] at *
    omega
  have htake : (packetImage p.cmpHeader p.cmpBody).take (nTotalLen p.cmpHeader).toNat =
      p.bytes := by rw [hnat]; exact p.take_image
  simp [deliver, hvalid, SmsThread.deliverMessage, sendMessage, hpos, hle, htake]

theorem takes (hvalid : t.externalEvent.isValid) {p : CmpPacket}
    (hp : p.cmpHeader.commandId ≠ enquireLinkRequest) :
    Takes (runSMSHandler t) p (handled t p) where
  request_header := rfl
  request_body := by simp [runSMSHandler, smsRequest, p.nBodyLen_eq]
  onRecv_header := by
    have hof : CmpHeader.ofBytes p.cmpHeader.bytes = p.cmpHeader := by
      simpa using p.cmpHeader.ofBytes_bytes []
    have hdel := deliver_packet hvalid p
    by_cases hb : p.cmpBody = []
    · rw [hb] at hdel
      simp [runSMSHandler, onRecv, hof, hp, p.nBodyLen_eq, hb, hdel, handled, sizeofCmpHeader]
    · have hpos := List.length_pos_of_ne_nil hb
      simp [runSMSHandler, onRecv, hof, hp, p.nBodyLen_eq, hb, hpos, sizeofCmpHeader]
  onRecv_body := by
    intro _
    have hle := p.cmpBody_le
    simp [runSMSHandler, onRecv, SmsThread.receiveBody, p.nBodyLen_eq, hle,
      deliver_packet hvalid p, handled, hp]

/-- An enquire-link request is answered on its header alone. -/
theorem onRecv_enquireLink {p : CmpPacket} (hp : p.cmpHeader.commandId = enquireLinkRequest) :
    (runSMSHandler t).onRecv .header p.cmpHeader.bytes = (.header, [handled t p]) := by
  have hof : CmpHeader.ofBytes p.cmpHeader.bytes = p.cmpHeader := by
    simpa using p.cmpHeader.ofBytes_bytes []
  simp [runSMSHandler, onRecv, hof, hp, handled, sizeofCmpHeader]

/-- Without a body an enquire-link request is taken like any other packet. -/
theorem takes_enquireLink {p : CmpPacket} (hp : p.cmpHeader.commandId = enquireLinkRequest)
    (hb : p.cmpBody = []) : Takes (runSMSHandler t) p (handled t p) where
  request_header := rfl
  request_body := by simp [runSMSHandler, smsRequest, p.nBodyLen_eq]
  onRecv_header := by rw [onRecv_enquireLink hp, if_pos hb]
  onRecv_body := fun h => absurd hb h

/-- Taking a packet keeps the loop aligned, and what it is aligned with afterwards is the rest
of the packets. -/
theorem aligned_cons {R : Reader SmsState UInt8 SmsEffect} {p : CmpPacket} {e : SmsEffect}
    (h : Takes R p e) {ps : List CmpPacket} {ks : List ℕ} :
    Aligned R (p :: ps) (CmpPacket.stream (p :: ps)) (p.reads ++ ks) ↔
      Aligned R ps (CmpPacket.stream ps) ks := by
  rw [CmpPacket.stream_cons]
  constructor
  · -- a later header read is at the start of one of the packets, and not of `p`
    intro hal u' hu'
    obtain ⟨qs, hqs, rfl⟩ := hal u' ((h.visits _ _ _).mpr (.inr hu'))
    rcases List.suffix_cons_iff.mp hqs with rfl | hqs
    · -- the whole stream is too long to be unread here
      have hlen := Reader.length_le_of_mem_visits hu'
      simp only [CmpPacket.stream_cons, List.length_append, CmpHeader.length_bytes] at hlen
      omega
    · exact ⟨qs, hqs, rfl⟩
  · -- the first header read is at the start of `p`
    intro hal u' hu'
    rcases (h.visits _ _ _).mp hu' with rfl | hu'
    · exact ⟨p :: ps, List.suffix_refl _, (CmpPacket.stream_cons p ps).symm⟩
    · obtain ⟨qs, hqs, rfl⟩ := hal u' hu'
      exact ⟨qs, hqs.trans (List.suffix_cons p ps), rfl⟩

/-- An aligned loop that answers an enquire-link request has not left a body behind. -/
theorem Aligned.cmpBody_eq_nil {p : CmpPacket} {ps : List CmpPacket} {ks : List ℕ}
    (hp : p.cmpHeader.commandId = enquireLinkRequest)
    (hal : Aligned (runSMSHandler t) (p :: ps) (CmpPacket.stream (p :: ps)) (16 :: ks)) :
    p.cmpBody = [] := by
  rw [CmpPacket.stream_cons] at hal
  -- the second header read is where the body starts
  obtain ⟨qs, hqs, heq⟩ := hal (p.cmpBody ++ CmpPacket.stream ps) (by
    rw [Reader.visits_cons_append p.cmpHeader.length_bytes, onRecv_enquireLink hp]
    exact List.mem_cons_of_mem _ (Reader.mem_visits_self _ _ _))
  rcases List.suffix_cons_iff.mp hqs with rfl | ⟨pre, rfl⟩
  · -- the whole stream is longer by a header than what is left of it
    have hlen := congrArg List.length heq
    simp at hlen
  · -- what is left is at most the stream of the other packets, so the body is empty
    have hlen := congrArg List.length heq
    simp only [CmpPacket.stream, List.flatMap_append, List.length_append] at hlen
    exact List.eq_nil_of_length_eq_zero (by omega)

/-- **Alignment with the packets.** With every receive call returning all the bytes it asks for,
the ControlCenter's loop handles the packets of a stream once each, in order, and reads every
header at the start of a packet, if and only if no enquire-link request among them has a body. -/
theorem runSMSHandler_aligned_iff (nInternalFilter threadID nClientFD : ℤ)
    (ps : List CmpPacket) (ks : List ℕ)
    (hfull : (runSMSHandler (smsThread nInternalFilter threadID nClientFD)).Full .header
      (CmpPacket.stream ps) ks)
    (hend : (runSMSHandler (smsThread nInternalFilter threadID nClientFD)).Starved
      ((runSMSHandler (smsThread nInternalFilter threadID nClientFD)).run .header
        (CmpPacket.stream ps) ks)) :
    ((runSMSHandler (smsThread nInternalFilter threadID nClientFD)).run .header
        (CmpPacket.stream ps) ks).effects =
      ps.map (handled (smsThread nInternalFilter threadID nClientFD)) ∧
    Aligned (runSMSHandler (smsThread nInternalFilter threadID nClientFD)) ps
      (CmpPacket.stream ps) ks ↔
    ∀ p ∈ ps, p.cmpHeader.commandId = enquireLinkRequest → p.cmpBody = [] := by
  have hvalid : (smsThread nInternalFilter threadID nClientFD).externalEvent.isValid := rfl
  induction ps generalizing ks with
  | nil =>
    -- there is no header in an empty stream
    obtain rfl : ks = [] := by
      cases ks with
      | nil => rfl
      | cons k ks =>
        obtain ⟨hk, hle, -⟩ := hfull
        obtain rfl := Option.some.inj hk
        exact absurd hle (by decide)
    refine ⟨fun _ => by simp, fun _ => ⟨rfl, fun u' hu' => ⟨[], List.suffix_refl _, ?_⟩⟩⟩
    simpa [Reader.visits] using hu'
  | cons p ps ih =>
    rw [List.forall_mem_cons]
    by_cases htaken : p.cmpHeader.commandId = enquireLinkRequest → p.cmpBody = []
    · -- `p` is taken whole, and the rest is the induction hypothesis
      have ht : Takes (runSMSHandler (smsThread nInternalFilter threadID nClientFD)) p
          (handled (smsThread nInternalFilter threadID nClientFD) p) := by
        by_cases hp : p.cmpHeader.commandId = enquireLinkRequest
        · exact takes_enquireLink hp (htaken hp)
        · exact takes hvalid hp
      rw [CmpPacket.stream_cons] at hfull hend
      obtain ⟨ks', rfl, hfull', hend'⟩ := ht.full_cons hfull hend
      rw [aligned_cons ht, CmpPacket.stream_cons, ht.run, List.map_cons,
        and_iff_right htaken]
      have htail := ih ks' hfull' hend'
      simpa using htail
    · -- the body of an enquire-link request is left in the stream
      obtain ⟨hp, hb⟩ := Classical.not_imp.mp htaken
      refine ⟨fun hboth => absurd ?_ hb, fun h => absurd (h.1 hp) hb⟩
      obtain ⟨ks', rfl, -⟩ := hfull.exists_cons hend (n := 16) rfl (by simp)
      exact hboth.2.cmpBody_eq_nil hp

theorem runSMSHandler_aligned_iff_bodyless :
    ((runSMSHandler (smsThread 6001 0 5)).run .header
        (CmpPacket.stream [enquireLinkPacket, bindPacket, enquireLinkPacket])
          [16, 16, 2, 16]).effects =
      [enquireLinkPacket, bindPacket, enquireLinkPacket].map (handled (smsThread 6001 0 5)) ∧
    Aligned (runSMSHandler (smsThread 6001 0 5)) [enquireLinkPacket, bindPacket, enquireLinkPacket]
      (CmpPacket.stream [enquireLinkPacket, bindPacket, enquireLinkPacket]) [16, 16, 2, 16] ↔
    ∀ p ∈ [enquireLinkPacket, bindPacket, enquireLinkPacket],
      p.cmpHeader.commandId = enquireLinkRequest → p.cmpBody = [] :=
  runSMSHandler_aligned_iff 6001 0 5 [enquireLinkPacket, bindPacket, enquireLinkPacket]
    [16, 16, 2, 16] ⟨rfl, by decide, rfl, by decide, rfl, by decide, rfl, by decide, trivial⟩
    fun n hn => by
      obtain rfl := Option.some.inj hn
      decide

/-- The body of one enquire-link request is answered as if it were another one. -/
theorem runSMSHandler_answers_nested_request :
    (runSMSHandler (smsThread 6001 0 5)).Full .header
      (CmpPacket.stream [nestedEnquireLinkPacket]) [16, 16] ∧
    (runSMSHandler (smsThread 6001 0 5)).Starved
      ((runSMSHandler (smsThread 6001 0 5)).run .header
        (CmpPacket.stream [nestedEnquireLinkPacket]) [16, 16]) ∧
    ((runSMSHandler (smsThread 6001 0 5)).run .header
        (CmpPacket.stream [nestedEnquireLinkPacket]) [16, 16]).effects ≠
      [nestedEnquireLinkPacket].map (handled (smsThread 6001 0 5)) ∧
    ¬ Aligned (runSMSHandler (smsThread 6001 0 5)) [nestedEnquireLinkPacket]
      (CmpPacket.stream [nestedEnquireLinkPacket]) [16, 16] := by
  refine ⟨⟨rfl, by decide, rfl, by decide, trivial⟩, ?_, ?_, ?_⟩
  · intro n hn
    obtain rfl := Option.some.inj hn
    decide
  · intro h
    exact absurd (congrArg List.length h) (by decide)
  · intro h
    exact absurd (h.cmpBody_eq_nil rfl) (by decide)

/-! ### Any stream of whole packets

What a client announces need not be well formed, and a body of an enquire-link request is read as
further packets. `packetsIn` cuts a stream as the loop does.
-/

/-- How much of a stream the loop takes with a header: an enquire-link request is its header. -/
def packetLen (h : CmpHeader) : ℕ :=
  sizeofCmpHeader + if h.commandId = enquireLinkRequest then 0 else (nBodyLen h).toNat

/-- The packets of a stream, as the loop takes them, up to one that is cut off. -/
def packetsIn (u : Bytes) : List Bytes :=
  if packetLen (CmpHeader.ofBytes u) ≤ u.length then
    u.take (packetLen (CmpHeader.ofBytes u)) :: packetsIn (u.drop (packetLen (CmpHeader.ofBytes u)))
  else []
termination_by u.length
decreasing_by
  rw [List.length_drop]
  unfold packetLen at *
  unfold sizeofCmpHeader at *
  omega

/-- What the loop does with a packet. -/
def taken (t : SmsThread) (q : Bytes) : List SmsEffect :=
  if (CmpHeader.ofBytes q).commandId = enquireLinkRequest then
    [.socketSend t.nClientFD (enquireLinkReply (CmpHeader.ofBytes q)).bytes]
  else (deliver t (CmpHeader.ofBytes q) (q.drop sizeofCmpHeader)).2

theorem packetLen_pos (h : CmpHeader) : sizeofCmpHeader ≤ packetLen h := Nat.le_add_right _ _

@[simp] theorem packetsIn_nil : packetsIn [] = [] := by
  rw [packetsIn, if_neg (by decide)]

/-- An enquire-link request is taken without a body. -/
theorem length_of_mem_packetsIn {u q : Bytes} (hq : q ∈ packetsIn u)
    (hid : (CmpHeader.ofBytes q).commandId = enquireLinkRequest) : q.length = sizeofCmpHeader := by
  fun_induction packetsIn u with
  | case1 u hlen ih =>
    rcases List.mem_cons.mp hq with rfl | hq
    · rw [CmpHeader.ofBytes_take (packetLen_pos _)] at hid
      rw [List.length_take_of_le hlen, packetLen, if_pos hid, Nat.add_zero]
    · exact ih hq
  | case2 u hcut => cases hq

/-- A packet that fits is handed on, and the loop goes on. -/
theorem deliver_fst {h : CmpHeader} {body : Bytes} (hfit : nBodyLen h ≤ maxDataLen) :
    (deliver t h body).1 = .header := by
  -- there is room for what is copied
  have hlen : ¬ dataLen < (nTotalLen h).toNat := by
    rw [nBodyLen_eq] at hfit
    simp only [maxDataLen, dataLen] at hfit ⊢
    split at hfit <;> omega
  have hsend : ∀ nType nCommand, (t.deliverMessage nType nCommand h body).1 = .header := by
    intro nType nCommand
    unfold SmsThread.deliverMessage sendMessage
    dsimp only
    by_cases hpos : 0 < nTotalLen h
    · rw [if_pos hpos, if_neg hlen]
    · rw [if_neg hpos]
  unfold deliver
  split <;> exact hsend _ _

/-- With every receive call returning all it asks for, the first calls take the packet in front. -/
theorem full_take {u : Bytes} {ks : List ℕ} (hlen : packetLen (CmpHeader.ofBytes u) ≤ u.length)
    (hfit : packetLen (CmpHeader.ofBytes u) ≤ sizeofCmpHeader + maxDataLen)
    (hfull : (runSMSHandler t).Full .header u ks)
    (hend : (runSMSHandler t).Starved ((runSMSHandler t).run .header u ks)) :
    ∃ ks', (runSMSHandler t).Full .header (u.drop (packetLen (CmpHeader.ofBytes u))) ks' ∧
      (runSMSHandler t).Starved
        ((runSMSHandler t).run .header (u.drop (packetLen (CmpHeader.ofBytes u))) ks') ∧
      ((runSMSHandler t).run .header u ks).effects =
        taken t (u.take (packetLen (CmpHeader.ofBytes u))) ++ ((runSMSHandler t).run .header
          (u.drop (packetLen (CmpHeader.ofBytes u))) ks').effects := by
  have hhead : CmpHeader.ofBytes (u.take 16) = CmpHeader.ofBytes u :=
    CmpHeader.ofBytes_take (Nat.le_refl 16)
  rw [taken, CmpHeader.ofBytes_take (packetLen_pos _)]
  generalize CmpHeader.ofBytes u = h at *
  have hu : 16 ≤ u.length := le_trans (packetLen_pos h) hlen
  have hheader : (runSMSHandler t).onRecv .header (u.take 16) =
      if h.commandId = enquireLinkRequest then
        (.header, [.socketSend t.nClientFD (enquireLinkReply h).bytes])
      else if 0 < nBodyLen h then (.body h, []) else deliver t h [] := by
    show onRecv t .header (u.take 16) = _
    have hsize : (u.take 16).length = sizeofCmpHeader := List.length_take_of_le hu
    rw [onRecv, if_pos hsize, hhead]
  obtain ⟨ks₁, rfl, h₁, hend₁⟩ := hfull.exists_cons hend (n := 16) rfl hu
  rw [Reader.run, hheader]
  rw [hheader] at h₁ hend₁
  by_cases hid : h.commandId = enquireLinkRequest
  · -- the answer, and the next header
    have hn : packetLen h = 16 := by rw [packetLen, if_pos hid]; rfl
    rw [if_pos hid] at h₁ hend₁ ⊢
    rw [if_pos hid, hn]
    exact ⟨ks₁, h₁, hend₁, rfl⟩
  rw [if_neg hid] at h₁ hend₁ ⊢
  rw [if_neg hid]
  have hn : packetLen h = 16 + (nBodyLen h).toNat := by rw [packetLen, if_neg hid]; rfl
  have hbody : nBodyLen h ≤ maxDataLen := by
    rw [hn, sizeofCmpHeader] at hfit
    omega
  have hdrop : (u.take (packetLen h)).drop sizeofCmpHeader =
      (u.drop 16).take (nBodyLen h).toNat := by
    rw [hn, List.drop_take, sizeofCmpHeader, Nat.add_sub_cancel_left]
  rw [hdrop, hn, ← List.drop_drop]
  by_cases hpos : 0 < nBodyLen h
  · rw [if_pos hpos] at h₁ hend₁ ⊢
    -- the next call takes the body
    obtain ⟨ks₂, rfl, h₂, hend₂⟩ := h₁.exists_cons hend₁ (n := (nBodyLen h).toNat) rfl
      (by rw [List.length_drop]; omega)
    have hreceived : (runSMSHandler t).onRecv (.body h) ((u.drop 16).take (nBodyLen h).toNat) =
        deliver t h ((u.drop 16).take (nBodyLen h).toNat) := by
      have hsize : ((u.drop 16).take (nBodyLen h).toNat).length = (nBodyLen h).toNat :=
        List.length_take_of_le (by rw [List.length_drop]; omega)
      show t.receiveBody _ (deliver t) h _ = _
      rw [SmsThread.receiveBody, hsize, if_neg (by omega), if_neg (by omega)]
    rw [hreceived, deliver_fst hbody] at h₂ hend₂
    refine ⟨ks₂, h₂, hend₂, ?_⟩
    rw [Reader.run, hreceived, deliver_fst hbody]
    rfl
  · -- there is no body
    have hzero : (nBodyLen h).toNat = 0 := by omega
    rw [if_neg hpos, deliver_fst hbody] at h₁ hend₁ ⊢
    rw [hzero, List.drop_zero, List.take_zero]
    exact ⟨ks₁, h₁, hend₁, rfl⟩

/-- **Every stream of whole packets.** With every receive call returning all the bytes it asks for,
the ControlCenter's loop takes a stream packet by packet, as `packetsIn` cuts it. -/
theorem runSMSHandler_packetsIn (u : Bytes) (ks : List ℕ) (hwhole : (packetsIn u).flatten = u)
    (hfit : ∀ q ∈ packetsIn u, q.length ≤ sizeofCmpHeader + maxDataLen)
    (hfull : (runSMSHandler t).Full .header u ks)
    (hend : (runSMSHandler t).Starved ((runSMSHandler t).run .header u ks)) :
    ((runSMSHandler t).run .header u ks).effects = (packetsIn u).flatMap (taken t) := by
  fun_induction packetsIn u generalizing ks with
  | case2 u hcut =>
    -- there is nothing to take
    obtain rfl : u = [] := hwhole.symm
    cases ks with
    | nil => rfl
    | cons k ks =>
      obtain ⟨hk, hle, -⟩ := hfull
      obtain rfl := Option.some.inj hk
      exact absurd hle (by decide)
  | case1 u hlen ih =>
    have hfirst := hfit _ List.mem_cons_self
    rw [List.length_take_of_le hlen] at hfirst
    obtain ⟨ks', hfull', hend', heffects⟩ := full_take hlen hfirst hfull hend
    have hrest := List.append_cancel_left (hwhole.trans (List.take_append_drop _ u).symm)
    rw [heffects, List.flatMap_cons,
      ih ks' hrest (fun q hq => hfit q (List.mem_cons_of_mem _ hq)) hfull' hend']

end ControlCenter
end ControllerSystem
