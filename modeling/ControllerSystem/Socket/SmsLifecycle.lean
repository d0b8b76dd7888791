import ControllerSystem.Socket.SmsFraming

/-!
# The life of a connection in the Controller

`CSocketServer::runSMSHandler` reads a stream of well-formed packets until a receive call fails,
finds the end of the stream or returns less than it was asked for. In the last two cases the loop
does not tell one from the other, and a result of -1 goes the same way: a header that is not sixteen
bytes long, a body that is not as long as announced.

`run_returns` says what the thread has done after any number of such calls: it has handed on the
packets in front that the calls have taken whole, and when a call was not full it has left its loop
by `SmsThread.leave`.
-/

open Words ChunkedReader

namespace ControllerSystem.Controller

/-! ### What a thread tells of its end -/

/-- The sockets whose end the receiver is told. -/
def disconnects (es : List SmsEffect) : List ℤ :=
  es.filterMap fun
    | .sendMessage m =>
      if m.mtype = externalEvent.nEventFilter ∧ m.nCommand = externalEvent.nEventDisconnect then
        some m.nId
      else none
    | _ => none

/-- The sockets closed. -/
def closes (es : List SmsEffect) : List ℤ :=
  es.filterMap fun
    | .socketClose nSockFD => some nSockFD
    | _ => none

section Leave

variable (nInternalFilter threadID nClientFD : ℤ)

/-- The notice to the server's own message loop has another command than the disconnect notice. -/
theorem disconnects_leave :
    disconnects (smsThread nInternalFilter threadID nClientFD).leave = [nClientFD] := by
  have hother : ¬ (nInternalFilter = externalEvent.nEventFilter ∧
      eventCommandThreadExit = externalEvent.nEventDisconnect) := fun h => absurd h.2 (by decide)
  have hlast : disconnects [.sendMessage ⟨nInternalFilter, eventCommandThreadExit, threadID, none,
      []⟩] = [] := by
    rw [disconnects]
    exact List.filterMap_cons_none (if_neg hother)
  -- the disconnect notice comes first, and the close is no message
  calc disconnects (smsThread nInternalFilter threadID nClientFD).leave
      = nClientFD :: disconnects [.sendMessage ⟨nInternalFilter, eventCommandThreadExit,
          threadID, none, []⟩] := rfl
    _ = [nClientFD] := by rw [hlast]

theorem closes_leave :
    closes (smsThread nInternalFilter threadID nClientFD).leave = [nClientFD] := rfl

end Leave

/-! ### Runs -/

/-- How many packets in front of a stream the results of the receive calls take whole. -/
def wholePackets : List CmpPacket → List ℕ → ℕ
  | [], _ => 0
  | p :: ps, ks =>
    if p.reads <+: ks then wholePackets ps (ks.drop p.reads.length) + 1 else 0

theorem wholePackets_append (p : CmpPacket) (ps : List CmpPacket) (ks : List ℕ) :
    wholePackets (p :: ps) (p.reads ++ ks) = wholePackets ps ks + 1 := by
  rw [wholePackets, if_pos (List.prefix_append _ _), List.drop_left]

theorem wholePackets_of_cut {p : CmpPacket} {ks : List ℕ} (h : ¬ p.reads <+: ks)
    (ps : List CmpPacket) : wholePackets (p :: ps) ks = 0 := if_neg h

/-- What `runSMSHandler` does with a packet. -/
def handsOn (t : SmsThread) (p : CmpPacket) : SmsEffect :=
  .serverReceive t.nClientFD (nTotalLen p.cmpHeader) p.image

variable {t : SmsThread}

/-- All calls so far have returned what they were asked for, and the thread has done nothing. -/
def Waiting (t : SmsThread) (s : SmsState) (u : Bytes) (ks : List ℕ) : Prop :=
  (runSMSHandler t).Full s u ks ∧ ((runSMSHandler t).run s u ks).effects = []

/-- A call has not returned what it was asked for, and the thread has done nothing else than to
end. -/
def Ended (t : SmsThread) (s : SmsState) (u : Bytes) (ks : List ℕ) : Prop :=
  ¬ (runSMSHandler t).Full s u ks ∧ ((runSMSHandler t).run s u ks).effects = t.leave ∧
    ((runSMSHandler t).run s u ks).state = .closed

/-- A call that fails, finds the end of the stream or returns too little ends the thread. -/
theorem run_short {s : SmsState} {u : Bytes} {n : ℕ} {r : ℤ} {rs : List ℤ}
    (hs : (runSMSHandler t).request s = some n) (hr : r.toNat ≠ n)
    (hleave : (runSMSHandler t).onRecv s (u.take r.toNat) = (.closed, t.leave))
    (hrest : (runSMSHandler t).Returns ((runSMSHandler t).onRecv s (u.take r.toNat)).1
      (u.drop r.toNat) rs) :
    Ended t s u ((r :: rs).map Int.toNat) := by
  constructor
  · rintro ⟨hfull, -⟩
    exact hr (Option.some.inj (hs.symm.trans hfull)).symm
  · rw [hleave] at hrest
    -- the thread asks for nothing more
    obtain rfl := hrest.eq_nil rfl
    simp [Reader.run, hleave]

/-- The first packet of the stream is taken whole, or the results end within it. -/
theorem returns_cons (hvalid : t.externalEvent.isValid) {p : CmpPacket} {u : Bytes}
    {rs : List ℤ}
    (hreturns : (runSMSHandler t).Returns .header (p.cmpHeader.bytes ++ (p.cmpBody ++ u)) rs) :
    (∃ rs', rs.map Int.toNat = p.reads ++ rs'.map Int.toNat ∧
      (runSMSHandler t).Returns .header u rs') ∨
    ¬ p.reads <+: rs.map Int.toNat ∧
      (Waiting t .header (p.cmpHeader.bytes ++ (p.cmpBody ++ u)) (rs.map Int.toNat) ∨
        Ended t .header (p.cmpHeader.bytes ++ (p.cmpBody ++ u)) (rs.map Int.toNat)) := by
  have ht : Takes (runSMSHandler t) p (handsOn t p) := takes hvalid p
  have htake : (p.cmpHeader.bytes ++ (p.cmpBody ++ u)).take 16 = p.cmpHeader.bytes :=
    List.take_left' p.cmpHeader.length_bytes
  have hdrop : (p.cmpHeader.bytes ++ (p.cmpBody ++ u)).drop 16 = p.cmpBody ++ u :=
    List.drop_left' p.cmpHeader.length_bytes
  cases rs with
  | nil => exact .inr ⟨by simp [CmpPacket.reads], .inl ⟨trivial, rfl⟩⟩
  | cons r rs =>
    obtain ⟨⟨n, hn, -, hle, -⟩, hrest⟩ := hreturns
    obtain rfl := Option.some.inj (ht.request_header.symm.trans hn)
    by_cases hr : r.toNat = 16
    · rw [hr, htake, hdrop, ht.onRecv_header] at hrest
      by_cases hb : p.cmpBody = []
      · -- the header is the whole packet
        refine .inl ⟨rs, by simp [CmpPacket.reads, hb, sizeofCmpHeader, hr], ?_⟩
        simpa [hb] using hrest
      rw [if_neg hb] at hrest
      cases rs with
      | nil =>
        -- the thread waits for the body
        refine .inr ⟨by simp [CmpPacket.reads, hb], .inl ⟨?_, ?_⟩⟩
        · simp [Reader.Full, hr, ht.request_header]
        · simp [Reader.run, hr, htake, ht.onRecv_header, hb]
      | cons r' rs =>
        obtain ⟨⟨n, hn, -, hle', -⟩, hrest'⟩ := hrest
        obtain rfl := Option.some.inj (ht.request_body.symm.trans hn)
        by_cases hr' : r'.toNat = p.cmpBody.length
        · -- header and body arrive whole
          rw [hr', List.take_left, List.drop_left, ht.onRecv_body hb] at hrest'
          exact .inl ⟨rs, by simp [CmpPacket.reads, hb, sizeofCmpHeader, hr, hr'], hrest'⟩
        · -- the body arrives in part, or not at all
          have hended : Ended t (.body p.cmpHeader) (p.cmpBody ++ u)
              ((r' :: rs).map Int.toNat) :=
            run_short ht.request_body hr'
              (onRecv_body_short (by rw [List.length_take]; omega)) hrest'
          have hreads : ¬ p.reads <+: (r :: r' :: rs).map Int.toNat := by
            simp [CmpPacket.reads, hb, List.cons_prefix_cons, Ne.symm hr']
          refine .inr ⟨hreads, .inr ⟨fun hfull => hended.1 ?_, ?_⟩⟩
          · obtain ⟨-, -, hbody⟩ := hfull
            rwa [hr, htake, hdrop, ht.onRecv_header, if_neg hb] at hbody
          · rw [List.map_cons, Reader.run, hr, htake, hdrop, ht.onRecv_header, if_neg hb]
            exact hended.2
    · -- the header arrives in part, or not at all
      have hreads : ¬ p.reads <+: (r :: rs).map Int.toNat := by
        simp [CmpPacket.reads, List.cons_prefix_cons, sizeofCmpHeader, Ne.symm hr]
      exact .inr ⟨hreads, .inr (run_short ht.request_header hr
        (onRecv_header_short (by rw [List.length_take]; omega)) hrest)⟩

/-- What the thread has done after any results of its receive calls: it has handed on the first
packets of the stream, those that were taken whole, and a call that was not full has ended it. -/
theorem run_returns (hvalid : t.externalEvent.isValid) (ps : List CmpPacket) (rs : List ℤ)
    (hreturns : (runSMSHandler t).Returns .header (CmpPacket.stream ps) rs) :
    ∃ last,
      ((runSMSHandler t).run .header (CmpPacket.stream ps) (rs.map Int.toNat)).effects =
        (ps.take (wholePackets ps (rs.map Int.toNat))).map (handsOn t) ++ last ∧
      ((runSMSHandler t).Full .header (CmpPacket.stream ps) (rs.map Int.toNat) ∧ last = [] ∨
        ¬ (runSMSHandler t).Full .header (CmpPacket.stream ps) (rs.map Int.toNat) ∧
        last = t.leave ∧
        ((runSMSHandler t).run .header (CmpPacket.stream ps) (rs.map Int.toNat)).state =
          .closed) := by
  induction ps generalizing rs with
  | nil =>
    cases rs with
    | nil => exact ⟨[], rfl, .inl ⟨trivial, rfl⟩⟩
    | cons r rs =>
      -- nothing was written: the first call fails or finds the end of the stream
      obtain ⟨⟨n, hn, -, -, hle⟩, hrest⟩ := hreturns
      have hzero : r.toNat = 0 := Int.toNat_of_nonpos hle
      obtain ⟨hcut, heffects, hclosed⟩ := run_short (u := CmpPacket.stream []) (n := 16) rfl
        (by rw [hzero]; decide) (onRecv_header_short (by simp)) hrest
      exact ⟨t.leave, heffects, .inr ⟨hcut, rfl, hclosed⟩⟩
  | cons p ps ih =>
    have ht : Takes (runSMSHandler t) p (handsOn t p) := takes hvalid p
    rw [CmpPacket.stream_cons] at hreturns ⊢
    rcases returns_cons hvalid hreturns with ⟨rs', heq, hrest⟩ | ⟨hreads, hrun⟩
    · -- `p` is handed on, and the rest is the induction hypothesis
      obtain ⟨last, heffects, hlast⟩ := ih rs' hrest
      rw [heq, ht.run, ht.full_append, wholePackets_append]
      exact ⟨last, by simp [heffects], hlast⟩
    · rw [wholePackets_of_cut hreads]
      rcases hrun with ⟨hfull, heffects⟩ | ⟨hcut, heffects, hclosed⟩
      · exact ⟨[], heffects, .inl ⟨hfull, rfl⟩⟩
      · exact ⟨t.leave, heffects, .inr ⟨hcut, rfl, hclosed⟩⟩

/-- **The life of a connection.** For every stream of well-formed packets and every sequence of
results of the receive calls on it, the Controller's loop hands the packets in front that the calls
take whole to `ServerReceive`, in order, and nothing else. While all calls return what they are
asked for there is no notice and no close. A call that fails, finds the end of the stream or returns
less ends the loop, and behind the packets come one disconnect notice and one close of the
socket. -/
theorem runSMSHandler_lifecycle (nInternalFilter threadID nClientFD : ℤ) (ps : List CmpPacket)
    (rs : List ℤ)
    (hreturns : (runSMSHandler (smsThread nInternalFilter threadID nClientFD)).Returns .header
      (CmpPacket.stream ps) rs) :
    ∃ last,
      ((runSMSHandler (smsThread nInternalFilter threadID nClientFD)).run .header
          (CmpPacket.stream ps) (rs.map Int.toNat)).effects =
        (ps.take (wholePackets ps (rs.map Int.toNat))).map
          (fun p => .serverReceive nClientFD (nTotalLen p.cmpHeader) p.image) ++ last ∧
      receives last = [] ∧
      ((runSMSHandler (smsThread nInternalFilter threadID nClientFD)).Full .header
          (CmpPacket.stream ps) (rs.map Int.toNat) → last = []) ∧
      (¬ (runSMSHandler (smsThread nInternalFilter threadID nClientFD)).Full .header
          (CmpPacket.stream ps) (rs.map Int.toNat) →
        ((runSMSHandler (smsThread nInternalFilter threadID nClientFD)).run .header
            (CmpPacket.stream ps) (rs.map Int.toNat)).state = .closed ∧
          disconnects last = [nClientFD] ∧ closes last = [nClientFD]) := by
  obtain ⟨last, heffects, hlast⟩ := run_returns rfl ps rs hreturns
  refine ⟨last, heffects, ?_⟩
  rcases hlast with ⟨hfull, rfl⟩ | ⟨hcut, rfl, hclosed⟩
  · exact ⟨rfl, fun _ => rfl, fun h => absurd hfull h⟩
  · exact ⟨receives_leave, fun h => absurd h hcut,
      fun _ => ⟨hclosed, disconnects_leave _ _ _, closes_leave _ _ _⟩⟩

/-- Two packets, one of them with a body, and the end of the stream within a third. -/
theorem runSMSHandler_lifecycle_end :
    ∃ last,
      ((runSMSHandler (smsThread 6001 0 5)).run .header
          (CmpPacket.stream [enquireLinkPacket, nestedEnquireLinkPacket, enquireLinkPacket])
          ([16, 16, 16, 7].map Int.toNat)).effects =
        ([enquireLinkPacket, nestedEnquireLinkPacket, enquireLinkPacket].take
          (wholePackets [enquireLinkPacket, nestedEnquireLinkPacket, enquireLinkPacket]
            ([16, 16, 16, 7].map Int.toNat))).map
          (fun p => .serverReceive 5 (nTotalLen p.cmpHeader) p.image) ++ last ∧
      receives last = [] ∧
      ((runSMSHandler (smsThread 6001 0 5)).Full .header
          (CmpPacket.stream [enquireLinkPacket, nestedEnquireLinkPacket, enquireLinkPacket])
          ([16, 16, 16, 7].map Int.toNat) → last = []) ∧
      (¬ (runSMSHandler (smsThread 6001 0 5)).Full .header
          (CmpPacket.stream [enquireLinkPacket, nestedEnquireLinkPacket, enquireLinkPacket])
          ([16, 16, 16, 7].map Int.toNat) →
        ((runSMSHandler (smsThread 6001 0 5)).run .header
            (CmpPacket.stream [enquireLinkPacket, nestedEnquireLinkPacket, enquireLinkPacket])
            ([16, 16, 16, 7].map Int.toNat)).state = .closed ∧
          disconnects last = [5] ∧ closes last = [5]) :=
  runSMSHandler_lifecycle 6001 0 5
    [enquireLinkPacket, nestedEnquireLinkPacket, enquireLinkPacket] [16, 16, 16, 7]
    ⟨⟨16, rfl, by decide, by decide, by decide⟩, ⟨16, rfl, by decide, by decide, by decide⟩,
      ⟨16, rfl, by decide, by decide, by decide⟩, ⟨16, rfl, by decide, by decide, by decide⟩,
      trivial⟩

/-- The two that were taken whole. -/
example : wholePackets [enquireLinkPacket, nestedEnquireLinkPacket, enquireLinkPacket]
    ([16, 16, 16, 7].map Int.toNat) = 2 := by decide

end ControllerSystem.Controller
