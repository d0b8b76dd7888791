import ControllerSystem.Network
import ControllerSystem.Socket.SmsFraming
import Mathlib.Algebra.Order.Group.Nat

/-!
# Responses answer requests

Clients, a controller and the center again, now with packets that come from outside: requests of the
clients, and requests that timers send. A handler may hand a request on under a number of its own,
and the program that gets it answers the program it came from; packets may be lost, and come in any
order. A client may put requests into the body of an enquire-link request to the center, whose
client thread reads them as packets of their own (`reads`).

`Owes` marks the packets that a client is owed for: its requests with a sequence number, and the
responses with that number on their way to it. No delivery makes more of them, so

* `responses_le_requests` — in every run, a client gets no more responses with a sequence number
  than it has sent requests with it.
-/

open Words Calls Deliveries

namespace ControllerSystem

@[simp] theorem getSequence_receiveBuffer (pBuf : Bytes) :
    getSequence (receiveBuffer pBuf) = getSequence pBuf := by
  simp only [getSequence, CmpHeader.ofBytes, wordAt, receiveBuffer, getD_append_replicate]

/-! ### The network -/

namespace Network

variable {Client : Type} (net : Network Client)

/-- A connection between the center and the controller has one end at each of them. -/
structure Linked : Prop where
  center : ∀ a b, net.centerPeer a = some (.inr b) → net.controllerPeer b = some (.inr a)
  controller : ∀ a b, net.controllerPeer b = some (.inr a) → net.centerPeer a = some (.inr b)

/-- The packets that the client thread of the center reads in the body of an enquire-link request.
-/
def bodyPackets (nFD : ℤ) (p : Bytes) : List (InFlight Client) :=
  (ControlCenter.packetsIn (p.drop sizeofCmpHeader)).map (⟨.center nFD, ·⟩)

/-- The packets that are read where one is in flight. -/
def reads (m : InFlight Client) : List (InFlight Client) :=
  match m.dest with
  | .center nFD =>
    if getCommand m.packet = enquireLinkRequest then m :: bodyPackets nFD m.packet else [m]
  | _ => [m]

/-- What can come of the delivery of a packet. Any of the packets sent may be lost. What a client
sends, in answer to something or not, comes from outside. -/
inductive Handles : InFlight Client → Multiset (InFlight Client) → Prop
  | client (c : Client) (p : Bytes) : Handles ⟨.client c, p⟩ 0
  /-- What the controller sends to the center goes out on its connection to the center. -/
  | controller (nFD : ℤ) (p : Bytes) (tr : List ControllerEvent)
      (out : Multiset (InFlight Client)) :
      ((ControllerAw2401.onClientCMP net.mConfig nFD (receiveBuffer p)).Exec tr () ∨
        (ControllerAw2401.onCenterCMP net.mConfig nFD (receiveBuffer p)).Exec tr ()) →
      (∀ fd pBuf r, (⟨.centerSend fd pBuf, r⟩ : ControllerEvent) ∈ tr →
        ∀ c, net.controllerPeer fd ≠ some (.inl c)) →
      out ≤ ((tr.filterMap Controller.sent).filterMap net.fromController : Multiset _) →
      Handles ⟨.controller nFD, p⟩ out
  | center (nFD : ℤ) (p : Bytes) (tr : List ControlCenter.CenterEvent)
      (out : Multiset (InFlight Client)) :
      getCommand p ≠ enquireLinkRequest →
      (ControlCenter.onCMP nFD (receiveBuffer p)).Exec tr () →
      out ≤ ((tr.filterMap ControlCenter.sent).filterMap net.fromCenter : Multiset _) →
      Handles ⟨.center nFD, p⟩ out
  /-- The client thread answers an enquire-link request itself, and goes on with its body. -/
  | centerEnquire (nFD : ℤ) (p : Bytes) (out : Multiset (InFlight Client)) :
      getCommand p = enquireLinkRequest →
      out ≤ (([(nFD, (ControlCenter.enquireLinkReply (CmpHeader.ofBytes p)).bytes)].filterMap
        net.fromCenter ++ bodyPackets nFD p : List (InFlight Client)) :
          Multiset (InFlight Client)) →
      Handles ⟨.center nFD, p⟩ out

/-- What comes from outside: the packets of clients and the requests of timers. -/
structure FromOutside (m : InFlight Client) : Prop where
  /-- No response goes to a client. -/
  request : ∀ c, m.dest = .client c → isAckPacket (getCommand m.packet) = false
  /-- Enquire-link requests to the center have no body but whole packets. -/
  whole : ∀ nFD, m.dest = .center nFD → getCommand m.packet = enquireLinkRequest →
    (ControlCenter.packetsIn (m.packet.drop sizeofCmpHeader)).flatten =
      m.packet.drop sizeofCmpHeader

/-- A client at the other end. -/
def IsClient (c : Client) : Endpoint Client → Prop
  | .client _ => False
  | .controller nFD => net.controllerPeer nFD = some (.inl c)
  | .center nFD => net.centerPeer nFD = some (.inl c)

/-- A request of a client, with this sequence number. -/
def IsRequest (c : Client) (nSequence : Word) (m : InFlight Client) : Prop :=
  net.IsClient c m.dest ∧ isAckPacket (getCommand m.packet) = false ∧
    getSequence m.packet = nSequence

/-- A response to a client, with this sequence number. -/
def IsResponse (c : Client) (nSequence : Word) (m : InFlight Client) : Prop :=
  m.dest = .client c ∧ isAckPacket (getCommand m.packet) = true ∧
    getSequence m.packet = nSequence

/-- The client is owed for the packet. -/
def Owes (c : Client) (nSequence : Word) (m : InFlight Client) : Prop :=
  net.IsRequest c nSequence m ∨ IsResponse c nSequence m

section Owed

variable [DecidableEq Client] (c : Client) (nSequence : Word)

instance (dest : Endpoint Client) : Decidable (net.IsClient c dest) := by
  cases dest <;> unfold IsClient <;> infer_instance

instance (m : InFlight Client) : Decidable (net.IsRequest c nSequence m) :=
  inferInstanceAs (Decidable (_ ∧ _))

instance (m : InFlight Client) : Decidable (IsResponse c nSequence m) :=
  inferInstanceAs (Decidable (_ ∧ _))

instance (m : InFlight Client) : Decidable (net.Owes c nSequence m) :=
  inferInstanceAs (Decidable (_ ∨ _))

/-- How many packets the client is owed for where one is in flight. -/
def owed (m : InFlight Client) : ℕ := (reads m).countP (net.Owes c nSequence)

/-- The price of a response. -/
def settled (m : InFlight Client) : ℕ := if IsResponse c nSequence m then 1 else 0

variable {net c nSequence}

omit [DecidableEq Client] in
theorem mem_reads_self (m : InFlight Client) : m ∈ reads m := by
  unfold reads
  split
  · split
    · exact List.mem_cons_self
    · exact List.mem_singleton_self m
  · exact List.mem_singleton_self m

omit [DecidableEq Client] in
theorem dest_of_mem_reads {m q : InFlight Client} (h : q ∈ reads m) : q.dest = m.dest := by
  unfold reads at h
  split at h
  · next nFD hdest =>
    split at h
    · rcases List.mem_cons.mp h with rfl | h
      · rfl
      · obtain ⟨u, -, rfl⟩ := List.mem_map.mp h
        exact hdest.symm
    · rw [List.mem_singleton.mp h]
  · rw [List.mem_singleton.mp h]

omit [DecidableEq Client] in
/-- Only an enquire-link request is read as more than one packet. -/
theorem reads_eq_singleton {dest : Endpoint Client} {p : Bytes}
    (h : getCommand p ≠ enquireLinkRequest) : reads ⟨dest, p⟩ = [⟨dest, p⟩] := by
  unfold reads
  split
  · exact if_neg h
  · rfl

omit [DecidableEq Client] in
theorem ne_enquireLink {p : Bytes} (h : isAckPacket (getCommand p)) :
    getCommand p ≠ enquireLinkRequest := by
  intro heq
  rw [heq] at h
  exact absurd h (by decide)

theorem owed_eq_zero {m : InFlight Client} (h : ∀ q ∈ reads m, ¬ net.Owes c nSequence q) :
    net.owed c nSequence m = 0 :=
  List.countP_eq_zero.mpr fun q hq => by simpa using h q hq

theorem one_le_owed {m : InFlight Client} (h : net.Owes c nSequence m) :
    1 ≤ net.owed c nSequence m :=
  List.countP_pos_iff.mpr ⟨m, mem_reads_self m, by simpa using h⟩

theorem owed_singleton {dest : Endpoint Client} {p : Bytes}
    (h : getCommand p ≠ enquireLinkRequest) :
    net.owed c nSequence ⟨dest, p⟩ = if net.Owes c nSequence ⟨dest, p⟩ then 1 else 0 := by
  rw [owed, reads_eq_singleton h, List.countP_singleton]
  exact if_congr (by simp) rfl rfl

theorem settled_eq_zero {m : InFlight Client} (h : m.dest ≠ .client c) :
    settled c nSequence m = 0 := if_neg fun hresp => h hresp.1

/-- A packet to the center is owed for only on a connection of the client. -/
theorem owed_center {nFD : ℤ} {p : Bytes} (h : net.centerPeer nFD ≠ some (.inl c)) :
    net.owed c nSequence ⟨.center nFD, p⟩ = 0 := by
  refine owed_eq_zero fun q hq => ?_
  have hdest : q.dest = .center nFD := dest_of_mem_reads hq
  rintro (hrequest | hresponse)
  · rw [IsRequest, hdest] at hrequest
    exact h hrequest.1
  · rw [IsResponse, hdest] at hresponse
    cases hresponse.1

/-- Where a response goes, it is owed at most what the request itself was. -/
theorem owed_response {dest : Endpoint Client} {peer : Option (Client ⊕ ℤ)} {p r : Bytes}
    {f : ℤ → Endpoint Client} (hf : ∀ n c, f n ≠ .client c)
    (hdest : net.IsClient c dest ↔ peer = some (.inl c))
    (hp : isAckPacket (getCommand p) = false) (hr : isAckPacket (getCommand r))
    (hseq : getSequence r = getSequence p) :
    (peer.map fun peer => (⟨peer.elim .client f, r⟩ : InFlight Client)).elim 0
      (net.owed c nSequence) ≤ if net.Owes c nSequence ⟨dest, p⟩ then 1 else 0 := by
  rcases peer with - | c' | n
  · exact Nat.zero_le _
  · show net.owed c nSequence ⟨.client c', r⟩ ≤ _
    rw [owed_singleton (ne_enquireLink hr)]
    by_cases howes : net.Owes c nSequence ⟨.client c', r⟩
    · -- the client that gets the response is the one that has asked
      obtain ⟨hc, -, hseq'⟩ := howes.resolve_left fun h => h.1
      cases hc
      have hrequest : net.Owes c nSequence ⟨dest, p⟩ :=
        .inl ⟨hdest.mpr rfl, hp, hseq.symm.trans hseq'⟩
      rw [if_pos howes, if_pos hrequest]
    · rw [if_neg howes]
      exact Nat.zero_le _
  · show net.owed c nSequence ⟨f n, r⟩ ≤ _
    rw [owed_singleton (ne_enquireLink hr), if_neg]
    · exact Nat.zero_le _
    · rintro (h | h)
      · rw [IsRequest, hr] at h
        exact absurd h.2.1 (by decide)
      · exact hf n c h.1

/-- A request of a program is owed for nowhere. -/
theorem owed_forward {peer : Option (Client ⊕ ℤ)} {p : Bytes} {f : ℤ → Endpoint Client}
    (hf : ∀ n, peer = some (.inr n) → ¬ net.IsClient c (f n))
    (hp : isAckPacket (getCommand p) = false) (hne : getCommand p ≠ enquireLinkRequest) :
    (peer.map fun peer => (⟨peer.elim .client f, p⟩ : InFlight Client)).elim 0
      (net.owed c nSequence) = 0 := by
  have hresp : ∀ dest, ¬ IsResponse c nSequence ⟨dest, p⟩ := fun dest h => by
    rw [IsResponse, hp] at h
    exact absurd h.2.1 (by decide)
  have hzero : ∀ dest : Endpoint Client, ¬ net.IsClient c dest →
      net.owed c nSequence ⟨dest, p⟩ = 0 := fun dest hdest =>
    (owed_singleton hne).trans (if_neg fun h => h.elim (fun h => hdest h.1) (hresp _))
  rcases peer with - | c' | n
  · rfl
  · exact hzero _ id
  · exact hzero _ (hf n rfl)

omit [DecidableEq Client] in
/-- The price of what is left of the packets sent. -/
theorem weight_le_of_sent {A : Type} {g : A → Option (InFlight Client)} {l : List A}
    {out : Multiset (InFlight Client)} {w : InFlight Client → ℕ} {n : ℕ}
    (hout : out ≤ (l.filterMap g : Multiset _))
    (hcost : (l.map fun a => (g a).elim 0 w).sum ≤ n) : weight w out ≤ n := by
  refine le_trans (weight_mono hout) ?_
  rw [weight_filterMap]
  exact hcost

omit [DecidableEq Client] in
/-- What the controller sends to the center costs nothing. -/
theorem sum_sent_le {w : ℤ × Bytes → ℕ} {tr : List ControllerEvent}
    (hcenter : ∀ fd pBuf r, (⟨.centerSend fd pBuf, r⟩ : ControllerEvent) ∈ tr → w (fd, pBuf) = 0) :
    ((tr.filterMap Controller.sent).map w).sum ≤
      ((tr.filterMap ControllerAw2401.sentOn).map (Sum.elim w fun _ => 0)).sum := by
  rw [ControllerAw2401.sum_sent]
  refine List.sum_le_sum fun q hq => ?_
  obtain ⟨e, he, hsent⟩ := List.mem_filterMap.mp hq
  cases q with
  | inl q => exact Nat.le_refl _
  | inr q =>
    obtain ⟨c, r⟩ := e
    cases c with
    | centerSend fd pBuf =>
      obtain rfl : (fd, pBuf) = q := Sum.inr.inj (Option.some.inj hsent)
      exact (hcenter fd pBuf r he).le
    | _ => cases hsent

omit [DecidableEq Client] in
theorem elim_map_le' {A : Type} {f : A → InFlight Client} {w : InFlight Client → ℕ} {n : ℕ}
    (o : Option A) (h : ∀ a, w (f a) ≤ n) : (o.map f).elim 0 w ≤ n := by
  cases o with
  | none => exact Nat.zero_le n
  | some a => exact h a

/-- A response is owed for once. -/
theorem owed_le_one {dest : Endpoint Client} {r : Bytes} (hr : isAckPacket (getCommand r)) :
    net.owed c nSequence ⟨dest, r⟩ ≤ 1 := by
  rw [owed_singleton (ne_enquireLink hr)]
  split_ifs
  · exact Nat.le_refl 1
  · exact Nat.zero_le 1

/-- A request is answered at its price, and a response not at all. -/
theorem cost_le {m : InFlight Client} {cost : ℕ} {w : Bytes → ℕ}
    (hcost : ∀ k, (∀ r, isAckPacket (getCommand r) →
        getSequence r = getSequence (receiveBuffer m.packet) → w r ≤ k) →
      cost ≤ if isAckPacket (getCommand (receiveBuffer m.packet)) then 0 else k)
    (hone : ∀ r, isAckPacket (getCommand r) → w r ≤ 1)
    (hw : ∀ r, isAckPacket (getCommand m.packet) = false → isAckPacket (getCommand r) →
      getSequence r = getSequence m.packet → w r ≤ if net.Owes c nSequence m then 1 else 0) :
    cost ≤ net.owed c nSequence m := by
  simp only [getCommand_receiveBuffer, getSequence_receiveBuffer] at hcost
  by_cases hp : isAckPacket (getCommand m.packet)
  · have hzero := hcost 1 fun r hr _ => hone r hr
    rw [if_pos hp] at hzero
    exact le_trans hzero (Nat.zero_le _)
  · have hle := hcost _ fun r hr hseq => hw r (Bool.eq_false_of_not_eq_true hp) hr hseq
    rw [if_neg hp] at hle
    split_ifs at hle with howes
    · exact le_trans hle (one_le_owed howes)
    · exact le_trans hle (Nat.zero_le _)

omit [DecidableEq Client] in
/-- What is read in a body is not taken apart once more. -/
theorem reads_of_mem_bodyPackets {nFD : ℤ} {p : Bytes} {m : InFlight Client}
    (h : m ∈ bodyPackets nFD p) : reads m = [m] := by
  obtain ⟨q, hq, rfl⟩ := List.mem_map.mp h
  by_cases hid : getCommand q = enquireLinkRequest
  · have hbody : bodyPackets nFD q = ([] : List (InFlight Client)) := by
      rw [bodyPackets, List.drop_eq_nil_of_le (ControlCenter.length_of_mem_packetsIn hq hid).le,
        ControlCenter.packetsIn_nil, List.map_nil]
    show (if getCommand q = enquireLinkRequest then _ else _) = _
    rw [if_pos hid, hbody]
  · exact reads_eq_singleton hid

/-- The packets of a body are owed for one by one. -/
theorem owed_body (nFD : ℤ) (p : Bytes) :
    weight (net.owed c nSequence) ((bodyPackets nFD p : List (InFlight Client)) : Multiset _) =
      (bodyPackets nFD p : List (InFlight Client)).countP (net.Owes c nSequence) := by
  rw [← Multiset.coe_countP, ← weight_ite]
  refine congrArg Multiset.sum (Multiset.map_congr rfl fun m hm => ?_)
  rw [owed, reads_of_mem_bodyPackets hm, List.countP_singleton]
  exact if_congr (by simp) rfl rfl

/-- **No delivery makes more of what is owed.** A response that is delivered settles something. -/
theorem handles_pays (hlinked : net.Linked) :
    Pays net.Handles (net.owed c nSequence) (settled c nSequence) := by
  intro m out h
  cases h with
  | client c' p =>
    rw [weight_zero, Nat.zero_add, settled]
    split_ifs with hresp
    · exact one_le_owed (.inr hresp)
    · exact Nat.zero_le _
  | controller nFD p tr out hexec hcenter hout =>
    rw [settled_eq_zero (fun h => by cases h), Nat.add_zero]
    refine weight_le_of_sent hout (le_trans (sum_sent_le fun fd pBuf r hmem => ?_) ?_)
    · -- the other end of the connection is the center
      rcases hpeer : net.controllerPeer fd with - | c' | n
      · simp [fromController, hpeer]
      · exact absurd hpeer (hcenter fd pBuf r hmem c')
      · have hno : net.centerPeer n ≠ some (.inl c) := by
          rw [hlinked.controller n fd hpeer]
          nofun
        simp [fromController, hpeer, owed_center hno]
    · refine cost_le (w := fun r => (net.fromController (nFD, r)).elim 0 (net.owed c nSequence))
        (fun k hk => ?_) ?_ ?_
      · have hcost := ControllerAw2401.onCMPWith_costs (n := k) (m := 0) (w := Sum.elim
            (fun q => (net.fromController q).elim 0 (net.owed c nSequence)) fun _ => 0)
          (fun _ _ _ => Nat.zero_le k) (fun _ _ _ => Nat.zero_le 0) net.mConfig (receiveBuffer p) hk
          tr () (hexec.elim id id)
        simpa only [Nat.add_zero, ite_self] using hcost
      · exact fun r hr => elim_map_le' _ fun _ => owed_le_one hr
      · exact fun r hp hr hseq => owed_response (fun _ _ => nofun) Iff.rfl hp hr hseq
  | center nFD p tr out hne hexec hout =>
    rw [settled_eq_zero (fun h => by cases h), Nat.add_zero]
    refine weight_le_of_sent hout ?_
    refine cost_le (fun k hk => ControlCenter.onCMP_costs (n := k) (m := 0)
      (w := fun q => (net.fromCenter q).elim 0 (net.owed c nSequence))
      (fun fd r hr => ?_) (receiveBuffer p) hk tr () hexec) ?_ ?_
    · -- the other end of the connection is the controller
      have hport : isAckPacket (getCommand r) = false ∧ getCommand r ≠ enquireLinkRequest := by
        rcases hr with hr | hr <;> rw [hr] <;> decide
      refine (owed_forward (fun n hn hclient => ?_) hport.1 hport.2).le
      have hpeer : net.controllerPeer n = some (.inl c) := hclient
      rw [hlinked.center fd n hn] at hpeer
      cases hpeer
    · exact fun r hr => elim_map_le' _ fun _ => owed_le_one hr
    · exact fun r hp hr hseq => owed_response (fun _ _ => nofun) Iff.rfl hp hr hseq
  | centerEnquire nFD p out hcmd hout =>
    rw [settled_eq_zero (fun h => by cases h), Nat.add_zero]
    -- the response is paid by the request itself, and the packets of the body by what they are
    have hreply : weight (net.owed c nSequence) (([(nFD, (ControlCenter.enquireLinkReply
        (CmpHeader.ofBytes p)).bytes)].filterMap net.fromCenter : List (InFlight Client)) :
          Multiset (InFlight Client)) ≤
        if net.Owes c nSequence ⟨.center nFD, p⟩ then 1 else 0 := by
      rw [weight_filterMap, List.map_singleton, List.sum_singleton]
      refine owed_response (fun _ _ => nofun) Iff.rfl (by rw [hcmd]; rfl) ?_ ?_
      · rw [getCommand_bytes]
        exact isAckPacket_or _
      · rw [getSequence_bytes]
        rfl
    have hreads : net.owed c nSequence ⟨.center nFD, p⟩ =
        (bodyPackets nFD p : List (InFlight Client)).countP (net.Owes c nSequence) +
          if net.Owes c nSequence ⟨.center nFD, p⟩ then 1 else 0 := by
      have hcons : reads (⟨.center nFD, p⟩ : InFlight Client) =
          ⟨.center nFD, p⟩ :: bodyPackets nFD p := if_pos hcmd
      rw [owed, hcons, List.countP_cons]
      exact congrArg _ (if_congr (by simp) rfl rfl)
    have hout' := weight_mono (w := net.owed c nSequence) hout
    rw [← Multiset.coe_add, weight_add, owed_body] at hout'
    rw [hreads]
    omega

end Owed

/-! ### Runs -/

variable [DecidableEq Client]

/-- The requests of a client with a sequence number, in a run: those it sends, and those in the
bodies of its enquire-link requests to the center. -/
def requestsOf (c : Client) (nSequence : Word) (es : List (Event (InFlight Client))) : ℕ :=
  (es.map (Event.income fun m => (reads m).countP (net.IsRequest c nSequence))).sum

/-- The responses with a sequence number that a client has got, in a run. -/
def responsesTo (c : Client) (nSequence : Word) (es : List (Event (InFlight Client))) : ℕ :=
  (es.map (Event.paid fun m => if IsResponse c nSequence m then 1 else 0)).sum

/-- **No response without a request, and at most one for each.** In every run, whatever is lost and
in whatever order packets come, a client has got no more responses with a sequence number than it
has sent requests with it, not even with those that are on their way to it. -/
theorem responses_le_requests (hlinked : net.Linked) (c : Client) (nSequence : Word)
    {es : List (Event (InFlight Client))} {s : Multiset (InFlight Client)}
    (h : Run net.Handles FromOutside es s) :
    responsesTo c nSequence es + s.countP (IsResponse c nSequence) ≤
      net.requestsOf c nSequence es := by
  have hpaid := h.paid_le (d := settled c nSequence) (handles_pays hlinked)
  have hflight : s.countP (IsResponse c nSequence) ≤ weight (net.owed c nSequence) s := by
    rw [← weight_ite]
    refine weight_le_weight (fun m => ?_) s
    split_ifs with hresp
    · exact one_le_owed (.inr hresp)
    · exact Nat.zero_le _
  have hincome : (es.map (Event.income (net.owed c nSequence))).sum =
      net.requestsOf c nSequence es := by
    refine congrArg List.sum (List.map_congr_left fun e he => ?_)
    cases e with
    | delivered m => rfl
    | issued m =>
      -- no response comes from outside
      refine List.countP_congr fun q hq => ?_
      have hresp : ¬ IsResponse c nSequence q := by
        rintro ⟨hdest, hack, -⟩
        obtain ⟨dest, p⟩ := m
        obtain rfl : dest = .client c := (dest_of_mem_reads hq).symm.trans hdest
        obtain rfl := List.mem_singleton.mp hq
        rw [(h.issued _ he).request c rfl] at hack
        cases hack
      simp [Owes, hresp]
  calc responsesTo c nSequence es + s.countP (IsResponse c nSequence)
      ≤ responsesTo c nSequence es + weight (net.owed c nSequence) s :=
        Nat.add_le_add_left hflight _
    _ ≤ (es.map (Event.income (net.owed c nSequence))).sum := hpaid
    _ = net.requestsOf c nSequence es := hincome

/-- An enquire-link request that announces the request to unbind as its body. -/
def enquireAndUnbind : Bytes :=
  CmpHeader.bytes ⟨32#32, enquireLinkRequest, statusRok, 1#32⟩ ++ ControlCenter.unbindPacket

theorem packetsIn_unbindPacket :
    ControlCenter.packetsIn ControlCenter.unbindPacket = [ControlCenter.unbindPacket] := by
  have hlen : ControlCenter.packetLen (CmpHeader.ofBytes ControlCenter.unbindPacket) = 16 := by
    decide
  have htake : ControlCenter.unbindPacket.take 16 = ControlCenter.unbindPacket := rfl
  have hdrop : ControlCenter.unbindPacket.drop 16 = [] := rfl
  rw [ControlCenter.packetsIn, hlen, htake, hdrop, ControlCenter.packetsIn_nil,
    if_pos (by decide)]

/-- The client unbinds in the body of an enquire-link request, and gets both responses. -/
theorem responses_le_requests_unbind :
    let linked := (ControlCenter.enquireLinkReply (CmpHeader.ofBytes enquireAndUnbind)).bytes
    let unbound := (formatHeader unbindResponse statusRok 7#32).bytes
    let es : List (Event (InFlight Unit)) := [.issued ⟨.center 5, enquireAndUnbind⟩,
      .delivered ⟨.center 5, enquireAndUnbind⟩,
      .delivered ⟨.center 5, ControlCenter.unbindPacket⟩,
      .delivered ⟨.client (), unbound⟩, .delivered ⟨.client (), linked⟩]
    Run oneClient.Handles FromOutside es 0 ∧
      responsesTo () 7#32 es + (0 : Multiset _).countP (IsResponse () 7#32) ≤
        oneClient.requestsOf () 7#32 es := by
  intro linked unbound es
  have hlinked : oneClient.Linked :=
    ⟨fun a b h => by simp only [oneClient] at h; split at h <;> simp at h, nofun⟩
  have hbody : enquireAndUnbind.drop sizeofCmpHeader = ControlCenter.unbindPacket := rfl
  have hasked : Run oneClient.Handles FromOutside [.issued ⟨.center 5, enquireAndUnbind⟩]
      {⟨.center 5, enquireAndUnbind⟩} := by
    refine Run.nil.issue _ ⟨nofun, fun _ _ _ => ?_⟩
    rw [hbody, packetsIn_unbindPacket, List.flatten_singleton]
  let received (r : Bytes) : InFlight Unit := ⟨.client (), r⟩
  have hread : Run oneClient.Handles FromOutside (es.take 2)
      {⟨.center 5, ControlCenter.unbindPacket⟩, received linked} := by
    refine Run.deliver (s := 0) _ {_, received linked} hasked
      (.centerEnquire 5 _ _ (by decide) ?_)
    rw [bodyPackets, hbody, packetsIn_unbindPacket]
    exact (Multiset.pair_comm _ _).le
  have hanswered : Run oneClient.Handles FromOutside (es.take 3)
      {received unbound, received linked} := by
    refine Run.deliver (s := {received linked}) _ {received unbound} hread ?_
    refine .center 5 _ [⟨.printPacket unbindRequest statusRok 7#32 16 "[Center Recv]" 5, ()⟩,
      ⟨.socketSend 5 (formatHeader unbindResponse statusRok 7#32).bytes, (16 : ℤ)⟩,
      ⟨.printPacket unbindResponse statusRok 7#32 16 "[Center Send]" 5, ()⟩] _ (by decide) ?_
      (le_of_eq rfl)
    exact ⟨(), _, rfl, 16, _, rfl, (), _, rfl, rfl, rfl⟩
  have hgot := Run.deliver (s := 0) _ 0 (Run.deliver (s := {_}) _ 0 hanswered (.client () _))
    (.client () _)
  exact ⟨hgot, responses_le_requests oneClient hlinked () 7#32 hgot⟩

end Network

end ControllerSystem
