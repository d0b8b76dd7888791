import ControllerSystem.ControllerServer.Handlers
import ControllerSystem.ControllerClient.Handlers
import ControllerSystem.ControllerAw2401.Handlers
import ControllerSystem.Body

/-!
# Requests that are handed on

A center hands a power request on to a controller, and a controller hands an access log on to the
center: the fields are read from one packet, written into another, and read again by the other
program, with its own copy of the protocol.

The ControllerServer and the ControllerClient agree (`relays_preserve`). The ControlCenter does not
agree with the controllers of today: it writes a power request with one byte for each field where
the Aw2401 controller reads 32-bit numbers (`power_port_disagrees`), and it reads the type of an
access log as a 32-bit number where the controllers write one byte (`access_log_disagrees`).
-/

open Words Calls

namespace ControllerSystem

/-! ### Fields -/

/-- A field is the same string in both maps, or at least the same number. -/
def SameField (n : String) (m m' : CDataHandler) : Prop :=
  m'.get n = m.get n ∨ convertFromString (m'.get n) = convertFromString (m.get n)

/-- One character is at most one digit. -/
theorem convertFromString_singleton (b : UInt8) :
    0 ≤ convertFromString [b] ∧ convertFromString [b] ≤ 9 := by
  have hall : ∀ k : Fin 256,
      0 ≤ convertFromString [.ofNat k] ∧ convertFromString [.ofNat k] ≤ 9 := by
    decide +kernel
  rw [← UInt8.ofNat_toNat (x := b)]
  exact hall ⟨b.toNat, b.toNat_lt⟩

/-- A number of more than one digit is not what a single byte was. -/
theorem not_sameField {n : String} {m m' : CDataHandler} {b : UInt8} {v : Word}
    (hm : m.get n = [b]) (hm' : m'.get n = convertToString v.toInt) (hv : 10 ≤ v.toNat) :
    ¬ SameField n m m' := by
  have hlt := v.isLt
  have hrange : v.toInt < 0 ∨ 10 ≤ v.toInt := by
    rw [BitVec.toInt_eq_toNat_cond]
    split <;> omega
  have hlength := DecimalText.two_le_length_ascii_toString hrange
  have hle : v.toInt ≤ 2147483647 := by
    have := v.toInt_lt
    omega
  rw [SameField, hm, hm', convertFromString_convertToString v.le_toInt hle]
  rintro (htext | hnumber)
  · have : (convertToString v.toInt).length = 1 := by rw [htext]; rfl
    rw [convertToString] at this
    omega
  · have := convertFromString_singleton b
    omega

theorem get_of_lookup {m : CDataHandler} {n : String} {v : Bytes} (h : m.lookup n = some v) :
    m.get n = v := by
  rw [CDataHandler.get, h, Option.getD_some]

/-- The character of a request for the state of a wire. -/
theorem wire_field {b : Bytes} {m : CDataHandler}
    (hm : m = (((BodyReader.mk [] b).takeByte "wire").takeStr "controller").rData)
    (hkey : ∃ v, m.lookup "wire" = some v) :
    ∃ w : UInt8, w ≠ 0 ∧ m.lookup "wire" = some [w] := by
  obtain ⟨w, hw⟩ := hkey
  subst hm
  simp [BodyReader.lookup_takeStr, BodyReader.lookup_takeByte] at hw ⊢
  exact hw.1

/-- The three characters of a request for a port. -/
theorem port_fields {b : Bytes} {m : CDataHandler}
    (hm : m = (((((BodyReader.mk [] b).takeByte "wire").takeByte "port").takeByte
      "state").takeStr "controller").rData)
    (hkeys : ∀ n ∈ ["wire", "port", "state"], ∃ v, m.lookup n = some v) :
    ∃ w p s : UInt8, (w ≠ 0 ∧ p ≠ 0 ∧ s ≠ 0) ∧ m.lookup "wire" = some [w] ∧
      m.lookup "port" = some [p] ∧ m.lookup "state" = some [s] := by
  obtain ⟨w, hw⟩ := hkeys "wire" (by simp)
  obtain ⟨p, hp⟩ := hkeys "port" (by simp)
  obtain ⟨s, hs⟩ := hkeys "state" (by simp)
  subst hm
  simp [BodyReader.lookup_takeStr, BodyReader.lookup_takeByte] at hw hp hs ⊢
  exact ⟨hw.1, hp.1, hs.1⟩

/-! ### The packets -/

/-- The header of a request that is handed on, with a body of `n` bytes. -/
def relayHeader (nCommand nSequence : Word) (n : ℕ) : CmpHeader :=
  { formatHeader nCommand statusRok nSequence with
    commandLength := .ofNat 32 (sizeofCmpHeader + n) }

theorem nBodyLen_relayHeader (nCommand nSequence : Word) {n : ℕ} (hn : n ≤ maxDataLen) :
    nBodyLen (relayHeader nCommand nSequence n) = n := by
  have hlen : nTotalLen (relayHeader nCommand nSequence n) = 16 + n := by
    simp only [nTotalLen, relayHeader, BitVec.toInt_eq_toNat_cond, BitVec.toNat_ofNat,
      sizeofCmpHeader, maxDataLen] at hn ⊢
    split <;> omega
  rw [nBodyLen_eq, hlen, if_neg (by omega)]
  omega

namespace ControlCenter

/-- A forwarded request is one packet with one byte for each field. -/
theorem forwardRequest_sends (nSocket : ℤ) (nCommand : Word) (fields : List Bytes)
    (strMsg : Bytes) :
    (forwardRequest nSocket nCommand fields strMsg).Emits sent fun l => ∃ nSequence,
      l = [(nSocket, (relayHeader nCommand nSequence fields.length).bytes ++
        fields.map fun f => f.headD 0)] := by
  refine .call_none (fun _ => rfl) fun nSequence => .call_none (fun _ => rfl) fun _ => ?_
  refine .call_some (fun _ => rfl) fun nRet => .call_none (fun _ => rfl) fun _ => .ret ?_
  exact ⟨_, rfl⟩

end ControlCenter

namespace Controller

/-- A request to the center is one packet with the body and a zero byte. -/
theorem centerRequest_sends (nSocket : ℤ) (nCommand : Word) {body : Bytes} (strMsg : Bytes)
    (hfit : body.length + 1 ≤ maxDataLen) :
    (centerRequest nSocket nCommand body strMsg).Emits sentToCenter fun l => ∃ nSequence,
      l = [(nSocket, (relayHeader nCommand nSequence (body.length + 1)).bytes ++
        (body ++ [0]))] := by
  refine .call_none (fun _ => rfl) fun nSequence => .call_none (fun _ => rfl) fun _ => ?_
  simp only [Prog.bind_eq, Prog.ret_bind, Prog.pure_eq_ret]
  rw [if_neg (by omega)]
  refine .call_some (fun _ => rfl) fun nRet => .call_none (fun _ => rfl) fun _ => .ret ?_
  exact ⟨_, rfl⟩

end Controller

/-! ### From the ControlCenter to the Aw2401 controller -/

/-- A 32-bit number whose first byte is a character is large. -/
theorem wordAt_large {b : UInt8} (hb : b ≠ 0) (l : Bytes) (n : ℕ) :
    10 ≤ (wordAt ((b :: l) ++ List.replicate n 0) 0).toNat := by
  have hpos : 0 < b.toNat := Nat.pos_of_ne_zero fun h => hb (UInt8.toNat_inj.mp h)
  rw [toNat_wordAt, getD_append_replicate]
  simp only [List.getD_cons_zero]
  omega

/-- The Aw2401 controller reads the wire of a power request as a number. -/
theorem aw2401_wire {nCommand : Word}
    (hcommand : nCommand = powerPortSetRequest ∨ nCommand = powerPortStateRequest)
    (nSequence : Word) {w : UInt8} {l : Bytes} (hfit : (w :: l).length ≤ maxDataLen) :
    (ControllerAw2401.parseBody nCommand (receiveBuffer
      ((relayHeader nCommand nSequence (w :: l).length).bytes ++ (w :: l)))).2.get "wire" =
      convertToString
        (wordAt ((w :: l) ++ List.replicate (maxDataLen - (w :: l).length) 0) 0).toInt := by
  have hpos : 0 < nBodyLen (relayHeader nCommand nSequence (w :: l).length) := by
    rw [nBodyLen_relayHeader _ _ hfit]
    simp
  rw [receiveBuffer_append, ControllerAw2401.parseBody, parseBodyWith_packetImage _ hpos]
  rcases hcommand with rfl | rfl
  · show CDataHandler.get ((((BodyReader.takeInt ⟨[], _⟩ "wire").takeInt "port").takeByte
      "state").takeStr "controller").rData "wire" = _
    simp [CDataHandler.get, BodyReader.lookup_takeStr, BodyReader.lookup_takeByte,
      BodyReader.lookup_takeInt]
  · rfl

/-- **The codecs disagree on power requests.** Whatever wire, port and state the ControlCenter has
read, the packet it forwards holds another wire for the Aw2401 controller, as a string and as a
number; and so does the packet of a state request. -/
theorem power_port_disagrees (pData : Bytes) :
    (Accepted ["wire", "port", "state", "controller"]
        (ControlCenter.parseBody powerPortSetRequest pData) →
      ∀ nSocket tr a,
        (ControlCenter.cmpPowerPortRequest nSocket
          ((ControlCenter.parseBody powerPortSetRequest pData).2.get "wire")
          ((ControlCenter.parseBody powerPortSetRequest pData).2.get "port")
          ((ControlCenter.parseBody powerPortSetRequest pData).2.get "state")).Exec tr a →
        ∃ pBuf, tr.filterMap ControlCenter.sent = [(nSocket, pBuf)] ∧
          ¬ ∀ n ∈ ["wire", "port", "state"],
            SameField n (ControlCenter.parseBody powerPortSetRequest pData).2
              (ControllerAw2401.parseBody powerPortSetRequest (receiveBuffer pBuf)).2) ∧
    (Accepted ["wire", "controller"] (ControlCenter.parseBody powerPortStateRequest pData) →
      ∀ nSocket tr a,
        (ControlCenter.cmpPowerPortStateRequest nSocket
          ((ControlCenter.parseBody powerPortStateRequest pData).2.get "wire")).Exec tr a →
        ∃ pBuf, tr.filterMap ControlCenter.sent = [(nSocket, pBuf)] ∧
          ¬ SameField "wire" (ControlCenter.parseBody powerPortStateRequest pData).2
            (ControllerAw2401.parseBody powerPortStateRequest (receiveBuffer pBuf)).2) := by
  constructor
  · intro haccept nSocket tr a h
    have hm : (ControlCenter.parseBody powerPortSetRequest pData).2 = _ := haccept.rData_eq
    obtain ⟨w, p, s, ⟨hw, -, -⟩, hwire, hport, hstate⟩ := port_fields hm
      fun n hn => haccept.lookup (List.mem_append_left ["controller"] hn)
    obtain ⟨nSequence, hsent⟩ := ControlCenter.forwardRequest_sends _ _ _ _ tr a h
    rw [get_of_lookup hwire, get_of_lookup hport, get_of_lookup hstate] at hsent
    change _ = [(_, (relayHeader _ nSequence [w, p, s].length).bytes ++ [w, p, s])] at hsent
    have hread := aw2401_wire (.inl rfl) nSequence (l := [p, s])
      (show [w, p, s].length ≤ maxDataLen by simp [maxDataLen])
    -- already the first field differs
    exact ⟨_, hsent, fun hsame => not_sameField (get_of_lookup hwire) hread
      (wordAt_large hw _ _) (hsame "wire" List.mem_cons_self)⟩
  · intro haccept nSocket tr a h
    have hm : (ControlCenter.parseBody powerPortStateRequest pData).2 = _ := haccept.rData_eq
    obtain ⟨w, hw, hwire⟩ := wire_field hm (haccept.lookup List.mem_cons_self)
    obtain ⟨nSequence, hsent⟩ := ControlCenter.forwardRequest_sends _ _ _ _ tr a h
    rw [get_of_lookup hwire] at hsent
    change _ = [(_, (relayHeader _ nSequence [w].length).bytes ++ [w])] at hsent
    have hread := aw2401_wire (.inr rfl) nSequence (l := [])
      (show [w].length ≤ maxDataLen by simp [maxDataLen])
    exact ⟨_, hsent, not_sameField (get_of_lookup hwire) hread (wordAt_large hw _ _)⟩

/-- A request to switch port 1 on wire 1 off, on the controller `c`. -/
def portSetPacket : Bytes :=
  CmpHeader.bytes ⟨21#32, powerPortSetRequest, statusRok, 7#32⟩ ++ ascii "110c\x00"

/-- A request for the state of wire 1 of the controller `c`. -/
def portStatePacket : Bytes :=
  CmpHeader.bytes ⟨19#32, powerPortStateRequest, statusRok, 7#32⟩ ++ ascii "1c\x00"

theorem power_port_disagrees_packets :
    (∃ tr, (ControlCenter.cmpPowerPortRequest 5 (ascii "1") (ascii "1") (ascii "0")).Exec tr 19 ∧
      ∃ pBuf, tr.filterMap ControlCenter.sent = [(5, pBuf)] ∧
        ¬ ∀ n ∈ ["wire", "port", "state"],
          SameField n (ControlCenter.parseBody powerPortSetRequest portSetPacket).2
            (ControllerAw2401.parseBody powerPortSetRequest (receiveBuffer pBuf)).2) ∧
    ∃ tr, (ControlCenter.cmpPowerPortStateRequest 5 (ascii "1")).Exec tr 17 ∧
      ∃ pBuf, tr.filterMap ControlCenter.sent = [(5, pBuf)] ∧
        ¬ SameField "wire" (ControlCenter.parseBody powerPortStateRequest portStatePacket).2
          (ControllerAw2401.parseBody powerPortStateRequest (receiveBuffer pBuf)).2 :=
  ⟨⟨_, ⟨0, _, rfl, (), _, rfl, 19, _, rfl, (), _, rfl, rfl, rfl⟩,
      (power_port_disagrees portSetPacket).1 (by decide) 5 _ 19
        ⟨0, _, rfl, (), _, rfl, 19, _, rfl, (), _, rfl, rfl, rfl⟩⟩,
    _, ⟨0, _, rfl, (), _, rfl, 17, _, rfl, (), _, rfl, rfl, rfl⟩,
      (power_port_disagrees portStatePacket).2 (by decide) 5 _ 17
        ⟨0, _, rfl, (), _, rfl, 17, _, rfl, (), _, rfl, rfl, rfl⟩⟩

/-- The ControlCenter reads wire 1; from the packet it forwards, the controller reads wire
825307136. -/
theorem power_port_misread :
    Accepted ["wire", "port", "state", "controller"]
        (ControlCenter.parseBody powerPortSetRequest portSetPacket) ∧
      (ControlCenter.parseBody powerPortSetRequest portSetPacket).2.get "wire" = ascii "1" ∧
      ∃ tr, (ControlCenter.cmpPowerPortRequest 5
          ((ControlCenter.parseBody powerPortSetRequest portSetPacket).2.get "wire")
          ((ControlCenter.parseBody powerPortSetRequest portSetPacket).2.get "port")
          ((ControlCenter.parseBody powerPortSetRequest portSetPacket).2.get "state")).Exec tr 19 ∧
        ∃ pBuf, tr.filterMap ControlCenter.sent = [(5, pBuf)] ∧
          (ControllerAw2401.parseBody powerPortSetRequest (receiveBuffer pBuf)).2.get "wire" =
            ascii "825307136" := by
  refine ⟨by decide, by decide, _, ⟨0, _, rfl, (), _, rfl, 19, _, rfl, (), _, rfl, rfl, rfl⟩, _,
    rfl, ?_⟩
  decide +kernel

/-! ### From the controllers to the ControlCenter -/

/-- The fields of an access log. -/
theorem log_fields {b : Bytes} {m : CDataHandler}
    (hm : m = (((BodyReader.mk [] b).takeByte "type").takeStr "data").rData)
    (hkeys : ∀ n ∈ ["type", "data"], ∃ v, m.lookup n = some v) :
    ∃ t : UInt8, t ≠ 0 ∧ cstr b.tail ≠ [] ∧ m.lookup "type" = some [t] ∧
      m.lookup "data" = some (cstr b.tail) := by
  obtain ⟨t, ht⟩ := hkeys "type" (by simp)
  obtain ⟨d, hd⟩ := hkeys "data" (by simp)
  subst hm
  simp [BodyReader.lookup_takeStr, BodyReader.lookup_takeByte] at ht hd ⊢
  refine ⟨ht.1, ?_, ht.1, hd.1⟩
  have hvalid := hd.1
  simp only [isValidStr, strlen, Bool.and_eq_true] at hvalid
  exact List.ne_nil_of_length_pos (of_decide_eq_true hvalid.1)

/-- Answer the client, and hand a log on. -/
theorem relay_sends (nSocket : ℤ) (nSequence : Word) {body : Bytes} (strMsg : Bytes)
    (hfit : body.length + 1 ≤ maxDataLen) :
    (do
      let _ ← Controller.sendCommandtoClient nSocket accessLogRequest statusRok nSequence true
      let nSocketFD ← Controller.getSocketfd
      let _ ← Controller.centerRequest nSocketFD accessLogRequest body strMsg
      pure (0 : ℤ)).Emits Controller.sentToCenter fun l => ∃ nSocketFD nSequence,
        l = [(nSocketFD, (relayHeader accessLogRequest nSequence (body.length + 1)).bytes ++
          (body ++ [0]))] := by
  -- the answer does not go to the center
  have hanswer : (Controller.sendCommandtoClient nSocket accessLogRequest statusRok nSequence
      true).Emits Controller.sentToCenter (· = []) :=
    .call_none (fun _ => rfl) fun _ => .call_none (fun _ => rfl) fun _ => .ret rfl
  refine hanswer.nil_bind fun _ => .call_none (fun _ => rfl) fun nSocketFD => ?_
  have hrelay := Controller.centerRequest_sends nSocketFD accessLogRequest strMsg hfit
  exact (hrelay.mono fun l hl => ⟨nSocketFD, hl⟩).bind_nil fun _ => .ret rfl

/-- The fields of a log that was written with one byte for its type, read with four. -/
theorem shifted_log_fields {t : UInt8} (ht : t ≠ 0) {d : Bytes} (hd : d ≠ []) (n : ℕ)
    {m : CDataHandler} (hm : m = (((BodyReader.mk [] (([t] ++ d ++ [0]) ++
      List.replicate n 0)).takeInt "type").takeStr "data").rData) :
    (m.get "data").length < d.length ∧
      ∃ v : Word, 10 ≤ v.toNat ∧ m.get "type" = convertToString v.toInt := by
  subst hm
  constructor
  · -- the text begins three bytes late
    have hlength := List.length_pos_of_ne_nil hd
    have hzeros : ([t] ++ d ++ [0]) ++ List.replicate n 0 =
        (t :: d) ++ List.replicate (n + 1) 0 := by
      simp [List.replicate_succ]
    have hlate := strlen_append_replicate_le ((t :: d).drop 4) (n + 1 - (4 - (t :: d).length))
    rw [← List.drop_replicate, ← List.drop_append, ← hzeros, List.length_drop,
      List.length_cons] at hlate
    rw [CDataHandler.get, BodyReader.lookup_takeStr, BodyReader.pBody_takeInt]
    split
    · rw [Option.getD_some]
      show strlen (([t] ++ d ++ [0] ++ List.replicate n 0).drop 4) < _
      omega
    · simpa [BodyReader.lookup_takeInt] using hlength
  · refine ⟨wordAt (t :: (d ++ [0]) ++ List.replicate n 0) 0, wordAt_large ht _ _, ?_⟩
    simp [CDataHandler.get, BodyReader.lookup_takeStr, BodyReader.lookup_takeInt]

/-- What the ControlCenter reads from a log handed on by a controller. -/
theorem center_log {t : UInt8} {d : Bytes} (hfit : ([t] ++ d).length + 1 ≤ maxDataLen)
    (nSequence : Word) : ∃ n, (ControlCenter.parseBody accessLogRequest (receiveBuffer
      ((relayHeader accessLogRequest nSequence (([t] ++ d).length + 1)).bytes ++
        ([t] ++ d ++ [0])))).2 =
      (((BodyReader.mk [] (([t] ++ d ++ [0]) ++ List.replicate n 0)).takeInt "type").takeStr
        "data").rData := by
  have hpos : 0 < nBodyLen (relayHeader accessLogRequest nSequence (([t] ++ d).length + 1)) := by
    rw [nBodyLen_relayHeader _ _ hfit]
    omega
  rw [receiveBuffer_append, ControlCenter.parseBody, parseBodyWith_packetImage _ hpos]
  exact ⟨_, rfl⟩

/-- What an access log request of a client makes a controller send to the center. -/
theorem onCMPWith_sends {table : ℤ → Word → Word → Bytes → ControllerProg ℤ} {nFD : ℤ}
    {pData : Bytes} {S : List (ℤ × Bytes) → Prop} (hcommand : getCommand pData = accessLogRequest)
    (htable : (table nFD accessLogRequest (getSequence pData) pData).Emits
      Controller.sentToCenter S) :
    (Controller.onCMPWith table nFD pData).Emits Controller.sentToCenter S := by
  unfold Controller.onCMPWith
  dsimp only
  rw [hcommand]
  -- neither a response nor a command outside the table
  exact .call_none (fun _ => rfl) fun _ => htable.bind_nil fun _ => .ret rfl

/-- The log a client has sent: a type, and a text that leaves room for its zero byte. -/
theorem accepted_log {pData : Bytes} {q : ℤ × CDataHandler} (haccept : Accepted ["type", "data"] q)
    (hm : q.2 = (((BodyReader.mk [] (pData.drop sizeofCmpHeader)).takeByte "type").takeStr
      "data").rData)
    (hnul : 0 ∈ (pData.drop (sizeofCmpHeader + 1)).take (maxDataLen - 1)) :
    ∃ t : UInt8, ∃ d : Bytes, t ≠ 0 ∧ d ≠ [] ∧ 0 ∉ d ∧ ([t] ++ d).length + 1 ≤ maxDataLen ∧
      q.2.lookup "type" = some [t] ∧ q.2.lookup "data" = some d := by
  obtain ⟨t, ht, hd, htype, hdata⟩ := log_fields hm fun n hn => haccept.lookup hn
  refine ⟨t, _, ht, hd, zero_notMem_cstr _, ?_, htype, hdata⟩
  have hlt := strlen_lt_of_mem hnul
  rw [List.tail_drop, List.length_append, List.length_singleton]
  rw [strlen, maxDataLen] at hlt
  rw [maxDataLen]
  omega

/-- **The codecs disagree on access logs.** Whatever log a controller has accepted from a client,
the ControlCenter reads another text from the packet that is handed on, and another type. -/
theorem access_log_disagrees (mConfig : Controller.Config) (nClientFD : ℤ) (pData : Bytes)
    (hcommand : getCommand pData = accessLogRequest)
    (haccept : Accepted ["type", "data"] (Controller.parseBody accessLogRequest pData))
    (hnul : 0 ∈ (pData.drop (sizeofCmpHeader + 1)).take (maxDataLen - 1))
    {tr : List ControllerEvent}
    (h : (Controller.onClientCMP mConfig nClientFD pData).Exec tr () ∨
      (ControllerAw2401.onClientCMP mConfig nClientFD pData).Exec tr ()) :
    ∃ nSocketFD pBuf, tr.filterMap Controller.sentToCenter = [(nSocketFD, pBuf)] ∧
      ¬ (SameField "type" (Controller.parseBody accessLogRequest pData).2
          (ControlCenter.parseBody accessLogRequest (receiveBuffer pBuf)).2 ∨
        (ControlCenter.parseBody accessLogRequest (receiveBuffer pBuf)).2.get "data" =
          (Controller.parseBody accessLogRequest pData).2.get "data") := by
  have hm : (Controller.parseBody accessLogRequest pData).2 = _ := haccept.rData_eq
  obtain ⟨t, d, ht, hd, -, hfit, htype, hdata⟩ := accepted_log haccept hm hnul
  -- both programs have the same handler
  have hlog : ∀ nSequence, (Controller.cmpAccessLog mConfig nClientFD accessLogRequest nSequence
      pData).Emits Controller.sentToCenter fun l => ∃ nSocketFD nSequence,
        l = [(nSocketFD, (relayHeader accessLogRequest nSequence (([t] ++ d).length + 1)).bytes ++
          ([t] ++ d ++ [0]))] := by
    intro nSequence
    have hif := And.intro haccept.1 (And.intro (haccept.2 "type" (by simp))
      (haccept.2 "data" (by simp)))
    unfold Controller.cmpAccessLog
    dsimp only
    rw [if_pos hif, get_of_lookup htype, get_of_lookup hdata]
    exact relay_sends nClientFD nSequence _ hfit
  have hsends : ∃ nSocketFD nSequence, tr.filterMap Controller.sentToCenter =
      [(nSocketFD, (relayHeader accessLogRequest nSequence (([t] ++ d).length + 1)).bytes ++
        ([t] ++ d ++ [0]))] := by
    have hclient : (Controller.onClientCMP mConfig nClientFD pData).Emits _ _ :=
      onCMPWith_sends hcommand (hlog _)
    have haw2401 : (ControllerAw2401.onClientCMP mConfig nClientFD pData).Emits _ _ :=
      onCMPWith_sends hcommand (hlog _)
    rcases h with h | h
    · exact hclient tr () h
    · exact haw2401 tr () h
  obtain ⟨nSocketFD, nSequence, hsent⟩ := hsends
  refine ⟨nSocketFD, _, hsent, ?_⟩
  obtain ⟨n, hcenter⟩ := center_log hfit nSequence
  obtain ⟨hshort, v, hv, hnumber⟩ := shifted_log_fields ht hd n hcenter
  rintro (hsame | hsame)
  · exact not_sameField (get_of_lookup htype) hnumber hv hsame
  · rw [hsame, get_of_lookup hdata] at hshort
    exact lt_irrefl _ hshort

/-- An access log of type 2 with the text `abc`. -/
def logPacket : Bytes :=
  CmpHeader.bytes ⟨21#32, accessLogRequest, statusRok, 7#32⟩ ++ ascii "2abc\x00"

/-- The settings of a controller. -/
def relayConfig : Controller.Config := ⟨ascii "mac", ascii "10.0.0.1", ascii "6607"⟩

theorem access_log_disagrees_packet :
    ∃ tr, (Controller.onClientCMP relayConfig 5 logPacket).Exec tr () ∧
      ∃ nSocketFD pBuf, tr.filterMap Controller.sentToCenter = [(nSocketFD, pBuf)] ∧
        ¬ (SameField "type" (Controller.parseBody accessLogRequest logPacket).2
            (ControlCenter.parseBody accessLogRequest (receiveBuffer pBuf)).2 ∨
          (ControlCenter.parseBody accessLogRequest (receiveBuffer pBuf)).2.get "data" =
            (Controller.parseBody accessLogRequest logPacket).2.get "data") :=
  ⟨_, ⟨(), _, rfl, 16, _, rfl, (), _, rfl, 4, _, rfl, 0, _, rfl, (), _, rfl, 21, _, rfl, (), _, rfl,
      rfl, rfl⟩,
    access_log_disagrees relayConfig 5 logPacket (by decide) (by decide) (by decide)
      (.inl ⟨(), _, rfl, 16, _, rfl, (), _, rfl, 4, _, rfl, 0, _, rfl, (), _, rfl, 21, _, rfl,
        (), _, rfl, rfl, rfl⟩)⟩

/-- A log of type 2 with the text `abc` arrives as one of type 845242979 without a text. -/
theorem access_log_misread :
    Accepted ["type", "data"] (Controller.parseBody accessLogRequest logPacket) ∧
      (Controller.parseBody accessLogRequest logPacket).2.get "type" = ascii "2" ∧
      (Controller.parseBody accessLogRequest logPacket).2.get "data" = ascii "abc" ∧
      ∃ tr, (Controller.onClientCMP relayConfig 5 logPacket).Exec tr () ∧
        ∃ nSocketFD pBuf, tr.filterMap Controller.sentToCenter = [(nSocketFD, pBuf)] ∧
          (ControlCenter.parseBody accessLogRequest (receiveBuffer pBuf)).2.get "type" =
            ascii "845242979" ∧
          (ControlCenter.parseBody accessLogRequest (receiveBuffer pBuf)).2.get "data" = [] := by
  refine ⟨by decide, by decide, by decide, _, ⟨(), _, rfl, 16, _, rfl, (), _, rfl, 4, _, rfl, 0, _,
    rfl, (), _, rfl, 21, _, rfl, (), _, rfl, rfl, rfl⟩, _, _, rfl, ?_⟩
  decide +kernel

/-! ### Between the ControllerServer and the ControllerClient -/

/-- What the ControllerClient reads from a power request. -/
theorem client_port {w p s : UInt8} (hw : w ≠ 0) (hp : p ≠ 0) (hs : s ≠ 0) (nSequence : Word) :
    ControllerClient.parseBody powerPortRequest (receiveBuffer
      ((relayHeader powerPortRequest nSequence [w, p, s].length).bytes ++ [w, p, s])) =
      (3, [("state", [s]), ("port", [p]), ("wire", [w])]) := by
  have hpos : 0 < nBodyLen (relayHeader powerPortRequest nSequence [w, p, s].length) := by
    rw [nBodyLen_relayHeader _ _ (by simp [maxDataLen])]
    simp
  have hfields : ∀ n, ControllerClient.bodyFields powerPortRequest
      ⟨[], [w, p, s] ++ List.replicate n 0⟩ =
        ⟨[("state", [s]), ("port", [p]), ("wire", [w])], List.replicate n 0⟩ := by
    intro n
    show (((BodyReader.takeByte ⟨[], w :: p :: s :: List.replicate n 0⟩ "wire").takeByte
      "port").takeByte "state").takeStr "controller" = _
    rw [BodyReader.takeByte_cons hw, BodyReader.takeByte_cons hp, BodyReader.takeByte_cons hs]
    -- no controller follows
    rw [BodyReader.takeStr_replicate]
    rfl
  rw [receiveBuffer_append, ControllerClient.parseBody, parseBodyWith_packetImage _ hpos, hfields]
  rfl

/-- What the ControllerServer reads from an access log. -/
theorem server_log {t : UInt8} (ht : t ≠ 0) {d : Bytes} (hd : d ≠ []) (hnul : 0 ∉ d)
    (hfit : ([t] ++ d).length + 1 ≤ maxDataLen) (nSequence : Word) :
    ControllerServer.parseBody accessLogRequest (receiveBuffer
      ((relayHeader accessLogRequest nSequence (([t] ++ d).length + 1)).bytes ++
        ([t] ++ d ++ [0]))) = (2, [("data", d), ("type", [t])]) := by
  have hpos : 0 < nBodyLen (relayHeader accessLogRequest nSequence (([t] ++ d).length + 1)) := by
    rw [nBodyLen_relayHeader _ _ hfit]
    omega
  have hlen : d.length < maxSize := by
    rw [List.length_append, List.length_singleton, maxDataLen] at hfit
    rw [maxSize]
    omega
  have hfields : ∀ n, ControllerServer.bodyFields accessLogRequest
      ⟨[], [t] ++ d ++ [0] ++ List.replicate n 0⟩ =
        ⟨[("data", d), ("type", [t])], List.replicate n 0⟩ := by
    intro n
    have happend : [t] ++ d ++ [0] ++ List.replicate n 0 = t :: (d ++ 0 :: List.replicate n 0) := by
      simp
    rw [happend]
    show (BodyReader.takeByte ⟨[], t :: (d ++ 0 :: List.replicate n 0)⟩ "type").takeStr
      "data" = _
    rw [BodyReader.takeByte_cons ht, BodyReader.takeStr_append hd hnul hlen]
    rfl
  rw [receiveBuffer_append, ControllerServer.parseBody, parseBodyWith_packetImage _ hpos, hfields]
  rfl

/-- **The relays preserve meaning.** From the packet the ControllerServer sends on, the
ControllerClient reads the wire, the port and the state that were requested, and nothing else; from
the packet the ControllerClient sends on, the ControllerServer reads the type and the text of the
log, and nothing else. -/
theorem relays_preserve :
    (∀ pData, Accepted ["wire", "port", "state", "controller"]
        (ControllerServer.parseBody powerPortRequest pData) →
      ∀ nSocket tr a,
        (ControllerServer.cmpPowerPortRequest nSocket
          ((ControllerServer.parseBody powerPortRequest pData).2.get "wire")
          ((ControllerServer.parseBody powerPortRequest pData).2.get "port")
          ((ControllerServer.parseBody powerPortRequest pData).2.get "state")).Exec tr a →
        ∃ pBuf, tr.filterMap ControlCenter.sent = [(nSocket, pBuf)] ∧
          (ControllerClient.parseBody powerPortRequest (receiveBuffer pBuf)).1 = 3 ∧
          ∀ k, (ControllerClient.parseBody powerPortRequest (receiveBuffer pBuf)).2.lookup k =
            if k ∈ ["wire", "port", "state"] then
              (ControllerServer.parseBody powerPortRequest pData).2.lookup k
            else none) ∧
    (∀ mConfig nSocket nSequence pData, Accepted ["type", "data"]
        (ControllerClient.parseBody accessLogRequest pData) →
      0 ∈ (pData.drop (sizeofCmpHeader + 1)).take (maxDataLen - 1) →
      ∀ tr a,
        (ControllerClient.cmpAccessLog mConfig nSocket accessLogRequest nSequence pData).Exec tr a →
        ∃ nSocketFD pBuf, tr.filterMap Controller.sentToCenter = [(nSocketFD, pBuf)] ∧
          (ControllerServer.parseBody accessLogRequest (receiveBuffer pBuf)).1 = 2 ∧
          ∀ k, (ControllerServer.parseBody accessLogRequest (receiveBuffer pBuf)).2.lookup k =
            if k ∈ ["type", "data"] then
              (ControllerClient.parseBody accessLogRequest pData).2.lookup k
            else none) := by
  constructor
  · intro pData haccept nSocket tr a h
    have hm : (ControllerServer.parseBody powerPortRequest pData).2 = _ := haccept.rData_eq
    obtain ⟨w, p, s, ⟨hw, hp, hs⟩, hwire, hport, hstate⟩ := port_fields hm
      fun n hn => haccept.lookup (List.mem_append_left ["controller"] hn)
    obtain ⟨nSequence, hsent⟩ := ControlCenter.forwardRequest_sends _ _ _ _ tr a h
    rw [get_of_lookup hwire, get_of_lookup hport, get_of_lookup hstate] at hsent
    change _ = [(_, (relayHeader _ nSequence [w, p, s].length).bytes ++ [w, p, s])] at hsent
    refine ⟨_, hsent, ?_, ?_⟩
    · rw [client_port hw hp hs]
    · intro k
      rw [client_port hw hp hs, AssocList.lookup_restrict (m := (ControllerServer.parseBody
        powerPortRequest pData).2) (by simp [hwire, hport, hstate])]
      exact if_congr (show k ∈ ["wire", "port", "state"].reverse ↔ _ from List.mem_reverse) rfl rfl
  · intro mConfig nSocket nSequence pData haccept hnul tr a h
    have hm : (ControllerClient.parseBody accessLogRequest pData).2 = _ := haccept.rData_eq
    obtain ⟨t, d, ht, hd, hnulFree, hfit, htype, hdata⟩ := accepted_log haccept hm hnul
    have hif := And.intro haccept.1 (And.intro (haccept.2 "type" (by simp))
      (haccept.2 "data" (by simp)))
    unfold ControllerClient.cmpAccessLog at h
    dsimp only at h
    rw [if_pos hif, get_of_lookup htype, get_of_lookup hdata] at h
    obtain ⟨nSocketFD, nSequence', hsent⟩ := relay_sends nSocket nSequence _ hfit tr a h
    refine ⟨nSocketFD, _, hsent, ?_, ?_⟩
    · rw [server_log ht hd hnulFree hfit]
    · intro k
      rw [server_log ht hd hnulFree hfit, AssocList.lookup_restrict
        (m := (ControllerClient.parseBody accessLogRequest pData).2) (by simp [htype, hdata])]
      exact if_congr (show k ∈ ["type", "data"].reverse ↔ _ from List.mem_reverse) rfl rfl

theorem relays_preserve_packets :
    (∃ tr, (ControllerServer.cmpPowerPortRequest 5 (ascii "1") (ascii "1") (ascii "0")).Exec tr 19 ∧
      ∃ pBuf, tr.filterMap ControlCenter.sent = [(5, pBuf)] ∧
        (ControllerClient.parseBody powerPortRequest (receiveBuffer pBuf)).1 = 3 ∧
        ∀ k, (ControllerClient.parseBody powerPortRequest (receiveBuffer pBuf)).2.lookup k =
          if k ∈ ["wire", "port", "state"] then
            (ControllerServer.parseBody powerPortRequest portSetPacket).2.lookup k
          else none) ∧
    ∃ tr, (ControllerClient.cmpAccessLog relayConfig 5 accessLogRequest 7#32 logPacket).Exec tr 0 ∧
      ∃ nSocketFD pBuf, tr.filterMap Controller.sentToCenter = [(nSocketFD, pBuf)] ∧
        (ControllerServer.parseBody accessLogRequest (receiveBuffer pBuf)).1 = 2 ∧
        ∀ k, (ControllerServer.parseBody accessLogRequest (receiveBuffer pBuf)).2.lookup k =
          if k ∈ ["type", "data"] then
            (ControllerClient.parseBody accessLogRequest logPacket).2.lookup k
          else none :=
  ⟨⟨_, ⟨0, _, rfl, (), _, rfl, 19, _, rfl, (), _, rfl, rfl, rfl⟩,
      relays_preserve.1 portSetPacket (by decide) 5 _ 19
        ⟨0, _, rfl, (), _, rfl, 19, _, rfl, (), _, rfl, rfl, rfl⟩⟩,
    _, ⟨16, _, rfl, (), _, rfl, 4, _, rfl, 0, _, rfl, (), _, rfl, 21, _, rfl, (), _, rfl, rfl, rfl⟩,
      relays_preserve.2 relayConfig 5 7#32 logPacket (by decide) (by decide) _ 0
        ⟨16, _, rfl, (), _, rfl, 4, _, rfl, 0, _, rfl, (), _, rfl, 21, _, rfl, (), _, rfl, rfl,
          rfl⟩⟩

end ControllerSystem
