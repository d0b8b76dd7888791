import ControllerSystem.Lib.Tokens
import ControllerSystem.Packet
import Mathlib.Data.List.Flatten

/-!
# The receive notifications of the WMS client

`CWinSocket::OnReceive` of the Windows client reads once, at most 1024 bytes, and
`CWMSClientDlg::Receive` takes what was read for one packet if a header fits into it, and for a text
to show otherwise. Nothing is kept from one notification to the next.

What the dialog does is a list of `WmsEffect`; the packets of the protocol are those of the other
programs, under the name `WMP_PACKET`. A send is taken to be complete. A body that `strcpy_s` cannot
copy ends the program, and so does, for all that is known, a read behind the end of a vector
(`Ends`): nothing is done behind them.

* `handled_effects` — the reads that are taken for packets;
* `answers_effects_iff` — the answers to the enquire-link requests when each read is a packet;
* `goes_on_effects_iff` — the bodies that do not end the program;
* `processesEach_iff` — when each packet is processed once, and each request answered with its own
  number.
-/

open Words

namespace ControllerSystem.WmsClient

/-- `power_port_response`; the other codes are those of the other programs. -/
def powerPortResponse : Word := 0x80000012#32

/-! ### Effects -/

inductive WmsEffect
  /-- What was read is taken for a packet. -/
  | packet (buf : Bytes)
  /-- `addStatus` with the fields of a header. -/
  | addStatus (strName : String) (h : CmpHeader)
  /-- `addStatus` with a text. -/
  | addText (strMsg : Bytes)
  /-- `addStatus` with the result of an authentication. -/
  | authStatus (strClientMAC strStatus : Bytes)
  | firmwareUrl (strURL : Bytes)
  /-- `vData[1]` of a vector without a second element. -/
  | outOfRange
  /-- `strcpy_s` of a text that does not fit. -/
  | invalidParameter
  | optionEnable (nLevel : ℕ)
  /-- `pWinSocket->Send`. -/
  | send (pBuf : Bytes)
  deriving DecidableEq

/-- Nothing is done behind this effect. -/
def Ends : WmsEffect → Prop
  | .outOfRange => True
  | .invalidParameter => True
  | _ => False

instance : DecidablePred Ends
  | .outOfRange => .isTrue trivial
  | .invalidParameter => .isTrue trivial
  | .packet _ | .addStatus .. | .addText _ | .authStatus .. | .firmwareUrl _ | .optionEnable _
  | .send _ => .isFalse id

/-! ### Packets to send -/

/-- The edit fields of the dialog `formatPacket` reads for the packets below. -/
structure Dialog where
  strDeviceMAC : Bytes
  strClientMAC : Bytes

/-- The body of an `access_log_response`. -/
def Dialog.logBody (dlg : Dialog) : Bytes :=
  (if dlg.strDeviceMAC = [] then ascii "00:00:00:00:00:00" else dlg.strDeviceMAC) ++ ascii " " ++
    dlg.strClientMAC ++ ascii " 172.10.11.11 8080 https://m.senao.com" ++ [0]

/-- `CWMSClientDlg::formatPacket`, for the responses. The number `seqnum` is static; the packet has
the next one when it is not given a positive one. -/
def formatPacket (dlg : Dialog) (seqnum : ℤ) (nCommand : Word) (nSequence : ℤ) :
    CmpHeader × Bytes × ℤ :=
  let seqnum := if 0x7FFFFFFF ≤ seqnum then 1 else seqnum
  let sequenceNumber := if 0 < nSequence then nSequence else seqnum + 1
  let body := if nCommand = accessLogResponse then dlg.logBody else []
  (⟨.ofNat 32 (sizeofCmpHeader + body.length), nCommand, 0, .ofInt 32 sequenceNumber⟩, body,
    if 0 < nSequence then seqnum else seqnum + 1)

/-- Format a packet, and send it. -/
def sendPacket (dlg : Dialog) (seqnum : ℤ) (nCommand : Word) (nSequence : ℤ) :
    CmpHeader × ℤ × WmsEffect :=
  let packet := formatPacket dlg seqnum nCommand nSequence
  (packet.1, packet.2.2, .send (packet.1.bytes ++ packet.2.1))

/-- `CWMSClientDlg::OnBnClickedButtonAccessLogResp`. -/
def onBnClickedButtonAccessLogResp (dlg : Dialog) (seqnum : ℤ) : ℤ × List WmsEffect :=
  let sent := sendPacket dlg seqnum accessLogResponse 0
  (sent.2.1, [sent.2.2, .addStatus "get_wireless_access_log_response" sent.1])

/-- The button is pressed `n` times. -/
def accessLogResps (dlg : Dialog) : ℕ → ℤ → ℤ × List WmsEffect
  | 0, seqnum => (seqnum, [])
  | n + 1, seqnum =>
    let first := onBnClickedButtonAccessLogResp dlg seqnum
    let rest := accessLogResps dlg n first.1
    (rest.1, first.2 ++ rest.2)

/-! ### Receiving -/

/-- `CWMSClientDlg::parseBody`: the words of a C string. -/
def parseBody (pBody : Bytes) : List Bytes := Tokens.tokens 32 (cstr pBody)

/-- `strcpy_s( temp, pBody )`, and the words of the copy. -/
def copyBody (pBody : Bytes) : Option (List Bytes) :=
  if strlen pBody < maxDataLen then some (parseBody pBody) else none

/-- What is shown of an `authentication_response`. -/
def authStatus (pBody : Bytes) : List WmsEffect :=
  match copyBody pBody with
  | none => [.invalidParameter]
  | some [] => []
  | some [_] => [.outOfRange]
  | some (strClientMAC :: strStatus :: _) => [.authStatus strClientMAC strStatus]

/-- What is shown of an `update_request`. -/
def firmwareUrl (vData : List Bytes) : List WmsEffect :=
  match vData with
  | [] => []
  | strURL :: _ => [.firmwareUrl strURL]

/-- The answer to a request, with its own number if that is positive. The line that is shown has
the fields of the request. -/
def respond (dlg : Dialog) (seqnum : ℤ) (h : CmpHeader) (nCommand : Word) (strName : String) :
    ℤ × List WmsEffect :=
  let sent := sendPacket dlg seqnum nCommand h.sequenceNumber.toInt
  (sent.2.1, [sent.2.2, .addStatus strName h])

/-- The cases of `Receive`. -/
def onPacket (dlg : Dialog) (seqnum : ℤ) (h : CmpHeader) (pBody : Bytes) : ℤ × List WmsEffect :=
  if h.commandId = bindResponse then
    (seqnum, (if h.commandStatus = 0 then [.optionEnable 2] else []) ++
      [.addStatus "bind_response" h])
  else if h.commandId = powerPortResponse then (seqnum, [.addStatus "power_port_response" h])
  else if h.commandId = authenticationResponse then
    (seqnum, .addStatus "authentication_response" h :: authStatus pBody)
  else if h.commandId = enquireLinkResponse then (seqnum, [.addStatus "enquire_link_response" h])
  else if h.commandId = accessLogResponse then
    (seqnum, [.addStatus "wirless_access_log_response" h])
  else if h.commandId = unbindResponse then
    (seqnum, (if h.commandStatus = 0 then [.optionEnable 3] else []) ++
      [.addStatus "unbind_response" h])
  else if h.commandId = enquireLinkRequest then
    let answer := respond dlg seqnum h enquireLinkResponse "enquire_link_response"
    (answer.1, .addStatus "enquire_link_request" h :: answer.2)
  else if h.commandId = updateRequest then
    match copyBody pBody with
    | none => (seqnum, [.addStatus "firmware_update_request" h, .invalidParameter])
    | some vData =>
      let answer := respond dlg seqnum h updateResponse "firmware_update_response"
      (answer.1, .addStatus "firmware_update_request" h :: firmwareUrl vData ++ answer.2)
  else if h.commandId = accessLogRequest then
    let logs := accessLogResps dlg 200 seqnum
    (logs.1, .addStatus "get_wireless_access_log_request" h :: logs.2)
  else if h.commandId = rebootRequest then
    let answer := respond dlg seqnum h rebootResponse "client_reboot_response"
    (answer.1, .addStatus "client_reboot_request" h :: answer.2)
  else (seqnum, [])

/-- One `OnReceive`: what the one read returns, and what stands behind it in memory. -/
structure Notification where
  recvBuf : Bytes
  behind : Bytes
  recvBuf_ne : recvBuf ≠ []
  recvBuf_le : recvBuf.length ≤ 1024

/-- `CWMSClientDlg::Receive`. -/
def receive (dlg : Dialog) (seqnum : ℤ) (n : Notification) : ℤ × List WmsEffect :=
  if sizeofCmpHeader ≤ n.recvBuf.length then
    let handled := onPacket dlg seqnum (CmpHeader.ofBytes n.recvBuf)
      (n.recvBuf.drop sizeofCmpHeader ++ n.behind)
    (handled.1, .packet n.recvBuf :: handled.2)
  else (seqnum, [.addText (cstr n.recvBuf)])

/-- What a sequence of notifications makes the dialog do. -/
def effects (dlg : Dialog) : ℤ → List Notification → List WmsEffect
  | _, [] => []
  | seqnum, n :: ns =>
    let done := receive dlg seqnum n
    done.2 ++ if ∃ e ∈ done.2, Ends e then [] else effects dlg done.1 ns

/-! ### What is asked -/

/-- What is taken for a packet. -/
def packetOf : WmsEffect → Option Bytes
  | .packet buf => some buf
  | _ => none

/-- The number of an answer to an enquire-link request. -/
def answerOf : WmsEffect → Option Word
  | .send pBuf =>
    if (CmpHeader.ofBytes pBuf).commandId = enquireLinkResponse then
      some (CmpHeader.ofBytes pBuf).sequenceNumber
    else none
  | _ => none

/-- The notifications deliver these packets. -/
def Delivers (ps : List CmpPacket) (ns : List Notification) : Prop :=
  (ns.map Notification.recvBuf).flatten = CmpPacket.stream ps

/-- Each packet is processed once and in order, and each enquire-link request answered once, with
its own number, and the program goes on. -/
structure ProcessesEach (ps : List CmpPacket) (es : List WmsEffect) : Prop where
  goes_on : ∀ e ∈ es, ¬ Ends e
  packets : es.filterMap packetOf = ps.map CmpPacket.bytes
  answers : es.filterMap answerOf =
    (ps.filter fun p => p.cmpHeader.commandId = enquireLinkRequest).map
      fun p => p.cmpHeader.sequenceNumber

/-! ### The cases of `Receive` -/

/-- An effect on the dialog alone. -/
def Shown : WmsEffect → Prop
  | .packet _ => False
  | .send _ => False
  | .outOfRange => False
  | .invalidParameter => False
  | _ => True

/-- The text at the body can be copied where this is done, and that of an `authentication_response`
has not just one word. -/
def Readable (h : CmpHeader) (pBody : Bytes) : Prop :=
  (h.commandId = authenticationResponse →
    strlen pBody < maxDataLen ∧ (parseBody pBody).length ≠ 1) ∧
  (h.commandId = updateRequest → strlen pBody < maxDataLen)

theorem shown_firmwareUrl (vData : List Bytes) : ∀ e ∈ firmwareUrl vData, Shown e := by
  unfold firmwareUrl
  split
  · exact fun _ he => absurd he List.not_mem_nil
  · exact List.forall_mem_singleton.mpr trivial

/-- What is shown of a text at the body, or what ends the program. -/
theorem authStatus_cases (pBody : Bytes) :
    (strlen pBody < maxDataLen ∧ (parseBody pBody).length ≠ 1) ∧
        (∀ e ∈ authStatus pBody, Shown e) ∨
      ¬ (strlen pBody < maxDataLen ∧ (parseBody pBody).length ≠ 1) ∧
        ∃ e, Ends e ∧ authStatus pBody = [e] := by
  unfold authStatus copyBody
  by_cases hfits : strlen pBody < maxDataLen
  · rw [if_pos hfits, and_iff_right hfits]
    cases parseBody pBody with
    | nil => exact .inl ⟨by decide, fun _ he => absurd he List.not_mem_nil⟩
    | cons strClientMAC vData =>
      cases vData with
      | nil => exact .inr ⟨not_not.mpr rfl, .outOfRange, trivial, rfl⟩
      | cons strStatus vData =>
        exact .inl ⟨by simp, List.forall_mem_singleton.mpr trivial⟩
  · rw [if_neg hfits]
    exact .inr ⟨fun h => hfits h.1, .invalidParameter, trivial, rfl⟩

/-- What `Receive` does with a packet: it shows something, ends the program, answers an enquire-link
request, answers another request, or sends logs. -/
theorem onPacket_cases (dlg : Dialog) (seqnum : ℤ) (h : CmpHeader) (pBody : Bytes)
    {P : ℤ × List WmsEffect → Prop}
    (shown : h.commandId ≠ enquireLinkRequest → Readable h pBody →
      ∀ es, (∀ e ∈ es, Shown e) → P (seqnum, es))
    (stops : h.commandId ≠ enquireLinkRequest → ¬ Readable h pBody →
      ∀ strName e, Ends e → P (seqnum, [.addStatus strName h, e]))
    (enquire : h.commandId = enquireLinkRequest → Readable h pBody →
      let answer := respond dlg seqnum h enquireLinkResponse "enquire_link_response"
      P (answer.1, .addStatus "enquire_link_request" h :: answer.2))
    (request : h.commandId ≠ enquireLinkRequest → Readable h pBody → ∀ nCommand strName es,
      nCommand ≠ enquireLinkResponse → (∀ e ∈ es, Shown e) →
      let answer := respond dlg seqnum h nCommand strName
      P (answer.1, es ++ answer.2))
    (logs : h.commandId ≠ enquireLinkRequest → Readable h pBody →
      P ((accessLogResps dlg 200 seqnum).1,
        .addStatus "get_wireless_access_log_request" h :: (accessLogResps dlg 200 seqnum).2)) :
    P (onPacket dlg seqnum h pBody) := by
  have hstatus : ∀ strName, ∀ e ∈ [WmsEffect.addStatus strName h], Shown e :=
    fun strName => List.forall_mem_singleton.mpr trivial
  -- the effect on the buttons of a response without an error
  have hoption : ∀ nLevel, ∀ e ∈ (if h.commandStatus = 0 then [WmsEffect.optionEnable nLevel]
      else []), Shown e := by
    intro nLevel
    split
    · exact List.forall_mem_singleton.mpr trivial
    · exact fun _ he => absurd he List.not_mem_nil
  -- the other commands do not look at the body
  have hreadable : ∀ {nCommand : Word}, nCommand ≠ authenticationResponse →
      nCommand ≠ updateRequest → h.commandId = nCommand → Readable h pBody :=
    fun hauth hupdate hc =>
      ⟨fun heq => absurd (hc.symm.trans heq) hauth, fun heq => absurd (hc.symm.trans heq) hupdate⟩
  unfold onPacket
  refine iteInduction (fun hc => ?_) fun _ => ?_
  · exact shown (hc ▸ by decide) (hreadable (by decide) (by decide) hc) _
      (List.forall_mem_append.mpr ⟨hoption 2, hstatus _⟩)
  refine iteInduction (fun hc => ?_) fun _ => ?_
  · exact shown (hc ▸ by decide) (hreadable (by decide) (by decide) hc) _ (hstatus _)
  refine iteInduction (fun hc => ?_) fun hauth => ?_
  · have hupdate : h.commandId ≠ updateRequest := hc ▸ by decide
    have hiff : Readable h pBody ↔ strlen pBody < maxDataLen ∧ (parseBody pBody).length ≠ 1 := by
      rw [Readable, and_iff_left fun heq => absurd heq hupdate, imp_iff_right hc]
    rcases authStatus_cases pBody with ⟨hgood, hshown⟩ | ⟨hbad, e, he, heq⟩
    · exact shown (hc ▸ by decide) (hiff.mpr hgood) _ (List.forall_mem_cons.mpr ⟨trivial, hshown⟩)
    · rw [heq]
      exact stops (hc ▸ by decide) (hiff.not.mpr hbad) _ e he
  refine iteInduction (fun hc => ?_) fun _ => ?_
  · exact shown (hc ▸ by decide) (hreadable (by decide) (by decide) hc) _ (hstatus _)
  refine iteInduction (fun hc => ?_) fun _ => ?_
  · exact shown (hc ▸ by decide) (hreadable (by decide) (by decide) hc) _ (hstatus _)
  refine iteInduction (fun hc => ?_) fun _ => ?_
  · exact shown (hc ▸ by decide) (hreadable (by decide) (by decide) hc) _
      (List.forall_mem_append.mpr ⟨hoption 3, hstatus _⟩)
  refine iteInduction (fun hc => ?_) fun hne => ?_
  · exact enquire hc (hreadable (by decide) (by decide) hc)
  refine iteInduction (fun hc => ?_) fun hupdate => ?_
  · have hiff : Readable h pBody ↔ strlen pBody < maxDataLen := by
      rw [Readable, and_iff_right fun heq => absurd heq hauth, imp_iff_right hc]
    unfold copyBody
    by_cases hfits : strlen pBody < maxDataLen
    · rw [if_pos hfits]
      exact request hne (hiff.mpr hfits) _ _
        (.addStatus "firmware_update_request" h :: firmwareUrl _) (by decide)
        (List.forall_mem_cons.mpr ⟨trivial, shown_firmwareUrl _⟩)
    · rw [if_neg hfits]
      exact stops hne (hiff.not.mpr hfits) _ _ trivial
  have hrest : Readable h pBody :=
    ⟨fun heq => absurd heq hauth, fun heq => absurd heq hupdate⟩
  refine iteInduction (fun _ => ?_) fun _ => ?_
  · exact logs hne hrest
  refine iteInduction (fun _ => ?_) fun _ => ?_
  · exact request hne hrest _ _ [.addStatus "client_reboot_request" h] (by decide) (hstatus _)
  · exact shown hne hrest _ fun _ he => absurd he List.not_mem_nil

/-! ### Packets -/

/-- What is shown is neither a packet nor an answer. -/
theorem filterMap_shown {es : List WmsEffect} (h : ∀ e ∈ es, Shown e) :
    es.filterMap packetOf = [] ∧ es.filterMap answerOf = [] := by
  rw [List.filterMap_eq_nil_iff, List.filterMap_eq_nil_iff]
  constructor <;>
  · intro e he
    have hshown := h e he
    cases e <;> first | exact hshown.elim | rfl

/-- Nor is what ends the program. -/
theorem filterMap_stops (strName : String) (h : CmpHeader) {e : WmsEffect} (he : Ends e) :
    [WmsEffect.addStatus strName h, e].filterMap packetOf = [] ∧
      [WmsEffect.addStatus strName h, e].filterMap answerOf = [] := by
  cases e <;> first | exact he.elim | exact ⟨rfl, rfl⟩

/-- The logs are no packets and no answers. -/
theorem filterMap_accessLogResps (dlg : Dialog) (n : ℕ) (seqnum : ℤ) :
    (accessLogResps dlg n seqnum).2.filterMap packetOf = [] ∧
      (accessLogResps dlg n seqnum).2.filterMap answerOf = [] := by
  induction n generalizing seqnum with
  | zero => exact ⟨rfl, rfl⟩
  | succ n ih =>
    obtain ⟨hpacket, hanswer⟩ := ih (onBnClickedButtonAccessLogResp dlg seqnum).1
    have hcommand : accessLogResponse ≠ enquireLinkResponse := by decide
    rw [accessLogResps, List.filterMap_append, List.filterMap_append, hpacket, hanswer]
    refine ⟨rfl, ?_⟩
    simp [onBnClickedButtonAccessLogResp, sendPacket, formatPacket, answerOf, hcommand]

/-- What is sent to answer a request. -/
theorem filterMap_respond (dlg : Dialog) (seqnum : ℤ) (h : CmpHeader) (nCommand : Word)
    (strName : String) :
    (respond dlg seqnum h nCommand strName).2.filterMap packetOf = [] ∧
      (respond dlg seqnum h nCommand strName).2.filterMap answerOf =
        if nCommand = enquireLinkResponse then
          [(formatPacket dlg seqnum nCommand h.sequenceNumber.toInt).1.sequenceNumber]
        else [] := by
  refine ⟨rfl, ?_⟩
  -- the header that is formatted is the one read from the packet
  have hanswer : answerOf (sendPacket dlg seqnum nCommand h.sequenceNumber.toInt).2.2 =
      if nCommand = enquireLinkResponse then
        some (formatPacket dlg seqnum nCommand h.sequenceNumber.toInt).1.sequenceNumber
      else none := by
    show answerOf (.send (_ ++ _)) = _
    rw [answerOf, CmpHeader.ofBytes_bytes]
    rfl
  show List.filterMap answerOf [_, .addStatus strName h] = _
  by_cases hc : nCommand = enquireLinkResponse
  · rw [if_pos hc] at hanswer ⊢
    rw [List.filterMap_cons_some hanswer]
    rfl
  · rw [if_neg hc] at hanswer ⊢
    rw [List.filterMap_cons_none hanswer]
    rfl

/-- No effect but the note itself says that a read is taken for a packet. -/
theorem packetOf_onPacket (dlg : Dialog) (seqnum : ℤ) (h : CmpHeader) (pBody : Bytes) :
    (onPacket dlg seqnum h pBody).2.filterMap packetOf = [] := by
  apply onPacket_cases dlg seqnum h pBody (P := fun r => r.2.filterMap packetOf = [])
  case shown => exact fun _ _ es hes => (filterMap_shown hes).1
  case stops => exact fun _ _ strName e he => (filterMap_stops strName h he).1
  case enquire => exact fun _ _ => rfl
  case request =>
    intro _ _ nCommand strName es _ hes
    show List.filterMap packetOf (_ ++ _) = []
    rw [List.filterMap_append, (filterMap_shown hes).1]
    rfl
  case logs =>
    intro _ _
    show List.filterMap packetOf (_ :: _) = []
    rw [List.filterMap_cons_none rfl]
    exact (filterMap_accessLogResps dlg 200 seqnum).1

/-! ### The end of the program -/

theorem accessLogResps_goes_on (dlg : Dialog) (n : ℕ) (seqnum : ℤ) :
    ∀ e ∈ (accessLogResps dlg n seqnum).2, ¬ Ends e := by
  induction n generalizing seqnum with
  | zero => exact fun _ he => absurd he List.not_mem_nil
  | succ n ih =>
    refine List.forall_mem_append.mpr ⟨?_, ih _⟩
    exact List.forall_mem_cons.mpr ⟨id, List.forall_mem_singleton.mpr id⟩

/-- What is shown does not end the program. -/
theorem Shown.goes_on {e : WmsEffect} (h : Shown e) : ¬ Ends e := by
  cases e <;> first | exact h.elim | exact id

theorem ends_onPacket_iff (dlg : Dialog) (seqnum : ℤ) (h : CmpHeader) (pBody : Bytes) :
    (∃ e ∈ (onPacket dlg seqnum h pBody).2, Ends e) ↔ ¬ Readable h pBody := by
  -- in all cases but one no effect ends the program
  have hgoes : ∀ {es : List WmsEffect}, Readable h pBody → (∀ e ∈ es, ¬ Ends e) →
      ((∃ e ∈ es, Ends e) ↔ ¬ Readable h pBody) := fun hread hes =>
    iff_of_false (fun ⟨e, he, hends⟩ => hes e he hends) (not_not.mpr hread)
  have hanswer : ∀ nCommand strName, ∀ e ∈ (respond dlg seqnum h nCommand strName).2, ¬ Ends e :=
    fun _ _ => List.forall_mem_cons.mpr ⟨id, List.forall_mem_singleton.mpr id⟩
  apply onPacket_cases dlg seqnum h pBody
    (P := fun r => (∃ e ∈ r.2, Ends e) ↔ ¬ Readable h pBody)
  case shown => exact fun _ hread es hes => hgoes hread fun e he => (hes e he).goes_on
  case stops =>
    intro _ hread strName e he
    exact iff_of_true ⟨e, List.mem_cons_of_mem _ (List.mem_singleton_self e), he⟩ hread
  case enquire =>
    exact fun _ hread => hgoes hread (List.forall_mem_cons.mpr ⟨id, hanswer _ _⟩)
  case request =>
    intro _ hread nCommand strName es _ hes
    exact hgoes hread (List.forall_mem_append.mpr ⟨fun e he => (hes e he).goes_on, hanswer _ _⟩)
  case logs =>
    intro _ hread
    exact hgoes hread (List.forall_mem_cons.mpr ⟨id, accessLogResps_goes_on dlg 200 seqnum⟩)

/-- What is read can be taken for a packet without ending the program. -/
def Notification.Readable (n : Notification) : Prop :=
  sizeofCmpHeader ≤ n.recvBuf.length →
    WmsClient.Readable (CmpHeader.ofBytes n.recvBuf) (n.recvBuf.drop sizeofCmpHeader ++ n.behind)

theorem ends_receive_iff (dlg : Dialog) (seqnum : ℤ) (n : Notification) :
    (∃ e ∈ (receive dlg seqnum n).2, Ends e) ↔ ¬ n.Readable := by
  unfold receive Notification.Readable
  split
  · next hlong =>
    rw [imp_iff_right hlong, ← ends_onPacket_iff dlg seqnum]
    have hpacket : ¬ Ends (.packet n.recvBuf) := id
    simp [hpacket]
  · next hshort =>
    refine iff_of_false ?_ (not_not.mpr fun hlong => absurd hlong hshort)
    rintro ⟨e, he, hends⟩
    rw [List.mem_singleton.mp he] at hends
    exact hends

/-- The bodies that do not end the program. -/
theorem goes_on_effects_iff (dlg : Dialog) (seqnum : ℤ) (ns : List Notification) :
    (∀ e ∈ effects dlg seqnum ns, ¬ Ends e) ↔ ∀ n ∈ ns, n.Readable := by
  induction ns generalizing seqnum with
  | nil => exact iff_of_true (fun _ he => absurd he List.not_mem_nil) nofun
  | cons n ns ih =>
    have hn := ends_receive_iff dlg seqnum n
    rw [effects, List.forall_mem_append, List.forall_mem_cons]
    by_cases hread : n.Readable
    · have hgo : ¬ ∃ e ∈ (receive dlg seqnum n).2, Ends e := hn.not.mpr (not_not.mpr hread)
      rw [if_neg hgo, ih, and_iff_right hread, and_iff_right]
      exact fun e he hends => hgo ⟨e, he, hends⟩
    · obtain ⟨e, he, hends⟩ := hn.mpr hread
      exact iff_of_false (fun h => h.1 e he hends) fun h => hread h.1

/-- A notification that does not end the program, and those behind it. -/
theorem effects_cons {n : Notification} (hn : n.Readable) (dlg : Dialog) (seqnum : ℤ)
    (ns : List Notification) : effects dlg seqnum (n :: ns) =
      (receive dlg seqnum n).2 ++ effects dlg (receive dlg seqnum n).1 ns := by
  rw [effects, if_neg ((ends_receive_iff dlg seqnum n).not.mpr (not_not.mpr hn))]

/-- The reads that are taken for packets. -/
theorem handled_effects (dlg : Dialog) (seqnum : ℤ) {ns : List Notification}
    (hread : ∀ n ∈ ns, n.Readable) : (effects dlg seqnum ns).filterMap packetOf =
      (ns.map Notification.recvBuf).filter fun buf => sizeofCmpHeader ≤ buf.length := by
  induction ns generalizing seqnum with
  | nil => rfl
  | cons n ns ih =>
    obtain ⟨hn, hns⟩ := List.forall_mem_cons.mp hread
    rw [effects_cons hn, List.filterMap_append, ih _ hns, List.map_cons, List.filter_cons]
    unfold receive
    by_cases hlong : sizeofCmpHeader ≤ n.recvBuf.length
    · rw [if_pos hlong, if_pos (decide_eq_true hlong), List.filterMap_cons, packetOf_onPacket]
      rfl
    · rw [if_neg hlong, if_neg (by simpa using hlong)]
      rfl

/-! ### Answers -/

/-- The number of the answer to a request. -/
def answerNumber (seqnum : ℤ) (h : CmpHeader) : Word :=
  if 0 < h.sequenceNumber.toInt then h.sequenceNumber
  else .ofInt 32 ((if 0x7FFFFFFF ≤ seqnum then 1 else seqnum) + 1)

/-- The static number stays positive. -/
theorem formatPacket_seqnum_pos (dlg : Dialog) {seqnum : ℤ} (hpos : 0 < seqnum) (nCommand : Word)
    (nSequence : ℤ) : 0 < (formatPacket dlg seqnum nCommand nSequence).2.2 := by
  show 0 < if 0 < nSequence then (if 0x7FFFFFFF ≤ seqnum then 1 else seqnum)
    else (if 0x7FFFFFFF ≤ seqnum then 1 else seqnum) + 1
  split <;> split <;> omega

theorem accessLogResps_seqnum_pos (dlg : Dialog) (n : ℕ) {seqnum : ℤ} (hpos : 0 < seqnum) :
    0 < (accessLogResps dlg n seqnum).1 := by
  induction n generalizing seqnum with
  | zero => exact hpos
  | succ n ih => exact ih (formatPacket_seqnum_pos dlg hpos accessLogResponse 0)

theorem receive_seqnum_pos (dlg : Dialog) {seqnum : ℤ} (hpos : 0 < seqnum) (n : Notification) :
    0 < (receive dlg seqnum n).1 := by
  unfold receive
  split
  · refine onPacket_cases dlg seqnum _ _ (P := fun r => 0 < r.1) ?_ ?_ ?_ ?_ ?_
    · exact fun _ _ _ _ => hpos
    · exact fun _ _ _ _ _ => hpos
    · exact fun _ _ => formatPacket_seqnum_pos dlg hpos enquireLinkResponse _
    · exact fun _ _ nCommand _ _ _ _ => formatPacket_seqnum_pos dlg hpos nCommand _
    · intro _ _
      dsimp only
      exact accessLogResps_seqnum_pos dlg 200 hpos
  · exact hpos

/-- What a packet read by itself is answered with. -/
theorem answers_receive (dlg : Dialog) (seqnum : ℤ) {n : Notification} {p : CmpPacket}
    (hn : n.recvBuf = p.bytes) :
    (receive dlg seqnum n).2.filterMap answerOf =
      if p.cmpHeader.commandId = enquireLinkRequest then [answerNumber seqnum p.cmpHeader]
      else [] := by
  have hlength : sizeofCmpHeader ≤ n.recvBuf.length := by
    rw [hn, p.length_bytes]
    exact Nat.le_add_right 16 _
  have hheader : CmpHeader.ofBytes n.recvBuf = p.cmpHeader := by
    rw [hn, CmpPacket.bytes, CmpHeader.ofBytes_bytes]
  unfold receive
  rw [if_pos hlength, hheader]
  show List.filterMap answerOf (_ :: (onPacket _ _ _ _).2) = _
  rw [List.filterMap_cons_none rfl]
  apply onPacket_cases dlg seqnum _ _ (P := fun r => r.2.filterMap answerOf = _)
  case shown =>
    intro hne _ es hes
    rw [if_neg hne]
    exact (filterMap_shown hes).2
  case stops =>
    intro hne _ strName e he
    rw [if_neg hne]
    exact (filterMap_stops strName _ he).2
  case enquire =>
    intro heq _
    rw [if_pos heq]
    show List.filterMap answerOf (_ :: (respond _ _ _ _ _).2) = _
    rw [List.filterMap_cons_none rfl, (filterMap_respond _ _ _ _ _).2, if_pos rfl]
    show [BitVec.ofInt 32 (if 0 < p.cmpHeader.sequenceNumber.toInt then _ else _)] = _
    rw [answerNumber]
    split
    · rw [BitVec.ofInt_toInt]
    · rfl
  case request =>
    intro hne _ nCommand strName es hcommand hes
    rw [if_neg hne]
    show List.filterMap answerOf (es ++ (respond _ _ _ _ _).2) = _
    rw [List.filterMap_append, (filterMap_shown hes).2, (filterMap_respond _ _ _ _ _).2,
      if_neg hcommand, List.append_nil]
  case logs =>
    intro hne _
    rw [if_neg hne]
    show List.filterMap answerOf (_ :: _) = []
    rw [List.filterMap_cons_none rfl]
    exact (filterMap_accessLogResps dlg 200 seqnum).2

/-- The answer has the number of the request exactly if that is positive. -/
theorem answerNumber_eq_iff {seqnum : ℤ} (hpos : 0 < seqnum) (h : CmpHeader) :
    answerNumber seqnum h = h.sequenceNumber ↔ 0 < h.sequenceNumber.toInt := by
  rw [answerNumber]
  constructor
  · intro heq
    by_contra hneg
    rw [if_neg hneg] at heq
    have htoInt := congrArg BitVec.toInt heq
    have hsize : ((2 ^ 32 : ℕ) : ℤ) = 4294967296 := rfl
    rw [BitVec.toInt_ofInt, Int.bmod_def, hsize] at htoInt
    -- the number counted on is between 2 and 2^31 - 1
    split at htoInt <;> split at htoInt <;> omega
  · intro h
    rw [if_pos h]

/-- **Packets read one by one.** What is answered when each read is a packet. -/
theorem answers_effects_iff (dlg : Dialog) {ps : List CmpPacket} {ns : List Notification}
    (h : ns.map Notification.recvBuf = ps.map CmpPacket.bytes) (hread : ∀ n ∈ ns, n.Readable)
    {seqnum : ℤ} (hpos : 0 < seqnum) :
    ((effects dlg seqnum ns).filterMap answerOf =
      (ps.filter fun p => p.cmpHeader.commandId = enquireLinkRequest).map
        fun p => p.cmpHeader.sequenceNumber) ↔
      ∀ p ∈ ps, p.cmpHeader.commandId = enquireLinkRequest →
        0 < p.cmpHeader.sequenceNumber.toInt := by
  induction ps generalizing ns seqnum with
  | nil =>
    rw [List.map_nil, List.map_eq_nil_iff] at h
    subst h
    exact iff_of_true rfl fun _ hp => absurd hp List.not_mem_nil
  | cons p ps ih =>
    cases ns with
    | nil => cases h
    | cons n ns =>
      obtain ⟨hn, hns⟩ := List.cons.inj h
      obtain ⟨hreadn, hreadns⟩ := List.forall_mem_cons.mp hread
      have hrest := ih hns hreadns (receive_seqnum_pos dlg hpos n)
      rw [effects_cons hreadn, List.filterMap_append, answers_receive dlg seqnum hn,
        List.forall_mem_cons, List.filter_cons, ← hrest]
      by_cases hc : p.cmpHeader.commandId = enquireLinkRequest
      · rw [if_pos hc, if_pos (decide_eq_true hc), List.map_cons, List.singleton_append,
          List.cons_eq_cons, answerNumber_eq_iff hpos]
        exact and_congr_left' ⟨fun hp _ => hp, fun hp => hp hc⟩
      · rw [if_neg hc, if_neg (by simpa using hc), List.nil_append]
        exact (and_iff_right fun h => absurd h hc).symm

/-! ### Segmentations -/

/-- When nothing is lost from a list of stretches, all have been kept. -/
theorem filter_eq_self_of_flatten {p : Bytes → Bool} {ls : List Bytes} (hne : ∀ l ∈ ls, l ≠ [])
    (h : (ls.filter p).flatten = ls.flatten) : ls.filter p = ls := by
  have hlen : (ls.filter p).flatten.length = ls.flatten.length := congrArg List.length h
  clear h
  induction ls with
  | nil => rfl
  | cons l ls ih =>
    obtain ⟨hl, hls⟩ := List.forall_mem_cons.mp hne
    have hle : (ls.filter p).flatten.length ≤ ls.flatten.length :=
      (List.Sublist.flatten List.filter_sublist).length_le
    rw [List.filter_cons] at hlen ⊢
    split at hlen
    · rw [List.flatten_cons, List.flatten_cons, List.length_append, List.length_append,
        Nat.add_left_cancel_iff] at hlen
      rw [if_pos ‹_›, ih hls hlen]
    · -- a stretch that is dropped is missing
      rw [List.flatten_cons, List.length_append] at hlen
      have hpos := List.length_pos_of_ne_nil hl
      omega

/-- **When each packet is processed once.** The dialog processes the packets of a stream, and
answers each enquire-link request with its own number, exactly if every read holds one packet,
whole, the numbers of the requests are positive, and no body ends the program. -/
theorem processesEach_iff (dlg : Dialog) {seqnum : ℤ} (hpos : 0 < seqnum) {ps : List CmpPacket}
    {ns : List Notification} (h : Delivers ps ns) :
    ProcessesEach ps (effects dlg seqnum ns) ↔
      ns.map Notification.recvBuf = ps.map CmpPacket.bytes ∧
        (∀ p ∈ ps, p.cmpHeader.commandId = enquireLinkRequest →
          0 < p.cmpHeader.sequenceNumber.toInt) ∧
        ∀ n ∈ ns, n.Readable := by
  have hne : ∀ l ∈ ns.map Notification.recvBuf, l ≠ [] := by
    intro l hl
    obtain ⟨n, -, rfl⟩ := List.mem_map.mp hl
    exact n.recvBuf_ne
  constructor
  · intro hp
    have hread := (goes_on_effects_iff dlg seqnum ns).mp hp.goes_on
    have hpackets := hp.packets
    rw [handled_effects dlg seqnum hread] at hpackets
    have hflat : ((ns.map Notification.recvBuf).filter fun buf =>
        sizeofCmpHeader ≤ buf.length).flatten = (ns.map Notification.recvBuf).flatten := by
      rw [hpackets, h]
      exact List.flatMap_def.symm
    rw [filter_eq_self_of_flatten hne hflat] at hpackets
    exact ⟨hpackets, (answers_effects_iff dlg hpackets hread hpos).mp hp.answers, hread⟩
  · rintro ⟨hreads, hnumbers, hread⟩
    refine ⟨(goes_on_effects_iff dlg seqnum ns).mpr hread, ?_,
      (answers_effects_iff dlg hreads hread hpos).mpr hnumbers⟩
    rw [handled_effects dlg seqnum hread, hreads, List.filter_eq_self]
    intro buf hbuf
    obtain ⟨p, -, rfl⟩ := List.mem_map.mp hbuf
    rw [p.length_bytes]
    exact decide_eq_true (Nat.le_add_right 16 _)

/-- An enquire-link request. -/
def enquireLink (nSequence : Word) : CmpPacket where
  cmpHeader := ⟨16, enquireLinkRequest, statusRok, nSequence⟩
  cmpBody := []
  commandLength_eq := rfl
  cmpBody_le := Nat.zero_le _

/-- The result of an authentication. -/
def authenticated : CmpPacket where
  cmpHeader := ⟨20, authenticationResponse, statusRok, 3⟩
  cmpBody := ascii "m 1" ++ [0]
  commandLength_eq := rfl
  cmpBody_le := by decide

/-- Two requests and a body of two words, in three reads. -/
theorem processesEach_one_by_one :
    ProcessesEach [enquireLink 1, authenticated, enquireLink 2] (effects ⟨[], []⟩ 1
      [⟨(enquireLink 1).bytes, [], by decide, by decide⟩,
        ⟨authenticated.bytes, [], by decide, by decide⟩,
        ⟨(enquireLink 2).bytes, [], by decide, by decide⟩]) := by
  refine (processesEach_iff ⟨[], []⟩ (by decide) ?_).mpr ⟨rfl, by decide, ?_⟩
  · show _ = _
    rfl
  · simp only [List.forall_mem_cons, List.not_mem_nil, false_imp_iff, implies_true, and_true]
    unfold Notification.Readable Readable
    decide

/-- Two requests in one read are answered once, and one request in two reads is not answered. -/
theorem processesEach_not :
    Delivers [enquireLink 1, enquireLink 2]
      [⟨(enquireLink 1).bytes ++ (enquireLink 2).bytes, [], by decide, by decide⟩] ∧
    ¬ ProcessesEach [enquireLink 1, enquireLink 2] (effects ⟨[], []⟩ 1
      [⟨(enquireLink 1).bytes ++ (enquireLink 2).bytes, [], by decide, by decide⟩]) ∧
    Delivers [enquireLink 1] [⟨(enquireLink 1).bytes.take 8, [], by decide, by decide⟩,
      ⟨(enquireLink 1).bytes.drop 8, [], by decide, by decide⟩] ∧
    ¬ ProcessesEach [enquireLink 1] (effects ⟨[], []⟩ 1
      [⟨(enquireLink 1).bytes.take 8, [], by decide, by decide⟩,
        ⟨(enquireLink 1).bytes.drop 8, [], by decide, by decide⟩]) := by
  refine ⟨rfl, fun h => ?_, rfl, fun h => ?_⟩
  · exact absurd h.answers (by decide)
  · exact absurd h.answers (by decide)

end ControllerSystem.WmsClient
