import ControllerSystem.Lib.Interp
import ControllerSystem.ControlCenter.Responses

/-!
# Storing a record

Two requests end in the document database: an `access_log_request` and an `sdk_tracker_request`.
For the handlers `CMongoDBHandler::insert` is one call; here it is carried out. It asks the driver
whether the connection has failed, parses the text with `mongo::fromjson`, and inserts the document
in a `try` block. The block does not contain the call of `fromjson`, which throws on a text it
cannot parse, and there is no other handler up to `CObject::run`.

`insert_exec` says what an execution of `insert` comes to: an exception, an object id when the
document was stored, and the empty string when it was not. From it follow the two handlers
(`cmpAccessLog_exec`, `cmpSdkTracker_exec`).

The driver is taken as it is documented: whether the connection has failed, what the parser makes
of a text, and whether the insertion throws is up to it. An object id has twelve bytes.
-/

open Words Calls

namespace ControllerSystem.ControlCenter

/-! ### The driver -/

/-- `mongo::OID`. -/
structure OID where
  bytes : Bytes
  length_bytes : bytes.length = 12

/-- A hexadecimal digit. -/
def hexDigit (n : ℕ) : UInt8 := .ofNat (if n < 10 then 48 + n else 87 + n)

/-- `OID::toString`. -/
def OID.toString (oid : OID) : Bytes :=
  oid.bytes.flatMap fun b => [hexDigit (b.toNat / 16), hexDigit (b.toNat % 16)]

/-- The text of an object id is not empty. -/
theorem OID.toString_ne_nil (oid : OID) : oid.toString ≠ [] := by
  obtain ⟨bytes, hlen⟩ := oid
  cases bytes with
  | nil => cases hlen
  | cons b bytes => simp [OID.toString]

/-- A document that was stored: its object id, and the document as a text. -/
structure Inserted where
  oid : OID
  strDocument : Bytes

/-- The driver while a packet is handled. -/
structure MongoClient (Bson : Type) where
  /-- `DBconn->isFailed()`. -/
  isFailed : Bool
  /-- `mongo::fromjson`, which throws where there is no document. -/
  fromjson : Bytes → Option Bson

/-- The exceptions that leave `CMongoDBHandler::insert`. -/
inductive MongoException
  | msgAssertion

inductive MongoCall (Bson : Type)
  /-- A call of the handlers. -/
  | center (c : CenterCall)
  /-- What stands in the `try` block: the document gets an object id and is inserted. -/
  | insert (strCon : Bytes) (bson : Bson)

variable {Bson : Type}

/-- What the calls return. Nothing comes from an insertion that has thrown an exception. -/
abbrev MongoCall.Res : MongoCall Bson → Type
  | center c => c.Res
  | insert _ _ => Option Inserted

abbrev MongoProg (Bson α : Type) := Prog (MongoCall Bson) MongoCall.Res α

abbrev MongoEvent (Bson : Type) := Prog.Event (MongoCall Bson) MongoCall.Res

/-! ### The handlers over the driver -/

/-- `CMongoDBHandler::insert`. -/
def insert (m : MongoClient Bson) (strDB strCollection strJSON : Bytes) :
    MongoProg Bson (Except MongoException Bytes) :=
  if m.isFailed then pure (.ok [])
  else
    match m.fromjson strJSON with
    | none => pure (.error .msgAssertion)
    | some bson =>
      .call (.insert (strDB ++ ascii "." ++ strCollection) bson) fun
        -- the exception is caught, and `strId` still empty
        | none => pure (.ok [])
        | some inserted =>
          .call (.center (.printLog inserted.strDocument "[Mongodb] insert")) fun _ =>
            pure (.ok inserted.oid.toString)

/-- How a call of the handlers is carried out. -/
def carryOut (m : MongoClient Bson) :
    (c : CenterCall) → MongoProg Bson (Except MongoException c.Res)
  | .mongoInsert strDB strCollection strData => insert m strDB strCollection strData
  | c => .call (.center c) fun r => .ret (.ok r)

/-- A packet is handled. `CObject::run`, which calls the handler, catches nothing. -/
def handlePacket (m : MongoClient Bson) (nClientFD : ℤ) (pData : Bytes) :
    MongoProg Bson (Except MongoException Unit) :=
  (onCMP nClientFD pData).interp (carryOut m)

/-! ### What comes of a packet -/

/-- The status of a response an event sends on a socket. -/
def statusOf (nSocket : ℤ) : MongoEvent Bson → Option Word
  | ⟨.center (.socketSend nSockFD pBuf), _⟩ =>
    if nSockFD = nSocket ∧ isAckPacket (getCommand pBuf) then some (getStatus pBuf) else none
  | _ => none

/-- The statuses sent on a socket. -/
def statuses (nSocket : ℤ) (tr : List (MongoEvent Bson)) : List Word :=
  tr.filterMap (statusOf nSocket)

/-- The response an event sends on a socket. -/
def answerOf (nSocket : ℤ) : MongoEvent Bson → Option (Word × Word)
  | ⟨.center c, r⟩ => responseOf nSocket ⟨c, r⟩
  | _ => none

/-- The responses sent on a socket, as their commands and sequence numbers. -/
def answers (nSocket : ℤ) (tr : List (MongoEvent Bson)) : List (Word × Word) :=
  tr.filterMap (answerOf nSocket)

/-- The documents stored. -/
def stored (tr : List (MongoEvent Bson)) : List (Bytes × Bson) :=
  tr.filterMap fun
    | ⟨.insert strCon bson, some _⟩ => some (strCon, bson)
    | _ => none

/-- The documents whose insertion has thrown an exception. -/
def refused (tr : List (MongoEvent Bson)) : List (Bytes × Bson) :=
  tr.filterMap fun
    | ⟨.insert strCon bson, none⟩ => some (strCon, bson)
    | _ => none

theorem statuses_append (nSocket : ℤ) (tr₁ tr₂ : List (MongoEvent Bson)) :
    statuses nSocket (tr₁ ++ tr₂) = statuses nSocket tr₁ ++ statuses nSocket tr₂ :=
  List.filterMap_append

theorem stored_append (tr₁ tr₂ : List (MongoEvent Bson)) :
    stored (tr₁ ++ tr₂) = stored tr₁ ++ stored tr₂ := List.filterMap_append

theorem refused_append (tr₁ tr₂ : List (MongoEvent Bson)) :
    refused (tr₁ ++ tr₂) = refused tr₁ ++ refused tr₂ := List.filterMap_append

/-- The data a packet asks to store: that of an accepted request of a known type. -/
def insertData (pData : Bytes) : Option Bytes :=
  let (nRet, rData) := parseBody (getCommand pData) pData
  if getCommand pData = sdkTrackerRequest then
    if 0 < nRet ∧ rData.isValidKey "data" then some (rData.get "data") else none
  else if 0 < nRet ∧ rData.isValidKey "type" ∧ rData.isValidKey "data" ∧
      convertFromString (rData.get "type") ∈ [typeMobileTracker, typePowerStation, typeSdkTracker]
    then some (rData.get "data")
  else none

/-- The document of a text has been stored. -/
def Stored (m : MongoClient Bson) (strJSON : Bytes) (tr : List (MongoEvent Bson)) : Prop :=
  ∃ strCon bson, m.fromjson strJSON = some bson ∧ (strCon, bson) ∈ stored tr

/-- The connection is up, the text is well formed, and the driver has refused nothing. -/
def Insertable (m : MongoClient Bson) (strJSON : Bytes) (tr : List (MongoEvent Bson)) : Prop :=
  m.isFailed = false ∧ (m.fromjson strJSON).isSome ∧ refused tr = []

/-- The connection is up, and the text is not well formed. -/
def Malformed (m : MongoClient Bson) (strJSON : Bytes) : Prop :=
  m.isFailed = false ∧ m.fromjson strJSON = none

/-- What `insert` has done and returned. -/
structure InsertResult (m : MongoClient Bson) (strJSON : Bytes) (tr : List (MongoEvent Bson))
    (res : Except MongoException Bytes) : Prop where
  error_iff : (∃ e, res = .error e) ↔ Malformed m strJSON
  ok_iff : ∀ strId, res = .ok strId → (strId ≠ [] ↔ Stored m strJSON tr)
  stored_iff : Stored m strJSON tr ↔ Insertable m strJSON tr
  statuses_eq : ∀ nSocket, statuses nSocket tr = []
  answers_eq : ∀ nSocket, answers nSocket tr = []

/-- Where nothing is stored there is no document of the text. -/
theorem not_stored {m : MongoClient Bson} {strJSON : Bytes} {tr : List (MongoEvent Bson)}
    (h : stored tr = []) : ¬ Stored m strJSON tr := by
  rintro ⟨strCon, bson, -, hmem⟩
  rw [h] at hmem
  exact List.not_mem_nil hmem

/-- **Storing a document.** -/
theorem insert_exec {m : MongoClient Bson} {strDB strCollection strJSON : Bytes}
    {tr : List (MongoEvent Bson)} {res : Except MongoException Bytes}
    (h : (insert m strDB strCollection strJSON).Exec tr res) : InsertResult m strJSON tr res := by
  unfold insert at h
  split at h
  · -- the connection has failed: nothing is done
    next hfailed =>
    obtain ⟨rfl, rfl⟩ := h
    have hup : m.isFailed ≠ false := by simp [hfailed]
    refine ⟨iff_of_false nofun fun hbad => hup hbad.1, ?_, ?_, fun _ => rfl, fun _ => rfl⟩
    · intro strId heq
      obtain rfl := Except.ok.inj heq
      exact iff_of_false (fun hne => hne rfl) (not_stored rfl)
    · exact iff_of_false (not_stored rfl) fun hgood => hup hgood.1
  · next hfailed =>
    have hup : m.isFailed = false := Bool.eq_false_iff.mpr hfailed
    split at h
    · -- the text is not well formed: `fromjson` throws, outside the `try` block
      next hjson =>
      obtain ⟨rfl, rfl⟩ := h
      refine ⟨iff_of_true ⟨_, rfl⟩ ⟨hup, hjson⟩, nofun, ?_, fun _ => rfl, fun _ => rfl⟩
      refine iff_of_false (not_stored rfl) fun hgood => ?_
      rw [Insertable, hjson] at hgood
      exact nomatch hgood.2.1
    · next bson hjson =>
      have hgood : ¬ Malformed m strJSON := fun hbad => by
        rw [Malformed, hjson] at hbad
        exact nomatch hbad.2
      obtain ⟨r, tr', rfl, h⟩ := h
      cases r with
      | none =>
        -- the driver throws inside the `try` block
        obtain ⟨rfl, rfl⟩ := h
        refine ⟨iff_of_false nofun hgood, ?_, ?_, fun _ => rfl, fun _ => rfl⟩
        · intro strId heq
          obtain rfl := Except.ok.inj heq
          exact iff_of_false (fun hne => hne rfl) (not_stored rfl)
        · exact iff_of_false (not_stored rfl) fun hins => nomatch hins.2.2
      | some inserted =>
        obtain ⟨u, tr', rfl, rfl, rfl⟩ := h
        have hstored : Stored m strJSON [⟨.insert (strDB ++ ascii "." ++ strCollection) bson,
            some inserted⟩, ⟨.center (.printLog inserted.strDocument "[Mongodb] insert"), u⟩] :=
          ⟨_, bson, hjson, List.mem_singleton.mpr rfl⟩
        refine ⟨iff_of_false nofun hgood, ?_, ?_, fun _ => rfl, fun _ => rfl⟩
        · intro strId heq
          obtain rfl := Except.ok.inj heq
          exact iff_of_true inserted.oid.toString_ne_nil hstored
        · exact iff_of_true hstored ⟨hup, by rw [hjson]; rfl, rfl⟩

/-! ### The handlers -/

section Handlers

variable {m : MongoClient Bson} {nSocket : ℤ} {nSequence : Word} {pData : Bytes}
  {tr : List (MongoEvent Bson)}

/-- A log of a known type is inserted, and nothing is done with any other. -/
theorem insertLog_exec {nType : ℤ} {strData : Bytes} {res : Except MongoException Bytes}
    (h : ((insertLog nType strData).interp (carryOut m)).Exec tr res) :
    if nType ∈ [typeMobileTracker, typePowerStation, typeSdkTracker] then
      InsertResult m strData tr res
    else ∃ u, res = .ok [] ∧ tr = [⟨.center (.printLog
      (ascii "Insert Access log fail, unknow service type") "[AccessLog]"), u⟩] := by
  revert h
  refine insertLog_cases (P := fun p => (p.interp (carryOut m)).Exec tr res → _) ?_ ?_
  · intro htype strCollection h
    rw [if_pos htype]
    exact insert_exec (Prog.exec_interp_single.mp h)
  · intro htype h
    rw [if_neg htype]
    obtain ⟨u, tr', rfl, rfl, rfl⟩ := h
    exact ⟨u, rfl, rfl⟩

/-- A line in the log, and what comes behind it. -/
theorem printLog_exec (nSocket : ℤ) {α : Type} {strMsg : Bytes} {strDesc : String}
    {k : Unit → CenterProg α} {res : Except MongoException α}
    (h : ((printLog strMsg strDesc >>= k).interp (carryOut m)).Exec tr res) :
    ∃ tr', statuses nSocket tr = statuses nSocket tr' ∧ stored tr = stored tr' ∧
      refused tr = refused tr' ∧ ((k ()).interp (carryOut m)).Exec tr' res := by
  obtain ⟨u, tr', rfl, h⟩ := h
  exact ⟨tr', rfl, rfl, rfl, h⟩

/-- A response, and what comes behind it. -/
theorem sendCommand_exec {α : Type} {nCommand nStatus : Word} {k : ℤ → CenterProg α}
    {res : Except MongoException α}
    (h : ((sendCommand nSocket nCommand nStatus nSequence true >>= k).interp
      (carryOut m)).Exec tr res) :
    ∃ nRet tr', statuses nSocket tr = nStatus :: statuses nSocket tr' ∧ stored tr = stored tr' ∧
      refused tr = refused tr' ∧ ((k nRet).interp (carryOut m)).Exec tr' res := by
  obtain ⟨nRet, tr₁, rfl, u, tr₂, rfl, h⟩ := h
  refine ⟨nRet, tr₂, ?_, rfl, rfl, h⟩
  have hstatus : statusOf nSocket (⟨.center (.socketSend nSocket
      (formatHeader (genericNack ||| nCommand) nStatus nSequence).bytes), nRet⟩ : MongoEvent Bson) =
        some nStatus := by
    rw [statusOf, getCommand_bytes, getStatus_bytes]
    exact if_pos ⟨rfl, isAckPacket_or nCommand⟩
  exact List.filterMap_cons_some hstatus

/-- What has been stored stays stored. -/
theorem Stored.mono {strJSON : Bytes} {tr' : List (MongoEvent Bson)} (h : Stored m strJSON tr')
    (hsub : stored tr' ⊆ stored tr) : Stored m strJSON tr := by
  obtain ⟨strCon, bson, hjson, hmem⟩ := h
  exact ⟨strCon, bson, hjson, hsub hmem⟩

/-- A body that is not accepted. -/
theorem refuse_exec {nCommand : Word} {f : ℤ → ℤ} {res : Except MongoException ℤ}
    (h : ((do
      let nRet ← sendCommand nSocket nCommand statusRinvbody nSequence true
      pure (f nRet)).interp (carryOut m)).Exec tr res) :
    (∃ nRet, res = .ok nRet) ∧ statusRok ∉ statuses nSocket tr := by
  have hstatus : statusRok ≠ statusRinvbody := by decide
  obtain ⟨nRet, tr', hstatuses, -, -, rfl, rfl⟩ := sendCommand_exec h
  refine ⟨⟨_, rfl⟩, fun hmem => ?_⟩
  rw [hstatuses] at hmem
  exact absurd (List.mem_singleton.mp hmem) hstatus

/-- Behind an insertion nothing throws. -/
theorem InsertResult.throws_iff {strData : Bytes} {logged : Except MongoException Bytes}
    {res : Except MongoException ℤ} (h : InsertResult m strData tr logged)
    (hres : (∃ e, res = .error e) ↔ ∃ e, logged = .error e) :
    (∃ e, res = .error e) ↔ ∃ strData', some strData = some strData' ∧ Malformed m strData' := by
  rw [hres, h.error_iff]
  constructor
  · exact fun hbad => ⟨strData, rfl, hbad⟩
  · rintro ⟨strData', heq, hbad⟩
    obtain rfl := Option.some.inj heq
    exact hbad

/-- The answer to an access log whose insertion has returned `strOID`. -/
theorem accessLogAnswer_exec {strOID strData : Bytes} {res : Except MongoException ℤ}
    (h : ((if strOID = [] then do
        let _ ← sendCommand nSocket accessLogRequest statusRinvbody nSequence true
        printLog (ascii "Insert Access Log Fail: " ++ strData) "[Center]"
        pure 0
      else do
        let _ ← sendCommand nSocket accessLogRequest statusRok nSequence true
        printLog (ascii "Insert Access Log Success: " ++ strData ++ ascii " OID:" ++ strOID)
          "[Center]"
        pure (0 : ℤ)).interp (carryOut m)).Exec tr res) :
    (statusRok ∈ statuses nSocket tr → strOID ≠ []) ∧ res = .ok 0 := by
  have hstatus : statusRok ≠ statusRinvbody := by decide
  split at h
  · obtain ⟨nRet, tr', hstatuses, -, -, h⟩ := sendCommand_exec h
    obtain ⟨u, tr'', rfl, rfl, rfl⟩ := h
    refine ⟨fun hmem => ?_, rfl⟩
    rw [hstatuses] at hmem
    exact absurd (List.mem_singleton.mp hmem) hstatus
  · next hne =>
    obtain ⟨nRet, tr', -, -, -, h⟩ := sendCommand_exec h
    obtain ⟨u, tr'', rfl, rfl, rfl⟩ := h
    exact ⟨fun _ => hne, rfl⟩

/-- `cmpAccessLog` sends `STATUS_ROK` behind the insertion, and when it has got an object id. -/
theorem cmpAccessLog_exec (hcommand : getCommand pData = accessLogRequest)
    {res : Except MongoException ℤ}
    (h : ((cmpAccessLog nSocket accessLogRequest nSequence pData).interp
      (carryOut m)).Exec tr res) :
    ((∃ e, res = .error e) ↔ ∃ strData, insertData pData = some strData ∧
      Malformed m strData) ∧
    (statusRok ∈ statuses nSocket tr → ∃ strData, insertData pData = some strData ∧
      Stored m strData tr) := by
  have hsdk : accessLogRequest ≠ sdkTrackerRequest := by decide
  unfold cmpAccessLog at h
  rw [insertData, hcommand]
  generalize parseBody accessLogRequest pData = q at h ⊢
  obtain ⟨nRet, rData⟩ := q
  dsimp only at h ⊢
  rw [if_neg hsdk]
  split at h
  · next hbody =>
    -- the body is logged, then the record is inserted
    obtain ⟨tr₀, hstatuses, hstored, -, h⟩ := printLog_exec nSocket h
    rw [hstatuses]
    by_cases htype : convertFromString (rData.get "type") ∈
        [typeMobileTracker, typePowerStation, typeSdkTracker]
    · rw [if_pos ⟨hbody.1, hbody.2.1, hbody.2.2, htype⟩]
      rcases Prog.exec_interp_bind.mp h with ⟨tr₁, strOID, tr₂, rfl, hlog, hanswer⟩ |
        ⟨e, rfl, hlog⟩
      · -- the insertion has returned, and an answer follows
        have hins := insertLog_exec hlog
        rw [if_pos htype] at hins
        obtain ⟨hrok, rfl⟩ := accessLogAnswer_exec hanswer
        constructor
        · exact hins.throws_iff (iff_of_false nofun nofun)
        · intro hmem
          rw [statuses_append, hins.statuses_eq, List.nil_append] at hmem
          have hdone : Stored m (rData.get "data") tr₁ := (hins.ok_iff strOID rfl).mp (hrok hmem)
          refine ⟨_, rfl, hdone.mono ?_⟩
          rw [hstored, stored_append]
          exact List.subset_append_left _ _
      · -- the insertion has thrown, and nothing is sent
        have hins := insertLog_exec hlog
        rw [if_pos htype] at hins
        refine ⟨hins.throws_iff (iff_of_true ⟨e, rfl⟩ ⟨e, rfl⟩), fun hmem => ?_⟩
        rw [hins.statuses_eq] at hmem
        exact absurd hmem List.not_mem_nil
    · -- an unknown type: a line in the log, and the answer to an empty object id
      rw [if_neg fun hall => htype hall.2.2.2]
      rcases Prog.exec_interp_bind.mp h with ⟨tr₁, strOID, tr₂, rfl, hlog, hanswer⟩ |
        ⟨e, rfl, hlog⟩
      · have hlog' := insertLog_exec hlog
        rw [if_neg htype] at hlog'
        obtain ⟨u, heq, rfl⟩ := hlog'
        obtain ⟨hrok, rfl⟩ := accessLogAnswer_exec hanswer
        refine ⟨iff_of_false nofun fun ⟨_, hnone, _⟩ => (nomatch hnone), fun hmem => ?_⟩
        exact absurd (Except.ok.inj heq) (hrok hmem)
      · have hlog' := insertLog_exec hlog
        rw [if_neg htype] at hlog'
        obtain ⟨u, heq, -⟩ := hlog'
        cases heq
  · next hbody =>
    rw [if_neg fun hall => hbody ⟨hall.1, hall.2.1, hall.2.2.1⟩]
    obtain ⟨⟨nRet, rfl⟩, hrok⟩ := refuse_exec h
    exact ⟨iff_of_false nofun fun ⟨_, hnone, _⟩ => (nomatch hnone), fun hmem => absurd hmem hrok⟩

/-- `cmpSdkTracker` sends `STATUS_ROK` before the insertion. -/
theorem cmpSdkTracker_exec (hcommand : getCommand pData = sdkTrackerRequest)
    {res : Except MongoException ℤ}
    (h : ((cmpSdkTracker nSocket sdkTrackerRequest nSequence pData).interp
      (carryOut m)).Exec tr res) :
    ((∃ e, res = .error e) ↔ ∃ strData, insertData pData = some strData ∧
      Malformed m strData) ∧
    ((statusRok ∈ statuses nSocket tr → ∃ strData, insertData pData = some strData ∧
      Stored m strData tr) ↔
        ∀ strData, insertData pData = some strData → Insertable m strData tr) := by
  unfold cmpSdkTracker at h
  rw [insertData, hcommand]
  generalize parseBody sdkTrackerRequest pData = q at h ⊢
  obtain ⟨nRet, rData⟩ := q
  dsimp only at h ⊢
  rw [if_pos rfl]
  split at h
  · next hbody =>
    rw [if_pos hbody]
    obtain ⟨nSend, tr₀, hstatuses, hstored, hrefused, h⟩ := sendCommand_exec h
    have hrok : statusRok ∈ statuses nSocket tr := by
      rw [hstatuses]
      exact List.mem_cons_self
    -- the answer is sent: it is right when the document is stored behind it
    have hanswered (hdone : Stored m (rData.get "data") tr ↔ Insertable m (rData.get "data") tr) :
        (statusRok ∈ statuses nSocket tr → ∃ strData, some (rData.get "data") = some strData ∧
          Stored m strData tr) ↔
        ∀ strData, some (rData.get "data") = some strData → Insertable m strData tr := by
      constructor
      · intro hright strData heq
        obtain ⟨strData', heq', hstored'⟩ := hright hrok
        obtain rfl := Option.some.inj heq
        obtain rfl := Option.some.inj heq'
        exact hdone.mp hstored'
      · intro hins _
        exact ⟨_, rfl, hdone.mpr (hins _ rfl)⟩
    rcases Prog.exec_interp_bind.mp h with ⟨tr₁, strOID, tr₂, rfl, hlog, hrest⟩ | ⟨e, rfl, hlog⟩
    · have hins : InsertResult m (rData.get "data") tr₁ (.ok strOID) := insertLog_exec hlog
      -- behind the insertion there is a line in the log
      obtain ⟨hstored₂, hrefused₂, hok⟩ : stored tr₂ = [] ∧ refused tr₂ = [] ∧ res = .ok nRet := by
        split at hrest
        · obtain ⟨u, tr', rfl, rfl, rfl⟩ := hrest
          exact ⟨rfl, rfl, rfl⟩
        · obtain ⟨u, tr', rfl, rfl, rfl⟩ := hrest
          exact ⟨rfl, rfl, rfl⟩
      rw [stored_append, hstored₂, List.append_nil] at hstored
      rw [refused_append, hrefused₂, List.append_nil] at hrefused
      constructor
      · rw [hok]
        exact hins.throws_iff (iff_of_false nofun nofun)
      · apply hanswered
        rw [Stored, Insertable, hstored, hrefused]
        exact hins.stored_iff
    · have hins : InsertResult m (rData.get "data") tr₀ (.error e) := insertLog_exec hlog
      refine ⟨hins.throws_iff (iff_of_true ⟨e, rfl⟩ ⟨e, rfl⟩), ?_⟩
      apply hanswered
      rw [Stored, Insertable, hstored, hrefused]
      exact hins.stored_iff
  · next hbody =>
    rw [if_neg hbody]
    obtain ⟨⟨nRet, rfl⟩, hrok⟩ := refuse_exec h
    exact ⟨iff_of_false nofun fun ⟨_, hnone, _⟩ => (nomatch hnone),
      iff_of_true (fun hmem => absurd hmem hrok) nofun⟩

/-- A request is in the log first, and then with its handler. -/
theorem handlePacket_exec {res : Except MongoException Unit}
    (hack : isAckPacket (getCommand pData) = false) (hentry : ¬ 0xFF < (getCommand pData).toInt)
    (h : (handlePacket m nSocket pData).Exec tr res) :
    ∃ tr' res', statuses nSocket tr = statuses nSocket tr' ∧
      answers nSocket tr = answers nSocket tr' ∧ stored tr = stored tr' ∧ refused tr = refused tr' ∧
      ((∃ e, res = .error e) ↔ ∃ e, res' = .error e) ∧
      ((cmpRequest nSocket (getCommand pData) (getSequence pData) pData).interp
        (carryOut m)).Exec tr' res' := by
  rw [handlePacket, onCMP_request hack hentry] at h
  obtain ⟨u, tr', rfl, h⟩ := h
  replace h : ((do
      let _ ← cmpRequest nSocket (getCommand pData) (getSequence pData) pData).interp
        (carryOut m)).Exec tr' res := h
  rcases Prog.exec_interp_bind.mp h with ⟨tr₁, a, tr₂, rfl, hrun, rfl, rfl⟩ | ⟨e, rfl, hrun⟩
  · refine ⟨tr₁, .ok a, ?_⟩
    rw [List.append_nil]
    exact ⟨rfl, rfl, rfl, rfl, iff_of_false nofun nofun, hrun⟩
  · exact ⟨tr', .error e, rfl, rfl, rfl, rfl, iff_of_true ⟨e, rfl⟩ ⟨e, rfl⟩, hrun⟩

/-- What is sent while a packet is handled without an exception is what the handler sends. -/
theorem answers_of_interp {α : Type} {p : CenterProg α} {a : α}
    (h : (p.interp (carryOut m)).Exec tr (.ok a)) :
    ∃ tr', p.Exec tr' a ∧ answers nSocket tr = responses nSocket tr' := by
  refine Prog.Exec.of_interp (fun c tr r hc => ?_) h
  cases c with
  | mongoInsert strDB strCollection strData =>
    -- an insertion sends nothing
    exact (insert_exec hc).answers_eq nSocket
  | _ =>
    obtain ⟨r', tr', rfl, rfl, heq⟩ := hc
    cases heq
    rfl

end Handlers

/-! ### The two requests -/

/-- A packet with an access log or an SDK tracker request is handled
without an exception, and is answered once, if and only if it is not an accepted request whose
data is malformed while the connection is up. -/
theorem handlePacket_ok_iff {m : MongoClient Bson} {nClientFD : ℤ} {pData : Bytes}
    {tr : List (MongoEvent Bson)} {res : Except MongoException Unit}
    (hcommand : getCommand pData = accessLogRequest ∨ getCommand pData = sdkTrackerRequest)
    (h : (handlePacket m nClientFD pData).Exec tr res) :
    (res = .ok () ∧
      answers nClientFD tr = [(genericNack ||| getCommand pData, getSequence pData)]) ↔
    ¬ ∃ strData, insertData pData = some strData ∧ m.isFailed = false ∧
      m.fromjson strData = none := by
  obtain ⟨tr', res', -, hanswers, -, -, herror, hrun⟩ := handlePacket_exec
    (by rcases hcommand with heq | heq <;> rw [heq] <;> rfl)
    (by rcases hcommand with heq | heq <;> rw [heq] <;> decide) h
  -- the handler throws when the data is malformed, and answers when it does not throw
  obtain ⟨hthrows, hanswered⟩ : ((∃ e, res' = .error e) ↔ ∃ strData,
      insertData pData = some strData ∧ Malformed m strData) ∧
      Answers nClientFD (genericNack ||| getCommand pData) (getSequence pData)
        (cmpRequest nClientFD (getCommand pData) (getSequence pData) pData) := by
    rcases hcommand with hcommand | hcommand
    · rw [hcommand] at hrun ⊢
      exact ⟨(cmpAccessLog_exec hcommand hrun).1, cmpAccessLog_answers pData⟩
    · rw [hcommand] at hrun ⊢
      exact ⟨(cmpSdkTracker_exec hcommand hrun).1, cmpSdkTracker_answers pData⟩
  have hescapes : (∃ e, res = .error e) ↔ ∃ strData, insertData pData = some strData ∧
      m.isFailed = false ∧ m.fromjson strData = none := herror.trans hthrows
  rw [← hescapes]
  constructor
  · rintro ⟨rfl, -⟩ ⟨e, heq⟩
    cases heq
  · intro hok
    cases res' with
    | ok a =>
      obtain ⟨tr'', hexec, heq⟩ := answers_of_interp hrun
      refine ⟨?_, by rw [hanswers, heq]; exact hanswered tr'' a hexec⟩
      cases res with
      | ok u => rfl
      | error e => exact absurd ⟨e, rfl⟩ hok
    | error e => exact absurd (herror.mpr ⟨e, rfl⟩) hok

/-- **Acknowledged and stored.** Whatever the state of the connection and the outcome of the
insertion, an access log is answered `STATUS_ROK` only if the record has been stored; for an SDK
tracker request this is so if and only if, where it has a body, the connection is up, the data is
well formed and the driver does not refuse the document. -/
theorem handlePacket_rok_stored_iff (m : MongoClient Bson) (nClientFD : ℤ) (pData : Bytes)
    (tr : List (MongoEvent Bson)) (res : Except MongoException Unit)
    (hcommand : getCommand pData = accessLogRequest ∨ getCommand pData = sdkTrackerRequest)
    (h : (handlePacket m nClientFD pData).Exec tr res) :
    (statusRok ∈ statuses nClientFD tr →
      ∃ strData, insertData pData = some strData ∧ Stored m strData tr) ↔
    (getCommand pData = sdkTrackerRequest → ∀ strData, insertData pData = some strData →
      m.isFailed = false ∧ (m.fromjson strData).isSome ∧ refused tr = []) := by
  rcases hcommand with hcommand | hcommand
  · have hsdk : getCommand pData ≠ sdkTrackerRequest := by rw [hcommand]; decide
    obtain ⟨tr', res', hstatuses, -, hstored, -, -, hrun⟩ :=
      handlePacket_exec (by rw [hcommand]; rfl) (by rw [hcommand]; decide) h
    rw [hcommand] at hrun
    refine iff_of_true (fun hmem => ?_) fun heq => absurd heq hsdk
    rw [hstatuses] at hmem
    obtain ⟨strData, hdata, hdone⟩ := (cmpAccessLog_exec hcommand hrun).2 hmem
    exact ⟨strData, hdata, hdone.mono (by rw [hstored]; exact fun _ hx => hx)⟩
  · obtain ⟨tr', res', hstatuses, -, hstored, hrefused, -, hrun⟩ :=
      handlePacket_exec (by rw [hcommand]; rfl) (by rw [hcommand]; decide) h
    rw [hcommand] at hrun
    have hdone := (cmpSdkTracker_exec hcommand hrun).2
    simp only [Stored, Insertable] at hdone
    simp only [hstatuses, hrefused, Stored, hstored, hdone, hcommand, true_implies]

/-- An SDK tracker request with the data `x`. -/
def sdkTrackerPacket : Bytes :=
  CmpHeader.bytes ⟨18#32, sdkTrackerRequest, statusRok, 7#32⟩ ++ ascii "x\x00"

/-- What is done with it up to the insertion. -/
def acknowledgedTrace : List (MongoEvent Unit) :=
  [⟨.center (.printPacket sdkTrackerRequest statusRok 7#32 18 "[Center Recv]" 5), ()⟩,
    ⟨.center (.socketSend 5
      (formatHeader (genericNack ||| sdkTrackerRequest) statusRok 7#32).bytes), (16 : ℤ)⟩,
    ⟨.center (.printPacket (genericNack ||| sdkTrackerRequest) statusRok 7#32 16
      "[Center Send]" 5), ()⟩]

/-- The end of the trace when nothing has been stored. -/
def unstoredTrace : List (MongoEvent Unit) :=
  [⟨.center (.printLog (ascii "Insert SDK Tracker Log Fail: x") "[Center]"), ()⟩]

theorem handlePacket_rok_stored_iff_refused :
    (statusRok ∈ statuses 5 (acknowledgedTrace ++ ⟨.insert (ascii "access.sdk") (), none⟩ ::
        unstoredTrace) →
      ∃ strData, insertData sdkTrackerPacket = some strData ∧
        Stored ⟨false, fun _ => some ()⟩ strData (acknowledgedTrace ++
          ⟨.insert (ascii "access.sdk") (), none⟩ :: unstoredTrace)) ↔
    (getCommand sdkTrackerPacket = sdkTrackerRequest → ∀ strData,
      insertData sdkTrackerPacket = some strData → false = false ∧ (some ()).isSome ∧
        refused (acknowledgedTrace ++ ⟨.insert (ascii "access.sdk") (), none⟩ ::
          unstoredTrace) = []) :=
  handlePacket_rok_stored_iff ⟨false, fun _ => some ()⟩ 5 sdkTrackerPacket _ (.ok ())
    (.inr (by decide))
    ⟨(), _, rfl, 16, _, rfl, (), _, rfl, none, _, rfl, (), _, rfl, rfl, rfl⟩

/-- The connection has failed: the requester is told `STATUS_ROK`, and nothing is stored. -/
theorem handlePacket_acknowledges_unstored :
    (handlePacket ⟨true, fun _ => some ()⟩ 5 sdkTrackerPacket).Exec
      (acknowledgedTrace ++ unstoredTrace) (.ok ()) ∧
    statusRok ∈ statuses 5 (acknowledgedTrace ++ unstoredTrace) ∧
    stored (acknowledgedTrace ++ unstoredTrace) = [] :=
  ⟨⟨(), _, rfl, 16, _, rfl, (), _, rfl, (), _, rfl, rfl, rfl⟩, by decide, rfl⟩

/-- An access log of a known type with the data `x`. -/
def accessLogPacket : Bytes :=
  CmpHeader.bytes ⟨22#32, accessLogRequest, statusRok, 7#32⟩ ++ ascii "\x00\x00\x00\x01x\x00"

end ControllerSystem.ControlCenter
