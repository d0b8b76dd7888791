import ControllerSystem.ControlCenter.Bodies
import ControllerSystem.ControlCenter.LogLine
import ControllerSystem.ControlCenter.MongoDB

/-!
# How long the lines of the log are

The lines `printLog` is asked for while an `access_log_request`, an `sdk_tracker_request` or a
`sign_up_request` is handled. They have a string of the packet in them, which may be as long as
the packet; the array for the line is no longer than the body of a packet.

How long the lines may become depends on what the driver and the parser make of the data. `LogEnv`
is what is known of them: whether a text is a document, how long the text of the stored document
is, and what `cJSON_Parse` makes of a text.

* `handlePacket_linesFit_iff` — the lengths for which all lines fit.
-/

open Words DecimalText Calls

namespace ControllerSystem.ControlCenter

/-! ### What is known of the environment -/

structure LogEnv (Bson : Type) extends MongoClient Bson where
  /-- The length of the text of a document that has been stored. -/
  documentLen : Bson → ℕ
  cJSON_Parse : Bytes → Option JsonStrings

variable {Bson : Type}

/-- The result is one the environment gives. -/
def LogEnv.Gives (env : LogEnv Bson) : MongoEvent Bson → Prop
  | ⟨.center (.jsonParse strJSON), r⟩ => r = env.cJSON_Parse strJSON
  | ⟨.insert _ bson, r⟩ => ∀ inserted ∈ r, strlen inserted.strDocument = env.documentLen bson
  | _ => True

/-- The line of a call fits `szLog`, which has `MAX_DATA_LEN` bytes. -/
def LineFits (t : Tm) : MongoCall Bson → Prop
  | .center (.printLog strMsg strDesc) => (logLine t strMsg strDesc).length + 1 ≤ maxDataLen
  | _ => True

/-- Every line a program logs in the environment fits. -/
abbrev LinesFit {α : Type} (env : LogEnv Bson) (t : Tm) (p : MongoProg Bson α) : Prop :=
  p.ForallOn env.Gives (LineFits t)

/-- There is a result the environment gives. -/
theorem LogEnv.exists_gives (env : LogEnv Bson) (c : MongoCall Bson) : ∃ r, env.Gives ⟨c, r⟩ := by
  cases c with
  | center c =>
    cases c with
    | jsonParse strJSON => exact ⟨_, rfl⟩
    | _ => exact ⟨default, trivial⟩
  | insert strCon bson => exact ⟨none, fun _ h => nomatch h⟩

/-! ### Texts without a zero byte -/

theorem zero_notMem_convertToString (n : ℤ) : 0 ∉ convertToString n := by
  have hdigits : ∀ m, (0 : UInt8) ∉ natText m := by
    intro m hm
    exact absurd (natText_digits m 0 hm) (by decide)
  rw [convertToString, ascii_toString]
  split
  · exact hdigits _
  · exact List.mem_cons.not.mpr (not_or.mpr ⟨by decide, hdigits _⟩)

/-- No stored string has a zero byte. -/
def ZeroFree (m : CDataHandler) : Prop := ∀ n v, m.lookup n = some v → 0 ∉ v

section ZeroFree

variable {r : BodyReader} {n : String}

theorem ZeroFree.takeInt (h : ZeroFree r.rData) : ZeroFree (r.takeInt n).rData := by
  intro k v hv
  rw [BodyReader.lookup_takeInt] at hv
  split at hv
  · obtain rfl := Option.some.inj hv
    exact zero_notMem_convertToString _
  · exact h k v hv

theorem ZeroFree.takeStr (h : ZeroFree r.rData) : ZeroFree (r.takeStr n).rData := by
  intro k v hv
  rw [BodyReader.lookup_takeStr] at hv
  split at hv
  · obtain rfl := Option.some.inj hv
    exact zero_notMem_cstr _
  · exact h k v hv

end ZeroFree

/-- A string that is missing is empty. -/
theorem ZeroFree.get {m : CDataHandler} (h : ZeroFree m) (n : String) : 0 ∉ m.get n := by
  rw [CDataHandler.get]
  cases hv : m.lookup n with
  | none => exact List.not_mem_nil
  | some v => exact h n v hv

/-- The requests that put a string of the packet into the log. -/
def Logged (nCommand : Word) : Prop :=
  nCommand = accessLogRequest ∨ nCommand = sdkTrackerRequest ∨ nCommand = signUpRequest

theorem parseBody_zeroFree {nCommand : Word}
    (hcommand : Logged nCommand ∨ nCommand = mdmLoginRequest) (pData : Bytes) :
    ZeroFree (parseBody nCommand pData).2 := by
  have hnil : ZeroFree [] := fun _ _ h => nomatch h
  unfold parseBody parseBodyWith
  split
  · rcases hcommand with (rfl | rfl | rfl) | rfl
    · exact ZeroFree.takeStr (ZeroFree.takeInt hnil)
    · exact ZeroFree.takeStr hnil
    · exact ZeroFree.takeStr (ZeroFree.takeInt hnil)
    · exact ZeroFree.takeStr (ZeroFree.takeStr hnil)
  · exact hnil

theorem strlen_eq_length {s : Bytes} (hzero : 0 ∉ s) : strlen s = s.length := by
  rw [strlen, cstr_eq_self hzero]

/-! ### Programs -/

section Programs

variable {env : LogEnv Bson} {t : Tm} {nSocket : ℤ} {nCommand nStatus nSequence : Word}
  {pData : Bytes} {α β : Type}

theorem printLog_linesFit {strMsg : Bytes} {strDesc : String} {k : Unit → CenterProg α} :
    LinesFit env t ((printLog strMsg strDesc >>= k).interp (carryOut env.toMongoClient)) ↔
      (logLine t strMsg strDesc).length + 1 ≤ maxDataLen ∧
        LinesFit env t ((k ()).interp (carryOut env.toMongoClient)) := by
  constructor
  · rintro ⟨hline, hrest⟩
    exact ⟨hline, hrest () trivial⟩
  · rintro ⟨hline, hrest⟩
    exact ⟨hline, fun _ _ => hrest⟩

/-- Behind a program that is followed by no line, its own lines are all. -/
theorem linesFit_bind {p : CenterProg α} {k : α → CenterProg β}
    (hk : ∀ a, LinesFit env t ((k a).interp (carryOut env.toMongoClient))) :
    LinesFit env t ((p >>= k).interp (carryOut env.toMongoClient)) ↔
      LinesFit env t (p.interp (carryOut env.toMongoClient)) := by
  rw [Prog.interp_bind]
  refine Prog.forallOn_bind_ret fun a => ?_
  cases a with
  | ok a => exact hk a
  | error e => trivial

/-- A response is no line of `printLog`. -/
theorem sendCommand_linesFit {p : CenterProg α} :
    LinesFit env t ((sendCommand nSocket nCommand nStatus nSequence true >>= fun _ => p).interp
      (carryOut env.toMongoClient)) ↔
      LinesFit env t (p.interp (carryOut env.toMongoClient)) := by
  constructor
  · rintro ⟨-, hrest⟩
    exact (hrest (0 : ℤ) trivial).2 () trivial
  · intro h
    exact ⟨trivial, fun _ _ => ⟨trivial, fun _ _ => h⟩⟩

/-- The data is short enough to be inserted: `failMax` characters if it cannot be, and `okMax` if
it can. -/
def InsertFits (env : LogEnv Bson) (strData : Bytes) (failMax okMax : ℕ) : Prop :=
  if env.isFailed then strData.length ≤ failMax
  else ∀ bson, env.fromjson strData = some bson →
    strData.length ≤ okMax ∧ env.documentLen bson ≤ 2008

/-- Some document of a given length. -/
theorem exists_inserted (n : ℕ) : ∃ inserted : Inserted, strlen inserted.strDocument = n := by
  refine ⟨⟨⟨List.replicate 12 0, rfl⟩, List.replicate n 32⟩, ?_⟩
  have hzero : (0 : UInt8) ∉ List.replicate n 32 := by
    intro hmem
    exact absurd (List.eq_of_mem_replicate hmem) (by decide)
  rw [strlen_eq_length hzero, List.length_replicate]

theorem insert_linesFit {strDB strCollection strData : Bytes}
    {k : Bytes → MongoProg Bson (Except MongoException α)} {failMax okMax : ℕ}
    (hle : okMax ≤ failMax) (hfail : LinesFit env t (k []) ↔ strData.length ≤ failMax)
    (hok : ∀ oid : OID, LinesFit env t (k oid.toString) ↔ strData.length ≤ okMax) :
    LinesFit env t (insert env.toMongoClient strDB strCollection strData >>= Prog.onOk k) ↔
      InsertFits env strData failMax okMax := by
  rw [insert, InsertFits]
  split
  · -- the connection has failed
    exact hfail
  · cases hjson : env.fromjson strData with
    | none => exact iff_of_true trivial nofun
    | some bson =>
      constructor
      · rintro ⟨-, hrest⟩ bson' heq
        obtain rfl := Option.some.inj heq
        obtain ⟨inserted, hlen⟩ := exists_inserted (env.documentLen bson)
        obtain ⟨hline, hend⟩ := hrest (some inserted) fun i hi => by
          obtain rfl := Option.some.inj hi
          exact hlen
        have hdocument := (logLine_fits_iff t inserted.strDocument (by decide)).mp hline
        rw [hlen] at hdocument
        exact ⟨(hok _).mp (hend () trivial), Nat.le_of_add_le_add_right hdocument⟩
      · intro h
        obtain ⟨hdata, hlen⟩ := h bson rfl
        refine ⟨trivial, fun r hr => ?_⟩
        cases r with
        | none => exact hfail.mpr (Nat.le_trans hdata hle)
        | some inserted =>
          refine ⟨(logLine_fits_iff t _ (by decide)).mpr ?_, fun _ _ => (hok _).mpr hdata⟩
          rw [hr inserted rfl]
          exact Nat.add_le_add_right hlen 16

theorem insertLog_linesFit {nType : ℤ} {strData : Bytes} {k : Bytes → CenterProg α}
    {failMax okMax : ℕ} (hle : okMax ≤ failMax)
    (hfail : LinesFit env t ((k []).interp (carryOut env.toMongoClient)) ↔
      strData.length ≤ failMax)
    (hok : ∀ oid : OID, LinesFit env t ((k oid.toString).interp (carryOut env.toMongoClient)) ↔
      strData.length ≤ okMax) :
    LinesFit env t ((insertLog nType strData >>= k).interp (carryOut env.toMongoClient)) ↔
      if nType ∈ [typeMobileTracker, typePowerStation, typeSdkTracker] then
        InsertFits env strData failMax okMax
      else strData.length ≤ failMax := by
  refine insertLog_cases
    (P := fun p => LinesFit env t ((p >>= k).interp (carryOut env.toMongoClient)) ↔ _) ?_ ?_
  · intro htype strCollection
    rw [if_pos htype]
    exact insert_linesFit hle hfail hok
  · -- an unknown type is logged, and nothing is inserted
    intro htype
    rw [if_neg htype]
    have hline : (logLine t (ascii "Insert Access log fail, unknow service type")
        "[AccessLog]").length + 1 ≤ maxDataLen :=
      (logLine_fits_iff t _ (by decide)).mpr (by decide)
    constructor
    · rintro ⟨-, hrest⟩
      exact hfail.mp (hrest () trivial)
    · intro h
      exact ⟨hline, fun _ _ => hfail.mpr h⟩

/-! ### The handlers -/

/-- The line of a body fits. -/
theorem bodyLine_fits_iff {strType strData : Bytes} (htype : 0 ∉ strType) (hdata : 0 ∉ strData) :
    (logLine t (strType ++ ascii "," ++ strData) "[Center Recv Body]").length + 1 ≤ maxDataLen ↔
      strType.length + strData.length ≤ 2005 := by
  have hzero : 0 ∉ strType ++ ascii "," ++ strData := by
    simp only [List.mem_append, not_or]
    exact ⟨⟨htype, by decide⟩, hdata⟩
  rw [logLine_fits_iff t _ (by decide), strlen_eq_length hzero]
  simp only [List.length_append, length_ascii]
  show _ + 1 + _ + 18 ≤ 2024 ↔ _
  omega

/-- A line with the data behind a text. -/
theorem dataLine_fits_iff {strData : Bytes} (hdata : 0 ∉ strData) {szText szDesc : String}
    (htext : 0 ∉ ascii szText) (hdesc : szDesc.length ≤ 20) :
    (logLine t (ascii szText ++ strData) szDesc).length + 1 ≤ maxDataLen ↔
      szText.length + strData.length + szDesc.length ≤ 2024 := by
  have hzero : 0 ∉ ascii szText ++ strData := by
    simp only [List.mem_append, not_or]
    exact ⟨htext, hdata⟩
  rw [logLine_fits_iff t _ hdesc, strlen_eq_length hzero, List.length_append, length_ascii]

theorem length_toString (oid : OID) : oid.toString.length = 24 := by
  obtain ⟨bytes, hlen⟩ := oid
  rw [OID.toString, List.length_flatMap]
  simp [hlen]

theorem zero_notMem_toString (oid : OID) : 0 ∉ oid.toString := by
  have hdigit : ∀ n < 16, hexDigit n ≠ 0 := by decide
  intro hmem
  obtain ⟨b, -, hb⟩ := List.mem_flatMap.mp hmem
  have hlt := b.toNat_lt
  rcases List.mem_cons.mp hb with heq | hb
  · exact hdigit _ (by omega) heq.symm
  · exact hdigit _ (Nat.mod_lt _ (by decide)) (List.mem_singleton.mp hb).symm

/-- A line with the data and the object id. -/
theorem oidLine_fits_iff {strData : Bytes} (hdata : 0 ∉ strData) {szText : String}
    (htext : 0 ∉ ascii szText) (oid : OID) :
    (logLine t (ascii szText ++ strData ++ ascii " OID:" ++ oid.toString)
      "[Center]").length + 1 ≤ maxDataLen ↔ szText.length + strData.length ≤ 1987 := by
  have hzero : 0 ∉ ascii szText ++ strData ++ ascii " OID:" ++ oid.toString := by
    simp only [List.mem_append, not_or]
    exact ⟨⟨⟨htext, hdata⟩, by decide⟩, zero_notMem_toString oid⟩
  rw [logLine_fits_iff t _ (by decide), strlen_eq_length hzero]
  simp only [List.length_append, length_ascii, length_toString]
  show _ + _ + 5 + 24 + 8 ≤ 2024 ↔ _
  omega

/-- A program that logs the data and ends. -/
theorem printData_linesFit {strData : Bytes} (hdata : 0 ∉ strData) {szText szDesc : String} {n : ℕ}
    (htext : 0 ∉ ascii szText) (hdesc : szDesc.length ≤ 20)
    (hn : szText.length + szDesc.length + n = 2024) {a : α} :
    LinesFit env t ((do
      printLog (ascii szText ++ strData) szDesc
      pure a : CenterProg α).interp (carryOut env.toMongoClient)) ↔ strData.length ≤ n := by
  rw [printLog_linesFit, dataLine_fits_iff hdata htext hdesc]
  refine (and_iff_left trivial).trans ?_
  omega

/-- A program that logs the data with the object id and ends. -/
theorem printOid_linesFit {strData : Bytes} (hdata : 0 ∉ strData) {szText : String} {n : ℕ}
    (htext : 0 ∉ ascii szText) (hn : szText.length + n = 1987) (oid : OID) {a : α} :
    LinesFit env t ((do
      printLog (ascii szText ++ strData ++ ascii " OID:" ++ oid.toString) "[Center]"
      pure a : CenterProg α).interp (carryOut env.toMongoClient)) ↔ strData.length ≤ n := by
  rw [printLog_linesFit, oidLine_fits_iff hdata htext]
  refine (and_iff_left trivial).trans ?_
  omega

/-- A handler that logs nothing when it does not accept the body. -/
theorem accepted_linesFit {q : ℤ × CDataHandler} {names : List String} {c P : Prop} [Decidable c]
    {p p' : CenterProg α} (hc : c ↔ Accepted names q)
    (hp : LinesFit env t (p.interp (carryOut env.toMongoClient)) ↔ P)
    (hp' : LinesFit env t (p'.interp (carryOut env.toMongoClient))) :
    LinesFit env t ((if c then p else p').interp (carryOut env.toMongoClient)) ↔
      (Accepted names q → P) := by
  split
  · next haccept => rw [imp_iff_right (hc.mp haccept), hp]
  · next hrefuse => exact iff_of_true hp' fun haccept => absurd (hc.mpr haccept) hrefuse

/-- The lengths an access log may have. -/
def AccessLogShort (env : LogEnv Bson) (strType strData : Bytes) : Prop :=
  strType.length + strData.length ≤ 2005 ∧
    if convertFromString strType ∈ [typeMobileTracker, typePowerStation, typeSdkTracker] then
      InsertFits env strData 1992 1960
    else strData.length ≤ 1992

theorem cmpAccessLog_linesFit :
    LinesFit env t ((cmpAccessLog nSocket accessLogRequest nSequence pData).interp
      (carryOut env.toMongoClient)) ↔
    (Accepted ["type", "data"] (parseBody accessLogRequest pData) →
      AccessLogShort env ((parseBody accessLogRequest pData).2.get "type")
        ((parseBody accessLogRequest pData).2.get "data")) := by
  have hzero := parseBody_zeroFree (.inl (.inl rfl) : Logged accessLogRequest ∨ _) pData
  unfold cmpAccessLog
  generalize parseBody accessLogRequest pData = q at hzero ⊢
  obtain ⟨nRet, rData⟩ := q
  have htype := hzero.get "type"
  have hdata := hzero.get "data"
  dsimp only at htype hdata ⊢
  refine accepted_linesFit (by simp [Accepted]) ?_ (sendCommand_linesFit.mpr trivial)
  rw [printLog_linesFit, bodyLine_fits_iff htype hdata, AccessLogShort]
  refine and_congr_right fun _ => insertLog_linesFit (by decide) ?_ fun oid => ?_
  · rw [if_pos rfl, sendCommand_linesFit]
    exact printData_linesFit hdata (by decide) (by decide) rfl
  · rw [if_neg oid.toString_ne_nil, sendCommand_linesFit]
    exact printOid_linesFit hdata (by decide) rfl oid

/-- The lengths the data of an SDK tracker may have. -/
def SdkTrackerShort (env : LogEnv Bson) (strData : Bytes) : Prop :=
  InsertFits env strData 1987 1959

theorem cmpSdkTracker_linesFit :
    LinesFit env t ((cmpSdkTracker nSocket sdkTrackerRequest nSequence pData).interp
      (carryOut env.toMongoClient)) ↔
    (Accepted ["data"] (parseBody sdkTrackerRequest pData) →
      SdkTrackerShort env ((parseBody sdkTrackerRequest pData).2.get "data")) := by
  have hzero := parseBody_zeroFree (.inl (.inr (.inl rfl)) : Logged sdkTrackerRequest ∨ _) pData
  unfold cmpSdkTracker
  generalize parseBody sdkTrackerRequest pData = q at hzero ⊢
  obtain ⟨nRet, rData⟩ := q
  have hdata := hzero.get "data"
  dsimp only at hdata ⊢
  refine accepted_linesFit (by simp [Accepted]) ?_ (sendCommand_linesFit.mpr trivial)
  rw [sendCommand_linesFit]
  -- the type is a known one
  refine insertLog_linesFit (by decide) ?_ fun oid => ?_
  · rw [if_pos rfl]
    exact printData_linesFit hdata (by decide) (by decide) rfl
  · rw [if_neg oid.toString_ne_nil]
    exact printOid_linesFit hdata (by decide) rfl oid

/-- The lengths the text of a sign-up may have: one that cannot be used goes into the log once
more. -/
def SignupTextShort (root : Option JsonStrings) (strData : Bytes) : Prop :=
  match root with
  | none => strData.length ≤ 2004
  | some root =>
    (root (ascii "id") = none → strData.length ≤ 1991) ∧
      (root (ascii "id") ≠ none → root (ascii "app_id") = none → strData.length ≤ 1987)

/-- The lengths a sign-up may have. -/
def SignupShort (env : LogEnv Bson) (strType strData : Bytes) : Prop :=
  strType.length + strData.length ≤ 2005 ∧ SignupTextShort (env.cJSON_Parse strData) strData

theorem signupInsert_linesFit {strData : Bytes} (hdata : 0 ∉ strData) :
    LinesFit env t ((signupInsert strData).interp (carryOut env.toMongoClient)) ↔
      SignupTextShort (env.cJSON_Parse strData) strData := by
  have hparse : ∀ k : Option JsonStrings → CenterProg ℤ,
      LinesFit env t ((jsonParse strData >>= k).interp (carryOut env.toMongoClient)) ↔
        LinesFit env t ((k (env.cJSON_Parse strData)).interp (carryOut env.toMongoClient)) := by
    intro k
    constructor
    · rintro ⟨-, hrest⟩
      exact hrest _ rfl
    · rintro h
      refine ⟨trivial, ?_⟩
      rintro r rfl
      exact h
  rw [signupInsert]
  split
  · -- no text, no line
    next hnil =>
    subst hnil
    refine iff_of_true trivial ?_
    unfold SignupTextShort
    split
    · exact Nat.zero_le _
    · exact ⟨fun _ => Nat.zero_le _, fun _ _ => Nat.zero_le _⟩
  rw [hparse]
  cases env.cJSON_Parse strData with
  | none =>
    -- the text is no JSON
    refine printLog_linesFit.trans ((and_iff_left trivial).trans ?_)
    rw [logLine_fits_iff t _ (by decide), strlen_eq_length hdata]
    exact Nat.add_le_add_iff_right
  | some root =>
    cases hid : root (ascii "id") with
    | none =>
      simp only [SignupTextShort, hid, ne_eq, not_true_eq_false, false_implies, and_true,
        true_implies]
      exact printData_linesFit hdata (by decide) (by decide) rfl
    | some strId =>
      simp only [SignupTextShort, hid, reduceCtorEq, false_implies, true_and, ne_eq,
        not_false_eq_true, true_implies]
      cases happ : root (ascii "app_id") with
      | none =>
        rw [imp_iff_right rfl]
        have hline : LinesFit env t ((do
            printLog (ascii "Invalid app_id , " ++ strData) "[Sign up Parse Fail]"
            pure insertFail : CenterProg ℤ).interp (carryOut env.toMongoClient)) ↔
            strData.length ≤ 1987 := printData_linesFit hdata (by decide) (by decide) rfl
        rw [← hline]
        constructor
        · -- the id may be one that does not exist yet
          rintro ⟨-, hrest⟩
          exact hrest ([] : List Bytes) trivial
        · intro h
          refine ⟨trivial, fun r _ => ?_⟩
          cases r with
          | nil => exact h
          | cons row rows => trivial
      | some strAppId =>
        refine iff_of_true ⟨trivial, fun r _ => ?_⟩ nofun
        cases r with
        | nil => exact ⟨trivial, fun _ _ => trivial⟩
        | cons row rows => trivial

theorem cmpSignup_linesFit :
    LinesFit env t ((cmpSignup nSocket signUpRequest nSequence pData).interp
      (carryOut env.toMongoClient)) ↔
    (Accepted ["type", "data"] (parseBody signUpRequest pData) →
      SignupShort env ((parseBody signUpRequest pData).2.get "type")
        ((parseBody signUpRequest pData).2.get "data")) := by
  have hzero := parseBody_zeroFree (.inl (.inr (.inr rfl)) : Logged signUpRequest ∨ _) pData
  unfold cmpSignup
  generalize parseBody signUpRequest pData = q at hzero ⊢
  obtain ⟨nRet, rData⟩ := q
  have htype := hzero.get "type"
  have hdata := hzero.get "data"
  dsimp only at htype hdata ⊢
  have hend : ∀ nInsert, LinesFit env t ((do
      let _ ← sendCommand nSocket signUpRequest
        (if nInsert ≠ insertFail then statusRok else statusRsyserr) nSequence true
      pure nRet).interp (carryOut env.toMongoClient)) :=
    fun _ => sendCommand_linesFit.mpr trivial
  refine accepted_linesFit (by simp [Accepted]) ?_ (sendCommand_linesFit.mpr trivial)
  rw [printLog_linesFit, bodyLine_fits_iff htype hdata, SignupShort, linesFit_bind hend,
    signupInsert_linesFit hdata]

end Programs

/-! ### The requests -/

/-- The strings of an accepted request are short enough for the log. -/
def DataShort (env : LogEnv Bson) (pData : Bytes) : Prop :=
  let rData := (parseBody (getCommand pData) pData).2
  if getCommand pData = accessLogRequest then
    Accepted ["type", "data"] (parseBody (getCommand pData) pData) →
      AccessLogShort env (rData.get "type") (rData.get "data")
  else if getCommand pData = sdkTrackerRequest then
    Accepted ["data"] (parseBody (getCommand pData) pData) →
      SdkTrackerShort env (rData.get "data")
  else
    Accepted ["type", "data"] (parseBody (getCommand pData) pData) →
      SignupShort env (rData.get "type") (rData.get "data")

theorem handlePacket_linesFit {env : LogEnv Bson} {t : Tm} {nClientFD : ℤ} {pData : Bytes}
    (hcommand : Logged (getCommand pData)) :
    LinesFit env t (handlePacket env.toMongoClient nClientFD pData) ↔ DataShort env pData := by
  have hack : isAckPacket (getCommand pData) = false := by
    rcases hcommand with heq | heq | heq <;> rw [heq] <;> rfl
  have hentry : ¬ 0xFF < (getCommand pData).toInt := by
    rcases hcommand with heq | heq | heq <;> rw [heq] <;> decide
  have hend : ∀ _ : ℤ, LinesFit env t ((pure () : CenterProg Unit).interp
      (carryOut env.toMongoClient)) := fun _ => trivial
  have hhandler : LinesFit env t (handlePacket env.toMongoClient nClientFD pData) ↔
      LinesFit env t ((cmpRequest nClientFD (getCommand pData) (getSequence pData) pData).interp
        (carryOut env.toMongoClient)) := by
    rw [handlePacket, onCMP_request hack hentry]
    constructor
    · rintro ⟨-, hrest⟩
      exact (linesFit_bind hend).mp (hrest () trivial)
    · intro h
      exact ⟨trivial, fun _ _ => (linesFit_bind hend).mpr h⟩
  rw [hhandler, DataShort]
  rcases hcommand with heq | heq | heq
  · rw [heq, if_pos rfl]
    exact cmpAccessLog_linesFit
  · rw [heq, if_neg (by decide), if_pos rfl]
    exact cmpSdkTracker_linesFit
  · rw [heq, if_neg (by decide), if_neg (by decide)]
    exact cmpSignup_linesFit

/-- **The lines of a request.** In every environment, all lines of all runs of the request fit, if
and only if its strings are short enough for what the environment makes of them. -/
theorem handlePacket_linesFit_iff (env : LogEnv Bson) (t : Tm) (nClientFD : ℤ) (pData : Bytes)
    (hcommand : Logged (getCommand pData)) :
    (∀ tr res, (handlePacket env.toMongoClient nClientFD pData).Exec tr res →
      (∀ e ∈ tr, env.Gives e) → ∀ e ∈ tr, LineFits t e.1) ↔ DataShort env pData := by
  exact (Prog.forallOn_iff env.exists_gives).symm.trans (handlePacket_linesFit hcommand)

/-- A connection that has failed, and a parser that accepts no text. -/
def failedEnv : LogEnv Unit where
  isFailed := true
  fromjson _ := none
  documentLen _ := 0
  cJSON_Parse _ := none

theorem handlePacket_linesFit_iff_sdkTracker :
    (∀ tr res, (handlePacket failedEnv.toMongoClient 5 sdkTrackerPacket).Exec tr res →
      (∀ e ∈ tr, failedEnv.Gives e) → ∀ e ∈ tr, LineFits someTm e.1) ↔
      DataShort failedEnv sdkTrackerPacket :=
  handlePacket_linesFit_iff failedEnv someTm 5 sdkTrackerPacket (.inr (.inl rfl))

/-- A sign-up of type 1 with some data, in a packet of the greatest length. -/
def signupOf (strData : Bytes) : Bytes :=
  CmpHeader.bytes ⟨2064#32, signUpRequest, statusRok, 1#32⟩ ++ (beBytes 1#32 ++ (strData ++ [0]))

theorem parseBody_signupOf {strData : Bytes} (hne : strData ≠ []) (hzero : 0 ∉ strData)
    (hlen : strData.length < maxSize) :
    parseBody signUpRequest (signupOf strData) = (2, [("data", strData), ("type", ascii "1")]) := by
  have hbody : (signupOf strData).drop sizeofCmpHeader = beBytes 1#32 ++ (strData ++ [0]) :=
    List.drop_left' rfl
  have hfields : bodyFields signUpRequest ⟨[], (signupOf strData).drop sizeofCmpHeader⟩ =
      ⟨[("data", strData), ("type", ascii "1")], []⟩ := by
    show ((BodyReader.mk [] _).takeInt "type").takeStr "data" = _
    rw [hbody, BodyReader.takeInt_append, BodyReader.takeStr_append hne hzero hlen]
    rfl
  rw [parseBody, parseBodyWith, hfields, signupOf, CmpHeader.ofBytes_bytes]
  rfl

/-- The line for its body is too long. -/
theorem handlePacket_overruns : ¬ ∀ (env : LogEnv Unit) (t : Tm) (nClientFD : ℤ) (pData : Bytes),
    Logged (getCommand pData) → Accepted ["type", "data"] (parseBody (getCommand pData) pData) →
    ∀ tr res, (handlePacket env.toMongoClient nClientFD pData).Exec tr res →
      (∀ e ∈ tr, env.Gives e) → ∀ e ∈ tr, LineFits t e.1 := by
  intro h
  -- the data fills the packet
  obtain ⟨strData, hlen, hzero⟩ : ∃ strData : Bytes, strData.length = 2043 ∧ 0 ∉ strData :=
    ⟨List.replicate 2043 120, List.length_replicate, fun hmem =>
      absurd (List.eq_of_mem_replicate hmem) (by decide)⟩
  have hparse : parseBody signUpRequest (signupOf strData) =
      (2, [("data", strData), ("type", ascii "1")]) :=
    parseBody_signupOf (List.ne_nil_of_length_pos (by omega)) hzero (by rw [hlen]; decide)
  have hcommand : getCommand (signupOf strData) = signUpRequest := getCommand_append _ _
  have haccept : Accepted ["type", "data"] (2, [("data", strData), ("type", ascii "1")]) := by
    simp [Accepted, CDataHandler.isValidKey]
  have hruns := h failedEnv someTm 5 (signupOf strData) (by rw [hcommand]; exact .inr (.inr rfl))
    (by rwa [hcommand, hparse])
  have hshort := (handlePacket_linesFit (.inr (.inr hcommand))).mp
    ((Prog.forallOn_iff failedEnv.exists_gives).mpr hruns)
  rw [DataShort, hcommand, if_neg (by decide), if_neg (by decide), hparse] at hshort
  have hle : (ascii "1").length + strData.length ≤ 2005 := (hshort haccept).1
  rw [hlen] at hle
  exact absurd hle (by decide)

end ControllerSystem.ControlCenter
