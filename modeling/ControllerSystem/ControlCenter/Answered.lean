import ControllerSystem.ControlCenter.LogLengths

/-!
# Requests that are answered

A program that writes behind the end of an array is followed no further, so a request is answered
only if it is answered before the first call that does so: `printPacket` and `printLog` make their
lines in arrays (`InBounds`), and `cmpResponse` copies its data into one.

`AnswersIff x p P` says that `p` sends the response `x`, and no other one, before it leaves an
array, if and only if `P` holds. There is one lemma for each kind of call, and along the handlers
they collect what has to fit.

* `handlePacket_one_response_iff` — exactly when a request gets its one response.
* `handlePacket_returns_iff` — exactly when an access log or an SDK tracker request is handled
  without an exception, with an answer, and with all lines of the log in their arrays.
-/

open Words Calls

namespace ControllerSystem.ControlCenter

variable {Bson : Type}

/-! ### The arrays -/

/-- The call stays within the arrays it writes to. The numbers in a line are `int`s. -/
def InBounds (t : Tm) : MongoCall Bson → Prop
  | .center (.printPacket nCommand nStatus nSequence nLength strDesc nClientFD) =>
    PacketLogFits t nCommand nStatus nSequence (BitVec.ofInt 32 nLength).toInt strDesc
      (BitVec.ofInt 32 nClientFD).toInt
  | .center (.printLog strMsg strDesc) => (logLine t strMsg strDesc).length + 1 ≤ maxDataLen
  | .center .overrun => False
  | _ => True

instance (t : Tm) : DecidablePred (InBounds t : MongoCall Bson → Prop)
  | .center c => by cases c <;> unfold InBounds <;> infer_instance
  | .insert .. => .isTrue trivial

/-! ### What is known of the environment -/

structure CenterEnv (Bson : Type) extends MongoClient Bson where
  /-- What an insertion gives, if it throws no exception. -/
  inserted : Bson → Option Inserted
  cJSON_Parse : Bytes → Option JsonStrings
  mdmQuery : Bytes → List Bytes
  ideasQuery : Bytes → List Bytes

/-- The result is one the environment gives. The numbers of the controller database are `int`s. -/
def CenterEnv.Gives (env : CenterEnv Bson) : MongoEvent Bson → Prop
  | ⟨.insert _ bson, r⟩ => r = env.inserted bson
  | ⟨.center (.jsonParse strJSON), r⟩ => r = env.cJSON_Parse strJSON
  | ⟨.center (.mdmQuery szSql), r⟩ => r = env.mdmQuery szSql
  | ⟨.center (.ideasQuery szSql), r⟩ => r = env.ideasQuery szSql
  | ⟨.center (.controllerQuery _), r⟩ => ∀ n ∈ r, ∃ w : Word, n = w.toInt
  | _ => True

/-! ### Answers -/

/-- In every execution without an exception, the response `x` and no other one is sent before the
first call that is not in bounds, if and only if `P` holds. -/
def AnswersIff {α : Type} (env : CenterEnv Bson) (t : Tm) (nSocket : ℤ) (x : Word × Word)
    (p : CenterProg α) (P : Prop) : Prop :=
  (p.interp (carryOut env.toMongoClient)).EmitsUpTo env.Gives (InBounds t) (answerOf nSocket)
    (fun res => ∃ a, res = .ok a) fun l => l = [x] ↔ P

section AnswersIff

variable {env : CenterEnv Bson} {t : Tm} {nSocket : ℤ} {x : Word × Word} {α β : Type}
  {P Q : Prop}

theorem AnswersIff.congr {p : CenterProg α} (hp : AnswersIff env t nSocket x p P) (h : P ↔ Q) :
    AnswersIff env t nSocket x p Q := by
  intro tr a hexec hgives hfin
  rw [← h]
  exact hp tr a hexec hgives hfin

/-- Behind the response there is no other one. -/
theorem emitsUpTo_silent {p : CenterProg α} (hp : Silent nSocket p) {S : List (Word × Word) → Prop}
    (h : S []) : (p.interp (carryOut env.toMongoClient)).EmitsUpTo env.Gives (InBounds t)
      (answerOf nSocket) (fun res => ∃ a, res = .ok a) S := by
  rintro tr res hexec - ⟨a, rfl⟩
  obtain ⟨tr', hexec', hanswers⟩ := answers_of_interp hexec
  have hnone : answers nSocket tr = [] := hanswers.trans (hp tr' a hexec')
  rw [Prog.filterMap_upTo_eq_nil hnone]
  exact h

/-- A call that is not answered by the driver. -/
theorem interp_call {c : CenterCall} (hc : carryOut env.toMongoClient c =
    .call (.center c) fun r => .ret (.ok r)) (k : c.Res → CenterProg α) :
    (Prog.call c k).interp (carryOut env.toMongoClient) =
      .call (.center c) fun r => (k r).interp (carryOut env.toMongoClient) := by
  rw [Prog.interp, hc]
  rfl

/-- A call that is in bounds and sends no response. -/
theorem AnswersIff.call {c : CenterCall} {k : c.Res → CenterProg α}
    (hcarry : carryOut env.toMongoClient c = .call (.center c) fun r => .ret (.ok r))
    (hc : InBounds t (.center c : MongoCall Bson)) (hnone : ∀ r, responseOf nSocket ⟨c, r⟩ = none)
    (hk : ∀ r, env.Gives ⟨.center c, r⟩ → AnswersIff env t nSocket x (k r) P) :
    AnswersIff env t nSocket x (.call c k) P := by
  rw [AnswersIff, interp_call hcarry]
  exact .call_none hc hnone hk

/-- The response itself. -/
theorem AnswersIff.send {pBuf : Bytes} {k : ℤ → CenterProg α}
    (hresp : isAckPacket (getCommand pBuf)) (hk : ∀ r, Silent nSocket (k r)) :
    AnswersIff env t nSocket x (.call (.socketSend nSocket pBuf) k)
      (x = (getCommand pBuf, getSequence pBuf)) := by
  have hsent : ∀ r, answerOf nSocket (⟨.center (.socketSend nSocket pBuf), r⟩ : MongoEvent Bson) =
      some (getCommand pBuf, getSequence pBuf) := fun _ => if_pos ⟨rfl, hresp⟩
  rw [AnswersIff, interp_call rfl]
  refine .call_some trivial hsent fun r => emitsUpTo_silent (hk r) ?_
  rw [List.cons_eq_cons, and_iff_left rfl, eq_comm]

/-- A call that sends no response, and has to be in bounds. -/
theorem AnswersIff.call_iff {c : CenterCall} {k : c.Res → CenterProg α}
    (hcarry : carryOut env.toMongoClient c = .call (.center c) fun r => .ret (.ok r))
    (hnone : ∀ r, responseOf nSocket ⟨c, r⟩ = none)
    (hk : ∀ r, env.Gives ⟨.center c, r⟩ → AnswersIff env t nSocket x (k r) P) :
    AnswersIff env t nSocket x (.call c k) (InBounds t (.center c : MongoCall Bson) ∧ P) := by
  by_cases hc : InBounds t (.center c : MongoCall Bson)
  · exact (AnswersIff.call hcarry hc hnone hk).congr (and_iff_right hc).symm
  · rw [AnswersIff, interp_call hcarry]
    exact .call_neg hc (iff_of_false (List.cons_ne_nil _ _).symm fun h => hc h.1)

/-- A line in the log. -/
theorem AnswersIff.printLog {strMsg : Bytes} {strDesc : String} {k : Unit → CenterProg α}
    (hk : AnswersIff env t nSocket x (k ()) P) :
    AnswersIff env t nSocket x (ControlCenter.printLog strMsg strDesc >>= k)
      ((logLine t strMsg strDesc).length + 1 ≤ maxDataLen ∧ P) :=
  .call_iff rfl (fun _ => rfl) fun _ _ => hk

/-- A line in the log that always fits. -/
theorem AnswersIff.printLog_pos {strMsg : Bytes} {strDesc : String} {k : Unit → CenterProg α}
    (hfits : (logLine t strMsg strDesc).length + 1 ≤ maxDataLen)
    (hk : AnswersIff env t nSocket x (k ()) P) :
    AnswersIff env t nSocket x (ControlCenter.printLog strMsg strDesc >>= k) P :=
  (AnswersIff.printLog hk).congr (and_iff_right hfits)

/-- A write behind the end of `cmpdata`. -/
theorem AnswersIff.overrun {k : Unit → CenterProg α} :
    AnswersIff env t nSocket x (ControlCenter.overrun >>= k) False :=
  .call_neg id (iff_of_false (List.cons_ne_nil _ _).symm id)

variable {nCommand nSequence : Word}

/-- Behind the response there is none. -/
theorem AnswersIff.bind_silent {p : CenterProg α} {f : α → CenterProg β}
    (hp : AnswersIff env t nSocket x p P) (hf : ∀ a, Silent nSocket (f a)) :
    AnswersIff env t nSocket x (p >>= f) P := by
  rintro tr res hexec hgives ⟨b, rfl⟩
  rcases Prog.exec_interp_bind.mp hexec with ⟨tr₁, a, tr₂, rfl, h₁, h₂⟩ | ⟨e, heq, -⟩
  · obtain ⟨tr', hexec', hanswers⟩ := answers_of_interp h₂
    have hnone : answers nSocket tr₂ = [] := hanswers.trans (hf a tr' b hexec')
    rw [Prog.filterMap_upTo_append hnone]
    exact hp tr₁ _ h₁ (fun e he => hgives e (List.mem_append_left tr₂ he)) ⟨a, rfl⟩
  · cases heq

/-- A response without a body. -/
theorem AnswersIff.sendCommand {nStatus : Word} :
    AnswersIff env t nSocket (genericNack ||| nCommand, nSequence)
      (ControlCenter.sendCommand nSocket nCommand nStatus nSequence true) True := by
  have hresp : isAckPacket (getCommand
      (formatHeader (genericNack ||| nCommand) nStatus nSequence).bytes) := by
    rw [getCommand_bytes]
    exact isAckPacket_or nCommand
  refine (AnswersIff.send hresp fun r => (printPacket_mute _ _ _ _ _ _).silent.bind fun _ =>
    .ret _).congr (iff_true_intro ?_)
  rw [getCommand_bytes, getSequence_bytes]
  rfl

/-- A handler that ends with a response without a body. -/
theorem AnswersIff.end {nStatus : Word} (f : ℤ → α) :
    AnswersIff env t nSocket (genericNack ||| nCommand, nSequence)
      (ControlCenter.sendCommand nSocket nCommand nStatus nSequence true >>= fun nRet =>
        pure (f nRet)) True :=
  AnswersIff.sendCommand.bind_silent fun nRet => Silent.ret (f nRet)

/-- A response with a body goes out under the command it is given, if the body fits. -/
theorem AnswersIff.cmpResponse {nCommandId : Word} {szData : Bytes}
    (hresp : isAckPacket nCommandId) :
    AnswersIff env t nSocket (nCommand, nSequence)
      (ControlCenter.cmpResponse nSocket nCommandId nSequence szData)
      (strlen szData < maxDataLen ∧ nCommand = nCommandId) := by
  unfold ControlCenter.cmpResponse
  split
  · exact AnswersIff.overrun.congr (iff_of_false id fun h => by omega)
  · refine (AnswersIff.send ?_ fun nRet => ?_).congr ?_
    · rw [getCommand_append]
      exact hresp
    · -- behind the response there are lines in the log
      refine (printPacket_mute _ _ _ _ _ _).silent.bind fun _ => ?_
      split <;> exact (printLog_mute _ _).silent.bind fun _ => .ret _
    · rw [getCommand_append, getSequence_append]
      simp only [Prod.mk.injEq, formatHeader, and_true]
      exact (and_iff_right (by omega)).symm

/-! ### Storing and signing up -/

/-- The text of a document that is stored fits the log. -/
def DocumentFits (env : CenterEnv Bson) (nType : ℤ) (strData : Bytes) : Prop :=
  nType ∈ [typeMobileTracker, typePowerStation, typeSdkTracker] → env.isFailed = false →
    ∀ bson, env.fromjson strData = some bson → ∀ inserted, env.inserted bson = some inserted →
      strlen inserted.strDocument ≤ 2008

/-- An insertion, and a response whatever its outcome. -/
theorem AnswersIff.insertLog {nType : ℤ} {strData : Bytes} {k : Bytes → CenterProg α}
    (hk : ∀ strOID, AnswersIff env t nSocket x (k strOID) True) :
    AnswersIff env t nSocket x (ControlCenter.insertLog nType strData >>= k)
      (DocumentFits env nType strData) := by
  refine insertLog_cases (P := fun p => AnswersIff env t nSocket x (p >>= k) _) ?_ ?_
  · intro htype strCollection
    show (ControlCenter.insert env.toMongoClient (ascii "access") strCollection strData >>=
      Prog.onOk fun strOID => (k strOID).interp (carryOut env.toMongoClient)).EmitsUpTo _ _ _ _ _
    rw [ControlCenter.insert]
    split
    · -- the connection has failed
      next hfailed =>
      exact (hk []).congr (iff_of_true trivial fun _ hup => absurd hfailed (by simp [hup]))
    · next hup =>
      cases hjson : env.fromjson strData with
      | none =>
        refine .ret fun hgives => ?_
        obtain ⟨_, heq⟩ := hgives
        cases heq
      | some bson =>
        refine .call_none trivial (fun _ => rfl) ?_
        rintro r (rfl : r = env.inserted bson)
        cases hins : env.inserted bson with
        | none =>
          refine (hk []).congr (iff_of_true trivial fun _ _ bson' heq inserted' hins' => ?_)
          obtain rfl := Option.some.inj (hjson.symm.trans heq)
          cases hins.symm.trans hins'
        | some inserted =>
          have hline : (logLine t inserted.strDocument "[Mongodb] insert").length + 1 ≤ maxDataLen ∧
              True ↔ DocumentFits env nType strData := by
            rw [and_true, logLine_fits_iff t _ (by decide)]
            constructor
            · intro hle _ _ bson' heq inserted' hins'
              obtain rfl := Option.some.inj (hjson.symm.trans heq)
              obtain rfl := Option.some.inj (hins.symm.trans hins')
              exact Nat.le_of_add_le_add_right hle
            · intro h
              exact Nat.add_le_add_right
                (h htype (Bool.eq_false_iff.mpr hup) bson hjson inserted hins) 16
          exact (AnswersIff.printLog (hk inserted.oid.toString)).congr hline
  · intro htype
    -- an unknown type is logged, and nothing is inserted
    refine AnswersIff.printLog_pos ((logLine_fits_iff t _ (by decide)).mpr (by decide)) ?_
    exact (hk []).congr (iff_of_true trivial fun h => absurd h htype)

/-- The text of a sign-up fits the log: one that cannot be used goes into it once more. -/
def SignupTextFits (env : CenterEnv Bson) (strData : Bytes) : Prop :=
  match env.cJSON_Parse strData with
  | none => strData.length ≤ 2004
  | some root =>
    (root (ascii "id") = none → strData.length ≤ 1991) ∧
      ∀ strId, root (ascii "id") = some strId →
        env.ideasQuery (CSignup.isExistSql strId) = [] → root (ascii "app_id") = none →
          strData.length ≤ 1987

/-- A line with the text of a sign-up, and then the response. -/
theorem AnswersIff.printText {strData : Bytes} (hdata : 0 ∉ strData) {szText : String} {n : ℕ}
    {k : Unit → CenterProg α} (htext : 0 ∉ ascii szText) (hn : szText.length + 20 + n = 2024)
    (hk : AnswersIff env t nSocket x (k ()) True) :
    AnswersIff env t nSocket x
      (ControlCenter.printLog (ascii szText ++ strData) "[Sign up Parse Fail]" >>= k)
      (strData.length ≤ n) := by
  refine (AnswersIff.printLog hk).congr ?_
  rw [and_true, dataLine_fits_iff hdata htext (by decide)]
  show szText.length + strData.length + 20 ≤ 2024 ↔ _
  omega

/-- A sign-up, and a response whatever its outcome. -/
theorem AnswersIff.signupInsert {strData : Bytes} (hdata : 0 ∉ strData) {k : ℤ → CenterProg α}
    (hk : ∀ nInsert, AnswersIff env t nSocket x (k nInsert) True) :
    AnswersIff env t nSocket x (ControlCenter.signupInsert strData >>= k)
      (SignupTextFits env strData) := by
  rw [ControlCenter.signupInsert]
  split
  · -- no text, no line
    next hnil =>
    subst hnil
    refine (hk insertFail).congr (iff_of_true trivial ?_)
    unfold SignupTextFits
    split
    · exact Nat.zero_le _
    · exact ⟨fun _ => Nat.zero_le _, fun _ _ _ _ => Nat.zero_le _⟩
  refine .call (c := .jsonParse strData) rfl trivial (fun _ => rfl) ?_
  rintro r (rfl : r = env.cJSON_Parse strData)
  unfold SignupTextFits
  cases env.cJSON_Parse strData with
  | none =>
    -- the text is no JSON
    refine (AnswersIff.printLog (hk insertFail)).congr ?_
    rw [and_true, logLine_fits_iff t _ (by decide), strlen_eq_length hdata]
    exact Nat.add_le_add_iff_right
  | some root =>
    simp only [Prog.bind_eq, Prog.ret_bind]
    cases hid : root (ascii "id") with
    | none =>
      simp only [true_implies, reduceCtorEq, false_implies, implies_true, and_true]
      refine AnswersIff.printText hdata ?_ rfl (hk insertFail)
      decide
    | some strId =>
      simp only [reduceCtorEq, false_implies, Option.some.injEq, forall_eq', true_and]
      refine .call (c := .ideasQuery (CSignup.isExistSql strId)) rfl trivial (fun _ => rfl) ?_
      rintro r (rfl : r = env.ideasQuery (CSignup.isExistSql strId))
      cases env.ideasQuery (CSignup.isExistSql strId) with
      | cons row rows => exact (hk recordExist).congr (iff_of_true trivial fun h => by cases h)
      | nil =>
        -- the id is a new one
        cases happ : root (ascii "app_id") with
        | none =>
          simp only [true_implies]
          refine AnswersIff.printText hdata ?_ rfl (hk insertFail)
          decide
        | some strAppId =>
          let szSql := CSignup.insertSql (signupUser root strId strAppId)
          refine AnswersIff.congr ?_ (iff_of_true trivial fun _ h => by cases h)
          exact .call (c := .ideasExec szSql) rfl trivial (fun _ => rfl) fun nRet _ => hk _

/-- A request that is handed on. -/
theorem AnswersIff.forwardRequest {nFD : ℤ} {nCommand : Word} {fields : List Bytes} {szMsg : String}
    {k : ℤ → CenterProg α} (hreq : isAckPacket nCommand = false) (hFD : ∃ w : Word, nFD = w.toInt)
    (hmsg : szMsg.length ≤ 2000) (hk : ∀ nRet, AnswersIff env t nSocket x (k nRet) P) :
    AnswersIff env t nSocket x
      (ControlCenter.forwardRequest nFD nCommand fields (ascii szMsg) >>= k) P := by
  obtain ⟨w, rfl⟩ := hFD
  refine .call (c := .loadSequence) rfl trivial (fun _ => rfl) fun n _ => ?_
  refine .call (c := .storeSequence (sequenceAfter n)) rfl trivial (fun _ => rfl) fun _ _ => ?_
  refine .call (c := .socketSend w.toInt _) rfl trivial (fun nRet => ?_) fun nRet _ => ?_
  · simp [responseOf, formatHeader, hreq]
  · refine AnswersIff.printLog_pos ?_ (hk nRet)
    have hstrlen := strlen_le_length (ascii szMsg ++ convertToString w.toInt)
    have hnumber := length_convertToString_le w
    rw [List.length_append, length_ascii] at hstrlen
    rw [logLine_fits_iff t _ (by decide)]
    show _ + 8 ≤ 2024
    omega

/-- A statement on the controller database. -/
theorem AnswersIff.controllerSqlExec {sql : ControllerSql} {k : ℤ → CenterProg α}
    (hk : ∀ nRet, AnswersIff env t nSocket x (k nRet) P) :
    AnswersIff env t nSocket x (ControlCenter.controllerSqlExec sql >>= k) P :=
  .call (c := .controllerExec sql) rfl trivial (fun _ => rfl) fun _ _ => hk _

/-- The look-up of a controller. -/
theorem AnswersIff.getControllerSocketFD {strControllerID : Bytes} {k : ℤ → CenterProg α}
    (hk : ∀ nFD, (0 < nFD → ∃ w : Word, nFD = w.toInt) → AnswersIff env t nSocket x (k nFD) P) :
    AnswersIff env t nSocket x (ControlCenter.getControllerSocketFD strControllerID >>= k) P := by
  refine .call (c := .controllerQuery (.selectSocketFDById strControllerID)) rfl trivial
    (fun _ => rfl) fun (listValue : List ℤ) hints => hk _ fun hpos => ?_
  cases listValue with
  | nil => exact absurd hpos (by decide)
  | cons n rest => exact hints n List.mem_cons_self

/-- A handler that answers a body it does not accept at once. -/
theorem AnswersIff.accepted {q : ℤ × CDataHandler} {names : List String} {c : Prop} [Decidable c]
    {p p' : CenterProg α} (hc : c ↔ Accepted names q) (hp : AnswersIff env t nSocket x p P)
    (hp' : AnswersIff env t nSocket x p' True) :
    AnswersIff env t nSocket x (if c then p else p') (Accepted names q → P) := by
  split
  · next haccept => exact hp.congr (imp_iff_right (hc.mp haccept)).symm
  · next hrefuse =>
    exact hp'.congr (iff_of_true trivial fun haccept => absurd (hc.mpr haccept) hrefuse)

/-- The line of a body. -/
theorem AnswersIff.printBody {strType strData : Bytes} {k : Unit → CenterProg α}
    (htype : 0 ∉ strType) (hdata : 0 ∉ strData) (hk : AnswersIff env t nSocket x (k ()) P) :
    AnswersIff env t nSocket x
      (ControlCenter.printLog (strType ++ ascii "," ++ strData) "[Center Recv Body]" >>= k)
      (strType.length + strData.length ≤ 2005 ∧ P) :=
  (AnswersIff.printLog hk).congr (and_congr_left fun _ => bodyLine_fits_iff htype hdata)

end AnswersIff

/-! ### The handlers -/

section Handlers

variable {env : CenterEnv Bson} {t : Tm} {nSocket : ℤ} {nCommand nSequence : Word} (pData : Bytes)

theorem cmpUnknow_answers_iff : AnswersIff env t nSocket (genericNack ||| nCommand, nSequence)
    (cmpUnknow nSocket nCommand nSequence) True := .end _

theorem cmpUnbind_answers_iff : AnswersIff env t nSocket (genericNack ||| nCommand, nSequence)
    (cmpUnbind nSocket nCommand nSequence) True := .end _

theorem cmpBind_answers_iff : AnswersIff env t nSocket (genericNack ||| nCommand, nSequence)
    (cmpBind nSocket nCommand nSequence pData) True := by
  -- every failure ends in the same answer
  have hfail : AnswersIff env t nSocket (genericNack ||| nCommand, nSequence) (do
      let _ ← sendCommand nSocket nCommand statusRinvctrlid nSequence true
      pure fail) True := .end _
  unfold cmpBind
  dsimp only
  split
  · refine .controllerSqlExec fun nRet => ?_
    split
    · refine .controllerSqlExec fun nRet => ?_
      split
      · exact .end _
      · exact hfail
    · exact hfail
  · exact hfail

theorem cmpPowerPort_answers_iff : AnswersIff env t nSocket (genericNack ||| nCommand, nSequence)
    (cmpPowerPort nSocket nCommand nSequence pData) True := by
  unfold cmpPowerPort
  dsimp only
  split
  · -- the answer comes first; what goes to the controller is a request
    refine AnswersIff.sendCommand.bind_silent fun _ => ?_
    refine (getControllerSocketFD_mute _).silent.bind fun nFD => ?_
    split
    · exact (forwardRequest_silent rfl).bind fun _ => .ret _
    · exact .ret _
  · exact .end _

theorem cmpPowerPortState_answers_iff :
    AnswersIff env t nSocket (genericNack ||| powerPortStateRequest, nSequence)
      (cmpPowerPortState nSocket powerPortStateRequest nSequence pData) True := by
  unfold cmpPowerPortState
  dsimp only
  split
  · -- the controller is asked first; the answer depends on whether that was sent
    refine .getControllerSocketFD fun nFD hFD => ?_
    split
    · next hpos =>
      refine .forwardRequest rfl (hFD hpos) (by decide) fun nSend => ?_
      split
      · refine ((AnswersIff.cmpResponse rfl).congr (iff_true_intro ⟨?_, rfl⟩)).bind_silent
          fun _ => .ret 0
        decide
      · exact .end _
    · exact .end _
  · exact .end _

/-- What an access log has to be. -/
def AccessLogFits (env : CenterEnv Bson) (strType strData : Bytes) : Prop :=
  strType.length + strData.length ≤ 2005 ∧
    DocumentFits env (convertFromString strType) strData

theorem cmpAccessLog_answers_iff :
    AnswersIff env t nSocket (genericNack ||| accessLogRequest, nSequence)
      (cmpAccessLog nSocket accessLogRequest nSequence pData)
      (Accepted ["type", "data"] (parseBody accessLogRequest pData) →
        AccessLogFits env ((parseBody accessLogRequest pData).2.get "type")
          ((parseBody accessLogRequest pData).2.get "data")) := by
  have hzero := parseBody_zeroFree (.inl (.inl rfl) : Logged accessLogRequest ∨ _) pData
  unfold cmpAccessLog
  generalize parseBody accessLogRequest pData = q at hzero ⊢
  obtain ⟨nRet, rData⟩ := q
  dsimp only at hzero ⊢
  refine .accepted (by simp [Accepted]) ?_ (.end _)
  refine .printBody (hzero.get "type") (hzero.get "data") (.insertLog fun strOID => ?_)
  split
  all_goals
    refine AnswersIff.sendCommand.bind_silent fun _ => ?_
    exact (printLog_mute _ _).silent.bind fun _ => .ret _

/-- The initial data fits a body. -/
theorem strlen_getInitData (nType : ℤ) : strlen (getInitData nType) + 1 ≤ maxDataLen := by
  unfold getInitData
  split <;> decide +kernel

theorem cmpInitial_answers_iff :
    AnswersIff env t nSocket (genericNack ||| initialRequest, nSequence)
      (cmpInitial nSocket initialRequest nSequence pData) True := by
  unfold cmpInitial
  have hline (haccept : Accepted ["type"] (parseBody initialRequest pData)) :
      (logLine t ((parseBody initialRequest pData).2.get "type") "[Center Recv Body]").length + 1 ≤
        maxDataLen := by
    have hdata : (parseBody initialRequest pData).2 =
        (BodyReader.takeInt ⟨[], pData.drop sizeofCmpHeader⟩ "type").rData := haccept.rData_eq
    have htype := length_convertToString_le (wordAt (pData.drop sizeofCmpHeader) 0)
    have hstrlen := strlen_le_length (convertToString (wordAt (pData.drop sizeofCmpHeader) 0).toInt)
    rw [hdata, CDataHandler.get, BodyReader.lookup_takeInt, if_pos rfl,
      logLine_fits_iff t _ (by decide)]
    show strlen (convertToString (wordAt (pData.drop sizeofCmpHeader) 0).toInt) + 18 ≤ 2024
    omega
  generalize parseBody initialRequest pData = q at hline ⊢
  obtain ⟨nRet, rData⟩ := q
  dsimp only at hline ⊢
  split
  · next haccept =>
    refine .printLog_pos (hline (by simpa [Accepted] using haccept)) ?_
    split
    · exact .end _
    · exact ((AnswersIff.cmpResponse rfl).congr
        (iff_true_intro ⟨strlen_getInitData _, rfl⟩)).bind_silent fun _ => .ret _
  · exact .end _

theorem cmpSdkTracker_answers_iff : AnswersIff env t nSocket (genericNack ||| nCommand, nSequence)
    (cmpSdkTracker nSocket nCommand nSequence pData) True := by
  unfold cmpSdkTracker
  dsimp only
  split
  · -- the answer comes first
    refine AnswersIff.sendCommand.bind_silent fun _ => ?_
    refine (insertLog_mute _ _).silent.bind fun strOID => ?_
    split <;> exact (printLog_mute _ _).silent.bind fun _ => .ret _
  · exact .end _

/-- What a sign-up has to be. -/
def SignupFits (env : CenterEnv Bson) (strType strData : Bytes) : Prop :=
  strType.length + strData.length ≤ 2005 ∧ SignupTextFits env strData

theorem cmpSignup_answers_iff : AnswersIff env t nSocket (genericNack ||| signUpRequest, nSequence)
    (cmpSignup nSocket signUpRequest nSequence pData)
    (Accepted ["type", "data"] (parseBody signUpRequest pData) →
      SignupFits env ((parseBody signUpRequest pData).2.get "type")
        ((parseBody signUpRequest pData).2.get "data")) := by
  have hzero := parseBody_zeroFree (.inl (.inr (.inr rfl)) : Logged signUpRequest ∨ _) pData
  unfold cmpSignup
  generalize parseBody signUpRequest pData = q at hzero ⊢
  obtain ⟨nRet, rData⟩ := q
  dsimp only at hzero ⊢
  refine .accepted (by simp [Accepted]) ?_ (.end _)
  exact .printBody (hzero.get "type") (hzero.get "data")
    (.signupInsert (hzero.get "data") fun nInsert => .end _)

/-- What a login has to be: the token the MDM database returns fits the body of a packet. -/
def LoginFits (env : CenterEnv Bson) (strAccount strPassword : Bytes) : Prop :=
  strAccount.length + strPassword.length ≤ 2005 ∧
    strlen (trim ((env.mdmQuery (CMdmHandler.loginSql strAccount strPassword)).headD [])) <
      maxDataLen

theorem cmpMdmLogin_answers_iff :
    AnswersIff env t nSocket (genericNack ||| mdmLoginRequest, nSequence)
      (cmpMdmLogin nSocket mdmLoginRequest nSequence pData)
      (Accepted ["account", "password"] (parseBody mdmLoginRequest pData) →
        LoginFits env ((parseBody mdmLoginRequest pData).2.get "account")
          ((parseBody mdmLoginRequest pData).2.get "password")) := by
  have hzero := parseBody_zeroFree (.inr rfl : Logged mdmLoginRequest ∨ _) pData
  unfold cmpMdmLogin
  generalize parseBody mdmLoginRequest pData = q at hzero ⊢
  obtain ⟨nRet, rData⟩ := q
  dsimp only at hzero ⊢
  refine .accepted (by simp [Accepted]) ?_ (.end _)
  refine .printBody (hzero.get "account") (hzero.get "password") ?_
  refine .call (c := .mdmQuery _) rfl trivial (fun _ => rfl) ?_
  rintro r (rfl : r = env.mdmQuery _)
  simp only [Prog.bind_eq, Prog.ret_bind, Prog.pure_eq_ret]
  split
  · -- no token: the failure fits any packet
    next hempty =>
    rw [hempty]
    refine (AnswersIff.end _).congr (iff_of_true trivial ?_)
    decide
  · refine (AnswersIff.cmpResponse rfl).congr ?_
    exact and_iff_left rfl

/-- An accepted operate request is answered under another command. -/
theorem cmpMdmOperate_answers_iff :
    AnswersIff env t nSocket (genericNack ||| mdmOperateRequest, nSequence)
      (cmpMdmOperate nSocket mdmOperateRequest nSequence pData)
      (¬ Accepted ["token"] (parseBody mdmOperateRequest pData)) := by
  unfold cmpMdmOperate
  generalize parseBody mdmOperateRequest pData = q
  obtain ⟨nRet, rData⟩ := q
  dsimp only
  refine .accepted (by simp [Accepted]) ?_ (.end _)
  have hne : genericNack ||| mdmOperateRequest ≠ mdmLoginResponse := by decide
  exact (AnswersIff.printLog (.cmpResponse rfl)).congr (iff_of_false (fun h => hne h.2.2) id)

/-- What has to fit before a request is answered. -/
structure RequestFits (env : CenterEnv Bson) (nCommand : Word) (q : ℤ × CDataHandler) : Prop where
  accessLog : nCommand = accessLogRequest → Accepted ["type", "data"] q →
    AccessLogFits env (q.2.get "type") (q.2.get "data")
  signUp : nCommand = signUpRequest → Accepted ["type", "data"] q →
    SignupFits env (q.2.get "type") (q.2.get "data")
  mdmLogin : nCommand = mdmLoginRequest → Accepted ["account", "password"] q →
    LoginFits env (q.2.get "account") (q.2.get "password")
  /-- The answer to an accepted operate request is never the right one. -/
  mdmOperate : nCommand = mdmOperateRequest → ¬ Accepted ["token"] q

/-- **The table.** -/
theorem cmpRequest_answers_iff : AnswersIff env t nSocket (genericNack ||| nCommand, nSequence)
    (cmpRequest nSocket nCommand nSequence pData)
    (RequestFits env nCommand (parseBody nCommand pData)) := by
  by_cases haccess : nCommand = accessLogRequest
  · subst haccess
    exact (cmpAccessLog_answers_iff pData).congr
      ⟨fun h => ⟨fun _ => h, nofun, nofun, nofun⟩, fun h => h.accessLog rfl⟩
  by_cases hsignup : nCommand = signUpRequest
  · subst hsignup
    exact (cmpSignup_answers_iff pData).congr
      ⟨fun h => ⟨nofun, fun _ => h, nofun, nofun⟩, fun h => h.signUp rfl⟩
  by_cases hlogin : nCommand = mdmLoginRequest
  · subst hlogin
    exact (cmpMdmLogin_answers_iff pData).congr
      ⟨fun h => ⟨nofun, nofun, fun _ => h, nofun⟩, fun h => h.mdmLogin rfl⟩
  by_cases hoperate : nCommand = mdmOperateRequest
  · subst hoperate
    exact (cmpMdmOperate_answers_iff pData).congr
      ⟨fun h => ⟨nofun, nofun, nofun, fun _ => h⟩, fun h => h.mdmOperate rfl⟩
  -- nothing has to fit for any other request
  have hfits : RequestFits env nCommand (parseBody nCommand pData) :=
    ⟨fun h => absurd h haccess, fun h => absurd h hsignup, fun h => absurd h hlogin,
      fun h => absurd h hoperate⟩
  refine AnswersIff.congr ?_ (iff_of_true trivial hfits)
  apply cmpRequest_cases
    (P := fun p => AnswersIff env t nSocket (genericNack ||| nCommand, nSequence) p True)
  case bind => exact fun _ => cmpBind_answers_iff pData
  case unbind => exact fun _ => cmpUnbind_answers_iff
  case powerPortSet => exact fun _ => cmpPowerPort_answers_iff pData
  case powerPortState =>
    rintro rfl
    exact cmpPowerPortState_answers_iff pData
  case accessLog => exact fun h => absurd h haccess
  case initial =>
    rintro rfl
    exact cmpInitial_answers_iff pData
  case signUp => exact fun h => absurd h hsignup
  case mdmLogin => exact fun h => absurd h hlogin
  case mdmOperate => exact fun h => absurd h hoperate
  case sdkTracker => exact fun _ => cmpSdkTracker_answers_iff pData
  case unknow => exact cmpUnknow_answers_iff

end Handlers

/-! ### One response to each request -/

/-- What a request has to be to be answered: the texts `printPacket` puts into the log fit, and what
the handler puts into arrays before it answers. -/
structure Answerable (env : CenterEnv Bson) (pData : Bytes) : Prop where
  status : getStatus pData ≠ statusRinvbndsts
  request : RequestFits env (getCommand pData) (parseBody (getCommand pData) pData)

/-- A request is in the log first. -/
theorem onCMP_answers_iff {env : CenterEnv Bson} {t : Tm} {nClientFD : ℤ} {pData : Bytes}
    (hreq : isAckPacket (getCommand pData) = false) :
    AnswersIff env t nClientFD (genericNack ||| getCommand pData, getSequence pData)
      (onCMP nClientFD pData) (Answerable env pData) := by
  have hline : InBounds t (.center (.printPacket (getCommand pData) (getStatus pData)
      (getSequence pData) (getLength pData).toInt "[Center Recv]" nClientFD) : MongoCall Bson) ↔
      getStatus pData ≠ statusRinvbndsts := packetLogFits_iff t _ _ _ _ _ (by decide)
  have hboth : Answerable env pData ↔ getStatus pData ≠ statusRinvbndsts ∧
      RequestFits env (getCommand pData) (parseBody (getCommand pData) pData) :=
    ⟨fun h => ⟨h.1, h.2⟩, fun h => ⟨h.1, h.2⟩⟩
  rw [hboth, ← hline]
  refine .call_iff rfl (fun _ => rfl) fun _ _ => ?_
  simp only [Prog.bind_eq, Prog.ret_bind, hreq, Bool.false_eq_true, if_false]
  split
  · -- the table has no entry for so large a command
    next hlarge =>
    have hne {nCommand : Word} (hsmall : nCommand.toInt ≤ 0xFF) : getCommand pData ≠ nCommand :=
      fun heq => absurd hlarge (by rw [heq]; omega)
    have hfits : RequestFits env (getCommand pData) (parseBody (getCommand pData) pData) :=
      ⟨fun h => absurd h (hne (by decide)), fun h => absurd h (hne (by decide)),
        fun h => absurd h (hne (by decide)), fun h => absurd h (hne (by decide))⟩
    exact (AnswersIff.end _).congr (iff_of_true trivial hfits)
  · exact (cmpRequest_answers_iff pData).bind_silent fun _ => .ret _

/-- **One response to each request.** In every execution of `onCMP` on a request in which no
exception is thrown, exactly one response goes out on its socket before an array is overrun, under
its command and sequence number, if and only if the request is answerable. -/
theorem handlePacket_one_response_iff (env : CenterEnv Bson) (t : Tm) (nClientFD : ℤ)
    (pData : Bytes) (tr : List (MongoEvent Bson)) (hreq : isAckPacket (getCommand pData) = false)
    (h : (handlePacket env.toMongoClient nClientFD pData).Exec tr (.ok ()))
    (hgives : ∀ e ∈ tr, env.Gives e) :
    answers nClientFD (Prog.upTo (InBounds t) tr) =
        [(genericNack ||| getCommand pData, getSequence pData)] ↔ Answerable env pData := by
  exact onCMP_answers_iff hreq tr (.ok ()) h hgives ⟨(), rfl⟩

/-- A login of an account that has a token, from socket 5. -/
def loginPacket : Bytes :=
  CmpHeader.bytes ⟨20#32, mdmLoginRequest, statusRok, 7#32⟩ ++ ascii "a\x00b\x00"

/-- The connection has failed, and there is one account. -/
def accountEnv : CenterEnv Unit where
  isFailed := true
  fromjson _ := none
  inserted _ := none
  cJSON_Parse _ := none
  mdmQuery _ := [ascii "t0ken"]
  ideasQuery _ := []

/-- What is done with it. -/
def loginTrace : List (MongoEvent Unit) :=
  [⟨.center (.printPacket mdmLoginRequest statusRok 7#32 20 "[Center Recv]" 5), ()⟩,
    ⟨.center (.printLog (ascii "a,b") "[Center Recv Body]"), ()⟩,
    ⟨.center (.mdmQuery (CMdmHandler.loginSql (ascii "a") (ascii "b"))), [ascii "t0ken"]⟩,
    ⟨.center (.socketSend 5 (CmpHeader.bytes ⟨22#32, mdmLoginResponse, statusRok, 7#32⟩ ++
      ascii "t0ken\x00")), (22 : ℤ)⟩,
    ⟨.center (.printPacket mdmLoginResponse statusRok 7#32 22 "[Center]" 5), ()⟩,
    ⟨.center (.printLog (ascii "CMP Response success, data:t0ken") "[Center]"), ()⟩]

theorem handlePacket_one_response_iff_login :
    answers 5 (Prog.upTo (InBounds someTm) loginTrace) =
      [(genericNack ||| getCommand loginPacket, getSequence loginPacket)] ↔
    Answerable accountEnv loginPacket :=
  handlePacket_one_response_iff accountEnv someTm 5 loginPacket loginTrace (by decide)
    ⟨(), _, rfl, (), _, rfl, [ascii "t0ken"], _, rfl, 22, _, rfl, (), _, rfl, (), _, rfl, rfl, rfl⟩
    (by
      intro e he
      simp only [loginTrace, List.mem_cons, List.not_mem_nil, or_false] at he
      rcases he with rfl | rfl | rfl | rfl | rfl | rfl <;> trivial)

/-- An operate request with the token `t`. -/
def operatePacket : Bytes :=
  CmpHeader.bytes ⟨18#32, mdmOperateRequest, statusRok, 7#32⟩ ++ ascii "t\x00"

/-- What is done with it. -/
def operateTrace : List (MongoEvent Unit) :=
  [⟨.center (.printPacket mdmOperateRequest statusRok 7#32 18 "[Center Recv]" 5), ()⟩,
    ⟨.center (.printLog (ascii "t") "[Center Recv Body]"), ()⟩,
    ⟨.center (.socketSend 5 (CmpHeader.bytes ⟨29#32, mdmLoginResponse, statusRok, 7#32⟩ ++
      ascii "opreate_json\x00")), (29 : ℤ)⟩,
    ⟨.center (.printPacket mdmLoginResponse statusRok 7#32 29 "[Center]" 5), ()⟩,
    ⟨.center (.printLog (ascii "CMP Response success, data:opreate_json") "[Center]"), ()⟩]

/-- An operate request with a token is answered with an `mdm_login_response`. -/
theorem handlePacket_operate_answers_login :
    (handlePacket accountEnv.toMongoClient 5 operatePacket).Exec operateTrace (.ok ()) ∧
    (∀ e ∈ operateTrace, InBounds someTm e.1) ∧
    answers 5 operateTrace ≠
      [(genericNack ||| getCommand operatePacket, getSequence operatePacket)] := by
  refine ⟨⟨(), _, rfl, (), _, rfl, 29, _, rfl, (), _, rfl, (), _, rfl, rfl, rfl⟩, ?_, ?_⟩
  · decide +kernel
  · decide

/-! ### Requests that are stored -/

/-- What `printPacket` makes fits, and `cmpdata` is not overrun. -/
def PacketFits (t : Tm) : MongoCall Bson → Prop
  | .center (.printPacket nCommand nStatus nSequence nLength strDesc nClientFD) =>
    PacketLogFits t nCommand nStatus nSequence (BitVec.ofInt 32 nLength).toInt strDesc
      (BitVec.ofInt 32 nClientFD).toInt
  | .center .overrun => False
  | _ => True

/-- The rest of what is in bounds are the lines of `printLog`. -/
theorem inBounds_of_fits {t : Tm} {c : MongoCall Bson} (hpacket : PacketFits t c)
    (hline : LineFits t c) : InBounds t c := by
  cases c with
  | center c => cases c <;> first | exact hpacket | exact hline
  | insert => trivial

theorem LineFits.of_inBounds {t : Tm} {c : MongoCall Bson} (hc : InBounds t c) : LineFits t c := by
  cases c with
  | center c => cases c <;> first | exact hc | trivial
  | insert => trivial

section Stored

variable {m : MongoClient Bson} {t : Tm} {nSocket : ℤ} {nCommand nSequence : Word} {pData : Bytes}
  {α : Type}

variable (Bson) in
/-- All that the program makes with `printPacket` fits. -/
abbrev PacketsFit (t : Tm) (p : CenterProg α) : Prop :=
  p.Forall fun c => PacketFits t (.center c : MongoCall Bson)

theorem sendCommand_packetsFit {nStatus : Word} (hne : nStatus ≠ statusRinvbndsts) :
    PacketsFit Bson t (sendCommand nSocket nCommand nStatus nSequence true) :=
  ⟨trivial, fun _ => ⟨(packetLogFits_iff t _ _ _ _ _ (by decide)).mpr hne, fun _ => trivial⟩⟩

theorem printLog_packetsFit (strMsg : Bytes) (strDesc : String) :
    PacketsFit Bson t (printLog strMsg strDesc) := ⟨trivial, fun _ => trivial⟩

theorem insertLog_packetsFit (nType : ℤ) (strData : Bytes) :
    PacketsFit Bson t (insertLog nType strData) := by
  refine insertLog_cases (P := PacketsFit Bson t) (fun _ _ => ?_) fun _ => ?_
  · exact ⟨trivial, fun _ => trivial⟩
  · exact ⟨trivial, fun _ => trivial⟩

theorem cmpAccessLog_packetsFit :
    PacketsFit Bson t (cmpAccessLog nSocket nCommand nSequence pData) := by
  unfold cmpAccessLog
  dsimp only
  split
  · refine (printLog_packetsFit _ _).bind fun _ => (insertLog_packetsFit _ _).bind fun strOID => ?_
    split
    all_goals
      refine (sendCommand_packetsFit (by decide)).bind fun _ => ?_
      exact (printLog_packetsFit _ _).bind fun _ => trivial
  · exact (sendCommand_packetsFit (by decide)).bind fun _ => trivial

theorem cmpSdkTracker_packetsFit :
    PacketsFit Bson t (cmpSdkTracker nSocket nCommand nSequence pData) := by
  unfold cmpSdkTracker
  dsimp only
  split
  · refine (sendCommand_packetsFit (by decide)).bind fun _ =>
      (insertLog_packetsFit _ _).bind fun strOID => ?_
    split <;> exact (printLog_packetsFit _ _).bind fun _ => trivial
  · exact (sendCommand_packetsFit (by decide)).bind fun _ => trivial

/-- The driver makes no packet's line. -/
theorem carryOut_packetsFit {c : CenterCall} (hc : PacketFits t (.center c : MongoCall Bson)) :
    (carryOut m c).Forall (PacketFits t) := by
  cases c with
  | mongoInsert strDB strCollection strData =>
    show (insert m strDB strCollection strData).Forall (PacketFits t)
    unfold insert
    split
    · trivial
    split
    · trivial
    · refine ⟨trivial, fun r => ?_⟩
      cases r with
      | none => trivial
      | some inserted => exact ⟨trivial, fun _ => trivial⟩
  | _ => exact ⟨hc, fun _ => trivial⟩

/-- A request to store something. -/
theorem handlePacket_packetsFit
    (hcommand : getCommand pData = accessLogRequest ∨ getCommand pData = sdkTrackerRequest)
    (hstatus : getStatus pData ≠ statusRinvbndsts) :
    (handlePacket m nSocket pData).Forall (PacketFits t) := by
  refine Prog.Forall.interp (fun c => carryOut_packetsFit) ?_
  rw [onCMP_request (by rcases hcommand with heq | heq <;> rw [heq] <;> rfl)
    (by rcases hcommand with heq | heq <;> rw [heq] <;> decide)]
  refine ⟨(packetLogFits_iff t _ _ _ _ _ (by decide)).mpr hstatus, fun _ => ?_⟩
  have hhandler : PacketsFit Bson t
      (cmpRequest nSocket (getCommand pData) (getSequence pData) pData) := by
    rcases hcommand with heq | heq
    · rw [heq]
      exact cmpAccessLog_packetsFit
    · rw [heq]
      exact cmpSdkTracker_packetsFit
  exact hhandler.bind fun _ => trivial

end Stored

/-- **Nothing goes wrong.** In every environment, an access log or an SDK tracker request is handled
in all runs without an exception, with one response and with all lines of the log in their arrays,
if and only if its status is not `STATUS_RINVBNDSTS`, its strings are short enough for the log, and
it is not an accepted request whose data is malformed while the connection is up. -/
theorem handlePacket_returns_iff (env : LogEnv Bson) (t : Tm) (nClientFD : ℤ) (pData : Bytes)
    (hcommand : getCommand pData = accessLogRequest ∨ getCommand pData = sdkTrackerRequest) :
    (∀ tr res, (handlePacket env.toMongoClient nClientFD pData).Exec tr res →
      (∀ e ∈ tr, env.Gives e) →
        res = .ok () ∧
        answers nClientFD tr = [(genericNack ||| getCommand pData, getSequence pData)] ∧
        ∀ e ∈ tr, InBounds t e.1) ↔
    getStatus pData ≠ statusRinvbndsts ∧ DataShort env pData ∧
      ¬ ∃ strData, insertData pData = some strData ∧ env.isFailed = false ∧
        env.fromjson strData = none := by
  have hlogged : Logged (getCommand pData) := hcommand.elim .inl fun h => .inr (.inl h)
  have hlines := handlePacket_linesFit_iff env t nClientFD pData hlogged
  constructor
  · intro h
    obtain ⟨tr, res, hexec, hgives⟩ :=
      Prog.exists_exec env.exists_gives (handlePacket env.toMongoClient nClientFD pData)
    obtain ⟨hok, hanswers, hbounds⟩ := h tr res hexec hgives
    refine ⟨?_, hlines.mp fun tr res hexec hgives e he => ?_,
      (handlePacket_ok_iff hcommand hexec).mp ⟨hok, hanswers⟩⟩
    · -- the first line is that of the packet
      obtain ⟨u, tr', rfl, -⟩ := hexec
      exact (packetLogFits_iff t _ _ _ _ _ (by decide)).mp (hbounds _ List.mem_cons_self)
    · exact .of_inBounds ((h tr res hexec hgives).2.2 e he)
  · rintro ⟨hstatus, hshort, hformed⟩ tr res hexec hgives
    obtain ⟨hok, hanswers⟩ := (handlePacket_ok_iff hcommand hexec).mpr hformed
    have hfits := hlines.mpr hshort tr res hexec hgives
    refine ⟨hok, hanswers, fun e he => inBounds_of_fits ?_ (hfits e he)⟩
    exact (handlePacket_packetsFit hcommand hstatus).of_mem hexec e he

theorem handlePacket_returns_iff_unstored :
    (∀ tr res, (handlePacket failedEnv.toMongoClient 5 sdkTrackerPacket).Exec tr res →
      (∀ e ∈ tr, failedEnv.Gives e) →
        res = .ok () ∧
        answers 5 tr =
          [(genericNack ||| getCommand sdkTrackerPacket, getSequence sdkTrackerPacket)] ∧
        ∀ e ∈ tr, InBounds someTm e.1) ↔
    getStatus sdkTrackerPacket ≠ statusRinvbndsts ∧ DataShort failedEnv sdkTrackerPacket ∧
      ¬ ∃ strData, insertData sdkTrackerPacket = some strData ∧ failedEnv.isFailed = false ∧
        failedEnv.fromjson strData = none :=
  handlePacket_returns_iff failedEnv someTm 5 sdkTrackerPacket (.inr (by decide))

/-- The parser throws on `x`: the exception leaves `onCMP`, and nothing is answered. -/
theorem handlePacket_throws :
    (handlePacket (⟨false, fun _ => none⟩ : MongoClient Unit) 5 accessLogPacket).Exec
      [⟨.center (.printPacket accessLogRequest statusRok 7#32 22 "[Center Recv]" 5), ()⟩,
        ⟨.center (.printLog (ascii "1,x") "[Center Recv Body]"), ()⟩]
      (.error .msgAssertion) ∧
    (.error .msgAssertion : Except MongoException Unit) ≠ .ok () :=
  ⟨⟨(), _, rfl, (), _, rfl, rfl, rfl⟩, nofun⟩

end ControllerSystem.ControlCenter
