import ControllerSystem.CJson.OnHeapParse
import ControllerSystem.ControlCenter.LogLine
import ControllerSystem.ControlCenter.SignupJson

/-!
# The memory of sign-ups

`CSignup::insert` parses the text of a sign-up and deletes the item before it returns, but not where
it finds that the id is in the table: there it returns at once. A text it cannot use goes into the
log, if there is one, and `printLog` puts the line into an array that a text may be too long for.

* `insertAll_lost` — after any sign-ups with texts that the log has room for, the heap has beside
  its blocks one item, with all that hangs at it, for each sign-up that has got `RECORD_EXIST`, and
  nothing else. So the heap is as it was if and only if there has been none.
* `insert_agrees` — on the heap, `insert` returns what `signupInsert` returns.
-/

open Words TextPointer Allocation Calls

namespace ControllerSystem.ControlCenter.OnHeap

open CJson CJson.OnHeap

variable {D : Type} [CDouble D]

/-! ### `CSignup::insert` on the heap -/

/-- `if ( cJSON_GetObjectItem( root, "mac" ) && ... )`: the string at a name, or an empty one. -/
def getField (fuel root : ℕ) (string : Bytes) : HeapCode D Bytes := do
  let valuestring ← getString fuel root string
  pure (valuestring.getD [])

/-- The strings of a sign-up. -/
def readUser (fuel root : ℕ) (strId strAppId : Bytes) : HeapCode D CSignup.User := do
  let strMac ← getField fuel root (ascii "mac")
  let strOs ← getField fuel root (ascii "os")
  let strPhone ← getField fuel root (ascii "phone")
  let strFbId ← getField fuel root (ascii "fb_id")
  let strFbName ← getField fuel root (ascii "fb_name")
  let strFbEmail ← getField fuel root (ascii "fb_email")
  let strFbAccount ← getField fuel root (ascii "fb_account")
  let strGAccount ← getField fuel root (ascii "g_account")
  let strTAccount ← getField fuel root (ascii "t_account")
  pure {
    strId, strAppId, strMac, strOs, strPhone, strFbId, strFbName, strFbEmail, strFbAccount,
    strGAccount, strTAccount }

/-- `cJSON_Parse`, with `NULL` as a result. -/
def parseRoot (m : Allocator (Block D)) (value : Bytes) : HeapCode D (Option ℕ) :=
  Code.onEarly (do
    let (root, _) ← parseWithOpts m value false
    pure (some root)) fun _ => pure none

/-- `printLog`, which has `MAX_DATA_LEN` bytes for the line. -/
def printLog (t : Tm) (strMsg : Bytes) (strDesc : String) : HeapCode D Unit :=
  if (logLine t strMsg strDesc).length + 1 ≤ maxDataLen then pure () else Code.fault

/-- `if ( !strLogPath.empty() ) printLog( ... )`, for a text that cannot be used. -/
def logFail (t : Tm) (strLogPath strMsg : Bytes) : HeapCode D Unit :=
  Code.when (strLogPath ≠ []) (printLog t strMsg "[Sign up Parse Fail]")

/-- `CSignup::insert` behind the test for the id. -/
def insertNew (t : Tm) (strLogPath : Bytes) (ideasSqlExec : Bytes → ℤ) (fuel root : ℕ)
    (strJSON strId : Bytes) : HeapCode D ℤ := do
  match ← getString fuel root (ascii "app_id") with
  | some strAppId =>
    let u ← readUser fuel root strId strAppId
    pure (if ideasSqlExec (CSignup.insertSql u) = success then insertSuccess else insertFail)
  | none => do
    logFail t strLogPath (ascii "Invalid app_id , " ++ strJSON)
    pure insertFail

/-- `CSignup::insert` at a time, where the database answers `isExist` and `ideasSqlExec`. -/
def insert (m : Allocator (Block D)) (t : Tm) (strLogPath : Bytes) (isExist : Bytes → Bool)
    (ideasSqlExec : Bytes → ℤ) (strJSON : Bytes) : HeapCode D ℤ :=
  let fuel := (cstr strJSON).length + 1
  if strJSON = [] then pure insertFail
  else do
    match ← parseRoot m (cstr strJSON) with
    | some root =>
      match ← getString fuel root (ascii "id") with
      | some strId =>
        -- the item is not deleted
        if isExist strId then pure recordExist
        else do
          let nRet ← insertNew t strLogPath ideasSqlExec fuel root strJSON strId
          delete fuel (some root)
          pure nRet
      | none => do
        logFail t strLogPath (ascii "Invalid id , " ++ strJSON)
        delete fuel (some root)
        pure insertFail
    | none => do
      logFail t strLogPath strJSON
      pure insertFail

/-! ### A sign-up -/

/-- What `insert` returns, where these are the strings of the text. -/
def insertResult (isExist : Bytes → Bool) (ideasSqlExec : Bytes → ℤ) :
    Option JsonStrings → ℤ
  | some root =>
    match root (ascii "id") with
    | some strId =>
      if isExist strId then recordExist
      else
        match root (ascii "app_id") with
        | some strAppId =>
          if ideasSqlExec (CSignup.insertSql (signupUser root strId strAppId)) = success then
            insertSuccess
          else insertFail
        | none => insertFail
    | none => insertFail
  | none => insertFail

/-- No line about the text is too long for the log, if there is one. -/
def LogFits (strLogPath strJSON : Bytes) : Prop := strLogPath = [] ∨ strJSON.length ≤ 1987

section Insert

variable {m : Allocator (Block D)} {t : Tm} {strLogPath strJSON : Bytes} {isExist : Bytes → Bool}
  {ideasSqlExec : Bytes → ℤ} {s : Memory (Block D)} {c : Owned D} {fuel : ℕ}

omit [CDouble D]

/-- A line fits, with a text before that of the sign-up. -/
theorem logFail_done (hlog : LogFits strLogPath strJSON) {szText : Bytes}
    (htext : szText.length ≤ 17) :
    (logFail t strLogPath (szText ++ strJSON)).run s = (.done () s : Result (Block D) _ _) := by
  rw [logFail]
  rcases hlog with hpath | hlen
  · rw [hpath, Code.when, if_neg (not_not_intro rfl)]
    rfl
  · have hline :
        (logLine t (szText ++ strJSON) "[Sign up Parse Fail]").length + 1 ≤ maxDataLen := by
      have hstrlen := strlen_le_length (szText ++ strJSON)
      rw [List.length_append] at hstrlen
      rw [logLine_fits_iff t _ (by decide)]
      show _ + 20 ≤ 2024
      omega
    rw [printLog, if_pos hline, Code.when]
    split_ifs <;> rfl

theorem getField_done (hfuel : c.child.length ≤ fuel) (hs : Holds s (c.blocks none none))
    (string : Bytes) :
    (getField fuel c.addr string).run s = .done ((CJson.getString c.erase string).getD []) s := by
  rw [getField, Code.bind_done (getString_done hfuel hs string)]
  rfl

/-- The strings of an item, by name. -/
def strings (root : CJSON D) : JsonStrings := fun key => CJson.getString root (cstr key)

theorem readUser_done (hfuel : c.child.length ≤ fuel) (hs : Holds s (c.blocks none none))
    (strId strAppId : Bytes) :
    (readUser fuel c.addr strId strAppId).run s =
      .done (signupUser (strings c.erase) strId strAppId) s := by
  rw [readUser]
  iterate 9 rw [Code.bind_done (getField_done hfuel hs _)]
  rfl

theorem insertNew_done (hlog : LogFits strLogPath strJSON) (hfuel : c.child.length ≤ fuel)
    (hs : Holds s (c.blocks none none)) (strId : Bytes) :
    (insertNew t strLogPath ideasSqlExec fuel c.addr strJSON strId).run s =
      .done (match strings c.erase (ascii "app_id") with
        | some strAppId =>
          if ideasSqlExec (CSignup.insertSql (signupUser (strings c.erase) strId strAppId)) =
            success then insertSuccess else insertFail
        | none => insertFail) s := by
  rw [insertNew, Code.bind_done (getString_done hfuel hs _)]
  have hname : CJson.getString c.erase (ascii "app_id") = strings c.erase (ascii "app_id") := rfl
  rw [hname]
  cases strings c.erase (ascii "app_id") with
  | none =>
    dsimp only
    rw [Code.bind_done (logFail_done hlog (by decide))]
    rfl
  | some strAppId =>
    dsimp only
    rw [Code.bind_done (readUser_done hfuel hs strId strAppId)]
    rfl

theorem length_le_countAll (cs : List (Owned D)) : cs.length ≤ countAll cs := by
  induction cs with
  | nil => exact Nat.le_refl 0
  | cons c cs ih =>
    rw [countAll_cons, List.length_cons, Owned.count_eq]
    omega

end Insert

/-- The item of a text, if there is one. -/
def rootOf (D : Type) [CDouble D] (strJSON : Bytes) : Option (CJSON D) :=
  if strJSON = [] then none
  else
    match (parse (cstr strJSON) : Outcome (CJSON D)) with
    | .done root => some root
    | _ => none

section Insert

variable {m : Allocator (Block D)} {t : Tm} {strLogPath : Bytes} {isExist : Bytes → Bool}
  {ideasSqlExec : Bytes → ℤ} {s : Memory (Block D)}

theorem parseRoot_done {value : Bytes} (hnul : 0 ∉ value) (hescapes : EscapesComplete value)
    (hsize : value.length ≤ sizeMax) :
    (∃ (c : Owned D) (s' : Memory (Block D)), (parseRoot m value).run s = .done (some c.addr) s' ∧
      parse value = .done c.erase ∧ Adds s.heap (c.blocks none none) s'.heap ∧
        c.count ≤ value.length + 1) ∨
    ∃ s', (parseRoot m value).run s = .done none s' ∧ s'.heap = s.heap ∧
      (m.Fails s.heap ∨ ∃ ep, (parse value : Outcome (CJSON D)) = .failed ep) := by
  have hdefined := parseWithOpts_defined (D := D) hnul hescapes hsize false
  have hsim := parseWithOpts_sim m s value false
  rw [parseRoot, Code.run_onEarly, Code.run_bind]
  generalize (parseWithOpts m value false).run s = r at hsim ⊢
  rcases r with ⟨⟨a, rest⟩, s'⟩ | ⟨- | ep, s'⟩ | - | -
  · obtain ⟨⟨item, rest'⟩, hparse, -, c, rfl, rfl, hadds, hcount⟩ := hsim
    refine .inl ⟨c, s', rfl, ?_, hadds, hcount⟩
    rw [parse, hparse]
    rfl
  · exact .inr ⟨s', rfl, hsim.2, .inl hsim.1⟩
  · refine .inr ⟨s', rfl, hsim.2, .inr ⟨ep, ?_⟩⟩
    rw [parse, hsim.1]
    rfl
  · rw [show CJson.parseWithOpts value false = .undefined from hsim] at hdefined
    exact hdefined.elim
  · rw [show CJson.parseWithOpts value false = .outOfFuel from hsim] at hdefined
    exact hdefined.elim

/-- What a sign-up leaves: the heap as it was, or with the item of its text in it. -/
structure Inserted (m : Allocator (Block D)) (isExist : Bytes → Bool) (ideasSqlExec : Bytes → ℤ)
    (strJSON : Bytes) (s : Memory (Block D)) (root : Option (CJSON D)) (n : ℤ)
    (s' : Memory (Block D)) : Prop where
  parsed : root = rootOf D strJSON ∨ root = none ∧ m.Fails s.heap
  result : n = insertResult isExist ideasSqlExec (root.map strings)
  lost : n = recordExist →
    ∃ c : Owned D, root = some c.erase ∧ Adds s.heap (c.blocks none none) s'.heap
  kept : n ≠ recordExist → s'.heap = s.heap

theorem insertFail_ne_recordExist : insertFail ≠ recordExist := by decide

/-- The text has an item. -/
theorem insert_root {strJSON : Bytes} {c : Owned D} {s₁ : Memory (Block D)} (hempty : strJSON ≠ [])
    (hlog : LogFits strLogPath strJSON)
    (hrun : (parseRoot m (cstr strJSON)).run s = .done (some c.addr) s₁)
    (hparse : parse (cstr strJSON) = .done c.erase)
    (hadds : Adds s.heap (c.blocks none none) s₁.heap)
    (hcount : c.count ≤ (cstr strJSON).length + 1) :
    ∃ n s', (insert m t strLogPath isExist ideasSqlExec strJSON).run s = .done n s' ∧
      Inserted m isExist ideasSqlExec strJSON s (some c.erase) n s' := by
  have hroot : some c.erase = rootOf D strJSON := by rw [rootOf, if_neg hempty, hparse]
  have hholds : Holds s₁ (c.blocks none none) := hadds.mem
  have hfuel : c.child.length ≤ (cstr strJSON).length + 1 := by
    have := length_le_countAll c.child
    rw [Owned.count_eq] at hcount
    omega
  have hdelete := delete_owned (s := s₁) hcount hadds
  have hname : CJson.getString c.erase (ascii "id") = strings c.erase (ascii "id") := rfl
  rw [insert, if_neg hempty, Code.bind_done hrun]
  dsimp only
  rw [Code.bind_done (getString_done hfuel hholds _), hname]
  cases hid : strings c.erase (ascii "id") with
  | none =>
    dsimp only
    rw [Code.bind_done (logFail_done hlog (by decide)), Code.bind_done hdelete]
    refine ⟨insertFail, _, rfl, .inl hroot, ?_,
      fun h => absurd h insertFail_ne_recordExist, fun _ => rfl⟩
    simp only [insertResult, Option.map_some, hid]
  | some strId =>
    dsimp only
    by_cases hexist : isExist strId
    · -- here the function returns, and the blocks of the item are still there
      rw [if_pos hexist]
      refine ⟨recordExist, s₁, rfl, .inl hroot, ?_, fun _ => ⟨c, rfl, hadds⟩, fun h => absurd rfl h⟩
      simp only [insertResult, Option.map_some, hid, if_pos hexist]
    · rw [if_neg hexist, Code.bind_done (insertNew_done hlog hfuel hholds strId),
        Code.bind_done hdelete]
      refine ⟨_, _, rfl, .inl hroot, ?_, ?_, fun _ => rfl⟩
      · simp only [insertResult, Option.map_some, hid, if_neg hexist]
      · intro h
        exact absurd h (by split <;> [split_ifs; skip] <;> decide)

theorem insert_done {strJSON : Bytes} (hescapes : EscapesComplete (cstr strJSON))
    (hsize : (cstr strJSON).length ≤ sizeMax) (hlog : LogFits strLogPath strJSON) (t : Tm)
    (isExist : Bytes → Bool) (ideasSqlExec : Bytes → ℤ) :
    ∃ root n s', (insert m t strLogPath isExist ideasSqlExec strJSON).run s = .done n s' ∧
      Inserted m isExist ideasSqlExec strJSON s root n s' := by
  by_cases hempty : strJSON = []
  · rw [insert, if_pos hempty]
    refine ⟨none, insertFail, s, rfl, .inl ?_, rfl,
      fun h => absurd h insertFail_ne_recordExist, fun _ => rfl⟩
    rw [rootOf, if_pos hempty]
  rcases parseRoot_done (m := m) (s := s) (zero_notMem_cstr strJSON) hescapes hsize with
    ⟨c, s₁, hrun, hparse, hadds, hcount⟩ | ⟨s₁, hrun, hheap, hnull⟩
  · exact ⟨some c.erase, insert_root hempty hlog hrun hparse hadds hcount⟩
  · -- `cJSON_Parse` has returned `NULL`, and the heap is as it was
    rw [insert, if_neg hempty, Code.bind_done hrun]
    have hline : (logFail t strLogPath ([] ++ strJSON)).run s₁ = .done () s₁ :=
      logFail_done hlog (Nat.zero_le _)
    rw [List.nil_append] at hline
    dsimp only
    rw [Code.bind_done hline]
    refine ⟨none, insertFail, s₁, rfl, ?_, rfl,
      fun h => absurd h insertFail_ne_recordExist, fun _ => hheap⟩
    rcases hnull with hfails | ⟨ep, hfailed⟩
    · exact .inr ⟨rfl, hfails⟩
    · rw [rootOf, if_neg hempty, hfailed]
      exact .inl rfl

omit [CDouble D] in
/-- What the center's `insert` returns. -/
theorem eval_signupInsert (answer : (c : CenterCall) → c.Res) (strJSON : Bytes) :
    (signupInsert strJSON).eval answer =
      insertResult (fun strId => 0 < (answer (.ideasQuery (CSignup.isExistSql strId))).length)
        (fun szSql => if answer (.ideasExec szSql) = sqliteOk then success
          else answer (.ideasExec szSql))
        (if strJSON = [] then none else answer (.jsonParse strJSON)) := by
  unfold signupInsert insertResult
  by_cases hempty : strJSON = []
  · rw [if_pos hempty, if_pos hempty]
    rfl
  rw [if_neg hempty, if_neg hempty]
  simp only [Prog.eval_bind, jsonParse, Prog.eval_call, Prog.eval_ret]
  cases answer (.jsonParse strJSON) with
  | none => rfl
  | some root =>
    dsimp only
    cases root (ascii "id") with
    | none => rfl
    | some strId =>
      simp only [Prog.eval_bind, isExist, ideasQuery, Prog.eval_call, Prog.eval_ret,
        Prog.pure_eq_ret]
      by_cases hexist : 0 < (answer (.ideasQuery (CSignup.isExistSql strId))).length
      · simp only [hexist, decide_true, if_true, Prog.eval_ret]
      · simp only [hexist, decide_false]
        cases root (ascii "app_id") with
        | none => rfl
        | some strAppId => rfl

/-- **On the heap as in the center.** Where the allocator does not fail, `insert` on the heap
returns what `signupInsert` returns for the same answers of the database. -/
theorem insert_agrees {strJSON : Bytes} (hescapes : EscapesComplete (cstr strJSON))
    (hsize : (cstr strJSON).length ≤ sizeMax) (hlog : LogFits strLogPath strJSON)
    (hm : ¬ m.Fails s.heap) {answer : (c : CenterCall) → c.Res}
    (hjson : answer (.jsonParse strJSON) = parseStrings D strJSON) :
    ∃ s', (insert m t strLogPath
        (fun strId => 0 < (answer (.ideasQuery (CSignup.isExistSql strId))).length)
        (fun szSql => if answer (.ideasExec szSql) = sqliteOk then success
          else answer (.ideasExec szSql)) strJSON).run s =
      .done ((signupInsert strJSON).eval answer) s' := by
  obtain ⟨root, n, s', hrun, hinserted⟩ := insert_done (m := m) (s := s) hescapes hsize hlog t
    (fun strId => 0 < (answer (.ideasQuery (CSignup.isExistSql strId))).length)
    fun szSql => if answer (.ideasExec szSql) = sqliteOk then success
      else answer (.ideasExec szSql)
  have hroot := hinserted.parsed.resolve_right fun h => hm h.2
  have hstrings : root.map strings =
      if strJSON = [] then none else answer (.jsonParse strJSON) := by
    rw [hroot, rootOf, hjson, parseStrings]
    split_ifs
    · rfl
    · cases (parse (cstr strJSON) : Outcome (CJSON D)) <;> rfl
  refine ⟨s', ?_⟩
  rw [hrun, hinserted.result, eval_signupInsert, hstrings]

end Insert

/-! ### Any sign-ups -/

/-- A text, the time, and how the database answers. -/
structure SignUpTry where
  strJSON : Bytes
  time : Tm
  isExist : Bytes → Bool
  ideasSqlExec : Bytes → ℤ

/-- One sign-up after the other. -/
def insertAll (m : Allocator (Block D)) (strLogPath : Bytes) :
    List SignUpTry → HeapCode D (List ℤ)
  | [] => pure []
  | p :: ps => do
    let nRet ← insert m p.time strLogPath p.isExist p.ideasSqlExec p.strJSON
    let nRets ← insertAll m strLogPath ps
    pure (nRet :: nRets)

/-- What a sign-up returns, where the allocator does not fail. -/
def SignUpTry.result (D : Type) [CDouble D] (p : SignUpTry) : ℤ :=
  insertResult p.isExist p.ideasSqlExec ((rootOf D p.strJSON).map strings)

/-- The items of the texts of the sign-ups that have got `RECORD_EXIST`. -/
def existingRoots (D : Type) [CDouble D] (ps : List SignUpTry) (ns : List ℤ) :
    List (Option (CJSON D)) :=
  ((ps.zip ns).filter fun p => p.2 = recordExist).map fun p => rootOf D p.1.strJSON

section Insert

variable {m : Allocator (Block D)} {s : Memory (Block D)} {strLogPath : Bytes} {p : SignUpTry}
  {ps : List SignUpTry} {n : ℤ} {ns : List ℤ}

theorem existingRoots_cons_exist (hn : n = recordExist) :
    existingRoots D (p :: ps) (n :: ns) = rootOf D p.strJSON :: existingRoots D ps ns := by
  rw [existingRoots, List.zip_cons_cons, List.filter_cons_of_pos (by simpa using hn)]
  rfl

theorem existingRoots_cons_ne (hn : n ≠ recordExist) :
    existingRoots D (p :: ps) (n :: ns) = existingRoots D ps ns := by
  rw [existingRoots, List.zip_cons_cons, List.filter_cons_of_neg (by simpa using hn)]
  rfl

theorem existingRoots_eq_nil_iff (hlen : ns.length = ps.length) :
    existingRoots D ps ns = [] ↔ recordExist ∉ ns := by
  rw [existingRoots, List.map_eq_nil_iff, List.filter_eq_nil_iff]
  have hns : (ps.zip ns).map Prod.snd = ns := List.map_snd_zip hlen.le
  constructor
  · intro hnone hmem
    rw [← hns] at hmem
    obtain ⟨q, hq, hexist⟩ := List.mem_map.mp hmem
    exact hnone q hq (decide_eq_true hexist)
  · intro hnone q hq hexist
    refine hnone ?_
    rw [← hns, ← of_decide_eq_true hexist]
    exact List.mem_map_of_mem hq

omit [CDouble D] in
theorem sum_blocks_eq_zero_iff {lost : List (Owned D)} :
    (lost.map (Owned.blocks none none)).sum = 0 ↔ lost = [] := by
  cases lost with
  | nil => exact iff_of_true rfl rfl
  | cons c lost =>
    refine iff_of_false ?_ (List.cons_ne_nil _ _)
    rw [List.map_cons, List.sum_cons, Owned.blocks, Multiset.cons_add]
    exact Multiset.cons_ne_zero

theorem insertAll_done (hescapes : ∀ p ∈ ps, EscapesComplete (cstr p.strJSON))
    (hsize : ∀ p ∈ ps, (cstr p.strJSON).length ≤ sizeMax)
    (hlog : ∀ p ∈ ps, LogFits strLogPath p.strJSON) :
    ∃ (ns : List ℤ) (s' : Memory (Block D)) (lost : List (Owned D)),
      (insertAll m strLogPath ps).run s = .done ns s' ∧ ns.length = ps.length ∧
      (¬ m.Fails s.heap → ns = ps.map (SignUpTry.result D)) ∧
      lost.map (fun c => some c.erase) = existingRoots D ps ns ∧
      Adds s.heap (lost.map (Owned.blocks none none)).sum s'.heap := by
  induction ps generalizing s with
  | nil => exact ⟨[], s, [], rfl, rfl, fun _ => rfl, rfl, Adds.zero _⟩
  | cons p ps ih =>
    obtain ⟨hp, hps⟩ := List.forall_mem_cons.mp hescapes
    obtain ⟨hsizeP, hsizePs⟩ := List.forall_mem_cons.mp hsize
    obtain ⟨hlogP, hlogPs⟩ := List.forall_mem_cons.mp hlog
    obtain ⟨root, n, s₁, hrun, hinserted⟩ :=
      insert_done (m := m) (s := s) hp hsizeP hlogP p.time p.isExist p.ideasSqlExec
    obtain ⟨ns, s', lost, hruns, hlen, hresults, hlost, hadds⟩ := ih (s := s₁) hps hsizePs hlogPs
    have hall : (insertAll m strLogPath (p :: ps)).run s = .done (n :: ns) s' := by
      rw [insertAll, Code.bind_done hrun, Code.bind_done hruns]
      rfl
    have hresult : ¬ m.Fails s.heap → n = p.result D := by
      intro hm
      rw [hinserted.result, hinserted.parsed.resolve_right fun h => hm h.2]
      rfl
    by_cases hn : n = recordExist
    · -- the item of this sign-up, and then those of the sign-ups behind it
      obtain ⟨c, hroot, hc⟩ := hinserted.lost hn
      have hparsed : root = rootOf D p.strJSON := by
        refine hinserted.parsed.resolve_right fun h => ?_
        rw [hroot] at h
        cases h.1
      refine ⟨n :: ns, s', c :: lost, hall, congrArg (· + 1) hlen, fun hm => ?_, ?_, ?_⟩
      · rw [List.map_cons, ← hresult hm, ← hresults fun h => hm (h.of_adds hc)]
      · rw [List.map_cons, hlost, existingRoots_cons_exist hn, ← hparsed, hroot]
      · rw [List.map_cons, List.sum_cons]
        exact hc.trans hadds
    · -- the sign-ups behind it start on the same heap
      have hkept := hinserted.kept hn
      refine ⟨n :: ns, s', lost, hall, congrArg (· + 1) hlen, fun hm => ?_, ?_, ?_⟩
      · rw [List.map_cons, ← hresult hm, ← hresults fun h => hm (hkept ▸ h)]
      · rw [hlost, existingRoots_cons_ne hn]
      · rwa [hkept] at hadds

/-- **What sign-ups leave behind.** Whatever the allocator, the heap and the answers of the
database, sign-ups with texts in which every escape is complete, whose length is an `int` and of
which no line in the log is too long, touch no memory that is not allocated. The heap is then the
heap before with one item for each sign-up that has got `RECORD_EXIST`, that of its text, with all
that hangs at it; so it is the heap before if and only if there is none. -/
theorem insertAll_lost (hescapes : ∀ p ∈ ps, EscapesComplete (cstr p.strJSON))
    (hsize : ∀ p ∈ ps, (cstr p.strJSON).length ≤ sizeMax)
    (hlog : ∀ p ∈ ps, LogFits strLogPath p.strJSON) (m : Allocator (Block D))
    (s : Memory (Block D)) :
    ∃ (ns : List ℤ) (s' : Memory (Block D)) (lost : List (Owned D)),
      (insertAll m strLogPath ps).run s = .done ns s' ∧ ns.length = ps.length ∧
      (¬ m.Fails s.heap → ns = ps.map (SignUpTry.result D)) ∧
      lost.map (fun c => some c.erase) = existingRoots D ps ns ∧
      Adds s.heap (lost.map (Owned.blocks none none)).sum s'.heap ∧
      (s'.heap = s.heap ↔ recordExist ∉ ns) := by
  obtain ⟨ns, s', lost, hrun, hlen, hresults, hlost, hadds⟩ :=
    insertAll_done (m := m) (s := s) hescapes hsize hlog
  refine ⟨ns, s', lost, hrun, hlen, hresults, hlost, hadds, ?_⟩
  rw [hadds.eq_iff, sum_blocks_eq_zero_iff, ← existingRoots_eq_nil_iff (D := D) hlen,
    ← hlost, List.map_eq_nil_iff]

/-- The same sign-up two times. -/
def signUpTwice : List SignUpTry :=
  [⟨signUpText, someTm, fun _ => false, fun _ => success⟩,
    ⟨signUpText, someTm, fun _ => true, fun _ => success⟩]

/-- The second finds the id in the table, and its item stays. -/
theorem insertAll_lost_twice :
    ∃ s', (insertAll (Allocator.first (Block ℚ)) (ascii "/data/logs/center.log")
        signUpTwice).run ⟨fun _ => none, 0⟩ = .done [insertSuccess, recordExist] s' ∧
      s'.heap ≠ fun _ => none := by
  have htext : EscapesComplete (cstr signUpText) := by decide +kernel
  have htexts : ∀ p ∈ signUpTwice, EscapesComplete (cstr p.strJSON) := fun p hp => by
    rcases List.mem_pair.mp hp with rfl | rfl <;> exact htext
  have hlen : signUpText.length ≤ 1987 := by decide +kernel
  have hsize : (cstr signUpText).length ≤ sizeMax := by decide +kernel
  have hsizes : ∀ p ∈ signUpTwice, (cstr p.strJSON).length ≤ sizeMax := fun p hp => by
    rcases List.mem_pair.mp hp with rfl | rfl <;> exact hsize
  have hlog : ∀ p ∈ signUpTwice, LogFits (ascii "/data/logs/center.log") p.strJSON := fun p hp => by
    rcases List.mem_pair.mp hp with rfl | rfl <;> exact .inr hlen
  have hroot : (rootOf ℚ signUpText).map strings = some (jsonStrings signUpJson) := by
    rw [← signUpJson_isPrinted.parseStrings, rootOf, if_neg (by decide), parseStrings]
    cases (parse (cstr signUpText) : Outcome (CJSON ℚ)) <;> rfl
  have hfree : {a : ℕ | (fun _ => none : Heap (Block ℚ)) a = none}.Infinite := by
    simpa using Set.infinite_univ
  obtain ⟨ns, s', lost, hrun, -, hresults, -, -, hkept⟩ :=
    insertAll_lost htexts hsizes hlog (Allocator.first (Block ℚ)) ⟨fun _ => none, 0⟩
  have hns : ns = [insertSuccess, recordExist] := by
    rw [hresults (Allocator.first_not_fails hfree)]
    simp only [signUpTwice, List.map_cons, List.map_nil, SignUpTry.result, hroot]
    decide +kernel
  rw [hns] at hrun hkept
  exact ⟨s', hrun, fun h => hkept.mp h (by decide)⟩

end Insert

end ControllerSystem.ControlCenter.OnHeap
