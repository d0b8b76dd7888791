import ControllerSystem.ControlCenter.Center
import ControllerSystem.Lib.KeyedRows
import ControllerSystem.Lib.LTS

/-!
# Sign-ups

`cmpSignup` hands the text of a sign-up to `CSignup::insert`, which looks the id up in the table
`user` of the ideas database and puts a row into it. Both statements are texts; here the database
reads them, with the lexical rule of SQL: the columns an `INSERT` names get the literals in the same
place, unless the table has a row with that id or the statement fails. A text that is neither of the
two statements may do anything.

`ideasSqlExec` gives `SUCCESS` for `SQLITE_OK` and any other result code as it is. But `SUCCESS` is
1, and so is `SQLITE_ERROR`.

* `cmpSignup_first_wins` — the table has exactly the first successful sign-up for each id, and
  `insert` returns what it should if and only if no `INSERT` fails with `SQLITE_ERROR`.
-/

open Words QuotedText Calls KeyedRows

namespace ControllerSystem.ControlCenter

/-- The result code for a row that would break a constraint. -/
def sqliteConstraint : ℤ := 19

/-! ### Reading the statements -/

/-- A row of the table `user`: the columns given, with their values. -/
abbrev UserRow := List (Bytes × Bytes)

/-- The primary key. -/
def UserRow.id (row : UserRow) : Bytes := (row.lookup (ascii "id")).getD []

/-- The statements `CSignup` makes. -/
inductive UserSql
  | insert (row : UserRow)
  /-- The ids in the rows with an id. -/
  | selectId (strId : Bytes)
  deriving DecidableEq

/-- Read a fixed text outside literals. -/
def readRaw : Bytes → List (Lexeme UInt8) → Option (List (Lexeme UInt8))
  | [], ls => some ls
  | c :: s, .raw c' :: ls => if c' = c then readRaw s ls else none
  | _ :: _, _ => none

/-- The text outside literals up to a character. -/
def readUntil (stop : UInt8) : List (Lexeme UInt8) → Bytes × List (Lexeme UInt8)
  | .raw c :: ls =>
    if c = stop then ([], .raw c :: ls)
    else ((c :: (readUntil stop ls).1), (readUntil stop ls).2)
  | ls => ([], ls)

/-- Literals with commas between them. -/
def readLiterals : List (Lexeme UInt8) → Option (List Bytes × List (Lexeme UInt8))
  | .literal v :: .raw c :: ls =>
    if c = 44 then (readLiterals ls).map fun (vs, rest) => (v :: vs, rest)
    else some ([v], .raw c :: ls)
  | _ => none

/-- Cut a list of names at its commas. -/
def splitCommas : Bytes → List Bytes
  | [] => [[]]
  | c :: s =>
    if c = 44 then [] :: splitCommas s
    else
      match splitCommas s with
      | name :: names => (c :: name) :: names
      | [] => [[c]]

/-- `INSERT INTO user(columns) VALUES(literals);`. -/
def parseInsert (ls : List (Lexeme UInt8)) : Option UserRow := do
  let ls ← readRaw (ascii "INSERT INTO user(") ls
  let columns := readUntil 41 ls
  let ls ← readRaw (ascii ") VALUES(") columns.2
  let literals ← readLiterals ls
  let ls ← readRaw (ascii ");") literals.2
  if ls = [] ∧ (splitCommas columns.1).length = literals.1.length then
    some ((splitCommas columns.1).zip literals.1)
  else none

/-- `SELECT id FROM user WHERE id = literal;`. -/
def parseSelectId (ls : List (Lexeme UInt8)) : Option Bytes := do
  match ← readRaw (ascii "SELECT id FROM user WHERE id = ") ls with
  | [.literal strId, .raw 59] => some strId
  | _ => none

/-- The statement a text is, where it is one of the two. -/
def UserSql.parse (szSql : Bytes) : Option UserSql :=
  ((parseInsert (lex sqlQuote szSql)).map .insert).or
    ((parseSelectId (lex sqlQuote szSql)).map .selectId)

section Parse

theorem readRaw_append (s : Bytes) (ls : List (Lexeme UInt8)) :
    readRaw s (s.map .raw ++ ls) = some ls := by
  induction s with
  | nil => rfl
  | cons c s ih => simpa [readRaw] using ih

theorem readUntil_append {stop : UInt8} {s : Bytes} (hs : stop ∉ s) (ls : List (Lexeme UInt8)) :
    readUntil stop (s.map .raw ++ .raw stop :: ls) = (s, .raw stop :: ls) := by
  induction s with
  | nil => simp [readUntil]
  | cons c s ih =>
    obtain ⟨hc, hs⟩ := not_or.mp (List.mem_cons.not.mp hs)
    rw [List.map_cons, List.cons_append, readUntil, if_neg (Ne.symm hc), ih hs]

/-- The columns of the table that a sign-up fills. -/
def userColumns : List Bytes :=
  ["id", "app_id", "mac", "os", "phone", "fb_id", "fb_name", "fb_email", "fb_account", "g_account",
    "t_account"].map ascii

/-- The names of the columns in the `INSERT`. -/
def columnNames : Bytes :=
  ascii "id,app_id,mac,os,phone,fb_id,fb_name,fb_email,fb_account,g_account,t_account"

/-- Literals with commas between them, and what stands behind. -/
def literalList : List Bytes → List (Lexeme UInt8) → List (Lexeme UInt8)
  | [], ls => ls
  | [v], ls => .literal v :: ls
  | v :: vs, ls => .literal v :: .raw 44 :: literalList vs ls

theorem readLiterals_literalList {c : UInt8} (hc : c ≠ 44) (v : Bytes) (vs : List Bytes)
    (ls : List (Lexeme UInt8)) :
    readLiterals (literalList (v :: vs) (.raw c :: ls)) = some (v :: vs, .raw c :: ls) := by
  induction vs generalizing v with
  | nil => simp [literalList, readLiterals, hc]
  | cons w vs ih =>
    rw [literalList, readLiterals, if_pos rfl, ih w]
    · rfl
    · simp

/-- **The texts of the sign-up.** The statement that puts a user into the table gives each column
the string that belongs there. -/
theorem parse_insertSql {u : CSignup.User}
    (hu : ∀ v ∈ (SqlText.signupInsert u).strings, sqlQuote ∉ v) :
    UserSql.parse (CSignup.insertSql u) =
      some (.insert (userColumns.zip (SqlText.signupInsert u).strings)) := by
  have hlex : lex sqlQuote (CSignup.insertSql u) = lexemes (SqlText.signupInsert u).meant :=
    (SqlText.lex_text_iff (.signupInsert u)).mpr hu
  have hopen : ascii "INSERT INTO user(id,app_id,mac,os,phone,fb_id,fb_name,fb_email,fb_account," ++
      ascii "g_account,t_account) VALUES(" =
      ascii "INSERT INTO user(" ++ (columnNames ++ (41 :: ascii " VALUES(")) := by decide +kernel
  have hmeant : lexemes (SqlText.signupInsert u).meant =
      (ascii "INSERT INTO user(").map .raw ++ (columnNames.map .raw ++
        .raw 41 :: ((ascii " VALUES(").map .raw ++ literalList (SqlText.signupInsert u).strings
          (.raw 41 :: [.raw 59]))) := by
    rw [SqlText.meant, hopen]
    simp only [lexemes, Part.lexemes, List.flatMap_cons, List.flatMap_nil, List.map_append,
      List.map_cons, List.append_assoc, List.cons_append, List.nil_append]
    rfl
  have hcolumns : splitCommas columnNames = userColumns := by decide +kernel
  have hstop : (41 : UInt8) ∉ columnNames := by decide +kernel
  have hvalues : readRaw (ascii ") VALUES(") (.raw 41 :: ((ascii " VALUES(").map .raw ++
      literalList (SqlText.signupInsert u).strings (.raw 41 :: [.raw 59]))) =
      some (literalList (SqlText.signupInsert u).strings (.raw 41 :: [.raw 59])) :=
    readRaw_append (ascii ") VALUES(") _
  have hend : readRaw (ascii ");") (.raw 41 :: [.raw 59]) = some [] :=
    readRaw_append (ascii ");") []
  have hinsert : parseInsert (lexemes (SqlText.signupInsert u).meant) =
      some (userColumns.zip (SqlText.signupInsert u).strings) := by
    rw [hmeant, parseInsert, readRaw_append]
    simp only [Option.bind_eq_bind, Option.bind_some, readUntil_append hstop, hvalues, hcolumns]
    rw [SqlText.strings, readLiterals_literalList (by decide)]
    simp only [Option.bind_some, hend]
    rfl
  rw [UserSql.parse, hlex, hinsert]
  rfl

theorem parse_isExistSql {strId : Bytes} (hId : sqlQuote ∉ strId) :
    UserSql.parse (CSignup.isExistSql strId) = some (.selectId strId) := by
  have hlex : lex sqlQuote (CSignup.isExistSql strId) =
      lexemes (SqlText.signupIsExist strId).meant :=
    (SqlText.lex_text_iff (.signupIsExist strId)).mpr (by simpa [SqlText.strings] using hId)
  have hmeant : lexemes (SqlText.signupIsExist strId).meant =
      (ascii "SELECT id FROM user WHERE id = ").map .raw ++ [.literal strId, .raw 59] := rfl
  have hselect : parseSelectId (lexemes (SqlText.signupIsExist strId).meant) = some strId := by
    rw [hmeant, parseSelectId, readRaw_append]
    rfl
  have hinsert : parseInsert (lexemes (SqlText.signupIsExist strId).meant) = none := by
    -- the first characters differ
    rfl
  rw [UserSql.parse, hlex, hinsert, hselect]
  rfl

end Parse

/-! ### The ideas database -/

/-- What the handlers share, with the table `user`. -/
structure Ideas where
  center : Center
  user : List UserRow

/-- What one call leaves open. -/
structure IdeasChoice extends CenterChoice where
  /-- A `SELECT` fails, behind the first `stepped` rows. -/
  selectFails : Bool := false
  /-- The table after a statement that is neither of the two. -/
  user : List UserRow := []

/-- What a call returns, and the state afterwards. `cJSON_Parse` is a function of the text. -/
def Ideas.answer (cJSON_Parse : Bytes → Option JsonStrings) (s : Ideas) :
    (c : CenterCall) → IdeasChoice → c.Res × Ideas
  | .ideasExec szSql, ch =>
    match UserSql.parse szSql with
    | some (.insert row) =>
      if ch.rc ≠ sqliteOk then (ch.rc, s)
      else if row.id ∈ s.user.map UserRow.id then (sqliteConstraint, s)
      else (sqliteOk, { s with user := s.user ++ [row] })
    | _ => (ch.rc, { s with user := ch.user })
  | .ideasQuery szSql, ch =>
    match UserSql.parse szSql with
    | some (.selectId strId) =>
      (if ch.selectFails then ((s.user.map UserRow.id).filter (· = strId)).take ch.stepped
      else (s.user.map UserRow.id).filter (· = strId), s)
    | _ => (ch.texts, s)
  | .jsonParse strJSON, _ => (cJSON_Parse strJSON, s)
  | c, ch => ((s.center.answer c ch.toCenterChoice).1,
      { s with center := (s.center.answer c ch.toCenterChoice).2 })

/-- Run a program over the database. -/
abbrev Ideas.run {α : Type} (cJSON_Parse : Bytes → Option JsonStrings) (p : CenterProg α)
    (s : Ideas) (chs : List IdeasChoice) : Option (α × Ideas × List CenterEvent) :=
  p.runIn (Ideas.answer cJSON_Parse) s chs

/-- The row of a sign-up: each column has the string of its name, or is empty. -/
def userRow (root : JsonStrings) : UserRow :=
  userColumns.map fun column => (column, (root column).getD [])

/-! ### `CSignup::insert` -/

/-- The result code of the first `INSERT` of an execution. -/
def insertRc (tr : List CenterEvent) : Option ℤ :=
  tr.findSome? fun
    | ⟨.ideasExec _, rc⟩ => some rc
    | _ => none

/-- A call of `CSignup::insert`. -/
structure SignupCall where
  /-- The JSON object of the text, if there is one. -/
  root : Option JsonStrings
  /-- The result code of the `INSERT`, if it has come to one. -/
  rc : Option ℤ
  result : ℤ
  before : List UserRow
  after : List UserRow

/-- The row a call has added. -/
def SignupCall.added (c : SignupCall) : Option UserRow :=
  if c.rc = some sqliteOk then c.root.map userRow else none

/-- What `insert` has to return, where `known` is the table before. -/
def SignupCall.due (c : SignupCall) (known : Bytes → Option UserRow) : ℤ :=
  match c.root.bind fun root => root (ascii "id") with
  | some strId =>
    if (known strId).isSome then recordExist
    else if c.rc = some sqliteOk then insertSuccess
    else insertFail
  | none => insertFail

/-- What a call of `insert` does to the table `known`: it adds its row if the statement succeeds and
nothing otherwise, and it returns what is due, or `INSERT_SUCCESS` after `SQLITE_ERROR`. -/
structure SignupCall.Handled (c : SignupCall) (known : Bytes → Option UserRow) : Prop where
  before : Represents UserRow.id id c.before known
  after : c.after = c.before ++ c.added.toList
  added : ∀ row, c.added = some row → known row.id = none
  result : if c.rc = some sqliteError then c.result = insertSuccess ∧ c.due known = insertFail
    else c.result = c.due known

section Insert

variable {cJSON_Parse : Bytes → Option JsonStrings} {s s' : Ideas} {chs : List IdeasChoice}
  {tr : List CenterEvent}

/-- The JSON object `insert` works with. -/
def signupRoot (cJSON_Parse : Bytes → Option JsonStrings) (strJSON : Bytes) : Option JsonStrings :=
  if strJSON = [] then none else cJSON_Parse strJSON

/-- Every string of the object is without a single quote. -/
def JsonQuoteFree (root : JsonStrings) : Prop := ∀ key v, root key = some v → sqlQuote ∉ v

theorem userRow_eq {root : JsonStrings} {strId strAppId : Bytes}
    (hid : root (ascii "id") = some strId) (happ : root (ascii "app_id") = some strAppId) :
    userColumns.zip (SqlText.signupInsert (signupUser root strId strAppId)).strings =
      userRow root := by
  have hId : (root (ascii "id")).getD [] = strId := by rw [hid]; rfl
  have hAppId : (root (ascii "app_id")).getD [] = strAppId := by rw [happ]; rfl
  rw [← hId, ← hAppId]
  rfl

theorem userRow_id {root : JsonStrings} {strId : Bytes} (hid : root (ascii "id") = some strId) :
    (userRow root).id = strId := by
  show (root (ascii "id")).getD [] = strId
  rw [hid]
  rfl

theorem signupUser_quoteFree {root : JsonStrings} (hroot : JsonQuoteFree root)
    {strId strAppId : Bytes} (hid : root (ascii "id") = some strId)
    (happ : root (ascii "app_id") = some strAppId) :
    ∀ v ∈ (SqlText.signupInsert (signupUser root strId strAppId)).strings, sqlQuote ∉ v := by
  have hfield : ∀ key, sqlQuote ∉ (root key).getD [] := by
    intro key
    cases hkey : root key with
    | none => exact List.not_mem_nil
    | some v => exact hroot key v hkey
  intro v hv
  simp only [SqlText.strings, signupUser, List.mem_cons, List.not_mem_nil, or_false] at hv
  rcases hv with rfl | rfl | rfl | rfl | rfl | rfl | rfl | rfl | rfl | rfl | rfl
  · exact hroot _ _ hid
  · exact hroot _ _ happ
  all_goals exact hfield _

/-- A call that has not come to an `INSERT` and leaves the table alone. -/
theorem SignupCall.Handled.of_none {c : SignupCall} {known : Bytes → Option UserRow}
    (hbefore : Represents UserRow.id id c.before known) (hrc : c.rc = none)
    (hafter : c.after = c.before) (hresult : c.result = c.due known) : c.Handled known := by
  have hadded : c.added = none := by
    rw [SignupCall.added, hrc]
    rfl
  refine ⟨hbefore, ?_, fun row hrow => ?_, ?_⟩
  · rw [hadded, hafter]
    exact (List.append_nil _).symm
  · rw [hadded] at hrow
    cases hrow
  · rw [hrc]
    exact hresult

/-- A call that has come to an `INSERT`. -/
theorem SignupCall.Handled.of_insert {root : JsonStrings} {strId : Bytes} {rc : ℤ}
    {before after : List UserRow} {known : Bytes → Option UserRow}
    (hbefore : Represents UserRow.id id before known) (hid : root (ascii "id") = some strId)
    (hnone : known strId = none)
    (hafter : after = before ++ (if rc = sqliteOk then some (userRow root) else none).toList) :
    SignupCall.Handled ⟨some root, some rc,
      if rc = sqliteOk ∨ rc = sqliteError then insertSuccess else insertFail, before, after⟩
      known := by
  have hdue : SignupCall.due ⟨some root, some rc, 0, before, after⟩ known =
      if rc = sqliteOk then insertSuccess else insertFail := by
    simp [due, hid, hnone]
  refine ⟨hbefore, ?_, fun row hrow => ?_, ?_⟩
  · rw [hafter]
    simp [SignupCall.added]
  · obtain ⟨-, hrow⟩ := Option.ite_none_right_eq_some.mp hrow
    cases hrow
    rw [userRow_id hid]
    exact hnone
  · show if some rc = some sqliteError then
        _ ∧ SignupCall.due ⟨some root, some rc, 0, before, after⟩ _ = _
      else _ = SignupCall.due ⟨some root, some rc, 0, before, after⟩ _
    rw [hdue]
    rcases eq_or_ne rc sqliteError with rfl | hne
    · rw [if_pos rfl, if_pos (.inr rfl)]
      exact ⟨rfl, rfl⟩
    · rw [if_neg fun heq => hne (Option.some.inj heq)]
      simp only [hne, or_false]

/-- The rows found are those of the map, where the `SELECT` does not fail. -/
theorem isExist_run {strId : Bytes} {b : Bool} {known : Bytes → Option UserRow}
    (hselect : ∀ ch ∈ chs, ch.selectFails = false)
    (hknown : Represents UserRow.id id s.user known) (hId : sqlQuote ∉ strId)
    (h : Ideas.run cJSON_Parse (isExist strId) s chs = some (b, s', tr)) :
    s' = s ∧ insertRc tr = none ∧ b = (known strId).isSome := by
  obtain ⟨ch, chs', tr', rfl, rfl, hret⟩ := Prog.runIn_call_eq_some.mp h
  obtain ⟨-, rfl, rfl, rfl⟩ := Prog.runIn_ret_eq_some.mp hret
  have hanswer : s.answer cJSON_Parse (.ideasQuery (CSignup.isExistSql strId)) ch =
      ((s.user.map UserRow.id).filter (· = strId), s) := by
    rw [Ideas.answer, parse_isExistSql hId]
    simp only [hselect ch List.mem_cons_self, Bool.false_eq_true, if_false]
  rw [hanswer]
  refine ⟨rfl, rfl, ?_⟩
  have hrows : (s.user.map UserRow.id).filter (· = strId) =
      (known strId).toList.map UserRow.id := by
    rw [List.filter_map, ← hknown.lookup strId, List.map_map]
    rfl
  rw [hrows]
  cases known strId <;> rfl

/-- A log line and a result. -/
theorem printLog_run {strMsg : Bytes} {strDesc : String} {n nRet : ℤ}
    (h : Ideas.run cJSON_Parse (do printLog strMsg strDesc; pure n) s chs = some (nRet, s', tr)) :
    nRet = n ∧ s' = s ∧ insertRc tr = none := by
  obtain ⟨ch, chs', tr', -, rfl, hret⟩ := Prog.runIn_call_bind_eq_some.mp h
  obtain ⟨-, rfl, rfl, rfl⟩ := Prog.runIn_ret_eq_some.mp hret
  exact ⟨rfl, rfl, rfl⟩

/-- The statement that adds a row with a new id, and the result made of its result code. -/
theorem insertRow_run {szSql : Bytes} {row : UserRow} {n : ℤ}
    (hparse : UserSql.parse szSql = some (.insert row)) (hnew : row.id ∉ s.user.map UserRow.id)
    (h : Ideas.run cJSON_Parse (do
        let nRet ← ideasSqlExec szSql
        pure (if nRet = success then insertSuccess else insertFail)) s chs = some (n, s', tr)) :
    ∃ rc, insertRc tr = some rc ∧
      s'.user = s.user ++ (if rc = sqliteOk then some row else none).toList ∧
      n = if rc = sqliteOk ∨ rc = sqliteError then insertSuccess else insertFail := by
  obtain ⟨ch, chs', tr', -, rfl, hret⟩ := Prog.runIn_call_eq_some.mp h
  obtain ⟨-, rfl, rfl, rfl⟩ := Prog.runIn_ret_eq_some.mp hret
  have hanswer : s.answer cJSON_Parse (.ideasExec szSql) ch =
      if ch.rc ≠ sqliteOk then (ch.rc, s)
      else (sqliteOk, { s with user := s.user ++ [row] }) := by
    rw [Ideas.answer, hparse]
    simp only [if_neg hnew]
  rw [hanswer]
  rcases eq_or_ne ch.rc sqliteOk with hok | hne
  · rw [if_neg (not_not.mpr hok)]
    exact ⟨sqliteOk, rfl, rfl, rfl⟩
  · rw [if_pos hne]
    refine ⟨ch.rc, rfl, ?_, ?_⟩
    · rw [if_neg hne]
      exact (List.append_nil _).symm
    · -- `SUCCESS` and `SQLITE_ERROR` are one number
      rw [if_neg hne]
      simp only [hne, false_or]
      rfl

/-- **A sign-up.** -/
theorem signupInsert_handled {strJSON : Bytes} {nInsert : ℤ} {known : Bytes → Option UserRow}
    (hselect : ∀ ch ∈ chs, ch.selectFails = false)
    (hroot : ∀ root, signupRoot cJSON_Parse strJSON = some root → JsonQuoteFree root)
    (hknown : Represents UserRow.id id s.user known)
    (h : Ideas.run cJSON_Parse (signupInsert strJSON) s chs = some (nInsert, s', tr)) :
    SignupCall.Handled
      ⟨signupRoot cJSON_Parse strJSON, insertRc tr, nInsert, s.user, s'.user⟩ known := by
  unfold signupInsert at h
  unfold signupRoot at hroot ⊢
  split at h
  · -- an empty text
    next hempty =>
    obtain ⟨-, rfl, rfl, rfl⟩ := Prog.runIn_ret_eq_some.mp h
    rw [if_pos hempty]
    exact .of_none hknown rfl rfl rfl
  next hne =>
  rw [if_neg hne] at hroot ⊢
  obtain ⟨ch, chs', tr', rfl, rfl, h₁⟩ := Prog.runIn_call_bind_eq_some.mp h
  have hparse : s.answer cJSON_Parse (.jsonParse strJSON) ch = (cJSON_Parse strJSON, s) := rfl
  rw [hparse] at h₁
  have hrc : insertRc (⟨.jsonParse strJSON, cJSON_Parse strJSON⟩ :: tr') = insertRc tr' := rfl
  rw [hparse, hrc]
  cases hjson : cJSON_Parse strJSON with
  | none =>
    rw [hjson] at h₁
    obtain ⟨rfl, rfl, hnone⟩ := printLog_run h₁
    exact .of_none hknown hnone rfl rfl
  | some root =>
    rw [hjson] at h₁
    have hquote := hroot root hjson
    cases hid : root (ascii "id") with
    | none =>
      simp only [hid] at h₁
      obtain ⟨rfl, rfl, hnone⟩ := printLog_run h₁
      exact .of_none hknown hnone rfl (by simp [SignupCall.due, hid])
    | some strId =>
      simp only [hid] at h₁
      obtain ⟨chs₁, chs₂, b, s₁, tr₁, tr₂, rfl, rfl, hexist, h₂⟩ := Prog.runIn_bind_eq_some.mp h₁
      obtain ⟨rfl, hnone, rfl⟩ := isExist_run
        (fun ch' hch' => hselect ch' (List.mem_cons_of_mem ch (List.mem_append_left chs₂ hch')))
        hknown (hquote _ _ hid) hexist
      have hrc' : insertRc (tr₁ ++ tr₂) = insertRc tr₂ := by
        rw [insertRc, List.findSome?_append]
        rw [insertRc] at hnone
        rw [hnone]
        rfl
      rw [hrc']
      cases hfound : (known strId).isSome with
      | true =>
        rw [hfound] at h₂
        obtain ⟨-, rfl, rfl, rfl⟩ := Prog.runIn_ret_eq_some.mp h₂
        exact .of_none hknown rfl rfl (by simp [SignupCall.due, hid, hfound])
      | false =>
        rw [hfound] at h₂
        cases happ : root (ascii "app_id") with
        | none =>
          simp only [happ] at h₂
          obtain ⟨rfl, rfl, hnone⟩ := printLog_run h₂
          exact .of_none hknown hnone rfl (by simp [SignupCall.due, hid, hfound, hnone])
        | some strAppId =>
          simp only [happ] at h₂
          have hrow := userRow_eq hid happ
          have hparse' := parse_insertSql (signupUser_quoteFree hquote hid happ)
          rw [hrow] at hparse'
          have hnone : known (userRow root).id = none := by
            rw [userRow_id hid]
            exact Option.not_isSome_iff_eq_none.mp (by rw [hfound]; simp)
          have hnew : (userRow root).id ∉ s₁.user.map UserRow.id := by
            intro hmem
            obtain ⟨row, hrow, heq⟩ := List.mem_map.mp hmem
            exact hknown.eq_none hnone row hrow heq
          obtain ⟨rc, hrc, huser, rfl⟩ := insertRow_run hparse' hnew h₂
          rw [hrc]
          refine .of_insert hknown hid ?_ huser
          rw [← userRow_id hid]
          exact hnone

end Insert

/-! ### Packets -/

/-- What `cmpSignup` does before it answers: the result of `insert`, if the body is accepted. -/
def signupCall (nCommand : Word) (pData : Bytes) : CenterProg (Option ℤ) := do
  let (nRet, rData) := parseBody nCommand pData
  if 0 < nRet ∧ rData.isValidKey "type" ∧ rData.isValidKey "data" then
    printLog (rData.get "type" ++ ascii "," ++ rData.get "data") "[Center Recv Body]"
    let nInsert ← signupInsert (rData.get "data")
    pure (some nInsert)
  else pure none

/-- The answer of `cmpSignup`. -/
def signupReply (nSocket : ℤ) (nCommand nSequence : Word) (pData : Bytes) (nInsert : Option ℤ) :
    CenterProg ℤ := do
  let _ ← sendCommand nSocket nCommand
    (match nInsert with
    | some nInsert => if nInsert ≠ insertFail then statusRok else statusRsyserr
    | none => statusRinvbody) nSequence true
  pure (parseBody nCommand pData).1

/-- `cmpSignup` is the one and then the other. -/
theorem cmpSignup_eq (nSocket : ℤ) (nCommand nSequence : Word) (pData : Bytes) :
    cmpSignup nSocket nCommand nSequence pData =
      signupCall nCommand pData >>= signupReply nSocket nCommand nSequence pData := by
  unfold cmpSignup signupCall signupReply
  simp only
  split
  · simp only [Prog.call_bind, Prog.bind_assoc]
    rfl
  · rfl

/-- The text of a sign-up packet. -/
def signupText (pData : Bytes) : Bytes := (parseBody signUpRequest pData).2.get "data"

/-- A sign-up packet, and what the calls for it leave open. -/
structure SignupPacket where
  nSocket : ℤ
  nSequence : Word
  pData : Bytes
  insert : List IdeasChoice
  reply : List IdeasChoice

/-- The database, and the calls of `insert` so far. -/
structure Signups where
  ideas : Ideas
  calls : List SignupCall

/-- `cmpSignup` handles a packet. -/
def signupStep (cJSON_Parse : Bytes → Option JsonStrings) (s : Signups) (p : SignupPacket) :
    Option Signups :=
  (Ideas.run cJSON_Parse (signupCall signUpRequest p.pData) s.ideas p.insert).bind
    fun (nInsert, ideas, tr) =>
      (Ideas.run cJSON_Parse (signupReply p.nSocket signUpRequest p.nSequence p.pData nInsert) ideas
        p.reply).map fun (_, ideas', _) =>
          { ideas := ideas'
            calls := s.calls ++ nInsert.toList.map fun n =>
              ⟨signupRoot cJSON_Parse (signupText p.pData), insertRc tr, n, s.ideas.user,
                ideas.user⟩ }

/-- The ControlCenter handles sign-ups. -/
def signupSystem (cJSON_Parse : Bytes → Option JsonStrings) (ideas : Ideas) :
    LTS.System Signups SignupPacket where
  init := ⟨ideas, []⟩
  step := signupStep cJSON_Parse

/-- The strings of the text have no single quote. -/
def SignupPacket.QuoteFree (cJSON_Parse : Bytes → Option JsonStrings) (p : SignupPacket) : Prop :=
  ∀ root, signupRoot cJSON_Parse (signupText p.pData) = some root → JsonQuoteFree root

/-- No `SELECT` fails. -/
def SignupPacket.SelectsSucceed (p : SignupPacket) : Prop :=
  ∀ ch ∈ p.insert, ch.selectFails = false

/-- The table that has, for each id, the row known before, or else the row of the first call that
has added one. -/
def firstWins (known : Bytes → Option UserRow) (calls : List SignupCall) (strId : Bytes) :
    Option UserRow :=
  (known strId).or ((calls.filterMap SignupCall.added).find? fun row => row.id = strId)

section Packets

variable {cJSON_Parse : Bytes → Option JsonStrings} {known : Bytes → Option UserRow}

theorem signupCall_run {s s' : Ideas} {chs : List IdeasChoice} {tr : List CenterEvent}
    {pData : Bytes} {nInsert : Option ℤ} (hselect : ∀ ch ∈ chs, ch.selectFails = false)
    (hquote : ∀ root, signupRoot cJSON_Parse (signupText pData) = some root → JsonQuoteFree root)
    (hknown : Represents UserRow.id id s.user known)
    (h : Ideas.run cJSON_Parse (signupCall signUpRequest pData) s chs = some (nInsert, s', tr)) :
    nInsert = none ∧ s'.user = s.user ∨
      ∃ n, nInsert = some n ∧ SignupCall.Handled
        ⟨signupRoot cJSON_Parse (signupText pData), insertRc tr, n, s.user, s'.user⟩ known := by
  unfold signupCall at h
  simp only at h
  split at h
  · obtain ⟨ch, chs', tr', rfl, rfl, h₁⟩ := Prog.runIn_call_bind_eq_some.mp h
    obtain ⟨chs₁, chs₂, n, s₁, tr₁, tr₂, rfl, rfl, hinsert, hret⟩ := Prog.runIn_bind_eq_some.mp h₁
    obtain ⟨-, rfl, rfl, rfl⟩ := Prog.runIn_ret_eq_some.mp hret
    have hhandled := @signupInsert_handled _ _ _ _ _ (signupText pData) _ _
      (fun ch' hch' => hselect ch' (List.mem_cons_of_mem ch (List.mem_append_left chs₂ hch')))
      hquote hknown hinsert
    rw [List.append_nil]
    exact .inr ⟨n, rfl, hhandled⟩
  · obtain ⟨-, rfl, rfl, -⟩ := Prog.runIn_ret_eq_some.mp h
    exact .inl ⟨rfl, rfl⟩

theorem signupReply_run {s s' : Ideas} {chs : List IdeasChoice} {tr : List CenterEvent}
    {nSocket n : ℤ} {nCommand nSequence : Word} {pData : Bytes} {nInsert : Option ℤ}
    (h : Ideas.run cJSON_Parse (signupReply nSocket nCommand nSequence pData nInsert) s chs =
      some (n, s', tr)) : s'.user = s.user := by
  obtain ⟨ch, chs', tr', -, -, h₁⟩ := Prog.runIn_call_eq_some.mp h
  obtain ⟨ch', chs'', tr'', -, -, hret⟩ := Prog.runIn_call_eq_some.mp h₁
  obtain ⟨-, -, rfl, -⟩ := Prog.runIn_ret_eq_some.mp hret
  rfl

theorem firstWins_concat (calls : List SignupCall) (c : SignupCall)
    (hnew : ∀ row, c.added = some row → firstWins known calls row.id = none) :
    firstWins known (calls ++ [c]) =
      match c.added with
      | some row => Function.update (firstWins known calls) row.id (some row)
      | none => firstWins known calls := by
  cases hadded : c.added with
  | none =>
    funext strId
    simp [firstWins, hadded]
  | some row =>
    have hnone := hnew row hadded
    funext strId
    show _ = Function.update (firstWins known calls) row.id (some row) strId
    rcases eq_or_ne strId row.id with rfl | hne
    · rw [Function.update_self]
      obtain ⟨hknown, hfind⟩ := Option.or_eq_none_iff.mp hnone
      rw [firstWins, hknown, List.filterMap_append, List.find?_append, hfind]
      simp [hadded]
    · rw [Function.update_of_ne hne]
      simp [firstWins, hadded, hne.symm]

/-- The table after a call. -/
theorem SignupCall.Handled.represents {calls : List SignupCall} {c : SignupCall}
    (h : c.Handled (firstWins known calls)) :
    Represents UserRow.id id c.after (firstWins known (calls ++ [c])) := by
  rw [firstWins_concat calls c h.added, h.after]
  cases hadded : c.added with
  | none =>
    show Represents UserRow.id id (c.before ++ []) (firstWins known calls)
    rw [List.append_nil]
    exact h.before
  | some row => exact h.before.append (h.added row hadded)

/-- The table and the calls are as they should be. -/
structure Signups.Inv (known : Bytes → Option UserRow) (s : Signups) : Prop where
  user : Represents UserRow.id id s.ideas.user (firstWins known s.calls)
  calls : ∀ (i : ℕ) (c : SignupCall), s.calls[i]? = some c →
    c.Handled (firstWins known (s.calls.take i))

theorem Signups.Inv.step {s s' : Signups} {p : SignupPacket} (h : s.Inv known)
    (hselect : p.SelectsSucceed) (hquote : p.QuoteFree cJSON_Parse)
    (hstep : signupStep cJSON_Parse s p = some s') :
    s'.Inv known := by
  obtain ⟨⟨nInsert, ideas, tr⟩, hcall, hstep⟩ := Option.bind_eq_some_iff.mp hstep
  obtain ⟨⟨n, ideas', tr'⟩, hreply, rfl⟩ := Option.map_eq_some_iff.mp hstep
  have hsame : ideas'.user = ideas.user := signupReply_run hreply
  rcases signupCall_run hselect hquote h.user hcall with ⟨rfl, huser⟩ | ⟨nInsert, rfl, hhandled⟩
  · refine ⟨?_, ?_⟩
    · simpa [hsame, huser] using h.user
    · simpa using h.calls
  · refine ⟨?_, fun i c hc => ?_⟩
    · show Represents UserRow.id id ideas'.user (firstWins known (s.calls ++ [_]))
      rw [hsame]
      exact hhandled.represents
    · rcases LTS.getElem?_concat_cases hc with hold | ⟨rfl, rfl⟩
      · -- an older call
        obtain ⟨hi, -⟩ := List.getElem?_eq_some_iff.mp hold
        rw [List.take_append_of_le_length (Nat.le_of_lt hi)]
        exact h.calls i c hold
      · rw [List.take_left']
        · exact hhandled
        · rfl

/-- **First come, first served.** After any sign-ups, the table has for each id the row it had
before, or else the row of the first sign-up whose `INSERT` has succeeded; each call has added just
its row, if its `INSERT` has succeeded. All calls return what is due if and only if no `INSERT` has
failed with `SQLITE_ERROR`. -/
theorem cmpSignup_first_wins {ideas : Ideas} (hdb : Represents UserRow.id id ideas.user known)
    {packets : List SignupPacket} (hselect : ∀ p ∈ packets, p.SelectsSucceed)
    (hquote : ∀ p ∈ packets, p.QuoteFree cJSON_Parse) {s : Signups}
    (h : (signupSystem cJSON_Parse ideas).Run (signupSystem cJSON_Parse ideas).init packets s) :
    Represents UserRow.id id s.ideas.user (firstWins known s.calls) ∧
      (∀ (i : ℕ) (c : SignupCall), s.calls[i]? = some c →
        Represents UserRow.id id c.before (firstWins known (s.calls.take i)) ∧
          c.after = c.before ++ c.added.toList) ∧
      ((∀ c ∈ s.calls, c.rc ≠ some sqliteError) ↔
        ∀ (i : ℕ) (c : SignupCall), s.calls[i]? = some c →
          c.result = c.due (firstWins known (s.calls.take i))) := by
  have hinit : (signupSystem cJSON_Parse ideas).init.Inv known := by
    refine ⟨?_, fun i c hc => by cases hc⟩
    have hknown : firstWins known [] = known := by
      funext strId
      exact Option.or_none
    show Represents UserRow.id id ideas.user (firstWins known [])
    rw [hknown]
    exact hdb
  have hinv : s.Inv known := by
    have hrun : (signupSystem cJSON_Parse ideas).RunWhere
        (fun _ p => p.SelectsSucceed ∧ p.QuoteFree cJSON_Parse) _ _ s :=
      h.runWhere fun p hp _ => ⟨hselect p hp, hquote p hp⟩
    exact hrun.invariant (fun _ _ _ hinv hok hstep => hinv.step hok.1 hok.2 hstep) hinit
  refine ⟨hinv.user, fun i c hc => ⟨(hinv.calls i c hc).before, (hinv.calls i c hc).after⟩,
    fun hrc i c hc => ?_, fun hdue c hmem hrc => ?_⟩
  · have hresult := (hinv.calls i c hc).result
    rw [if_neg (hrc c (List.mem_of_getElem? hc))] at hresult
    exact hresult
  · obtain ⟨i, hc⟩ := List.getElem?_of_mem hmem
    have hresult := (hinv.calls i c hc).result
    rw [if_pos hrc] at hresult
    -- `INSERT_SUCCESS` is returned where `INSERT_FAIL` is due
    have heq := hdue i c hc
    rw [hresult.1, hresult.2] at heq
    cases heq

end Packets

/-- The text of a sign-up. -/
def signUpText : Bytes := ascii "\x7b\"id\":\"u\",\"app_id\":\"a\"\x7d"

/-- The strings in the text. -/
def signUpStrings : JsonStrings := fun key =>
  if key = ascii "id" then some (ascii "u")
  else if key = ascii "app_id" then some (ascii "a")
  else none

/-- A parser that knows the text. -/
def parseSignUp (strJSON : Bytes) : Option JsonStrings :=
  if strJSON = signUpText then some signUpStrings else none

/-- The sign-up, with the result code of its `INSERT`. -/
def signUpWith (rc : ℤ) : SignupPacket where
  nSocket := 5
  nSequence := 7#32
  pData := CmpHeader.bytes ⟨44#32, signUpRequest, statusRok, 7#32⟩ ++
    ascii "\x00\x00\x00\x01" ++ signUpText ++ [0]
  insert := [{}, {}, {}, { rc := rc }]
  reply := [{ sent := 16 }, {}]

/-- The same user once more. -/
def signUpAgain : SignupPacket := { signUpWith sqliteOk with insert := [{}, {}, {}] }

theorem signUpWith_selectsSucceed (rc : ℤ) : (signUpWith rc).SelectsSucceed := by
  simp [SignupPacket.SelectsSucceed, signUpWith]

theorem signUpAgain_selectsSucceed : signUpAgain.SelectsSucceed := by
  simp [SignupPacket.SelectsSucceed, signUpAgain]

theorem signUpWith_quoteFree (rc : ℤ) : (signUpWith rc).QuoteFree parseSignUp := by
  have htext : signupText (signUpWith rc).pData = signUpText := by
    show signupText (signUpWith 0).pData = signUpText
    decide +kernel
  intro root hroot key v hv
  rw [htext] at hroot
  obtain rfl : signUpStrings = root := Option.some.inj hroot
  simp only [signUpStrings] at hv
  split at hv
  · cases hv
    decide
  · split at hv
    · cases hv
      decide
    · cases hv

/-- An empty table, and two sign-ups of one user. -/
theorem cmpSignup_first_wins_one :
    ∃ s, (signupSystem parseSignUp ⟨Center.start, []⟩).Run
        (signupSystem parseSignUp ⟨Center.start, []⟩).init [signUpWith sqliteOk, signUpAgain] s ∧
      s.ideas.user = [userRow signUpStrings] ∧
      s.calls.map SignupCall.result = [insertSuccess, recordExist] ∧
      Represents UserRow.id id s.ideas.user (firstWins (fun _ => none) s.calls) := by
  have hmap : ((signupSystem parseSignUp ⟨Center.start, []⟩).run
        (signupSystem parseSignUp ⟨Center.start, []⟩).init [signUpWith sqliteOk, signUpAgain]).map
      (fun s => (s.ideas.user, s.calls.map SignupCall.result)) =
        some ([userRow signUpStrings], [insertSuccess, recordExist]) := by decide +kernel
  obtain ⟨s, hs, heq⟩ := Option.map_eq_some_iff.mp hmap
  obtain ⟨huser, hresults⟩ := Prod.mk.inj heq
  have hrun := LTS.System.run_eq_some_iff.mp hs
  refine ⟨s, hrun, huser, hresults,
    (cmpSignup_first_wins .nil (fun p hp => ?_) (fun p hp => ?_) hrun).1⟩
  · rcases List.mem_pair.mp hp with rfl | rfl
    · exact signUpWith_selectsSucceed sqliteOk
    · exact signUpAgain_selectsSucceed
  · rcases List.mem_pair.mp hp with rfl | rfl
    · exact signUpWith_quoteFree sqliteOk
    · exact signUpWith_quoteFree sqliteOk

/-- The `INSERT` fails with `SQLITE_ERROR`: there is no row, and the sign-up is told that it has
succeeded. -/
theorem cmpSignup_loses :
    ∃ s, (signupSystem parseSignUp ⟨Center.start, []⟩).Run
        (signupSystem parseSignUp ⟨Center.start, []⟩).init [signUpWith sqliteError] s ∧
      s.ideas.user = [] ∧
      s.calls.map (fun c => (c.result, c.due fun _ => none)) = [(insertSuccess, insertFail)] :=
  ⟨_, LTS.System.run_eq_some_iff.mp rfl, rfl, rfl⟩

end ControllerSystem.ControlCenter
