import ControllerSystem.ConfigHandler
import ControllerSystem.Controller.Handlers
import ControllerSystem.Lib.AssocList
import Mathlib.Data.List.ReduceOption

/-!
# The start of the Controller

`Controller::init` loads the configuration file into `mapConf`, a map that all objects of the class
`Config` share, and asks this for the settings. The map is emptied when an object is deleted, and
`init` deletes its own before it asks for the path of the database: `init_device` is what this means
for the path, and `init_loaded` what `init` does otherwise. The Aw2401 controller has the same
code, with a few lines behind it.
-/

open Words Calls

namespace ControllerSystem.Controller

open IniText (Entry)
open CConfigHandler (parseFile)

/-! ### The settings of a file -/

/-- What the parser of the configuration file reports: sections, names and values, in order. -/
abbrev ConfigFile := List (Entry UInt8)

/-- The first value of the name in the section. -/
def ConfigFile.getValue (config : ConfigFile) (strSection strName : String) : Bytes :=
  ((config.find? fun e => e.header = ascii strSection ∧ e.name = ascii strName).map
    Entry.value).getD []

/-- `mapConf`: for each section a list of maps, each with a single name. -/
abbrev MapConf := List (Bytes × List (Bytes × Bytes))

namespace MapConf

/-- `Config::setConfig`. -/
def setConfig (mapConf : MapConf) (e : Entry UInt8) : MapConf :=
  if (mapConf.lookup e.header).isSome then
    mapConf.map fun s => (s.1, if s.1 = e.header then s.2 ++ [(e.name, e.value)] else s.2)
  else mapConf ++ [(e.header, [(e.name, e.value)])]

/-- The search in `Config::getValue`. -/
def find (mapConf : MapConf) (strSection strName : Bytes) : Option Bytes :=
  (mapConf.lookup strSection).bind fun listConf => listConf.lookup strName

/-- `Config::getValue`. -/
def getValue (mapConf : MapConf) (strSection strName : String) : Bytes :=
  (mapConf.find (ascii strSection) (ascii strName)).getD []

variable {mapConf : MapConf} {strSection strName : Bytes} {config : ConfigFile}

theorem lookup_pair {β : Type} {k n : Bytes} {v : β} :
    [(n, v)].lookup k = if n = k then some v else none := by
  rw [List.lookup_cons]
  by_cases h : k = n
  · subst h
    simp
  · rw [beq_false_of_ne h, if_neg (Ne.symm h)]
    rfl

theorem find_setConfig (e : Entry UInt8) :
    (mapConf.setConfig e).find strSection strName =
      (mapConf.find strSection strName).or
        (if e.header = strSection ∧ e.name = strName then some e.value else none) := by
  rw [find, find, setConfig]
  by_cases hsection : e.header = strSection
  · subst hsection
    simp only [true_and]
    cases hlookup : mapConf.lookup e.header with
    | none =>
      -- a new section
      rw [if_neg (by simp), List.lookup_append, hlookup, Option.none_or, lookup_pair, if_pos rfl,
        Option.bind_some, lookup_pair, Option.bind_none, Option.none_or]
    | some listConf =>
      rw [if_pos (by simp), AssocList.lookup_map fun k l => if k = e.header then
        l ++ [(e.name, e.value)] else l, hlookup, Option.map_some, Option.bind_some, if_pos rfl,
        List.lookup_append, lookup_pair, Option.bind_some]
  · rw [if_neg (not_and_of_not_left _ hsection), Option.or_none]
    split
    · rw [AssocList.lookup_map fun k l => if k = e.header then l ++ [(e.name, e.value)] else l]
      simp only [if_neg (Ne.symm hsection), Option.map_id']
    · rw [List.lookup_append, lookup_pair, if_neg hsection, Option.or_none]

theorem find_foldl_setConfig :
    (config.foldl setConfig mapConf).find strSection strName =
      (mapConf.find strSection strName).or
        ((config.find? fun e => e.header = strSection ∧ e.name = strName).map Entry.value) := by
  induction config generalizing mapConf with
  | nil => rw [List.foldl_nil, List.find?_nil, Option.map_none, Option.or_none]
  | cons e config ih =>
    rw [List.foldl_cons, ih, find_setConfig, Option.or_assoc, List.find?_cons]
    by_cases he : e.header = strSection ∧ e.name = strName
    · rw [if_pos he, Option.some_or]
      simp [he]
    · rw [if_neg he, Option.none_or]
      simp [he]

/-- The map has the values of the file. -/
theorem getValue_foldl_setConfig (config : ConfigFile) (strSection strName : String) :
    getValue (config.foldl setConfig []) strSection strName =
      config.getValue strSection strName := by
  rw [getValue, find_foldl_setConfig]
  rfl

end MapConf

/-! ### The code -/

/-- The calls of `init`. -/
inductive InitCall
  | fopen (szFileName : Bytes)
  /-- What the memory of the local variable `section` of `parseFile` holds. -/
  | uninitialised
  /-- `mapConf` is changed by `Config::setConfig`, -/
  | setConfig (e : Entry UInt8)
  /-- read by `Config::getValue`, -/
  | getValue (strSection strName : String)
  /-- and emptied by the destructor of `Config`. -/
  | clear
  | mkdirp (strPath : Bytes)
  | getMac (iface : String)
  | sqlite3Open (dbPath : Bytes)
  /-- `CSqliteHandler::sqlExec`. -/
  | sqlExec (szSql : String)
  /-- A write behind the end of `section`. -/
  | overrun

/-- What the calls return. -/
abbrev InitCall.Res : InitCall → Type
  | fopen _ => Option Bytes
  | uninitialised => Bytes
  | setConfig _ => Unit
  | getValue _ _ => Bytes
  | clear => Unit
  | mkdirp _ => Bool
  | getMac _ => Bytes
  | sqlite3Open _ => ℤ
  | sqlExec _ => ℤ
  | overrun => Unit

abbrev InitProg (α : Type) := Prog InitCall InitCall.Res α

abbrev InitEvent := Prog.Event InitCall InitCall.Res

abbrev fopen (szFileName : Bytes) : InitProg (Option Bytes) := .call (.fopen szFileName) .ret

abbrev uninitialised : InitProg Bytes := .call .uninitialised .ret

abbrev getValue (strSection strName : String) : InitProg Bytes :=
  .call (.getValue strSection strName) .ret

abbrev clear : InitProg Unit := .call .clear .ret

abbrev mkdirp (strPath : Bytes) : InitProg Bool := .call (.mkdirp strPath) .ret

abbrev getMac (iface : String) : InitProg Bytes := .call (.getMac iface) .ret

abbrev sqlite3Open (dbPath : Bytes) : InitProg ℤ := .call (.sqlite3Open dbPath) .ret

abbrev sqlExec (szSql : String) : InitProg ℤ := .call (.sqlExec szSql) .ret

/-- The calls of `funcConfig`, the handler of `parseFile`. -/
def funcConfig : List (Option (Entry UInt8)) → InitProg Unit
  | [] => pure ()
  | none :: calls => funcConfig calls
  | some e :: calls => .call (.setConfig e) fun _ => funcConfig calls

/-- `Config::readConfig`, with `CConfigHandler::parse`. -/
def readConfig (strConf : Bytes) : InitProg ℤ := do
  if isValidStr strConf 255 then
    match ← fopen strConf with
    | some file =>
      let szSection ← uninitialised
      match parseFile szSection file with
      | some (calls, nRet) =>
        funcConfig calls
        pure nRet
      | none =>
        -- nothing is said about what comes behind it
        .call .overrun fun _ => pure (-1)
    | none => pure (-1)
  else pure (-1)

/-- `Config::loadConfig`. -/
def loadConfig (strConf : Bytes) : InitProg Bool := do
  if isValidStr strConf 255 then
    let nRet ← readConfig strConf
    pure (0 < nRet)
  else pure false

/-- `CSqliteHandler::openDeviceDB`. -/
def openDeviceDB (dbPath : Bytes) : InitProg Bool := do
  let rc ← sqlite3Open dbPath
  if rc ≠ 0 then pure false
  else
    let _ ← sqlExec "DROP TABLE device;"
    let rc ← sqlExec ("CREATE TABLE IF NOT EXISTS device(id CHAR(50) NOT NULL, " ++
      "status INT NOT NULL, socket_fd INT NOT NULL, created_date DATE, updated_date DATE );")
    pure (rc = sqliteOk)

/-- What `init` has set when the database has been opened. -/
structure Started where
  mConfig : Config
  strLogPath : Bytes
  strServerPort : Bytes
  strDeviceDB : Bytes

/-- A setting, or its default. -/
def valueOr (strValue strDefault : Bytes) : Bytes := if strValue = [] then strDefault else strValue

/-- The path of the database when there is none in the file. -/
def defaultDeviceDB : Bytes := ascii "/data/sqlite/device.db"

/-- `Controller::init`, in both controllers; `finish` is what each does at the end. -/
def init {α : Type} (finish : Started → α) (strConf : Bytes) : InitProg (Option α) := do
  let loaded ← loadConfig strConf
  if loaded = false then
    clear
    pure none
  else
    let strLogPath ← getValue "LOG" "log"
    let strLogPath := valueOr strLogPath (ascii "controller.log")
    let _ ← mkdirp strLogPath
    let strServerPort ← getValue "SERVER" "port"
    let strMAC ← getMac "eth0"
    let strCenterServerIP ← getValue "CENTER" "ip"
    let strCenterServerPort ← getValue "CENTER" "port"
    -- `delete config`; the method called on it then reads nothing but `mapConf`
    clear
    let strDeviceDB ← getValue "SQLITE" "db_device"
    let strDeviceDB := valueOr strDeviceDB defaultDeviceDB
    let _ ← mkdirp strDeviceDB
    let _ ← openDeviceDB strDeviceDB
    pure (some (finish
      ⟨⟨strMAC, strCenterServerIP, strCenterServerPort⟩, strLogPath, strServerPort, strDeviceDB⟩))

/-! ### What it meets -/

/-- What the calls meet that are not about `mapConf`. -/
structure Surroundings where
  fopen : Bytes → Option Bytes
  szSection : Bytes
  mkdirp : Bytes → Bool
  getMac : String → Bytes
  sqlite3Open : Bytes → ℤ
  sqlExec : String → ℤ

/-- The result of a call, and `mapConf` behind it. -/
def Surroundings.answer (o : Surroundings) (mapConf : MapConf) :
    (c : InitCall) → Unit → c.Res × MapConf
  | .fopen szFileName, _ => (o.fopen szFileName, mapConf)
  | .uninitialised, _ => (o.szSection, mapConf)
  | .setConfig e, _ => ((), mapConf.setConfig e)
  | .getValue strSection strName, _ => (mapConf.getValue strSection strName, mapConf)
  | .clear, _ => ((), [])
  | .mkdirp strPath, _ => (o.mkdirp strPath, mapConf)
  | .getMac iface, _ => (o.getMac iface, mapConf)
  | .sqlite3Open dbPath, _ => (o.sqlite3Open dbPath, mapConf)
  | .sqlExec szSql, _ => (o.sqlExec szSql, mapConf)
  | .overrun, _ => ((), mapConf)

/-- What the parser makes of the file, if there is one. -/
def Surroundings.parsed (o : Surroundings) (strConf : Bytes) :
    Option (List (Option (Entry UInt8)) × ℤ) :=
  (o.fopen strConf).bind (parseFile o.szSection)

/-- The entries of the file. -/
def Surroundings.config (o : Surroundings) (strConf : Bytes) : Option ConfigFile :=
  (o.parsed strConf).map fun r => r.1.reduceOption

/-- The file is loaded: it is there, and has an entry. -/
def Surroundings.Loads (o : Surroundings) (strConf : Bytes) : Prop :=
  isValidStr strConf 255 ∧ ∃ calls nRet, o.parsed strConf = some (calls, nRet) ∧ 0 < nRet

/-- What `mapConf` is asked for, with its answer. -/
def readValue : InitEvent → Option (String × String × Bytes)
  | ⟨.getValue strSection strName, strValue⟩ => some (strSection, strName, strValue)
  | _ => none

/-- The database that is opened. -/
def opened : InitEvent → Option Bytes
  | ⟨.sqlite3Open dbPath, _⟩ => some dbPath
  | _ => none

section Runs

variable {α : Type} {finish : Started → α} {o : Surroundings} {strConf : Bytes}
  {mapConf mapConf' : MapConf} {chs : List Unit} {tr : List InitEvent}

/-! ### Loading the file -/

theorem funcConfig_run {calls : List (Option (Entry UInt8))} {u : Unit}
    (h : (funcConfig calls).runIn o.answer mapConf chs = some (u, mapConf', tr)) :
    mapConf' = calls.reduceOption.foldl MapConf.setConfig mapConf := by
  induction calls generalizing mapConf chs tr with
  | nil =>
    obtain ⟨-, -, rfl, -⟩ := Prog.runIn_ret_eq_some.mp h
    rfl
  | cons call calls ih =>
    cases call with
    | none =>
      rw [List.reduceOption_cons_of_none]
      exact ih h
    | some e =>
      obtain ⟨ch, chs', tr', -, -, hrest⟩ := Prog.runIn_call_eq_some.mp h
      rw [List.reduceOption_cons_of_some, List.foldl_cons]
      exact ih hrest

theorem readConfig_run {nRet : ℤ} (hvalid : isValidStr strConf 255)
    (h : (readConfig strConf).runIn o.answer mapConf chs = some (nRet, mapConf', tr)) :
    (∃ calls, o.parsed strConf = some (calls, nRet) ∧
        mapConf' = calls.reduceOption.foldl MapConf.setConfig mapConf) ∨
      o.parsed strConf = none ∧ nRet = -1 := by
  rw [readConfig, if_pos hvalid] at h
  obtain ⟨ch₁, chs₁, tr₁, -, -, h₁⟩ := Prog.runIn_call_bind_eq_some.mp h
  rw [Surroundings.parsed]
  change Prog.runIn _ (match o.fopen strConf with | some file => _ | none => _) mapConf _ = _ at h₁
  cases hfile : o.fopen strConf with
  | none =>
    rw [hfile] at h₁
    exact .inr ⟨rfl, (Prog.runIn_ret_eq_some.mp h₁).2.1.symm⟩
  | some file =>
    rw [hfile] at h₁
    obtain ⟨ch₂, chs₂, tr₂, -, -, h₂⟩ := Prog.runIn_call_bind_eq_some.mp h₁
    rw [Option.bind_some]
    change Prog.runIn _
      (match parseFile o.szSection file with | some (calls, nRet) => _ | none => _)
      mapConf _ = _ at h₂
    cases hparse : parseFile o.szSection file with
    | none =>
      rw [hparse] at h₂
      obtain ⟨ch₃, chs₃, tr₃, -, -, h₃⟩ := Prog.runIn_call_eq_some.mp h₂
      exact .inr ⟨rfl, (Prog.runIn_ret_eq_some.mp h₃).2.1.symm⟩
    | some r =>
      rw [hparse] at h₂
      obtain ⟨chs₃, chs₄, u, m, tr₃, tr₄, -, -, hcalls, hret⟩ := Prog.runIn_bind_eq_some.mp h₂
      obtain ⟨-, rfl, rfl, -⟩ := Prog.runIn_ret_eq_some.mp hret
      exact .inl ⟨r.1, rfl, funcConfig_run hcalls⟩

/-- When the file is loaded, `mapConf` has its entries. -/
theorem loadConfig_run {loaded : Bool}
    (h : (loadConfig strConf).runIn o.answer mapConf chs = some (loaded, mapConf', tr)) :
    (loaded = true ↔ o.Loads strConf) ∧
    (loaded = true → ∃ config, o.config strConf = some config ∧
      mapConf' = config.foldl MapConf.setConfig mapConf) := by
  rw [loadConfig] at h
  split at h
  · next hvalid =>
    obtain ⟨chs₁, chs₂, nRet, m, tr₁, tr₂, -, -, hread, hret⟩ := Prog.runIn_bind_eq_some.mp h
    obtain ⟨-, rfl, rfl, -⟩ := Prog.runIn_ret_eq_some.mp hret
    rw [decide_eq_true_iff]
    obtain ⟨calls, hparsed, hmapConf⟩ | ⟨hparsed, rfl⟩ := readConfig_run hvalid hread
    · refine ⟨⟨fun hpos => ⟨hvalid, calls, nRet, hparsed, hpos⟩, ?_⟩, fun _ => ⟨_, ?_, hmapConf⟩⟩
      · rintro ⟨-, calls', nRet', hparsed', hpos⟩
        rw [hparsed] at hparsed'
        obtain ⟨-, rfl⟩ := Prod.mk.inj (Option.some.inj hparsed')
        exact hpos
      · rw [Surroundings.config, hparsed, Option.map_some]
    · refine ⟨iff_of_false (by decide) ?_, fun hpos => absurd hpos (by decide)⟩
      rintro ⟨-, calls, nRet, hparsed', -⟩
      rw [hparsed] at hparsed'
      cases hparsed'
  · next hvalid =>
    obtain ⟨-, rfl, -⟩ := Prog.runIn_ret_eq_some.mp h
    exact ⟨iff_of_false nofun fun hloads => hvalid hloads.1, nofun⟩

/-- A call that is neither a reading of `mapConf` nor the opening of a database. -/
def Quiet : InitCall → Prop
  | .getValue _ _ => False
  | .sqlite3Open _ => False
  | _ => True

theorem funcConfig_quiet (calls : List (Option (Entry UInt8))) :
    (funcConfig calls).Forall Quiet := by
  induction calls with
  | nil => trivial
  | cons call calls ih =>
    cases call with
    | none => exact ih
    | some e => exact ⟨trivial, fun _ => ih⟩

theorem loadConfig_quiet (strConf : Bytes) : (loadConfig strConf).Forall Quiet := by
  have hread : (readConfig strConf).Forall Quiet := by
    rw [readConfig]
    split
    · refine ⟨trivial, fun file => ?_⟩
      cases file with
      | none => trivial
      | some file =>
        refine ⟨trivial, fun szSection => ?_⟩
        show Prog.Forall _
          (match parseFile szSection file with | some (calls, nRet) => _ | none => _)
        cases parseFile szSection file with
        | none => exact ⟨trivial, fun _ => trivial⟩
        | some r => exact (funcConfig_quiet r.1).bind fun _ => trivial
    · trivial
  rw [loadConfig]
  split
  · exact hread.bind fun _ => trivial
  · trivial

/-- Nothing is read or opened while the file is loaded. -/
theorem loadConfig_nothing {b : Bool}
    (h : (loadConfig strConf).runIn o.answer mapConf chs = some (b, mapConf', tr)) :
    tr.filterMap readValue = [] ∧ tr.filterMap opened = [] := by
  have hexec := Prog.exec_of_runIn h
  constructor
  · refine (loadConfig_quiet strConf).filterMap_eq_nil (fun c r hc => ?_) hexec
    cases c <;> first | rfl | exact hc.elim
  · refine (loadConfig_quiet strConf).filterMap_eq_nil (fun c r hc => ?_) hexec
    cases c <;> first | rfl | exact hc.elim

/-- The database is opened once. -/
theorem openDeviceDB_run {dbPath : Bytes} {b : Bool}
    (h : (openDeviceDB dbPath).runIn o.answer mapConf chs = some (b, mapConf', tr)) :
    tr.filterMap readValue = [] ∧ tr.filterMap opened = [dbPath] := by
  rw [openDeviceDB] at h
  obtain ⟨ch₁, chs₁, tr₁, -, rfl, h₁⟩ := Prog.runIn_call_bind_eq_some.mp h
  split at h₁
  · obtain ⟨-, -, -, rfl⟩ := Prog.runIn_ret_eq_some.mp h₁
    exact ⟨rfl, rfl⟩
  · obtain ⟨ch₂, chs₂, tr₂, -, rfl, h₂⟩ := Prog.runIn_call_bind_eq_some.mp h₁
    obtain ⟨ch₃, chs₃, tr₃, -, rfl, h₃⟩ := Prog.runIn_call_bind_eq_some.mp h₂
    obtain ⟨-, -, -, rfl⟩ := Prog.runIn_ret_eq_some.mp h₃
    exact ⟨rfl, rfl⟩

/-- What `init` has set at its end. The path of the database does not depend on the file. -/
def started (config : ConfigFile) (szMAC : Bytes) : Started where
  mConfig := ⟨szMAC, config.getValue "CENTER" "ip", config.getValue "CENTER" "port"⟩
  strLogPath := valueOr (config.getValue "LOG" "log") (ascii "controller.log")
  strServerPort := config.getValue "SERVER" "port"
  strDeviceDB := defaultDeviceDB

/-- **What `init` does.** When it has loaded the file, it asks for five settings and is given the
last of them from an empty map, and opens the default database; otherwise it opens none. -/
theorem init_run {r : Option α}
    (h : (init finish strConf).runIn o.answer [] chs = some (r, mapConf', tr)) :
    (o.Loads strConf → ∃ config, o.config strConf = some config ∧
      tr.filterMap readValue =
        [("LOG", "log", config.getValue "LOG" "log"),
          ("SERVER", "port", config.getValue "SERVER" "port"),
          ("CENTER", "ip", config.getValue "CENTER" "ip"),
          ("CENTER", "port", config.getValue "CENTER" "port"), ("SQLITE", "db_device", [])] ∧
      tr.filterMap opened = [defaultDeviceDB] ∧
      r = some (finish (started config (o.getMac "eth0")))) ∧
    (¬ o.Loads strConf → tr.filterMap opened = [] ∧ r = none) := by
  rw [init] at h
  obtain ⟨chs₀, chs₁, loaded, m, tr₀, tr₁, -, rfl, hload, h₁⟩ := Prog.runIn_bind_eq_some.mp h
  obtain ⟨hquiet, hnone⟩ := loadConfig_nothing hload
  obtain ⟨hloads, hentries⟩ := loadConfig_run hload
  rw [← hloads]
  cases loaded with
  | false =>
    obtain ⟨ch₂, chs₂, tr₂, -, rfl, hret⟩ := Prog.runIn_call_bind_eq_some.mp h₁
    obtain ⟨-, rfl, -, rfl⟩ := Prog.runIn_ret_eq_some.mp hret
    refine ⟨nofun, fun _ => ⟨?_, rfl⟩⟩
    rw [List.filterMap_append, hnone]
    rfl
  | true =>
    refine ⟨fun _ => ?_, fun hnot => absurd rfl hnot⟩
    obtain ⟨config, hconfig, rfl⟩ := hentries rfl
    refine ⟨config, hconfig, ?_⟩
    rw [if_neg (by decide)] at h₁
    -- call by call, up to the opening of the database
    obtain ⟨ch₂, chs₂, tr₂, -, rfl, h₂⟩ := Prog.runIn_call_bind_eq_some.mp h₁
    obtain ⟨ch₃, chs₃, tr₃, -, rfl, h₃⟩ := Prog.runIn_call_bind_eq_some.mp h₂
    obtain ⟨ch₄, chs₄, tr₄, -, rfl, h₄⟩ := Prog.runIn_call_bind_eq_some.mp h₃
    obtain ⟨ch₅, chs₅, tr₅, -, rfl, h₅⟩ := Prog.runIn_call_bind_eq_some.mp h₄
    obtain ⟨ch₆, chs₆, tr₆, -, rfl, h₆⟩ := Prog.runIn_call_bind_eq_some.mp h₅
    obtain ⟨ch₇, chs₇, tr₇, -, rfl, h₇⟩ := Prog.runIn_call_bind_eq_some.mp h₆
    obtain ⟨ch₈, chs₈, tr₈, -, rfl, h₈⟩ := Prog.runIn_call_bind_eq_some.mp h₇
    obtain ⟨ch₉, chs₉, tr₉, -, rfl, h₉⟩ := Prog.runIn_call_bind_eq_some.mp h₈
    obtain ⟨ch₁₀, chs₁₀, tr₁₀, -, rfl, h₁₀⟩ := Prog.runIn_call_bind_eq_some.mp h₉
    obtain ⟨chs₁₁, chs₁₂, b, m, tr₁₁, tr₁₂, -, rfl, hopen, hret⟩ := Prog.runIn_bind_eq_some.mp h₁₀
    obtain ⟨-, rfl, -, rfl⟩ := Prog.runIn_ret_eq_some.mp hret
    obtain ⟨hread, hopened⟩ := openDeviceDB_run hopen
    have hvalue := MapConf.getValue_foldl_setConfig config
    refine ⟨?_, ?_, ?_⟩
    · rw [List.filterMap_append, hquiet, ← hvalue, ← hvalue, ← hvalue, ← hvalue]
      show _ :: _ :: _ :: _ :: _ :: (tr₁₁ ++ []).filterMap readValue = _
      rw [List.append_nil, hread]
      rfl
    · rw [List.filterMap_append, hnone]
      show (tr₁₁ ++ []).filterMap opened = _
      rw [List.append_nil, hopened]
      rfl
    · rw [started, ← hvalue, ← hvalue, ← hvalue, ← hvalue]
      rfl

/-! ### The path of the database -/

/-- Every setting `init` asks for is the one in the file. -/
def TakesEffect (config : ConfigFile) (tr : List InitEvent) : Prop :=
  ∀ strSection strName strValue, (strSection, strName, strValue) ∈ tr.filterMap readValue →
    strValue = config.getValue strSection strName

/-- **The path in the file.** Whatever `init` meets, when it has loaded a file with a path for the
database, the database is opened at this path, and at no other, if and only if it is the default
one; and `mapConf` has no longer the values of the file when it is asked for the path. -/
theorem init_device (finish : Started → α) (strConf : Bytes) (o : Surroundings) (chs : List Unit)
    (r : Option α) (mapConf' : MapConf) (tr : List InitEvent) (config : ConfigFile)
    (hrun : (init finish strConf).runIn o.answer [] chs = some (r, mapConf', tr))
    (hloads : o.Loads strConf) (hconfig : o.config strConf = some config)
    (hdevice : config.getValue "SQLITE" "db_device" ≠ []) :
    (tr.filterMap opened = [config.getValue "SQLITE" "db_device"] ↔
      config.getValue "SQLITE" "db_device" = defaultDeviceDB) ∧
    ¬ TakesEffect config tr := by
  obtain ⟨config', hconfig', hread, hopened, -⟩ := (init_run hrun).1 hloads
  rw [hconfig, Option.some.injEq] at hconfig'
  subst hconfig'
  constructor
  · rw [hopened, List.cons.injEq, and_iff_left rfl, eq_comm]
  · intro htakes
    refine hdevice (htakes "SQLITE" "db_device" [] ?_).symm
    rw [hread]
    simp

end Runs

/-- A file with a path for the database. -/
def elsewhere : Surroundings where
  fopen _ := some (ascii "[SQLITE]\ndb_device = /tmp/device.db\n")
  szSection := []
  mkdirp _ := true
  getMac _ := ascii "0123456789ab"
  sqlite3Open _ := 0
  sqlExec _ := 0

theorem elsewhere_parsed : elsewhere.parsed (ascii "controller.conf") =
    some ([none, some ⟨ascii "SQLITE", ascii "db_device", ascii "/tmp/device.db"⟩], 1) := by
  rw [Surroundings.parsed, elsewhere, Option.bind_some, parseFile,
    CConfigHandler.parseLoop_eq (by decide) (by decide)]
  decide

theorem elsewhere_loads : elsewhere.Loads (ascii "controller.conf") :=
  ⟨by decide, _, _, elsewhere_parsed, by decide⟩

def elsewhereConfig : ConfigFile := [⟨ascii "SQLITE", ascii "db_device", ascii "/tmp/device.db"⟩]

theorem elsewhere_config : elsewhere.config (ascii "controller.conf") = some elsewhereConfig := by
  rw [Surroundings.config, elsewhere_parsed]
  rfl

theorem init_device_elsewhere : ∃ chs r mapConf' tr,
    (init id (ascii "controller.conf")).runIn elsewhere.answer [] chs = some (r, mapConf', tr) ∧
    (tr.filterMap opened = [elsewhereConfig.getValue "SQLITE" "db_device"] ↔
      elsewhereConfig.getValue "SQLITE" "db_device" = defaultDeviceDB) ∧
    ¬ TakesEffect elsewhereConfig tr := by
  obtain ⟨chs, r, mapConf', tr, hrun⟩ :=
    Prog.exists_runIn elsewhere.answer () (init id (ascii "controller.conf")) []
  exact ⟨chs, r, mapConf', tr, hrun, init_device id _ elsewhere chs r mapConf' tr elsewhereConfig
    hrun elsewhere_loads elsewhere_config (by decide)⟩

/-- The path in the file is `/tmp/device.db`, and the default database is opened. -/
theorem init_not_elsewhere : ∃ chs r mapConf' tr,
    (init id (ascii "controller.conf")).runIn elsewhere.answer [] chs = some (r, mapConf', tr) ∧
    r.isSome ∧ elsewhereConfig.getValue "SQLITE" "db_device" = ascii "/tmp/device.db" ∧
    tr.filterMap opened = [ascii "/data/sqlite/device.db"] ∧
    ("SQLITE", "db_device", []) ∈ tr.filterMap readValue := by
  obtain ⟨chs, r, mapConf', tr, hrun⟩ :=
    Prog.exists_runIn elsewhere.answer () (init id (ascii "controller.conf")) []
  obtain ⟨config, -, hread, hopened, hr⟩ := (init_run hrun).1 elsewhere_loads
  refine ⟨chs, r, mapConf', tr, hrun, ?_, by decide, hopened, ?_⟩
  · rw [hr]
    rfl
  · rw [hread]
    simp

end ControllerSystem.Controller
