import ControllerSystem.Controller.Init
import ControllerSystem.Lib.StdMap

/-!
# The settings as the Controller stores them

`Config` keeps its settings in a map from sections to lists of maps that have a single name each.
`setConfig` adds to the list of a section, or adds the section; `getValue` goes through the list.
Both use `operator[]`, which inserts where there is nothing.

* `getValue_eq`, `toMapConf_setConfig` — a list of maps is the list of their pairs, which is how the
  start of the Controller uses it;
* `getValue_run` — what is found is what was set first.
-/

open Words

namespace ControllerSystem.Controller.ConfStore

/-! ### The code -/

/-- `MAP_CONF_VALUE` and `LIST_CONF_MAP`. -/
abbrev ConfValue := List (Bytes × Bytes)
abbrev ConfList := List ConfValue

/-- `MAP_CONF`. -/
abbrev Store := List (Bytes × ConfList)

/-- `Config::setConfig`. -/
def setConfig (mapConf : Store) (strSection strName strValue : Bytes) : Store :=
  let mapData : ConfValue := StdMap.insert [] strName strValue
  if (mapConf.lookup strSection).isSome then
    -- `mapConf[strSection].push_back( mapData )`
    StdMap.modify (StdMap.index [] mapConf strSection).2 strSection (· ++ [mapData])
  else
    let listConf : ConfList := [] ++ [mapData]
    StdMap.insert mapConf strSection listConf

/-- The loop in `Config::getValue`: the list, in which `operator[]` may insert, and the value. -/
def getLoop (strName : Bytes) : ConfList → ConfList × Bytes
  | [] => ([], [])
  | i :: rest =>
    if (i.lookup strName).isSome then
      let value := StdMap.index [] i strName
      (value.2 :: rest, value.1)
    else
      let r := getLoop strName rest
      (i :: r.1, r.2)

/-- `Config::getValue`: the value, and the map. -/
def getValue (mapConf : Store) (strSection strName : Bytes) : Bytes × Store :=
  if (mapConf.lookup strSection).isSome then
    let listConf := StdMap.index [] mapConf strSection
    ((getLoop strName listConf.1).2,
      StdMap.modify listConf.2 strSection fun l => (getLoop strName l).1)
  else ([], mapConf)

/-- The calls on a store. -/
inductive ConfigCall
  | setConfig (strSection strName strValue : Bytes)
  | getValue (strSection strName : Bytes)

/-- The store after a call. -/
def after (mapConf : Store) : ConfigCall → Store
  | .setConfig strSection strName strValue => setConfig mapConf strSection strName strValue
  | .getValue strSection strName => (getValue mapConf strSection strName).2

/-- The store after some calls, from a fresh one on. -/
def run (calls : List ConfigCall) : Store := calls.foldl after []

/-- The value a call gives to a name in a section. -/
def binding (strSection strName : Bytes) : ConfigCall → Option Bytes
  | .setConfig strSection' strName' strValue =>
    if strSection' = strSection ∧ strName' = strName then some strValue else none
  | .getValue _ _ => none

/-! ### The lists of maps -/

/-- The store as the start of the Controller uses it. -/
def toMapConf (mapConf : Store) : MapConf := mapConf.map fun s => (s.1, s.2.flatten)

variable {mapConf : Store} {strSection strName strValue : Bytes}

theorem lookup_toMapConf :
    (toMapConf mapConf).lookup strSection = (mapConf.lookup strSection).map List.flatten :=
  AssocList.lookup_map fun _ => List.flatten

/-- The loop finds the first pair with the name, and leaves the list as it is. -/
theorem getLoop_eq (strName : Bytes) (l : ConfList) :
    getLoop strName l = (l, (l.flatten.lookup strName).getD []) := by
  induction l with
  | nil => rfl
  | cons i rest ih =>
    rw [getLoop, List.flatten_cons, List.lookup_append]
    cases hi : i.lookup strName with
    | some value =>
      rw [if_pos (by rfl), StdMap.index_of_lookup hi]
      rfl
    | none =>
      rw [if_neg (by simp), ih]
      rfl

/-- `getValue` is the search of the start of the Controller, and leaves the store as it is. -/
theorem getValue_eq (mapConf : Store) (strSection strName : Bytes) :
    getValue mapConf strSection strName =
      (((toMapConf mapConf).find strSection strName).getD [], mapConf) := by
  rw [getValue, MapConf.find, lookup_toMapConf]
  cases hlookup : mapConf.lookup strSection with
  | none => rfl
  | some listConf =>
    rw [if_pos (by rfl), StdMap.index_of_lookup hlookup]
    dsimp only
    rw [getLoop_eq, StdMap.modify_id fun l => congrArg Prod.fst (getLoop_eq strName l)]
    rfl

/-- `setConfig` is that of the start of the Controller. -/
theorem toMapConf_setConfig :
    toMapConf (setConfig mapConf strSection strName strValue) =
      (toMapConf mapConf).setConfig ⟨strSection, strName, strValue⟩ := by
  have hsome : ((toMapConf mapConf).lookup strSection).isSome =
      (mapConf.lookup strSection).isSome := by
    rw [lookup_toMapConf, Option.isSome_map]
  rw [setConfig, MapConf.setConfig, hsome]
  cases hlookup : mapConf.lookup strSection with
  | none =>
    -- a new section
    rw [if_neg (by simp), if_neg (by simp), StdMap.insert_of_lookup_eq_none hlookup, toMapConf,
      List.map_append]
    rfl
  | some listConf =>
    rw [if_pos (by rfl), if_pos (by rfl), StdMap.index_of_lookup hlookup, toMapConf, StdMap.modify,
      toMapConf, List.map_map, List.map_map]
    refine List.map_congr_left fun s _ => Prod.ext rfl ?_
    show List.flatten (if s.1 == strSection then _ else _) = if s.1 = strSection then _ else _
    by_cases hs : s.1 = strSection
    · rw [if_pos (beq_iff_eq.mpr hs), if_pos hs, List.flatten_append]
      rfl
    · rw [if_neg (fun h => hs (beq_iff_eq.mp h)), if_neg hs]

/-! ### Sequences of calls -/

/-- One call: a name in a section that has a value keeps it. -/
theorem find_after (mapConf : Store) (c : ConfigCall) :
    (toMapConf (after mapConf c)).find strSection strName =
      ((toMapConf mapConf).find strSection strName).or (binding strSection strName c) := by
  cases c with
  | setConfig strSection' strName' strValue =>
    rw [after, toMapConf_setConfig, MapConf.find_setConfig]
    rfl
  | getValue strSection' strName' => rw [after, getValue_eq, binding, Option.or_none]

/-- A sequence of calls: what is found is what was there, or what was set first. -/
theorem find_foldl_after (calls : List ConfigCall) :
    (toMapConf (calls.foldl after mapConf)).find strSection strName =
      ((toMapConf mapConf).find strSection strName).or
        (calls.findSome? (binding strSection strName)) := by
  induction calls generalizing mapConf with
  | nil => rw [List.foldl_nil, List.findSome?_nil, Option.or_none]
  | cons c calls ih =>
    rw [List.foldl_cons, ih, find_after, Option.or_assoc, List.findSome?_cons]
    cases binding strSection strName c <;> rfl

/-- Only the calls that set the name in the section matter. -/
theorem findSome?_binding_filter (calls : List ConfigCall) :
    (calls.filter fun c => (binding strSection strName c).isSome).findSome?
      (binding strSection strName) = calls.findSome? (binding strSection strName) := by
  induction calls with
  | nil => rfl
  | cons c calls ih =>
    rw [List.filter_cons, List.findSome?_cons]
    cases hc : binding strSection strName c with
    | none => rw [if_neg (by simp), ih]
    | some value =>
      rw [if_pos (by rfl), List.findSome?_cons, hc]

/-- **What is found is what was set first.** After any sequence of calls on a fresh store,
`getValue` gives the value of the first call that set the name in the section, or an empty text;
the calls for other names and sections, and those of `getValue`, make no difference; and `getValue`
leaves the store as it is. -/
theorem getValue_run (calls : List ConfigCall) (strSection strName : Bytes) :
    (getValue (run calls) strSection strName).1 =
        (calls.findSome? (binding strSection strName)).getD [] ∧
      (getValue (run calls) strSection strName).1 =
        (getValue (run (calls.filter fun c => (binding strSection strName c).isSome))
          strSection strName).1 ∧
      (getValue (run calls) strSection strName).2 = run calls := by
  have hfirst : ∀ calls : List ConfigCall, (getValue (run calls) strSection strName).1 =
      (calls.findSome? (binding strSection strName)).getD [] := by
    intro calls
    rw [getValue_eq, run, find_foldl_after]
    rfl
  refine ⟨hfirst calls, ?_, ?_⟩
  · rw [hfirst, hfirst, findSome?_binding_filter]
  · rw [getValue_eq]

end ControllerSystem.Controller.ConfStore
