import ControllerSystem.CJson.Roundtrip

/-!
# What is parsed can be printed

`parse_value` fills in the fields that the type of an item calls for: a string has its
`valuestring`, a member its name, and only an array or an object has a chain. The printing functions
read these fields without a look whether they are there.

* `wellFormed_of_parseWithOpts` — every item that `cJSON_ParseWithOpts` returns is well formed, all
  the way down.
* `print_parse` — what has been parsed is printed, formatted or not, if its `extent`, which bounds
  every size asked for, is not too large for an `int`.
-/

open Words TextPointer DecimalText

namespace ControllerSystem.CJson

variable {D : Type}

/-- The item has the fields that its type calls for, and so do the items in it. Names are for the
members of objects only. -/
inductive WellFormed : CJSON D → Prop
  | scalar {item : CJSON D} (htype : item.type ≤ typeNumber) (hint : IsInt item.valueint)
    (hchild : item.child = []) : WellFormed item
  | string {item : CJSON D} {s : Bytes} (htype : item.type = typeString)
    (hvalue : item.valuestring = some s) (hchild : item.child = []) : WellFormed item
  | array {item : CJSON D} (htype : item.type = typeArray)
    (hname : ∀ c ∈ item.child, c.string = none) (hchild : ∀ c ∈ item.child, WellFormed c) :
    WellFormed item
  | object {item : CJSON D} (htype : item.type = typeObject)
    (hname : ∀ c ∈ item.child, c.string.isSome) (hchild : ∀ c ∈ item.child, WellFormed c) :
    WellFormed item

/-- Conversions to `int` give an `int`, and the texts of doubles are as long as the standard has
them, with 53 bits and exponents of up to 308. -/
class CDouble.Fits (D : Type) [CDouble D] : Prop where
  toInt : ∀ d : D, IsInt (CDouble.toInt d)
  sprintf0f : ∀ d : D, CDouble.lt (CDouble.fabs d) (CDouble.literal 60) = true →
    (CDouble.sprintf0f d).length < 64
  sprintfE : ∀ d : D, (CDouble.sprintfE d).length < 64
  sprintfF : ∀ d : D, CDouble.lt (CDouble.literal 9) (CDouble.fabs d) = false →
    (CDouble.sprintfF d).length < 64

/-- The text of the integer part of a number below `10 ^ k`. -/
theorem length_floor_lt {d : ℚ} {k : ℕ} (hd : |d| < 10 ^ k) (hk : k < 62) :
    (ascii (toString ⌊d⌋)).length < 64 := by
  obtain ⟨hlow, hhigh⟩ := abs_lt.mp hd
  have hfloor : -(10 : ℤ) ^ k ≤ ⌊d⌋ := Int.le_floor.mpr (by push_cast; exact hlow.le)
  have hceil : ⌊d⌋ < (10 : ℤ) ^ k := Int.floor_lt.mpr (by push_cast; exact hhigh)
  have hpow : (10 : ℕ) ^ k < 10 ^ (k + 1) := Nat.pow_lt_pow_right (by decide) (Nat.lt_succ_self k)
  have habs : ⌊d⌋.natAbs ≤ 10 ^ k := by
    have hcast : ((10 ^ k : ℕ) : ℤ) = (10 : ℤ) ^ k := by push_cast; rfl
    omega
  have hlen := length_ascii_toString_le (Nat.succ_pos k) (lt_of_le_of_lt habs hpow)
  omega

instance : CDouble.Fits ℚ where
  toInt d := by
    simp only [CDouble.toInt, IsInt, intMin, intMax]
    omega
  sprintf0f d hd := length_floor_lt (k := 60) (of_decide_eq_true hd) (by decide)
  sprintfE d := lt_of_le_of_lt (List.length_take_le 63 _) (by decide)
  sprintfF d hd := by
    have hle : |d| ≤ 10 ^ (9 : ℤ) := not_lt.mp (of_decide_eq_false hd)
    exact length_floor_lt (k := 10) (lt_of_le_of_lt hle (by norm_num)) (by decide)

/-! ### Parsing -/

section Parse

/-- A step that is done, and the rest. -/
theorem done_of_bind {α β : Type} {x : Outcome α} {f : α → Outcome β} {b : β}
    (h : (x >>= f) = .done b) : ∃ a, x = .done a ∧ f a = .done b := by
  cases x with
  | done a => exact ⟨a, rfl, h⟩
  | failed ep => cases h
  | undefined => cases h
  | outOfFuel => cases h

theorem parseString_done {item item' : CJSON D} {t r : Bytes}
    (h : parseString item t = .done (item', r)) :
    ∃ out, item' = { item with valuestring := some out, type := typeString } := by
  rcases parseString_cases item t with hfail | hundef | ⟨-, out, ptr, -, hdone⟩
  · rw [hfail] at h
    cases h
  · rw [hundef] at h
    cases h
  · rw [hdone] at h
    cases h
    exact ⟨out, rfl⟩

variable [CDouble D] [CDouble.Fits D]

/-- An item as it goes in. -/
structure Blank (item : CJSON D) : Prop where
  valueint : IsInt item.valueint
  child : item.child = []

omit [CDouble.Fits D] in
theorem blank_newItem : Blank (newItem : CJSON D) := ⟨show IsInt 0 by decide, rfl⟩

/-- Every item that comes out is well formed, if the items that go in have no chain. The name that
goes in comes out again. -/
theorem parse_wellFormed (fuel : ℕ) :
    (∀ (item item' : CJSON D) value r, Blank item →
      parseValue fuel item value = .done (item', r) →
        WellFormed item' ∧ item'.string = item.string) ∧
    (∀ (item item' : CJSON D) value r, Blank item →
      parseArray fuel item value = .done (item', r) →
        WellFormed item' ∧ item'.string = item.string) ∧
    (∀ (child : List (CJSON D)) value r, parseElements fuel value = .done (child, r) →
      (∀ c ∈ child, c.string = none) ∧ ∀ c ∈ child, WellFormed c) ∧
    (∀ (item item' : CJSON D) value r, Blank item →
      parseObject fuel item value = .done (item', r) →
        WellFormed item' ∧ item'.string = item.string) ∧
    ∀ (child : List (CJSON D)) value r, parseMembers fuel value = .done (child, r) →
      (∀ c ∈ child, c.string.isSome) ∧ ∀ c ∈ child, WellFormed c := by
  induction fuel with
  | zero =>
    refine ⟨fun _ _ _ _ _ h => ?_, fun _ _ _ _ _ h => ?_, fun _ _ _ h => ?_,
      fun _ _ _ _ _ h => ?_, fun _ _ _ h => ?_⟩ <;> cases h
  | succ fuel ih =>
    obtain ⟨ihValue, ihArray, ihElements, ihObject, ihMembers⟩ := ih
    refine ⟨fun item item' value r hblank h => ?_, fun item item' value r hblank h => ?_,
      fun child value r h => ?_, fun item item' value r hblank h => ?_, fun child value r h => ?_⟩
    · rw [parseValue] at h
      split_ifs at h with hnull hfalse htrue hquote hnum harray hobject
      · cases h
        exact ⟨.scalar (show 2 ≤ 3 by omega) hblank.valueint hblank.child, rfl⟩
      · cases h
        exact ⟨.scalar (show 0 ≤ 3 by omega) hblank.valueint hblank.child, rfl⟩
      · cases h
        exact ⟨.scalar (show 1 ≤ 3 by omega) (show IsInt 1 by decide) hblank.child, rfl⟩
      · obtain ⟨out, rfl⟩ := parseString_done h
        exact ⟨.string rfl rfl hblank.child, rfl⟩
      · cases h
        exact ⟨.scalar (Nat.le_refl _) (CDouble.Fits.toInt _) hblank.child, rfl⟩
      · exact ihArray item item' value r hblank h
      · exact ihObject item item' value r hblank h
    · rw [parseArray] at h
      dsimp only at h
      split_ifs at h
      · cases h
        exact ⟨.array rfl (by simp [hblank.child]) (by simp [hblank.child]), rfl⟩
      · obtain ⟨⟨child, value'⟩, helements, h⟩ := done_of_bind h
        cases h
        obtain ⟨hname, hwell⟩ := ihElements child _ _ helements
        exact ⟨.array rfl hname hwell, rfl⟩
    · rw [parseElements] at h
      obtain ⟨⟨c, value'⟩, hvalue, h⟩ := done_of_bind h
      obtain ⟨hc, hnone⟩ := ihValue newItem c _ _ blank_newItem hvalue
      dsimp only at h
      split_ifs at h
      · obtain ⟨⟨next, value''⟩, helements, h⟩ := done_of_bind h
        cases h
        obtain ⟨hnames, hwell⟩ := ihElements next _ _ helements
        exact ⟨List.forall_mem_cons.mpr ⟨hnone, hnames⟩, List.forall_mem_cons.mpr ⟨hc, hwell⟩⟩
      · cases h
        exact ⟨List.forall_mem_singleton.mpr hnone, List.forall_mem_singleton.mpr hc⟩
    · rw [parseObject] at h
      dsimp only at h
      split_ifs at h
      · cases h
        exact ⟨.object rfl (by simp [hblank.child]) (by simp [hblank.child]), rfl⟩
      · obtain ⟨⟨child, value'⟩, hmembers, h⟩ := done_of_bind h
        cases h
        obtain ⟨hname, hwell⟩ := ihMembers child _ _ hmembers
        exact ⟨.object rfl hname hwell, rfl⟩
    · rw [parseMembers] at h
      obtain ⟨⟨c₀, value'⟩, hstring, h⟩ := done_of_bind h
      obtain ⟨out, rfl⟩ := parseString_done hstring
      dsimp only at h
      split_ifs at h
      obtain ⟨⟨c, value''⟩, hvalue, h⟩ := done_of_bind h
      obtain ⟨hc, hname⟩ := ihValue _ c _ _ ⟨show IsInt 0 by decide, rfl⟩ hvalue
      have hsome : c.string.isSome := by rw [hname]; rfl
      dsimp only at h
      split_ifs at h
      · obtain ⟨⟨next, value'''⟩, hmembers, h⟩ := done_of_bind h
        cases h
        obtain ⟨hnames, hwell⟩ := ihMembers next _ _ hmembers
        exact ⟨List.forall_mem_cons.mpr ⟨hsome, hnames⟩, List.forall_mem_cons.mpr ⟨hc, hwell⟩⟩
      · cases h
        exact ⟨List.forall_mem_singleton.mpr hsome, List.forall_mem_singleton.mpr hc⟩

/-- Every item that `cJSON_ParseWithOpts` returns is well formed. -/
theorem wellFormed_of_parseWithOpts {value r : Bytes} {requireNullTerminated : Bool}
    {item : CJSON D}
    (h : parseWithOpts value requireNullTerminated = .done (item, r)) : WellFormed item := by
  rw [parseWithOpts] at h
  obtain ⟨⟨c, parseEnd⟩, hvalue, h⟩ := done_of_bind h
  obtain ⟨hc, -⟩ := (parse_wellFormed _).1 newItem c _ _ blank_newItem hvalue
  dsimp only at h
  split_ifs at h <;> cases h <;> exact hc

end Parse

/-! ### Printing -/

mutual

/-- Bytes for the text of an item: 128 for each item, two for each level it is in, and six for each
byte of its strings. -/
def CJSON.extent (depth : ℕ) : CJSON D → ℕ
  | { type := _, valuestring, valueint := _, valuedouble := _, string, child } =>
    128 + 2 * depth + 6 * (valuestring.getD []).length + 6 * (string.getD []).length +
      extents (depth + 1) child

/-- Bytes for the texts of a chain. -/
def extents (depth : ℕ) : List (CJSON D) → ℕ
  | [] => 0
  | child :: next => child.extent depth + extents depth next

end

theorem CJSON.extent_eq (depth : ℕ) (item : CJSON D) :
    item.extent depth = 128 + 2 * depth + 6 * (item.valuestring.getD []).length +
      6 * (item.string.getD []).length + extents (depth + 1) item.child := by
  cases item
  rw [extent]

theorem extent_le_extents {depth : ℕ} {child : List (CJSON D)} {c : CJSON D} (hc : c ∈ child) :
    c.extent depth ≤ extents depth child := by
  induction child with
  | nil => cases hc
  | cons c' next ih =>
    rw [extents]
    rcases List.mem_cons.mp hc with rfl | hc
    · exact Nat.le_add_right _ _
    · exact (ih hc).trans (Nat.le_add_left _ _)

/-- A character takes six bytes at most. -/
theorem length_quoted_le (s : Bytes) : (quoted s).length ≤ 6 * s.length + 2 := by
  have hsum : (s.flatMap printChar).length ≤ 6 * s.length := by
    induction s with
    | nil => exact Nat.le_refl 0
    | cons c s ih =>
      have hchar : (printChar c).length ≤ 6 := by
        rw [length_printChar, printCharLen]
        split_ifs <;> decide
      rw [List.flatMap_cons, List.length_append, List.length_cons]
      omega
  rw [quoted, List.length_append, List.length_cons, List.length_singleton]
  omega

section Print

variable [CDouble D]

/-- The item is printed, and what it takes as a member of an object is no more than its extent. -/
def Printable (fmt : Bool) (depth : ℕ) (item : CJSON D) : Prop :=
  ∃ text, printValue fmt depth item = .ok text ∧
    text.length + depth + 6 * (item.string.getD []).length + 64 ≤ item.extent depth

theorem printEntries_ok {fmt : Bool} {depth : ℕ} {child : List (CJSON D)}
    (hchild : ∀ c ∈ child, Printable fmt depth c) :
    ∃ entries, printEntries fmt depth child = .ok entries ∧
      (entriesText fmt entries).length ≤ extents depth child := by
  suffices hsum : ∃ entries, printEntries fmt depth child = .ok entries ∧
      (entries.map fun ret => ret.length + 2 + if fmt then 1 else 0).sum ≤ extents depth child by
    obtain ⟨entries, hentries, hle⟩ := hsum
    exact ⟨entries, hentries, (sum_entries fmt entries).1.trans hle⟩
  induction child with
  | nil => exact ⟨[], rfl, Nat.le_refl 0⟩
  | cons c next ih =>
    obtain ⟨⟨ret, hret, hlen⟩, hnext⟩ := List.forall_mem_cons.mp hchild
    obtain ⟨entries, hentries, hle⟩ := ih hnext
    refine ⟨ret :: entries, by rw [printEntries, hret, hentries]; rfl, ?_⟩
    rw [List.map_cons, List.sum_cons, extents]
    refine Nat.add_le_add ?_ hle
    split_ifs <;> omega

theorem printMembers_ok {fmt : Bool} {depth : ℕ} {child : List (CJSON D)}
    (hname : ∀ c ∈ child, c.string.isSome) (hchild : ∀ c ∈ child, Printable fmt depth c)
    (hsize : extents depth child ≤ 1073741824) :
    ∃ members, printMembers fmt depth child = .ok members ∧
      (membersText fmt depth members).length ≤ extents depth child := by
  suffices hsum : ∃ members, printMembers fmt depth child = .ok members ∧
      (members.map fun m => m.2.length + m.1.length + 2 + if fmt then 2 + depth else 0).sum ≤
        extents depth child by
    obtain ⟨members, hmembers, hle⟩ := hsum
    exact ⟨members, hmembers, (sum_members fmt depth members).1.trans hle⟩
  induction child with
  | nil => exact ⟨[], rfl, Nat.le_refl 0⟩
  | cons c next ih =>
    obtain ⟨hsome, hnames⟩ := List.forall_mem_cons.mp hname
    obtain ⟨⟨ret, hret, hlen⟩, hnext⟩ := List.forall_mem_cons.mp hchild
    obtain ⟨s, hs⟩ := Option.isSome_iff_exists.mp hsome
    rw [extents] at hsize
    obtain ⟨members, hmembers, hle⟩ := ih hnames hnext (by omega)
    have hextent := c.extent_eq depth
    have hquoted := length_quoted_le s
    rw [hs, Option.getD_some] at hlen hextent
    have hstr : printStringPtr fill c.string = .ok (quoted s) := by
      rw [hs]
      exact (printString_prints s).ok (by omega)
    refine ⟨(quoted s, ret) :: members, by rw [printMembers, hstr, hret, hmembers]; rfl, ?_⟩
    rw [List.map_cons, List.sum_cons, extents]
    refine Nat.add_le_add ?_ hle
    dsimp only
    split_ifs <;> omega

variable [CDouble.Fits D]

theorem printNumber_ok {valueint : ℤ} (hint : IsInt valueint) (d : D) :
    ∃ text, printNumber fill valueint d = .ok text ∧ text.length < 64 := by
  simp only [IsInt, intMin, intMax] at hint
  have hfill : ∀ text : Bytes, text.length < 64 →
      ∃ text', fill 64 text = .ok text' ∧ text'.length < 64 := fun text hlen =>
    ⟨text, fill_eq (by decide) hlen, hlen⟩
  rw [printNumber]
  split_ifs with hzero hnear hwhole hsize
  · exact ⟨ascii "0", rfl, by decide⟩
  · have hlen := length_ascii_toString_le (i := valueint) (k := 10) (by omega) (by omega)
    exact ⟨_, fill_eq (by decide) (by omega), by omega⟩
  · rw [Bool.and_eq_true] at hwhole
    exact hfill _ (CDouble.Fits.sprintf0f d hwhole.2)
  · exact hfill _ (CDouble.Fits.sprintfE d)
  · rw [Bool.or_eq_true, not_or, Bool.not_eq_true, Bool.not_eq_true] at hsize
    exact hfill _ (CDouble.Fits.sprintfF d hsize.2)

/-- A well-formed item is printed. -/
theorem WellFormed.printable {item : CJSON D} (h : WellFormed item) (fmt : Bool) (depth : ℕ)
    (hsize : item.extent depth ≤ 1073741824) : Printable fmt depth item := by
  induction h generalizing depth with
  | @scalar item htype hint hchild =>
    obtain ⟨type, valuestring, valueint, valuedouble, string, child⟩ := item
    simp only [typeNumber] at htype hint
    simp only [Printable, CJson.printValue, Nat.mod_eq_of_lt (show type < 256 by omega),
      CJSON.extent]
    rcases type with - | - | - | - | type
    · exact ⟨ascii "false", rfl, by rw [show (ascii "false").length = 5 from rfl]; omega⟩
    · exact ⟨ascii "true", rfl, by rw [show (ascii "true").length = 4 from rfl]; omega⟩
    · exact ⟨ascii "null", rfl, by rw [show (ascii "null").length = 4 from rfl]; omega⟩
    · obtain ⟨text, hprint, hlen⟩ := printNumber_ok hint valuedouble
      exact ⟨text, hprint, by omega⟩
    · omega
  | @string item s htype hvalue hchild =>
    obtain ⟨type, valuestring, valueint, valuedouble, string, child⟩ := item
    obtain rfl : type = 4 := htype
    obtain rfl : valuestring = some s := hvalue
    have hquoted := length_quoted_le s
    simp only [CJSON.extent, Option.getD_some] at hsize
    refine ⟨quoted s, (printString_prints s).ok (by omega), ?_⟩
    simp only [CJSON.extent, Option.getD_some]
    omega
  | @array item htype hname hchild ih =>
    obtain ⟨type, valuestring, valueint, valuedouble, string, child⟩ := item
    obtain rfl : type = 5 := htype
    simp only [CJSON.extent] at hsize
    have hprintable : ∀ c ∈ child, Printable fmt (depth + 1) c := fun c hc =>
      ih c hc (depth + 1) ((extent_le_extents hc).trans (by omega))
    obtain ⟨entries, hentries, hle⟩ := printEntries_ok hprintable
    have hlen := length_arrayText fmt entries
    refine ⟨arrayText fmt entries, ?_, ?_⟩
    · show printEntries fmt (depth + 1) child >>= printArray fmt = _
      rw [hentries]
      exact (printArray_prints fmt entries).ok (by omega)
    · simp only [CJSON.extent]
      omega
  | @object item htype hname hchild ih =>
    obtain ⟨type, valuestring, valueint, valuedouble, string, child⟩ := item
    obtain rfl : type = 6 := htype
    change ∀ c ∈ child, c.string.isSome at hname
    simp only [CJSON.extent] at hsize
    have hprintable : ∀ c ∈ child, Printable fmt (depth + 1) c := fun c hc =>
      ih c hc (depth + 1) ((extent_le_extents hc).trans (by omega))
    obtain ⟨members, hmembers, hle⟩ := printMembers_ok hname hprintable (by omega)
    have hlen : (objectText fmt depth members).length ≤
        (membersText fmt (depth + 1) members).length + depth + 3 := by
      simp only [objectText, List.length_append, List.length_cons, List.length_nil, length_tabs]
      split_ifs <;> simp only [List.length_cons, List.length_nil] <;> omega
    refine ⟨objectText fmt depth members, ?_, ?_⟩
    · show printMembers fmt (depth + 1) child >>= printObject fmt depth = _
      rw [hmembers]
      exact (printObject_prints fmt depth members).ok (by omega)
    · simp only [CJSON.extent]
      omega

/-- **What is parsed can be printed.** Whatever the text, an item that `cJSON_Parse` returns is
printed by `cJSON_Print` and `cJSON_PrintUnformatted`: nothing is missing, and every block has room.
Here the item is so small that every size fits into an `int`. -/
theorem print_parse {value : Bytes} {item : CJSON D} (h : parse value = .done item)
    (hsize : item.extent 0 ≤ 1073741824) :
    (∃ text, print item = .ok text) ∧ ∃ text, printUnformatted item = .ok text := by
  obtain ⟨⟨c, parseEnd⟩, hparse, h⟩ := done_of_bind h
  cases h
  have hwell := wellFormed_of_parseWithOpts hparse
  obtain ⟨text, htext, -⟩ := hwell.printable true 0 hsize
  obtain ⟨text', htext', -⟩ := hwell.printable false 0 hsize
  exact ⟨⟨text, htext⟩, text', htext'⟩

/-- An array of a number, a string and an object. -/
def someArray : Json :=
  .arr [.num ⟨-12, by decide⟩, .str ⟨[34, 92, 10], by decide⟩,
    .obj [(⟨ascii "n", by decide⟩, .num ⟨7, by decide⟩), (⟨ascii "b", by decide⟩, .bool true)]]

theorem print_parse_array : ∃ item : CJSON ℚ,
    parse (someArray.text true 0) = .done item ∧ Represents someArray item ∧
      (∃ text, print item = .ok text) ∧ ∃ text, printUnformatted item = .ok text := by
  have hint : (someArray.text true 0).length ≤ sizeMax := by decide +kernel
  obtain ⟨item, hparse, hitem⟩ := parseWithOpts_text (D := ℚ) hint false
  have hdone : parse (someArray.text true 0) = .done item := by
    rw [parse, hparse]
    rfl
  have hextent : (match (parse (someArray.text true 0) : Outcome (CJSON ℚ)) with
      | .done item => decide (item.extent 0 ≤ 1073741824)
      | _ => false) = true := by decide +kernel
  rw [hdone] at hextent
  exact ⟨item, hdone, hitem, print_parse hdone (of_decide_eq_true hextent)⟩

end Print

end ControllerSystem.CJson
