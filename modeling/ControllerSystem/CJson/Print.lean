import ControllerSystem.CJson.Strings
import ControllerSystem.Lib.DecimalText

/-!
# Printing JSON texts

`print_value` prints an item into a block of its own, `print_array` and `print_object` the items of
the chain first and then the text they are in, whose size has been added up from theirs.

A `Json` is what an item means: numbers are the integers of an `int`, strings have no NUL.
`Represents` says which items mean it, and `Json.text` is its text, with tabs and line ends or
without.

* `printValue_prints` — an item is printed as the text of what it represents, and every block has
  room for what is written into it, as long as the sizes are in an `int`.
-/

open Words DecimalText

namespace ControllerSystem.CJson

/-! ### `print_value` -/

variable {D : Type} [CDouble D]

/-- `print_number`. The text goes to `out`, with the size asked for. -/
def printNumber {R : Type} (out : ℕ → Bytes → Except PrintError R) (valueint : ℤ) (d : D) :
    Except PrintError R :=
  if CDouble.eq d (CDouble.ofInt 0) then out 2 (ascii "0")
  else if CDouble.le (CDouble.fabs (CDouble.sub (CDouble.ofInt valueint) d)) CDouble.DBL_EPSILON &&
      CDouble.le d (CDouble.ofInt intMax) && CDouble.le (CDouble.ofInt intMin) d then
    out 21 (ascii (toString valueint))
  else
    out 64 <|
      if CDouble.le (CDouble.fabs (CDouble.sub (CDouble.floor d) d)) CDouble.DBL_EPSILON &&
          CDouble.lt (CDouble.fabs d) (CDouble.literal 60) then CDouble.sprintf0f d
      else if CDouble.lt (CDouble.fabs d) (CDouble.literal (-6)) ||
          CDouble.lt (CDouble.literal 9) (CDouble.fabs d) then CDouble.sprintfE d
      else CDouble.sprintfF d

/-- Tabs, in a formatted text. -/
def tabs (fmt : Bool) (n : ℕ) : Bytes := if fmt then List.replicate n 9 else []

/-- The entries with a comma between them. -/
def entriesText (fmt : Bool) : List Bytes → Bytes
  | [] => []
  | [ret] => ret
  | ret :: entries => ret ++ (if fmt then [44, 32] else [44]) ++ entriesText fmt entries

/-- The text of an array. -/
def arrayText (fmt : Bool) (entries : List Bytes) : Bytes := 91 :: entriesText fmt entries ++ [93]

/-- `print_array`, with the texts of the entries. -/
def printArray (fmt : Bool) (entries : List Bytes) : Except PrintError Bytes :=
  if entries.isEmpty then fill 3 (ascii "[]")
  else
    fill (5 + (entries.map fun ret => ret.length + 2 + if fmt then 1 else 0).sum)
      (arrayText fmt entries)

/-- The members, each with its comma and in a formatted text on a line of its own. -/
def membersText (fmt : Bool) (depth : ℕ) : List (Bytes × Bytes) → Bytes
  | [] => []
  | (str, ret) :: members =>
    tabs fmt depth ++ str ++ [58] ++ tabs fmt 1 ++ ret ++ (if members.isEmpty then [] else [44]) ++
      (if fmt then [10] else []) ++ membersText fmt depth members

/-- The text of an object. -/
def objectText (fmt : Bool) (depth : ℕ) (members : List (Bytes × Bytes)) : Bytes :=
  123 :: (if fmt then [10] else []) ++ membersText fmt (depth + 1) members ++
    tabs fmt (if members.isEmpty then depth - 1 else depth) ++ [125]

/-- `print_object`, with the texts of the names and of the values. -/
def printObject (fmt : Bool) (depth : ℕ) (members : List (Bytes × Bytes)) :
    Except PrintError Bytes :=
  if members.isEmpty then fill (if fmt then depth + 4 else 3) (objectText fmt depth [])
  else
    fill
      (7 + (if fmt then depth + 1 else 0) + (members.map fun m =>
        m.2.length + m.1.length + 2 + if fmt then 2 + (depth + 1) else 0).sum)
      (objectText fmt depth members)

/-- A name and a value that have been printed, before those behind them. The loop goes on where one
of them is `NULL`, but not behind an access through `NULL`. -/
def printMember (str ret : Except PrintError Bytes)
    (members : Except PrintError (List (Bytes × Bytes))) :
    Except PrintError (List (Bytes × Bytes)) :=
  match str, ret, members with
  | .ok str, .ok ret, .ok members => .ok ((str, ret) :: members)
  | .error .undefined, _, _ => .error .undefined
  | _, .error .undefined, _ => .error .undefined
  | _, _, .error .undefined => .error .undefined
  | _, _, _ => .error .null

mutual

/-- `print_value`. -/
def printValue (fmt : Bool) (depth : ℕ) : CJSON D → Except PrintError Bytes
  | { type, valuestring, valueint, valuedouble, string := _, child } =>
    match type % 256 with
    | 0 => .ok (ascii "false")
    | 1 => .ok (ascii "true")
    | 2 => .ok (ascii "null")
    | 3 => printNumber fill valueint valuedouble
    | 4 => printStringPtr fill valuestring
    | 5 => printEntries fmt (depth + 1) child >>= printArray fmt
    | 6 => printMembers fmt (depth + 1) child >>= printObject fmt depth
    | _ => .error .null

/-- The entries of an array, up to one that is not printed. -/
def printEntries (fmt : Bool) (depth : ℕ) : List (CJSON D) → Except PrintError (List Bytes)
  | [] => .ok []
  | child :: next => do
    let ret ← printValue fmt depth child
    let entries ← printEntries fmt depth next
    return ret :: entries

/-- The members of an object. -/
def printMembers (fmt : Bool) (depth : ℕ) :
    List (CJSON D) → Except PrintError (List (Bytes × Bytes))
  | [] => .ok []
  | child :: next =>
    printMember (printStringPtr fill child.string) (printValue fmt depth child)
      (printMembers fmt depth next)

end

/-- `cJSON_Print`. -/
def print (item : CJSON D) : Except PrintError Bytes := printValue true 0 item

/-- `cJSON_PrintUnformatted`. -/
def printUnformatted (item : CJSON D) : Except PrintError Bytes := printValue false 0 item

/-! ### What an item means -/

/-- A string without a NUL. -/
abbrev CText := { s : Bytes // 0 ∉ s }

/-- The values of an `int`. -/
abbrev CInt := { i : ℤ // IsInt i }

/-- A JSON value. -/
inductive Json
  | null
  | bool (b : Bool)
  | num (i : CInt)
  | str (s : CText)
  | arr (elements : List Json)
  | obj (members : List (CText × Json))

mutual

/-- The item means this value. Flags of the item, and fields that its type does not use, mean
nothing. -/
def Represents : Json → CJSON D → Prop
  | .null, item => item.type % 256 = typeNULL
  | .bool b, item => item.type % 256 = if b then typeTrue else typeFalse
  | .num i, item =>
    item.type % 256 = typeNumber ∧ item.valueint = i.1 ∧ item.valuedouble = CDouble.ofInt i.1
  | .str s, item => item.type % 256 = typeString ∧ item.valuestring = some s.1
  | .arr elements, item => item.type % 256 = typeArray ∧ RepresentsElements elements item.child
  | .obj members, item => item.type % 256 = typeObject ∧ RepresentsMembers members item.child

/-- The chain has an item for each element. -/
def RepresentsElements : List Json → List (CJSON D) → Prop
  | [], [] => True
  | j :: elements, child :: next => Represents j child ∧ RepresentsElements elements next
  | _, _ => False

/-- The chain has an item with the name of the member for each member. -/
def RepresentsMembers : List (CText × Json) → List (CJSON D) → Prop
  | [], [] => True
  | (name, j) :: members, child :: next =>
    child.string = some name.1 ∧ Represents j child ∧ RepresentsMembers members next
  | _, _ => False

end

mutual

/-- The text of a value, at some depth. -/
def Json.text (fmt : Bool) (depth : ℕ) : Json → Bytes
  | .null => ascii "null"
  | .bool b => if b then ascii "true" else ascii "false"
  | .num i => ascii (toString i.1)
  | .str s => quoted s.1
  | .arr elements => arrayText fmt (elementTexts fmt (depth + 1) elements)
  | .obj members => objectText fmt depth (memberTexts fmt (depth + 1) members)

/-- The texts of the elements of an array. -/
def elementTexts (fmt : Bool) (depth : ℕ) : List Json → List Bytes
  | [] => []
  | j :: elements => j.text fmt depth :: elementTexts fmt depth elements

/-- The texts of the names and of the values of an object. -/
def memberTexts (fmt : Bool) (depth : ℕ) : List (CText × Json) → List (Bytes × Bytes)
  | [] => []
  | (name, j) :: members => (quoted name.1, j.text fmt depth) :: memberTexts fmt depth members

end

/-! ### No NUL -/

section Nul

theorem zero_notMem_tabs (fmt : Bool) (n : ℕ) : 0 ∉ tabs fmt n := by
  cases fmt <;> simp [tabs]

theorem zero_notMem_quoted {s : Bytes} (hs : 0 ∉ s) : 0 ∉ quoted s := by
  have hchar : ∀ c ∈ s, 0 ∉ printChar c := fun c hc => zero_notMem_printChar fun h => hs (h ▸ hc)
  simpa [quoted] using hchar

theorem zero_notMem_toString (i : ℤ) : 0 ∉ ascii (toString i) := by
  have hnat : ∀ n : ℕ, 0 ∉ natText n := fun n h =>
    absurd (natText_digits n 0 h).1 (by decide)
  rw [ascii_toString]
  split_ifs
  · exact hnat _
  · simpa using hnat _

theorem zero_notMem_entriesText (fmt : Bool) {entries : List Bytes} (h : ∀ ret ∈ entries, 0 ∉ ret) :
    0 ∉ entriesText fmt entries := by
  induction entries using entriesText.induct with
  | case1 => exact List.not_mem_nil
  | case2 ret => exact h ret (List.mem_singleton_self ret)
  | case3 ret entries hne ih =>
    obtain ⟨hret, hentries⟩ := List.forall_mem_cons.mp h
    have ih := ih hentries
    rw [entriesText]
    · cases fmt <;> simp [hret, ih]
    · exact hne

theorem zero_notMem_membersText (fmt : Bool) (depth : ℕ) {members : List (Bytes × Bytes)}
    (h : ∀ m ∈ members, 0 ∉ m.1 ∧ 0 ∉ m.2) : 0 ∉ membersText fmt depth members := by
  induction members with
  | nil => exact List.not_mem_nil
  | cons m members ih =>
    obtain ⟨⟨hstr, hret⟩, hmembers⟩ := List.forall_mem_cons.mp h
    have hend : 0 ∉ (if members.isEmpty then [] else [44] : Bytes) := by split_ifs <;> decide
    have hline : 0 ∉ (if fmt then [10] else [] : Bytes) := by split_ifs <;> decide
    simp only [membersText, List.mem_append, not_or]
    exact ⟨⟨⟨⟨⟨⟨⟨zero_notMem_tabs _ _, hstr⟩, by decide⟩, zero_notMem_tabs _ _⟩, hret⟩, hend⟩,
      hline⟩, ih hmembers⟩

mutual

/-- The text of a value is a C string. -/
theorem zero_notMem_text (fmt : Bool) (depth : ℕ) (j : Json) : 0 ∉ j.text fmt depth := by
  cases j with
  | null => rw [Json.text]; decide
  | bool b => cases b <;> rw [Json.text] <;> decide
  | num i => exact zero_notMem_toString i.1
  | str s => exact zero_notMem_quoted s.2
  | arr elements =>
    have h := zero_notMem_entriesText fmt (zero_notMem_elementTexts fmt (depth + 1) elements)
    simpa [Json.text, arrayText] using h
  | obj members =>
    have h := zero_notMem_membersText fmt (depth + 1)
      (zero_notMem_memberTexts fmt (depth + 1) members)
    have hline : 0 ∉ (if fmt then [10] else [] : Bytes) := by split_ifs <;> decide
    rw [Json.text, objectText]
    simp only [List.mem_append, List.mem_cons, not_or, List.not_mem_nil, not_false_eq_true,
      and_true]
    exact ⟨⟨⟨⟨by decide, hline⟩, h⟩, zero_notMem_tabs _ _⟩, by decide⟩

theorem zero_notMem_elementTexts (fmt : Bool) (depth : ℕ) (elements : List Json) :
    ∀ ret ∈ elementTexts fmt depth elements, 0 ∉ ret := by
  match elements with
  | [] => exact nofun
  | j :: elements =>
    exact List.forall_mem_cons.mpr
      ⟨zero_notMem_text fmt depth j, zero_notMem_elementTexts fmt depth elements⟩

theorem zero_notMem_memberTexts (fmt : Bool) (depth : ℕ) (members : List (CText × Json)) :
    ∀ m ∈ memberTexts fmt depth members, 0 ∉ m.1 ∧ 0 ∉ m.2 := by
  match members with
  | [] => exact nofun
  | (name, j) :: members =>
    exact List.forall_mem_cons.mpr ⟨⟨zero_notMem_quoted name.2, zero_notMem_text fmt depth j⟩,
      zero_notMem_memberTexts fmt depth members⟩

end

end Nul

/-! ### Every block has room -/

section Room

theorem length_tabs (fmt : Bool) (n : ℕ) : (tabs fmt n).length = if fmt then n else 0 := by
  cases fmt <;> simp [tabs]

/-- A text so long that the size of a block for it need not be an `int`. -/
def TooLong (text : Bytes) : Prop := 1073741824 < text.length + 64

theorem TooLong.mono {text text' : Bytes} (h : TooLong text) (hle : text.length ≤ text'.length) :
    TooLong text' := by
  rw [TooLong] at h ⊢
  omega

/-- What printing a text comes to: the text, whose length is then an `int`, or a size that is not an
`int`. -/
def Prints (x : Except PrintError Bytes) (text : Bytes) : Prop :=
  x = .ok text ∧ text.length ≤ sizeMax ∨ x = .error .undefined ∧ TooLong text

theorem Prints.eq_of_ok {x : Except PrintError Bytes} {text text' : Bytes} (h : Prints x text)
    (hok : x = .ok text') : text' = text := by
  rcases h with ⟨hx, -⟩ | ⟨hx, -⟩
  · rw [hx] at hok
    exact (Except.ok.inj hok).symm
  · rw [hx] at hok
    cases hok

/-- A text of up to `2 ^ 30 - 64` bytes is printed. -/
theorem Prints.ok {x : Except PrintError Bytes} {text : Bytes} (h : Prints x text)
    (hsize : text.length + 64 ≤ 1073741824) : x = .ok text := by
  rcases h with ⟨hok, -⟩ | ⟨-, hlong⟩
  · exact hok
  · exact absurd hsize (Nat.not_le_of_lt hlong)

/-- A block with room for the text, and with twice as much and 64 bytes at most. -/
theorem fill_prints {size : ℕ} {text : Bytes} (hroom : text.length + 1 ≤ size)
    (hsize : size ≤ 2 * text.length + 64) : Prints (fill size text) text := by
  by_cases hint : size ≤ sizeMax
  · exact Or.inl ⟨fill_eq hint hroom, by omega⟩
  · refine Or.inr ⟨if_neg fun h => hint h.1, ?_⟩
    rw [sizeMax] at hint
    rw [TooLong]
    omega

/-- The room for the entries: a separator for each of them is more than enough, and no more than
twice what they take, since only the last one has none. -/
theorem sum_entries (fmt : Bool) (entries : List Bytes) :
    (entriesText fmt entries).length ≤
        (entries.map fun ret => ret.length + 2 + if fmt then 1 else 0).sum ∧
      (entries.map fun ret => ret.length + 2 + if fmt then 1 else 0).sum ≤
        2 * (entriesText fmt entries).length + 3 := by
  induction entries using entriesText.induct with
  | case1 => exact ⟨Nat.le_refl 0, Nat.zero_le _⟩
  | case2 ret =>
    rw [entriesText, List.map_singleton, List.sum_singleton]
    split_ifs <;> omega
  | case3 ret entries hne ih =>
    rw [entriesText, List.length_append, List.length_append, List.map_cons, List.sum_cons]
    · split_ifs at ih ⊢ <;> simp only [List.length_cons, List.length_nil] <;> omega
    · exact hne

/-- What an entry and those behind it take. -/
theorem length_le_entriesText (fmt : Bool) (ret : Bytes) (entries : List Bytes) :
    ret.length ≤ (entriesText fmt (ret :: entries)).length ∧
      (entriesText fmt entries).length ≤ (entriesText fmt (ret :: entries)).length := by
  cases entries with
  | nil => exact ⟨Nat.le_refl _, Nat.zero_le _⟩
  | cons ret' entries =>
    rw [entriesText, List.length_append, List.length_append]
    · exact ⟨by omega, Nat.le_add_left _ _⟩
    · exact List.cons_ne_nil _ _

theorem length_arrayText (fmt : Bool) (entries : List Bytes) :
    (arrayText fmt entries).length = (entriesText fmt entries).length + 2 := by
  simp [arrayText]

theorem printArray_prints (fmt : Bool) (entries : List Bytes) :
    Prints (printArray fmt entries) (arrayText fmt entries) := by
  rw [printArray]
  by_cases hempty : entries.isEmpty
  · rw [if_pos hempty, List.isEmpty_iff.mp hempty]
    exact Or.inl ⟨rfl, show 2 ≤ sizeMax by decide⟩
  · rw [if_neg hempty]
    obtain ⟨hroom, hsize⟩ := sum_entries fmt entries
    have hlen := length_arrayText fmt entries
    exact fill_prints (by omega) (by omega)

/-- The room for the members, each with a colon, a tab, a comma and a line end: enough, and no more
than twice what they take. -/
theorem sum_members (fmt : Bool) (depth : ℕ) (members : List (Bytes × Bytes)) :
    (membersText fmt depth members).length ≤
        (members.map fun m => m.2.length + m.1.length + 2 + if fmt then 2 + depth else 0).sum ∧
      (members.map fun m => m.2.length + m.1.length + 2 + if fmt then 2 + depth else 0).sum ≤
        2 * (membersText fmt depth members).length := by
  induction members with
  | nil => exact ⟨Nat.le_refl 0, Nat.zero_le _⟩
  | cons m members ih =>
    obtain ⟨str, ret⟩ := m
    simp only [membersText, List.length_append, length_tabs, List.length_cons, List.length_nil,
      List.map_cons, List.sum_cons] at ih ⊢
    split_ifs at ih ⊢ <;> simp only [List.length_cons, List.length_nil] <;> omega

theorem printObject_prints (fmt : Bool) (depth : ℕ) (members : List (Bytes × Bytes)) :
    Prints (printObject fmt depth members) (objectText fmt depth members) := by
  rw [printObject]
  obtain ⟨hroom, hsize⟩ := sum_members fmt (depth + 1) members
  split_ifs with hempty hfmt hfmt
  · rw [List.isEmpty_iff.mp hempty]
    refine fill_prints ?_ ?_ <;>
      simp only [objectText, membersText, List.length_append, List.length_cons, List.length_nil,
        length_tabs, hfmt, if_true, List.isEmpty_nil] <;> omega
  · rw [List.isEmpty_iff.mp hempty]
    refine fill_prints ?_ ?_ <;> simp [objectText, membersText, length_tabs, hfmt]
  all_goals
    simp only [hfmt, if_true, Bool.false_eq_true, if_false] at hroom hsize
    refine fill_prints ?_ ?_ <;>
      simp only [hfmt, objectText, List.length_append, List.length_cons, List.length_nil,
        length_tabs, hempty, if_true, Bool.false_eq_true, if_false] <;> omega

/-- The numbers of an `int` are exact doubles. -/
theorem CInt.abs_le_maxExact (i : CInt) : |i.1| ≤ maxExact := by
  have hi := i.2
  simp only [IsInt, intMin, intMax] at hi
  rw [maxExact, abs_le]
  omega

theorem printNumber_prints [CDouble.Exact D] (i : CInt) :
    Prints (printNumber fill i.1 (CDouble.ofInt i.1 : D)) (ascii (toString i.1)) := by
  have hi := i.2
  simp only [IsInt, intMin, intMax] at hi
  have habs := CInt.abs_le_maxExact i
  rw [printNumber, CDouble.Exact.eq_zero _ habs]
  by_cases hzero : i.1 = 0
  · rw [if_pos (decide_eq_true hzero), hzero]
    exact Or.inl ⟨rfl, by decide⟩
  · -- the integer is as near to the double as can be
    have hnear : CDouble.le
        (CDouble.fabs (CDouble.sub (CDouble.ofInt i.1) (CDouble.ofInt i.1) : D))
          CDouble.DBL_EPSILON = true := by
      rw [CDouble.Exact.sub_ofInt _ _ habs habs (by simp [maxExact]), sub_self,
        CDouble.Exact.fabs_zero, CDouble.Exact.zero_le_epsilon]
    have hmax : CDouble.le (CDouble.ofInt i.1 : D) (CDouble.ofInt intMax) = true := by
      rw [CDouble.Exact.le_ofInt _ _ habs (by decide)]
      exact decide_eq_true i.2.2
    have hmin : CDouble.le (CDouble.ofInt intMin : D) (CDouble.ofInt i.1) = true := by
      rw [CDouble.Exact.le_ofInt _ _ (by decide) habs]
      exact decide_eq_true i.2.1
    rw [if_neg (by simpa using hzero), hnear, hmax, hmin]
    have hlen := length_ascii_toString_le (i := i.1) (k := 10) (by omega) (by omega)
    exact fill_prints (by omega) (by omega)

theorem printString_prints (s : Bytes) : Prints (printStringPtr fill (some s)) (quoted s) := by
  rw [printStringPtr_some]
  exact fill_prints (Nat.le_refl _) (by omega)

mutual

/-- **Printing.** An item that represents a value is printed as the text of the value, as long as
the sizes fit into an `int`. -/
theorem printValue_prints [CDouble.Exact D] (fmt : Bool) (depth : ℕ) (j : Json) (item : CJSON D)
    (h : Represents j item) : Prints (printValue fmt depth item) (j.text fmt depth) := by
  obtain ⟨type, valuestring, valueint, valuedouble, string, child⟩ := item
  cases j with
  | null =>
    simp only [Represents, typeNULL] at h
    simp only [printValue, h]
    exact Or.inl ⟨rfl, show 4 ≤ sizeMax by decide⟩
  | bool b =>
    simp only [Represents] at h
    cases b
    · simp only [Bool.false_eq_true, if_false, typeFalse] at h
      simp only [printValue, h]
      exact Or.inl ⟨rfl, show 5 ≤ sizeMax by decide⟩
    · simp only [if_true, typeTrue] at h
      simp only [printValue, h]
      exact Or.inl ⟨rfl, show 4 ≤ sizeMax by decide⟩
  | num i =>
    simp only [Represents, typeNumber] at h
    obtain ⟨htype, rfl, rfl⟩ := h
    simp only [printValue, htype]
    exact printNumber_prints i
  | str s =>
    simp only [Represents, typeString] at h
    obtain ⟨htype, rfl⟩ := h
    simp only [printValue, htype]
    exact printString_prints s.1
  | arr elements =>
    simp only [Represents, typeArray] at h
    simp only [printValue, h.1, Json.text]
    rcases printEntries_texts fmt (depth + 1) elements child h.2 with hok | ⟨herr, hlong⟩
    · rw [hok]
      exact printArray_prints fmt _
    · rw [herr]
      exact Or.inr ⟨rfl, hlong.mono (by rw [length_arrayText]; omega)⟩
  | obj members =>
    simp only [Represents, typeObject] at h
    simp only [printValue, h.1, Json.text]
    rcases printMembers_texts fmt (depth + 1) members child h.2 with hok | ⟨herr, hlong⟩
    · rw [hok]
      exact printObject_prints fmt depth _
    · rw [herr]
      refine Or.inr ⟨rfl, hlong.mono ?_⟩
      simp only [objectText, List.length_append]
      omega

theorem printEntries_texts [CDouble.Exact D] (fmt : Bool) (depth : ℕ) (elements : List Json)
    (child : List (CJSON D)) (h : RepresentsElements elements child) :
    printEntries fmt depth child = .ok (elementTexts fmt depth elements) ∨
      printEntries fmt depth child = .error .undefined ∧
        TooLong (entriesText fmt (elementTexts fmt depth elements)) := by
  match elements, child, h with
  | [], [], _ => exact Or.inl rfl
  | j :: elements, c :: next, ⟨hj, hnext⟩ =>
    have hlen := length_le_entriesText fmt (j.text fmt depth) (elementTexts fmt depth elements)
    rw [printEntries, elementTexts]
    rcases printValue_prints fmt depth j c hj with ⟨hret, -⟩ | ⟨hret, hlong⟩
    · rw [hret]
      rcases printEntries_texts fmt depth elements next hnext with hrest | ⟨hrest, hlong⟩
      · rw [hrest]
        exact Or.inl rfl
      · rw [hrest]
        exact Or.inr ⟨rfl, hlong.mono hlen.2⟩
    · rw [hret]
      exact Or.inr ⟨rfl, hlong.mono hlen.1⟩

theorem printMembers_texts [CDouble.Exact D] (fmt : Bool) (depth : ℕ)
    (members : List (CText × Json)) (child : List (CJSON D)) (h : RepresentsMembers members child) :
    printMembers fmt depth child = .ok (memberTexts fmt depth members) ∨
      printMembers fmt depth child = .error .undefined ∧
        TooLong (membersText fmt depth (memberTexts fmt depth members)) := by
  match members, child, h with
  | [], [], _ => exact Or.inl rfl
  | (name, j) :: members, c :: next, ⟨hname, hj, hnext⟩ =>
    rw [printMembers, hname, memberTexts]
    -- the name, the value or what is behind them
    have hlong : ∀ text : Bytes, TooLong text →
        text.length ≤ (quoted name.1).length + (j.text fmt depth).length +
          (membersText fmt depth (memberTexts fmt depth members)).length →
        TooLong (membersText fmt depth
          ((quoted name.1, j.text fmt depth) :: memberTexts fmt depth members)) := by
      intro text htext hle
      refine htext.mono (hle.trans ?_)
      simp only [membersText, List.length_append]
      omega
    rcases printString_prints name.1 with ⟨hstr, -⟩ | ⟨hstr, htext⟩
    · rcases printValue_prints fmt depth j c hj with ⟨hret, -⟩ | ⟨hret, htext⟩
      · rcases printMembers_texts fmt depth members next hnext with hrest | ⟨hrest, htext⟩
        · rw [hstr, hret, hrest]
          exact Or.inl rfl
        · rw [hstr, hret, hrest]
          exact Or.inr ⟨rfl, hlong _ htext (by omega)⟩
      · rw [hstr, hret]
        exact Or.inr ⟨rfl, hlong _ htext (by omega)⟩
    · rw [hstr]
      exact Or.inr ⟨rfl, hlong _ htext (by omega)⟩

end

end Room

end ControllerSystem.CJson
