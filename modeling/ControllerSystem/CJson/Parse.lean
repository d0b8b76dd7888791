import ControllerSystem.CJson.Strings
import ControllerSystem.Lib.DecimalText

/-!
# Parsing JSON texts

`parse_value` and its kin take a pointer into the text and return the one behind the value. An array
and an object are parsed one item after the other, and each item may be an array or an object again;
the recursion goes as deep as the text does, and three calls for each of its bytes are enough.

* `parseWithOpts_ends` — for every text whose length is an `int`, `cJSON_ParseWithOpts` comes to an
  end; it returns an item and a pointer into the text, or fails with the error pointer in the text.
  It leaves its memory only where some string in the text has an escape that is not complete.
* `parseWithOpts_defined` — it does not where every escape is complete.
-/

open Words TextPointer DecimalText

namespace ControllerSystem.CJson

variable {D : Type} [CDouble D]

/-- `skip`: jump whitespace and cr/lf. -/
def skip (t : Bytes) : Bytes := t.dropWhile (· ≤ 32)

/-! ### Numbers -/

/-- `do n=(n*10.0)+(*num++ -'0'); while (*num>='0' && *num<='9')`. -/
def readDigits (n : D) : Bytes → D × Bytes
  | [] => (n, [])
  | c :: num =>
    if IsDigit c then
      readDigits (CDouble.add (CDouble.mul n (CDouble.ofInt 10)) (CDouble.ofInt (c.toNat - 48))) num
    else (n, c :: num)

/-- The fractional part: `scale` goes down with each digit. -/
def readFraction (n scale : D) : Bytes → (D × D) × Bytes
  | [] => ((n, scale), [])
  | c :: num =>
    if IsDigit c then
      readFraction
        (CDouble.add (CDouble.mul n (CDouble.ofInt 10)) (CDouble.ofInt (c.toNat - 48)))
        (CDouble.sub scale (CDouble.ofInt 1)) num
    else ((n, scale), c :: num)

/-- The digits of the exponent, in an `int`. -/
def readSubscale (subscale : ℤ) : Bytes → ℤ × Bytes
  | [] => (subscale, [])
  | c :: num =>
    if IsDigit c then readSubscale ((subscale * 10 + (c.toNat - 48)).bmod (2 ^ 32)) num
    else (subscale, c :: num)

/-- Is zero? Number? -/
def readWhole (num : Bytes) : D × Bytes :=
  let num := if peek num = 48 then num.drop 1 else num
  if 49 ≤ peek num ∧ peek num ≤ 57 then readDigits (CDouble.ofInt 0) num
  else (CDouble.ofInt 0, num)

/-- Fractional part? -/
def readPoint (n : D) (num : Bytes) : (D × D) × Bytes :=
  if peek num = 46 ∧ IsDigit (peek (num.drop 1)) then
    readFraction n (CDouble.ofInt 0) (num.drop 1)
  else ((n, CDouble.ofInt 0), num)

/-- Exponent? With sign? The result is `subscale*signsubscale`. -/
def readExponent (num : Bytes) : ℤ × Bytes :=
  if peek num = 101 ∨ peek num = 69 then
    let num := num.drop 1
    if peek num = 43 then readSubscale 0 (num.drop 1)
    else if peek num = 45 then
      ((readSubscale 0 (num.drop 1)).1 * -1, (readSubscale 0 (num.drop 1)).2)
    else readSubscale 0 num
  else (0, num)

/-- `parse_number`. -/
def parseNumber (item : CJSON D) (num : Bytes) : CJSON D × Bytes :=
  let sign : D := CDouble.ofInt (if peek num = 45 then -1 else 1)
  let whole : D × Bytes := readWhole (if peek num = 45 then num.drop 1 else num)
  let point := readPoint whole.1 whole.2
  let exponent := readExponent point.2
  let n := CDouble.mul (CDouble.mul sign point.1.1)
    (CDouble.pow10 (CDouble.add point.1.2 (CDouble.ofInt exponent.1)))
  ({ item with valuedouble := n, valueint := CDouble.toInt n, type := typeNumber }, exponent.2)

/-! ### Values, arrays and objects -/

mutual

/-- `parse_value`. -/
def parseValue : ℕ → CJSON D → Bytes → Outcome (CJSON D × Bytes)
  | 0, _, _ => .outOfFuel
  | fuel + 1, item, value =>
    if startsWith (ascii "null") value then .done ({ item with type := typeNULL }, value.drop 4)
    else if startsWith (ascii "false") value then
      .done ({ item with type := typeFalse }, value.drop 5)
    else if startsWith (ascii "true") value then
      .done ({ item with type := typeTrue, valueint := 1 }, value.drop 4)
    else if peek value = 34 then parseString item value
    else if peek value = 45 ∨ IsDigit (peek value) then .done (parseNumber item value)
    else if peek value = 91 then parseArray fuel item value
    else if peek value = 123 then parseObject fuel item value
    else .failed value

/-- `parse_array`. -/
def parseArray : ℕ → CJSON D → Bytes → Outcome (CJSON D × Bytes)
  | 0, _, _ => .outOfFuel
  | fuel + 1, item, value =>
    if peek value ≠ 91 then .failed value
    else
      let value := skip (value.drop 1)
      if peek value = 93 then .done ({ item with type := typeArray }, value.drop 1)
      else do
        let (child, value) ← parseElements fuel value
        return ({ item with type := typeArray, child := child }, value)

/-- The items of an array from here on, and the closing bracket. -/
def parseElements : ℕ → Bytes → Outcome (List (CJSON D) × Bytes)
  | 0, _ => .outOfFuel
  | fuel + 1, value => do
    let (child, value) ← parseValue fuel newItem (skip value)
    let value := skip value
    if peek value = 44 then do
      let (next, value) ← parseElements fuel (value.drop 1)
      return (child :: next, value)
    else if peek value = 93 then return ([child], value.drop 1)
    else .failed value

/-- `parse_object`. -/
def parseObject : ℕ → CJSON D → Bytes → Outcome (CJSON D × Bytes)
  | 0, _, _ => .outOfFuel
  | fuel + 1, item, value =>
    if peek value ≠ 123 then .failed value
    else
      let value := skip (value.drop 1)
      if peek value = 125 then .done ({ item with type := typeObject }, value.drop 1)
      else do
        let (child, value) ← parseMembers fuel value
        return ({ item with type := typeObject, child := child }, value)

/-- The members of an object from here on, and the closing brace. The name is parsed as a string,
which is moved from `valuestring` to `string`. -/
def parseMembers : ℕ → Bytes → Outcome (List (CJSON D) × Bytes)
  | 0, _ => .outOfFuel
  | fuel + 1, value => do
    let (child, value) ← parseString newItem (skip value)
    let value := skip value
    let child := { child with string := child.valuestring, valuestring := none }
    if peek value ≠ 58 then .failed value
    else do
      let (child, value) ← parseValue fuel child (skip (value.drop 1))
      let value := skip value
      if peek value = 44 then do
        let (next, value) ← parseMembers fuel (value.drop 1)
        return (child :: next, value)
      else if peek value = 125 then return ([child], value.drop 1)
      else .failed value

end

/-- `cJSON_ParseWithOpts`, with the pointer that `return_parse_end` gets. -/
def parseWithOpts (value : Bytes) (requireNullTerminated : Bool) : Outcome (CJSON D × Bytes) := do
  let (c, parseEnd) ← parseValue (3 * value.length + 3) newItem (skip value)
  if requireNullTerminated then
    let parseEnd := skip parseEnd
    if peek parseEnd ≠ 0 then .failed parseEnd else return (c, parseEnd)
  else return (c, parseEnd)

/-- `cJSON_Parse`. -/
def parse (value : Bytes) : Outcome (CJSON D) := do
  let (c, _) ← parseWithOpts value false
  return c

/-! ### Where parsing ends -/

section Ends

omit [CDouble D]

theorem skip_suffix (t : Bytes) : skip t <:+ t := List.dropWhile_suffix _

/-- The outcomes of a function that is called with the text `t` and reads at least a byte of it. -/
def EndsIn {α : Type} (t : Bytes) (x : Outcome (α × Bytes)) : Prop :=
  x.Ends (fun r => r.2 <:+ t ∧ r.2.length < t.length) (· <:+ t)
    (0 ∉ t → t.length ≤ sizeMax → BadLiteral t)

/-- The function is called further on in the text. -/
theorem EndsIn.mono {α : Type} {s t : Bytes} {x : Outcome (α × Bytes)} (hx : EndsIn s x)
    (hs : s <:+ t) : EndsIn t x :=
  Outcome.Ends.mono hx (fun _ hr => ⟨hr.1.trans hs, lt_of_lt_of_le hr.2 hs.length_le⟩)
    (fun _ hep => hep.trans hs) fun hbad hnul hsize =>
      (hbad (fun hmem => hnul (hs.subset hmem)) (hs.length_le.trans hsize)).mono hs

/-- The rest of the text is handed on. -/
theorem EndsIn.bind {α β : Type} {t : Bytes} {x : Outcome (α × Bytes)}
    {f : α × Bytes → Outcome (β × Bytes)} (hx : EndsIn t x)
    (hf : ∀ a r, r <:+ t → r.length < t.length → EndsIn t (f (a, r))) : EndsIn t (x >>= f) :=
  Outcome.Ends.bind hx fun a ha => hf a.1 a.2 ha.1 ha.2

/-- A byte is read where the text has one. -/
theorem length_drop_lt {t : Bytes} {b : UInt8} (ht : peek t = b) (hb : b ≠ 0) (n : ℕ) :
    (t.drop (n + 1)).length < t.length := by
  rcases t with - | ⟨c, t⟩
  · exact absurd ht.symm hb
  · rw [List.length_drop, List.length_cons]
    omega

/-- What `parse_string` can come to. -/
theorem parseString_cases (item : CJSON D) (t : Bytes) :
    parseString item t = .failed t ∨ parseString item t = .undefined ∨
      peek t = 34 ∧ ∃ out ptr, unescape (t.drop 1) = some (out, ptr) ∧ parseString item t =
        .done ({ item with valuestring := some out, type := typeString },
          if peek ptr = 34 then ptr.drop 1 else ptr) := by
  by_cases hquote : peek t = 34
  · right
    rcases hscan : scan (t.drop 1) 0 with - | len
    · exact Or.inl (by rw [parseString, if_neg (not_not.mpr hquote), hscan])
    rcases hun : unescape (t.drop 1) with - | ⟨out, ptr⟩
    · exact Or.inl (by rw [parseString, if_neg (not_not.mpr hquote), hscan, hun])
    by_cases hroom : len + 1 ≤ sizeMax ∧ out.length + 1 ≤ len + 1
    · refine Or.inr ⟨hquote, out, ptr, rfl, ?_⟩
      simp only [parseString, if_neg (not_not.mpr hquote), hscan, hun, if_pos hroom]
    · left
      simp only [parseString, if_neg (not_not.mpr hquote), hscan, hun, if_neg hroom]
  · exact Or.inl (if_pos hquote)

theorem parseString_ends (item : CJSON D) (t : Bytes) : EndsIn t (parseString item t) := by
  rcases parseString_cases item t with h | h | ⟨hquote, out, ptr, hun, h⟩
  · rw [h]
    exact List.suffix_rfl
  · rw [h]
    exact fun hnul hsize => parseString_undefined hnul hsize h
  · have hlt := length_drop_lt hquote (by decide) 0
    have hptr : (if peek ptr = 34 then ptr.drop 1 else ptr) <:+ t.drop 1 := by
      split_ifs
      · exact (List.drop_suffix 1 ptr).trans (unescape_suffix _ hun)
      · exact unescape_suffix _ hun
    rw [h]
    exact ⟨hptr.trans (List.drop_suffix 1 t), lt_of_le_of_lt hptr.length_le hlt⟩

end Ends

section Numbers

theorem readDigits_suffix (n : D) (num : Bytes) : (readDigits n num).2 <:+ num := by
  induction num generalizing n with
  | nil => exact List.suffix_rfl
  | cons c num ih =>
    rw [readDigits]
    split_ifs
    · exact (ih _).trans (List.suffix_cons c num)
    · exact List.suffix_rfl

theorem readFraction_suffix (n scale : D) (num : Bytes) :
    (readFraction n scale num).2 <:+ num := by
  induction num generalizing n scale with
  | nil => exact List.suffix_rfl
  | cons c num ih =>
    rw [readFraction]
    split_ifs
    · exact (ih _ _).trans (List.suffix_cons c num)
    · exact List.suffix_rfl

omit [CDouble D] in
theorem readSubscale_suffix (subscale : ℤ) (num : Bytes) :
    (readSubscale subscale num).2 <:+ num := by
  induction num generalizing subscale with
  | nil => exact List.suffix_rfl
  | cons c num ih =>
    rw [readSubscale]
    split_ifs
    · exact (ih _).trans (List.suffix_cons c num)
    · exact List.suffix_rfl

theorem readWhole_suffix (num : Bytes) : (readWhole num : D × Bytes).2 <:+ num := by
  have hzero : (if peek num = 48 then num.drop 1 else num) <:+ num := by
    split_ifs
    · exact List.drop_suffix 1 num
    · exact List.suffix_rfl
  rw [readWhole]
  generalize (if peek num = 48 then num.drop 1 else num) = num' at hzero ⊢
  split_ifs
  · exact (readDigits_suffix _ num').trans hzero
  · exact hzero

/-- A digit is read. -/
theorem readWhole_lt {num : Bytes} (hnum : IsDigit (peek num)) :
    (readWhole num : D × Bytes).2.length < num.length := by
  rcases num with - | ⟨c, num⟩
  · exact absurd hnum (by decide)
  rw [peek_cons] at hnum
  by_cases hzero : c = 48
  · -- a zero goes first
    rw [readWhole, if_pos (show peek (c :: num) = 48 from hzero), List.drop_succ_cons,
      List.drop_zero]
    split_ifs
    · exact Nat.lt_succ_of_le (readDigits_suffix _ num).length_le
    · exact Nat.lt_succ_self _
  · have hpos : 49 ≤ c ∧ c ≤ 57 := by
      refine ⟨?_, hnum.2⟩
      have h48 := hnum.1
      simp only [UInt8.le_iff_toNat_le, UInt8.reduceToNat, ← UInt8.toNat_inj] at h48 hzero ⊢
      omega
    have hwhole : (readWhole (c :: num) : D × Bytes) = readDigits (CDouble.ofInt 0) (c :: num) := by
      rw [readWhole, if_neg (show ¬ peek (c :: num) = 48 from hzero), peek_cons, if_pos hpos]
    rw [hwhole, readDigits, if_pos hnum]
    exact Nat.lt_succ_of_le (readDigits_suffix _ num).length_le

theorem readPoint_suffix (n : D) (num : Bytes) : (readPoint n num).2 <:+ num := by
  rw [readPoint]
  split_ifs
  · exact (readFraction_suffix n _ _).trans (List.drop_suffix 1 num)
  · exact List.suffix_rfl

omit [CDouble D] in
theorem readExponent_suffix (num : Bytes) : (readExponent num).2 <:+ num := by
  have hmark := List.drop_suffix 1 num
  simp only [readExponent]
  split_ifs
  · exact (readSubscale_suffix 0 _).trans ((List.drop_suffix 1 _).trans hmark)
  · exact (readSubscale_suffix 0 _).trans ((List.drop_suffix 1 _).trans hmark)
  · exact (readSubscale_suffix 0 _).trans hmark
  · exact List.suffix_rfl

/-- A sign or a digit is read. -/
theorem parseNumber_ends (item : CJSON D) {num : Bytes}
    (hnum : peek num = 45 ∨ IsDigit (peek num)) :
    EndsIn num (.done (parseNumber item num)) := by
  have hsign : (if peek num = 45 then num.drop 1 else num) <:+ num := by
    split_ifs
    · exact List.drop_suffix 1 num
    · exact List.suffix_rfl
  have hrest : (parseNumber item num).2 <:+
      (readWhole (if peek num = 45 then num.drop 1 else num) : D × Bytes).2 :=
    (readExponent_suffix _).trans (readPoint_suffix _ _)
  refine ⟨(hrest.trans (readWhole_suffix _)).trans hsign, lt_of_le_of_lt hrest.length_le ?_⟩
  by_cases hminus : peek num = 45
  · rw [if_pos hminus]
    exact lt_of_le_of_lt (readWhole_suffix _).length_le (length_drop_lt hminus (by decide) 0)
  · rw [if_neg hminus]
    exact readWhole_lt (hnum.resolve_left hminus)

end Numbers

/-- A bracket, and what is behind it. -/
theorem length_skip_lt {t : Bytes} {b : UInt8} (ht : peek t = b) (hb : b ≠ 0) :
    (skip (t.drop 1)).length < t.length :=
  lt_of_le_of_lt (skip_suffix _).length_le (length_drop_lt ht hb 0)

omit [CDouble D] in
/-- A word that the text starts with is read. -/
theorem EndsIn.word {α : Type} {word t : Bytes} (hword : startsWith word t = true)
    (hne : word ≠ []) (a : α) : EndsIn t (.done (a, t.drop word.length)) := by
  have hlen := (startsWith_iff.mp hword).length_le
  have hpos := List.length_pos_iff.mpr hne
  refine ⟨List.drop_suffix _ t, ?_⟩
  rw [List.length_drop]
  omega

omit [CDouble D] in
/-- What comes behind an item: a comma and more items, or the end. -/
theorem EndsIn.more {α : Type} {value r : Bytes} {close : UInt8} {next last : Outcome (α × Bytes)}
    (hr : r <:+ value)
    (hnext : ((skip r).drop 1).length < r.length → EndsIn ((skip r).drop 1) next)
    (hlast : EndsIn value last) :
    EndsIn value
      (if peek (skip r) = 44 then next else if peek (skip r) = close then last
        else .failed (skip r)) := by
  have hskip : skip r <:+ value := (skip_suffix r).trans hr
  split_ifs with hcomma
  · refine (hnext ?_).mono ((List.drop_suffix 1 _).trans hskip)
    exact lt_of_lt_of_le (length_drop_lt hcomma (by decide) 0) (skip_suffix r).length_le
  · exact hlast
  · exact hskip

omit [CDouble D] in
/-- The end of an array or an object. -/
theorem EndsIn.last {α : Type} {value r : Bytes} (a : α) (hr : r <:+ value)
    (hlt : r.length < value.length) : EndsIn value (.done (a, (skip r).drop 1)) := by
  have hskip := (List.drop_suffix 1 _).trans (skip_suffix r)
  exact ⟨hskip.trans hr, lt_of_le_of_lt hskip.length_le hlt⟩

/-- Three calls for each byte are enough. -/
theorem parse_fuel (fuel : ℕ) :
    (∀ (item : CJSON D) value, 3 * value.length < fuel →
      EndsIn value (parseValue fuel item value)) ∧
    (∀ (item : CJSON D) value, 0 < value.length → 3 * value.length ≤ fuel →
      EndsIn value (parseArray fuel item value)) ∧
    (∀ value, 3 * value.length + 1 < fuel →
      EndsIn value (parseElements fuel value : Outcome (List (CJSON D) × Bytes))) ∧
    (∀ (item : CJSON D) value, 0 < value.length → 3 * value.length ≤ fuel →
      EndsIn value (parseObject fuel item value)) ∧
    ∀ value, 3 * value.length + 1 < fuel →
      EndsIn value (parseMembers fuel value : Outcome (List (CJSON D) × Bytes)) := by
  induction fuel with
  | zero =>
    refine ⟨fun _ _ h => absurd h (Nat.not_lt_zero _), fun _ _ h0 h => ?_,
      fun _ h => absurd h (Nat.not_lt_zero _), fun _ _ h0 h => ?_,
      fun _ h => absurd h (Nat.not_lt_zero _)⟩ <;> omega
  | succ fuel ih =>
    obtain ⟨ihValue, ihArray, ihElements, ihObject, ihMembers⟩ := ih
    refine ⟨fun item value hfuel => ?_, fun item value h0 hfuel => ?_, fun value hfuel => ?_,
      fun item value h0 hfuel => ?_, fun value hfuel => ?_⟩
    · rw [parseValue]
      split_ifs with hnull hfalse htrue hquote hnum harray hobject
      · exact EndsIn.word hnull (by decide) _
      · exact EndsIn.word hfalse (by decide) _
      · exact EndsIn.word htrue (by decide) _
      · exact parseString_ends item value
      · exact parseNumber_ends item hnum
      · have hlt := length_drop_lt harray (by decide) 0
        exact ihArray item value (by omega) (by omega)
      · have hlt := length_drop_lt hobject (by decide) 0
        exact ihObject item value (by omega) (by omega)
      · exact List.suffix_rfl
    · rw [parseArray]
      dsimp only
      have hsuffix : skip (value.drop 1) <:+ value :=
        (skip_suffix _).trans (List.drop_suffix 1 value)
      split_ifs with hopen hclose
      · exact List.suffix_rfl
      · have hlt := length_skip_lt (not_not.mp hopen) (by decide)
        exact ⟨(List.drop_suffix 1 _).trans hsuffix,
          lt_of_le_of_lt (List.drop_suffix 1 _).length_le hlt⟩
      · have hlt := length_skip_lt (not_not.mp hopen) (by decide)
        exact EndsIn.bind ((ihElements _ (by omega)).mono hsuffix) fun _ r hr hr' => ⟨hr, hr'⟩
    · rw [parseElements]
      have hle := (skip_suffix value).length_le
      refine EndsIn.bind ((ihValue newItem _ (by omega)).mono (skip_suffix value))
        fun child r hr hlt => ?_
      refine EndsIn.more hr (fun hlt' => ?_) (EndsIn.last _ hr hlt)
      exact EndsIn.bind (ihElements _ (by omega)) fun _ r hr hr' => ⟨hr, hr'⟩
    · rw [parseObject]
      dsimp only
      have hsuffix : skip (value.drop 1) <:+ value :=
        (skip_suffix _).trans (List.drop_suffix 1 value)
      split_ifs with hopen hclose
      · exact List.suffix_rfl
      · have hlt := length_skip_lt (not_not.mp hopen) (by decide)
        exact ⟨(List.drop_suffix 1 _).trans hsuffix,
          lt_of_le_of_lt (List.drop_suffix 1 _).length_le hlt⟩
      · have hlt := length_skip_lt (not_not.mp hopen) (by decide)
        exact EndsIn.bind ((ihMembers _ (by omega)).mono hsuffix) fun _ r hr hr' => ⟨hr, hr'⟩
    · rw [parseMembers]
      refine EndsIn.bind ((parseString_ends newItem _).mono (skip_suffix value))
        fun child r hr hlt => ?_
      dsimp only
      have hskip : skip r <:+ value := (skip_suffix r).trans hr
      split_ifs with hcolon
      · exact hskip
      · have hle : (skip ((skip r).drop 1)).length < (skip r).length :=
          length_skip_lt (not_not.mp hcolon) (by decide)
        have hskip' : skip ((skip r).drop 1) <:+ value :=
          ((skip_suffix _).trans (List.drop_suffix 1 _)).trans hskip
        have hle' := hskip.length_le
        refine EndsIn.bind ((ihValue _ _ (by omega)).mono hskip') fun child r' hr' hlt' => ?_
        dsimp only
        refine EndsIn.more hr' (fun hlt'' => ?_) (EndsIn.last _ hr' hlt')
        exact EndsIn.bind (ihMembers _ (by omega)) fun _ r hr hr' => ⟨hr, hr'⟩

/-- `cJSON_ParseWithOpts` leaves its memory only where `parse_string` does. -/
theorem parseWithOpts_endsWith {value : Bytes} {U : Prop} (hnul : 0 ∉ value)
    (hsize : value.length ≤ sizeMax) (hbad : BadLiteral value → U) (requireNullTerminated : Bool) :
    (parseWithOpts value requireNullTerminated : Outcome (CJSON D × Bytes)).Ends
      (fun r => r.2 <:+ value) (· <:+ value) U := by
  have hle := (skip_suffix value).length_le
  have hvalue := ((parse_fuel (D := D) (3 * value.length + 3)).1 newItem (skip value)
    (by omega)).mono (skip_suffix value)
  rw [parseWithOpts]
  refine Outcome.Ends.bind (Outcome.Ends.mono hvalue (fun _ h => h.1) (fun _ h => h)
    fun h => hbad (h hnul hsize)) ?_
  rintro ⟨c, parseEnd⟩ hend
  have hskip : skip parseEnd <:+ value := (skip_suffix parseEnd).trans hend
  dsimp only
  split_ifs
  · exact hskip
  · exact hskip
  · exact hend

/-- **Parsing comes to an end, in its text.** For every text whose length is an `int`,
`cJSON_ParseWithOpts` returns an item and a pointer into the text, or fails with its error pointer
in the text, or leaves its memory; and then some string in the text has an escape that is not
complete. -/
theorem parseWithOpts_ends {value : Bytes} (hnul : 0 ∉ value) (hsize : value.length ≤ sizeMax)
    (requireNullTerminated : Bool) :
    (parseWithOpts value requireNullTerminated : Outcome (CJSON D × Bytes)).Ends
      (fun r => r.2 <:+ value) (· <:+ value) (BadLiteral value) :=
  parseWithOpts_endsWith hnul hsize id requireNullTerminated

/-- A text that ends behind `\\u12`. -/
theorem parseWithOpts_ends_cut :
    (parseWithOpts (ascii "[1, \"\\u12") true : Outcome (CJSON ℚ × Bytes)).Ends
      (fun r => r.2 <:+ ascii "[1, \"\\u12") (· <:+ ascii "[1, \"\\u12")
      (BadLiteral (ascii "[1, \"\\u12")) := by
  have hnul : 0 ∉ ascii "[1, \"\\u12" := by decide
  have hsize : (ascii "[1, \"\\u12").length ≤ sizeMax := by decide
  generalize ascii "[1, \"\\u12" = value at hnul hsize ⊢
  exact parseWithOpts_ends hnul hsize true

/-- **No access outside.** A text without NUL bytes in which every escape is complete, and whose
length is an `int`, is parsed without leaving its memory. -/
theorem parseWithOpts_defined {value : Bytes} (hnul : 0 ∉ value) (hescapes : EscapesComplete value)
    (hsize : value.length ≤ sizeMax) (requireNullTerminated : Bool) :
    (parseWithOpts value requireNullTerminated : Outcome (CJSON D × Bytes)).Ends
      (fun r => r.2 <:+ value) (· <:+ value) False :=
  parseWithOpts_endsWith hnul hsize hescapes.not_badLiteral requireNullTerminated

/-- An array of a number and a string with an escaped quote. -/
theorem parseWithOpts_defined_array :
    (parseWithOpts (ascii "[1, \"\\\"\"]") true : Outcome (CJSON ℚ × Bytes)).Ends
      (fun r => r.2 <:+ ascii "[1, \"\\\"\"]") (· <:+ ascii "[1, \"\\\"\"]") False := by
  have hnul : 0 ∉ ascii "[1, \"\\\"\"]" := by decide
  have hescapes : EscapesComplete (ascii "[1, \"\\\"\"]") := by decide +kernel
  have hsize : (ascii "[1, \"\\\"\"]").length ≤ sizeMax := by decide
  generalize ascii "[1, \"\\\"\"]" = value at hnul hescapes hsize ⊢
  exact parseWithOpts_defined hnul hescapes hsize true

end ControllerSystem.CJson
