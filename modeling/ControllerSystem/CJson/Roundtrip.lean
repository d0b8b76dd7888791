import ControllerSystem.CJson.Parse
import ControllerSystem.CJson.Print
import Mathlib.Data.List.DropRight

/-!
# JSON texts read back

The text of a value, parsed, gives an item that represents the value again, and the pointer returned
is the one behind the text. The recursion follows the value, and the text behind it is arbitrary:
only behind a number there must be nothing that could be part of one.

* `parseWithOpts_printValue` — what `cJSON_Print` and `cJSON_PrintUnformatted` print is parsed as
  what has been printed, for texts of up to `2 ^ 30 - 64` bytes.
-/

open Words TextPointer DecimalText

namespace ControllerSystem.CJson

variable {D : Type} [CDouble D]

/-! ### Numbers -/

/-- No byte that could be a part of a number. -/
def NumberEnd (t : Bytes) : Prop :=
  ¬ IsDigit (peek t) ∧ peek t ≠ 46 ∧ peek t ≠ 101 ∧ peek t ≠ 69

instance (t : Bytes) : Decidable (NumberEnd t) := inferInstanceAs (Decidable (_ ∧ _))

theorem le_foldl_addDigit (ds : Bytes) (a : ℕ) : a ≤ ds.foldl addDigit a := by
  induction ds generalizing a with
  | nil => exact Nat.le_refl a
  | cons d ds ih =>
    refine Nat.le_trans ?_ (ih (addDigit a d))
    rw [addDigit]
    omega

/-- A number above zero starts with another digit than zero. -/
theorem natText_head {n : ℕ} (hn : 0 < n) : ∃ d ds, natText n = d :: ds ∧ 49 ≤ d ∧ d ≤ 57 := by
  induction n using Nat.strong_induction_on with
  | _ n ih =>
    rw [natText_eq]
    split_ifs with hlt
    · refine ⟨_, [], rfl, ?_⟩
      simp only [UInt8.le_iff_toNat_le, UInt8.toNat_ofNat', UInt8.reduceToNat]
      omega
    · obtain ⟨d, ds, hd, hle⟩ := ih (n / 10) (by omega) (by omega)
      exact ⟨d, ds ++ _, by rw [hd, List.cons_append], hle⟩

theorem abs_le_maxExact {i : ℤ} (hpos : 0 ≤ i) (hi : i ≤ maxExact) : |i| ≤ maxExact :=
  (abs_of_nonneg hpos).trans_le hi

section Exact

variable [CDouble.Exact D]

/-- One more digit. -/
theorem add_mul_ofInt {a : ℕ} {d : UInt8} (hd : IsDigit d) (ha : (addDigit a d : ℤ) ≤ maxExact) :
    CDouble.add (CDouble.mul (CDouble.ofInt a : D) (CDouble.ofInt 10))
      (CDouble.ofInt (d.toNat - 48)) = CDouble.ofInt (addDigit a d) := by
  have h48 : 48 ≤ d.toNat := UInt8.le_iff_toNat_le.mp hd.1
  have hval : (addDigit a d : ℤ) = a * 10 + (d.toNat - 48) := by
    rw [addDigit]
    omega
  have hten : (10 : ℤ) ≤ maxExact := by decide
  rw [CDouble.Exact.mul_ofInt, CDouble.Exact.add_ofInt, ← hval]
  · exact abs_le_maxExact (by omega) (by omega)
  · exact abs_le_maxExact (by omega) (by omega)
  · exact abs_le_maxExact (by omega) (by omega)
  · exact abs_le_maxExact (by omega) (by omega)
  · exact abs_le_maxExact (by omega) hten
  · exact abs_le_maxExact (by omega) (by omega)
  · exact Or.inr ⟨by omega, by omega⟩

/-- The digits of a number of up to 53 bits are read exactly. -/
theorem readDigits_append {ds : Bytes} (hds : ∀ d ∈ ds, IsDigit d) {rest : Bytes}
    (hrest : ¬ IsDigit (peek rest)) {a n : ℕ} (hn : ds.foldl addDigit a = n)
    (hmax : (n : ℤ) ≤ maxExact) :
    readDigits (CDouble.ofInt a : D) (ds ++ rest) = (CDouble.ofInt n, rest) := by
  induction ds generalizing a with
  | nil =>
    rw [← hn]
    rcases rest with - | ⟨c, rest⟩
    · rfl
    · exact if_neg hrest
  | cons d ds ih =>
    have hd := hds d (List.mem_cons_self ..)
    have hle : addDigit a d ≤ n := hn ▸ le_foldl_addDigit ds (addDigit a d)
    rw [List.cons_append, readDigits, if_pos hd, add_mul_ofInt hd (by omega)]
    exact ih (fun d hd => hds d (List.mem_cons_of_mem _ hd)) hn

theorem readWhole_natText {n : ℕ} (hn : (n : ℤ) ≤ maxExact) {rest : Bytes}
    (hrest : ¬ IsDigit (peek rest)) :
    (readWhole (natText n ++ rest) : D × Bytes) = (CDouble.ofInt n, rest) := by
  rcases Nat.eq_zero_or_pos n with rfl | hpos
  · have hzero : natText 0 ++ rest = 48 :: rest := rfl
    have hno : ¬ (49 ≤ peek rest ∧ peek rest ≤ 57) := fun h =>
      hrest ⟨UInt8.le_trans (by decide) h.1, h.2⟩
    rw [hzero, readWhole, if_pos (peek_cons 48 rest), List.drop_succ_cons, List.drop_zero,
      if_neg hno]
    rfl
  · obtain ⟨d, ds, htext, h49, h57⟩ := natText_head hpos
    have hpeek : peek (natText n ++ rest) = d := by rw [htext, List.cons_append, peek_cons]
    have hne : peek (natText n ++ rest) ≠ 48 := by
      rw [hpeek]
      rintro rfl
      exact absurd h49 (by decide)
    rw [readWhole, if_neg hne, hpeek, if_pos ⟨h49, h57⟩]
    exact readDigits_append (natText_digits n) hrest (foldl_natText n) hn

/-- A sign, and digits. -/
theorem parseNumber_natText (item : CJSON D) (sign : ℤ) (text : Bytes) {n : ℕ} {rest : Bytes}
    (hsign : sign = (if peek text = 45 then -1 else 1))
    (htext : (if peek text = 45 then text.drop 1 else text) = natText n ++ rest)
    (hn : (n : ℤ) ≤ maxExact) (hint : IsInt (sign * n)) (hpos : sign = 1 ∨ 0 < n)
    (hrest : NumberEnd rest) :
    parseNumber item text =
      ({ item with
          valuedouble := CDouble.ofInt (sign * n), valueint := sign * n, type := typeNumber },
        rest) := by
  have hpoint : readPoint (CDouble.ofInt n : D) rest = ((CDouble.ofInt n, CDouble.ofInt 0), rest) :=
    if_neg fun h => hrest.2.1 h.1
  have hexponent : readExponent rest = (0, rest) :=
    if_neg fun h => h.elim hrest.2.2.1 hrest.2.2.2
  have hcase : sign = 1 ∨ sign = -1 := by
    rw [hsign]
    split_ifs
    · exact Or.inr rfl
    · exact Or.inl rfl
  have habs := abs_le_maxExact (Int.natCast_nonneg n) hn
  have hsn : |sign * n| ≤ maxExact := by
    rcases hcase with rfl | rfl <;> simpa using habs
  have hone : |sign| ≤ maxExact := by
    rcases hcase with rfl | rfl <;> decide
  -- a negative zero would not be the double of an integer
  have hzero : sign * n ≠ 0 ∨ 0 ≤ sign ∧ (0 : ℤ) ≤ n := by
    rcases hpos with rfl | hpos
    · exact Or.inr ⟨by decide, Int.natCast_nonneg n⟩
    · exact Or.inl (by rcases hcase with rfl | rfl <;> omega)
  have hmul : CDouble.mul (CDouble.mul (CDouble.ofInt sign : D) (CDouble.ofInt n))
      (CDouble.pow10 (CDouble.add (CDouble.ofInt 0) (CDouble.ofInt 0))) =
        CDouble.ofInt (sign * n) := by
    rw [CDouble.Exact.add_ofInt 0 0 (by decide) (by decide) (by decide), Int.add_zero,
      CDouble.Exact.pow10_zero, CDouble.Exact.mul_ofInt _ _ hone habs hsn hzero,
      CDouble.Exact.mul_ofInt _ _ hsn (by decide) (by rwa [mul_one]) ?_, mul_one]
    rw [mul_one]
    exact hzero.imp id fun h => ⟨mul_nonneg h.1 h.2, by decide⟩
  simp only [parseNumber, ← hsign, htext, readWhole_natText hn hrest.1, hpoint, hexponent, hmul,
    CDouble.Exact.toInt_ofInt _ hint]

/-- A number printed with `"%d"` is parsed as that number. -/
theorem parseNumber_toString (item : CJSON D) (i : CInt) {rest : Bytes} (hrest : NumberEnd rest) :
    parseNumber item (ascii (toString i.1) ++ rest) =
      ({ item with
          valuedouble := CDouble.ofInt i.1, valueint := i.1, type := typeNumber }, rest) := by
  obtain ⟨i, hint⟩ := i
  have hrange := hint
  simp only [IsInt, intMin, intMax] at hrange
  have hdigit : ∀ n : ℕ, peek (natText n ++ rest) ≠ 45 := by
    intro n
    obtain ⟨d, ds, hd⟩ := List.exists_cons_of_ne_nil (natText_ne_nil n)
    have h48 := (natText_digits n d (hd ▸ List.mem_cons_self ..)).1
    rw [hd, List.cons_append, peek_cons]
    rintro rfl
    exact absurd h48 (by decide)
  dsimp only
  rw [ascii_toString]
  split_ifs with hsign
  · have hi : (1 : ℤ) * i.toNat = i := by omega
    have h := parseNumber_natText item 1 (natText i.toNat ++ rest)
      (n := i.toNat) (if_neg (hdigit _)).symm (if_neg (hdigit _)) (by simp only [maxExact]; omega)
      (by rwa [hi]) (Or.inl rfl) hrest
    rw [h, hi]
  · have hi : (-1 : ℤ) * (-i).toNat = i := by omega
    have h := parseNumber_natText item (-1) (45 :: natText (-i).toNat ++ rest)
      (n := (-i).toNat) (if_pos rfl).symm (if_pos rfl) (by simp only [maxExact]; omega)
      (by rwa [hi]) (Or.inr (by omega)) hrest
    rw [h, hi]

end Exact

/-! ### Whitespace -/

/-- The whitespace in front of a text is jumped. -/
theorem skip_append {ws : Bytes} (hws : ∀ b ∈ ws, b ≤ 32) (t : Bytes) :
    skip (ws ++ t) = skip t := by
  rw [skip, List.dropWhile_append_of_pos fun b hb => decide_eq_true (hws b hb), ← skip]

theorem skip_cons {b : UInt8} (hb : 32 < b) (t : Bytes) : skip (b :: t) = b :: t := by
  have hnot : ¬ b ≤ 32 := UInt8.not_le.mpr hb
  rw [skip, List.dropWhile_cons_of_neg (by simpa using hnot)]

/-- The whitespace in front of the first member may be gone. -/
theorem parseMembers_skip (fuel : ℕ) (t : Bytes) :
    (parseMembers fuel (skip t) : Outcome (List (CJSON D) × Bytes)) = parseMembers fuel t := by
  rcases fuel with - | fuel
  · rfl
  · rw [parseMembers, parseMembers, skip, skip, List.dropWhile_idempotent]

/-- The text of a value starts with a byte of its own. -/
theorem text_head (fmt : Bool) (depth : ℕ) (j : Json) :
    ∃ b t, j.text fmt depth = b :: t ∧ 32 < b ∧ b ≠ 93 := by
  cases j with
  | null => exact ⟨110, _, rfl, by decide, by decide⟩
  | bool b =>
    cases b
    · exact ⟨102, _, rfl, by decide, by decide⟩
    · exact ⟨116, _, rfl, by decide, by decide⟩
  | num i =>
    rw [Json.text, ascii_toString]
    split_ifs
    · obtain ⟨d, ds, hd⟩ := List.exists_cons_of_ne_nil (natText_ne_nil i.1.toNat)
      obtain ⟨h48, h57⟩ := natText_digits i.1.toNat d (hd ▸ List.mem_cons_self ..)
      refine ⟨d, ds, hd, UInt8.lt_of_lt_of_le (by decide) h48, ?_⟩
      rintro rfl
      exact absurd h57 (by decide)
    · exact ⟨45, _, rfl, by decide, by decide⟩
  | str s => exact ⟨34, _, rfl, by decide, by decide⟩
  | arr elements => exact ⟨91, _, rfl, by decide, by decide⟩
  | obj members => exact ⟨123, _, rfl, by decide, by decide⟩

/-! ### Values -/

section Values

/-- No word starts with this byte, so the byte decides. -/
theorem parseValue_cons (fuel : ℕ) (item : CJSON D) {b : UInt8} (t : Bytes) (hn : b ≠ 110)
    (hf : b ≠ 102) (ht : b ≠ 116) :
    parseValue (fuel + 1) item (b :: t) =
      if b = 34 then parseString item (b :: t)
      else if b = 45 ∨ IsDigit b then .done (parseNumber item (b :: t))
      else if b = 91 then parseArray fuel item (b :: t)
      else if b = 123 then parseObject fuel item (b :: t)
      else .failed (b :: t) := by
  have hnull : startsWith (ascii "null") (b :: t) = false := startsWith_cons_of_ne hn.symm _ t
  have hfalse : startsWith (ascii "false") (b :: t) = false := startsWith_cons_of_ne hf.symm _ t
  have htrue : startsWith (ascii "true") (b :: t) = false := startsWith_cons_of_ne ht.symm _ t
  rw [parseValue, hnull, hfalse, htrue]
  rfl

theorem parseValue_number [CDouble.Exact D] (fuel : ℕ) (item : CJSON D) (i : CInt) {rest : Bytes}
    (hrest : NumberEnd rest) :
    parseValue (fuel + 1) item (ascii (toString i.1) ++ rest) =
      .done ({ item with
        valuedouble := CDouble.ofInt i.1, valueint := i.1, type := typeNumber }, rest) := by
  rw [← parseNumber_toString item i hrest]
  have hhead : ∃ b t, ascii (toString i.1) = b :: t ∧ (b = 45 ∨ IsDigit b) := by
    rw [ascii_toString]
    split_ifs
    · obtain ⟨d, ds, hd⟩ := List.exists_cons_of_ne_nil (natText_ne_nil i.1.toNat)
      exact ⟨d, ds, hd, Or.inr (natText_digits i.1.toNat d (hd ▸ List.mem_cons_self ..))⟩
    · exact ⟨45, _, rfl, Or.inl rfl⟩
  obtain ⟨b, t, htext, hb⟩ := hhead
  have hother : ∀ c : UInt8, ¬ (c = 45 ∨ IsDigit c) → b ≠ c := fun c hc h => hc (h ▸ hb)
  rw [htext, List.cons_append, parseValue_cons fuel item _ (hother _ (by decide))
    (hother _ (by decide)) (hother _ (by decide)), if_neg (hother _ (by decide)), if_pos hb]

theorem numberEnd_cons {b : UInt8} (hb : ¬ IsDigit b ∧ b ≠ 46 ∧ b ≠ 101 ∧ b ≠ 69) (t : Bytes) :
    NumberEnd (b :: t) := hb

/-- The line end and the tabs in front of a closing brace. -/
theorem skip_close (fmt : Bool) (n : ℕ) (rest : Bytes) :
    skip ((if fmt then [10] else []) ++ (tabs fmt n ++ 125 :: rest)) = 125 :: rest := by
  rw [← List.append_assoc, skip_append, skip_cons (by decide)]
  intro b hb
  cases fmt <;> simp [tabs] at hb
  rcases hb with rfl | ⟨-, rfl⟩ <;> decide

theorem tabs_le (fmt : Bool) (n : ℕ) : ∀ b ∈ tabs fmt n, b ≤ 32 := by
  intro b hb
  cases fmt <;> simp [tabs] at hb
  rw [hb.2]
  decide

mutual

/-- **Reading back.** The text of a value, with a length that is an `int` and anything behind it
that is not a part of a number, is parsed as an item that represents the value. -/
theorem parseValue_text [CDouble.Exact D] (fmt : Bool) (depth : ℕ) (j : Json) (item : CJSON D)
    (hitem : item.child = []) (hsize : (j.text fmt depth).length ≤ sizeMax) (rest : Bytes)
    (hrest : NumberEnd rest) (fuel : ℕ)
    (hfuel : 3 * (j.text fmt depth ++ rest).length < fuel) :
    ∃ item', parseValue fuel item (j.text fmt depth ++ rest) = .done (item', rest) ∧
      Represents j item' ∧ item'.string = item.string := by
  obtain ⟨fuel, rfl⟩ := Nat.exists_eq_succ_of_ne_zero (Nat.ne_of_gt (Nat.zero_lt_of_lt hfuel))
  cases j with
  | null => exact ⟨{ item with type := typeNULL }, rfl, rfl, rfl⟩
  | bool b =>
    cases b
    · exact ⟨{ item with type := typeFalse }, rfl, rfl, rfl⟩
    · exact ⟨{ item with type := typeTrue, valueint := 1 }, rfl, rfl, rfl⟩
  | num i =>
    exact ⟨_, parseValue_number fuel item i hrest, ⟨rfl, rfl, rfl⟩, rfl⟩
  | str s =>
    refine ⟨{ item with valuestring := some s.1, type := typeString }, ?_, ⟨rfl, rfl⟩, rfl⟩
    rw [← parseString_quoted item s.2 hsize rest]
    exact parseValue_cons fuel item _ (by decide) (by decide) (by decide)
  | arr elements =>
    have htext : (Json.arr elements).text fmt depth ++ rest =
        91 :: (entriesText fmt (elementTexts fmt (depth + 1) elements) ++ 93 :: rest) := by
      simp [Json.text, arrayText]
    rw [htext] at hfuel ⊢
    simp only [List.length_cons] at hfuel
    obtain ⟨fuel, rfl⟩ := Nat.exists_eq_succ_of_ne_zero (show fuel ≠ 0 by omega)
    rw [parseValue_cons _ item _ (by decide) (by decide) (by decide)]
    simp only [reduceIte, parseArray, peek_cons, List.drop_succ_cons, List.drop_zero]
    by_cases hempty : elements = []
    · subst hempty
      exact ⟨{ item with type := typeArray }, rfl, ⟨rfl, hitem ▸ trivial⟩, rfl⟩
    · have hle : (entriesText fmt (elementTexts fmt (depth + 1) elements)).length ≤
          ((Json.arr elements).text fmt depth).length := by
        rw [Json.text, length_arrayText]
        omega
      obtain ⟨child, hchild, hrep⟩ := parseElements_texts fmt (depth + 1) elements hempty
        (hle.trans hsize) [] nofun rest fuel (by rw [List.nil_append]; omega)
      obtain ⟨j, elements, rfl⟩ := List.exists_cons_of_ne_nil hempty
      obtain ⟨b, t, hhead, hb, hclose⟩ := text_head fmt (depth + 1) j
      have hentries : ∃ t', entriesText fmt (elementTexts fmt (depth + 1) (j :: elements)) ++
          93 :: rest = b :: t' := by
        cases elements <;> simp [elementTexts, entriesText, hhead]
      obtain ⟨t', ht'⟩ := hentries
      rw [List.nil_append, ht'] at hchild
      refine ⟨{ item with type := typeArray, child := child }, ?_, ⟨rfl, hrep⟩, rfl⟩
      rw [ht', skip_cons hb, peek_cons, if_neg hclose, hchild]
      rfl
  | obj members =>
    generalize hn : (if (memberTexts fmt (depth + 1) members).isEmpty then depth - 1 else depth) = n
    have htext : (Json.obj members).text fmt depth ++ rest =
        123 :: ((if fmt then [10] else []) ++
          (membersText fmt (depth + 1) (memberTexts fmt (depth + 1) members) ++
            (tabs fmt n ++ 125 :: rest))) := by
      rw [Json.text, objectText, hn]
      simp
    rw [htext] at hfuel ⊢
    simp only [List.length_cons] at hfuel
    obtain ⟨fuel, rfl⟩ := Nat.exists_eq_succ_of_ne_zero (show fuel ≠ 0 by omega)
    rw [parseValue_cons _ item _ (by decide) (by decide) (by decide)]
    simp only [reduceIte, parseObject, peek_cons, List.drop_succ_cons, List.drop_zero]
    by_cases hempty : members = []
    · subst hempty
      refine ⟨{ item with type := typeObject }, ?_, ⟨rfl, hitem ▸ trivial⟩, rfl⟩
      rw [memberTexts, membersText, List.nil_append, skip_close, peek_cons]
      rfl
    · have hline : ∀ b ∈ (if fmt then [10] else [] : Bytes), b ≤ 32 := by
        cases fmt <;> simp
      have hle : (membersText fmt (depth + 1) (memberTexts fmt (depth + 1) members)).length ≤
          ((Json.obj members).text fmt depth).length := by
        simp only [Json.text, objectText, List.length_append]
        omega
      obtain ⟨child, hchild, hrep⟩ := parseMembers_texts fmt (depth + 1) members hempty
        (hle.trans hsize) _ hline n rest fuel (by omega)
      obtain ⟨⟨name, j⟩, members, rfl⟩ := List.exists_cons_of_ne_nil hempty
      -- the first member starts with the quote of its name
      have hquote : peek (skip ((if fmt then [10] else []) ++
          (membersText fmt (depth + 1) (memberTexts fmt (depth + 1) ((name, j) :: members)) ++
            (tabs fmt n ++ 125 :: rest)))) = 34 := by
        rw [skip_append hline, memberTexts, membersText]
        simp only [List.append_assoc]
        rw [skip_append (tabs_le fmt (depth + 1))]
        exact congrArg peek (skip_cons (by decide) _)
      refine ⟨{ item with type := typeObject, child := child }, ?_, ⟨rfl, hrep⟩, rfl⟩
      rw [parseMembers_skip, hquote, if_neg (by decide), hchild]
      rfl

/-- The elements of an array, with whitespace in front. -/
theorem parseElements_texts [CDouble.Exact D] (fmt : Bool) (depth : ℕ) (elements : List Json)
    (hne : elements ≠ [])
    (hsize : (entriesText fmt (elementTexts fmt depth elements)).length ≤ sizeMax) (ws : Bytes)
    (hws : ∀ b ∈ ws, b ≤ 32) (rest : Bytes) (fuel : ℕ)
    (hfuel : 3 * (ws ++ (entriesText fmt (elementTexts fmt depth elements) ++ 93 :: rest)).length +
      1 < fuel) :
    ∃ child : List (CJSON D), parseElements fuel
        (ws ++ (entriesText fmt (elementTexts fmt depth elements) ++ 93 :: rest)) =
          .done (child, rest) ∧ RepresentsElements elements child := by
  obtain ⟨fuel, rfl⟩ := Nat.exists_eq_succ_of_ne_zero (Nat.ne_of_gt (Nat.zero_lt_of_lt hfuel))
  match elements, hne with
  | [j], _ =>
    have hentries : entriesText fmt (elementTexts fmt depth [j]) = j.text fmt depth := rfl
    obtain ⟨b, t, htext, hb, -⟩ := text_head fmt depth j
    have hskip :
        skip (ws ++ (j.text fmt depth ++ 93 :: rest)) = j.text fmt depth ++ 93 :: rest := by
      rw [skip_append hws, htext, List.cons_append, skip_cons hb]
    rw [hentries] at hfuel ⊢
    obtain ⟨item', hparse, hrep, -⟩ := parseValue_text fmt depth j newItem rfl hsize (93 :: rest)
      (numberEnd_cons (by decide) _) fuel (by rw [List.length_append] at hfuel; omega)
    refine ⟨[item'], ?_, hrep, trivial⟩
    rw [parseElements, hskip, hparse, Outcome.done_bind]
    simp only [skip_cons (show (32 : UInt8) < 93 by decide), peek_cons]
    rfl
  | j :: j' :: elements, _ =>
    have hentries : entriesText fmt (elementTexts fmt depth (j :: j' :: elements)) ++ 93 :: rest =
        j.text fmt depth ++ 44 :: ((if fmt then [32] else []) ++
          (entriesText fmt (elementTexts fmt depth (j' :: elements)) ++ 93 :: rest)) := by
      cases fmt <;> simp [elementTexts, entriesText]
    have hgap : ∀ b ∈ (if fmt then [32] else [] : Bytes), b ≤ 32 := by
      cases fmt <;> simp
    obtain ⟨b, t, htext, hb, -⟩ := text_head fmt depth j
    have hle := length_le_entriesText fmt (j.text fmt depth)
      (elementTexts fmt depth (j' :: elements))
    rw [hentries] at hfuel ⊢
    simp only [List.length_append, List.length_cons] at hfuel
    have hskip : ∀ more, skip (ws ++ (j.text fmt depth ++ 44 :: more)) =
        j.text fmt depth ++ 44 :: more := fun more => by
      rw [skip_append hws, htext, List.cons_append, skip_cons hb]
    obtain ⟨item', hparse, hrep, -⟩ := parseValue_text fmt depth j newItem rfl (hle.1.trans hsize)
      (44 :: ((if fmt then [32] else []) ++
        (entriesText fmt (elementTexts fmt depth (j' :: elements)) ++ 93 :: rest)))
      (numberEnd_cons (by decide) _) fuel
      (by simp only [List.length_append, List.length_cons]; omega)
    obtain ⟨child, hchild, hreps⟩ := parseElements_texts fmt depth (j' :: elements) nofun
      (hle.2.trans hsize) _ hgap rest fuel
      (by simp only [List.length_append, List.length_cons]; omega)
    refine ⟨item' :: child, ?_, hrep, hreps⟩
    rw [parseElements, hskip, hparse, Outcome.done_bind]
    simp only [skip_cons (show (32 : UInt8) < 44 by decide), peek_cons, List.drop_succ_cons,
      List.drop_zero, hchild]
    rfl

/-- The members of an object, with whitespace in front. -/
theorem parseMembers_texts [CDouble.Exact D] (fmt : Bool) (depth : ℕ)
    (members : List (CText × Json)) (hne : members ≠ [])
    (hsize : (membersText fmt depth (memberTexts fmt depth members)).length ≤ sizeMax) (ws : Bytes)
    (hws : ∀ b ∈ ws, b ≤ 32) (n : ℕ) (rest : Bytes) (fuel : ℕ)
    (hfuel : 3 * (ws ++ (membersText fmt depth (memberTexts fmt depth members) ++
      (tabs fmt n ++ 125 :: rest))).length + 1 < fuel) :
    ∃ child : List (CJSON D), parseMembers fuel
        (ws ++ (membersText fmt depth (memberTexts fmt depth members) ++
          (tabs fmt n ++ 125 :: rest))) = .done (child, rest) ∧
      RepresentsMembers members child := by
  obtain ⟨fuel, rfl⟩ := Nat.exists_eq_succ_of_ne_zero (Nat.ne_of_gt (Nat.zero_lt_of_lt hfuel))
  match members, hne with
  | (name, j) :: members, _ =>
    have hle : (quoted name.1).length + (j.text fmt depth).length +
        (membersText fmt depth (memberTexts fmt depth members)).length ≤
          (membersText fmt depth (memberTexts fmt depth ((name, j) :: members))).length := by
      simp only [memberTexts, membersText, List.length_append]
      omega
    -- the name, the colon and the value, with what is behind them
    have hmember : ∀ tail : Bytes, NumberEnd tail →
        3 * (j.text fmt depth ++ tail).length < fuel →
        ∃ child : CJSON D, Represents j child ∧ child.string = some name.1 ∧
          parseMembers (fuel + 1) (ws ++ (tabs fmt depth ++ (quoted name.1 ++
              58 :: (tabs fmt 1 ++ (j.text fmt depth ++ tail))))) =
            if peek (skip tail) = 44 then do
              let (next, value) ← parseMembers fuel ((skip tail).drop 1)
              return (child :: next, value)
            else if peek (skip tail) = 125 then .done ([child], (skip tail).drop 1)
            else .failed (skip tail) := by
      intro tail htail hlen
      obtain ⟨b, t, htext, hb, -⟩ := text_head fmt depth j
      obtain ⟨child, hparse, hrep, hname⟩ := parseValue_text fmt depth j
        ⟨typeString, none, 0, CDouble.ofInt 0, some name.1, []⟩ rfl
        (by omega) tail htail fuel hlen
      refine ⟨child, hrep, hname, ?_⟩
      have hskip : skip (ws ++ (tabs fmt depth ++ (quoted name.1 ++
          58 :: (tabs fmt 1 ++ (j.text fmt depth ++ tail))))) =
            quoted name.1 ++ 58 :: (tabs fmt 1 ++ (j.text fmt depth ++ tail)) := by
        rw [skip_append hws, skip_append (tabs_le fmt depth)]
        exact skip_cons (by decide) _
      have hskip' : skip (tabs fmt 1 ++ (j.text fmt depth ++ tail)) = j.text fmt depth ++ tail := by
        rw [skip_append (tabs_le fmt 1), htext, List.cons_append, skip_cons hb]
      rw [parseMembers, hskip, parseString_quoted newItem name.2 (by omega), Outcome.done_bind]
      simp only [skip_cons (show (32 : UInt8) < 58 by decide), peek_cons, List.drop_succ_cons,
        List.drop_zero, hskip', newItem]
      rw [if_neg (by decide), hparse]
      rfl
    have hline : ∀ b ∈ (if fmt then [10] else [] : Bytes), b ≤ 32 := by
      cases fmt <;> simp
    match members with
    | [] =>
      have hmembers : membersText fmt depth (memberTexts fmt depth [(name, j)]) ++
          (tabs fmt n ++ 125 :: rest) = tabs fmt depth ++ (quoted name.1 ++ 58 :: (tabs fmt 1 ++
            (j.text fmt depth ++
              ((if fmt then [10] else []) ++ (tabs fmt n ++ 125 :: rest))))) := by
        simp [memberTexts, membersText]
      rw [hmembers] at hfuel ⊢
      simp only [List.length_append, List.length_cons] at hfuel
      have htail : NumberEnd ((if fmt then [10] else []) ++ (tabs fmt n ++ 125 :: rest)) := by
        cases fmt
        · exact numberEnd_cons (by decide) _
        · exact numberEnd_cons (by decide) _
      obtain ⟨child, hrep, hname, hparse⟩ := hmember _ htail
        (by simp only [List.length_append, List.length_cons]; omega)
      refine ⟨[child], ?_, hname, hrep, trivial⟩
      rw [hparse, skip_close]
      rfl
    | m :: members =>
      have hmembers : membersText fmt depth (memberTexts fmt depth ((name, j) :: m :: members)) ++
          (tabs fmt n ++ 125 :: rest) = tabs fmt depth ++ (quoted name.1 ++ 58 :: (tabs fmt 1 ++
            (j.text fmt depth ++ 44 :: ((if fmt then [10] else []) ++
              (membersText fmt depth (memberTexts fmt depth (m :: members)) ++
                (tabs fmt n ++ 125 :: rest)))))) := by
        simp [memberTexts, membersText]
      rw [hmembers] at hfuel ⊢
      simp only [List.length_append, List.length_cons] at hfuel
      obtain ⟨child, hrep, hname, hparse⟩ := hmember (44 :: ((if fmt then [10] else []) ++
          (membersText fmt depth (memberTexts fmt depth (m :: members)) ++
            (tabs fmt n ++ 125 :: rest)))) (numberEnd_cons (by decide) _)
        (by simp only [List.length_append, List.length_cons]; omega)
      obtain ⟨next, hnext, hreps⟩ := parseMembers_texts fmt depth (m :: members) nofun
        (by omega) _ hline n rest fuel (by simp only [List.length_append, List.length_cons]; omega)
      refine ⟨child :: next, ?_, hname, hrep, hreps⟩
      rw [hparse, skip_cons (by decide), peek_cons, if_pos rfl, List.drop_succ_cons, List.drop_zero,
        hnext]
      rfl

end

end Values

/-- The text of a value is parsed up to its end, and the check for the terminator, where it is asked
for, succeeds. -/
theorem parseWithOpts_text [CDouble.Exact D] {fmt : Bool} {j : Json}
    (hsize : (j.text fmt 0).length ≤ sizeMax) (requireNullTerminated : Bool) :
    ∃ item : CJSON D, parseWithOpts (j.text fmt 0) requireNullTerminated = .done (item, []) ∧
      Represents j item := by
  have hskip : skip (j.text fmt 0) = j.text fmt 0 := by
    obtain ⟨b, t, htext, hb, -⟩ := text_head fmt 0 j
    rw [htext, skip_cons hb]
  obtain ⟨item, hparse, hrep, -⟩ := parseValue_text (D := D) fmt 0 j newItem rfl hsize []
    (by decide) (3 * (j.text fmt 0).length + 3) (by rw [List.append_nil]; omega)
  rw [List.append_nil] at hparse
  refine ⟨item, ?_, hrep⟩
  rw [parseWithOpts, hskip, hparse, Outcome.done_bind]
  cases requireNullTerminated <;> rfl

/-- **The round trip.** What is printed for an item that represents a value, formatted or not, is
parsed as an item that represents the value, up to the end of the text; here the text of the value
is so short that every size fits into an `int`. -/
theorem parseWithOpts_printValue [CDouble.Exact D] {j : Json} {item : CJSON D} {fmt : Bool}
    (hitem : Represents j item) (hsize : (j.text fmt 0).length + 64 ≤ 1073741824)
    (requireNullTerminated : Bool) :
    ∃ (text : Bytes) (item' : CJSON D), printValue fmt 0 item = .ok text ∧
      parseWithOpts text requireNullTerminated = .done (item', []) ∧ Represents j item' := by
  have hint : (j.text fmt 0).length ≤ sizeMax := by
    rw [sizeMax]
    omega
  obtain ⟨item', hparse, hrep⟩ := parseWithOpts_text (D := D) hint requireNullTerminated
  exact ⟨_, item', (printValue_prints fmt 0 j item hitem).ok hsize, hparse, hrep⟩

/-- A formatted object with a number, a string and an array in it. -/
theorem parseWithOpts_printValue_object :
    ∃ (text : Bytes) (item' : CJSON ℚ),
      printValue true 0 (⟨6, none, 0, 0, none,
        [⟨3, none, -12, -12, some (ascii "n"), []⟩, ⟨4, some [34], 0, 0, some (ascii "s"), []⟩,
          ⟨5, none, 0, 0, some (ascii "a"), [⟨2, none, 0, 0, none, []⟩]⟩]⟩ : CJSON ℚ) = .ok text ∧
      parseWithOpts text true = .done (item', []) ∧
      Represents (.obj [(⟨ascii "n", by decide⟩, .num ⟨-12, by decide⟩),
        (⟨ascii "s", by decide⟩, .str ⟨[34], by decide⟩),
        (⟨ascii "a", by decide⟩, .arr [.null])]) item' := by
  refine parseWithOpts_printValue ?_ (by decide +kernel) true
  exact ⟨rfl, rfl, ⟨rfl, rfl, by simp [CDouble.ofInt]⟩, rfl, ⟨rfl, rfl⟩, rfl, ⟨rfl, rfl, trivial⟩,
    trivial⟩

end ControllerSystem.CJson
