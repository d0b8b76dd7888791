import ControllerSystem.ControlCenter.Signup
import ControllerSystem.CJson.Lookup
import ControllerSystem.CJson.Roundtrip

/-!
# Sign-ups as JSON texts

`CSignup::insert` parses the text of a sign-up with `cJSON_Parse` and looks up its strings with
`cJSON_GetObjectItem`. Here the parser of the sign-ups is that of cJSON, and the text is one that
has been printed for an object.

* `signups_printed` — after any sign-ups with printed texts, the table has for each id the row it
  had before or the strings of the first object that has been added.
-/

open Words TextPointer KeyedRows

namespace ControllerSystem.ControlCenter

open CJson

variable (D : Type) [CDouble D]

/-- The strings of the root of a text, by name. `cJSON_Parse` gets a C string, and so does
`cJSON_GetObjectItem`. -/
def parseStrings (strJSON : Bytes) : Option JsonStrings :=
  match (parse (cstr strJSON) : Outcome (CJSON D)) with
  | .done root => some fun key => getString root (cstr key)
  | _ => none

/-- The strings of a value, by name. -/
def jsonStrings (j : Json) : JsonStrings :=
  fun key => j.getString (cstr key)

/-- The text has been printed for an item that means this value. -/
def IsPrinted (strJSON : Bytes) (j : Json) : Prop :=
  ∃ (item : CJSON D) (fmt : Bool), CJson.Represents j item ∧ printValue fmt 0 item = .ok strJSON

section Strings

variable {D} [CDouble.Exact D] [CDouble.Fits D]

omit [CDouble.Fits D] in
theorem IsPrinted.text {strJSON : Bytes} {j : Json} (h : IsPrinted D strJSON j) :
    ∃ fmt, strJSON = j.text fmt 0 ∧ (j.text fmt 0).length ≤ sizeMax := by
  obtain ⟨item, fmt, hitem, hprint⟩ := h
  rcases printValue_prints fmt 0 j item hitem with ⟨htext, hsize⟩ | ⟨herr, -⟩
  · rw [htext] at hprint
    cases hprint
    exact ⟨fmt, rfl, hsize⟩
  · rw [herr] at hprint
    cases hprint

/-- What is looked up in a printed text is what has been printed. -/
theorem IsPrinted.parseStrings {strJSON : Bytes} {j : Json} (h : IsPrinted D strJSON j) :
    parseStrings D strJSON = some (jsonStrings j) := by
  obtain ⟨fmt, rfl, hsize⟩ := h.text
  obtain ⟨root, hparse, hrep⟩ := parseWithOpts_text (D := D) hsize false
  have hwell := wellFormed_of_parseWithOpts hparse
  have hroot : (parse (j.text fmt 0) : Outcome (CJSON D)) = .done root := by
    rw [parse, hparse]
    rfl
  rw [ControlCenter.parseStrings, cstr_eq_self (zero_notMem_text fmt 0 j), hroot]
  exact congrArg some (funext fun key => getString_eq hrep hwell (zero_notMem_cstr key))

omit [CDouble.Fits D] in
theorem IsPrinted.ne_nil {strJSON : Bytes} {j : Json} (h : IsPrinted D strJSON j) :
    strJSON ≠ [] := by
  obtain ⟨fmt, rfl, -⟩ := h.text
  obtain ⟨b, t, htext, -⟩ := text_head fmt 0 j
  rw [htext]
  exact List.cons_ne_nil b t

end Strings

/-! ### The table after sign-ups -/

/-- No string in an object has a single quote. -/
def StringsQuoteFree : Json → Prop
  | .obj members => ∀ m ∈ members, ∀ v, m.2.valuestring = some v → sqlQuote ∉ v
  | _ => True

theorem jsonStrings_quoteFree {j : Json} (h : StringsQuoteFree j) :
    JsonQuoteFree (jsonStrings j) := by
  intro key v hv
  cases j with
  | obj members =>
    obtain ⟨m, hm, hv⟩ := Option.bind_eq_some_iff.mp hv
    exact h m (List.mem_of_find?_eq_some hm) v hv
  | null => cases hv
  | bool b => cases hv
  | num i => cases hv
  | str s => cases hv
  | arr elements => cases hv

/-- The calls of a step. -/
theorem signupStep_calls {cJSON_Parse : Bytes → Option JsonStrings} {s s' : Signups}
    {p : SignupPacket} (h : signupStep cJSON_Parse s p = some s') :
    ∀ c ∈ s'.calls, c ∈ s.calls ∨ c.root = signupRoot cJSON_Parse (signupText p.pData) := by
  obtain ⟨⟨nInsert, ideas, tr⟩, -, h⟩ := Option.bind_eq_some_iff.mp h
  obtain ⟨⟨n, ideas', tr'⟩, -, rfl⟩ := Option.map_eq_some_iff.mp h
  intro c hc
  rcases List.mem_append.mp hc with hold | hnew
  · exact .inl hold
  · obtain ⟨nInsert, -, rfl⟩ := List.mem_map.mp hnew
    exact .inr rfl

/-- Before the first sign-up. -/
theorem inv_of_represents {known : Bytes → Option UserRow} {ideas : Ideas}
    (hdb : Represents UserRow.id id ideas.user known) : Signups.Inv known ⟨ideas, []⟩ := by
  have hknown : firstWins known [] = known := funext fun strId => Option.or_none
  exact ⟨by rw [hknown]; exact hdb, fun i c hc => by cases hc⟩

variable {D} [CDouble.Exact D] [CDouble.Fits D]

/-- **Sign-ups from printed objects.** Let every sign-up have a text that has been printed for a
value whose strings have no single quote. Then the table has, for each id, the row it had before or
the first row added; and a row added has in each column the string at the first member of the
printed object that has the name of the column. -/
theorem signups_printed {known : Bytes → Option UserRow} {ideas : Ideas}
    (hdb : Represents UserRow.id id ideas.user known) {packets : List SignupPacket}
    (hselect : ∀ p ∈ packets, p.SelectsSucceed)
    (hprinted : ∀ p ∈ packets, ∃ j, IsPrinted D (signupText p.pData) j ∧ StringsQuoteFree j)
    {s : Signups}
    (h : (signupSystem (parseStrings D) ideas).Run (signupSystem (parseStrings D) ideas).init
      packets s) :
    Represents UserRow.id id s.ideas.user (firstWins known s.calls) ∧
      ∀ c ∈ s.calls, ∃ p ∈ packets, ∃ j, IsPrinted D (signupText p.pData) j ∧
        ∀ row, c.added = some row → row = userRow (jsonStrings j) := by
  have hroot : ∀ p ∈ packets, ∃ j, IsPrinted D (signupText p.pData) j ∧ StringsQuoteFree j ∧
      signupRoot (parseStrings D) (signupText p.pData) = some (jsonStrings j) := by
    intro p hp
    obtain ⟨j, hj, hquote⟩ := hprinted p hp
    exact ⟨j, hj, hquote, by rw [signupRoot, if_neg hj.ne_nil, hj.parseStrings]⟩
  have hquote : ∀ p ∈ packets, p.QuoteFree (parseStrings D) := by
    intro p hp root hsome
    obtain ⟨j, -, hj, hroot⟩ := hroot p hp
    rw [hroot] at hsome
    cases hsome
    exact jsonStrings_quoteFree hj
  have hrun : (signupSystem (parseStrings D) ideas).RunWhere (fun _ p => p ∈ packets) _ _ s :=
    h.runWhere fun p hp _ => hp
  have hstep : ∀ (s : Signups) (p : SignupPacket) (s' : Signups),
      (s.Inv known ∧ ∀ c ∈ s.calls, ∃ p ∈ packets,
        c.root = signupRoot (parseStrings D) (signupText p.pData)) →
      p ∈ packets → signupStep (parseStrings D) s p = some s' →
      s'.Inv known ∧ ∀ c ∈ s'.calls, ∃ p ∈ packets,
        c.root = signupRoot (parseStrings D) (signupText p.pData) := by
    intro s p s' hinv hp hstep
    refine ⟨hinv.1.step (hselect p hp) (hquote p hp) hstep, fun c hc => ?_⟩
    rcases signupStep_calls hstep c hc with hold | hnew
    · exact hinv.2 c hold
    · exact ⟨p, hp, hnew⟩
  have hinv := hrun.invariant hstep ⟨inv_of_represents hdb, fun c hc => by cases hc⟩
  refine ⟨hinv.1.user, fun c hc => ?_⟩
  obtain ⟨p, hp, hc⟩ := hinv.2 c hc
  obtain ⟨j, hj, -, hroot⟩ := hroot p hp
  refine ⟨p, hp, j, hj, fun row hrow => ?_⟩
  rw [SignupCall.added, hc, hroot] at hrow
  split_ifs at hrow
  exact (Option.some.inj hrow).symm

/-! ### One sign-up -/

/-- An object with the two strings that a sign-up needs. -/
def signUpJson : Json :=
  .obj [(⟨ascii "id", by decide⟩, .str ⟨ascii "u", by decide⟩),
    (⟨ascii "app_id", by decide⟩, .str ⟨ascii "a", by decide⟩)]

theorem signUpJson_isPrinted : IsPrinted ℚ signUpText signUpJson :=
  ⟨{ newItem with
      type := typeObject
      child := [
        { newItem with
          type := typeString, valuestring := some (ascii "u"), string := some (ascii "id") },
        { newItem with
          type := typeString, valuestring := some (ascii "a"), string := some (ascii "app_id") }] },
    false, ⟨rfl, rfl, ⟨rfl, rfl⟩, rfl, ⟨rfl, rfl⟩, trivial⟩, rfl⟩

theorem signUpWith_text (rc : ℤ) : signupText (signUpWith rc).pData = signUpText := by
  show signupText (signUpWith 0).pData = signUpText
  decide +kernel

/-- Two sign-ups of the object, into an empty table. -/
theorem signups_printed_one :
    ∃ s, (signupSystem (parseStrings ℚ) ⟨Center.start, []⟩).Run
        (signupSystem (parseStrings ℚ) ⟨Center.start, []⟩).init
        [signUpWith sqliteOk, signUpAgain] s ∧
      s.ideas.user = [userRow (jsonStrings signUpJson)] ∧
      Represents UserRow.id id s.ideas.user (firstWins (fun _ => none) s.calls) := by
  have hparse : parseStrings ℚ = fun strJSON =>
      if strJSON = signUpText then some (jsonStrings signUpJson) else parseStrings ℚ strJSON := by
    funext strJSON
    split_ifs with htext
    · rw [htext, signUpJson_isPrinted.parseStrings]
    · rfl
  have hmap : ((signupSystem (parseStrings ℚ) ⟨Center.start, []⟩).run
        (signupSystem (parseStrings ℚ) ⟨Center.start, []⟩).init
        [signUpWith sqliteOk, signUpAgain]).map (fun s => s.ideas.user) =
      some [userRow (jsonStrings signUpJson)] := by
    rw [hparse]
    decide +kernel
  obtain ⟨s, hs, huser⟩ := Option.map_eq_some_iff.mp hmap
  have hrun := LTS.System.run_eq_some_iff.mp hs
  have hpacket : ∀ p ∈ [signUpWith sqliteOk, signUpAgain],
      p.SelectsSucceed ∧ signupText p.pData = signUpText := by
    intro p hp
    rcases List.mem_pair.mp hp with rfl | rfl
    · exact ⟨signUpWith_selectsSucceed sqliteOk, signUpWith_text sqliteOk⟩
    · exact ⟨signUpAgain_selectsSucceed, signUpWith_text sqliteOk⟩
  refine ⟨s, hrun, huser, (signups_printed (D := ℚ) .nil (fun p hp => (hpacket p hp).1)
    (fun p hp => ⟨signUpJson, ?_, ?_⟩) hrun).1⟩
  · rw [(hpacket p hp).2]
    exact signUpJson_isPrinted
  · intro m hm v hv
    rcases List.mem_cons.mp hm with rfl | hm
    · cases hv
      decide
    · rw [List.mem_singleton.mp hm] at hv
      cases hv
      decide

end ControllerSystem.ControlCenter
