import ControllerSystem.CJson.WellFormed

/-!
# Looking things up in JSON items

`cJSON_GetObjectItem` goes along the chain and compares names without regard to the case of letters;
the first member found wins. A chain without names, that of an array, has no member at all.

* `getString_eq` — of a parsed item, the string at a name is the one at the first member of the
  value with that name.
-/

open Words

namespace ControllerSystem.CJson

variable {D : Type}

/-! ### The functions -/

/-- `tolower`, of a byte. -/
def tolower (c : UInt8) : UInt8 := if 65 ≤ c ∧ c ≤ 90 then c + 32 else c

/-- The loop of `cJSON_strcasecmp`. -/
def strcasecmpLoop : Bytes → Bytes → ℤ
  | [], [] => 0
  | c₁ :: s₁, c₂ :: s₂ =>
    if tolower c₁ = tolower c₂ then strcasecmpLoop s₁ s₂
    else (tolower c₁).toNat - (tolower c₂).toNat
  | c₁ :: _, [] => (tolower c₁).toNat
  | [], c₂ :: _ => -(tolower c₂).toNat

/-- `cJSON_strcasecmp`; either string may be `NULL`. -/
def strcasecmp : Option Bytes → Option Bytes → ℤ
  | none, none => 0
  | none, some _ => 1
  | some _, none => 1
  | some s₁, some s₂ => strcasecmpLoop s₁ s₂

/-- `cJSON_GetObjectItem`. -/
def getObjectItem (object : CJSON D) (string : Bytes) : Option (CJSON D) :=
  object.child.find? fun c => strcasecmp c.string (some string) = 0

/-- `tag && (cJSON_String == tag->type)`, and then `tag->valuestring`. -/
def getString (root : CJSON D) (string : Bytes) : Option Bytes :=
  (getObjectItem root string).bind fun tag =>
    if tag.type = typeString then tag.valuestring else none

/-! ### Names -/

/-- The names are the same but for the case of letters. -/
def SameName (s₁ s₂ : Bytes) : Prop := s₁.map tolower = s₂.map tolower

instance (s₁ s₂ : Bytes) : Decidable (SameName s₁ s₂) :=
  inferInstanceAs (Decidable (_ = _))

theorem tolower_ne_zero {c : UInt8} (hc : c ≠ 0) : tolower c ≠ 0 := by
  rw [tolower]
  split_ifs with h
  · simp only [UInt8.le_iff_toNat_le, UInt8.reduceToNat] at h
    rw [ne_eq, ← UInt8.toNat_inj, UInt8.toNat_add]
    simp only [UInt8.reduceToNat]
    omega
  · exact hc

theorem strcasecmpLoop_eq_zero {s₁ s₂ : Bytes} (h₁ : 0 ∉ s₁) (h₂ : 0 ∉ s₂) :
    strcasecmpLoop s₁ s₂ = 0 ↔ SameName s₁ s₂ := by
  have hpos : ∀ {c : UInt8}, c ≠ 0 → (tolower c).toNat ≠ 0 := fun hc h =>
    tolower_ne_zero hc (UInt8.toNat_inj.mp h)
  induction s₁ generalizing s₂ with
  | nil =>
    rcases s₂ with - | ⟨c₂, s₂⟩
    · exact ⟨fun _ => rfl, fun _ => rfl⟩
    · have hc := hpos fun h => h₂ (h ▸ List.mem_cons_self ..)
      exact ⟨fun h => absurd (by simpa [strcasecmpLoop] using h) hc, nofun⟩
  | cons c₁ s₁ ih =>
    rcases s₂ with - | ⟨c₂, s₂⟩
    · have hc := hpos fun h => h₁ (h ▸ List.mem_cons_self ..)
      exact ⟨fun h => absurd (by simpa [strcasecmpLoop] using h) hc, nofun⟩
    · have ih := ih (fun h => h₁ (List.mem_cons_of_mem _ h)) fun h => h₂ (List.mem_cons_of_mem _ h)
      rw [strcasecmpLoop, SameName, List.map_cons, List.map_cons, List.cons_eq_cons]
      split_ifs with heq
      · exact ih.trans ⟨fun h => ⟨heq, h⟩, fun h => h.2⟩
      · -- the bytes differ
        have hne : (tolower c₁).toNat ≠ (tolower c₂).toNat := fun h => heq (UInt8.toNat_inj.mp h)
        exact ⟨fun h => absurd h (by omega), fun h => absurd h.1 heq⟩

/-! ### The value at a name -/

/-- The string that a value is. -/
def Json.valuestring : Json → Option Bytes
  | .str s => some s.1
  | _ => none

/-- The string at the first member with this name. -/
def Json.getString : Json → Bytes → Option Bytes
  | .obj members, string =>
    (members.find? fun m => SameName m.1.1 string).bind fun m => m.2.valuestring
  | _, _ => none

/-- An item has a string just where its value is one. -/
theorem Represents.valuestring [CDouble D] {j : Json} {c : CJSON D} (h : Represents j c)
    (hwell : WellFormed c) :
    (if c.type = typeString then c.valuestring else none) = j.valuestring := by
  have hmod : c.type % 256 = c.type := by
    have hlt : c.type < 256 := by
      cases hwell with
      | scalar htype => exact lt_of_le_of_lt htype (by decide)
      | string htype => exact htype ▸ (by decide)
      | array htype => exact htype ▸ (by decide)
      | object htype => exact htype ▸ (by decide)
    exact Nat.mod_eq_of_lt hlt
  cases j with
  | str s =>
    rw [Represents, hmod] at h
    rw [if_pos h.1, h.2, Json.valuestring]
  | null =>
    rw [Represents, hmod] at h
    exact if_neg (h ▸ by decide)
  | bool b =>
    rw [Represents, hmod] at h
    exact if_neg (h ▸ by cases b <;> decide)
  | num i =>
    rw [Represents, hmod] at h
    exact if_neg (h.1 ▸ by decide)
  | arr elements =>
    rw [Represents, hmod] at h
    exact if_neg (h.1 ▸ by decide)
  | obj members =>
    rw [Represents, hmod] at h
    exact if_neg (h.1 ▸ by decide)

/-- The chain of an object is searched as its members are. -/
theorem find?_members [CDouble D] {members : List (CText × Json)} {child : List (CJSON D)}
    (h : RepresentsMembers members child) (hwell : ∀ c ∈ child, WellFormed c) {string : Bytes}
    (hstring : 0 ∉ string) :
    ((child.find? fun c => strcasecmp c.string (some string) = 0).bind fun c =>
        if c.type = typeString then c.valuestring else none) =
      (members.find? fun m => SameName m.1.1 string).bind fun m => m.2.valuestring := by
  induction members generalizing child with
  | nil =>
    cases child with
    | nil => rfl
    | cons c next => exact h.elim
  | cons m members ih =>
    obtain ⟨name, j⟩ := m
    cases child with
    | nil => exact h.elim
    | cons c next =>
      obtain ⟨hname, hc, hnext⟩ := h
      obtain ⟨hwellc, hwell⟩ := List.forall_mem_cons.mp hwell
      have hcmp : (strcasecmp c.string (some string) = 0) ↔ SameName name.1 string := by
        rw [hname]
        exact strcasecmpLoop_eq_zero name.2 hstring
      by_cases hsame : SameName name.1 string
      · rw [List.find?_cons_of_pos (by simpa using hcmp.mpr hsame),
          List.find?_cons_of_pos (by simpa using hsame), Option.bind_some, hc.valuestring hwellc,
          Option.bind_some]
      · rw [List.find?_cons_of_neg (by simpa using hcmp.not.mpr hsame),
          List.find?_cons_of_neg (by simpa using hsame)]
        exact ih hnext hwell

/-- A chain without names has no member. -/
theorem getString_eq_none {root : CJSON D} (hname : ∀ c ∈ root.child, c.string = none)
    (string : Bytes) : getString root string = none := by
  rw [getString, getObjectItem, Option.bind_eq_none_iff]
  intro c hc
  have hcmp := List.find?_some hc
  rw [hname c (List.mem_of_find?_eq_some hc)] at hcmp
  exact absurd (of_decide_eq_true hcmp) (by simp [strcasecmp])

/-- **Looking up.** The string at a name in a parsed item is the one in the value. -/
theorem getString_eq [CDouble D] {j : Json} {root : CJSON D} (h : Represents j root)
    (hwell : WellFormed root) {string : Bytes} (hstring : 0 ∉ string) :
    getString root string = j.getString string := by
  have hnames : root.type ≠ typeObject → ∀ c ∈ root.child, c.string = none := by
    intro hne
    cases hwell with
    | scalar htype hint hchild => rw [hchild]; exact nofun
    | string htype hvalue hchild => rw [hchild]; exact nofun
    | array htype hname => exact hname
    | object htype => exact absurd htype hne
  have hother : ∀ t, t ≠ typeObject → root.type % 256 = t → getString root string = none := by
    intro t ht htype
    refine getString_eq_none (hnames fun hobject => ht ?_) string
    rw [← htype, hobject]
    rfl
  cases j with
  | obj members =>
    cases hwell with
    | scalar htype =>
      rw [Represents, Nat.mod_eq_of_lt (lt_of_le_of_lt htype (by decide))] at h
      exact absurd h.1 (ne_of_lt (lt_of_le_of_lt htype (by decide)))
    | string htype => rw [Represents, htype] at h; exact absurd h.1 (by decide)
    | array htype => rw [Represents, htype] at h; exact absurd h.1 (by decide)
    | object htype hname hchild => exact find?_members h.2 hchild hstring
  | null => exact hother _ (by decide) h
  | bool b => exact hother _ (by cases b <;> decide) h
  | num i => exact hother _ (by decide) h.1
  | str s => exact hother _ (by decide) h.1
  | arr elements => exact hother _ (by decide) h.1

end ControllerSystem.CJson
