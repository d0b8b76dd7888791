import Mathlib.Data.List.Nodup

/-!
# Association lists

`List.lookup` on a list of pairs whose keys are different: a value is found under a key exactly when
the pair is in the list (`lookup_eq_some_iff`), so the order of the pairs does not matter
(`lookup_reverse`), and a list whose pairs are found in another one is a restriction of it
(`lookup_restrict`).
-/

namespace AssocList

variable {α β γ : Type} [BEq α] [LawfulBEq α] {l : List (α × β)} {k n : α} {v : β}

theorem lookup_cons_ne {e : α × β} (h : k ≠ e.1) : (e :: l).lookup k = l.lookup k := by
  obtain ⟨n, v⟩ := e
  have hk : (k == n) = false := beq_false_of_ne h
  rw [List.lookup_cons, hk]

/-- Leaving out the pairs with another key. -/
theorem lookup_filter_ne (h : k ≠ n) : (l.filter fun e => e.1 != n).lookup k = l.lookup k := by
  induction l with
  | nil => rfl
  | cons e l ih =>
    by_cases hn : e.1 = n
    · rw [List.filter_cons_of_neg (by simp [hn]), ih, lookup_cons_ne (hn ▸ h)]
    · rw [List.filter_cons_of_pos (by simpa using hn)]
      by_cases hk : k = e.1
      · subst hk
        rw [List.lookup_cons_self, List.lookup_cons_self]
      · rw [lookup_cons_ne hk, lookup_cons_ne hk, ih]

/-- A function applied to the values, which may depend on the keys. -/
theorem lookup_map (f : α → β → γ) :
    (l.map fun e => (e.1, f e.1 e.2)).lookup k = (l.lookup k).map (f k) := by
  induction l with
  | nil => rfl
  | cons e l ih =>
    by_cases hk : k = e.1
    · subst hk
      rw [List.map_cons, List.lookup_cons_self, List.lookup_cons_self]
      rfl
    · have hk' : k ≠ (e.1, f e.1 e.2).1 := hk
      rw [List.map_cons, lookup_cons_ne hk', lookup_cons_ne hk, ih]

/-- With different keys, what is found is what is there. -/
theorem lookup_eq_some_iff (h : (l.map Prod.fst).Nodup) : l.lookup k = some v ↔ (k, v) ∈ l := by
  induction l with
  | nil => simp
  | cons e l ih =>
    obtain ⟨hnotMem, hnodup⟩ := List.nodup_cons.mp h
    by_cases hk : k = e.1
    · subst hk
      -- no later pair has the key
      have hlater : (e.1, v) ∉ l := fun hmem => hnotMem (List.mem_map.mpr ⟨_, hmem, rfl⟩)
      rw [List.lookup_cons_self, Option.some.injEq, List.mem_cons, or_iff_left hlater]
      constructor
      · rintro rfl
        rfl
      · intro heq
        rw [← heq]
    · have hne : (k, v) ≠ e := fun heq => hk (congrArg Prod.fst heq)
      rw [lookup_cons_ne hk, ih hnodup, List.mem_cons, or_iff_right hne]

theorem lookup_reverse (h : (l.map Prod.fst).Nodup) : l.reverse.lookup k = l.lookup k := by
  ext v
  have hreverse : (l.reverse.map Prod.fst).Nodup := by
    rw [List.map_reverse]
    exact List.nodup_reverse.mpr h
  rw [lookup_eq_some_iff hreverse, lookup_eq_some_iff h, List.mem_reverse]

/-- Pairs that are found in another list are that list, restricted to their keys. -/
theorem lookup_restrict {m : List (α × β)} (h : ∀ e ∈ l, m.lookup e.1 = some e.2) :
    l.lookup k = if k ∈ l.map Prod.fst then m.lookup k else none := by
  induction l with
  | nil => rfl
  | cons e l ih =>
    obtain ⟨he, hl⟩ := List.forall_mem_cons.mp h
    by_cases hk : k = e.1
    · subst hk
      rw [List.map_cons, List.lookup_cons_self, if_pos List.mem_cons_self, he]
    · rw [lookup_cons_ne hk, ih hl, List.map_cons]
      simp only [List.mem_cons, hk, false_or]

end AssocList
