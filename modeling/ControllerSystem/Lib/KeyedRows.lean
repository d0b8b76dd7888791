import Mathlib.Data.List.Nodup
import Mathlib.Logic.Function.Basic

/-!
# Lists of rows as finite maps

A list of rows that never holds two rows with one key is a finite map. `Represents key val rows m`
says which one, for a table whose rows have a key and a value; each operation on the table has a
lemma that says what it does to the map. The table itself enforces nothing: a row may be added
only while its key is absent.
-/

namespace KeyedRows

variable {Row Key Val : Type} {key : Row → Key} {val : Row → Val} {rows : List Row}
  {m : Key → Option Val}

/-- Removing the rows of some values, and then those of some others. -/
theorem filter_notMem_append [DecidableEq Val] (rows : List Row) (vs ws : List Val) :
    ((rows.filter fun r => val r ∉ vs).filter fun r => val r ∉ ws) =
      rows.filter fun r => val r ∉ vs ++ ws := by
  rw [List.filter_filter]
  refine List.filter_congr fun r _ => ?_
  simp [not_or, Bool.and_comm]

/-- The rows have distinct keys, and are the graph of the map. -/
structure Represents (key : Row → Key) (val : Row → Val) (rows : List Row)
    (m : Key → Option Val) : Prop where
  nodup : (rows.map key).Nodup
  eq_some_iff : ∀ k v, m k = some v ↔ ∃ r ∈ rows, key r = k ∧ val r = v

namespace Represents

theorem nil : Represents key val [] fun _ => none :=
  ⟨List.nodup_nil, fun k v => by simp⟩

theorem eq_some (h : Represents key val rows m) {r : Row} (hr : r ∈ rows) :
    m (key r) = some (val r) := (h.eq_some_iff _ _).mpr ⟨r, hr, rfl, rfl⟩

theorem eq_none (h : Represents key val rows m) {k : Key} (hk : m k = none) :
    ∀ r ∈ rows, key r ≠ k := by
  rintro r hr rfl
  rw [h.eq_some hr] at hk
  cases hk

/-- Rows with one key are one row. -/
theorem eq_of_key_eq (h : Represents key val rows m) {r r' : Row} (hr : r ∈ rows)
    (hr' : r' ∈ rows) (hkey : key r = key r') : r = r' :=
  List.inj_on_of_nodup_map h.nodup hr hr' hkey

variable [DecidableEq Key]

/-- The rows of a key are removed. -/
theorem filter_key (h : Represents key val rows m) (k : Key) :
    Represents key val (rows.filter fun r => key r ≠ k) (Function.update m k none) := by
  refine ⟨h.nodup.sublist (List.filter_sublist.map _), fun k' v => ?_⟩
  rcases eq_or_ne k' k with rfl | hne
  · -- the key itself: no row with it is left
    rw [Function.update_self]
    constructor
    · intro hnone
      cases hnone
    · rintro ⟨r, hr, hkey, -⟩
      have hne := (List.mem_filter.mp hr).2
      simp [hkey] at hne
  · -- any other key: its row passes the filter
    rw [Function.update_of_ne hne, h.eq_some_iff]
    constructor
    · rintro ⟨r, hr, rfl, hval⟩
      exact ⟨r, List.mem_filter.mpr ⟨hr, by simpa using hne⟩, rfl, hval⟩
    · rintro ⟨r, hr, hkey, hval⟩
      exact ⟨r, List.mem_of_mem_filter hr, hkey, hval⟩

/-- A row with a new key is added. -/
theorem append (h : Represents key val rows m) {r : Row} (hnew : m (key r) = none) :
    Represents key val (rows ++ [r]) (Function.update m (key r) (some (val r))) := by
  refine ⟨?_, fun k v => ?_⟩
  · -- the keys stay distinct: no row has the new one yet
    rw [List.map_append, List.nodup_append]
    refine ⟨h.nodup, List.nodup_singleton _, ?_⟩
    intro k hk k' hk'
    obtain ⟨r', hr', rfl⟩ := List.mem_map.mp hk
    rw [List.map_singleton, List.mem_singleton] at hk'
    rw [hk']
    exact h.eq_none hnew r' hr'
  · rcases eq_or_ne k (key r) with rfl | hne
    · -- the new key: its one row is the new row
      rw [Function.update_self, Option.some.injEq]
      constructor
      · rintro rfl
        exact ⟨r, by simp, rfl, rfl⟩
      · rintro ⟨r', hr', hkey, rfl⟩
        rcases List.mem_append.mp hr' with hr' | hr'
        · exact absurd hkey (h.eq_none hnew r' hr')
        · rw [List.mem_singleton.mp hr']
    · -- any other key: the new row is not its row
      rw [Function.update_of_ne hne, h.eq_some_iff]
      constructor
      · rintro ⟨r', hr', hkey, hval⟩
        exact ⟨r', List.mem_append_left _ hr', hkey, hval⟩
      · rintro ⟨r', hr', rfl, hval⟩
        rcases List.mem_append.mp hr' with hr' | hr'
        · exact ⟨r', hr', rfl, hval⟩
        · rw [List.mem_singleton.mp hr'] at hne
          exact absurd rfl hne

omit [DecidableEq Key] in
/-- The rows with a value are removed. -/
theorem filter_val [DecidableEq Val] (h : Represents key val rows m) (v : Val) :
    Represents key val (rows.filter fun r => val r ≠ v)
      (fun k => if m k = some v then none else m k) := by
  refine ⟨h.nodup.sublist (List.filter_sublist.map _), fun k v' => ?_⟩
  constructor
  · intro hsome
    split at hsome
    · cases hsome
    · next hne =>
      obtain ⟨r, hr, rfl, rfl⟩ := (h.eq_some_iff _ _).mp hsome
      refine ⟨r, List.mem_filter.mpr ⟨hr, ?_⟩, rfl, rfl⟩
      rw [hsome] at hne
      simpa using hne
  · rintro ⟨r, hr, rfl, rfl⟩
    obtain ⟨hr, hne⟩ := List.mem_filter.mp hr
    rw [h.eq_some hr, if_neg (by simpa using hne)]

/-- Looking a key up. -/
theorem lookup (h : Represents key val rows m) (k : Key) :
    (rows.filter fun r => key r = k).map val = (m k).toList := by
  cases hk : m k with
  | none =>
    have hnil : rows.filter (fun r => key r = k) = [] := by
      refine List.filter_eq_nil_iff.mpr fun r hr => ?_
      simpa using h.eq_none hk r hr
    rw [hnil]
    rfl
  | some v =>
    obtain ⟨r, hr, rfl, rfl⟩ := (h.eq_some_iff _ _).mp hk
    -- `r` is the only row with its key, so the filter leaves just this row
    have hone : rows.filter (fun r' => key r' = key r) = [r] := by
      have hnodup : (rows.filter fun r' => key r' = key r).Nodup :=
        (h.nodup.of_map _).sublist List.filter_sublist
      have hmem : ∀ r', r' ∈ rows.filter (fun r' => key r' = key r) ↔ r' ∈ [r] := by
        intro r'
        rw [List.mem_filter, List.mem_singleton]
        constructor
        · rintro ⟨hr', hkey⟩
          exact h.eq_of_key_eq hr' hr (by simpa using hkey)
        · rintro rfl
          exact ⟨hr, by simp⟩
      exact List.perm_singleton.mp
        ((List.perm_ext_iff_of_nodup hnodup (List.nodup_singleton r)).mpr hmem)
    rw [hone]
    rfl

end Represents
end KeyedRows
