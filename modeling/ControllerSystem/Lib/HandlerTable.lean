import Mathlib.Data.List.Induction
import Mathlib.Data.Int.Notation

/-!
# Tables of handlers

An array of functions, filled with one of them and then assigned to, place by place. It is read at a
signed index, which may be outside of the array.

* `getElem_build` — in each place is what was assigned last;
* `entry_natCast` — the indices of the table.
-/

namespace HandlerTable

variable {H : Type} {n : ℕ}

/-- Fill the array, and then make some assignments. -/
def build (n : ℕ) (unknow : H) (entries : List (ℕ × H)) : Vector H n :=
  entries.foldl (fun table e => table.setIfInBounds e.1 e.2) (Vector.replicate n unknow)

/-- The entry at an index. -/
def entry (table : Vector H n) (i : ℤ) : Option H := if 0 ≤ i then table[i.toNat]? else none

/-- In each place is what was assigned last. -/
theorem getElem_build {unknow : H} {entries : List (ℕ × H)} {i : ℕ} (hi : i < n) :
    (build n unknow entries)[i] = (entries.reverse.lookup i).getD unknow := by
  induction entries using List.reverseRecOn with
  | nil => exact Vector.getElem_replicate hi
  | append_singleton entries e ih =>
    have hbuild : build n unknow (entries ++ [e]) =
        (build n unknow entries).setIfInBounds e.1 e.2 := by
      rw [build, List.foldl_append]
      rfl
    obtain ⟨k, h⟩ := e
    rw [List.reverse_concat, List.lookup_cons]
    simp only [hbuild]
    by_cases hk : k = i
    · subst hk
      rw [Vector.getElem_setIfInBounds_self, beq_self_eq_true]
      rfl
    · have hne : (i == k) = false := beq_false_of_ne (Ne.symm hk)
      rw [Vector.getElem_setIfInBounds_ne hi hk, hne, ih]

/-- An index of the table. -/
theorem entry_natCast {table : Vector H n} {k : ℕ} (hk : k < n) :
    entry table k = some table[k] := by
  rw [entry, if_pos (Int.natCast_nonneg k), Int.toNat_natCast]
  exact Vector.getElem?_eq_getElem hk

end HandlerTable
