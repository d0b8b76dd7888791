import ControllerSystem.Lib.AssocList

/-!
# Maps with insertion on access

`std::map` as the list of its pairs. `insert` leaves an old value alone, and `index`, which is
`operator[]`, inserts a default value where there is none; what is done through the reference it
returns is `modify`.

* `index_of_lookup` — access to what is there changes nothing;
* `insert_of_lookup_eq_none`, `modify_id` — a new value, and a change that is none.
-/

namespace StdMap

variable {κ ν : Type} [BEq κ] {m : List (κ × ν)} {k n : κ} {v : ν}

def insert (m : List (κ × ν)) (k : κ) (v : ν) : List (κ × ν) :=
  if (m.lookup k).isSome then m else m ++ [(k, v)]

/-- `operator[]`: the value, and the map. -/
def index (default : ν) (m : List (κ × ν)) (k : κ) : ν × List (κ × ν) :=
  match m.lookup k with
  | some v => (v, m)
  | none => (default, m ++ [(k, default)])

/-- A change of one value in its place. -/
def modify (m : List (κ × ν)) (k : κ) (f : ν → ν) : List (κ × ν) :=
  m.map fun e => (e.1, if e.1 == k then f e.2 else e.2)

theorem insert_of_lookup_eq_none (h : m.lookup k = none) : insert m k v = m ++ [(k, v)] := by
  rw [insert, h]
  rfl

/-- Access to a value that is there. -/
theorem index_of_lookup {default : ν} (h : m.lookup k = some v) : index default m k = (v, m) := by
  rw [index, h]

theorem modify_id {f : ν → ν} (hf : ∀ v, f v = v) : modify m k f = m := by
  have hmap : (fun e : κ × ν => (e.1, if e.1 == k then f e.2 else e.2)) = id := by
    funext e
    rw [hf, ite_self]
    rfl
  rw [modify, hmap, List.map_id]

end StdMap
