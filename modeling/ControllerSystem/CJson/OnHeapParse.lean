import ControllerSystem.CJson.OnHeap

/-!
# Parsing on the heap

The parsers on the heap and those on trees go through the same texts in the same steps. What the
parsers on the heap have allocated is, wherever they stop, a tree that hangs at the item they have
got. `Sim` relates how the two end.

* `parseWithOpts_sim` — where `cJSON_ParseWithOpts` returns an item, the heap has the blocks of its
  tree beside those it had before; where it returns `NULL`, the heap is as it was.
* `parseWithOpts_refines` — where the allocator does not fail, it ends as it does on trees.
* `delete_parse` — parsing a text and deleting the item leaves the heap as it was.
-/

open Words TextPointer DecimalText Allocation

namespace ControllerSystem.CJson.OnHeap

variable {D : Type} [CDouble D]

/-! ### The parser on the heap -/

/-- A program has come to what the function on trees comes to, with `R`, or it has returned `NULL`,
with `F`, because the function fails or, with `P`, because the allocator has. -/
def Sim {α β : Type} (P : Prop) (R : α → β → Memory (Block D) → Prop)
    (F : Memory (Block D) → Prop) : Result (Block D) (Option Bytes) α → Outcome β → Prop
  | .done a s, o => ∃ b, o = .done b ∧ R a b s
  | .early (some ep) s, o => o = .failed ep ∧ F s
  | .early none s, _ => P ∧ F s
  | .fault, o => o = .undefined
  | .outOfFuel, o => o = .outOfFuel

section Sim

omit [CDouble D]

variable {α β γ δ : Type} {P P' : Prop} {R : α → β → Memory (Block D) → Prop}
  {R' : γ → δ → Memory (Block D) → Prop} {F F' : Memory (Block D) → Prop} {s : Memory (Block D)}

theorem Sim.bind {x : HeapCode D α} {o : Outcome β} {f : α → HeapCode D γ} {g : β → Outcome δ}
    (hx : Sim P R F (x.run s) o) (hF : ∀ s, F s → F' s)
    (hf : ∀ a b s, R a b s → Sim P R' F' ((f a).run s) (g b)) :
    Sim P R' F' ((x >>= f).run s) (o >>= g) := by
  rw [Code.run_bind]
  generalize x.run s = r at hx ⊢
  rcases r with ⟨a, s⟩ | ⟨- | ep, s⟩ | - | -
  · obtain ⟨b, rfl, hR⟩ := hx
    exact hf a b s hR
  · exact ⟨hx.1, hF s hx.2⟩
  · obtain ⟨rfl, hs⟩ := hx
    exact ⟨rfl, hF s hs⟩
  · cases (hx : o = .undefined)
    rfl
  · cases (hx : o = .outOfFuel)
    rfl

/-- A call in the last place, after which the function on trees adds something to its result. -/
theorem Sim.last {x : HeapCode D α} {o : Outcome β} {g : β → Outcome δ}
    {R' : α → δ → Memory (Block D) → Prop} (hx : Sim P R F (x.run s) o) (hP : P → P')
    (hF : ∀ s, F s → F' s)
    (hg : ∀ a b s, R a b s → ∃ d, g b = .done d ∧ R' a d s) :
    Sim P' R' F' (x.run s) (o >>= g) := by
  generalize x.run s = r at hx ⊢
  rcases r with ⟨a, s⟩ | ⟨- | ep, s⟩ | - | -
  · obtain ⟨b, rfl, hR⟩ := hx
    exact hg a b s hR
  · exact ⟨hP hx.1, hF s hx.2⟩
  · obtain ⟨rfl, hs⟩ := hx
    exact ⟨rfl, hF s hs⟩
  · cases (hx : o = .undefined)
    rfl
  · cases (hx : o = .outOfFuel)
    rfl

/-- What comes where `NULL` has been returned. -/
theorem Sim.onEarly {x : HeapCode D α} {o : Outcome β} {f : Option Bytes → HeapCode D α}
    (hx : Sim P R F (x.run s) o)
    (hf : ∀ ep s, F s → ∃ s', (f ep).run s = .early ep s' ∧ F' s') :
    Sim P R F' ((x.onEarly f).run s) o := by
  rw [Code.run_onEarly]
  generalize x.run s = r at hx ⊢
  rcases r with ⟨a, s⟩ | ⟨- | ep, s⟩ | - | -
  · exact hx
  · obtain ⟨s', hrun, hs'⟩ := hf none s hx.2
    dsimp only
    rw [hrun]
    exact ⟨hx.1, hs'⟩
  · obtain ⟨s', hrun, hs'⟩ := hf (some ep) s hx.2
    dsimp only
    rw [hrun]
    exact ⟨hx.1, hs'⟩
  · exact hx
  · exact hx

theorem Sim.mono {R' : α → β → Memory (Block D) → Prop} {r : Result (Block D) (Option Bytes) α}
    {o : Outcome β} (hx : Sim P R F r o) (hR : ∀ a b s, R a b s → R' a b s)
    (hF : ∀ s, F s → F' s) : Sim P R' F' r o := by
  rcases r with ⟨a, s⟩ | ⟨- | ep, s⟩ | - | -
  · obtain ⟨b, rfl, h⟩ := hx
    exact ⟨b, rfl, hR a b s h⟩
  · exact ⟨hx.1, hF s hx.2⟩
  · exact ⟨hx.1, hF s hx.2⟩
  · exact hx
  · exact hx

theorem Sim.step {x : HeapCode D γ} {a : γ} {s s' : Memory (Block D)} {f : γ → HeapCode D α}
    {o : Outcome β} (hx : x.run s = .done a s') (hf : Sim P R F ((f a).run s') o) :
    Sim P R F ((x >>= f).run s) o := by
  rwa [Code.bind_done hx]

end Sim

section Parse

variable {m : Allocator (Block D)} {h : Heap (Block D)} {s : Memory (Block D)} {c : Owned D}
  {prev next : Option ℕ} {bs : Multiset (ℕ × Block D)}

omit [CDouble D] in
theorem setItem_adds {a : ℕ} {n : Node D} (f : Node D → Node D)
    (hs : Adds h ((a, .item n) ::ₘ bs) s.heap) :
    ∃ s', (setItem a f).run s = .done () s' ∧ Adds h ((a, .item (f n)) ::ₘ bs) s'.heap :=
  ⟨_, setItem_done hs.head f, hs.set _⟩

/-- Nothing hangs at the item but its name. -/
def Owned.Blank (c : Owned D) : Prop := c.valuestring = none ∧ c.child = []

/-- The item gets a string. -/
def Owned.withString (c : Owned D) (p : ℕ × Bytes) : Owned D :=
  { c with valuestring := some p, type := ⟨typeString, by decide⟩ }

omit [CDouble D] in
theorem parseString_sim (hc : c.Blank) (hs : Adds h (c.blocks prev next) s.heap) (str : Bytes) :
    Sim (m.Fails h) (fun rest b s' => rest = b.2 ∧ rest.length < str.length ∧ ∃ p : ℕ × Bytes,
        (c.withString p).erase = b.1 ∧ Adds h ((c.withString p).blocks prev next) s'.heap)
      (fun s' => Adds h (c.blocks prev next) s'.heap)
      ((parseString m c.addr str).run s) (CJson.parseString c.erase str) := by
  have hends := parseString_ends c.erase str
  rw [parseString]
  rw [CJson.parseString] at hends ⊢
  split_ifs with hquote
  · exact ⟨rfl, hs⟩
  rw [if_neg hquote] at hends
  rcases hscan : scan (str.drop 1) 0 with - | len
  · exact rfl
  dsimp only
  by_cases hint : sizeMax < len + 1
  · -- the size is not an `int`
    rw [if_pos hint]
    rcases unescape (str.drop 1) with - | ⟨t, ptr⟩
    · exact rfl
    · exact if_neg fun h => Nat.not_le_of_lt hint h.1
  rw [if_neg hint]
  replace hint := Nat.le_of_not_lt hint
  rcases Code.malloc_cases m (len + 1) (.text [] : Block D) s with
    ⟨out, s', hm, hnone, hheap⟩ | ⟨s', hm, hheap, hnull⟩
  · refine Sim.step hm ?_
    dsimp only
    rcases hun : unescape (str.drop 1) with - | ⟨t, ptr⟩
    · exact rfl
    rw [hscan, hun] at hends
    dsimp only at hends ⊢
    by_cases hroom : t.length + 1 ≤ len + 1
    · have hboth := And.intro hint hroom
      -- the new block beside those of the item, which then points to it
      rw [if_pos hboth] at hends
      rw [if_pos hroom, if_pos hboth]
      have hnew : Adds h ((out, .text []) ::ₘ c.blocks prev next) s'.heap := by
        rw [hheap]
        exact hs.cons hnone _
      refine Sim.step (Code.store_done hnew.head (.text t)) ?_
      have hset := hnew.set (.text t)
      rw [Owned.blocks, Multiset.cons_swap] at hset
      obtain ⟨s'', hitem, hadds⟩ := setItem_adds
        (s := { s' with heap := Function.update s'.heap out (some (.text t)) })
        (fun n => { n with valuestring := some out, type := typeString }) hset
      refine Sim.step hitem ⟨_, rfl, rfl, hends.2, (out, t), ?_, ?_⟩
      · rw [Owned.erase_eq, Owned.erase_eq]
        rfl
      · have hblocks : (c.withString (out, t)).blocks prev next =
            (c.addr, .item { c.node prev next with
              valuestring := some out, type := typeString }) ::ₘ
              (out, .text t) ::ₘ c.rest := by
          rw [Owned.blocks, Owned.rest_eq, Owned.rest_eq, hc.1, textBlock_none, zero_add,
            ← Multiset.singleton_add (out, _)]
          rfl
        rwa [hblocks]
    · rw [if_neg hroom, if_neg fun h => hroom h.2]
      exact rfl
  · -- the heap on which the allocator has failed has only blocks of the parser beside `h`
    refine Sim.step hm ⟨⟨_, _, _, _, hs, hnull⟩, ?_⟩
    show Adds h _ s'.heap
    rwa [hheap]

/-- What `parse_value` has made of the item at an address, from a text of this length. -/
def ValueDone (h : Heap (Block D)) (prev next : Option ℕ) (a len : ℕ) (rest : Bytes)
    (b : CJSON D × Bytes) (s : Memory (Block D)) : Prop :=
  rest = b.2 ∧ ∃ c : Owned D, c.addr = a ∧ c.erase = b.1 ∧ Adds h (c.blocks prev next) s.heap ∧
    c.count + rest.length ≤ len + 1

/-- What it has left where it has failed. -/
def ValueNull (h : Heap (Block D)) (prev next : Option ℕ) (a len : ℕ) (s : Memory (Block D)) :
    Prop :=
  ∃ c : Owned D, c.addr = a ∧ Adds h (c.blocks prev next) s.heap ∧ c.count ≤ len + 1

/-- The chain from an address on. -/
def ChainDone (h : Heap (Block D)) (prev : Option ℕ) (a len : ℕ) (rest : Bytes)
    (b : List (CJSON D) × Bytes) (s : Memory (Block D)) : Prop :=
  rest = b.2 ∧ ∃ (c : Owned D) (cs : List (Owned D)), c.addr = a ∧ eraseAll (c :: cs) = b.1 ∧
    Adds h (chain prev (c :: cs)) s.heap ∧ countAll (c :: cs) + rest.length ≤ len

/-- The chain up to where the parser has failed. -/
def ChainNull (h : Heap (Block D)) (prev : Option ℕ) (a len : ℕ) (s : Memory (Block D)) : Prop :=
  ∃ (c : Owned D) (cs : List (Owned D)), c.addr = a ∧ Adds h (chain prev (c :: cs)) s.heap ∧
    countAll (c :: cs) ≤ len + 1

omit [CDouble D] in
theorem setItem_owned (c' : Owned D) (prev' next' : Option ℕ) (f : Node D → Node D)
    (hs : Adds h (c.blocks prev next + bs) s.heap) (haddr : c'.addr = c.addr)
    (hnode : f (c.node prev next) = c'.node prev' next') (hrest : c'.rest = c.rest) :
    ∃ s', (setItem c.addr f).run s = .done () s' ∧
      Adds h (c'.blocks prev' next' + bs) s'.heap := by
  rw [Owned.blocks, Multiset.cons_add] at hs
  obtain ⟨s', hrun, hadds⟩ := setItem_adds f hs
  refine ⟨s', hrun, ?_⟩
  rwa [Owned.blocks, Multiset.cons_add, haddr, ← hnode, hrest]

/-- A new item. -/
def fresh (D : Type) [CDouble D] (a : ℕ) : Owned D :=
  ⟨a, ⟨0, by decide⟩, none, 0, CDouble.ofInt 0, none, []⟩

theorem fresh_blank (a : ℕ) : (fresh D a).Blank := ⟨rfl, rfl⟩

theorem fresh_erase (a : ℕ) : (fresh D a).erase = CJson.newItem := by
  rw [Owned.erase_eq, fresh, eraseAll_nil]
  rfl

theorem newItem_cases (hs : Adds h bs s.heap) :
    (∃ a s', (newItem m).run s = .done (some a) s' ∧
      Adds h (bs + (fresh D a).blocks none none) s'.heap) ∨
    ∃ s', (newItem m).run s = .done none s' ∧ Adds h bs s'.heap ∧ m.Fails h := by
  rcases Code.malloc_cases m sizeofItem (.item zeroNode : Block D) s with
    ⟨a, s', hm, hnone, hheap⟩ | ⟨s', hm, hheap, hnull⟩
  · refine .inl ⟨a, s', hm, ?_⟩
    have hblocks : bs + (fresh D a).blocks none none = (a, .item zeroNode) ::ₘ bs := by
      rw [Owned.blocks, Owned.rest_eq, fresh, add_comm, textBlock_none, chain_nil]
      rfl
    rw [hheap, hblocks]
    exact hs.cons hnone _
  · exact .inr ⟨s', hm, by rwa [hheap], _, _, _, _, hs, hnull⟩

omit [CDouble D] in
/-- A value without blocks of its own. -/
theorem scalar_sim (c' : Owned D) {f : Node D → Node D} {item' : CJSON D} {value rest : Bytes}
    (hc : c'.child = []) (hs : Adds h (c.blocks prev next) s.heap) (haddr : c'.addr = c.addr)
    (hnode : f (c.node prev next) = c'.node prev next) (hrest : c'.rest = c.rest)
    (herase : c'.erase = item') (hle : rest.length ≤ value.length) :
    Sim (m.Fails h) (ValueDone h prev next c.addr value.length)
      (ValueNull h prev next c.addr value.length)
      ((do setItem c.addr f; pure rest : HeapCode D Bytes).run s) (.done (item', rest)) := by
  rw [← add_zero (c.blocks prev next)] at hs
  obtain ⟨s', hset, hadds⟩ := setItem_owned c' prev next f hs haddr hnode hrest
  rw [add_zero] at hadds
  refine Sim.step hset ⟨_, rfl, rfl, c', haddr, herase, hadds, ?_⟩
  rw [Owned.count_eq, hc, countAll_nil]
  omega

theorem parseNumber_sim (hc : c.Blank) (hs : Adds h (c.blocks prev next) s.heap) {num : Bytes}
    (hnum : peek num = 45 ∨ IsDigit (peek num)) :
    Sim (m.Fails h) (ValueDone h prev next c.addr num.length)
      (ValueNull h prev next c.addr num.length)
      ((parseNumber c.addr num).run s) (.done (CJson.parseNumber c.erase num)) := by
  have hends := parseNumber_ends (CJson.newItem : CJSON D) hnum
  generalize hr : CJson.parseNumber (CJson.newItem : CJSON D) num = r at hends
  have herase : CJson.parseNumber c.erase num =
      ({ c.erase with
        valuedouble := r.1.valuedouble, valueint := r.1.valueint, type := typeNumber }, r.2) := by
    rw [← hr]
    rfl
  rw [parseNumber, hr, herase]
  refine scalar_sim { c with
    type := 3, valueint := r.1.valueint, valuedouble := r.1.valuedouble } hc.2 hs rfl rfl ?_ ?_
    (Nat.le_of_lt hends.2)
  · rw [Owned.rest_eq, Owned.rest_eq]
  · rw [Owned.erase_eq, Owned.erase_eq]
    rfl

/-- What comes behind an item: a comma and more items, or the end. -/
theorem more_sim {loop : ℕ → Bytes → HeapCode D Bytes}
    {loopT : Bytes → Outcome (List (CJSON D) × Bytes)} {rest : Bytes} {close : UInt8} {len : ℕ}
    (hclose : close ≠ 0) (hs : Adds h (c.blocks prev none) s.heap)
    (hlen : c.count + rest.length ≤ len + 1)
    (hloop : ∀ a h s, Adds h ((fresh D a).blocks (some c.addr) none) s.heap →
      Sim (m.Fails h) (ChainDone h (some c.addr) a ((skip rest).drop 1).length)
        (ChainNull h (some c.addr) a ((skip rest).drop 1).length)
        ((loop a ((skip rest).drop 1)).run s) (loopT ((skip rest).drop 1))) :
    Sim (m.Fails h) (ChainDone h prev c.addr len) (ChainNull h prev c.addr len)
      ((if peek (skip rest) = 44 then (do
          match ← newItem m with
          | none => Code.throw none
          | some new =>
            setItem c.addr fun n => { n with next := some new }
            setItem new fun n => { n with prev := some c.addr }
            loop new ((skip rest).drop 1))
        else if peek (skip rest) = close then pure ((skip rest).drop 1)
        else Code.throw (some (skip rest))).run s)
      (if peek (skip rest) = 44 then (do
          let (next, value) ← loopT ((skip rest).drop 1)
          return (c.erase :: next, value))
        else if peek (skip rest) = close then return ([c.erase], (skip rest).drop 1)
        else .failed (skip rest)) := by
  have hle := (skip_suffix rest).length_le
  have hnull : ∀ {s : Memory (Block D)}, Adds h (c.blocks prev none) s.heap →
      ChainNull h prev c.addr len s := by
    intro s hs
    refine ⟨c, [], rfl, ?_, ?_⟩
    · rwa [chain_cons, chain_nil, add_zero]
    · rw [countAll_cons, countAll_nil]
      omega
  by_cases hcomma : peek (skip rest) = 44
  · have hlt : ((skip rest).drop 1).length < (skip rest).length :=
      length_drop_lt hcomma (by decide) 0
    rw [if_pos hcomma, if_pos hcomma]
    rcases newItem_cases (m := m) hs with ⟨a, s₁, hnew, hs₁⟩ | ⟨s₁, hnew, hs₁, hfails⟩
    · refine Sim.step hnew ?_
      obtain ⟨s₂, hset₂, hs₂⟩ := setItem_owned c prev (some a)
        (fun n => { n with next := some a }) hs₁ rfl rfl rfl
      refine Sim.step hset₂ ?_
      rw [add_comm] at hs₂
      obtain ⟨s₃, hset₃, hs₃⟩ := setItem_owned (fresh D a) (some c.addr) none
        (fun n => { n with prev := some c.addr }) hs₂ rfl rfl rfl
      refine Sim.step hset₃ ?_
      rw [add_comm] at hs₃
      -- the loop goes on with the new item alone, over the heap that has `c`
      obtain ⟨h₁, hc, hs₃⟩ := hs₃.split
      refine (hloop a h₁ s₃ hs₃).last (.of_adds hc) ?_ ?_
      · rintro s ⟨c', cs, haddr, hadds, hcount⟩
        refine ⟨c, c' :: cs, rfl, ?_, ?_⟩
        · rw [chain_cons, headAddr_cons, haddr]
          exact hc.trans hadds
        · rw [countAll_cons]
          omega
      · rintro rest' ⟨items, rest''⟩ s ⟨rfl, c', cs, haddr, herase, hadds, hcount⟩
        refine ⟨_, rfl, rfl, c, c' :: cs, rfl, ?_, ?_, ?_⟩
        · rw [eraseAll_cons, herase]
        · rw [chain_cons, headAddr_cons, haddr]
          exact hc.trans hadds
        · rw [countAll_cons]
          omega
    · exact Sim.step hnew ⟨hfails, hnull hs₁⟩
  · rw [if_neg hcomma, if_neg hcomma]
    by_cases hend : peek (skip rest) = close
    · have hlt : ((skip rest).drop 1).length < (skip rest).length := length_drop_lt hend hclose 0
      rw [if_pos hend, if_pos hend]
      refine ⟨_, rfl, rfl, c, [], rfl, ?_, ?_, ?_⟩
      · rw [eraseAll_cons, eraseAll_nil]
      · rwa [chain_cons, chain_nil, add_zero]
      · rw [countAll_cons, countAll_nil]
        omega
    · rw [if_neg hend, if_neg hend]
      exact ⟨rfl, hnull hs⟩

/-- An array or an object: the item gets its type, and the address of the first item in it. -/
theorem container_sim {loop : ℕ → Bytes → HeapCode D Bytes}
    {loopT : Bytes → Outcome (List (CJSON D) × Bytes)} {value : Bytes} {opening close : UInt8}
    (kind : Fin 256) (hopening : opening ≠ 0) (hclose : close ≠ 0) (hc : c.Blank)
    (hs : Adds h (c.blocks prev next) s.heap)
    (hloop : (skip (value.drop 1)).length < value.length → ∀ a h s,
      Adds h ((fresh D a).blocks none none) s.heap →
        Sim (m.Fails h) (ChainDone h none a (skip (value.drop 1)).length)
          (ChainNull h none a (skip (value.drop 1)).length)
          ((loop a (skip (value.drop 1))).run s) (loopT (skip (value.drop 1)))) :
    Sim (m.Fails h) (ValueDone h prev next c.addr value.length)
      (ValueNull h prev next c.addr value.length)
      ((if peek value ≠ opening then Code.throw (some value)
        else do
          setItem c.addr fun n => { n with type := kind }
          let value := skip (value.drop 1)
          if peek value = close then pure (value.drop 1)
          else do
            let child ← newItem m
            setItem c.addr fun n => { n with child := child }
            match child with
            | none => Code.throw none
            | some child => loop child value).run s)
      (if peek value ≠ opening then .failed value
        else
          let value := skip (value.drop 1)
          if peek value = close then .done ({ c.erase with type := kind }, value.drop 1)
          else do
            let (child, value) ← loopT value
            return ({ c.erase with type := kind, child := child }, value)) := by
  have hcount : c.count = 1 := by rw [Owned.count_eq, hc.2, countAll_nil]
  by_cases hopen : peek value = opening
  · have hlt : (skip (value.drop 1)).length < value.length := length_skip_lt hopen hopening
    rw [if_neg (not_not.mpr hopen), if_neg (not_not.mpr hopen)]
    dsimp only
    generalize skip (value.drop 1) = value' at hlt hloop ⊢
    rw [← add_zero (c.blocks prev next)] at hs
    obtain ⟨s₁, hset₁, hs₁⟩ := setItem_owned { c with type := kind } prev next
      (fun n => { n with type := kind }) hs rfl rfl
      (by rw [Owned.rest_eq, Owned.rest_eq])
    rw [add_zero] at hs₁
    refine Sim.step hset₁ ?_
    by_cases hend : peek value' = close
    · have hlt' : (value'.drop 1).length < value'.length := length_drop_lt hend hclose 0
      rw [if_pos hend, if_pos hend]
      refine ⟨_, rfl, rfl, { c with type := kind }, rfl, ?_, hs₁, ?_⟩
      · rw [Owned.erase_eq, Owned.erase_eq]
      · rw [Owned.count_eq, hc.2, countAll_nil]
        omega
    rw [if_neg hend, if_neg hend]
    rcases newItem_cases (m := m) hs₁ with ⟨a, s₂, hnew, hs₂⟩ | ⟨s₂, hnew, hs₂, hfails⟩
    · refine Sim.step hnew ?_
      rw [Owned.blocks, Multiset.cons_add] at hs₂
      obtain ⟨s₃, hset₃, hs₃⟩ := setItem_adds (fun n => { n with child := some a }) hs₂
      refine Sim.step hset₃ ?_
      rw [← Multiset.cons_add] at hs₃
      obtain ⟨h₁, hitem, hs₃⟩ := hs₃.split
      -- what the loop leaves is a chain that hangs at the item
      have hblocks : ∀ (c' : Owned D) (cs : List (Owned D)), c'.addr = a →
          ({ c with type := kind, child := c' :: cs } : Owned D).blocks prev next =
            (c.addr, Block.item { ({ c with type := kind } : Owned D).node prev next with
              child := some a }) ::ₘ ({ c with type := kind } : Owned D).rest +
                chain none (c' :: cs) := by
        intro c' cs haddr
        rw [Owned.blocks, Owned.rest_eq, Owned.rest_eq, hc.2, chain_nil, ← haddr,
          Multiset.cons_add]
        simp only [add_zero, add_assoc]
        rfl
      refine (hloop hlt a h₁ s₃ hs₃).last (.of_adds hitem) ?_ ?_
      · rintro s ⟨c', cs, haddr, hadds, hcount'⟩
        refine ⟨{ c with type := kind, child := c' :: cs }, rfl, ?_, ?_⟩
        · rw [hblocks c' cs haddr]
          exact hitem.trans hadds
        · rw [Owned.count_eq]
          dsimp only
          omega
      · rintro rest ⟨items, rest'⟩ s ⟨rfl, c', cs, haddr, herase, hadds, hcount'⟩
        refine ⟨_, rfl, rfl, { c with type := kind, child := c' :: cs }, rfl, ?_, ?_, ?_⟩
        · rw [Owned.erase_eq, Owned.erase_eq, herase]
        · rw [hblocks c' cs haddr]
          exact hitem.trans hadds
        · rw [Owned.count_eq]
          dsimp only
          omega
    · -- the field gets the `NULL` of the allocator, which it had before
      refine Sim.step hnew ?_
      rw [← add_zero (Owned.blocks prev next _)] at hs₂
      obtain ⟨s₃, hset₃, hs₃⟩ := setItem_owned { c with type := kind } prev next
        (fun n => { n with child := none }) hs₂ rfl (by
          simp only [Owned.node, hc.2, headAddr_nil]) rfl
      rw [add_zero] at hs₃
      refine Sim.step hset₃ ⟨hfails, { c with type := kind }, rfl, hs₃, ?_⟩
      rw [Owned.count_eq, hc.2, countAll_nil]
      omega
  · rw [if_pos hopen, if_pos hopen]
    exact ⟨rfl, c, rfl, hs, by omega⟩

/-- The parsers on the heap do what those on trees do. -/
theorem parse_sim (m : Allocator (Block D)) (fuel : ℕ) :
    (∀ (c : Owned D) prev next h s value, c.Blank → Adds h (c.blocks prev next) s.heap →
      Sim (m.Fails h) (ValueDone h prev next c.addr value.length)
        (ValueNull h prev next c.addr value.length)
        ((parseValue m fuel c.addr value).run s) (CJson.parseValue fuel c.erase value)) ∧
    (∀ (c : Owned D) prev next h s value, c.Blank → Adds h (c.blocks prev next) s.heap →
      Sim (m.Fails h) (ValueDone h prev next c.addr value.length)
        (ValueNull h prev next c.addr value.length)
        ((parseArray m fuel c.addr value).run s) (CJson.parseArray fuel c.erase value)) ∧
    (∀ a prev h s value, Adds h ((fresh D a).blocks prev none) s.heap →
      Sim (m.Fails h) (ChainDone h prev a value.length) (ChainNull h prev a value.length)
        ((parseElements m fuel a value).run s) (CJson.parseElements fuel value)) ∧
    (∀ (c : Owned D) prev next h s value, c.Blank → Adds h (c.blocks prev next) s.heap →
      Sim (m.Fails h) (ValueDone h prev next c.addr value.length)
        (ValueNull h prev next c.addr value.length)
        ((parseObject m fuel c.addr value).run s) (CJson.parseObject fuel c.erase value)) ∧
    ∀ a prev h s value, Adds h ((fresh D a).blocks prev none) s.heap →
      Sim (m.Fails h) (ChainDone h prev a value.length) (ChainNull h prev a value.length)
        ((parseMembers m fuel a value).run s) (CJson.parseMembers fuel value) := by
  induction fuel with
  | zero =>
    refine ⟨fun c _ _ _ _ _ _ _ => ?_, fun c _ _ _ _ _ _ _ => ?_, fun a _ _ _ _ _ => ?_,
      fun c _ _ _ _ _ _ _ => ?_, fun a _ _ _ _ _ => ?_⟩
    · rw [parseValue, CJson.parseValue]
      exact rfl
    · rw [parseArray, CJson.parseArray]
      exact rfl
    · rw [parseElements, CJson.parseElements]
      exact rfl
    · rw [parseObject, CJson.parseObject]
      exact rfl
    · rw [parseMembers, CJson.parseMembers]
      exact rfl
  | succ fuel ih =>
    obtain ⟨ihValue, ihArray, ihElements, ihObject, ihMembers⟩ := ih
    refine ⟨fun c prev next h s value hc hs => ?_, fun c prev next h s value hc hs => ?_,
      fun a prev h s value hs => ?_, fun c prev next h s value hc hs => ?_,
      fun a prev h s value hs => ?_⟩
    · rw [parseValue, CJson.parseValue]
      have hword : ∀ n, (value.drop n).length ≤ value.length := fun n =>
        (List.drop_suffix n value).length_le
      split_ifs with hnull hfalse htrue hquote hnum harray hobject
      · exact scalar_sim { c with type := 2 } hc.2 hs rfl rfl
          (by rw [Owned.rest_eq, Owned.rest_eq]) (by rw [Owned.erase_eq, Owned.erase_eq]; rfl)
          (hword 4)
      · exact scalar_sim { c with type := 0 } hc.2 hs rfl rfl
          (by rw [Owned.rest_eq, Owned.rest_eq]) (by rw [Owned.erase_eq, Owned.erase_eq]; rfl)
          (hword 5)
      · exact scalar_sim { c with type := 1, valueint := 1 } hc.2 hs rfl rfl
          (by rw [Owned.rest_eq, Owned.rest_eq]) (by rw [Owned.erase_eq, Owned.erase_eq]; rfl)
          (hword 4)
      · refine (parseString_sim hc hs value).mono ?_ fun s hs => ⟨c, rfl, hs, ?_⟩
        · rintro rest b s ⟨hrest, hlt, p, herase, hadds⟩
          refine ⟨hrest, c.withString p, rfl, herase, hadds, ?_⟩
          rw [Owned.count_eq, Owned.withString, hc.2, countAll_nil]
          omega
        · rw [Owned.count_eq, hc.2, countAll_nil]
          omega
      · exact parseNumber_sim hc hs hnum
      · exact ihArray c prev next h s value hc hs
      · exact ihObject c prev next h s value hc hs
      · refine ⟨rfl, c, rfl, hs, ?_⟩
        rw [Owned.count_eq, hc.2, countAll_nil]
        omega
    · rw [parseArray, CJson.parseArray]
      exact container_sim 5 (by decide) (by decide) hc hs fun _ a h s => ihElements a none h s _
    · rw [parseElements, CJson.parseElements]
      have hle := (skip_suffix value).length_le
      rw [← fresh_erase a]
      refine (ihValue (fresh D a) prev none h s (skip value) (fresh_blank a) hs).bind ?_ ?_
      · rintro s ⟨c, haddr, hadds, hcount⟩
        refine ⟨c, [], haddr, ?_, ?_⟩
        · rwa [chain_cons, chain_nil, add_zero]
        · rw [countAll_cons, countAll_nil]
          omega
      · rintro rest ⟨item, rest'⟩ s ⟨rfl, c, haddr, rfl, hadds, hcount⟩
        rw [show a = c.addr from haddr.symm]
        exact more_sim (by decide) hadds (by omega) fun a h s => ihElements a _ h s _
    · rw [parseObject, CJson.parseObject]
      exact container_sim 6 (by decide) (by decide) hc hs fun _ a h s => ihMembers a none h s _
    · rw [parseMembers, CJson.parseMembers]
      have hle := (skip_suffix value).length_le
      have hone : ∀ (c : Owned D) s, c.addr = a → c.child = [] →
          Adds h (c.blocks prev none) s.heap → ChainNull h prev a value.length s := by
        intro c s haddr hchild hadds
        refine ⟨c, [], haddr, by rwa [chain_cons, chain_nil, add_zero], ?_⟩
        rw [countAll_cons, countAll_nil, Owned.count_eq, hchild, countAll_nil]
        omega
      rw [← fresh_erase a]
      refine (parseString_sim (fresh_blank a) hs (skip value)).bind
        (fun s hs => hone _ s rfl rfl hs) ?_
      rintro rest ⟨item, rest'⟩ s ⟨rfl, hlt, ⟨p, t⟩, rfl, hadds⟩
      dsimp only
      -- the name is moved
      have hname : ({ ((fresh D a).withString (p, t)).erase with
            string := ((fresh D a).withString (p, t)).erase.valuestring, valuestring := none } :
          CJSON D) = ({ fresh D a with type := 4, string := some (p, t) } : Owned D).erase := by
        rw [Owned.erase_eq, Owned.erase_eq]
        rfl
      rw [← add_zero (Owned.blocks prev none _)] at hadds
      obtain ⟨s', hset, hadds⟩ := setItem_owned
        { fresh D a with type := 4, string := some (p, t) } prev none
        (fun n => { n with string := n.valuestring, valuestring := none }) hadds rfl rfl (by
          rw [Owned.rest_eq, Owned.rest_eq]
          exact add_left_comm _ _ _)
      rw [add_zero] at hadds
      refine Sim.step hset ?_
      rw [hname]
      generalize hc : ({ fresh D a with type := 4, string := some (p, t) } : Owned D) = c at hadds
      have hblank : c.Blank := hc ▸ ⟨rfl, rfl⟩
      have haddr : c.addr = a := hc ▸ rfl
      have hskip := (skip_suffix rest).length_le
      split_ifs with hcolon
      · exact ⟨rfl, hone c s' haddr hblank.2 hadds⟩
      have hlt' : (skip ((skip rest).drop 1)).length < (skip rest).length :=
        length_skip_lt (not_not.mp hcolon) (by decide)
      rw [← haddr]
      refine (ihValue c prev none h s' _ hblank hadds).bind ?_ ?_
      · rintro s ⟨c, haddr, hadds, hcount⟩
        refine ⟨c, [], haddr, by rwa [chain_cons, chain_nil, add_zero], ?_⟩
        rw [countAll_cons, countAll_nil]
        omega
      · rintro rest₂ ⟨item, rest₂'⟩ s ⟨rfl, c', haddr', rfl, hadds, hcount⟩
        rw [← haddr']
        exact more_sim (by decide) hadds (by omega) fun a h s => ihMembers a _ h s _

omit [CDouble D] in
/-- The root is freed, with all that hangs at it. -/
theorem delete_owned {fuel : ℕ} (hcount : c.count ≤ fuel)
    (hs : Adds h (c.blocks none none) s.heap) :
    (delete fuel (some c.addr)).run s = .done () { s with heap := h } := by
  have hall : countAll [c] ≤ fuel := by rwa [countAll_cons, countAll_nil]
  have hchain : Adds h (chain none [c]) s.heap := by rwa [chain_cons, chain_nil, add_zero]
  exact delete_chain fuel hall hchain

/-- **Parsing on the heap.** Whatever the text, the heap and the allocator, `cJSON_ParseWithOpts` on
the heap does what it does on trees. Where it returns an item, the heap has the blocks of that item
beside those it had before; where it returns `NULL`, it has those it had before. It returns `NULL`
where the text is malformed, or where the allocator has returned `NULL`. -/
theorem parseWithOpts_sim (m : Allocator (Block D)) (s : Memory (Block D)) (value : Bytes)
    (requireNullTerminated : Bool) :
    Sim (m.Fails s.heap) (fun r b s' => r.2 = b.2 ∧ ∃ c : Owned D, c.addr = r.1 ∧ c.erase = b.1 ∧
        Adds s.heap (c.blocks none none) s'.heap ∧ c.count ≤ value.length + 1)
      (fun s' => s'.heap = s.heap) ((parseWithOpts m value requireNullTerminated).run s)
      (CJson.parseWithOpts value requireNullTerminated) := by
  have hle := (skip_suffix value).length_le
  rw [parseWithOpts]
  rcases newItem_cases (m := m) (Adds.zero s.heap) with ⟨a, s₁, hnew, hs₁⟩ | ⟨s₁, hnew, hs₁, hfails⟩
  · refine Sim.step hnew ?_
    rw [zero_add] at hs₁
    have hvalue := (parse_sim m (3 * value.length + 3)).1 (fresh D a) none none s.heap s₁
      (skip value) (fresh_blank a) hs₁
    rw [fresh_erase] at hvalue
    rw [CJson.parseWithOpts]
    dsimp only
    refine Sim.bind (R := ValueDone s.heap none none a (skip value).length)
      (F := fun s' => s'.heap = s.heap) ?_ (fun s hs => hs) ?_
    · -- where `parse_value` returns `NULL`, the root is deleted
      refine Sim.onEarly hvalue fun ep s' => ?_
      rintro ⟨c, rfl, hadds, hcount⟩
      refine ⟨{ s' with heap := s.heap }, ?_, rfl⟩
      rw [Code.bind_done (delete_owned (by omega) hadds)]
      rfl
    · rintro rest ⟨item, rest'⟩ s₂ ⟨rfl, c, rfl, rfl, hadds, hcount⟩
      dsimp only
      cases requireNullTerminated with
      | false => exact ⟨_, rfl, rfl, c, rfl, rfl, hadds, by omega⟩
      | true =>
        rw [if_pos rfl, if_pos rfl]
        split_ifs with hend
        · rw [Code.bind_done (delete_owned (by omega) hadds)]
          exact ⟨rfl, rfl⟩
        · exact ⟨_, rfl, rfl, c, rfl, rfl, hadds, by omega⟩
  · exact Sim.step hnew ⟨hfails, hs₁.eq_of_zero⟩

/-- **With an allocator that does not fail.** Where it cannot return `NULL` to a program that starts
on the heap, `cJSON_ParseWithOpts` on the heap ends as it does on trees. -/
theorem parseWithOpts_refines (hm : ¬ m.Fails s.heap) (value : Bytes)
    (requireNullTerminated : Bool) :
    match (CJson.parseWithOpts value requireNullTerminated : Outcome (CJSON D × Bytes)) with
    | .done (item, rest) => ∃ (c : Owned D) (s' : Memory (Block D)),
        (parseWithOpts m value requireNullTerminated).run s = .done (c.addr, rest) s' ∧
          c.erase = item ∧ Adds s.heap (c.blocks none none) s'.heap
    | .failed ep => ∃ s', (parseWithOpts m value requireNullTerminated).run s =
        .early (some ep) s' ∧ s'.heap = s.heap
    | .undefined => (parseWithOpts m value requireNullTerminated).run s = .fault
    | .outOfFuel => (parseWithOpts m value requireNullTerminated).run s = .outOfFuel := by
  have hsim := parseWithOpts_sim m s value requireNullTerminated
  generalize (parseWithOpts m value requireNullTerminated).run s = r at hsim ⊢
  rcases r with ⟨⟨a, rest⟩, s'⟩ | ⟨- | ep, s'⟩ | - | -
  · obtain ⟨⟨item, rest'⟩, hparse, rfl, c, rfl, rfl, hadds, -⟩ := hsim
    rw [hparse]
    exact ⟨c, s', rfl, rfl, hadds⟩
  · -- `NULL` without an error pointer comes from the allocator only
    exact absurd hsim.1 hm
  · rw [hsim.1]
    exact ⟨s', rfl, hsim.2⟩
  · rw [show CJson.parseWithOpts value requireNullTerminated = .undefined from hsim]
  · rw [show CJson.parseWithOpts value requireNullTerminated = .outOfFuel from hsim]

/-- An empty heap, and a text with a space at its end. -/
theorem parseWithOpts_refines_array : ∃ (c : Owned ℚ) (s' : Memory (Block ℚ)),
    (parseWithOpts (Allocator.first (Block ℚ)) (ascii "[true, null] ") true).run
        ⟨fun _ => none, 0⟩ = .done (c.addr, []) s' ∧
      c.erase = { CJson.newItem with
        type := typeArray
        child := [{ CJson.newItem with type := typeTrue, valueint := 1 },
          { CJson.newItem with type := typeNULL }] } ∧
      Adds (fun _ => none) (c.blocks none none) s'.heap := by
  have hfree : {a : ℕ | (fun _ => none : Heap (Block ℚ)) a = none}.Infinite := by
    simpa using Set.infinite_univ
  exact parseWithOpts_refines (s := ⟨fun _ => none, 0⟩) (Allocator.first_not_fails hfree)
    (ascii "[true, null] ") true

end Parse

/-! ### Parsing and deleting -/

/-- `cJSON_Parse`, and then `cJSON_Delete` of what it has returned. -/
def parseAndDelete (m : Allocator (Block D)) (value : Bytes) (requireNullTerminated : Bool) :
    HeapCode D Unit := do
  let (c, _) ← parseWithOpts m value requireNullTerminated
  delete (value.length + 1) (some c)

/-- **Nothing is left behind.** For a text in which every escape is complete and whose length is an
`int`, parsing and deleting touches no memory but its own and leaves the heap as it was, with every
allocator and wherever it may return `NULL`. -/
theorem delete_parse {value : Bytes} (hnul : 0 ∉ value) (hescapes : EscapesComplete value)
    (hsize : value.length ≤ sizeMax) (m : Allocator (Block D)) (s : Memory (Block D))
    (requireNullTerminated : Bool) :
    ((parseAndDelete m value requireNullTerminated).run s).Ends fun s' => s'.heap = s.heap := by
  have hdefined := parseWithOpts_defined (D := D) hnul hescapes hsize requireNullTerminated
  have hsim := parseWithOpts_sim m s value requireNullTerminated
  rw [parseAndDelete, Code.run_bind]
  generalize (parseWithOpts m value requireNullTerminated).run s = r at hsim ⊢
  rcases r with ⟨⟨a, rest⟩, s'⟩ | ⟨- | ep, s'⟩ | - | -
  · obtain ⟨⟨item, rest'⟩, -, -, c, rfl, -, hadds, hcount⟩ := hsim
    dsimp only
    rw [delete_owned hcount hadds]
    exact rfl
  · exact hsim.2
  · exact hsim.2
  · rw [show CJson.parseWithOpts value requireNullTerminated = .undefined from hsim] at hdefined
    exact hdefined
  · rw [show CJson.parseWithOpts value requireNullTerminated = .outOfFuel from hsim] at hdefined
    exact hdefined

/-- An array with a string in it, and a heap with a block in it. -/
theorem delete_parse_array :
    ((parseAndDelete (Allocator.counting (Block ℚ)) (ascii "[1,\"a\"]") true).run
      ⟨fun a => if a = 7 then some (.text []) else none, 3⟩).Ends
        fun s' => s'.heap = fun a => if a = 7 then some (.text []) else none :=
  delete_parse (by decide) (by decide +kernel) (by decide) _ _ true

end ControllerSystem.CJson.OnHeap
