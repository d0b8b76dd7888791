import ControllerSystem.CJson.Lookup
import ControllerSystem.Lib.Allocation

/-!
# The blocks of a parsed text

cJSON allocates a block for each item and each string. `parse_value` gets an item that its caller
has allocated, and links what it allocates to it; where it fails, what there is so far hangs at the
item, and `cJSON_Delete` of the root frees it.

Here the functions of the parser work on a heap. They allocate with any allocator, which may return
`NULL`. `Owned` is a tree of items with the addresses of its blocks.

* `delete_chain` — `cJSON_Delete` frees the blocks of a chain of items, each of them once.
* `getString_done` — on the heap, what is looked up at a name is what is looked up in the tree.
-/

open Words TextPointer DecimalText Allocation

namespace ControllerSystem.CJson.OnHeap

variable {D : Type} [CDouble D]

/-! ### Blocks -/

/-- The struct `cJSON`, with its pointers. -/
structure Node (D : Type) where
  next : Option ℕ
  prev : Option ℕ
  child : Option ℕ
  type : ℕ
  valuestring : Option ℕ
  valueint : ℤ
  valuedouble : D
  string : Option ℕ

/-- A block is an item or a C string. -/
inductive Block (D : Type)
  | item (n : Node D)
  | text (s : Bytes)

/-- The programs that work on these blocks. One that returns `NULL` may have set `ep`. -/
abbrev HeapCode (D α : Type) := Code (Block D) (Option Bytes) α

/-- `cJSON_IsReference`. -/
def isReference : ℕ := 256

/-- `cJSON_StringIsConst`. -/
def stringIsConst : ℕ := 512

/-- `sizeof(cJSON)`. -/
def sizeofItem : ℕ := 64

/-- Read the item at an address. -/
def loadItem (a : ℕ) : HeapCode D (Node D) := do
  match ← Code.load a with
  | .item n => pure n
  | .text _ => Code.fault

/-- Write fields of the item at an address. -/
def setItem (a : ℕ) (f : Node D → Node D) : HeapCode D Unit := do
  let n ← loadItem a
  Code.store a (.item (f n))

/-- `cJSON_New_Item`: all bytes are zero. -/
def zeroNode : Node D := ⟨none, none, none, 0, none, 0, CDouble.ofInt 0, none⟩

/-- `cJSON_New_Item`. -/
def newItem (m : Allocator (Block D)) : HeapCode D (Option ℕ) :=
  Code.malloc m sizeofItem (.item zeroNode)

/-- `if (p) cJSON_free(p)`. -/
def freeText : Option ℕ → HeapCode D Unit
  | some a => Code.free a
  | none => pure ()

/-- `cJSON_Delete`. -/
def delete : ℕ → Option ℕ → HeapCode D Unit
  | _, none => pure ()
  | 0, some _ => Code.outOfFuel
  | fuel + 1, some c => do
    let n ← loadItem c
    Code.when (n.type &&& isReference = 0) (delete fuel n.child)
    Code.when (n.type &&& isReference = 0) (freeText n.valuestring)
    Code.when (n.type &&& stringIsConst = 0) (freeText n.string)
    Code.free c
    delete fuel n.next

/-! ### Parsing -/

/-- `parse_string`. The block has room for the bytes counted in the first pass, in an `int`. -/
def parseString (m : Allocator (Block D)) (item : ℕ) (str : Bytes) : HeapCode D Bytes :=
  if peek str ≠ 34 then Code.throw (some str)
  else
    match scan (str.drop 1) 0 with
    | none => Code.fault
    | some len =>
      if sizeMax < len + 1 then Code.fault
      else do
        match ← Code.malloc m (len + 1) (.text []) with
        | none => Code.throw none
        | some out =>
          match unescape (str.drop 1) with
          | none => Code.fault
          | some (s, ptr) =>
            if s.length + 1 ≤ len + 1 then do
              Code.store out (.text s)
              setItem item fun n => { n with valuestring := some out, type := typeString }
              pure (if peek ptr = 34 then ptr.drop 1 else ptr)
            else Code.fault

/-- `parse_number` computes in locals and sets three fields. -/
def parseNumber (item : ℕ) (num : Bytes) : HeapCode D Bytes := do
  let r := CJson.parseNumber (CJson.newItem : CJSON D) num
  setItem item fun n =>
    { n with valuedouble := r.1.valuedouble, valueint := r.1.valueint, type := typeNumber }
  pure r.2

mutual

/-- `parse_value`. -/
def parseValue (m : Allocator (Block D)) : ℕ → ℕ → Bytes → HeapCode D Bytes
  | 0, _, _ => Code.outOfFuel
  | fuel + 1, item, value =>
    if startsWith (ascii "null") value then do
      setItem item fun n => { n with type := typeNULL }
      pure (value.drop 4)
    else if startsWith (ascii "false") value then do
      setItem item fun n => { n with type := typeFalse }
      pure (value.drop 5)
    else if startsWith (ascii "true") value then do
      setItem item fun n => { n with type := typeTrue, valueint := 1 }
      pure (value.drop 4)
    else if peek value = 34 then parseString m item value
    else if peek value = 45 ∨ IsDigit (peek value) then parseNumber item value
    else if peek value = 91 then parseArray m fuel item value
    else if peek value = 123 then parseObject m fuel item value
    else Code.throw (some value)

/-- `parse_array`. -/
def parseArray (m : Allocator (Block D)) : ℕ → ℕ → Bytes → HeapCode D Bytes
  | 0, _, _ => Code.outOfFuel
  | fuel + 1, item, value =>
    if peek value ≠ 91 then Code.throw (some value)
    else do
      setItem item fun n => { n with type := typeArray }
      let value := skip (value.drop 1)
      if peek value = 93 then pure (value.drop 1)
      else do
        let child ← newItem m
        setItem item fun n => { n with child := child }
        match child with
        | none => Code.throw none
        | some child => parseElements m fuel child value

/-- The items of an array from `child` on, and the closing bracket. -/
def parseElements (m : Allocator (Block D)) : ℕ → ℕ → Bytes → HeapCode D Bytes
  | 0, _, _ => Code.outOfFuel
  | fuel + 1, child, value => do
    let value ← parseValue m fuel child (skip value)
    let value := skip value
    if peek value = 44 then do
      match ← newItem m with
      | none => Code.throw none
      | some new =>
        setItem child fun n => { n with next := some new }
        setItem new fun n => { n with prev := some child }
        parseElements m fuel new (value.drop 1)
    else if peek value = 93 then pure (value.drop 1)
    else Code.throw (some value)

/-- `parse_object`. -/
def parseObject (m : Allocator (Block D)) : ℕ → ℕ → Bytes → HeapCode D Bytes
  | 0, _, _ => Code.outOfFuel
  | fuel + 1, item, value =>
    if peek value ≠ 123 then Code.throw (some value)
    else do
      setItem item fun n => { n with type := typeObject }
      let value := skip (value.drop 1)
      if peek value = 125 then pure (value.drop 1)
      else do
        let child ← newItem m
        setItem item fun n => { n with child := child }
        match child with
        | none => Code.throw none
        | some child => parseMembers m fuel child value

/-- The members of an object from `child` on, and the closing brace. -/
def parseMembers (m : Allocator (Block D)) : ℕ → ℕ → Bytes → HeapCode D Bytes
  | 0, _, _ => Code.outOfFuel
  | fuel + 1, child, value => do
    let value ← parseString m child (skip value)
    let value := skip value
    -- the name is moved
    setItem child fun n => { n with string := n.valuestring, valuestring := none }
    if peek value ≠ 58 then Code.throw (some value)
    else do
      let value ← parseValue m fuel child (skip (value.drop 1))
      let value := skip value
      if peek value = 44 then do
        match ← newItem m with
        | none => Code.throw none
        | some new =>
          setItem child fun n => { n with next := some new }
          setItem new fun n => { n with prev := some child }
          parseMembers m fuel new (value.drop 1)
      else if peek value = 125 then pure (value.drop 1)
      else Code.throw (some value)

end

/-- `cJSON_ParseWithOpts`: the root, and the pointer that `return_parse_end` gets. -/
def parseWithOpts (m : Allocator (Block D)) (value : Bytes) (requireNullTerminated : Bool) :
    HeapCode D (ℕ × Bytes) := do
  match ← newItem m with
  | none => Code.throw none
  | some c =>
    let parseEnd ← (parseValue m (3 * value.length + 3) c (skip value)).onEarly fun ep => do
      delete (value.length + 1) (some c)
      Code.throw ep
    if requireNullTerminated then
      let parseEnd := skip parseEnd
      if peek parseEnd ≠ 0 then do
        delete (value.length + 1) (some c)
        Code.throw (some parseEnd)
      else pure (c, parseEnd)
    else pure (c, parseEnd)

/-! ### Looking up -/

/-- Read a string, unless the pointer is `NULL`. -/
def loadText : Option ℕ → HeapCode D (Option Bytes)
  | none => pure none
  | some a => do
    match ← Code.load a with
    | .text s => pure (some s)
    | .item _ => Code.fault

/-- The loop of `cJSON_GetObjectItem`. -/
def getObjectItemLoop : ℕ → Option ℕ → Bytes → HeapCode D (Option ℕ)
  | _, none, _ => pure none
  | 0, some _, _ => Code.outOfFuel
  | fuel + 1, some c, string => do
    let n ← loadItem c
    let name ← loadText n.string
    if strcasecmp name (some string) = 0 then pure (some c)
    else getObjectItemLoop fuel n.next string

/-- `cJSON_GetObjectItem`. -/
def getObjectItem (fuel object : ℕ) (string : Bytes) : HeapCode D (Option ℕ) := do
  let n ← loadItem object
  getObjectItemLoop fuel n.child string

/-- `tag && (cJSON_String == tag->type)`, and then `tag->valuestring`. -/
def getString (fuel root : ℕ) (string : Bytes) : HeapCode D (Option Bytes) := do
  match ← getObjectItem fuel root string with
  | none => pure none
  | some tag =>
    let n ← loadItem tag
    if n.type = typeString then loadText n.valuestring else pure none

/-! ### Trees with addresses -/

/-- A tree of items with the addresses of its blocks. The type is that of an item that owns its
strings and its children. -/
structure Owned (D : Type) where
  addr : ℕ
  type : Fin 256
  valuestring : Option (ℕ × Bytes)
  valueint : ℤ
  valuedouble : D
  string : Option (ℕ × Bytes)
  child : List (Owned D)

/-- The pointer to a chain. -/
def headAddr (cs : List (Owned D)) : Option ℕ := cs.head?.map Owned.addr

/-- The struct of an item in a chain. -/
def Owned.node (prev next : Option ℕ) (c : Owned D) : Node D where
  next := next
  prev := prev
  child := headAddr c.child
  type := c.type
  valuestring := c.valuestring.map Prod.fst
  valueint := c.valueint
  valuedouble := c.valuedouble
  string := c.string.map Prod.fst

/-- The block of a string. -/
def textBlock : Option (ℕ × Bytes) → Multiset (ℕ × Block D)
  | some (a, s) => {(a, .text s)}
  | none => 0

mutual

/-- The blocks of an item but its own. -/
def Owned.rest : Owned D → Multiset (ℕ × Block D)
  | ⟨_, _, valuestring, _, _, string, child⟩ =>
    textBlock valuestring + (textBlock string + chain none child)

/-- The blocks of a chain, where `prev` is the item before it. -/
def chain : Option ℕ → List (Owned D) → Multiset (ℕ × Block D)
  | _, [] => 0
  | prev, c :: cs =>
    (c.addr, .item (c.node prev (headAddr cs))) ::ₘ (c.rest + chain (some c.addr) cs)

end

/-- The blocks of an item in a chain. -/
def Owned.blocks (prev next : Option ℕ) (c : Owned D) : Multiset (ℕ × Block D) :=
  (c.addr, .item (c.node prev next)) ::ₘ c.rest

mutual

/-- The item without its addresses. -/
def Owned.erase : Owned D → CJSON D
  | ⟨_, type, valuestring, valueint, valuedouble, string, child⟩ =>
    ⟨type, valuestring.map Prod.snd, valueint, valuedouble, string.map Prod.snd, eraseAll child⟩

/-- The items of a chain without their addresses. -/
def eraseAll : List (Owned D) → List (CJSON D)
  | [] => []
  | c :: cs => c.erase :: eraseAll cs

end

mutual

/-- The number of items. -/
def Owned.count : Owned D → ℕ
  | ⟨_, _, _, _, _, _, child⟩ => countAll child + 1

/-- The number of items in a chain. -/
def countAll : List (Owned D) → ℕ
  | [] => 0
  | c :: cs => c.count + countAll cs

end

section Trees

omit [CDouble D]

@[simp] theorem headAddr_nil : headAddr ([] : List (Owned D)) = none := rfl

@[simp] theorem headAddr_cons (c : Owned D) (cs : List (Owned D)) :
    headAddr (c :: cs) = some c.addr := rfl

@[simp] theorem textBlock_none : (textBlock none : Multiset (ℕ × Block D)) = 0 := rfl

@[simp] theorem textBlock_some (a : ℕ) (s : Bytes) :
    (textBlock (some (a, s)) : Multiset (ℕ × Block D)) = {(a, .text s)} := rfl

theorem Owned.rest_eq (c : Owned D) :
    c.rest = textBlock c.valuestring + (textBlock c.string + chain none c.child) := by
  obtain ⟨addr, type, valuestring, valueint, valuedouble, string, child⟩ := c
  rw [Owned.rest]

@[simp] theorem chain_nil (prev : Option ℕ) : chain prev ([] : List (Owned D)) = 0 := by
  rw [chain]

theorem chain_cons (prev : Option ℕ) (c : Owned D) (cs : List (Owned D)) :
    chain prev (c :: cs) = c.blocks prev (headAddr cs) + chain (some c.addr) cs := by
  rw [chain, Owned.blocks, Multiset.cons_add]

theorem Owned.erase_eq (c : Owned D) : c.erase = ⟨c.type, c.valuestring.map Prod.snd, c.valueint,
    c.valuedouble, c.string.map Prod.snd, eraseAll c.child⟩ := by
  obtain ⟨addr, type, valuestring, valueint, valuedouble, string, child⟩ := c
  rw [Owned.erase]

@[simp] theorem eraseAll_nil : eraseAll ([] : List (Owned D)) = [] := by
  rw [eraseAll]

@[simp] theorem eraseAll_cons (c : Owned D) (cs : List (Owned D)) :
    eraseAll (c :: cs) = c.erase :: eraseAll cs := by
  rw [eraseAll]

theorem Owned.count_eq (c : Owned D) : c.count = countAll c.child + 1 := by
  obtain ⟨addr, type, valuestring, valueint, valuedouble, string, child⟩ := c
  rw [Owned.count]

@[simp] theorem countAll_nil : countAll ([] : List (Owned D)) = 0 := by
  rw [countAll]

@[simp] theorem countAll_cons (c : Owned D) (cs : List (Owned D)) :
    countAll (c :: cs) = c.count + countAll cs := by
  rw [countAll]

/-- An item that owns what it points to has no flags. -/
theorem Owned.node_flags (c : Owned D) (prev next : Option ℕ) :
    (c.node prev next).type &&& isReference = 0 ∧
      (c.node prev next).type &&& stringIsConst = 0 := by
  have hflags : ∀ t : Fin 256, t.val &&& isReference = 0 ∧ t.val &&& stringIsConst = 0 := by
    decide +kernel
  exact hflags c.type

end Trees

/-! ### Reading and writing items -/

section Access

omit [CDouble D]

variable {s : Memory (Block D)} {h : Heap (Block D)} {c : Owned D} {prev next : Option ℕ}
  {bs : Multiset (ℕ × Block D)}

theorem loadItem_done {a : ℕ} {n : Node D} (h : s.heap a = some (.item n)) :
    (loadItem a).run s = .done n s := by
  rw [loadItem, Code.bind_done (Code.load_done h)]
  rfl

theorem setItem_done {a : ℕ} {n : Node D} (h : s.heap a = some (.item n)) (f : Node D → Node D) :
    (setItem a f).run s =
      .done () { s with heap := Function.update s.heap a (some (.item (f n))) } := by
  rw [setItem, Code.bind_done (loadItem_done h), Code.store_done h]

end Access

section Lookup

omit [CDouble D]

variable {s : Memory (Block D)} {c : Owned D} {prev next : Option ℕ}

/-- The blocks are in the heap. -/
def Holds (s : Memory (Block D)) (bs : Multiset (ℕ × Block D)) : Prop :=
  ∀ p ∈ bs, s.heap p.1 = some p.2

theorem Holds.mono {bs cs : Multiset (ℕ × Block D)} (hs : Holds s bs) (hle : cs ≤ bs) :
    Holds s cs := fun p hp => hs p (Multiset.mem_of_le hle hp)

theorem Holds.loadItem (hs : Holds s (c.blocks prev next)) :
    (OnHeap.loadItem c.addr).run s = .done (c.node prev next) s :=
  loadItem_done (hs (c.addr, .item (c.node prev next)) (Multiset.mem_cons_self _ _))

theorem Holds.loadText {p : Option (ℕ × Bytes)} (hs : Holds s (textBlock p)) :
    (OnHeap.loadText (p.map Prod.fst)).run s = .done (p.map Prod.snd) s := by
  rcases p with - | ⟨a, t⟩
  · rfl
  · have htext : s.heap a = some (.text t) := hs (a, .text t) (Multiset.mem_singleton_self _)
    show ((do match ← Code.load a with
      | .text s => pure (some s)
      | .item _ => Code.fault) : HeapCode D (Option Bytes)).run s = _
    rw [Code.bind_done (Code.load_done htext)]
    rfl

/-- The strings of an item. -/
theorem texts_le (c : Owned D) (prev next : Option ℕ) :
    textBlock c.valuestring ≤ c.blocks prev next ∧ textBlock c.string ≤ c.blocks prev next := by
  rw [Owned.blocks, Owned.rest_eq]
  exact ⟨(Multiset.le_add_right _ _).trans (Multiset.le_cons_self _ _),
    ((Multiset.le_add_right _ _).trans (Multiset.le_add_left _ _)).trans
      (Multiset.le_cons_self _ _)⟩

/-- An item in a chain. -/
theorem blocks_le_chain {cs : List (Owned D)} (hc : c ∈ cs) (prev : Option ℕ) :
    ∃ prev' next', c.blocks prev' next' ≤ chain prev cs := by
  induction cs generalizing prev with
  | nil => cases hc
  | cons c' cs ih =>
    rw [chain_cons]
    rcases List.mem_cons.mp hc with rfl | hc
    · exact ⟨prev, headAddr cs, Multiset.le_add_right _ _⟩
    · obtain ⟨prev', next', hle⟩ := ih hc (some c'.addr)
      exact ⟨prev', next', hle.trans (Multiset.le_add_left _ _)⟩

/-- The name of the item is this one. -/
def Owned.Named (string : Bytes) (c : Owned D) : Bool :=
  strcasecmp (c.string.map Prod.snd) (some string) = 0

theorem getObjectItemLoop_done (fuel : ℕ) {cs : List (Owned D)} (hfuel : cs.length ≤ fuel)
    (hs : Holds s (chain prev cs)) (string : Bytes) :
    (getObjectItemLoop fuel (headAddr cs) string).run s =
      .done ((cs.find? (Owned.Named string)).map Owned.addr) s := by
  induction fuel generalizing cs prev with
  | zero =>
    rw [List.length_eq_zero_iff.mp (Nat.le_zero.mp hfuel)]
    rfl
  | succ fuel ih =>
    rcases cs with - | ⟨c, cs⟩
    · rfl
    have hc := hs.mono (chain_cons prev c cs ▸ Multiset.le_add_right _ _)
    have hcs := hs.mono (chain_cons prev c cs ▸ Multiset.le_add_left _ _)
    rw [headAddr_cons, getObjectItemLoop, Code.bind_done hc.loadItem]
    dsimp only [Owned.node]
    rw [Code.bind_done (hc.mono (texts_le c prev (headAddr cs)).2).loadText]
    by_cases hname : strcasecmp (c.string.map Prod.snd) (some string) = 0
    · rw [if_pos hname, List.find?_cons_of_pos (by simpa [Owned.Named] using hname)]
      rfl
    · rw [if_neg hname, List.find?_cons_of_neg (by simpa [Owned.Named] using hname)]
      exact ih (Nat.le_of_succ_le_succ hfuel) hcs

theorem eraseAll_eq_map (cs : List (Owned D)) : eraseAll cs = cs.map Owned.erase := by
  induction cs with
  | nil => exact eraseAll_nil
  | cons c cs ih => rw [eraseAll_cons, ih, List.map_cons]

/-- **Looking up on the heap.** -/
theorem getString_done {fuel : ℕ} (hfuel : c.child.length ≤ fuel)
    (hs : Holds s (c.blocks prev next)) (string : Bytes) :
    (getString fuel c.addr string).run s = .done (CJson.getString c.erase string) s := by
  have hchild : Holds s (chain none c.child) := by
    refine hs.mono ?_
    rw [Owned.blocks, Owned.rest_eq]
    exact ((Multiset.le_add_left _ _).trans (Multiset.le_add_left _ _)).trans
      (Multiset.le_cons_self _ _)
  have hitem : (getObjectItem fuel c.addr string).run s =
      .done ((c.child.find? (Owned.Named string)).map Owned.addr) s := by
    rw [getObjectItem, Code.bind_done hs.loadItem]
    exact getObjectItemLoop_done fuel hfuel hchild string
  have htree : CJson.getObjectItem c.erase string =
      (c.child.find? (Owned.Named string)).map Owned.erase := by
    rw [CJson.getObjectItem, Owned.erase_eq, eraseAll_eq_map, List.find?_map]
    congr 2
    funext c'
    rw [Function.comp_apply, Owned.erase_eq, Owned.Named]
  rw [getString, Code.bind_done hitem, CJson.getString, htree]
  cases hfind : c.child.find? (Owned.Named string) with
  | none => rfl
  | some tag =>
    obtain ⟨prev', next', hle⟩ := blocks_le_chain (List.mem_of_find?_eq_some hfind) none
    have htag := hchild.mono hle
    show ((do
      let n ← loadItem tag.addr
      if n.type = typeString then loadText n.valuestring else pure none) : HeapCode D _).run s = _
    rw [Code.bind_done htag.loadItem, Option.map_some, Option.bind_some, Owned.erase_eq]
    show (if tag.type.val = typeString then _ else _ : HeapCode D _).run s =
      .done (if tag.type.val = typeString then _ else _) s
    split_ifs
    · exact (htag.mono (texts_le tag prev' next').1).loadText
    · rfl

end Lookup

/-! ### Deleting -/

section Delete

omit [CDouble D]

variable {s : Memory (Block D)} {h : Heap (Block D)}

/-- A string is freed. -/
theorem freeText_done {p : Option (ℕ × Bytes)} {bs : Multiset (ℕ × Block D)}
    (hs : Adds h (textBlock p + bs) s.heap) :
    ∃ h', (freeText (p.map Prod.fst)).run s = .done () { s with heap := h' } ∧ Adds h bs h' := by
  rcases p with - | ⟨a, t⟩
  · rw [textBlock_none, zero_add] at hs
    exact ⟨s.heap, rfl, hs⟩
  · rw [textBlock_some, Multiset.singleton_add] at hs
    exact ⟨_, Code.free_done hs.head, hs.uncons⟩

/-- **Deleting.** `cJSON_Delete` frees the blocks of a chain, each of them once, and no other. -/
theorem delete_chain (fuel : ℕ) {cs : List (Owned D)} {prev : Option ℕ}
    (hfuel : countAll cs ≤ fuel) (hs : Adds h (chain prev cs) s.heap) :
    (delete fuel (headAddr cs)).run s = .done () { s with heap := h } := by
  induction fuel generalizing cs prev h s with
  | zero =>
    rcases cs with - | ⟨c, cs⟩
    · rw [chain_nil] at hs
      rw [← hs.eq_of_zero]
      rfl
    · rw [countAll_cons, Owned.count_eq] at hfuel
      omega
  | succ fuel ih =>
    rcases cs with - | ⟨c, cs⟩
    · rw [chain_nil] at hs
      rw [← hs.eq_of_zero]
      rfl
    rw [countAll_cons, Owned.count_eq] at hfuel
    obtain ⟨hreference, hconst⟩ := c.node_flags prev (headAddr cs)
    have hblocks : chain prev (c :: cs) = textBlock c.valuestring + (textBlock c.string +
        ((c.addr, .item (c.node prev (headAddr cs))) ::ₘ chain (some c.addr) cs)) +
        chain none c.child := by
      rw [chain_cons, Owned.blocks, Owned.rest_eq]
      simp only [← Multiset.singleton_add]
      abel
    rw [hblocks] at hs
    have hitem : s.heap c.addr = some (.item (c.node prev (headAddr cs))) :=
      hs.mem (c.addr, .item (c.node prev (headAddr cs))) (by simp)
    -- the children, then the strings, then the item
    obtain ⟨h₁, hs₁, hchild⟩ := hs.split
    have hdelete := ih (by omega) hchild
    obtain ⟨h₂, hvalue, hs₂⟩ := freeText_done (s := { s with heap := h₁ }) hs₁
    obtain ⟨h₃, hstring, hs₃⟩ := freeText_done (s := { s with heap := h₂ }) hs₂
    have hnext := ih (s := { s with heap := Function.update h₃ c.addr none }) (by omega) hs₃.uncons
    rw [headAddr_cons, delete, Code.bind_done (loadItem_done hitem)]
    rw [Code.when_pos hreference, Code.when_pos hreference, Code.when_pos hconst]
    dsimp only [Owned.node]
    rw [Code.bind_done hdelete, Code.bind_done hvalue, Code.bind_done hstring,
      Code.bind_done (Code.free_done hs₃.head)]
    exact hnext

end Delete

end ControllerSystem.CJson.OnHeap
