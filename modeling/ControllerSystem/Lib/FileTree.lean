import Mathlib.Data.List.Basic
import Mathlib.Logic.Function.Basic

/-!
# Directory trees

A tree of directories and files, in which every entry lies in a directory, and `mkdir` for a path
that is given by its components. A path is *made* by making its prefixes one after the other, where
an entry that exists already is no error; `makeDirs` goes down the tree instead.

* `mkdirs_climbs` — making the prefixes of a path comes to the same as going down;
* `makeDirs_kind` — only directories on the path are added;
* `makeDirs_of_open`, `makeDirs_of_blocked` — how it ends when nothing is in the way, and when
  something is.
-/

namespace FileTree

variable {α : Type}

/-! ### Places and paths -/

inductive Kind
  | dir
  | file
  deriving DecidableEq

/-- A place in the tree: the names from the innermost one to the root. -/
abbrev Node (α : Type) := List α

/-- A component of a path. -/
inductive Component (α : Type)
  | self
  | up
  | name (a : α)
  deriving DecidableEq

/-- Where a component leads. -/
def enter (d : Node α) : Component α → Node α
  | .self => d
  | .up => d.tail
  | .name a => a :: d

/-- The errors of `mkdir`; `refused` stands for those that do not depend on the tree. -/
inductive Errno
  | eexist
  | enoent
  | enotdir
  | refused
  deriving DecidableEq

/-- Paths that grow from `cur` to `fin`, by a component at a time or not at all. -/
inductive Climbs : List (Component α) → List (List (Component α)) → List (Component α) → Prop
  | nil (cur) : Climbs cur [] cur
  | stay {cur paths fin} (h : Climbs cur paths fin) : Climbs cur (cur :: paths) fin
  | step {cur paths fin} (c) (h : Climbs (cur ++ [c]) paths fin) :
      Climbs cur ((cur ++ [c]) :: paths) fin

theorem Climbs.isPrefix {cur fin : List (Component α)} {paths : List (List (Component α))}
    (h : Climbs cur paths fin) : cur <+: fin := by
  induction h with
  | nil cur => exact List.prefix_rfl
  | stay h ih => exact ih
  | step c h ih => exact (List.prefix_append _ [c]).trans ih

/-- The first place on a path is where it begins. -/
theorem scanl_enter_eq (d : Node α) (cs : List (Component α)) :
    ∃ qs, cs.scanl enter d = d :: qs ∧ (qs = [] ↔ cs = []) := by
  cases cs with
  | nil => exact ⟨[], rfl, iff_of_true rfl rfl⟩
  | cons c cs =>
    refine ⟨_, List.scanl_cons, iff_of_false ?_ (List.cons_ne_nil _ _)⟩
    exact List.scanl_ne_nil

theorem mem_scanl_enter (d : Node α) (cs : List (Component α)) : d ∈ cs.scanl enter d := by
  obtain ⟨qs, hqs, -⟩ := scanl_enter_eq d cs
  rw [hqs]
  exact List.mem_cons_self

/-! ### Trees -/

/-- What there is in each place; the parent of an entry is a directory. -/
structure DirTree (α : Type) where
  kind : Node α → Option Kind
  root_dir : kind [] = some .dir
  parent_dir : ∀ a d, kind (a :: d) ≠ none → kind d = some .dir

namespace DirTree

variable {t : DirTree α} {d q : Node α}

theorem tail_dir (h : t.kind d ≠ none) : t.kind d.tail = some .dir := by
  cases d with
  | nil => exact t.root_dir
  | cons a d => exact t.parent_dir a d h

/-- A component that leads from a directory to nothing is a name. -/
theorem tail_enter_dir {c : Component α} (hd : t.kind d = some .dir)
    (hc : t.kind (enter d c) = none) : t.kind (enter d c).tail = some .dir := by
  cases c with
  | self => exact absurd hc (by rw [enter, hd]; exact Option.some_ne_none _)
  | up =>
    have hup := tail_dir (t := t) (d := d) (by rw [hd]; exact Option.some_ne_none _)
    exact absurd hc (by rw [enter, hup]; exact Option.some_ne_none _)
  | name a => exact hd

/-- Follow a path of directories. -/
def walk (t : DirTree α) : Node α → List (Component α) → Except Errno (Node α)
  | d, [] => .ok d
  | d, c :: cs =>
    match t.kind (enter d c) with
    | none => .error .enoent
    | some .file => .error .enotdir
    | some .dir => t.walk (enter d c) cs

theorem walk_append (d : Node α) (cs : List (Component α)) (c : Component α) :
    t.walk d (cs ++ [c]) = t.walk d cs >>= fun d' => t.walk d' [c] := by
  induction cs generalizing d with
  | nil => rfl
  | cons c' cs ih =>
    rw [List.cons_append, walk, walk]
    split
    · rfl
    · rfl
    · exact ih _

theorem walk_singleton (d : Node α) (c : Component α) (h : t.kind (enter d c) = some .dir) :
    t.walk d [c] = .ok (enter d c) := by
  rw [walk, h]
  rfl

/-- A path that is walked leads to a directory. -/
theorem walk_dir {d' : Node α} {cs : List (Component α)} (hd : t.kind d = some .dir)
    (h : t.walk d cs = .ok d') : t.kind d' = some .dir := by
  induction cs generalizing d with
  | nil =>
    cases h
    exact hd
  | cons c cs ih =>
    rw [walk] at h
    split at h
    · cases h
    · cases h
    · next hdir => exact ih hdir h

variable [DecidableEq α]

/-- The tree with one directory more, where it can be added. -/
def add (t : DirTree α) (q : Node α) : DirTree α :=
  if h : t.kind q.tail = some .dir ∧ t.kind q = none then
    { kind := Function.update t.kind q (some .dir)
      root_dir := by
        have hne : [] ≠ q := fun hq => by simp [← hq, t.root_dir] at h
        rw [Function.update_of_ne hne, t.root_dir]
      parent_dir := by
        intro a d had
        by_cases hq : a :: d = q
        · subst hq
          have hne : d ≠ a :: d := fun heq => absurd (congrArg List.length heq) (by simp)
          rw [Function.update_of_ne hne]
          exact h.1
        · rw [Function.update_of_ne hq] at had
          have hdir := t.parent_dir a d had
          have hne : d ≠ q := fun heq => by simp [heq, h.2] at hdir
          rw [Function.update_of_ne hne, hdir] }
  else t

theorem add_kind_self (hd : t.kind q.tail = some .dir) (hq : t.kind q = none) :
    (t.add q).kind q = some .dir := by
  rw [add, dif_pos ⟨hd, hq⟩]
  exact Function.update_self ..

theorem add_kind_ne {p : Node α} (h : p ≠ q) : (t.add q).kind p = t.kind p := by
  rw [add]
  split
  · exact Function.update_of_ne h ..
  · rfl

/-- A directory stays one. -/
theorem add_kind_dir {p : Node α} (h : t.kind p = some .dir) : (t.add q).kind p = some .dir := by
  by_cases hpq : p = q
  · subst hpq
    rw [add, dif_neg (fun hq => by simp [h] at hq), h]
  · rw [add_kind_ne hpq, h]

end DirTree

/-! ### `mkdir` -/

namespace DirTree

variable [DecidableEq α] {refuses : Node α → Bool} {t : DirTree α} {d q : Node α}

/-- Make the entry where a component leads. -/
def mkdirAt (refuses : Node α → Bool) (t : DirTree α) (q : Node α) : Option Errno × DirTree α :=
  match t.kind q with
  | some _ => (some .eexist, t)
  | none => if refuses q then (some .refused, t) else (none, t.add q)

/-- `mkdir` for a path from `d`: the error, if there is one, and the tree. -/
def mkdir (refuses : Node α → Bool) (t : DirTree α) (d : Node α) (cs : List (Component α)) :
    Option Errno × DirTree α :=
  match cs.getLast? with
  | none => (some .eexist, t)
  | some c =>
    match t.walk d cs.dropLast with
    | .error e => (some e, t)
    | .ok d' => t.mkdirAt refuses (enter d' c)

/-- Make some paths one after the other, up to the first error but that of an existing entry. -/
def mkdirs (refuses : Node α → Bool) (d : Node α) :
    DirTree α → List (List (Component α)) → Bool × DirTree α
  | t, [] => (true, t)
  | t, cs :: paths =>
    match t.mkdir refuses d cs with
    | (none, t') => mkdirs refuses d t' paths
    | (some .eexist, t') => mkdirs refuses d t' paths
    | (some _, t') => (false, t')

/-- Go down a path, and add what is missing. Below a file there is nothing to be added, so that it
ends well only if the file is the last. -/
def makeDirs (refuses : Node α → Bool) : DirTree α → Node α → List (Component α) → Bool × DirTree α
  | t, _, [] => (true, t)
  | t, d, c :: cs =>
    match t.kind (enter d c) with
    | some .dir => makeDirs refuses t (enter d c) cs
    | some .file => (cs.isEmpty, t)
    | none =>
      if refuses (enter d c) then (false, t)
      else makeDirs refuses (t.add (enter d c)) (enter d c) cs

/-! ### Prefixes -/

/-- A path is walked in a larger tree too. -/
theorem walk_add {d' : Node α} {cs : List (Component α)} (h : t.walk d cs = .ok d') :
    (t.add q).walk d cs = .ok d' := by
  induction cs generalizing d with
  | nil => exact h
  | cons c cs ih =>
    rw [walk] at h ⊢
    split at h
    · cases h
    · cases h
    · next hdir =>
      rw [add_kind_dir hdir]
      exact ih h

/-- `mkdir` in a directory that is reached. -/
theorem mkdir_concat {d' : Node α} {cs : List (Component α)} (c : Component α)
    (h : t.walk d cs = .ok d') :
    t.mkdir refuses d (cs ++ [c]) = t.mkdirAt refuses (enter d' c) := by
  rw [mkdir, List.getLast?_concat, List.dropLast_concat]
  dsimp only
  rw [h]

/-- `mkdir` for a directory that is reached. -/
theorem mkdir_walked {d' : Node α} {cs : List (Component α)}
    (h : t.walk d cs = .ok d') : t.mkdir refuses d cs = (some .eexist, t) := by
  rcases List.eq_nil_or_concat cs with rfl | ⟨cs, c, rfl⟩
  · rfl
  · rw [List.concat_eq_append, walk_append] at h
    rw [List.concat_eq_append]
    cases hcs : t.walk d cs with
    | error e =>
      rw [hcs] at h
      cases h
    | ok d'' =>
      rw [hcs] at h
      have hdir : t.walk d'' [c] = .ok d' := h
      rw [walk] at hdir
      split at hdir
      · cases hdir
      · cases hdir
      · next hkind => rw [mkdir_concat c hcs, mkdirAt, hkind]

/-- Below a file nothing is made. -/
theorem mkdirs_of_file (refuses : Node α → Bool) {cs cur fin : List (Component α)}
    {paths : List (List (Component α))} {c : Component α} {d' : Node α}
    (hclimbs : Climbs cur paths fin) (hcur : cur = cs ++ [c])
    (hwalk : t.walk d cs = .ok d') (hfile : t.kind (enter d' c) = some .file) :
    ∃ rest, fin = cur ++ rest ∧ mkdirs refuses d t paths = (rest.isEmpty, t) := by
  induction hclimbs with
  | nil cur => exact ⟨[], (List.append_nil _).symm, rfl⟩
  | stay h ih =>
    obtain ⟨rest, hrest, hmkdirs⟩ := ih hcur
    refine ⟨rest, hrest, ?_⟩
    rw [mkdirs, hcur, mkdir_concat c hwalk, mkdirAt, hfile]
    exact hmkdirs
  | step c' h ih =>
    obtain ⟨rest, rfl⟩ := h.isPrefix
    refine ⟨c' :: rest, by rw [List.append_assoc, List.singleton_append], ?_⟩
    have hnotdir : t.walk d (cs ++ [c]) = .error .enotdir := by
      rw [walk_append, hwalk]
      show t.walk d' [c] = _
      rw [walk, hfile]
    rw [mkdirs, mkdir, List.getLast?_concat, List.dropLast_concat, hcur]
    dsimp only
    rw [hnotdir]
    rfl

/-- Making the prefixes of a path comes to going down the path. -/
theorem mkdirs_climbs {cur fin : List (Component α)} {paths : List (List (Component α))}
    {d₀ : Node α} (hclimbs : Climbs cur paths fin) (hd₀ : t.kind d₀ = some .dir)
    (hwalk : t.walk d₀ cur = .ok d) :
    ∃ rest, fin = cur ++ rest ∧ mkdirs refuses d₀ t paths = makeDirs refuses t d rest := by
  induction hclimbs generalizing t d with
  | nil cur => exact ⟨[], (List.append_nil _).symm, rfl⟩
  | stay h ih =>
    obtain ⟨rest, hrest, hmkdirs⟩ := ih hd₀ hwalk
    refine ⟨rest, hrest, ?_⟩
    rw [mkdirs, mkdir_walked hwalk]
    exact hmkdirs
  | @step cur paths fin c h ih =>
    have hdir := walk_dir hd₀ hwalk
    have hgo : ∀ t' : DirTree α, t'.walk d₀ cur = .ok d → t'.kind (enter d c) = some .dir →
        t'.walk d₀ (cur ++ [c]) = .ok (enter d c) := by
      intro t' hwalk' hkind
      rw [walk_append, hwalk']
      exact walk_singleton d c hkind
    cases hkind : t.kind (enter d c) with
    | some kind =>
      cases kind with
      | dir =>
        obtain ⟨rest, hrest, hmkdirs⟩ := ih hd₀ (hgo t hwalk hkind)
        refine ⟨c :: rest, by rw [hrest, List.append_assoc, List.singleton_append], ?_⟩
        rw [mkdirs, mkdir_concat c hwalk, mkdirAt, hkind, makeDirs, hkind]
        exact hmkdirs
      | file =>
        obtain ⟨rest, hrest, hmkdirs⟩ :=
          mkdirs_of_file refuses h rfl hwalk hkind
        refine ⟨c :: rest, by rw [hrest, List.append_assoc, List.singleton_append], ?_⟩
        rw [mkdirs, mkdir_concat c hwalk, mkdirAt, hkind, makeDirs, hkind]
        exact hmkdirs
    | none =>
      by_cases hrefuse : refuses (enter d c) = true
      · obtain ⟨rest, rfl⟩ := h.isPrefix
        refine ⟨c :: rest, by rw [List.append_assoc, List.singleton_append], ?_⟩
        rw [mkdirs, mkdir_concat c hwalk, mkdirAt, hkind, makeDirs, hkind]
        dsimp only
        rw [if_pos hrefuse, if_pos hrefuse]
      · have hself := add_kind_self (tail_enter_dir hdir hkind) hkind
        obtain ⟨rest, hrest, hmkdirs⟩ :=
          ih (add_kind_dir hd₀) (hgo (t.add (enter d c)) (walk_add hwalk) hself)
        refine ⟨c :: rest, by rw [hrest, List.append_assoc, List.singleton_append], ?_⟩
        rw [mkdirs, mkdir_concat c hwalk, mkdirAt, hkind, makeDirs, hkind]
        dsimp only
        rw [if_neg hrefuse, if_neg hrefuse]
        exact hmkdirs

/-! ### Going down a path -/

/-- A directory cannot be made, or gone into: a file is in its place, or it is refused. -/
def Blocked (refuses : Node α → Bool) (t : DirTree α) (q : Node α) : Prop :=
  t.kind q = some .file ∨ t.kind q = none ∧ refuses q = true

instance (refuses : Node α → Bool) (t : DirTree α) (q : Node α) : Decidable (Blocked refuses t q) :=
  inferInstanceAs (Decidable (_ ∨ _))

/-- Only directories on the path are added. -/
theorem makeDirs_kind {cs : List (Component α)} (hd : t.kind d = some .dir)
    (hq : (makeDirs refuses t d cs).2.kind q ≠ t.kind q) :
    q ∈ cs.scanl enter d ∧ t.kind q = none ∧ (makeDirs refuses t d cs).2.kind q = some .dir := by
  induction cs generalizing t d with
  | nil => exact absurd rfl hq
  | cons c cs ih =>
    rw [List.scanl_cons, List.mem_cons]
    rw [makeDirs] at hq ⊢
    split at hq
    · next hkind =>
      obtain ⟨hmem, habsent⟩ := ih hkind hq
      exact ⟨.inr hmem, habsent⟩
    · exact absurd rfl hq
    · next hkind =>
      by_cases hrefuse : refuses (enter d c) = true
      · rw [if_pos hrefuse] at hq
        exact absurd rfl hq
      · rw [if_neg hrefuse] at hq ⊢
        have hself := add_kind_self (tail_enter_dir hd hkind) hkind
        by_cases hqc : q = enter d c
        · -- what has been added stays
          subst hqc
          refine ⟨.inr (mem_scanl_enter _ _), hkind, ?_⟩
          by_contra hne
          have hchanged := ih hself (show _ ≠ (t.add (enter d c)).kind (enter d c) by rwa [hself])
          rw [hself] at hchanged
          exact absurd hchanged.2.1 (Option.some_ne_none _)
        · have hsame : (t.add (enter d c)).kind q = t.kind q := add_kind_ne hqc
          obtain ⟨hmem, habsent, hdir⟩ := ih hself (by rwa [hsame])
          exact ⟨.inr hmem, by rwa [← hsame], hdir⟩

/-- What there is stays. -/
theorem makeDirs_kind_some {cs : List (Component α)} {k : Kind} (hd : t.kind d = some .dir)
    (hq : t.kind q = some k) : (makeDirs refuses t d cs).2.kind q = some k := by
  by_contra hne
  have hchanged := makeDirs_kind hd (by rwa [hq])
  rw [hq] at hchanged
  exact absurd hchanged.2.1 (Option.some_ne_none _)

/-- A directory that has been added blocks nothing. -/
theorem Blocked.of_add {p : Node α} (hd : t.kind p.tail = some .dir) (hp : t.kind p = none)
    (h : Blocked refuses (t.add p) q) : Blocked refuses t q := by
  have hself := add_kind_self hd hp
  by_cases hqp : q = p
  · subst hqp
    rw [Blocked, hself] at h
    exact absurd h (by simp)
  · rwa [Blocked, add_kind_ne hqp] at h

/-- With nothing in the way, all of the path is there. -/
theorem makeDirs_of_open {cs : List (Component α)} (hd : t.kind d = some .dir)
    (hopen : ∀ q ∈ cs.scanl enter d, ¬ Blocked refuses t q) :
    (makeDirs refuses t d cs).1 = true ∧
      ∀ q ∈ cs.scanl enter d, (makeDirs refuses t d cs).2.kind q = some .dir := by
  induction cs generalizing t d with
  | nil =>
    refine ⟨rfl, fun q hq => ?_⟩
    obtain rfl := List.mem_singleton.mp hq
    exact hd
  | cons c cs ih =>
    rw [List.scanl_cons, List.forall_mem_cons] at hopen ⊢
    have hc := mem_scanl_enter (enter d c) cs
    rw [makeDirs]
    split
    · next hkind =>
      obtain ⟨hok, hdirs⟩ := ih hkind hopen.2
      exact ⟨hok, makeDirs_kind_some hkind hd, hdirs⟩
    · next hkind => exact absurd (.inl hkind) (hopen.2 _ hc)
    · next hkind =>
      have hrefuse : ¬ refuses (enter d c) = true := fun hr => hopen.2 _ hc (.inr ⟨hkind, hr⟩)
      rw [if_neg hrefuse]
      have htail := tail_enter_dir hd hkind
      have hself := add_kind_self htail hkind
      obtain ⟨hok, hdirs⟩ := ih hself fun q hq hb => hopen.2 q hq (hb.of_add htail hkind)
      exact ⟨hok, makeDirs_kind_some hself (add_kind_dir hd), hdirs⟩

/-- It blocks what it does not replace. -/
theorem Blocked.add {p : Node α} (hqp : q ≠ p) (h : Blocked refuses t q) :
    Blocked refuses (t.add p) q := by
  rwa [Blocked, add_kind_ne hqp]

omit [DecidableEq α] in
/-- Of the places of a list that are blocked, one is the first. -/
theorem exists_first_blocked {l : List (Node α)} (h : ∃ q ∈ l, Blocked refuses t q) :
    ∃ as q bs, l = as ++ q :: bs ∧ (∀ a ∈ as, ¬ Blocked refuses t a) ∧ Blocked refuses t q := by
  obtain ⟨q, hq⟩ := Option.isSome_iff_exists.mp
    (List.find?_isSome (p := fun q => decide (Blocked refuses t q)).mpr (by simpa using h))
  obtain ⟨hblocked, as, bs, hl, hopen⟩ := List.find?_eq_some_iff_append.mp hq
  exact ⟨as, q, bs, hl, by simpa using hopen, of_decide_eq_true hblocked⟩

omit [DecidableEq α] in
/-- If the first place of a list is blocked, it is the first one that is. -/
theorem eq_of_blocked {p : Node α} {l as bs : List (Node α)} (hl : p :: l = as ++ q :: bs)
    (hopen : ∀ a ∈ as, ¬ Blocked refuses t a) (hp : Blocked refuses t p) :
    as = [] ∧ q = p ∧ bs = l := by
  cases as with
  | nil =>
    obtain ⟨rfl, rfl⟩ := List.cons.inj hl
    exact ⟨rfl, rfl, rfl⟩
  | cons a as =>
    obtain ⟨rfl, -⟩ := List.cons.inj hl
    exact absurd hp (hopen p List.mem_cons_self)

omit [DecidableEq α] in
/-- The first place of a list, if it is another one, comes before. -/
theorem mem_of_cons_eq {p : Node α} {l as bs : List (Node α)} (hl : p :: l = as ++ q :: bs)
    (hne : q ≠ p) : p ∈ as := by
  cases as with
  | nil => exact absurd (List.cons.inj hl).1.symm hne
  | cons a as =>
    obtain ⟨rfl, -⟩ := List.cons.inj hl
    exact List.mem_cons_self

/-- It stops at the first place that is blocked; only at the end of the path that goes unnoticed,
if there is a file. -/
theorem makeDirs_of_blocked {cs : List (Component α)} {as bs : List (Node α)}
    (hd : t.kind d = some .dir) (hpath : cs.scanl enter d = as ++ q :: bs)
    (hopen : ∀ a ∈ as, ¬ Blocked refuses t a) (hblocked : Blocked refuses t q) :
    ((makeDirs refuses t d cs).1 = true ↔ bs = [] ∧ t.kind q = some .file) ∧
      (∀ a ∈ as, (makeDirs refuses t d cs).2.kind a = some .dir) ∧
      ∀ p, (makeDirs refuses t d cs).2.kind p ≠ t.kind p → p ∈ as := by
  have hdir : ¬ Blocked refuses t d := by simp [Blocked, hd]
  induction cs generalizing t d as with
  | nil =>
    -- the only place is the directory it begins in
    rw [List.scanl_nil] at hpath
    have hq : q ∈ [d] := by rw [hpath]; exact List.mem_append_right _ List.mem_cons_self
    exact absurd (List.mem_singleton.mp hq ▸ hblocked) hdir
  | cons c cs ih =>
    obtain ⟨qs, hqs, hnil⟩ := scanl_enter_eq (enter d c) cs
    rw [List.scanl_cons] at hpath
    cases as with
    | nil =>
      obtain ⟨rfl, -⟩ := List.cons.inj hpath
      exact absurd hblocked hdir
    | cons a as =>
      obtain ⟨rfl, htail⟩ := List.cons.inj hpath
      obtain ⟨-, hopen'⟩ := List.forall_mem_cons.mp hopen
      have hplaces : enter d c :: qs = as ++ q :: bs := hqs.symm.trans htail
      rw [makeDirs]
      split
      · next hkind =>
        obtain ⟨hok, hdirs, hchanged⟩ :=
          ih hkind htail hopen' hblocked (by simp [Blocked, hkind])
        refine ⟨hok, List.forall_mem_cons.mpr ⟨makeDirs_kind_some hkind hd, hdirs⟩, ?_⟩
        exact fun p hp => List.mem_cons_of_mem _ (hchanged p hp)
      · next hkind =>
        obtain ⟨rfl, rfl, rfl⟩ := eq_of_blocked hplaces hopen' (.inl hkind)
        refine ⟨?_, fun a ha => ?_, fun p hp => absurd rfl hp⟩
        · rw [List.isEmpty_iff, hnil]
          exact (and_iff_left hkind).symm
        · obtain rfl := List.mem_singleton.mp ha
          exact hd
      · next hkind =>
        by_cases hrefuse : refuses (enter d c) = true
        · obtain ⟨rfl, rfl, rfl⟩ := eq_of_blocked hplaces hopen' (.inr ⟨hkind, hrefuse⟩)
          rw [if_pos hrefuse]
          refine ⟨by simp [hkind], fun a ha => ?_, fun p hp => absurd rfl hp⟩
          obtain rfl := List.mem_singleton.mp ha
          exact hd
        · rw [if_neg hrefuse]
          have hself := add_kind_self (tail_enter_dir hd hkind) hkind
          have hqc : q ≠ enter d c := by
            rintro rfl
            simp [Blocked, hkind, hrefuse] at hblocked
          obtain ⟨hok, hdirs, hchanged⟩ := ih hself htail
            (fun a ha hb => hopen' a ha (hb.of_add (tail_enter_dir hd hkind) hkind))
            (hblocked.add hqc) (by simp [Blocked, hself])
          rw [add_kind_ne hqc] at hok
          refine ⟨hok, List.forall_mem_cons.mpr
            ⟨makeDirs_kind_some hself (add_kind_dir hd), hdirs⟩, fun p hp => ?_⟩
          by_cases hpc : p = enter d c
          · -- what has been added is on the way
            subst hpc
            exact List.mem_cons_of_mem _ (mem_of_cons_eq hplaces hqc)
          · exact List.mem_cons_of_mem _ (hchanged p (by rwa [add_kind_ne hpc]))

end DirTree

end FileTree
