import ControllerSystem.Lib.FileTree
import ControllerSystem.Lib.Tokens
import ControllerSystem.Lib.Words

/-!
# The directories of a file

`mkdirp` is called with the name of a log file or a database. It cuts the name at its last slash or
backslash, and makes a directory at each slash of what is left, and one for all of it.

* `mkdirp_eq` — it goes down the path that is left;
* `components_strDir` — how that differs from the path to the file;
* `makes_iff` — when the directories above the file are made, and nothing else.
-/

open Words Tokens FileTree

namespace ControllerSystem.Controller.Mkdirp

/-! ### File systems -/

/-- The tree, the working directory, and what `mkdir` refuses to add to the tree. -/
structure FileSystem where
  tree : DirTree Bytes
  cwd : Node Bytes
  cwd_dir : tree.kind cwd = some .dir
  refuses : Node Bytes → Bool

/-- A component of a path, `.` and `..` among them. -/
def component (name : Bytes) : Component Bytes :=
  if name = ascii "." then .self else if name = ascii ".." then .up else .name name

def components (path : Bytes) : List (Component Bytes) := (tokens 47 path).map component

namespace FileSystem

/-- Where a path begins. -/
def start (fs : FileSystem) (path : Bytes) : Node Bytes :=
  if path.head? = some 47 then [] else fs.cwd

/-- `mkdir( path, mode )`. -/
def mkdir (fs : FileSystem) (tree : DirTree Bytes) (path : Bytes) : Option Errno × DirTree Bytes :=
  if path = [] then (some .enoent, tree)
  else tree.mkdir fs.refuses (fs.start path) (components path)

end FileSystem

/-! ### The code -/

/-- `find_last_of`. -/
def findLastOf (chars : List UInt8) : Bytes → Option ℕ
  | [] => none
  | c :: s =>
    match findLastOf chars s with
    | some i => some (i + 1)
    | none => if c ∈ chars then some 0 else none

/-- `strDir`: without a separator it is all of the path. -/
def strDir (strPath : Bytes) : Bytes :=
  match findLastOf [47, 92] strPath with
  | some found => strPath.take found
  | none => strPath

/-- The loop: the characters before `p` and the ones behind it. -/
def mkdirpLoop (fs : FileSystem) : DirTree Bytes → Bytes → Bytes → Bool × DirTree Bytes
  | tree, before, [] =>
    match fs.mkdir tree before with
    | (none, tree) => (true, tree)
    | (some .eexist, tree) => (true, tree)
    | (some _, tree) => (false, tree)
  | tree, before, c :: p =>
    if c = 47 then
      match fs.mkdir tree before with
      | (none, tree) => mkdirpLoop fs tree (before ++ [c]) p
      | (some .eexist, tree) => mkdirpLoop fs tree (before ++ [c]) p
      | (some _, tree) => (false, tree)
    else mkdirpLoop fs tree (before ++ [c]) p

/-- What is returned, and the tree. -/
def mkdirp (fs : FileSystem) (strPath : Bytes) : Bool × DirTree Bytes :=
  match cstr (strDir strPath) with
  | [] => (true, fs.tree)
  -- the first character is skipped
  | c :: p => mkdirpLoop fs fs.tree [c] p

/-! ### Its purpose -/

/-- The name of a file. -/
structure FilePath where
  bytes : Bytes
  ne_nil : bytes ≠ []
  nul_notMem : 0 ∉ bytes
  not_slash : bytes.getLast? ≠ some 47

namespace FilePath

variable (fs : FileSystem) (path : FilePath)

/-- The directories the path leads through. -/
def ancestors : List (Node Bytes) :=
  (components path.bytes).dropLast.scanl enter (fs.start path.bytes)

/-- The directory the file is in. -/
def directory : Node Bytes := (components path.bytes).dropLast.foldl enter (fs.start path.bytes)

/-- The place of the file. -/
def target : Node Bytes := (components path.bytes).foldl enter (fs.start path.bytes)

/-- The last component. -/
def lastName : Bytes :=
  match findLastOf [47] path.bytes with
  | some i => path.bytes.drop (i + 1)
  | none => path.bytes

/-- What the last component has before its last backslash, or all of a path without a separator. -/
def stray : Bytes :=
  match findLastOf [47, 92] path.bytes with
  | none => path.bytes
  | some _ =>
    match findLastOf [92] path.lastName with
    | some i => path.lastName.take i
    | none => []

end FilePath

/-- The place that is cut out beside the file. -/
def FilePath.strayPlace (fs : FileSystem) (path : FilePath) : Node Bytes :=
  enter (path.directory fs) (component path.stray)

/-- Only the directories above the file are made; in the end all of them are there and the file
has not been made one, or all above the first one that cannot be made. -/
structure Makes (fs : FileSystem) (path : FilePath) (result : Bool × DirTree Bytes) : Prop where
  only : ∀ q, result.2.kind q ≠ fs.tree.kind q →
    q ∈ path.ancestors fs ∧ fs.tree.kind q = none ∧ result.2.kind q = some .dir
  success : result.1 = true → (∀ q ∈ path.ancestors fs, result.2.kind q = some .dir) ∧
    ¬ (fs.tree.kind (path.target fs) = none ∧ result.2.kind (path.target fs) = some .dir)
  failure : result.1 = false → ∃ as q bs, path.ancestors fs = as ++ q :: bs ∧
    DirTree.Blocked fs.refuses fs.tree q ∧ (∀ a ∈ as, result.2.kind a = some .dir) ∧
      ∀ p, result.2.kind p ≠ fs.tree.kind p → p ∈ as

/-! ### The loop -/

/-- The paths that are made. -/
def cuts : Bytes → Bytes → List Bytes
  | before, [] => [before]
  | before, c :: p =>
    if c = 47 then before :: cuts (before ++ [c]) p else cuts (before ++ [c]) p

theorem FileSystem.start_dir (fs : FileSystem) (path : Bytes) :
    fs.tree.kind (fs.start path) = some .dir := by
  rw [FileSystem.start]
  split
  · exact fs.tree.root_dir
  · exact fs.cwd_dir

/-- A longer path begins in the same place. -/
theorem start_append (fs : FileSystem) {before : Bytes} (hne : before ≠ []) (p : Bytes) :
    fs.start (before ++ p) = fs.start before := by
  cases before with
  | nil => exact absurd rfl hne
  | cons c before => rfl

/-- The loop makes the paths one after the other. -/
theorem mkdirpLoop_eq (fs : FileSystem) (tree : DirTree Bytes) {before : Bytes} (p : Bytes)
    (hne : before ≠ []) :
    mkdirpLoop fs tree before p =
      DirTree.mkdirs fs.refuses (fs.start before) tree ((cuts before p).map components) := by
  have hmkdir : ∀ t, fs.mkdir t before =
      t.mkdir fs.refuses (fs.start before) (components before) := fun t => if_neg hne
  induction p generalizing tree before with
  | nil =>
    rw [mkdirpLoop, hmkdir, cuts, List.map_singleton, DirTree.mkdirs]
    obtain ⟨error, tree'⟩ := tree.mkdir fs.refuses (fs.start before) (components before)
    rcases error with _ | _ | _ | _ | _ <;> rfl
  | cons c p ih =>
    have hne' : before ++ [c] ≠ [] := List.append_ne_nil_of_left_ne_nil hne _
    have hnext : ∀ t, mkdirpLoop fs t (before ++ [c]) p =
        DirTree.mkdirs fs.refuses (fs.start before) t
          ((cuts (before ++ [c]) p).map components) := by
      intro t
      rw [ih t hne' fun t => if_neg hne', start_append fs hne]
    rw [mkdirpLoop, cuts]
    split
    · rw [hmkdir, List.map_cons, DirTree.mkdirs]
      obtain ⟨error, tree'⟩ := tree.mkdir fs.refuses (fs.start before) (components before)
      -- only the error of an entry that exists is none
      rcases error with _ | _ | _ | _ | _
      · exact hnext tree'
      · exact hnext tree'
      all_goals rfl
    · exact hnext tree

/-- The components of a path that is cut behind a slash. -/
theorem components_append {pre seg : Bytes} (hpre : pre = [] ∨ ∃ pre', pre = pre' ++ [47])
    (hseg : 47 ∉ seg) :
    components (pre ++ seg) = components pre ++ if seg = [] then [] else [component seg] := by
  rw [components, tokens_append_of_end hpre, List.map_append, components]
  split
  · next h =>
    rw [h]
    rfl
  · next h =>
    rw [tokens_of_notMem h hseg]
    rfl

/-- One path more. -/
theorem climbs_cons {pre seg : Bytes} {paths : List (List (Component Bytes))}
    {fin : List (Component Bytes)} (hpre : pre = [] ∨ ∃ pre', pre = pre' ++ [47])
    (hseg : 47 ∉ seg) (h : Climbs (components (pre ++ seg)) paths fin) :
    Climbs (components pre) (components (pre ++ seg) :: paths) fin := by
  rw [components_append hpre hseg] at h ⊢
  by_cases hnil : seg = []
  · rw [if_pos hnil, List.append_nil] at h ⊢
    exact .stay h
  · rw [if_neg hnil] at h ⊢
    exact .step _ h

/-- The paths that are made grow by a component at a time. -/
theorem climbs_cuts {pre seg : Bytes} (p : Bytes) (hpre : pre = [] ∨ ∃ pre', pre = pre' ++ [47])
    (hseg : 47 ∉ seg) :
    Climbs (components pre) ((cuts (pre ++ seg) p).map components)
      (components (pre ++ seg ++ p)) := by
  induction p generalizing pre seg with
  | nil =>
    rw [cuts, List.append_nil, List.map_singleton]
    exact climbs_cons hpre hseg (.nil _)
  | cons c p ih =>
    rw [cuts, List.append_cons (pre ++ seg) c p]
    split
    · next hc =>
      subst hc
      have hslash : components (pre ++ seg ++ [47]) = components (pre ++ seg) := by
        rw [components, components, tokens_concat, tokens_nil, List.append_nil]
      have hnext := ih (.inr ⟨pre ++ seg, rfl⟩) List.not_mem_nil
      rw [List.append_nil, hslash] at hnext
      rw [List.map_cons]
      exact climbs_cons hpre hseg hnext
    · next hc =>
      -- the component is longer by a character
      rw [List.append_assoc pre seg [c]]
      refine ih hpre fun hmem => ?_
      rcases List.mem_append.mp hmem with h | h
      · exact hseg h
      · exact hc (List.mem_singleton.mp h).symm

/-- What is done is to go down the path that is left. -/
theorem mkdirp_eq (fs : FileSystem) {strPath : Bytes} (hnul : 0 ∉ strDir strPath)
    (hcut : strDir strPath <+: strPath) :
    mkdirp fs strPath =
      fs.tree.makeDirs fs.refuses (fs.start strPath) (components (strDir strPath)) := by
  rw [mkdirp, cstr_eq_self hnul]
  obtain ⟨rest, hrest⟩ := hcut
  cases hdir : strDir strPath with
  | nil => rfl
  | cons c p =>
    have hstart : fs.start strPath = fs.start [c] := by
      rw [← hrest, hdir]
      rfl
    have hclimbs : Climbs [] ((cuts [c] p).map components) (components (c :: p)) := by
      by_cases hc : c = 47
      · subst hc
        exact @climbs_cuts [47] [] p (.inr ⟨[], rfl⟩) List.not_mem_nil
      · exact @climbs_cuts [] [c] p (.inl rfl) fun h =>
          hc (List.mem_singleton.mp h).symm
    obtain ⟨path, hpath, hmkdirs⟩ := DirTree.mkdirs_climbs hclimbs (fs.start_dir [c]) rfl
    rw [List.nil_append] at hpath
    show mkdirpLoop fs fs.tree [c] p = _
    rw [mkdirpLoop_eq fs fs.tree p (List.cons_ne_nil c []), hmkdirs, hstart, hpath]

/-! ### What is left of a path -/

/-- The last of some characters in a text. -/
theorem findLastOf_append {chars : List UInt8} {l r : Bytes} {c : UInt8} (hc : c ∈ chars)
    (hr : ∀ b ∈ r, b ∉ chars) : findLastOf chars (l ++ c :: r) = some l.length := by
  have hnone : ∀ r : Bytes, (∀ b ∈ r, b ∉ chars) → findLastOf chars r = none := by
    intro r
    induction r with
    | nil => exact fun _ => rfl
    | cons b r ih =>
      intro hr
      obtain ⟨hb, hr⟩ := List.forall_mem_cons.mp hr
      rw [findLastOf, ih hr]
      exact if_neg hb
  induction l with
  | nil =>
    rw [List.nil_append, findLastOf, hnone r hr]
    exact if_pos hc
  | cons b l ih =>
    rw [List.cons_append, findLastOf, ih]
    rfl

/-- A text has one of some characters, or none. -/
theorem findLastOf_cases (chars : List UInt8) (s : Bytes) :
    (findLastOf chars s = none ∧ ∀ b ∈ s, b ∉ chars) ∨
      ∃ l c r, s = l ++ c :: r ∧ c ∈ chars ∧ (∀ b ∈ r, b ∉ chars) ∧
        findLastOf chars s = some l.length := by
  induction s with
  | nil => exact .inl ⟨rfl, fun b hb => absurd hb List.not_mem_nil⟩
  | cons b s ih =>
    rcases ih with ⟨hnone, hs⟩ | ⟨l, c, r, rfl, hc, hr, -⟩
    · by_cases hb : b ∈ chars
      · exact .inr ⟨[], b, s, rfl, hb, hs, @findLastOf_append chars [] s b hb hs⟩
      · refine .inl ⟨?_, List.forall_mem_cons.mpr ⟨hb, hs⟩⟩
        rw [findLastOf, hnone]
        exact if_neg hb
    · exact .inr ⟨b :: l, c, r, rfl, hc, hr, @findLastOf_append chars (b :: l) r c hc hr⟩

/-- What is left is the beginning of the path. -/
theorem strDir_prefix (strPath : Bytes) : strDir strPath <+: strPath := by
  rw [strDir]
  split
  · exact List.take_prefix _ _
  · exact List.prefix_rfl

/-- A text without some characters. -/
theorem findLastOf_eq_none {chars : List UInt8} {s : Bytes} (hs : ∀ b ∈ s, b ∉ chars) :
    findLastOf chars s = none := by
  rcases findLastOf_cases chars s with ⟨hnone, -⟩ | ⟨l, c, r, rfl, hc, -, -⟩
  · exact hnone
  · exact absurd hc (hs c (List.mem_append_right _ List.mem_cons_self))

/-- A path, and its last component. -/
theorem FilePath.bytes_eq (path : FilePath) :
    ∃ pre, path.bytes = pre ++ path.lastName ∧ (pre = [] ∨ ∃ pre', pre = pre' ++ [47]) ∧
      47 ∉ path.lastName ∧ path.lastName ≠ [] := by
  rw [FilePath.lastName]
  rcases findLastOf_cases [47] path.bytes with ⟨hnone, hpath⟩ | ⟨l, c, r, hpath, hc, hr, hsome⟩
  · rw [hnone]
    refine ⟨[], rfl, .inl rfl, fun h => hpath 47 h List.mem_cons_self, path.ne_nil⟩
  · obtain rfl := List.mem_singleton.mp hc
    have hdrop : (l ++ 47 :: r).drop (l.length + 1) = r := by
      rw [List.drop_append, List.drop_of_length_le (Nat.le_succ _), Nat.add_sub_cancel_left]
      rfl
    rw [hsome, hpath]
    dsimp only
    rw [hdrop]
    refine ⟨l ++ [47], ?_, .inr ⟨l, rfl⟩, fun h => hr 47 h List.mem_cons_self, ?_⟩
    · rw [List.append_assoc, List.singleton_append]
    · rintro rfl
      exact path.not_slash (by rw [hpath, List.getLast?_concat])

/-- How it differs from the path to the file. -/
theorem components_strDir (path : FilePath) :
    components (strDir path.bytes) =
      (components path.bytes).dropLast ++
        if path.stray = [] then [] else [component path.stray] := by
  obtain ⟨pre, hpath, hpre, hslash, hne⟩ := path.bytes_eq
  have hcomponents : (components path.bytes).dropLast = components pre := by
    rw [hpath, components_append hpre hslash, if_neg hne, List.dropLast_concat]
  have hsep : ∀ {r : Bytes}, 47 ∉ r → (∀ b ∈ r, b ∉ [92]) → ∀ b ∈ r, b ∉ [47, 92] := by
    intro r hr hback b hb hmem
    rcases List.mem_cons.mp hmem with rfl | hmem
    · exact hr hb
    · exact hback b hb hmem
  rw [hcomponents, FilePath.stray, strDir]
  rcases findLastOf_cases [92] path.lastName with
    ⟨hnone, hback⟩ | ⟨e, c, r, hlastName, hc, hr, hsome⟩
  · rcases hpre with rfl | ⟨pre', rfl⟩
    · -- no separator: all of it is left
      rw [List.nil_append] at hpath
      rw [← hpath] at hslash hback
      rw [findLastOf_eq_none (hsep hslash hback)]
      exact components_append (.inl rfl) hslash
    · -- the last separator is a slash
      have hlast : findLastOf [47, 92] path.bytes = some pre'.length := by
        rw [hpath, List.append_assoc, List.singleton_append]
        exact findLastOf_append List.mem_cons_self (hsep hslash hback)
      have htake : path.bytes.take pre'.length = pre' := by
        rw [hpath, List.append_assoc, List.take_left]
      rw [hlast, hnone]
      show components (path.bytes.take pre'.length) = components (pre' ++ [47]) ++ []
      rw [htake, components, components, tokens_concat, tokens_nil, List.append_nil,
        List.append_nil]
  · -- the last separator is a backslash of the last component
    obtain rfl := List.mem_singleton.mp hc
    rw [hlastName, List.mem_append, List.mem_cons, not_or, not_or] at hslash
    have hlast : findLastOf [47, 92] path.bytes = some (pre ++ e).length := by
      rw [hpath, hlastName, ← List.append_assoc]
      exact findLastOf_append (List.mem_cons_of_mem _ List.mem_cons_self) (hsep hslash.2.2 hr)
    have htake : path.bytes.take (pre ++ e).length = pre ++ e := by
      rw [hpath, hlastName, ← List.append_assoc, List.take_left]
    have hstray : path.lastName.take e.length = e := by rw [hlastName, List.take_left]
    rw [hlast, hsome]
    show components (path.bytes.take (pre ++ e).length) = components pre ++
      if path.lastName.take e.length = [] then [] else [component (path.lastName.take e.length)]
    rw [htake, hstray]
    exact components_append hpre hslash.1

/-! ### The directories that are made -/

section

variable {fs : FileSystem} {path : FilePath} {result : Bool × DirTree Bytes}

/-- The last directory is the one the file is in. -/
theorem FilePath.ancestors_eq (fs : FileSystem) (path : FilePath) :
    ∃ as, path.ancestors fs = as ++ [path.directory fs] := by
  refine ⟨(path.ancestors fs).dropLast, ?_⟩
  have hlast : (path.ancestors fs).getLast? = some (path.directory fs) := List.getLast?_scanl
  exact (List.dropLast_append_getLast? _ hlast).symm

/-- With all directories made, only the place of the file may have become one. -/
theorem makes_iff_of_success (hok : result.1 = true)
    (hdirs : ∀ q ∈ path.ancestors fs, result.2.kind q = some .dir)
    (honly : ∀ q, result.2.kind q ≠ fs.tree.kind q →
      q ∈ path.ancestors fs ∧ fs.tree.kind q = none ∧ result.2.kind q = some .dir) :
    Makes fs path result ↔
      (path.target fs ∈ path.ancestors fs → fs.tree.kind (path.target fs) ≠ none) := by
  constructor
  · intro h hmem hnone
    exact (h.success hok).2 ⟨hnone, hdirs _ hmem⟩
  · intro htarget
    refine ⟨honly, fun _ => ⟨hdirs, ?_⟩, fun h => absurd (h.symm.trans hok) (by decide)⟩
    rintro ⟨hnone, hdir⟩
    have hchanged : result.2.kind (path.target fs) ≠ fs.tree.kind (path.target fs) := by
      rw [hnone, hdir]
      exact Option.some_ne_none _
    exact htarget (honly _ hchanged).1 hnone

/-- What is done, where something is cut out beside the file and where nothing is. -/
theorem mkdirp_bytes (fs : FileSystem) (path : FilePath) :
    mkdirp fs path.bytes = fs.tree.makeDirs fs.refuses (fs.start path.bytes)
      ((components path.bytes).dropLast ++
        if path.stray = [] then [] else [component path.stray]) := by
  have hcut := strDir_prefix path.bytes
  rw [mkdirp_eq fs (fun h => path.nul_notMem (hcut.subset h)) hcut, components_strDir]

/-- The places on the way, if something is cut out. -/
theorem scanl_stray (fs : FileSystem) (path : FilePath) :
    ((components path.bytes).dropLast ++ [component path.stray]).scanl enter
      (fs.start path.bytes) = path.ancestors fs ++ [path.strayPlace fs] := by
  rw [List.scanl_append, List.scanl_singleton]
  rfl

/-- The places on the way begin with the ancestors. -/
theorem exists_scanl_eq (fs : FileSystem) (path : FilePath) :
    ∃ rest, ((components path.bytes).dropLast ++
      if path.stray = [] then [] else [component path.stray]).scanl enter (fs.start path.bytes) =
        path.ancestors fs ++ rest ∧ (rest = [] ↔ path.stray = []) := by
  by_cases hstray : path.stray = []
  · refine ⟨[], ?_, iff_of_true rfl hstray⟩
    rw [if_pos hstray, List.append_nil, List.append_nil]
    rfl
  · refine ⟨[path.strayPlace fs], ?_, iff_of_false (List.cons_ne_nil _ _) hstray⟩
    rw [if_neg hstray, scanl_stray]

/-- With nothing in the way of the ancestors, but of what is cut out beside the file: a file is
there already, or it is refused. -/
theorem makes_iff_of_stray_blocked
    (hopen : ∀ q ∈ path.ancestors fs, ¬ DirTree.Blocked fs.refuses fs.tree q)
    (hb : DirTree.Blocked fs.refuses fs.tree (path.strayPlace fs)) :
    Makes fs path (fs.tree.makeDirs fs.refuses (fs.start path.bytes)
        ((components path.bytes).dropLast ++ [component path.stray])) ↔
      (path.strayPlace fs ∈ path.ancestors fs ∨ fs.tree.kind (path.strayPlace fs) ≠ none) ∧
        (path.target fs ∈ path.ancestors fs → fs.tree.kind (path.target fs) ≠ none) := by
  have hd := fs.start_dir path.bytes
  obtain ⟨hok, hdirs, hchanged⟩ := DirTree.makeDirs_of_blocked hd (scanl_stray fs path) hopen hb
  rcases hb with hfile | ⟨hnone, hrefuse⟩
  · have hexists : fs.tree.kind (path.strayPlace fs) ≠ none := by
      rw [hfile]
      exact Option.some_ne_none _
    rw [makes_iff_of_success (hok.mpr ⟨rfl, hfile⟩) hdirs fun q hq =>
      ⟨hchanged q hq, (DirTree.makeDirs_kind hd hq).2⟩]
    exact (and_iff_right (.inr hexists)).symm
  · have hfail : ¬ (fs.tree.makeDirs fs.refuses (fs.start path.bytes)
        ((components path.bytes).dropLast ++ [component path.stray])).1 = true := by
      intro h
      rw [(hok.mp h).2] at hnone
      cases hnone
    refine iff_of_false (fun h => ?_) fun h => ?_
    · obtain ⟨as, q, bs, hpath, hq, -⟩ := h.failure (Bool.eq_false_of_not_eq_true hfail)
      exact hopen q (by rw [hpath]; exact List.mem_append_right _ List.mem_cons_self) hq
    · -- what is refused is not an ancestor
      rcases h.1 with hmem | hne
      · exact hopen _ hmem (.inr ⟨hnone, hrefuse⟩)
      · exact hne hnone

/-- With nothing in the way at all, what is cut out beside the file is made as well. -/
theorem makes_iff_of_stray_open
    (hopen : ∀ q ∈ path.ancestors fs, ¬ DirTree.Blocked fs.refuses fs.tree q)
    (hb : ¬ DirTree.Blocked fs.refuses fs.tree (path.strayPlace fs)) :
    Makes fs path (fs.tree.makeDirs fs.refuses (fs.start path.bytes)
        ((components path.bytes).dropLast ++ [component path.stray])) ↔
      (path.strayPlace fs ∈ path.ancestors fs ∨ fs.tree.kind (path.strayPlace fs) ≠ none) ∧
        (path.target fs ∈ path.ancestors fs → fs.tree.kind (path.target fs) ≠ none) := by
  have hd := fs.start_dir path.bytes
  have hscan := scanl_stray fs path
  obtain ⟨hok, hdirs⟩ := DirTree.makeDirs_of_open hd fun q hq => by
    rw [hscan, List.mem_append, List.mem_singleton] at hq
    rcases hq with hq | rfl
    · exact hopen q hq
    · exact hb
  rw [hscan, List.forall_mem_append, List.forall_mem_singleton] at hdirs
  by_cases hplace : path.strayPlace fs ∈ path.ancestors fs ∨
      fs.tree.kind (path.strayPlace fs) ≠ none
  · rw [makes_iff_of_success hok hdirs.1 fun q hq => ?_]
    · exact (and_iff_right hplace).symm
    · obtain ⟨hmem, hnone, hdir⟩ := DirTree.makeDirs_kind hd hq
      rw [hscan] at hmem
      rcases List.mem_append.mp hmem with hmem | hmem
      · exact ⟨hmem, hnone, hdir⟩
      · obtain rfl := List.mem_singleton.mp hmem
        exact ⟨hplace.resolve_right (not_not.mpr hnone), hnone, hdir⟩
  · -- a directory is made beside the file
    obtain ⟨hnotMem, hnone⟩ := not_or.mp hplace
    refine iff_of_false (fun h => hnotMem (h.only _ ?_).1) fun h => hplace h.1
    rw [hdirs.2, not_not.mp hnone]
    exact Option.some_ne_none _

/-- With nothing in the way. -/
theorem makes_iff_of_open
    (hopen : ∀ q ∈ path.ancestors fs, ¬ DirTree.Blocked fs.refuses fs.tree q) :
    Makes fs path (mkdirp fs path.bytes) ↔
      (path.stray ≠ [] → path.strayPlace fs ∈ path.ancestors fs ∨
        fs.tree.kind (path.strayPlace fs) ≠ none) ∧
      (path.target fs ∈ path.ancestors fs → fs.tree.kind (path.target fs) ≠ none) := by
  have hd := fs.start_dir path.bytes
  rw [mkdirp_bytes]
  by_cases hstray : path.stray = []
  · rw [if_pos hstray, List.append_nil]
    obtain ⟨hok, hdirs⟩ := DirTree.makeDirs_of_open hd hopen
    rw [makes_iff_of_success hok hdirs fun q hq => DirTree.makeDirs_kind hd hq]
    exact (and_iff_right fun hne => absurd hstray hne).symm
  · rw [if_neg hstray, forall_prop_of_true hstray]
    by_cases hb : DirTree.Blocked fs.refuses fs.tree (path.strayPlace fs)
    · exact makes_iff_of_stray_blocked hopen hb
    · exact makes_iff_of_stray_open hopen hb

/-- When something is in the way. -/
theorem makes_iff_of_blocked
    (hblocked : ∃ q ∈ path.ancestors fs, DirTree.Blocked fs.refuses fs.tree q) :
    Makes fs path (mkdirp fs path.bytes) ↔
      (path.stray = [] →
        (∀ q ∈ (path.ancestors fs).dropLast, ¬ DirTree.Blocked fs.refuses fs.tree q) →
          fs.tree.kind (path.directory fs) ≠ some .file) := by
  have hd := fs.start_dir path.bytes
  obtain ⟨as, q, bs, hpath, hopen, hq⟩ := DirTree.exists_first_blocked hblocked
  obtain ⟨rest, hscan, hrest⟩ := exists_scanl_eq fs path
  rw [hpath, List.append_assoc, List.cons_append] at hscan
  obtain ⟨hok, hdirs, hchanged⟩ := DirTree.makeDirs_of_blocked hd hscan hopen hq
  obtain ⟨front, hfront⟩ := path.ancestors_eq fs
  rw [mkdirp_bytes, hfront, List.dropLast_concat]
  have hend : bs = [] → as = front ∧ q = path.directory fs := by
    rintro rfl
    obtain ⟨hfront, hq⟩ := List.append_inj' (hpath.symm.trans hfront) rfl
    exact ⟨hfront, (List.cons.inj hq).1⟩
  constructor
  · intro h hstray hfrontOpen hfile
    have hbs : bs = [] := by
      by_contra hne
      have hmem : q ∈ front := by
        have hdrop := congrArg List.dropLast (hpath.symm.trans hfront)
        rw [List.dropLast_concat, List.dropLast_append_of_ne_nil (List.cons_ne_nil _ _),
          List.dropLast_cons_of_ne_nil hne] at hdrop
        rw [← hdrop]
        exact List.mem_append_right _ List.mem_cons_self
      exact hfrontOpen q hmem hq
    obtain ⟨-, rfl⟩ := hend hbs
    have hsuccess := hok.mpr ⟨by rw [hbs, hrest.mpr hstray]; rfl, hfile⟩
    have hdir := (h.success hsuccess).1 (path.directory fs) (by
      rw [hfront]
      exact List.mem_append_right _ List.mem_cons_self)
    rw [DirTree.makeDirs_kind_some hd hfile] at hdir
    cases hdir
  · intro hfile
    have hfail : ¬ (fs.tree.makeDirs fs.refuses (fs.start path.bytes)
        ((components path.bytes).dropLast ++
          if path.stray = [] then [] else [component path.stray])).1 = true := by
      intro hsuccess
      obtain ⟨hnil, hq⟩ := hok.mp hsuccess
      obtain ⟨hbs, hstray⟩ := List.append_eq_nil_iff.mp hnil
      obtain ⟨rfl, rfl⟩ := hend hbs
      exact hfile (hrest.mp hstray) hopen hq
    refine ⟨fun p hp => ⟨?_, (DirTree.makeDirs_kind hd hp).2⟩, fun h => absurd h hfail, fun _ => ?_⟩
    · rw [hpath]
      exact List.mem_append_left _ (hchanged p hp)
    · exact ⟨as, q, bs, hpath, hq, hdirs, hchanged⟩

end

/-- **When the directories are made.** With nothing in the way, they are exactly if what is cut out
beside the file is there already, or empty, and the path does not lead through the place of a file
that is not there. With something in the way, they are unless it is a file in the place of the last
directory, with nothing cut out. -/
theorem makes_iff (fs : FileSystem) (path : FilePath) :
    Makes fs path (mkdirp fs path.bytes) ↔
      ((∀ q ∈ path.ancestors fs, ¬ DirTree.Blocked fs.refuses fs.tree q) →
        (path.stray ≠ [] → path.strayPlace fs ∈ path.ancestors fs ∨
          fs.tree.kind (path.strayPlace fs) ≠ none) ∧
        (path.target fs ∈ path.ancestors fs → fs.tree.kind (path.target fs) ≠ none)) ∧
      (path.stray = [] →
        (∀ q ∈ (path.ancestors fs).dropLast, ¬ DirTree.Blocked fs.refuses fs.tree q) →
          fs.tree.kind (path.directory fs) ≠ some .file) := by
  by_cases hopen : ∀ q ∈ path.ancestors fs, ¬ DirTree.Blocked fs.refuses fs.tree q
  · have hdirectory : fs.tree.kind (path.directory fs) ≠ some .file := by
      intro hfile
      obtain ⟨as, has⟩ := path.ancestors_eq fs
      exact hopen _ (by rw [has]; exact List.mem_append_right _ List.mem_cons_self) (.inl hfile)
    rw [makes_iff_of_open hopen]
    exact ⟨fun h => ⟨fun _ => h, fun _ _ => hdirectory⟩, fun h => h.1 hopen⟩
  · have hblocked : ∃ q ∈ path.ancestors fs, DirTree.Blocked fs.refuses fs.tree q := by
      simpa only [not_forall, not_not, exists_prop] using hopen
    rw [makes_iff_of_blocked hblocked]
    exact ⟨fun h => ⟨fun h' => absurd h' hopen, h⟩, fun h => h.2⟩

/-- A tree with nothing in it. -/
def emptySystem : FileSystem where
  tree :=
    { kind := fun q => if q = [] then some .dir else none
      root_dir := rfl
      parent_dir := fun a d h => absurd (if_neg (List.cons_ne_nil a d)) h }
  cwd := []
  cwd_dir := rfl
  refuses := fun _ => false

/-- The log file without a configuration, and one with a backslash for a separator. -/
def controllerLog : FilePath := ⟨ascii "controller.log", by decide, by decide, by decide⟩
def backslashLog : FilePath := ⟨ascii "log\x5ccontroller.log", by decide, by decide, by decide⟩

/-- The log file is made a directory, and a directory is made beside the other one. -/
theorem makes_not :
    ¬ Makes emptySystem controllerLog (mkdirp emptySystem controllerLog.bytes) ∧
    ¬ Makes emptySystem backslashLog (mkdirp emptySystem backslashLog.bytes) := by
  refine ⟨fun h => ?_, fun h => ?_⟩
  · exact absurd (h.only [ascii "controller.log"] (by decide)).1 (by decide)
  · exact absurd (h.only [ascii "log"] (by decide)).1 (by decide)

end ControllerSystem.Controller.Mkdirp
