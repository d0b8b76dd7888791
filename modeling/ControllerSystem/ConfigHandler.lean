import ControllerSystem.Lib.IniText
import ControllerSystem.Lib.Words

/-!
# Reading a configuration file

`CConfigHandler::parseFile`, which is the same in all the programs, reads a file line by line into
one buffer, edits the line in place while it finds out what it is, and calls a handler for every
entry. The name of the section stands in a buffer of its own, which nothing has been written to
before the first header.

The form of a file is the one of `IniText`, with `signs`. `parseFile_calls_iff` says for which files
the handler is called as this form has it.
-/

open Words

namespace ControllerSystem.CConfigHandler

open IniText (Entry Signs lines trim)

/-- `MAX_SECTION` and `MAX_LINE`. -/
def maxSection : ℕ := 50
def maxLine : ℕ := 2048

def isspace (c : UInt8) : Bool := c == 32 || (9 ≤ c && c ≤ 13)

/-- The signs of a configuration file: `;` (59) or `#` (35) for a comment, `[` (91), `]` (93) and
`=` (61). -/
def signs : Signs UInt8 where
  newline := 10
  blank := isspace
  comment c := c == 59 || c == 35
  opening := 91
  closing := 93
  equals := 61
  blank_newline := rfl
  blank_opening := rfl
  blank_equals := rfl
  comment_opening := rfl

/-! ### The code -/

def rstrip (s : Bytes) : Bytes := s.rdropWhile isspace

def lstrip (s : Bytes) : Bytes := s.dropWhile isspace

/-- `strchr`: the text from the first `c` on. -/
def strchr (s : Bytes) (c : UInt8) : Option Bytes :=
  if c ∈ s then some (s.dropWhile (· ≠ c)) else none

/-- What is left of a string when its first `c` is overwritten with a zero byte. -/
def cutAt (s : Bytes) (c : UInt8) : Bytes := s.takeWhile (· ≠ c)

/-- `fgets`: at most `n - 1` bytes, and no more than a line. -/
def fgets (n : ℕ) (file : Bytes) : Option (Bytes × Bytes) :=
  if file = [] then none
  else
    let k := min (n - 1) (file.findIdx (· = 10) + 1)
    some (file.take k, file.drop k)

/-- The body of the loop of `parseFile`: the section after the line, and the call of the handler.
There is no result when `strcpy` writes behind the end of `section`. -/
def parseLine (szSection line : Bytes) : Option (Bytes × Option (Entry UInt8)) :=
  let line := rstrip line
  let start := lstrip line
  if start.head? = some 59 ∨ start.head? = some 35 ∨ start.length ≤ 0 then some (szSection, none)
  else match strchr line 91 with
  | some chr =>
    if (strchr chr.tail 93).isSome then
      let name := cutAt chr.tail 93
      if name.length < maxSection then some (name, none) else none
    else some (szSection, none)
  | none =>
    match strchr line 61 with
    | some pEnd =>
      if szSection.length ≠ 0 then
        let name := lstrip (rstrip (cutAt start 61))
        let value := rstrip (lstrip pEnd.tail)
        some (szSection, some ⟨szSection, name, value⟩)
      else some (szSection, none)
    | none => some (szSection, none)

theorem length_fgets {file line rest : Bytes} (h : fgets maxLine file = some (line, rest)) :
    rest.length < file.length := by
  rw [fgets] at h
  split at h
  · cases h
  · next hne =>
    obtain ⟨-, rfl⟩ := Prod.mk.inj (Option.some.inj h)
    have hpos : 0 < file.length := List.length_pos_iff.mpr hne
    rw [List.length_drop]
    have hk : 0 < min (maxLine - 1) (file.findIdx (· = 10) + 1) :=
      lt_min (by decide) (Nat.succ_pos _)
    omega

/-- The loop of `parseFile`. The calls are listed with the line that makes them: for each line the
call of the handler, if it makes one. The `int` counts the calls. -/
def parseLoop (szSection : Bytes) (lineno : Word) (file : Bytes) :
    Option (List (Option (Entry UInt8)) × ℤ) :=
  match _h : fgets maxLine file with
  | none => some ([], lineno.toInt)
  | some (line, rest) =>
    (parseLine szSection (cstr line)).bind fun (szSection, call) =>
      (parseLoop szSection (if call.isSome then lineno + 1 else lineno) rest).map
        fun (calls, nRet) => (call :: calls, nRet)
termination_by file.length
decreasing_by exact length_fgets ‹_›

/-- `CConfigHandler::parseFile`, with the memory `section` is in at the start. -/
def parseFile (szSection file : Bytes) : Option (List (Option (Entry UInt8)) × ℤ) :=
  parseLoop (cstr szSection) 0#32 file

/-! ### The form of a line -/

section Lines

variable {szSection line rest file : Bytes} {lineno : Word} {c : UInt8}

/-- The first text in brackets of a line, wherever it stands, if the line is not silent. -/
def bracketed (line : Bytes) : Option Bytes :=
  let behind := ((trim isspace line).dropWhile (· ≠ 91)).tail
  if signs.Silent line ∨ 93 ∉ behind then none else some (behind.takeWhile (· ≠ 93))

/-- What the loop makes of a line when nothing is written behind the end of `section`. -/
def step (szSection line : Bytes) : Bytes × Option (Entry UInt8) :=
  ((bracketed line).elim szSection id,
    if 91 ∈ line ∨ szSection = [] then none
    else (signs.entry line).map fun e => ⟨szSection, e.1, e.2⟩)

theorem isspace_opening : isspace 91 = false := signs.blank_opening

theorem isspace_equals : isspace 61 = false := signs.blank_equals

theorem mem_rstrip (hc : isspace c = false) : c ∈ rstrip line ↔ c ∈ line := by
  constructor
  · exact fun hmem => (List.rdropWhile_prefix isspace line).subset hmem
  · exact fun hmem => (List.dropWhile_suffix isspace).subset ((IniText.mem_trim hc).mpr hmem)

theorem strchr_of_mem (hc : c ∈ line) : strchr line c = some (line.dropWhile (· ≠ c)) := if_pos hc

theorem strchr_of_notMem (hc : c ∉ line) : strchr line c = none := if_neg hc

theorem strchr_rstrip_of_mem (hc : isspace c = false) (h : c ∈ line) :
    strchr (rstrip line) c = some ((rstrip line).dropWhile (· ≠ c)) :=
  strchr_of_mem ((mem_rstrip hc).mpr h)

theorem strchr_rstrip_of_notMem (hc : isspace c = false) (h : c ∉ line) :
    strchr (rstrip line) c = none :=
  strchr_of_notMem fun hmem => h ((mem_rstrip hc).mp hmem)

/-- The test for comments and empty lines. -/
theorem silent_iff :
    (lstrip (rstrip line)).head? = some 59 ∨ (lstrip (rstrip line)).head? = some 35 ∨
      (lstrip (rstrip line)).length ≤ 0 ↔ signs.Silent line := by
  show _ ↔ ∀ a ∈ (lstrip (rstrip line)).head?, signs.comment a = true
  cases lstrip (rstrip line) with
  | nil => simp
  | cons a l => simp [signs]

theorem parseLine_silent (hsilent : signs.Silent line) :
    parseLine szSection line = some (szSection, none) := by
  rw [parseLine]
  exact if_pos (silent_iff.mpr hsilent)

/-- A text in brackets makes the line a header, wherever it stands. -/
theorem parseLine_opening (hsilent : ¬ signs.Silent line) (hopening : 91 ∈ line) :
    parseLine szSection line = (bracketed line).elim (some (szSection, none)) fun name =>
      if name.length < maxSection then some (name, none) else none := by
  have hbehind : (rstrip line).dropWhile (· ≠ 91) = (trim isspace line).dropWhile (· ≠ 91) :=
    (IniText.dropWhile_ne_dropWhile isspace_opening _).symm
  rw [parseLine]
  dsimp only
  rw [if_neg (mt silent_iff.mp hsilent), strchr_rstrip_of_mem isspace_opening hopening, hbehind]
  dsimp only
  by_cases hclosing : 93 ∈ ((trim isspace line).dropWhile (· ≠ 91)).tail
  · have hbracketed : bracketed line =
        some (cutAt ((trim isspace line).dropWhile (· ≠ 91)).tail 93) :=
      if_neg (not_or.mpr ⟨hsilent, not_not_intro hclosing⟩)
    rw [strchr_of_mem hclosing, hbracketed]
    rfl
  · have hbracketed : bracketed line = none := if_pos (.inr hclosing)
    rw [strchr_of_notMem hclosing, hbracketed]
    rfl

theorem bracketed_of_notMem (hopening : 91 ∉ line) : bracketed line = none := by
  refine if_pos (.inr ?_)
  -- there is nothing behind the bracket
  have hnil : (trim isspace line).dropWhile (· ≠ 91) = [] := by
    refine List.dropWhile_eq_nil_iff.mpr fun a ha => decide_eq_true ?_
    rintro rfl
    exact hopening ((IniText.mem_trim isspace_opening).mp ha)
  rw [hnil]
  exact List.not_mem_nil

/-- The texts in front of the sign and behind it, as the code trims them. -/
theorem entry_of_mem (hsilent : ¬ signs.Silent line) (hopening : 91 ∉ line) (hequals : 61 ∈ line) :
    signs.entry line = some (lstrip (rstrip (cutAt (lstrip (rstrip line)) 61)),
      rstrip (lstrip ((rstrip line).dropWhile (· ≠ 61)).tail)) := by
  have hhead : (trim isspace line).head? ≠ some 91 := fun hhead =>
    hopening ((IniText.mem_trim isspace_opening).mp (List.mem_of_head? hhead))
  have hvalue : rstrip (lstrip ((rstrip line).dropWhile (· ≠ 61)).tail) =
      trim isspace ((trim isspace line).dropWhile (· ≠ 61)).tail := by
    rw [IniText.trim_eq, trim, IniText.dropWhile_ne_dropWhile isspace_equals]
    rfl
  rw [hvalue]
  refine if_neg ?_
  rintro (h | h | h)
  · exact hsilent h
  · exact hhead h
  · exact h ((IniText.mem_trim isspace_equals).mpr hequals)

theorem entry_of_notMem (hequals : 61 ∉ line) : signs.entry line = none :=
  if_pos (.inr (.inr fun hmem => hequals ((IniText.mem_trim isspace_equals).mp hmem)))

theorem parseLine_entry (hsilent : ¬ signs.Silent line) (hopening : 91 ∉ line) :
    parseLine szSection line =
      some (szSection, if szSection = [] then none
        else (signs.entry line).map fun e => ⟨szSection, e.1, e.2⟩) := by
  rw [parseLine]
  dsimp only
  rw [if_neg (mt silent_iff.mp hsilent), strchr_rstrip_of_notMem isspace_opening hopening]
  dsimp only
  by_cases hequals : 61 ∈ line
  · rw [strchr_rstrip_of_mem isspace_equals hequals, entry_of_mem hsilent hopening hequals]
    dsimp only
    by_cases hnil : szSection = []
    · rw [if_pos hnil, hnil]
      rfl
    · rw [if_neg hnil, if_pos (List.length_eq_zero_iff.not.mpr hnil)]
      rfl
  · rw [strchr_rstrip_of_notMem isspace_equals hequals, entry_of_notMem hequals, Option.map_none,
      ite_self]

theorem parseLine_eq :
    parseLine szSection line =
      if ∀ t ∈ bracketed line, t.length < maxSection then some (step szSection line)
      else none := by
  rw [step]
  by_cases hsilent : signs.Silent line
  · have hbracketed : bracketed line = none := if_pos (.inl hsilent)
    have hentry : signs.entry line = none := if_pos (.inl hsilent)
    rw [parseLine_silent hsilent, hbracketed, hentry]
    simp
  by_cases hopening : 91 ∈ line
  · have hskip : 91 ∈ line ∨ szSection = [] := .inl hopening
    rw [parseLine_opening hsilent hopening, if_pos hskip]
    cases bracketed line <;> simp
  · rw [parseLine_entry hsilent hopening, bracketed_of_notMem hopening]
    simp [hopening]

/-- The end of a line is blank. -/
theorem parseLine_newline : parseLine szSection (line ++ [10]) = parseLine szSection line := by
  have hrstrip : rstrip (line ++ [10]) = rstrip line :=
    List.rdropWhile_concat_pos isspace line 10 signs.blank_newline
  rw [parseLine, parseLine, hrstrip]

/-! ### The lines of a file -/

theorem findIdx_newline (hl : 10 ∉ line) : line.findIdx (· = 10) = line.length := by
  refine List.findIdx_eq_length.mpr fun a ha => decide_eq_false ?_
  rintro rfl
  exact hl ha

theorem fgets_append (hl : 10 ∉ line) (hlen : line.length < maxLine - 1) :
    fgets maxLine (line ++ 10 :: rest) = some (line ++ [10], rest) := by
  have hfind : (line ++ 10 :: rest).findIdx (· = 10) = line.length := by
    rw [List.findIdx_append, findIdx_newline hl, if_neg (lt_irrefl _)]
    exact Nat.zero_add _
  have hk : min (maxLine - 1) (line.length + 1) = (line ++ [10]).length := by
    rw [min_eq_right hlen, List.length_append, List.length_singleton]
  rw [fgets, if_neg (List.append_ne_nil_of_right_ne_nil _ (List.cons_ne_nil _ _)), hfind, hk,
    List.append_cons line 10 rest]
  dsimp only
  rw [List.take_left, List.drop_left]

theorem fgets_last (hne : line ≠ []) (hl : 10 ∉ line) (hlen : line.length < maxLine - 1) :
    fgets maxLine line = some (line, []) := by
  have hk : line.length ≤ min (maxLine - 1) (line.length + 1) :=
    le_min (Nat.le_of_lt hlen) (Nat.le_succ _)
  rw [fgets, if_neg hne, findIdx_newline hl]
  dsimp only
  rw [List.take_of_length_le hk, List.drop_of_length_le hk]

theorem parseLoop_some (h : fgets maxLine file = some (line, rest)) :
    parseLoop szSection lineno file =
      (parseLine szSection (cstr line)).bind fun (szSection, call) =>
        (parseLoop szSection (if call.isSome then lineno + 1 else lineno) rest).map
          fun (calls, nRet) => (call :: calls, nRet) := by
  rw [parseLoop]
  split
  · next hnone =>
    rw [h] at hnone
    cases hnone
  · next hsome =>
    rw [h] at hsome
    obtain ⟨rfl, rfl⟩ := Prod.mk.inj (Option.some.inj hsome)
    rfl

/-- The calls of some lines. -/
def count (calls : List (Option (Entry UInt8))) : ℕ := calls.countP Option.isSome

theorem add_count_cons (call : Option (Entry UInt8)) (calls : List (Option (Entry UInt8))) :
    lineno + .ofNat 32 (count (call :: calls)) =
      (if call.isSome then lineno + 1 else lineno) + .ofNat 32 (count calls) := by
  rw [count, List.countP_cons, BitVec.ofNat_add]
  split
  · rw [BitVec.add_assoc, BitVec.add_comm 1]
    rfl
  · rw [BitVec.add_zero]
    rfl

/-- Nothing is written behind the end of `section`. -/
def Bounded (ls : List Bytes) : Prop :=
  ∀ line ∈ ls, ∀ t ∈ bracketed line, t.length < maxSection

instance (ls : List Bytes) : Decidable (Bounded ls) :=
  inferInstanceAs (Decidable (∀ line ∈ ls, ∀ t ∈ bracketed line, t.length < maxSection))

/-- What the loop returns for some lines. -/
def result (szSection : Bytes) (lineno : Word) (ls : List Bytes) :
    Option (List (Option (Entry UInt8)) × ℤ) :=
  if Bounded ls then
    some (IniText.outputs step szSection ls,
      (lineno + .ofNat 32 (count (IniText.outputs step szSection ls))).toInt)
  else none

/-- One round of the loop. -/
theorem result_cons {ls : List Bytes} :
    result szSection lineno (line :: ls) =
      (parseLine szSection line).bind fun (szSection, call) =>
        (result szSection (if call.isSome then lineno + 1 else lineno) ls).map
          fun (calls, nRet) => (call :: calls, nRet) := by
  rw [parseLine_eq]
  by_cases hline : ∀ t ∈ bracketed line, t.length < maxSection
  · have hbounded : Bounded (line :: ls) ↔ Bounded ls :=
      List.forall_mem_cons.trans (and_iff_right hline)
    rw [if_pos hline, Option.bind_some]
    dsimp only
    rw [result, result]
    by_cases hls : Bounded ls
    · rw [if_pos (hbounded.mpr hls), if_pos hls, Option.map_some, IniText.outputs, add_count_cons]
    · rw [if_neg (mt hbounded.mp hls), if_neg hls, Option.map_none]
  · have hbounded : ¬ Bounded (line :: ls) := fun h => hline (h line List.mem_cons_self)
    rw [if_neg hline, result, if_neg hbounded, Option.bind_none]

theorem parseLoop_nil : parseLoop szSection lineno [] = result szSection lineno [] := by
  rw [parseLoop]
  show some ([], lineno.toInt) = some ([], (lineno + 0#32).toInt)
  rw [BitVec.add_zero]

/-- A text file is read line by line. -/
theorem parseLoop_eq (htext : 0 ∉ file)
    (hlines : ∀ line ∈ lines 10 file, line.length < maxLine - 1) :
    parseLoop szSection lineno file = result szSection lineno (lines 10 file) := by
  induction file using IniText.lines_induction (10 : UInt8) generalizing szSection lineno with
  | nil => exact parseLoop_nil
  | last l hne hl =>
    rw [IniText.lines_last hne hl] at hlines ⊢
    have hlen : l.length < maxLine - 1 := hlines l (List.mem_singleton_self l)
    rw [parseLoop_some (fgets_last hne hl hlen), cstr_eq_self htext, result_cons]
    simp only [parseLoop_nil]
  | cons l s hl ih =>
    rw [IniText.lines_append hl] at hlines ⊢
    obtain ⟨hlen, hlines⟩ := List.forall_mem_cons.mp hlines
    rw [List.append_cons, List.mem_append, not_or] at htext
    rw [parseLoop_some (fgets_append hl hlen), cstr_eq_self htext.1, parseLine_newline, result_cons]
    simp only [ih htext.2 hlines]

end Lines

/-! ### When the handler is called as it should be -/

section Main

variable {szSection sect header line file : Bytes} {ls pre : List Bytes} {header? : Option Bytes}

/-- The last text in brackets. -/
def lastBracketed (ls : List Bytes) : Option Bytes := (ls.filterMap bracketed).getLast?

/-- A header is taken for one. -/
theorem bracketed_of_header (h : signs.header line = some header) :
    bracketed line = some header := by
  rw [Signs.header] at h
  split at h
  · next htext =>
    obtain ⟨hhead, hclosing⟩ := htext
    obtain ⟨rest, htext⟩ : ∃ rest, trim isspace line = 91 :: rest := List.head?_eq_some_iff.mp hhead
    have hbehind : ((trim isspace line).dropWhile (· ≠ 91)).tail = (trim isspace line).tail := by
      rw [htext, List.dropWhile_cons_of_neg (by simp)]
    have hsilent : ¬ signs.Silent line := fun hsilent =>
      Bool.eq_false_iff.mp signs.comment_opening (hsilent 91 hhead)
    rw [← h, bracketed, hbehind]
    exact if_neg (not_or.mpr ⟨hsilent, not_not_intro hclosing⟩)
  · cases h

theorem lastBracketed_ne_none (h : signs.lastHeader pre = some header) :
    lastBracketed pre ≠ none := by
  have hmem := List.mem_of_getLast? h
  obtain ⟨line, hline, hheader⟩ := List.mem_filterMap.mp hmem
  have hbracketed := List.mem_filterMap.mpr ⟨line, hline, bracketed_of_header hheader⟩
  exact fun hnone => List.ne_nil_of_mem hbracketed (List.getLast?_eq_none_iff.mp hnone)

/-- A line is read as the form of the file has it. -/
theorem step_eq_read_iff :
    (step sect line).2 = (signs.read header? line).2 ↔
      ((signs.entry line).isSome →
        (∀ header, header? = some header → 91 ∉ line ∧ header ≠ [] ∧ sect = header) ∧
        (header? = none → 91 ∈ line ∨ sect = [])) := by
  rw [step, Signs.read]
  dsimp only
  cases signs.entry line with
  | none => simp
  | some e =>
    cases header? with
    | none =>
      by_cases hopening : 91 ∈ line <;> simp [hopening]
    | some header =>
      simp only [Option.map_some, Option.bind_some, Option.isSome_some, forall_true_left,
        Option.some.injEq, forall_eq', reduceCtorEq, false_implies, and_true]
      by_cases hskip : 91 ∈ line ∨ sect = []
      · rw [if_pos hskip]
        refine iff_of_false nofun ?_
        rintro ⟨hopening, hname, rfl⟩
        exact hskip.elim hopening hname
      · rw [if_neg hskip, Option.some.injEq, Entry.mk.injEq]
        rw [not_or] at hskip
        constructor
        · rintro ⟨rfl, -, -⟩
          exact ⟨hskip.1, hskip.2, rfl⟩
        · rintro ⟨-, -, hsect⟩
          exact ⟨hsect, rfl, rfl⟩

/-- The lines the code reads as the form has it. -/
structure Plain (szSection : Bytes) (ls : List Bytes) : Prop where
  /-- No text in brackets is too long for `section`. -/
  bounded : Bounded ls
  /-- Behind a header: an entry has no bracket, the header has a name, and nothing else in brackets
  has come behind it, unless it is the same name. -/
  behind : ∀ pre line post header, ls = pre ++ line :: post → (signs.entry line).isSome →
    signs.lastHeader pre = some header →
    91 ∉ line ∧ header ≠ [] ∧ lastBracketed pre = some header
  /-- Before all headers: an entry has a bracket, or the last text in brackets was empty. With none
  at all, it depends on the memory. -/
  before : ∀ pre line post, ls = pre ++ line :: post → (signs.entry line).isSome →
    signs.lastHeader pre = none → 91 ∈ line ∨ (lastBracketed pre).getD (cstr szSection) = []
  /-- An `int` can count the entries. -/
  countable : count (signs.calls ls) < 2147483648

/-- What is in `section` behind some lines. -/
theorem after_step : IniText.after step sect pre = (lastBracketed pre).getD sect := by
  rw [IniText.after_elim fun _ _ => rfl, lastBracketed]
  cases (pre.filterMap bracketed).getLast? <;> rfl

theorem outputs_eq_calls_iff :
    IniText.outputs step (cstr szSection) ls = signs.calls ls ↔
      ∀ pre line post, ls = pre ++ line :: post → (signs.entry line).isSome →
        (∀ header, signs.lastHeader pre = some header →
          91 ∉ line ∧ header ≠ [] ∧ lastBracketed pre = some header) ∧
        (signs.lastHeader pre = none →
          91 ∈ line ∨ (lastBracketed pre).getD (cstr szSection) = []) := by
  rw [Signs.calls, IniText.outputs_eq_iff]
  refine forall₄_congr fun pre line post _ => ?_
  rw [step_eq_read_iff, after_step, Signs.after_read]
  refine imp_congr_right fun _ => and_congr_left fun _ => forall₂_congr fun header hheader => ?_
  -- there is a text in brackets, the header itself
  obtain ⟨t, ht⟩ := Option.ne_none_iff_exists'.mp (lastBracketed_ne_none hheader)
  rw [ht, Option.getD_some, Option.some.injEq]

theorem toInt_ofNat_eq_iff (n : ℕ) : (BitVec.ofNat 32 n).toInt = n ↔ n < 2147483648 := by
  rw [BitVec.toInt_eq_toNat_cond, BitVec.toNat_ofNat]
  split <;> omega

/-- The calls of the handler, line by line, and the value returned, as the form of the file has
them. -/
def form (file : Bytes) : List (Option (Entry UInt8)) × ℤ :=
  (signs.calls (lines 10 file), count (signs.calls (lines 10 file)))

/-- **The form of a configuration file.** A text file with lines that are not too long is read as
its form has it, line by line, if and only if its lines are `Plain`. -/
theorem parseFile_form_iff (szSection file : Bytes) (htext : 0 ∉ file)
    (hlines : ∀ line ∈ lines 10 file, line.length < maxLine - 1) :
    parseFile szSection file = some (form file) ↔ Plain szSection (lines 10 file) := by
  rw [parseFile, parseLoop_eq htext hlines, result, form]
  constructor
  · intro h
    split at h
    · next hbounded =>
      obtain ⟨hcalls, hcount⟩ := Prod.mk.inj (Option.some.inj h)
      have hread := outputs_eq_calls_iff.mp hcalls
      rw [hcalls, BitVec.zero_add] at hcount
      exact ⟨hbounded,
        fun pre line post header heq hentry => (hread pre line post heq hentry).1 header,
        fun pre line post heq hentry => (hread pre line post heq hentry).2,
        (toInt_ofNat_eq_iff _).mp hcount⟩
    · cases h
  · intro h
    have hcalls := outputs_eq_calls_iff.mpr fun pre line post heq hentry =>
      ⟨fun header => h.behind pre line post header heq hentry, h.before pre line post heq hentry⟩
    rw [if_pos h.bounded, hcalls, BitVec.zero_add, (toInt_ofNat_eq_iff _).mpr h.countable]

end Main

theorem parseFile_form_iff_server :
    parseFile [] (ascii "[SERVER]\nport = 6607\n") =
        some (form (ascii "[SERVER]\nport = 6607\n")) ↔
      Plain [] (lines 10 (ascii "[SERVER]\nport = 6607\n")) :=
  parseFile_form_iff [] _ (by decide) (by decide)

/-- A value with brackets makes its line a header, an entry behind a header without a name is left
out, and before the first header it depends on the memory. -/
theorem parseFile_not_form :
    (0 ∉ ascii "[a]\nx = b[0]\n" ∧
      (∀ line ∈ lines 10 (ascii "[a]\nx = b[0]\n"), line.length < maxLine - 1) ∧
      (∀ line ∈ lines 10 (ascii "[a]\nx = b[0]\n"), ∀ name ∈ signs.header line,
        name.length < maxSection) ∧
      form (ascii "[a]\nx = b[0]\n") = ([none, some ⟨ascii "a", ascii "x", ascii "b[0]"⟩], 1) ∧
      parseFile [] (ascii "[a]\nx = b[0]\n") = some ([none, none], 0)) ∧
    (form (ascii "[]\nx = 1\n") = ([none, some ⟨[], ascii "x", ascii "1"⟩], 1) ∧
      parseFile [] (ascii "[]\nx = 1\n") = some ([none, none], 0)) ∧
    form (ascii "x = 1\n") = ([none], 0) ∧
      parseFile (ascii "s") (ascii "x = 1\n") =
        some ([some ⟨ascii "s", ascii "x", ascii "1"⟩], 1) := by
  refine ⟨⟨by decide, by decide, by decide, by decide, ?_⟩, ⟨by decide, ?_⟩, by decide, ?_⟩
  · rw [parseFile, parseLoop_eq (by decide) (by decide)]
    decide
  · rw [parseFile, parseLoop_eq (by decide) (by decide)]
    decide
  · rw [parseFile, parseLoop_eq (by decide) (by decide)]
    decide

end ControllerSystem.CConfigHandler
