import ControllerSystem.CJson.Print

/-!
# Printing into one buffer

With a `printbuffer`, `print_value` and its kin write into one buffer that grows. `ensure` makes
room behind the offset and gives the address there; `update` looks for the terminator that has been
written and gives the offset of it. A value that has been printed leaves the offset somewhere in its
text: an array behind its opening bracket and all its entries, a string where it started. The
address it returns is where the text starts, but for a formatted object, whose address is its depth;
only `cJSON_PrintBuffered` looks at it, and there both are zero.

The bytes of a buffer that nothing has been written into are arbitrary.

* `printBuffered_eq` — `cJSON_PrintBuffered` prints what `cJSON_Print` and `cJSON_PrintUnformatted`
  print, for every size that the buffer starts with, and stays in the buffer.
-/

open Words

namespace ControllerSystem.CJson

/-! ### `printbuffer` -/

/-- The struct `printbuffer`; `length` is the length of `buffer`. -/
structure PrintBuffer where
  buffer : Bytes
  offset : ℕ

/-- Fill the bits of a number below its highest one. -/
def smear (x : ℕ) : ℕ :=
  let x := x ||| x >>> 1
  let x := x ||| x >>> 2
  let x := x ||| x >>> 4
  let x := x ||| x >>> 8
  x ||| x >>> 16

/-- `pow2gt`. -/
def pow2gt (x : ℕ) : ℕ := smear (x - 1) + 1

/-- What blocks come to the process with: the bytes of a block of this size, the next time. -/
abbrev Malloc := PrintBuffer → ℕ → Bytes

variable (malloc : Malloc)

/-- `ensure`. A size above 2^30 makes the sum in `pow2gt` overflow. -/
def ensure (p : PrintBuffer) (needed : ℕ) : Except PrintError PrintBuffer :=
  let needed := needed + p.offset
  if needed ≤ p.buffer.length then .ok p
  else if 1073741824 < needed then .error .undefined
  else
    let newbuffer := malloc p (pow2gt needed)
    .ok { p with buffer := p.buffer ++ newbuffer.drop p.buffer.length }

/-- Write bytes from the offset on. -/
def PrintBuffer.write (p : PrintBuffer) (bytes : Bytes) : Except PrintError PrintBuffer :=
  if p.offset + bytes.length ≤ p.buffer.length then
    .ok { p with
      buffer := p.buffer.take p.offset ++ bytes ++ p.buffer.drop (p.offset + bytes.length) }
  else .error .undefined

/-- Make room for some bytes, and write them. -/
def put (p : PrintBuffer) (needed : ℕ) (bytes : Bytes) : Except PrintError PrintBuffer := do
  let p ← ensure malloc p needed
  p.write bytes

/-- Make room, write, and move the offset: `p->offset+=len`. -/
def emit (p : PrintBuffer) (len needed : ℕ) (bytes : Bytes) : Except PrintError PrintBuffer := do
  let p ← put malloc p needed bytes
  return { p with offset := p.offset + len }

/-- `p->offset=update(p)`. Without a terminator in the buffer, `strlen` leaves it. -/
def update (p : PrintBuffer) : Except PrintError PrintBuffer :=
  if (p.buffer.drop p.offset).contains 0 then
    .ok { p with offset := p.offset + strlen (p.buffer.drop p.offset) }
  else .error .undefined

/-- Print, and move the offset behind what has been printed. Nobody looks at the address. -/
def thenUpdate (x : Except PrintError (Option ℕ × PrintBuffer)) :
    Except PrintError PrintBuffer := do
  let (_, p) ← x
  update p

/-! ### `print_value` with a buffer -/

/-- A text with its terminator; the address is where it starts. -/
def putText (p : PrintBuffer) (needed : ℕ) (text : Bytes) :
    Except PrintError (Option ℕ × PrintBuffer) := do
  let p' ← put malloc p needed (text ++ [0])
  return (some p.offset, p')

/-- A line end, in a formatted text. -/
def lineEnd (fmt : Bool) : Bytes := if fmt then [10] else []

/-- A comma, with a space in a formatted text. -/
def separator (fmt : Bool) : Bytes := if fmt then [44, 32] else [44]

/-- `print_array`, where `entries` prints the entries. -/
def printArrayTo (empty : Bool) (entries : PrintBuffer → Except PrintError PrintBuffer)
    (p : PrintBuffer) : Except PrintError (Option ℕ × PrintBuffer) :=
  if empty then putText malloc p 3 (ascii "[]")
  else do
    let i := p.offset
    let p ← emit malloc p 1 1 [91]
    let p ← entries p
    let p ← put malloc p 2 [93, 0]
    return (some i, p)

/-- `print_object`, where `members` prints the members. -/
def printObjectTo (fmt : Bool) (depth : ℕ) (empty : Bool)
    (members : PrintBuffer → Except PrintError PrintBuffer) (p : PrintBuffer) :
    Except PrintError (Option ℕ × PrintBuffer) :=
  if empty then putText malloc p (if fmt then depth + 4 else 3) (objectText fmt depth [])
  else do
    -- the loop that writes the tabs counts in `i` as well
    let i := if fmt then depth else p.offset
    let len := if fmt then 2 else 1
    let p ← emit malloc p len (len + 1) (123 :: lineEnd fmt ++ [0])
    let p ← members p
    let p ← put malloc p (if fmt then depth + 2 else 2) (tabs fmt depth ++ [125, 0])
    return (some i, p)

/-- An entry of an array, where `value` prints the item. -/
def printEntryTo (fmt last : Bool)
    (value : PrintBuffer → Except PrintError (Option ℕ × PrintBuffer)) (p : PrintBuffer) :
    Except PrintError PrintBuffer := do
  let p ← thenUpdate (value p)
  let len := if fmt then 2 else 1
  if last then .ok p else emit malloc p len (len + 1) (separator fmt ++ [0])

/-- The tabs before the name of a member. -/
def indent (fmt : Bool) (depth : ℕ) (p : PrintBuffer) : Except PrintError PrintBuffer :=
  if fmt then emit malloc p depth depth (tabs fmt depth) else .ok p

/-- The comma and the line end behind a member. -/
def memberEnd (fmt last : Bool) : Bytes := (if last then [] else [44]) ++ lineEnd fmt

/-- A member of an object, where `value` prints the item. -/
def printMemberTo (fmt : Bool) (depth : ℕ) (last : Bool) (string : Option Bytes)
    (value : PrintBuffer → Except PrintError (Option ℕ × PrintBuffer)) (p : PrintBuffer) :
    Except PrintError PrintBuffer := do
  let p ← indent malloc fmt depth p
  let p ← thenUpdate (printStringPtr (putText malloc p) string)
  let len := if fmt then 2 else 1
  let p ← emit malloc p len len (58 :: tabs fmt 1)
  let p ← thenUpdate (value p)
  let len := (if fmt then 1 else 0) + if last then 0 else 1
  emit malloc p len (len + 1) (memberEnd fmt last ++ [0])

variable {D : Type} [CDouble D]

mutual

/-- `print_value`. The result is `NULL` or an offset in the buffer. -/
def printValueTo (fmt : Bool) (depth : ℕ) :
    CJSON D → PrintBuffer → Except PrintError (Option ℕ × PrintBuffer)
  | { type, valuestring, valueint, valuedouble, string := _, child }, p =>
    match type % 256 with
    | 0 => putText malloc p 6 (ascii "false")
    | 1 => putText malloc p 5 (ascii "true")
    | 2 => putText malloc p 5 (ascii "null")
    | 3 => printNumber (putText malloc p) valueint valuedouble
    | 4 => printStringPtr (putText malloc p) valuestring
    | 5 => printArrayTo malloc child.isEmpty (printEntriesTo fmt (depth + 1) child) p
    | 6 => printObjectTo malloc fmt depth child.isEmpty (printMembersTo fmt (depth + 1) child) p
    | _ => .ok (none, p)

/-- The entries of an array. -/
def printEntriesTo (fmt : Bool) (depth : ℕ) :
    List (CJSON D) → PrintBuffer → Except PrintError PrintBuffer
  | [], p => .ok p
  | child :: next, p =>
    printEntryTo malloc fmt next.isEmpty (printValueTo fmt depth child) p >>=
      printEntriesTo fmt depth next

/-- The members of an object. -/
def printMembersTo (fmt : Bool) (depth : ℕ) :
    List (CJSON D) → PrintBuffer → Except PrintError PrintBuffer
  | [], p => .ok p
  | child :: next, p =>
    printMemberTo malloc fmt depth next.isEmpty child.string (printValueTo fmt depth child) p >>=
      printMembersTo fmt depth next

end

/-- `cJSON_PrintBuffered`: the string at the address it returns. -/
def printBuffered (item : CJSON D) (prebuffer : ℕ) (fmt : Bool) : Except PrintError Bytes := do
  let (out, p) ← printValueTo malloc fmt 0 item ⟨malloc ⟨[], 0⟩ prebuffer, 0⟩
  match out with
  | none => .error .null
  | some i => .ok (cstr (p.buffer.drop i))

/-! ### Room in the buffer -/

section Room

omit [CDouble D]

theorem le_smear (x : ℕ) : x ≤ smear x := by
  refine Nat.le_trans ?_ Nat.left_le_or
  refine Nat.le_trans ?_ Nat.left_le_or
  refine Nat.le_trans ?_ Nat.left_le_or
  exact Nat.le_trans Nat.left_le_or Nat.left_le_or

theorem le_pow2gt (x : ℕ) : x ≤ pow2gt x := by
  have hle := le_smear (x - 1)
  rw [pow2gt]
  omega

/-- The offset stands behind what has been written. -/
def written (s r : Bytes) : PrintBuffer := ⟨s ++ r, s.length⟩

variable {malloc} (hmalloc : ∀ p n, (malloc p n).length = n)

include hmalloc

theorem ensure_written (s r : Bytes) {needed : ℕ} (hsize : s.length + needed ≤ 1073741824) :
    ∃ r', ensure malloc (written s r) needed = .ok (written s r') ∧ needed ≤ r'.length := by
  by_cases hroom : needed + s.length ≤ (s ++ r).length
  · rw [List.length_append] at hroom
    refine ⟨r, if_pos ?_, by omega⟩
    rw [written, List.length_append]
    exact hroom
  · refine ⟨r ++ (malloc (written s r) (pow2gt (needed + s.length))).drop (s ++ r).length, ?_, ?_⟩
    · rw [ensure, written]
      dsimp only
      rw [if_neg hroom, if_neg (by omega), written, List.append_assoc]
    · have hle := le_pow2gt (needed + s.length)
      rw [List.length_append, List.length_drop, hmalloc, List.length_append]
      omega

/-- Bytes written behind what has been written. -/
theorem put_written (s r : Bytes) {needed : ℕ} (bytes : Bytes) (hbytes : bytes.length ≤ needed)
    (hsize : s.length + needed ≤ 1073741824) :
    ∃ r', put malloc (written s r) needed bytes = .ok (written s (bytes ++ r')) := by
  obtain ⟨r', hensure, hroom⟩ := ensure_written hmalloc s r hsize
  refine ⟨r'.drop bytes.length, ?_⟩
  have hfits : s.length + bytes.length ≤ (s ++ r').length := by
    rw [List.length_append]
    omega
  have hwrite : (written s r').write bytes = .ok (written s (bytes ++ r'.drop bytes.length)) := by
    rw [PrintBuffer.write, written, if_pos hfits, written, List.take_left', List.drop_append,
      List.append_assoc]
    · simp
    · rfl
  rw [put, hensure]
  exact hwrite

/-- Bytes written, and the offset behind some of them. -/
theorem emit_written (s r bytes extra : Bytes) {len needed : ℕ}
    (hbytes : (bytes ++ extra).length ≤ needed) (hlen : len = bytes.length)
    (hsize : s.length + needed ≤ 1073741824) :
    ∃ r', emit malloc (written s r) len needed (bytes ++ extra) =
      .ok (written (s ++ bytes) r') := by
  obtain ⟨r', h⟩ := put_written hmalloc s r _ hbytes hsize
  refine ⟨extra ++ r', ?_⟩
  rw [emit, h, hlen, written, written, List.append_assoc, List.append_assoc, List.length_append]
  rfl

omit hmalloc in
/-- `update` finds the terminator. -/
theorem update_written {t : Bytes} (ht : 0 ∉ t) (s r : Bytes) :
    update (written s (t ++ 0 :: r)) = .ok (written (s ++ t) (0 :: r)) := by
  have hdrop : (s ++ (t ++ 0 :: r)).drop s.length = t ++ 0 :: r := List.drop_left
  rw [update, written, hdrop, if_pos (by simp), strlen_append ht, written, List.append_assoc,
    List.length_append]

/-- The text is in the buffer behind what was there, with its terminator, and the offset somewhere
in it. The address of a value that is printed first and into no other one is the beginning. -/
def Printed (depth : ℕ) (s text : Bytes) (x : Except PrintError (Option ℕ × PrintBuffer)) : Prop :=
  ∃ i t t' r, (s = [] → depth = 0 → i = 0) ∧ text = t ++ t' ∧
    x = .ok (some i, written (s ++ t) (t' ++ 0 :: r))

omit hmalloc in
theorem ok_bind {α β : Type} (a : α) (f : α → Except PrintError β) :
    ((.ok a : Except PrintError α) >>= f) = f a := rfl

omit hmalloc in
/-- The offset goes behind a text that has been printed. -/
theorem Printed.thenUpdate {depth : ℕ} {s text : Bytes}
    {x : Except PrintError (Option ℕ × PrintBuffer)} (hx : Printed depth s text x)
    (hnul : 0 ∉ text) : ∃ r, CJson.thenUpdate x = .ok (written (s ++ text) r) := by
  obtain ⟨i, t, t', r, -, rfl, rfl⟩ := hx
  refine ⟨0 :: r, ?_⟩
  rw [CJson.thenUpdate, ok_bind, ← List.append_assoc]
  exact update_written (fun h => hnul (List.mem_append_right t h)) (s ++ t) r

omit hmalloc in
/-- Where nothing has been written, the offset is the beginning. -/
theorem length_eq_zero_of_first {s : Bytes} {depth : ℕ} : s = [] → depth = 0 → s.length = 0 :=
  fun hs _ => List.length_eq_zero_iff.mpr hs

theorem putText_printed {depth : ℕ} (s r : Bytes) {needed : ℕ} {text : Bytes}
    (htext : text.length + 1 ≤ needed) (hsize : s.length + needed ≤ 1073741824) :
    Printed depth s text (putText malloc (written s r) needed text) := by
  obtain ⟨r', hput⟩ := put_written hmalloc s r (text ++ [0])
    (by rwa [List.length_append, List.length_singleton]) hsize
  refine ⟨s.length, [], text, r', length_eq_zero_of_first, rfl, ?_⟩
  rw [putText, hput, List.append_assoc, List.append_nil]
  rfl

omit hmalloc in
theorem length_lineEnd (fmt : Bool) : (lineEnd fmt).length = if fmt then 1 else 0 := by
  cases fmt <;> rfl

omit hmalloc in
theorem length_separator (fmt : Bool) : (separator fmt).length = if fmt then 2 else 1 := by
  cases fmt <;> rfl

/-- An array: the bracket, the entries, the bracket. -/
theorem printArrayTo_printed {depth : ℕ} (s r : Bytes) {empty : Bool}
    {entries : PrintBuffer → Except PrintError PrintBuffer} {text : Bytes}
    (hempty : empty = true → text = [])
    (hentries : ∀ r, ∃ r', entries (written (s ++ [91]) r) = .ok (written (s ++ [91] ++ text) r'))
    (hsize : s.length + text.length + 64 ≤ 1073741824) :
    Printed depth s (91 :: text ++ [93]) (printArrayTo malloc empty entries (written s r)) := by
  rw [printArrayTo]
  split_ifs with he
  · rw [hempty he]
    exact putText_printed hmalloc s r (by decide) (by omega)
  · obtain ⟨r₁, h₁⟩ : ∃ r₁, emit malloc (written s r) 1 1 [91] = .ok (written (s ++ [91]) r₁) :=
      emit_written hmalloc s r [91] [] (by decide) rfl (by omega)
    obtain ⟨r₂, h₂⟩ := hentries r₁
    obtain ⟨r₃, h₃⟩ : ∃ r₃, put malloc (written (s ++ [91] ++ text) r₂) 2 [93, 0] =
        .ok (written (s ++ [91] ++ text) ([93, 0] ++ r₃)) := by
      refine put_written hmalloc _ r₂ _ (by decide) ?_
      simp only [List.length_append, List.length_singleton]
      omega
    refine ⟨s.length, 91 :: text, [93], r₃, length_eq_zero_of_first, rfl, ?_⟩
    rw [h₁, ok_bind, h₂, ok_bind, h₃, ok_bind, List.append_assoc s]
    rfl

/-- An object: the brace and the line end, the members, the tabs and the brace. -/
theorem printObjectTo_printed (fmt : Bool) (depth : ℕ) (s r : Bytes)
    {members : PrintBuffer → Except PrintError PrintBuffer} {ms : List (Bytes × Bytes)}
    (hmembers : ∀ r, ∃ r', members (written (s ++ 123 :: lineEnd fmt) r) =
      .ok (written (s ++ 123 :: lineEnd fmt ++ membersText fmt (depth + 1) ms) r'))
    (hsize : s.length + (objectText fmt depth ms).length + 64 ≤ 1073741824) :
    Printed depth s (objectText fmt depth ms)
      (printObjectTo malloc fmt depth ms.isEmpty members (written s r)) := by
  rw [printObjectTo]
  dsimp only
  by_cases he : ms.isEmpty
  · rw [if_pos he, List.isEmpty_iff.mp he]
    rw [List.isEmpty_iff.mp he] at hsize
    refine putText_printed hmalloc s r ?_ ?_ <;>
      simp only [objectText, membersText, List.length_append, List.length_cons, List.length_nil,
        length_tabs] at hsize ⊢ <;> cases fmt <;> simp at hsize ⊢ <;> omega
  · have htext : objectText fmt depth ms =
        123 :: lineEnd fmt ++ membersText fmt (depth + 1) ms ++ (tabs fmt depth ++ [125]) := by
      rw [objectText, if_neg he, ← List.append_assoc]
      rfl
    rw [htext] at hsize ⊢
    simp only [List.length_append, List.length_cons, length_lineEnd, length_tabs,
      List.length_nil] at hsize
    obtain ⟨r₁, h₁⟩ : ∃ r₁, emit malloc (written s r) (if fmt then 2 else 1)
        ((if fmt then 2 else 1) + 1) (123 :: lineEnd fmt ++ [0]) =
          .ok (written (s ++ 123 :: lineEnd fmt) r₁) :=
      emit_written hmalloc s r (123 :: lineEnd fmt) [0] (by cases fmt <;> decide)
        (by cases fmt <;> rfl) (by split_ifs <;> omega)
    obtain ⟨r₂, h₂⟩ := hmembers r₁
    obtain ⟨r₃, h₃⟩ : ∃ r₃, put malloc
        (written (s ++ 123 :: lineEnd fmt ++ membersText fmt (depth + 1) ms) r₂)
        (if fmt then depth + 2 else 2) (tabs fmt depth ++ [125, 0]) =
          .ok (written (s ++ 123 :: lineEnd fmt ++ membersText fmt (depth + 1) ms)
            (tabs fmt depth ++ [125, 0] ++ r₃)) := by
      refine put_written hmalloc _ r₂ _ (by cases fmt <;> simp [length_tabs]) ?_
      simp only [List.length_append, List.length_cons, length_lineEnd]
      split_ifs at hsize ⊢ <;> omega
    refine ⟨if fmt then depth else s.length, 123 :: lineEnd fmt ++ membersText fmt (depth + 1) ms,
      tabs fmt depth ++ [125], r₃, fun hs hdepth => ?_, rfl, ?_⟩
    · rw [hs, hdepth, List.length_nil, ite_self]
    · rw [if_neg he, h₁, ok_bind, h₂, ok_bind, h₃, ok_bind]
      simp only [List.append_assoc]
      rfl

/-- An entry: the text of the item and the separator. -/
theorem printEntryTo_written (fmt last : Bool) (s r : Bytes) {ret : Bytes}
    {value : PrintBuffer → Except PrintError (Option ℕ × PrintBuffer)}
    {depth : ℕ} (hvalue : Printed depth s ret (value (written s r))) (hnul : 0 ∉ ret)
    (hsize : s.length + ret.length + 64 ≤ 1073741824) :
    ∃ r', printEntryTo malloc fmt last value (written s r) =
      .ok (written (s ++ ret ++ if last then [] else separator fmt) r') := by
  obtain ⟨r₁, h₁⟩ := hvalue.thenUpdate hnul
  rw [printEntryTo, h₁, ok_bind]
  dsimp only
  cases last
  · refine emit_written hmalloc (s ++ ret) r₁ (separator fmt) [0] ?_ (length_separator fmt).symm ?_
    · rw [List.length_append, length_separator, List.length_singleton]
    · rw [List.length_append]
      split_ifs <;> omega
  · exact ⟨r₁, by rw [if_pos rfl, if_pos rfl, List.append_nil]⟩

theorem indent_written (fmt : Bool) (depth : ℕ) (s r : Bytes)
    (hsize : s.length + (tabs fmt depth).length ≤ 1073741824) :
    ∃ r', indent malloc fmt depth (written s r) = .ok (written (s ++ tabs fmt depth) r') := by
  rw [length_tabs] at hsize
  cases fmt
  · exact ⟨r, by rw [indent, tabs, if_neg Bool.false_ne_true, if_neg Bool.false_ne_true,
      List.append_nil]⟩
  · obtain ⟨r', h⟩ := emit_written hmalloc s r (tabs true depth) []
      (by rw [List.append_nil, length_tabs, if_pos rfl]) (by rw [length_tabs, if_pos rfl]) hsize
    rw [List.append_nil] at h
    exact ⟨r', h⟩

omit hmalloc in
theorem length_memberEnd (fmt last : Bool) :
    (memberEnd fmt last).length = (if fmt then 1 else 0) + if last then 0 else 1 := by
  cases fmt <;> cases last <;> rfl

/-- The text of a member: the tabs and the name, the colon, the item, and what is behind it. -/
def memberText (fmt : Bool) (depth : ℕ) (last : Bool) (str ret : Bytes) : Bytes :=
  tabs fmt depth ++ str ++ (58 :: tabs fmt 1) ++ ret ++ memberEnd fmt last

omit hmalloc in
theorem membersText_cons (fmt : Bool) (depth : ℕ) (str ret : Bytes)
    (members : List (Bytes × Bytes)) :
    membersText fmt depth ((str, ret) :: members) =
      memberText fmt depth members.isEmpty str ret ++ membersText fmt depth members := by
  simp [membersText, memberText, memberEnd, lineEnd]

theorem printMemberTo_written (fmt : Bool) (depth : ℕ) (last : Bool) (s r : Bytes) {ret : Bytes}
    (string : Bytes) {value : PrintBuffer → Except PrintError (Option ℕ × PrintBuffer)}
    (hvalue : ∀ r', Printed depth (s ++ tabs fmt depth ++ quoted string ++ 58 :: tabs fmt 1) ret
      (value (written (s ++ tabs fmt depth ++ quoted string ++ 58 :: tabs fmt 1) r')))
    (hnul : 0 ∉ memberText fmt depth last (quoted string) ret)
    (hsize : s.length + (memberText fmt depth last (quoted string) ret).length + 64 ≤ 1073741824) :
    ∃ r', printMemberTo malloc fmt depth last (some string) value (written s r) =
      .ok (written (s ++ memberText fmt depth last (quoted string) ret) r') := by
  simp only [memberText, List.mem_append, not_or] at hnul
  obtain ⟨⟨⟨⟨-, hnulStr⟩, -⟩, hnulRet⟩, -⟩ := hnul
  simp only [memberText, List.length_append, List.length_cons, length_memberEnd] at hsize
  have hcolon : (58 :: tabs fmt 1).length = if fmt then 2 else 1 := by cases fmt <;> rfl
  obtain ⟨r₁, h₁⟩ := indent_written hmalloc fmt depth s r (by omega)
  have hname : Printed depth (s ++ tabs fmt depth) (quoted string)
      (printStringPtr (putText malloc (written (s ++ tabs fmt depth) r₁)) (some string)) := by
    rw [printStringPtr_some]
    refine putText_printed hmalloc _ r₁ (Nat.le_refl _) ?_
    rw [List.length_append]
    omega
  obtain ⟨r₂, h₂⟩ := hname.thenUpdate hnulStr
  obtain ⟨r₃, h₃⟩ : ∃ r₃, emit malloc (written (s ++ tabs fmt depth ++ quoted string) r₂)
      (if fmt then 2 else 1) (if fmt then 2 else 1) (58 :: tabs fmt 1) =
        .ok (written (s ++ tabs fmt depth ++ quoted string ++ 58 :: tabs fmt 1) r₃) := by
    obtain ⟨r₃, h⟩ := emit_written hmalloc (s ++ tabs fmt depth ++ quoted string) r₂
      (58 :: tabs fmt 1) [] (Nat.le_of_eq (by rw [List.append_nil, hcolon])) hcolon.symm (by
        simp only [List.length_append]
        split_ifs <;> omega)
    rw [List.append_nil] at h
    exact ⟨r₃, h⟩
  obtain ⟨r₄, h₄⟩ := (hvalue r₃).thenUpdate hnulRet
  obtain ⟨r₅, h₅⟩ := emit_written hmalloc
    (s ++ tabs fmt depth ++ quoted string ++ 58 :: tabs fmt 1 ++ ret) r₄ (memberEnd fmt last) [0]
    (Nat.le_of_eq (by rw [List.length_append, length_memberEnd, List.length_singleton]))
    (length_memberEnd fmt last).symm (by
      simp only [List.length_append, hcolon]
      simp only [length_tabs] at hsize ⊢
      split_ifs at hsize ⊢ <;> omega)
  refine ⟨r₅, ?_⟩
  rw [printMemberTo, h₁, ok_bind, h₂, ok_bind]
  dsimp only
  rw [h₃, ok_bind, h₄, ok_bind, h₅, memberText]
  simp only [List.append_assoc]

end Room

/-! ### The same text -/

section Same

/-- A number has a text and a size of its own, wherever it is printed. -/
theorem printNumber_out (valueint : ℤ) (d : D) :
    ∃ size text, size ≤ 64 ∧ ∀ {R : Type} (out : ℕ → Bytes → Except PrintError R),
      printNumber out valueint d = out size text := by
  by_cases hzero : CDouble.eq d (CDouble.ofInt 0) = true
  · exact ⟨2, _, by decide, fun out => if_pos hzero⟩
  · by_cases hint : (CDouble.le (CDouble.fabs (CDouble.sub (CDouble.ofInt valueint) d))
        CDouble.DBL_EPSILON && CDouble.le d (CDouble.ofInt intMax) &&
        CDouble.le (CDouble.ofInt intMin) d) = true
    · exact ⟨21, _, by decide, fun out => (if_neg hzero).trans (if_pos hint)⟩
    · exact ⟨64, _, by decide, fun out => (if_neg hzero).trans (if_neg hint)⟩

omit [CDouble D] in
theorem bind_ok {α β : Type} {x : Except PrintError α} {f : α → Except PrintError β} {b : β}
    (h : (x >>= f) = .ok b) : ∃ a, x = .ok a ∧ f a = .ok b := by
  cases x with
  | error e => cases h
  | ok a => exact ⟨a, rfl, h⟩

omit [CDouble D] in
theorem printMember_ok {str ret : Except PrintError Bytes}
    {members : Except PrintError (List (Bytes × Bytes))} {ms : List (Bytes × Bytes)}
    (h : printMember str ret members = .ok ms) :
    ∃ str' ret' members', str = .ok str' ∧ ret = .ok ret' ∧ members = .ok members' ∧
      ms = (str', ret') :: members' := by
  unfold printMember at h
  split at h <;> cases h
  exact ⟨_, _, _, rfl, rfl, rfl, rfl⟩

theorem printEntries_isEmpty {fmt : Bool} {depth : ℕ} {child : List (CJSON D)}
    {entries : List Bytes} (h : printEntries fmt depth child = .ok entries) :
    entries.isEmpty = child.isEmpty := by
  cases child with
  | nil =>
    cases h
    rfl
  | cons c next =>
    rw [printEntries] at h
    obtain ⟨ret, -, h⟩ := bind_ok h
    obtain ⟨entries', -, h⟩ := bind_ok h
    cases h
    rfl

theorem printMembers_isEmpty {fmt : Bool} {depth : ℕ} {child : List (CJSON D)}
    {members : List (Bytes × Bytes)} (h : printMembers fmt depth child = .ok members) :
    members.isEmpty = child.isEmpty := by
  cases child with
  | nil =>
    cases h
    rfl
  | cons c next =>
    rw [printMembers] at h
    obtain ⟨-, -, -, -, -, -, rfl⟩ := printMember_ok h
    rfl

omit [CDouble D] in
theorem entriesText_cons (fmt : Bool) (ret : Bytes) (entries : List Bytes) :
    entriesText fmt (ret :: entries) =
      ret ++ (if entries.isEmpty then [] else separator fmt) ++ entriesText fmt entries := by
  cases entries with
  | nil => rw [entriesText, List.isEmpty_nil, if_pos rfl, entriesText, List.append_nil,
      List.append_nil]
  | cons e entries => rfl

omit [CDouble D] in
/-- A string that has been printed was there. -/
theorem printStringPtr_ok {string : Option Bytes} {str : Bytes}
    (h : printStringPtr fill string = .ok str) :
    ∃ s, string = some s ∧ str = quoted s := by
  cases string with
  | none => cases h
  | some s =>
    rw [printStringPtr_some] at h
    obtain ⟨rfl, -⟩ := fill_ok h
    exact ⟨s, rfl, rfl⟩

variable {malloc} (hmalloc : ∀ p n, (malloc p n).length = n)

include hmalloc

mutual

/-- **One buffer.** What is printed into a block of its own goes into the buffer behind what is
there already, as long as the sizes fit into an `int`. -/
theorem printValueTo_printed (fmt : Bool) (depth : ℕ) (item : CJSON D) (text : Bytes)
    (hprint : printValue fmt depth item = .ok text) (hnul : 0 ∉ text) (s r : Bytes)
    (hsize : s.length + text.length + 64 ≤ 1073741824) :
    Printed depth s text (printValueTo malloc fmt depth item (written s r)) := by
  obtain ⟨type, valuestring, valueint, valuedouble, string, child⟩ := item
  simp only [printValue, printValueTo] at hprint ⊢
  generalize type % 256 = kind at hprint ⊢
  split at hprint
  · cases hprint
    exact putText_printed hmalloc s r (by decide) (by omega)
  · cases hprint
    exact putText_printed hmalloc s r (by decide) (by omega)
  · cases hprint
    exact putText_printed hmalloc s r (by decide) (by omega)
  · obtain ⟨size, text', hle, hout⟩ := printNumber_out valueint valuedouble
    rw [hout] at hprint ⊢
    obtain ⟨rfl, -, hroom⟩ := fill_ok hprint
    exact putText_printed hmalloc s r hroom (by omega)
  · cases valuestring with
    | none => cases hprint
    | some str =>
      rw [printStringPtr_some] at hprint ⊢
      obtain ⟨rfl, -, hroom⟩ := fill_ok hprint
      exact putText_printed hmalloc s r hroom (by omega)
  · obtain ⟨entries, hentries, harray⟩ := bind_ok hprint
    obtain rfl := (printArray_prints fmt entries).eq_of_ok harray
    simp only [arrayText, List.length_append, List.length_cons, List.length_nil] at hsize
    have hnul' : 0 ∉ entriesText fmt entries := fun h => hnul (by simp [arrayText, h])
    refine printArrayTo_printed hmalloc s r (fun hempty => ?_) (fun r₁ => ?_) (by omega)
    · rw [← printEntries_isEmpty hentries, List.isEmpty_iff] at hempty
      rw [hempty, entriesText]
    · refine printEntriesTo_printed fmt (depth + 1) child entries hentries hnul' (s ++ [91]) r₁ ?_
      simp only [List.length_append, List.length_singleton]
      omega
  · obtain ⟨members, hmembers, hobject⟩ := bind_ok hprint
    obtain rfl := (printObject_prints fmt depth members).eq_of_ok hobject
    have hnul' : 0 ∉ membersText fmt (depth + 1) members := fun h =>
      hnul (by simp [objectText, h])
    rw [← printMembers_isEmpty hmembers]
    refine printObjectTo_printed hmalloc fmt depth s r (fun r₁ => ?_) hsize
    refine printMembersTo_printed fmt (depth + 1) child members hmembers hnul' _ r₁ ?_
    simp only [objectText, List.length_append, List.length_cons, List.length_nil] at hsize ⊢
    rw [length_lineEnd]
    split_ifs at hsize ⊢ <;> simp only [List.length_cons, List.length_nil] at hsize <;> omega
  · cases hprint

theorem printEntriesTo_printed (fmt : Bool) (depth : ℕ) (child : List (CJSON D))
    (entries : List Bytes) (hprint : printEntries fmt depth child = .ok entries)
    (hnul : 0 ∉ entriesText fmt entries) (s r : Bytes)
    (hsize : s.length + (entriesText fmt entries).length + 64 ≤ 1073741824) :
    ∃ r', printEntriesTo malloc fmt depth child (written s r) =
      .ok (written (s ++ entriesText fmt entries) r') := by
  match child with
  | [] =>
    cases hprint
    exact ⟨r, by rw [printEntriesTo, entriesText, List.append_nil]⟩
  | c :: next =>
    rw [printEntries] at hprint
    obtain ⟨ret, hret, hprint⟩ := bind_ok hprint
    obtain ⟨entries', hnext, hprint⟩ := bind_ok hprint
    cases hprint
    rw [entriesText_cons, printEntries_isEmpty hnext] at hsize hnul ⊢
    simp only [List.length_append] at hsize
    simp only [List.mem_append, not_or] at hnul
    obtain ⟨⟨hnulRet, -⟩, hnulNext⟩ := hnul
    obtain ⟨r₁, h₁⟩ := printEntryTo_written hmalloc fmt next.isEmpty s r
      (printValueTo_printed fmt depth c ret hret hnulRet s r (by omega)) hnulRet (by omega)
    obtain ⟨r₂, h₂⟩ := printEntriesTo_printed fmt depth next entries' hnext hnulNext
      (s ++ ret ++ if next.isEmpty then [] else separator fmt) r₁ (by
        simp only [List.length_append]
        omega)
    refine ⟨r₂, ?_⟩
    rw [printEntriesTo, h₁, ok_bind, h₂]
    simp only [List.append_assoc]

theorem printMembersTo_printed (fmt : Bool) (depth : ℕ) (child : List (CJSON D))
    (members : List (Bytes × Bytes)) (hprint : printMembers fmt depth child = .ok members)
    (hnul : 0 ∉ membersText fmt depth members) (s r : Bytes)
    (hsize : s.length + (membersText fmt depth members).length + 64 ≤ 1073741824) :
    ∃ r', printMembersTo malloc fmt depth child (written s r) =
      .ok (written (s ++ membersText fmt depth members) r') := by
  match child with
  | [] =>
    cases hprint
    exact ⟨r, by rw [printMembersTo, membersText, List.append_nil]⟩
  | c :: next =>
    rw [printMembers] at hprint
    obtain ⟨str, ret, members', hstr, hret, hnext, rfl⟩ := printMember_ok hprint
    rw [membersText_cons, printMembers_isEmpty hnext] at hsize hnul ⊢
    rw [List.length_append] at hsize
    rw [List.mem_append, not_or] at hnul
    obtain ⟨hnulMember, hnulNext⟩ := hnul
    have hnulRet : 0 ∉ ret := fun h => hnulMember (by simp [memberText, h])
    obtain ⟨string, hstring, rfl⟩ := printStringPtr_ok hstr
    obtain ⟨r₁, h₁⟩ := printMemberTo_written hmalloc fmt depth next.isEmpty s r string
      (fun r' => printValueTo_printed fmt depth c ret hret hnulRet _ r' (by
        simp only [memberText, List.length_append] at hsize ⊢
        omega))
      hnulMember (by omega)
    obtain ⟨r₂, h₂⟩ := printMembersTo_printed fmt depth next members' hnext hnulNext
      (s ++ memberText fmt depth next.isEmpty (quoted string) ret) r₁ (by
        rw [List.length_append]
        omega)
    refine ⟨r₂, ?_⟩
    rw [printMembersTo, hstring, h₁, ok_bind, h₂, List.append_assoc]

end

end Same

/-! ### `cJSON_PrintBuffered` -/

variable {malloc}

/-- **One buffer or many blocks.** Where `cJSON_Print` and `cJSON_PrintUnformatted` print a text
whose size fits into an `int`, `cJSON_PrintBuffered` prints the same text, whatever the size it
starts with and whatever the blocks come with. -/
theorem printBuffered_eq (hmalloc : ∀ p n, (malloc p n).length = n) {item : CJSON D}
    {text : Bytes} {fmt : Bool} (hprint : printValue fmt 0 item = .ok text) (hnul : 0 ∉ text)
    (hsize : text.length + 64 ≤ 1073741824) (prebuffer : ℕ) :
    printBuffered malloc item prebuffer fmt = .ok text := by
  obtain ⟨i, t, t', r, hi, rfl, hto⟩ := printValueTo_printed hmalloc fmt 0 item text hprint hnul []
    (malloc ⟨[], 0⟩ prebuffer) (by rwa [List.length_nil, Nat.zero_add])
  rw [printBuffered]
  have hwritten : (⟨malloc ⟨[], 0⟩ prebuffer, 0⟩ : PrintBuffer) =
      written [] (malloc ⟨[], 0⟩ prebuffer) := rfl
  rw [hwritten, hto, ok_bind]
  dsimp only [written]
  -- the value is the first one printed, and not in another one
  rw [List.nil_append, hi rfl rfl, List.drop_zero, ← List.append_assoc, cstr_append hnul]

/-- A buffer of one byte, for an object with a string in it. -/
theorem printBuffered_eq_object :
    printBuffered (fun _ n => List.replicate n 255)
      (⟨6, none, 0, 0, none, [⟨4, some [34], 0, 0, some (ascii "s"), []⟩]⟩ : CJSON ℚ) 1 true =
        .ok (ascii "\x7b\n\t\"s\":\t\"\\\"\"\n\x7d") :=
  printBuffered_eq (fun _ n => List.length_replicate) (by decide +kernel) (by decide) (by decide) 1

end ControllerSystem.CJson
