import Mathlib.Data.List.DropRight
import Mathlib.Data.List.TakeWhile
import Mathlib.Tactic.SplitIfs

/-!
# Texts of sections and entries

A text in the form of an INI file is a list of lines. A line is, once it has been trimmed, empty, a
comment, the header of a section or an entry, a name and a value with a sign between them; an entry
belongs to the section whose header was the last before it. `Signs.calls` says, line by line, which
entries a text has.

* `lines` — the lines of a text, with an induction over them (`lines_induction`);
* `trim` — a text without the blanks at its ends;
* `Signs.header`, `Signs.entry`, `Signs.calls` — headers, entries, and the entries of a text;
* `outputs`, `after` — what a reader that keeps a state puts out, and the state it gets to:
  `outputs_eq_iff` compares two such readers line by line, and `after_elim` is for a reader whose
  state is what the last line of some kind has made it.
-/

namespace IniText

variable {α : Type}

/-! ### Lines -/

section Lines

variable [DecidableEq α] {nl : α} {l s : List α}

/-- The lines of a text, without the signs that end them. -/
def lines (nl : α) : List α → List (List α)
  | [] => []
  | a :: s =>
    if a = nl then [] :: lines nl s
    else match lines nl s with
      | [] => [[a]]
      | l :: ls => (a :: l) :: ls

theorem lines_append (hl : nl ∉ l) : lines nl (l ++ nl :: s) = l :: lines nl s := by
  induction l with
  | nil => rw [List.nil_append, lines, if_pos rfl]
  | cons a l ih =>
    rw [List.mem_cons, not_or] at hl
    obtain ⟨ha, hl⟩ := hl
    rw [List.cons_append, lines, if_neg (Ne.symm ha), ih hl]

/-- The last line need not be ended. -/
theorem lines_last (hne : l ≠ []) (hl : nl ∉ l) : lines nl l = [l] := by
  induction l with
  | nil => exact absurd rfl hne
  | cons a l ih =>
    rw [List.mem_cons, not_or] at hl
    obtain ⟨ha, hl⟩ := hl
    rw [lines, if_neg (Ne.symm ha)]
    cases l with
    | nil => rfl
    | cons b l => rw [ih (List.cons_ne_nil _ _) hl]

/-- Induction over the lines of a text. -/
theorem lines_induction {motive : List α → Prop} (nl : α) (nil : motive [])
    (last : ∀ l, l ≠ [] → nl ∉ l → motive l)
    (cons : ∀ l s, nl ∉ l → motive s → motive (l ++ nl :: s)) (s : List α) : motive s := by
  -- on the end of the text, with the signs in front of it held back until a line is full
  suffices h : ∀ s l, nl ∉ l → motive (l ++ s) from h s [] List.not_mem_nil
  intro s
  induction s with
  | nil =>
    intro l hl
    rw [List.append_nil]
    by_cases hne : l = []
    · exact hne ▸ nil
    · exact last l hne hl
  | cons a s ih =>
    intro l hl
    by_cases ha : a = nl
    · subst ha
      exact cons l s hl (ih [] List.not_mem_nil)
    · have hl' : nl ∉ l ++ [a] := by
        rw [List.mem_append, List.mem_singleton]
        exact fun hmem => hmem.elim hl (Ne.symm ha)
      rw [List.append_cons]
      exact ih (l ++ [a]) hl'

end Lines

/-! ### Blanks -/

section Blanks

variable {p : α → Bool} {l : List α} {a : α}

/-- A text without the blanks at its ends. -/
def trim (p : α → Bool) (l : List α) : List α := (l.rdropWhile p).dropWhile p

theorem rdropWhile_cons :
    (a :: l).rdropWhile p =
      if l.rdropWhile p = [] then [a].rdropWhile p else a :: l.rdropWhile p := by
  simp only [List.rdropWhile, List.reverse_cons, List.dropWhile_append, List.isEmpty_iff,
    List.reverse_eq_nil_iff, List.reverse_nil, List.nil_append]
  split
  · rfl
  · rw [List.reverse_append, List.reverse_singleton, List.singleton_append]

/-- The end that is trimmed first does not matter. -/
theorem trim_eq (l : List α) : trim p l = (l.dropWhile p).rdropWhile p := by
  induction l with
  | nil => rfl
  | cons a l ih =>
    rw [trim] at ih ⊢
    by_cases ha : p a = true
    · -- a blank in front
      rw [List.dropWhile_cons_of_pos ha, ← ih, rdropWhile_cons]
      split
      · next hnil => rw [hnil, List.rdropWhile_singleton, if_pos ha]
      · rw [List.dropWhile_cons_of_pos ha]
    · rw [List.dropWhile_cons_of_neg ha, rdropWhile_cons]
      split
      · rw [List.rdropWhile_singleton, if_neg ha, List.dropWhile_cons_of_neg ha]
      · rw [List.dropWhile_cons_of_neg ha]

/-- What is no blank is still there. -/
theorem mem_trim (ha : p a = false) : a ∈ trim p l ↔ a ∈ l := by
  constructor
  · intro hmem
    exact (List.rdropWhile_prefix p l).subset ((List.dropWhile_suffix p).subset hmem)
  · intro hmem
    rw [trim]
    -- it is in one of the two parts, and not in the one of blanks
    have hkept : a ∈ l.rdropWhile p := by
      rw [← List.rdropWhile_append_rtakeWhile (p := p) (l := l), List.mem_append] at hmem
      refine hmem.resolve_right fun hblank => ?_
      rw [List.mem_rtakeWhile_imp hblank] at ha
      cases ha
    rw [← List.takeWhile_append_dropWhile (p := p) (l := l.rdropWhile p), List.mem_append] at hkept
    refine hkept.resolve_left fun hblank => ?_
    rw [List.mem_takeWhile_imp hblank] at ha
    cases ha

/-- Blanks in front are passed over on the way to something else. -/
theorem dropWhile_ne_dropWhile [DecidableEq α] (ha : p a = false) (l : List α) :
    (l.dropWhile p).dropWhile (· ≠ a) = l.dropWhile (· ≠ a) := by
  induction l with
  | nil => rfl
  | cons b l ih =>
    by_cases hb : p b = true
    · have hne : b ≠ a := by
        rintro rfl
        rw [ha] at hb
        cases hb
      rw [List.dropWhile_cons_of_pos hb, ih, List.dropWhile_cons_of_pos (by simpa using hne)]
    · rw [List.dropWhile_cons_of_neg hb]

end Blanks

/-! ### Readers with a state -/

section Outputs

variable {σ τ β γ : Type}

/-- What a reader puts out, line by line. -/
def outputs (f : σ → β → σ × γ) (s : σ) : List β → List γ
  | [] => []
  | b :: l => (f s b).2 :: outputs f (f s b).1 l

/-- The state a reader gets to. -/
def after (f : σ → β → σ × γ) (s : σ) (l : List β) : σ := l.foldl (fun s b => (f s b).1) s

/-- Two readers put out the same when, on every line, they do so in the states the lines before it
have brought them to. -/
theorem outputs_eq_iff {f : σ → β → σ × γ} {g : τ → β → τ × γ} {s : σ} {t : τ} {l : List β} :
    outputs f s l = outputs g t l ↔
      ∀ pre b post, l = pre ++ b :: post → (f (after f s pre) b).2 = (g (after g t pre) b).2 := by
  induction l generalizing s t with
  | nil =>
    refine iff_of_true rfl fun pre b post heq => ?_
    exact absurd heq.symm (List.append_ne_nil_of_right_ne_nil _ (List.cons_ne_nil _ _))
  | cons b l ih =>
    rw [outputs, outputs, List.cons.injEq, ih]
    constructor
    · rintro ⟨hb, hl⟩ (_ | ⟨b', pre⟩) c post heq
      · obtain ⟨rfl, -⟩ := List.cons.inj heq
        exact hb
      · obtain ⟨hb', htail⟩ := List.cons.inj heq
        subst hb'
        exact hl pre c post htail
    · intro h
      exact ⟨h [] b l rfl, fun pre c post heq => h (b :: pre) c post (congrArg (b :: ·) heq)⟩

/-- The state is what the last line of some kind has made it. -/
theorem after_elim {δ : Type} {f : σ → β → σ × γ} {last : β → Option δ} {g : δ → σ}
    (hf : ∀ s b, (f s b).1 = (last b).elim s g) (s : σ) (l : List β) :
    after f s l = (l.filterMap last).getLast?.elim s g := by
  induction l generalizing s with
  | nil => rfl
  | cons b l ih =>
    have hstep : after f s (b :: l) = after f ((last b).elim s g) l := by
      rw [after, List.foldl_cons, hf, after]
    rw [hstep, ih]
    cases hb : last b with
    | none => rw [List.filterMap_cons_none hb, Option.elim_none]
    | some t =>
      rw [List.filterMap_cons_some hb, List.getLast?_cons]
      cases (l.filterMap last).getLast? <;> rfl

end Outputs

/-! ### Headers and entries -/

/-- The signs of a text. -/
structure Signs (α : Type) where
  newline : α
  blank : α → Bool
  comment : α → Bool
  opening : α
  closing : α
  equals : α
  blank_newline : blank newline = true
  blank_opening : blank opening = false
  blank_equals : blank equals = false
  comment_opening : comment opening = false

/-- An entry, with the name in the header of its section. -/
structure Entry (α : Type) where
  header : List α
  name : List α
  value : List α
  deriving DecidableEq

section Signs

variable [DecidableEq α] (S : Signs α) {line : List α} {ls pre post : List (List α)}

namespace Signs

/-- The line says nothing: it is empty, or a comment. -/
def Silent (line : List α) : Prop := ∀ a ∈ (trim S.blank line).head?, S.comment a = true

instance : Decidable (S.Silent line) := inferInstanceAs (Decidable (∀ a ∈ _, _))

/-- The name in the header, if the line is one. -/
def header (line : List α) : Option (List α) :=
  let text := trim S.blank line
  if text.head? = some S.opening ∧ S.closing ∈ text.tail then
    some (text.tail.takeWhile (· ≠ S.closing))
  else none

/-- The name and the value, if the line is an entry. -/
def entry (line : List α) : Option (List α × List α) :=
  let text := trim S.blank line
  if S.Silent line ∨ text.head? = some S.opening ∨ S.equals ∉ text then none
  else some (trim S.blank (text.takeWhile (· ≠ S.equals)),
    trim S.blank (text.dropWhile (· ≠ S.equals)).tail)

/-- A line, behind the header of a section. -/
def read (header? : Option (List α)) (line : List α) : Option (List α) × Option (Entry α) :=
  ((S.header line).elim header? some,
    header?.bind fun header => (S.entry line).map fun e => ⟨header, e.1, e.2⟩)

/-- The entries of a text, line by line. -/
def calls (ls : List (List α)) : List (Option (Entry α)) := outputs S.read none ls

/-- The last header. -/
def lastHeader (ls : List (List α)) : Option (List α) := (ls.filterMap S.header).getLast?

theorem after_read (ls : List (List α)) : after S.read none ls = S.lastHeader ls := by
  rw [after_elim (fun _ _ => rfl), lastHeader]
  cases (ls.filterMap S.header).getLast? <;> rfl

end Signs
end Signs
end IniText
