import Mathlib.Algebra.BigOperators.Group.List.Basic
import Mathlib.Algebra.GroupWithZero.Nat
import Mathlib.Data.List.Basic

/-!
# Texts with quoted literals

The lexical rule of a language whose string literals stand between two quote characters, with
a doubled quote inside a literal for the quote itself. `lex` cuts a text into the characters
outside literals and the decoded literals.

A text is often made from a template: fixed parts, and values put between two quotes. The text
then lexes into the template's own lexemes exactly when no value contains the quote
(`lex_render_iff`). One direction runs the lexer through the template; the other is an account
of lengths (`sum_width_lexFrom`): a lexeme takes a fixed number of characters of the text, and a
literal with a quote in it takes more characters than the unescaped value brings.
-/

namespace QuotedText

variable {β : Type}

/-- What the lexer returns: a character outside literals, a decoded literal, or the content of
a literal that is still open at the end of the text. -/
inductive Lexeme (β : Type)
  | raw (c : β)
  | literal (content : List β)
  | unterminated (content : List β)
  deriving DecidableEq

/-- Where the lexer stands: outside, inside a literal, or just behind a quote that either closes
the literal or is the first half of a doubled quote. -/
inductive Mode (β : Type)
  | outside
  | inside (acc : List β)
  | closing (acc : List β)

variable [DecidableEq β]

/-- The lexer, from a given mode. -/
def lexFrom (q : β) : Mode β → List β → List (Lexeme β)
  | .outside, [] => []
  | .inside acc, [] => [.unterminated acc]
  | .closing acc, [] => [.literal acc]
  | .outside, c :: cs =>
    if c = q then lexFrom q (.inside []) cs else .raw c :: lexFrom q .outside cs
  | .inside acc, c :: cs =>
    if c = q then lexFrom q (.closing acc) cs else lexFrom q (.inside (acc ++ [c])) cs
  | .closing acc, c :: cs =>
    -- a second quote makes both stand for one; anything else shows that the literal has ended
    if c = q then lexFrom q (.inside (acc ++ [q])) cs
    else .literal acc :: .raw c :: lexFrom q .outside cs

/-- The lexemes of a text. -/
def lex (q : β) (s : List β) : List (Lexeme β) := lexFrom q .outside s

/-! ### The account of lengths -/

/-- The characters of the text a lexeme stands for. -/
def Lexeme.width (q : β) : Lexeme β → ℕ
  | .raw _ => 1
  -- the two quotes around it, and one more for each quote in it
  | .literal w => 2 + w.length + w.count q
  | .unterminated w => 1 + w.length + w.count q

/-- The characters already read into the literal at hand. -/
def Mode.width (q : β) : Mode β → ℕ
  | .outside => 0
  | .inside w => 1 + w.length + w.count q
  | .closing w => 2 + w.length + w.count q

/-- **Lexing loses no character.** -/
theorem sum_width_lexFrom (q : β) (m : Mode β) (s : List β) :
    ((lexFrom q m s).map (Lexeme.width q)).sum = m.width q + s.length := by
  fun_induction lexFrom q m s with
  -- the end of the text, in each of the three modes
  | case1 => simp [Mode.width]
  | case2 acc => simp [Mode.width, Lexeme.width]
  | case3 acc => simp [Mode.width, Lexeme.width]
  -- outside: a quote opens a literal, any other character is a lexeme
  | case4 cs ih =>
    rw [ih]
    simp only [Mode.width, List.length_nil, List.count_nil, List.length_cons]
    omega
  | case5 c cs hc ih =>
    simp only [List.map_cons, List.sum_cons, ih, Lexeme.width, Mode.width, List.length_cons]
    omega
  -- inside: a quote may close the literal, any other character belongs to it
  | case6 acc cs ih =>
    rw [ih]
    simp only [Mode.width, List.length_cons]
    omega
  | case7 acc c cs hc ih =>
    rw [ih]
    simp only [Mode.width, List.length_append, List.length_cons, List.length_nil,
      List.count_append, List.count_singleton, beq_iff_eq, hc, if_false]
    omega
  -- behind a quote: a second one belongs to the literal and counts twice
  | case8 acc cs ih =>
    rw [ih]
    simp only [Mode.width, List.length_append, List.length_cons, List.length_nil,
      List.count_append, List.count_singleton, beq_self_eq_true, if_true]
    omega
  | case9 acc c cs hc ih =>
    simp only [List.map_cons, List.sum_cons, ih, Lexeme.width, Mode.width, List.length_cons]
    omega

/-! ### Running the lexer -/

/-- Outside a literal, a stretch without quotes is returned as it stands. -/
theorem lexFrom_outside_append {q : β} {s : List β} (h : q ∉ s) (rest : List β) :
    lexFrom q .outside (s ++ rest) = s.map .raw ++ lexFrom q .outside rest := by
  induction s with
  | nil => rfl
  | cons c s ih =>
    obtain ⟨hc, hs⟩ := not_or.mp (List.mem_cons.not.mp h)
    rw [List.cons_append, lexFrom, if_neg (Ne.symm hc), ih hs]
    rfl

/-- Inside a literal, a stretch without quotes is collected. -/
theorem lexFrom_inside_append {q : β} {s : List β} (h : q ∉ s) (acc rest : List β) :
    lexFrom q (.inside acc) (s ++ rest) = lexFrom q (.inside (acc ++ s)) rest := by
  induction s generalizing acc with
  | nil => simp
  | cons c s ih =>
    obtain ⟨hc, hs⟩ := not_or.mp (List.mem_cons.not.mp h)
    rw [List.cons_append, lexFrom, if_neg (Ne.symm hc), ih hs]
    simp

/-- A closed literal is returned at the end of the text and before any character but a
quote. -/
theorem lexFrom_closing {q : β} {rest : List β} (h : rest.head? ≠ some q) (acc : List β) :
    lexFrom q (.closing acc) rest = .literal acc :: lexFrom q .outside rest := by
  cases rest with
  | nil => rfl
  | cons c cs =>
    have hc : c ≠ q := by simpa using h
    rw [lexFrom, if_neg hc, lexFrom, if_neg hc]

/-! ### Templates -/

/-- A part of a template: fixed text, or a value that is put between quotes. -/
inductive Part (β : Type)
  | text (s : List β)
  | value (v : List β)

/-- The characters of a part, a value as it is between two quotes. -/
def Part.render (q : β) : Part β → List β
  | .text s => s
  | .value v => q :: v ++ [q]

/-- The lexemes a part is meant as. -/
def Part.lexemes : Part β → List (Lexeme β)
  | .text s => s.map .raw
  | .value v => [.literal v]

/-- The text made from a template. -/
def render (q : β) (ps : List (Part β)) : List β := ps.flatMap (Part.render q)

/-- The lexemes a template is meant as. -/
def lexemes (ps : List (Part β)) : List (Lexeme β) := ps.flatMap Part.lexemes

/-- The values put into a template. -/
def values : List (Part β) → List (List β)
  | [] => []
  | .text _ :: ps => values ps
  | .value v :: ps => v :: values ps

/-- In a separated template the fixed parts have no quote, and a value is followed by the end or
by a nonempty fixed part. -/
def Separated (q : β) : List (Part β) → Prop
  | [] => True
  | .text s :: ps => q ∉ s ∧ Separated q ps
  | [.value _] => True
  | .value _ :: .text s :: ps => s ≠ [] ∧ q ∉ s ∧ Separated q ps
  | .value _ :: .value _ :: _ => False

/-- The account of lengths on both sides of a template. -/
private theorem sum_width_lexemes (q : β) (ps : List (Part β)) :
    ((lexemes ps).map (Lexeme.width q)).sum
      = (render q ps).length + ((values ps).map (List.count q)).sum := by
  induction ps with
  | nil => rfl
  | cons p ps ih =>
    simp only [lexemes, render] at ih
    cases p with
    | text s =>
      -- a fixed part is as many lexemes of width one
      have hs : ((s.map Lexeme.raw).map (Lexeme.width q)).sum = s.length := by
        rw [List.map_map, show Lexeme.width q ∘ Lexeme.raw = fun _ => 1 from rfl]
        simp
      simp only [lexemes, render, values, List.flatMap_cons, Part.lexemes, Part.render,
        List.map_append, List.sum_append, List.length_append, hs, ih]
      omega
    | value v =>
      -- a literal is wider than the value and its two quotes by the quotes in the value
      simp only [lexemes, render, values, List.flatMap_cons, Part.lexemes, Part.render,
        List.map_append, List.map_cons, List.map_nil, List.sum_append, List.sum_cons,
        List.sum_nil, List.length_append, List.length_cons, List.length_nil, Lexeme.width, ih]
      omega

/-- The lexer runs through a separated template when no value has a quote. -/
theorem lex_render {q : β} {ps : List (Part β)} (hsep : Separated q ps)
    (hfree : ∀ v ∈ values ps, q ∉ v) : lex q (render q ps) = lexemes ps := by
  unfold lex
  fun_induction Separated q ps with
  | case1 => rfl
  | case2 s ps ih =>
    -- a fixed part, at the front of the text
    rw [show render q (.text s :: ps) = s ++ render q ps from rfl,
      lexFrom_outside_append hsep.1, ih hsep.2 (by simpa [values] using hfree)]
    rfl
  | case3 v =>
    -- a value at the end of the text
    have hv : q ∉ v := by simpa [values] using hfree
    rw [show render q [.value v] = q :: (v ++ [q]) by simp [render, Part.render],
      lexFrom, if_pos rfl, lexFrom_inside_append hv, lexFrom, if_pos rfl]
    rfl
  | case4 v s ps ih =>
    -- a value with a fixed part behind it
    obtain ⟨hne, hs, hrest⟩ := hsep
    obtain ⟨hv, hvs⟩ : q ∉ v ∧ ∀ w ∈ values ps, q ∉ w := by simpa [values] using hfree
    rw [show render q (.value v :: .text s :: ps) = q :: (v ++ (q :: (s ++ render q ps))) by
        simp [render, Part.render],
      lexFrom, if_pos rfl, lexFrom_inside_append hv, lexFrom, if_pos rfl, lexFrom_closing,
      lexFrom_outside_append hs, ih hrest hvs]
    · rfl
    · -- the fixed part that follows starts with some character other than the quote
      obtain ⟨c, s, rfl⟩ := List.exists_cons_of_ne_nil hne
      simpa using fun h : c = q => hs (h ▸ List.mem_cons_self)
  | case5 v w ps => exact hsep.elim

/-- **Quoting without escaping.** The text of a separated template lexes into what the template
means if and only if no value contains the quote. -/
theorem lex_render_iff {q : β} {ps : List (Part β)} (hsep : Separated q ps) :
    lex q (render q ps) = lexemes ps ↔ ∀ v ∈ values ps, q ∉ v := by
  refine ⟨fun h v hv => ?_, lex_render hsep⟩
  have hwidth := sum_width_lexemes q ps
  rw [← h, lex, sum_width_lexFrom] at hwidth
  -- the two accounts of the same lexemes differ by the quotes in the values
  have hzero : ((values ps).map (List.count q)).sum = 0 := by
    simp only [Mode.width] at hwidth
    omega
  exact List.count_eq_zero.mp (List.sum_eq_zero_iff_forall_eq_nat.mp hzero _
    (List.mem_map_of_mem hv))

end QuotedText
