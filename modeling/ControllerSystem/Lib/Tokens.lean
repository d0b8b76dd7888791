import ControllerSystem.Lib.IniText

/-!
# Texts cut into tokens

`strtok` with a single delimiter: the stretches between the delimiters that are not empty.

* `tokens_append` — the first stretch and the tokens behind it;
* `tokens_concat`, `tokens_append_of_end` — two texts with a delimiter between them;
* `tokens_of_notMem` — a text without the delimiter;
* `mem_tokens` — a token is not empty, and contains no delimiter.
-/

namespace Tokens

variable {α : Type} [DecidableEq α] {d : α} {l s : List α}

/-- The tokens of a text. -/
def tokens (d : α) (s : List α) : List (List α) :=
  (IniText.lines d s).filter fun l => !l.isEmpty

@[simp] theorem tokens_nil (d : α) : tokens d [] = [] := rfl

/-- The first stretch, unless it is empty, and the tokens behind the delimiter. -/
theorem tokens_append (hl : d ∉ l) :
    tokens d (l ++ d :: s) = (if l = [] then [] else [l]) ++ tokens d s := by
  rw [tokens, IniText.lines_append hl, List.filter_cons, tokens]
  cases l with
  | nil => rfl
  | cons a l => rfl

/-- A text without the delimiter is one token. -/
theorem tokens_of_notMem (hne : l ≠ []) (hl : d ∉ l) : tokens d l = [l] := by
  rw [tokens, IniText.lines_last hne hl]
  cases l with
  | nil => exact absurd rfl hne
  | cons a l => rfl

/-- A delimiter between two texts. -/
theorem tokens_concat (s s' : List α) : tokens d (s ++ d :: s') = tokens d s ++ tokens d s' := by
  induction s using IniText.lines_induction d with
  | nil => exact tokens_append List.not_mem_nil
  | last l hne hl => rw [tokens_append hl, if_neg hne, tokens_of_notMem hne hl]
  | cons l s hl ih =>
    rw [List.append_assoc, List.cons_append, tokens_append hl, ih, tokens_append hl,
      List.append_assoc]

/-- A text that begins behind a delimiter, or at the front. -/
theorem tokens_append_of_end (hs : s = [] ∨ ∃ s', s = s' ++ [d]) (s'' : List α) :
    tokens d (s ++ s'') = tokens d s ++ tokens d s'' := by
  rcases hs with rfl | ⟨s', rfl⟩
  · rfl
  · rw [List.append_assoc, List.singleton_append, tokens_concat, tokens_concat, tokens_nil,
      List.append_nil]

theorem mem_tokens (h : l ∈ tokens d s) : l ≠ [] ∧ d ∉ l := by
  induction s using IniText.lines_induction d with
  | nil => cases h
  | last l' hne hl =>
    rw [tokens_of_notMem hne hl] at h
    obtain rfl := List.mem_singleton.mp h
    exact ⟨hne, hl⟩
  | cons l' s hl ih =>
    rw [tokens_append hl, List.mem_append] at h
    rcases h with h | h
    · split at h
      · cases h
      · next hne =>
        obtain rfl := List.mem_singleton.mp h
        exact ⟨hne, hl⟩
    · exact ih h

end Tokens
