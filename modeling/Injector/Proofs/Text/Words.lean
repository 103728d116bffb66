import Injector.Text
/-!
The characters of words. Underscored text is made of the characters of words and of underscores,
and a text that is a word already is not changed. A character between words ends the words before
it, so the words of a text with such a character in it are those of its two parts.
-/
namespace Injector.Text

section Characters

theorem isWordChar_of_mem_words {text word : Text} (h : word ∈ words text) :
    ∀ c ∈ word, isWordChar c = true := by
  fun_induction words text generalizing word with
  | case1 => cases h
  | case2 c rest isWord _ first others found ih =>
      rcases List.mem_cons.mp h with rfl | later
      · exact List.forall_mem_cons.mpr ⟨isWord, ih (by rw [found]; exact List.mem_cons_self)⟩
      · exact ih (by rw [found]; exact List.mem_cons_of_mem first later)
  | case3 c rest isWord =>
      obtain rfl := List.mem_singleton.mp h
      exact List.forall_mem_singleton.mpr isWord
  | case4 c rest isWord _ ih =>
      rcases List.mem_cons.mp h with rfl | later
      · exact List.forall_mem_singleton.mpr isWord
      · exact ih later
  | case5 c rest _ ih => exact ih h

theorem mem_intercalate {c : Char} {separator : Text} {parts : List Text}
    (h : c ∈ separator.intercalate parts) : c ∈ separator ∨ ∃ part ∈ parts, c ∈ part := by
  induction parts with
  | nil => cases h
  | cons part rest ih =>
      cases rest with
      | nil =>
          rw [List.intercalate_singleton] at h
          exact .inr ⟨part, List.mem_cons_self, h⟩
      | cons next more =>
          rw [List.intercalate_cons_cons, List.mem_append, List.mem_append] at h
          rcases h with (here | between) | later
          · exact .inr ⟨part, List.mem_cons_self, here⟩
          · exact .inl between
          · exact (ih later).imp_right fun ⟨other, mem, inside⟩ =>
              ⟨other, List.mem_cons_of_mem part mem, inside⟩

theorem mem_underscored {text : Text} {c : Char} (h : c ∈ underscored text) :
    isWordChar c = true ∨ c = '_' := by
  rcases mem_intercalate h with between | ⟨word, mem, inside⟩
  · exact .inr (List.mem_singleton.mp between)
  · exact .inl (isWordChar_of_mem_words mem c inside)

theorem words_of_word {text : Text} (some_char : text ≠ [])
    (h : ∀ c ∈ text, isWordChar c = true) : words text = [text] := by
  induction text with
  | nil => exact absurd rfl some_char
  | cons c rest ih =>
      obtain ⟨first, others⟩ := List.forall_mem_cons.mp h
      cases rest with
      | nil => rw [words, if_pos first]; rfl
      | cons d rest =>
          have starts : startsWord (d :: rest) = true := (List.forall_mem_cons.mp others).1
          rw [words, if_pos first, if_pos starts, ih (List.cons_ne_nil d rest) others]

theorem underscored_of_word {text : Text} (h : ∀ c ∈ text, isWordChar c = true) :
    underscored text = text := by
  cases text with
  | nil => rfl
  | cons c rest =>
      rw [underscored, words_of_word (List.cons_ne_nil c rest) h, List.intercalate_singleton]

end Characters

section Breaks

variable {c : Char}

theorem words_cons_break (h : isWordChar c = false) (rest : Text) : words (c :: rest) = words rest := by
  rw [words, h, if_neg Bool.false_ne_true]

theorem startsWord_append_cons (h : isWordChar c = false) (before after : Text) :
    startsWord (before ++ c :: after) = startsWord before := by
  cases before with
  | nil => exact h
  | cons first rest => rfl

theorem words_ne_nil {text : Text} (h : startsWord text = true) : words text ≠ [] := by
  fun_cases words text with
  | case1 => cases h
  | case2 | case3 | case4 => exact List.cons_ne_nil _ _
  | case5 c rest other => exact absurd h other

/-- No word goes on across a break. -/
theorem words_append_cons (h : isWordChar c = false) (before after : Text) :
    words (before ++ c :: after) = words before ++ words after := by
  induction before with
  | nil => exact words_cons_break h after
  | cons first rest ih =>
      -- What follows the first character matters only for whether its word goes on.
      rw [List.cons_append, words, words, startsWord_append_cons h, ih]
      split
      next isWord =>
        split
        next starts =>
          obtain ⟨word, others, found⟩ := List.exists_cons_of_ne_nil (words_ne_nil starts)
          rw [found]
          rfl
        next => rfl
      next => rfl

theorem words_commaList (parts : List Text) : words (commaList parts) = parts.flatMap words := by
  induction parts with
  | nil => rfl
  | cons part rest ih =>
      cases rest with
      | nil => rw [commaList, List.intercalate_singleton, List.flatMap_singleton]
      | cons next more =>
          rw [commaList_cons_cons, words_append_cons rfl, words_cons_break rfl, ih]
          exact List.flatMap_cons.symm

/-- Breaks may be exchanged for other breaks. -/
theorem words_map {f : Char → Char}
    (h : ∀ c, f c = c ∨ isWordChar c = false ∧ isWordChar (f c) = false) (text : Text) :
    words (text.map f) = words text := by
  induction text with
  | nil => rfl
  | cons first rest ih =>
      have starts : startsWord (rest.map f) = startsWord rest := by
        cases rest with
        | nil => rfl
        | cons second more =>
            rcases h second with same | ⟨other, mapped⟩
            · rw [List.map_cons, same, startsWord, startsWord]
            · rw [List.map_cons, startsWord, startsWord, other, mapped]
      rcases h first with same | ⟨other, mapped⟩
      · rw [List.map_cons, same, words, words, starts, ih]
      · rw [List.map_cons, words_cons_break mapped, words_cons_break other, ih]

end Breaks

end Injector.Text
