import Injector.Text.Quoted
import Mathlib.Data.List.Basic
import Mathlib.Tactic.SplitIfs
/-!
Quoted text is read back. Whichever characters are plain, the text between the quotes has no line
feed and no quote that is not marked, and undoing its escapes gives back what was quoted.
-/
namespace Injector.Text

section Escapes

/-- How far an escape has been read. -/
inductive EscapeState where
  | outside
  /-- After the backslash. -/
  | marked
  /-- After the letter that announces a code point. -/
  | announced
  /-- Among the digits of a code point. -/
  | digits (read : Text)

/-- The character that a letter after a backslash stands for. -/
def escapedBy? (c : Char) : Option Char :=
  match c with
  | '0' => some '\x00'
  | 't' => some '\t'
  | 'r' => some '\r'
  | 'n' => some '\n'
  | '"' => some '"'
  | '\\' => some '\\'
  | _ => none

/-- The text with its escapes undone, from some point of an escape on; a quote that is not marked
is refused. -/
def unescapeFrom : EscapeState → Text → Option Text
  | .outside, [] => some []
  | _, [] => none
  | .outside, c :: rest =>
      if c = '\\' then unescapeFrom .marked rest
      else if c = '"' then none
      else (unescapeFrom .outside rest).map (c :: ·)
  | .marked, c :: rest =>
      if c = 'u' then unescapeFrom .announced rest
      else (escapedBy? c).bind fun char => (unescapeFrom .outside rest).map (char :: ·)
  | .announced, c :: rest => if c = '\x7b' then unescapeFrom (.digits []) rest else none
  | .digits read, c :: rest =>
      if c = '\x7d' ∧ read ≠ [] then
        (charOfHex? read).bind fun char => (unescapeFrom .outside rest).map (char :: ·)
      else unescapeFrom (.digits (read ++ [c])) rest

/-- The text with its escapes undone. -/
def unescaped? (text : Text) : Option Text :=
  unescapeFrom .outside text

/-- Whether a text has a quote that no backslash marks; a backslash marks the character after it,
be it a backslash. -/
def hasBareQuote : Text → Bool
  | [] => false
  | '\\' :: _ :: rest => hasBareQuote rest
  | c :: rest => c == '"' || hasBareQuote rest

end Escapes

section Digits

theorem hexDigit?_digitChar : ∀ digit < 16, hexDigit? digit.digitChar = some digit := by
  decide

theorem mem_toDigits {n : Nat} {c : Char} (h : c ∈ Nat.toDigits 16 n) :
    ∃ digit < 16, c = Nat.digitChar digit := by
  induction n using Nat.strongRecOn with
  | ind n ih =>
      rcases Nat.lt_or_ge n 16 with small | large
      · rw [Nat.toDigits_of_lt_base small, List.mem_singleton] at h
        exact ⟨n, small, h⟩
      · rw [Nat.toDigits_of_base_le (by decide) large, List.mem_append, List.mem_singleton] at h
        rcases h with before | last
        · exact ih (n / 16) (Nat.div_lt_self (by omega) (by decide)) before
        · exact ⟨n % 16, Nat.mod_lt n (by decide), last⟩

theorem charOfHex?_toDigits (c : Char) : charOfHex? (Nat.toDigits 16 c.toNat) = some c := by
  have value : ∀ n, (Nat.toDigits 16 n).foldlM
      (fun sum c => (hexDigit? c).map (16 * sum + ·)) 0 = some n := by
    intro n
    induction n using Nat.strongRecOn with
    | ind n ih =>
        rcases Nat.lt_or_ge n 16 with small | large
        · rw [Nat.toDigits_of_lt_base small, List.foldlM_cons, hexDigit?_digitChar n small]
          simp
        · have less : n / 16 < n := Nat.div_lt_self (by omega) (by decide)
          have last := hexDigit?_digitChar (n % 16) (Nat.mod_lt n (by decide))
          rw [Nat.toDigits_of_base_le (by decide) large, List.foldlM_append, ih (n / 16) less]
          simp [last, Nat.div_add_mod]
  have valid : c.toNat.isValidChar := c.valid
  rw [charOfHex?, value, Option.bind_eq_bind, Option.bind_some, if_pos valid, Char.ofNat_toNat]
  rfl

end Digits

section Characters

variable (plain : Char → Bool) (c : Char)

/-- A character is written as itself, as a backslash with a letter that stands for it, or by its
code point. -/
theorem quotedCharBy_cases :
    quotedCharBy plain c = [c] ∧ c ≠ '\n' ∧ c ≠ '"' ∧ c ≠ '\\' ∨
      (∃ letter, quotedCharBy plain c = ['\\', letter] ∧ letter ≠ '\n' ∧ letter ≠ 'u' ∧
        escapedBy? letter = some c) ∨
      quotedCharBy plain c = '\\' :: 'u' :: '\x7b' :: (Nat.toDigits 16 c.toNat ++ ['\x7d']) := by
  rw [quotedCharBy]
  split_ifs with zero tab carriage feed marked shown
  · exact .inr (.inl ⟨'0', rfl, by decide, by decide, congrArg some zero.symm⟩)
  · exact .inr (.inl ⟨'t', rfl, by decide, by decide, congrArg some tab.symm⟩)
  · exact .inr (.inl ⟨'r', rfl, by decide, by decide, congrArg some carriage.symm⟩)
  · exact .inr (.inl ⟨'n', rfl, by decide, by decide, congrArg some feed.symm⟩)
  · refine .inr (.inl ⟨c, rfl, feed, ?_, ?_⟩)
    · rcases marked with rfl | rfl <;> decide
    · rcases marked with rfl | rfl <;> rfl
  · rw [not_or] at marked
    exact .inl ⟨rfl, feed, marked.1, marked.2⟩
  · exact .inr (.inr rfl)

theorem digitChar_ne : ∀ digit < 16, Nat.digitChar digit ≠ '\n' ∧ Nat.digitChar digit ≠ '"' ∧
    Nat.digitChar digit ≠ '\\' ∧ Nat.digitChar digit ≠ '\x7d' := by
  decide

theorem newline_not_mem_quotedCharBy : '\n' ∉ quotedCharBy plain c := by
  rcases quotedCharBy_cases plain c with ⟨same, feed, -⟩ | ⟨letter, same, feed, -⟩ | same
  · rw [same, List.mem_singleton]
    exact feed.symm
  · rw [same]
    simp [feed.symm]
  · intro mem
    simp only [same, List.mem_cons, List.mem_append, List.not_mem_nil, or_false, Char.reduceEq,
      false_or] at mem
    obtain ⟨digit, small, is_digit⟩ := mem_toDigits mem
    exact (digitChar_ne digit small).1 is_digit.symm

theorem hasBareQuote_append {before : Text} (h : ∀ c ∈ before, c ≠ '"' ∧ c ≠ '\\')
    (rest : Text) : hasBareQuote (before ++ rest) = hasBareQuote rest := by
  induction before with
  | nil => rfl
  | cons c before ih =>
      obtain ⟨first, others⟩ := List.forall_mem_cons.mp h
      rw [List.cons_append, hasBareQuote, ih others, beq_false_of_ne first.1, Bool.false_or]
      rintro _ _ rfl
      exact absurd rfl first.2

theorem hasBareQuote_quotedCharBy_append (rest : Text) :
    hasBareQuote (quotedCharBy plain c ++ rest) = hasBareQuote rest := by
  rcases quotedCharBy_cases plain c with ⟨same, -, apart⟩ | ⟨letter, same, -⟩ | same
  · rw [same]
    exact hasBareQuote_append (List.forall_mem_singleton.mpr apart) rest
  · rw [same]
    rfl
  · have digits : ∀ d ∈ '\x7b' :: (Nat.toDigits 16 c.toNat ++ ['\x7d']), d ≠ '"' ∧ d ≠ '\\' := by
      rw [List.forall_mem_cons, List.forall_mem_append, List.forall_mem_singleton]
      refine ⟨by decide, fun d mem => ?_, by decide⟩
      obtain ⟨digit, small, rfl⟩ := mem_toDigits mem
      exact ⟨(digitChar_ne digit small).2.1, (digitChar_ne digit small).2.2.1⟩
    rw [same]
    exact hasBareQuote_append digits rest

theorem unescapeFrom_digits {digits : Text} (h : '\x7d' ∉ digits) (read : Text)
    (some_digit : read ++ digits ≠ []) (rest : Text) :
    unescapeFrom (.digits read) (digits ++ '\x7d' :: rest) =
      (charOfHex? (read ++ digits)).bind fun char =>
        (unescapeFrom .outside rest).map (char :: ·) := by
  induction digits generalizing read with
  | nil =>
      rw [List.append_nil] at some_digit ⊢
      rw [List.nil_append, unescapeFrom, if_pos ⟨rfl, some_digit⟩]
  | cons d digits ih =>
      rw [List.mem_cons, not_or] at h
      have next : read ++ [d] ++ digits = read ++ d :: digits :=
        (List.append_cons read d digits).symm
      rw [List.cons_append, unescapeFrom, if_neg fun closes => h.1 closes.1.symm,
        ih h.2 _ (next ▸ some_digit), next]

/-- The written form of a character is read back, whatever comes after it. -/
theorem unescapeFrom_quotedCharBy_append (rest : Text) :
    unescapeFrom .outside (quotedCharBy plain c ++ rest) =
      (unescapeFrom .outside rest).map (c :: ·) := by
  rcases quotedCharBy_cases plain c with
    ⟨same, -, quote, mark⟩ | ⟨letter, same, -, other, stands⟩ | same
  · rw [same, List.singleton_append, unescapeFrom, if_neg mark, if_neg quote]
  · rw [same, List.cons_append, List.singleton_append, unescapeFrom, if_pos rfl, unescapeFrom,
      if_neg other, stands, Option.bind_some]
  · have closes : '\x7d' ∉ Nat.toDigits 16 c.toNat := by
      intro mem
      obtain ⟨digit, small, same⟩ := mem_toDigits mem
      exact (digitChar_ne digit small).2.2.2 same.symm
    have code := unescapeFrom_digits closes [] Nat.toDigits_ne_nil rest
    rw [List.nil_append, charOfHex?_toDigits, Option.bind_some] at code
    rw [same, ← code]
    simp [unescapeFrom]

end Characters

section Texts

variable (plain : Char → Bool) (text : Text)

/-- What stands between the quotes. -/
def quotedInner : Text :=
  text.flatMap (quotedCharBy plain)

theorem quotedBy_eq : quotedBy plain text = '"' :: quotedInner plain text ++ ['"'] :=
  rfl

theorem newline_not_mem_quotedInner : '\n' ∉ quotedInner plain text := by
  intro mem
  obtain ⟨c, -, inside⟩ := List.mem_flatMap.mp mem
  exact newline_not_mem_quotedCharBy plain c inside

theorem hasBareQuote_quotedInner : hasBareQuote (quotedInner plain text) = false := by
  induction text with
  | nil => rfl
  | cons c rest ih =>
      rw [quotedInner, List.flatMap_cons, hasBareQuote_quotedCharBy_append]
      exact ih

theorem unescaped?_quotedInner : unescaped? (quotedInner plain text) = some text := by
  induction text with
  | nil => rfl
  | cons c rest ih =>
      rw [unescaped?, quotedInner] at ih
      rw [unescaped?, quotedInner, List.flatMap_cons, unescapeFrom_quotedCharBy_append, ih,
        Option.map_some]

/-- Different texts are quoted differently. -/
theorem quotedBy_injective : Function.Injective (quotedBy plain) := by
  intro text other same
  rw [quotedBy_eq, quotedBy_eq, List.cons_append, List.cons_append, List.cons.injEq] at same
  have inner : quotedInner plain text = quotedInner plain other :=
    List.append_cancel_right same.2
  have read := congrArg unescaped? inner
  rw [unescaped?_quotedInner, unescaped?_quotedInner] at read
  exact Option.some.inj read

end Texts

end Injector.Text
