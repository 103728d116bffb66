import Injector.Proofs.Text.Words
import Mathlib.Logic.ExistsUnique
import Mathlib.Tactic.SplitIfs
/-!
Underscored text. The words of a text are its longest runs of ASCII letters and digits, and
underscored text is these runs with one underscore between neighbours. So it has no underscore that
could be left out, it is what a single pass over the text writes, and a gap in the text counts for
as much as an underscore does.
-/
namespace Injector.Text

section Runs

/-- A stretch without a character of a word. It may be empty. -/
def IsGap (text : Text) : Prop :=
  ∀ c ∈ text, isWordChar c = false

instance (text : Text) : Decidable (IsGap text) :=
  List.decidableBAll (fun c => isWordChar c = false) text

/-- Characters of a word, one of them at least. -/
structure IsRun (text : Text) : Prop where
  ne_nil : text ≠ []
  inside : ∀ c ∈ text, isWordChar c = true

/-- A text and its longest runs, in reading order. Before each run there is a gap, and what comes
after it begins with no character by which it could be longer. -/
inductive HasRuns : Text → List Text → Prop
  | gap {text : Text} : IsGap text → HasRuns text []
  | run {gap run rest : Text} {runs : List Text} : IsGap gap → IsRun run →
      (∀ c ∈ rest.head?, isWordChar c = false) → HasRuns rest runs →
      HasRuns (gap ++ run ++ rest) (run :: runs)

variable {text : Text} {runs : List Text} {c : Char}

theorem words_gap_append {gap : Text} (apart : IsGap gap) (rest : Text) :
    words (gap ++ rest) = words rest := by
  induction gap with
  | nil => rfl
  | cons first more ih =>
      obtain ⟨other, others⟩ := List.forall_mem_cons.mp apart
      rw [List.cons_append, words_cons_break other, ih others]

theorem words_run_append {run rest : Text} (isRun : IsRun run)
    (ends : ∀ c ∈ rest.head?, isWordChar c = false) : words (run ++ rest) = run :: words rest := by
  have alone : words run = [run] := words_of_word isRun.ne_nil isRun.inside
  cases rest with
  | nil => rw [List.append_nil, alone, words]
  | cons first more =>
      have other : isWordChar first = false := ends first rfl
      rw [words_append_cons other, alone, words_cons_break other, List.singleton_append]

theorem HasRuns.words_eq (h : HasRuns text runs) : words text = runs := by
  induction h with
  | gap apart => simpa [words] using words_gap_append apart []
  | run apart isRun ends _ ih =>
      rw [List.append_assoc, words_gap_append apart, words_run_append isRun ends, ih]

theorem HasRuns.cons_break (h : HasRuns text runs) (other : isWordChar c = false) :
    HasRuns (c :: text) runs := by
  cases h with
  | gap apart => exact .gap (List.forall_mem_cons.mpr ⟨other, apart⟩)
  | @run gap run rest runs apart isRun ends more =>
      change HasRuns ((c :: gap) ++ run ++ rest) (run :: runs)
      exact .run (List.forall_mem_cons.mpr ⟨other, apart⟩) isRun ends more

/-- A text begins with its first run unless there is a gap before that. -/
theorem startsWord_run {gap run : Text} (apart : IsGap gap) (isRun : IsRun run) (rest : Text) :
    startsWord (gap ++ run ++ rest) = gap.isEmpty := by
  cases gap with
  | nil =>
      obtain ⟨first, more, rfl⟩ := List.exists_cons_of_ne_nil isRun.ne_nil
      exact isRun.inside first List.mem_cons_self
  | cons first more => exact apart first List.mem_cons_self

theorem HasRuns.cons_run {run : Text} (h : HasRuns text (run :: runs))
    (starts : startsWord text = true) (isWord : isWordChar c = true) :
    HasRuns (c :: text) ((c :: run) :: runs) := by
  cases h with
  | @run gap _ rest _ apart isRun ends more =>
      rw [startsWord_run apart isRun, List.isEmpty_iff] at starts
      subst starts
      change HasRuns ([] ++ (c :: run) ++ rest) ((c :: run) :: runs)
      refine .run (List.forall_mem_nil _) ⟨List.cons_ne_nil c run, ?_⟩ ends more
      exact List.forall_mem_cons.mpr ⟨isWord, isRun.inside⟩

theorem startsWord_eq_false_iff :
    startsWord text = false ↔ ∀ c ∈ text.head?, isWordChar c = false := by
  cases text <;> simp [startsWord]

theorem hasRuns_words (text : Text) : HasRuns text (words text) := by
  fun_induction words text with
  | case1 => exact .gap (List.forall_mem_nil _)
  | case2 c rest isWord starts word others found ih =>
      rw [found] at ih
      exact ih.cons_run starts isWord
  | case3 c rest _ starts none => exact absurd none (words_ne_nil starts)
  | case4 c rest isWord ends ih =>
      change HasRuns ([] ++ [c] ++ rest) ([c] :: words rest)
      have isRun : IsRun [c] := ⟨List.cons_ne_nil c [], List.forall_mem_singleton.mpr isWord⟩
      rw [Bool.not_eq_true] at ends
      exact .run (List.forall_mem_nil _) isRun (startsWord_eq_false_iff.mp ends) ih
  | case5 c rest other ih =>
      rw [Bool.not_eq_true] at other
      exact ih.cons_break other

theorem words_eq_iff : words text = runs ↔ HasRuns text runs := by
  constructor
  · rintro rfl
    exact hasRuns_words text
  · exact HasRuns.words_eq

theorem HasRuns.isRun (h : HasRuns text runs) : ∀ run ∈ runs, IsRun run := by
  induction h with
  | gap => exact List.forall_mem_nil _
  | run _ isRun _ _ ih => exact List.forall_mem_cons.mpr ⟨isRun, ih⟩

theorem words_eq_nil_iff : words text = [] ↔ IsGap text := by
  rw [words_eq_iff]
  constructor
  · intro h
    cases h
    assumption
  · exact HasRuns.gap

/-- A gap between two texts keeps their words apart. -/
theorem words_append_gap {gap : Text} (some_char : gap ≠ []) (apart : IsGap gap)
    (before after : Text) : words (before ++ gap ++ after) = words before ++ words after := by
  obtain ⟨first, more, rfl⟩ := List.exists_cons_of_ne_nil some_char
  obtain ⟨other, others⟩ := List.forall_mem_cons.mp apart
  rw [List.append_assoc, List.cons_append, words_append_cons other, words_gap_append others]

end Runs

section Joining

/-- Two texts with an underscore between them, unless one of them is empty. -/
def joined (before after : Text) : Text :=
  if before = [] then after
  else if after = [] then before
  else before ++ '_' :: after

@[simp]
theorem nil_joined (after : Text) : joined [] after = after :=
  if_pos rfl

@[simp]
theorem joined_nil (before : Text) : joined before [] = before := by
  cases before <;> simp [joined]

theorem joined_of_ne_nil {before after : Text} (some_before : before ≠ [])
    (some_after : after ≠ []) : joined before after = before ++ '_' :: after := by
  rw [joined, if_neg some_before, if_neg some_after]

theorem joined_assoc (first second third : Text) :
    joined (joined first second) third = joined first (joined second third) := by
  by_cases no_first : first = []
  · rw [no_first, nil_joined, nil_joined]
  by_cases no_second : second = []
  · rw [no_second, joined_nil, nil_joined]
  by_cases no_third : third = []
  · rw [no_third, joined_nil, joined_nil]
  simp [joined_of_ne_nil, no_first, no_second, no_third]

variable {runs : List Text}

theorem intercalate_eq_nil_iff (each : ∀ run ∈ runs, IsRun run) :
    ['_'].intercalate runs = [] ↔ runs = [] := by
  cases runs with
  | nil => simp
  | cons run rest => cases rest <;> simp [(each run List.mem_cons_self).ne_nil]

theorem intercalate_cons_eq_joined {run : Text} (each : ∀ part ∈ run :: runs, IsRun part) :
    ['_'].intercalate (run :: runs) = joined run (['_'].intercalate runs) := by
  obtain ⟨isRun, later⟩ := List.forall_mem_cons.mp each
  by_cases last : runs = []
  · rw [last, List.intercalate_singleton, List.intercalate_nil, joined_nil]
  · have shown : ['_'].intercalate runs ≠ [] := mt (intercalate_eq_nil_iff later).mp last
    rw [List.intercalate_cons_of_ne_nil last, joined_of_ne_nil isRun.ne_nil shown,
      List.append_assoc, List.singleton_append]

theorem intercalate_append_eq_joined {others : List Text}
    (each : ∀ run ∈ runs ++ others, IsRun run) :
    ['_'].intercalate (runs ++ others) =
      joined (['_'].intercalate runs) (['_'].intercalate others) := by
  induction runs with
  | nil => rw [List.nil_append, List.intercalate_nil, nil_joined]
  | cons run rest ih =>
      have here : ∀ part ∈ run :: rest, IsRun part :=
        fun part mem => each part (List.mem_append_left others mem)
      rw [List.cons_append] at each ⊢
      rw [intercalate_cons_eq_joined each, ih (List.forall_mem_cons.mp each).2, ← joined_assoc,
        ← intercalate_cons_eq_joined here]

theorem words_intercalate (each : ∀ run ∈ runs, IsRun run) :
    words (['_'].intercalate runs) = runs := by
  induction runs with
  | nil => rfl
  | cons run rest ih =>
      obtain ⟨isRun, later⟩ := List.forall_mem_cons.mp each
      have alone : words run = [run] := words_of_word isRun.ne_nil isRun.inside
      by_cases last : rest = []
      · rw [last, List.intercalate_singleton, alone]
      · rw [List.intercalate_cons_of_ne_nil last, List.append_assoc, List.singleton_append,
          words_append_cons rfl, alone, ih later, List.singleton_append]

theorem HasRuns.underscored_eq {text : Text} (h : HasRuns text runs) :
    underscored text = ['_'].intercalate runs := by
  rw [underscored, h.words_eq]

theorem underscored_eq_nil_iff {text : Text} : underscored text = [] ↔ IsGap text := by
  rw [underscored, intercalate_eq_nil_iff (hasRuns_words text).isRun, words_eq_nil_iff]

theorem underscored_underscored (text : Text) :
    underscored (underscored text) = underscored text := by
  have same : words (underscored text) = words text :=
    words_intercalate (hasRuns_words text).isRun
  rw [underscored, same, underscored]

theorem underscored_append_gap {gap : Text} (some_char : gap ≠ []) (apart : IsGap gap)
    (before after : Text) :
    underscored (before ++ gap ++ after) = joined (underscored before) (underscored after) := by
  have together := words_append_gap some_char apart before after
  have each := (hasRuns_words (before ++ gap ++ after)).isRun
  rw [together] at each
  rw [underscored, together, intercalate_append_eq_joined each, underscored, underscored]

end Joining

/-- A text that is underscored while it is read: what is written of it so far, and whether a break
was read after the last character of a word. -/
structure Underscoring where
  written : Text
  afterBreak : Bool

namespace Underscoring

def start : Underscoring :=
  ⟨[], false⟩

/-- What is written before the next character of a word. -/
def separator (state : Underscoring) : Text :=
  if state.afterBreak && !state.written.isEmpty then ['_'] else []

def read (state : Underscoring) (c : Char) : Underscoring :=
  if isWordChar c then ⟨state.written ++ state.separator ++ [c], false⟩
  else ⟨state.written, true⟩

section Pass

variable {c : Char} {text : Text}

theorem read_word (state : Underscoring) (h : isWordChar c = true) :
    state.read c = ⟨state.written ++ state.separator ++ [c], false⟩ := by
  rw [read, if_pos h]

theorem read_break (state : Underscoring) (h : isWordChar c = false) :
    state.read c = ⟨state.written, true⟩ := by
  rw [read, h, if_neg Bool.false_ne_true]

/-- Nothing is written in a gap. -/
theorem foldl_read_gap (apart : IsGap text) (state : Underscoring) :
    text.foldl read state = ⟨state.written, state.afterBreak || !text.isEmpty⟩ := by
  induction text generalizing state with
  | nil => simp
  | cons c rest ih =>
      obtain ⟨other, others⟩ := List.forall_mem_cons.mp apart
      rw [List.foldl_cons, read_break state other, ih others]
      simp

theorem foldl_read_inside (inside : ∀ c ∈ text, isWordChar c = true) (written : Text) :
    text.foldl read ⟨written, false⟩ = ⟨written ++ text, false⟩ := by
  induction text generalizing written with
  | nil => simp
  | cons c rest ih =>
      obtain ⟨isWord, later⟩ := List.forall_mem_cons.mp inside
      rw [List.foldl_cons, read_word _ isWord, ih later]
      simp [separator]

/-- A run is written as it is, after a separator. -/
theorem foldl_read_run (isRun : IsRun text) (state : Underscoring) :
    text.foldl read state = ⟨state.written ++ state.separator ++ text, false⟩ := by
  obtain ⟨c, rest, rfl⟩ := List.exists_cons_of_ne_nil isRun.ne_nil
  obtain ⟨isWord, later⟩ := List.forall_mem_cons.mp isRun.inside
  rw [List.foldl_cons, read_word state isWord, foldl_read_inside later]
  simp

theorem written_append_separator {state : Underscoring} (some_char : text ≠ [])
    (ready : state.written ≠ [] → state.afterBreak = true) :
    state.written ++ state.separator ++ text = joined state.written text := by
  by_cases empty : state.written = []
  · simp [separator, empty]
  · simp [separator, empty, ready empty, joined_of_ne_nil, some_char]

/-- What is written is only added to. The text that is read must not go on with the last word that
was written. -/
theorem written_foldl_read {runs : List Text} (h : HasRuns text runs) (state : Underscoring)
    (ended : state.written ≠ [] → state.afterBreak = true ∨ startsWord text = false) :
    (text.foldl read state).written = joined state.written (['_'].intercalate runs) := by
  -- After a run the flag is down, but what follows the run starts no word, so the invariant holds.
  induction h generalizing state with
  | gap apart => rw [foldl_read_gap apart, List.intercalate_nil, joined_nil]
  | @run gap run rest runs apart isRun ends more ih =>
      have ready : state.written ≠ [] → (state.afterBreak || !gap.isEmpty) = true := by
        intro some_written
        rcases ended some_written with broken | other
        · rw [broken, Bool.true_or]
        · rw [startsWord_run apart isRun] at other
          rw [other, Bool.not_false, Bool.or_true]
      have each := (HasRuns.run apart isRun ends more).isRun
      rw [List.foldl_append, List.foldl_append, foldl_read_gap apart, foldl_read_run isRun,
        ih _ fun _ => .inr (startsWord_eq_false_iff.mpr ends),
        written_append_separator isRun.ne_nil ready, joined_assoc, ← intercalate_cons_eq_joined each]

theorem written_pass (text : Text) : (text.foldl read start).written = underscored text := by
  rw [written_foldl_read (hasRuns_words text) start fun some_written => absurd rfl some_written,
    start, nil_joined, underscored]

/-- One character is written for each that is read, or an underscore is owed for it. -/
theorem length_read_le (state : Underscoring) (c : Char) :
    (state.read c).written.length + (state.read c).separator.length ≤
      state.written.length + state.separator.length + 1 := by
  cases isWord : isWordChar c with
  | true =>
      have none : separator ⟨state.written ++ state.separator ++ [c], false⟩ = [] := rfl
      rw [read_word state isWord, none, List.length_append, List.length_append]
      exact Nat.le_refl _
  | false =>
      have one : (separator ⟨state.written, true⟩).length ≤ 1 := by
        unfold separator
        split_ifs <;> simp
      rw [read_break state isWord]
      dsimp only
      omega

theorem length_foldl_read_le (text : Text) (state : Underscoring) :
    (text.foldl read state).written.length + (text.foldl read state).separator.length ≤
      state.written.length + state.separator.length + text.length := by
  induction text generalizing state with
  | nil => exact Nat.le_refl _
  | cons c rest ih =>
      have first := length_read_le state c
      have others := ih (state.read c)
      rw [List.foldl_cons, List.length_cons]
      omega

end Pass

end Underscoring

section Underscores

theorem length_underscored_le (text : Text) : (underscored text).length ≤ text.length := by
  have within := Underscoring.length_foldl_read_le text .start
  have nothing : Underscoring.start.written.length + Underscoring.start.separator.length = 0 := rfl
  rw [Underscoring.written_pass, nothing] at within
  omega

variable {text before gap after : Text}

/-- A gap in underscored text is a single character within it: any other could be left out, and the
text would be shorter without it. -/
theorem gap_in_underscored (found : underscored text = before ++ gap ++ after)
    (some_char : gap ≠ []) (apart : IsGap gap) :
    before ≠ [] ∧ gap.length = 1 ∧ after ≠ [] := by
  have fixed : underscored (before ++ gap ++ after) = before ++ gap ++ after := by
    rw [← found, underscored_underscored]
  have lengths := congrArg List.length fixed
  have before_le := length_underscored_le before
  have after_le := length_underscored_le after
  have gap_pos : 0 < gap.length := List.length_pos_iff.mpr some_char
  rw [underscored_append_gap some_char apart, joined] at lengths
  simp only [List.length_append] at lengths
  split_ifs at lengths with no_before no_after
  · omega
  · omega
  · simp only [List.length_append, List.length_cons] at lengths
    refine ⟨?_, by omega, ?_⟩
    · rintro rfl
      exact no_before rfl
    · rintro rfl
      exact no_after rfl

theorem head?_underscored_ne (text : Text) : (underscored text).head? ≠ some '_' := by
  intro h
  obtain ⟨rest, found⟩ := List.head?_eq_some_iff.mp h
  have found : underscored text = [] ++ ['_'] ++ rest := found
  exact (gap_in_underscored found (by decide) (by decide)).1 rfl

theorem getLast?_underscored_ne (text : Text) : (underscored text).getLast? ≠ some '_' := by
  intro h
  obtain ⟨rest, found⟩ := List.getLast?_eq_some_iff.mp h
  rw [← List.append_nil (rest ++ ['_'])] at found
  exact (gap_in_underscored found (by decide) (by decide)).2.2 rfl

theorem not_two_underscores (text : Text) : ¬ ['_', '_'] <:+: underscored text := by
  rintro ⟨before, after, found⟩
  exact absurd (gap_in_underscored found.symm (by decide) (by decide)).2.1 (by decide)

end Underscores

/-- Underscored text is the longest runs of ASCII letters and digits, joined by single underscores.
A single pass writes it, which sees one character at a time and keeps a flag that is up after a
break. It neither begins nor ends with an underscore, has no two of them next to each other, is empty if
and only if there is no run, and does not change if it is underscored again. Where a gap stands
between two texts, their underscored texts are joined. -/
theorem underscored_joins_runs :
    (∀ text : Text,
      (∃! runs, HasRuns text runs) ∧
      (∀ runs, HasRuns text runs → underscored text = ['_'].intercalate runs) ∧
      (text.foldl Underscoring.read .start).written = underscored text ∧
      (underscored text).head? ≠ some '_' ∧ (underscored text).getLast? ≠ some '_' ∧
      ¬ ['_', '_'] <:+: underscored text ∧
      (underscored text = [] ↔ ∀ c ∈ text, isWordChar c = false) ∧
      underscored (underscored text) = underscored text) ∧
    ∀ before gap after : Text, gap ≠ [] → IsGap gap →
      underscored (before ++ gap ++ after) =
        joined (underscored before) (underscored after) := by
  refine ⟨fun text => ⟨⟨words text, hasRuns_words text, fun runs h => h.words_eq.symm⟩, ?_⟩,
    fun before gap after some_char apart => underscored_append_gap some_char apart before after⟩
  exact ⟨fun runs h => h.underscored_eq, Underscoring.written_pass text,
    head?_underscored_ne text, getLast?_underscored_ne text, not_two_underscores text,
    underscored_eq_nil_iff, underscored_underscored text⟩

/-- Letters outside ASCII are in gaps, as underscores are, and there may be gaps at both ends. -/
theorem underscored_joins_runs_map :
    let text := " Map<é9, b_c>$".toList
    let runs := ["Map", "9", "b", "c"].map String.toList
    let gap := "<é".toList
    HasRuns text runs ∧ underscored text = ['_'].intercalate runs ∧
      gap ≠ [] ∧ IsGap gap ∧ text = " Map".toList ++ gap ++ "9, b_c>$".toList ∧
      underscored text = "Map".toList ++ '_' :: "9_b_c".toList := by
  intro text runs gap
  have shown : HasRuns text runs := words_eq_iff.mp (by decide)
  have some_char : gap ≠ [] := by decide
  have apart : IsGap gap := by decide
  obtain ⟨each, between⟩ := underscored_joins_runs
  refine ⟨shown, (each text).2.1 runs shown, some_char, apart, rfl, ?_⟩
  exact between " Map".toList gap "9, b_c>$".toList some_char apart

end Injector.Text
