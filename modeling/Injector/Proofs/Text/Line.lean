import Injector.Text
import Mathlib.Data.List.Basic
/-!
Lines and the text that is made of them. A line has no line feed in it, so lines that are each
ended by one can be told apart again.
-/
namespace Injector.Text

/-- Two lists are told apart where something first stands that neither has before. -/
theorem append_cons_inj_of_not_mem {α : Type} {stop : α} {before others after later : List α}
    (h : stop ∉ before) (h' : stop ∉ others)
    (same : before ++ stop :: after = others ++ stop :: later) :
    before = others ∧ after = later := by
  induction before generalizing others with
  | nil =>
      cases others with
      | nil => exact ⟨rfl, List.tail_eq_of_cons_eq same⟩
      | cons other others =>
          obtain rfl := List.head_eq_of_cons_eq same
          exact absurd List.mem_cons_self h'
  | cons item before ih =>
      cases others with
      | nil =>
          obtain rfl := List.head_eq_of_cons_eq same
          exact absurd List.mem_cons_self h
      | cons other others =>
          obtain rfl := List.head_eq_of_cons_eq same
          obtain ⟨rfl, rest⟩ := ih (List.not_mem_of_not_mem_cons h)
            (List.not_mem_of_not_mem_cons h') (List.tail_eq_of_cons_eq same)
          exact ⟨rfl, rest⟩

/-- The text in which every line is ended by a line feed. -/
def unlines (lines : List Text) : Text :=
  lines.flatMap fun line => line ++ ['\n']

theorem unlines_cons (line : Text) (rest : List Text) :
    unlines (line :: rest) = line ++ '\n' :: unlines rest := by
  rw [unlines, List.flatMap_cons, List.append_assoc, List.singleton_append, unlines]

theorem unlines_append (lines more : List Text) :
    unlines (lines ++ more) = unlines lines ++ unlines more :=
  List.flatMap_append

theorem unlines_inj {lines others : List Text} (h : ∀ line ∈ lines, '\n' ∉ line)
    (h' : ∀ line ∈ others, '\n' ∉ line) : unlines lines = unlines others ↔ lines = others := by
  refine ⟨fun same => ?_, congrArg unlines⟩
  induction lines generalizing others with
  | nil =>
      cases others with
      | nil => rfl
      | cons other others =>
          rw [unlines_cons] at same
          exact absurd same.symm (List.append_ne_nil_of_right_ne_nil _ (List.cons_ne_nil _ _))
  | cons line lines ih =>
      obtain ⟨plain, rest⟩ := List.forall_mem_cons.mp h
      cases others with
      | nil =>
          rw [unlines_cons] at same
          exact absurd same (List.append_ne_nil_of_right_ne_nil _ (List.cons_ne_nil _ _))
      | cons other others =>
          obtain ⟨plainOther, restOthers⟩ := List.forall_mem_cons.mp h'
          rw [unlines_cons, unlines_cons] at same
          obtain ⟨rfl, tail⟩ := append_cons_inj_of_not_mem plain plainOther same
          rw [ih rest restOthers tail]

theorem lines_cons {c : Char} {rest : Text} (plain : c ≠ '\n')
    (apart : c = '\r' → rest.head? ≠ some '\n') :
    lines (c :: rest) = prependToFirst c (lines rest) := by
  rw [lines]
  · exact plain
  · rintro later rfl rfl
    exact apart rfl rfl

/-- A line without a line feed that does not end in a carriage return is read off the front. -/
theorem lines_append_newline {line : Text} (plain : '\n' ∉ line)
    (ends : line.getLast? ≠ some '\r') (rest : Text) :
    lines (line ++ '\n' :: rest) = line :: lines rest := by
  induction line with
  | nil => rw [List.nil_append, lines]
  | cons c line ih =>
      rw [List.mem_cons, not_or] at plain
      have inner : line.getLast? ≠ some '\r' := by
        intro same
        apply ends
        rw [List.getLast?_cons, same, Option.getD_some]
      have apart : c = '\r' → (line ++ '\n' :: rest).head? ≠ some '\n' := by
        rintro rfl same
        cases line with
        | nil => exact ends rfl
        | cons d line =>
            obtain rfl : d = '\n' := Option.some.inj same
            exact plain.2 List.mem_cons_self
      rw [List.cons_append, lines_cons (Ne.symm plain.1) apart, ih plain.2 inner, prependToFirst]

/-- The end of the text ends a last line. -/
theorem lines_of_line {line : Text} (plain : '\n' ∉ line) (some_char : line ≠ []) :
    lines line = [line] := by
  induction line with
  | nil => exact absurd rfl some_char
  | cons c line ih =>
      rw [List.mem_cons, not_or] at plain
      have apart : c = '\r' → line.head? ≠ some '\n' :=
        fun _ same => plain.2 (List.mem_of_head? same)
      rw [lines_cons (Ne.symm plain.1) apart]
      cases line with
      | nil => rfl
      | cons d line => rw [ih plain.2 (List.cons_ne_nil d line), prependToFirst]

/-- Lines that are joined by line feeds are told apart again, unless one of them ends in a carriage
return or is empty. -/
theorem lines_intercalate {all : List Text} (plain : ∀ line ∈ all, '\n' ∉ line)
    (ends : ∀ line ∈ all, ∃ last ∈ line.getLast?, last ≠ '\r') :
    lines (['\n'].intercalate all) = all := by
  induction all with
  | nil => rfl
  | cons line rest ih =>
      obtain ⟨plainLine, plainRest⟩ := List.forall_mem_cons.mp plain
      obtain ⟨⟨last, found, other⟩, endsRest⟩ := List.forall_mem_cons.mp ends
      cases rest with
      | nil =>
          rw [List.intercalate_singleton]
          exact lines_of_line plainLine (List.ne_nil_of_mem (List.mem_of_getLast? found))
      | cons next more =>
          have open_end : line.getLast? ≠ some '\r' := by
            rw [Option.mem_def.mp found]
            exact fun same => other (Option.some.inj same)
          rw [List.intercalate_cons_cons, List.append_assoc, List.singleton_append,
            lines_append_newline plainLine open_end, ih plainRest endsRest]

theorem forall_mem_prependToFirst {c : Char} {lines : List Text} (plain : c ≠ '\n')
    (h : ∀ line ∈ lines, '\n' ∉ line) : ∀ line ∈ prependToFirst c lines, '\n' ∉ line := by
  cases lines with
  | nil =>
      rw [prependToFirst, List.forall_mem_singleton, List.mem_singleton]
      exact plain.symm
  | cons line rest =>
      obtain ⟨first, others⟩ := List.forall_mem_cons.mp h
      rw [prependToFirst, List.forall_mem_cons]
      exact ⟨List.not_mem_cons_of_ne_of_not_mem plain.symm first, others⟩

theorem forall_mem_lines (text : Text) : ∀ line ∈ lines text, '\n' ∉ line := by
  fun_induction lines text with
  | case1 => exact List.forall_mem_nil _
  | case2 rest ih => exact List.forall_mem_cons.mpr ⟨List.not_mem_nil, ih⟩
  | case3 rest ih => exact List.forall_mem_cons.mpr ⟨List.not_mem_nil, ih⟩
  | case4 c rest plain _ ih => exact forall_mem_prependToFirst plain ih

section LineEnds

/-- The text with a carriage return before every line feed. -/
def withCarriageReturns (text : Text) : Text :=
  text.flatMap fun c => if c = '\n' then ['\r', '\n'] else [c]

/-- Carriage returns that stand before line feeds only end the same lines. -/
theorem lines_withCarriageReturns {text : Text} (plain : '\r' ∉ text) :
    lines (withCarriageReturns text) = lines text := by
  induction text with
  | nil => rfl
  | cons c rest ih =>
      rw [List.mem_cons, not_or] at plain
      have later := ih plain.2
      rw [withCarriageReturns] at later
      rw [withCarriageReturns, List.flatMap_cons]
      split_ifs with feed
      · subst feed
        rw [List.cons_append, List.singleton_append, lines, lines, later]
      · have apart : ∀ after : Text, c = '\r' → after.head? ≠ some '\n' :=
          fun _ same => absurd same.symm plain.1
        rw [List.singleton_append, lines_cons feed (apart _), lines_cons feed (apart _), later]

/-- A line feed at the end of the text ends its last line, unless that line was ended before. -/
theorem lines_append_final_newline {text : Text} {last : Char} (found : text.getLast? = some last)
    (feed : last ≠ '\n') (carriage : last ≠ '\r') : lines (text ++ ['\n']) = lines text := by
  -- The last character is that of the rest, except where the rest is empty.
  have inner : ∀ {c : Char} {rest : Text}, (c :: rest).getLast? = some last → c ≠ last →
      rest.getLast? = some last := by
    intro c rest found differ
    cases rest with
    | nil => exact absurd (Option.some.inj found) differ
    | cons d rest => exact found
  fun_induction lines text with
  | case1 => cases found
  | case2 rest ih => rw [List.cons_append, lines, ih (inner found feed.symm)]
  | case3 rest ih =>
      rw [List.cons_append, List.cons_append, lines,
        ih (inner (inner found carriage.symm) feed.symm)]
  | case4 c rest plain apart ih =>
      cases rest with
      | nil =>
          obtain rfl := Option.some.inj found
          rw [List.singleton_append, lines_cons plain fun same => absurd same carriage]
          rfl
      | cons d rest =>
          have still : c = '\r' → (d :: rest ++ ['\n']).head? ≠ some '\n' := by
            rintro rfl same
            exact apart rest rfl (congrArg (· :: rest) (Option.some.inj same))
          rw [List.cons_append, lines_cons plain still, ih found]

end LineEnds

/-- The last character of a text is there and can be seen. -/
def EndsVisibly (text : Text) : Prop :=
  ∃ last ∈ text.getLast?, isBlankChar last = false

theorem EndsVisibly.ne_nil {text : Text} (h : text.EndsVisibly) : text ≠ [] := by
  obtain ⟨last, found, -⟩ := h
  exact List.ne_nil_of_mem (List.mem_of_getLast? found)

theorem EndsVisibly.isBlank_eq_false {text : Text} (h : text.EndsVisibly) :
    isBlank text = false := by
  obtain ⟨last, found, visible⟩ := h
  exact List.all_eq_false.mpr ⟨last, List.mem_of_getLast? found, by rw [visible]; decide⟩

theorem endsVisibly_append (text : Text) {ending : Text} {last : Char}
    (found : ending.getLast? = some last) (visible : isBlankChar last = false) :
    (text ++ ending).EndsVisibly :=
  ⟨last, by rw [List.getLast?_append, found, Option.some_or, Option.mem_def], visible⟩

theorem lines_intercalate_of_visible {all : List Text} (plain : ∀ line ∈ all, '\n' ∉ line)
    (visible : ∀ line ∈ all, line.EndsVisibly) : lines (['\n'].intercalate all) = all := by
  refine lines_intercalate plain fun line mem => ?_
  obtain ⟨last, found, shown⟩ := visible line mem
  refine ⟨last, found, ?_⟩
  rintro rfl
  exact absurd shown (by decide)

end Injector.Text
