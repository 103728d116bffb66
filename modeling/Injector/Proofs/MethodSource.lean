import Injector.ProviderBinding
import Injector.Proofs.Text.Line
import Mathlib.Data.List.Forall2
/-!
Methods are kept apart in a source. A body is indented, so the first line that is a closing brace
alone ends the method, and the source tells each signature and the lines of each body. It does not
tell how the lines of a body were ended.
-/
namespace Injector.MethodSource

section Blocks

/-- A method as a writer is given it. -/
structure Method where
  signature : Text
  body : Text

/-- The lines of a body, with each blank line as an empty one. -/
def bodyLines (body : Text) : List Text :=
  (Text.lines body).map fun line => if Text.isBlank line then [] else line

/-- Methods are alike if they have the same signature and the same lines in their bodies, up to what
blank lines are made of. -/
def Method.Alike (method other : Method) : Prop :=
  method.signature = other.signature ∧ bodyLines method.body = bodyLines other.body

instance : DecidableRel Method.Alike :=
  fun _ _ => inferInstanceAs (Decidable (_ ∧ _))

/-- The source that some methods are written to, one after the other. -/
def ofMethods (indent : Nat) (methods : List Method) : MethodSource :=
  methods.foldl (fun source method => source.write method.signature method.body)
    (.withIndent indent)

/-- A line that is moved to the right, unless it is empty. -/
def indented (indent : Nat) (line : Text) : Text :=
  if line = [] then [] else List.replicate indent ' ' ++ line

def closingBrace : Text := ['\x7d']

/-- The lines of a method in a source, with the empty line after it. -/
def blockLines (indent : Nat) (method : Method) : List Text :=
  (method.signature ++ " \x7b".toList) ::
    ((bodyLines method.body).map (indented indent) ++ [closingBrace, []])

end Blocks

section Lines

theorem indented_injective (indent : Nat) : Function.Injective (indented indent) := by
  intro line other same
  unfold indented at same
  split_ifs at same with empty emptyOther emptyOther
  · rw [empty, emptyOther]
  · exact absurd (List.append_eq_nil_iff.mp same.symm).2 emptyOther
  · exact absurd (List.append_eq_nil_iff.mp same).2 empty
  · exact List.append_cancel_left same

/-- A line of a body does not look like the end of its method. -/
theorem indented_ne_closingBrace {indent : Nat} (positive : 1 ≤ indent) (line : Text) :
    indented indent line ≠ closingBrace := by
  obtain ⟨less, rfl⟩ := Nat.exists_eq_add_of_le' positive
  rw [indented]
  split_ifs with empty
  · exact (List.cons_ne_nil _ _).symm
  · rw [List.replicate_succ, List.cons_append, closingBrace]
    exact fun same => absurd (List.head_eq_of_cons_eq same) (by decide)

theorem not_mem_indented {indent : Nat} {line : Text} (h : '\n' ∉ line) :
    '\n' ∉ indented indent line := by
  rw [indented]
  split_ifs with empty
  · exact List.not_mem_nil
  · rw [List.mem_append, List.mem_replicate]
    rintro (⟨-, same⟩ | inside)
    · exact absurd same (by decide)
    · exact h inside

theorem forall_mem_bodyLines (body : Text) : ∀ line ∈ bodyLines body, '\n' ∉ line := by
  intro line mem
  obtain ⟨source, inside, rfl⟩ := List.mem_map.mp mem
  split_ifs
  · exact List.not_mem_nil
  · exact Text.forall_mem_lines body source inside

theorem forall_mem_blockLines (indent : Nat) {method : Method} (plain : '\n' ∉ method.signature) :
    ∀ line ∈ blockLines indent method, '\n' ∉ line := by
  rw [blockLines, List.forall_mem_cons, List.forall_mem_append, List.forall_mem_map]
  refine ⟨?_, fun line mem => not_mem_indented (forall_mem_bodyLines _ line mem), by decide⟩
  rw [List.mem_append]
  exact not_or.mpr ⟨plain, by decide⟩

theorem bodyLine_eq (indent : Nat) (line : Text) :
    bodyLine indent line =
      indented indent (if Text.isBlank line then [] else line) ++ ['\n'] := by
  rw [bodyLine]
  split_ifs with blank
  · rfl
  · have some_char : line ≠ [] := by
      rintro rfl
      exact blank rfl
    rw [indented, if_neg some_char]

/-- A method is written line by line. -/
theorem methodText_eq (indent : Nat) (method : Method) :
    methodText indent method.signature method.body = Text.unlines (blockLines indent method) := by
  have body : (Text.lines method.body).flatMap (bodyLine indent) =
      Text.unlines ((bodyLines method.body).map (indented indent)) := by
    rw [Text.unlines, bodyLines, List.map_map, List.flatMap_map]
    exact List.flatMap_congr fun line _ => bodyLine_eq indent line
  rw [methodText, body, blockLines, Text.unlines_cons, Text.unlines_append]
  simp [Text.unlines, closingBrace]

/-- A body of visible lines is written with each line moved to the right. -/
theorem blockLines_of_visible {indent : Nat} {method : Method} {all : List Text}
    (lines : Text.lines method.body = all) (visible : ∀ line ∈ all, line.EndsVisibly) :
    blockLines indent method =
      (method.signature ++ " \x7b".toList) ::
        (all.map (List.replicate indent ' ' ++ ·) ++ [closingBrace, []]) := by
  have moved : ∀ line ∈ all,
      (indented indent ∘ fun line => if Text.isBlank line then [] else line) line =
        List.replicate indent ' ' ++ line := by
    intro line mem
    have shown := visible line mem
    rw [Function.comp_apply, shown.isBlank_eq_false, if_neg Bool.false_ne_true, indented,
      if_neg shown.ne_nil]
  rw [blockLines, bodyLines, lines, List.map_map, List.map_congr_left moved]

theorem text_ofMethods (indent : Nat) (methods : List Method) :
    (ofMethods indent methods).text = Text.unlines (methods.flatMap (blockLines indent)) := by
  -- By induction on the methods, from any source that some were written to before.
  suffices appended : ∀ source : MethodSource, source.indent = indent →
      (methods.foldl (fun source method => source.write method.signature method.body) source).text =
        source.text ++ Text.unlines (methods.flatMap (blockLines indent)) from
    appended (.withIndent indent) rfl
  induction methods with
  | nil =>
      intro source _
      exact (List.append_nil _).symm
  | cons method rest ih =>
      rintro source rfl
      rw [List.foldl_cons, ih (source.write method.signature method.body) rfl, List.flatMap_cons,
        Text.unlines_append, write, methodText_eq, List.append_assoc]

end Lines

section Reading

variable {indent : Nat} {methods others : List Method}

theorem flatMap_blockLines_ne_nil (indent : Nat) (method : Method) (methods : List Method) :
    (method :: methods).flatMap (blockLines indent) ≠ [] := by
  rw [List.flatMap_cons, blockLines, List.cons_append]
  exact List.cons_ne_nil _ _

/-- The lines of methods tell the methods: the first line is the signature, and the body ends at the
first closing brace. -/
theorem forall₂_of_blockLines_eq (positive : 1 ≤ indent)
    (same : methods.flatMap (blockLines indent) = others.flatMap (blockLines indent)) :
    List.Forall₂ Method.Alike methods others := by
  have open_body : ∀ body : Text, closingBrace ∉ (bodyLines body).map (indented indent) := by
    intro body mem
    obtain ⟨line, -, closes⟩ := List.mem_map.mp mem
    exact indented_ne_closingBrace positive line closes
  induction methods generalizing others with
  | nil =>
      cases others with
      | nil => exact .nil
      | cons other others => exact absurd same.symm (flatMap_blockLines_ne_nil indent other others)
  | cons method methods ih =>
      cases others with
      | nil => exact absurd same (flatMap_blockLines_ne_nil indent method methods)
      | cons other others =>
          simp only [List.flatMap_cons, blockLines, List.cons_append, List.append_assoc,
            List.cons.injEq] at same
          obtain ⟨signature, body⟩ := same
          obtain ⟨lines, rest⟩ :=
            Text.append_cons_inj_of_not_mem (open_body method.body) (open_body other.body) body
          exact .cons ⟨List.append_cancel_right signature,
            (List.map_injective_iff.mpr (indented_injective indent)) lines⟩
            (ih (List.tail_eq_of_cons_eq rest))

theorem flatMap_blockLines_congr (alike : List.Forall₂ Method.Alike methods others) :
    methods.flatMap (blockLines indent) = others.flatMap (blockLines indent) := by
  induction alike with
  | nil => rfl
  | cons one _ ih =>
      rw [List.flatMap_cons, List.flatMap_cons, ih, blockLines, blockLines, one.1, one.2]

end Reading

/-- With bodies that are indented at all and signatures of one line each, two sources are the same
exactly if as many methods were written to them and these are alike one by one. -/
theorem ofMethods_text_eq_iff {indent : Nat} {methods others : List Method} (positive : 1 ≤ indent)
    (plain : ∀ method ∈ methods, '\n' ∉ method.signature)
    (plainOthers : ∀ method ∈ others, '\n' ∉ method.signature) :
    (ofMethods indent methods).text = (ofMethods indent others).text ↔
      List.Forall₂ Method.Alike methods others := by
  have lines : ∀ all : List Method, (∀ method ∈ all, '\n' ∉ method.signature) →
      ∀ line ∈ all.flatMap (blockLines indent), '\n' ∉ line := by
    intro all plain line mem
    obtain ⟨method, inside, mem⟩ := List.mem_flatMap.mp mem
    exact forall_mem_blockLines indent (plain method inside) line mem
  rw [text_ofMethods, text_ofMethods,
    Text.unlines_inj (lines methods plain) (lines others plainOthers)]
  exact ⟨forall₂_of_blockLines_eq positive, flatMap_blockLines_congr⟩

/-- A body that looks like the end of one method and the start of another is written apart from
these two, and it is written like a body with other blank lines and other ends of lines. -/
theorem ofMethods_text_eq_iff_brace :
    let one : List Method := [⟨"a()".toList, "\x7d\r\n\u2003\nb() \x7b".toList⟩]
    let alike : List Method := [⟨"a()".toList, "\x7d\n\nb() \x7b\n".toList⟩]
    let two : List Method := [⟨"a()".toList, []⟩, ⟨"b()".toList, []⟩]
    (∀ method ∈ one ++ alike ++ two, '\n' ∉ method.signature) ∧
      (ofMethods 1 one).text = (ofMethods 1 alike).text ∧
      (ofMethods 1 one).text ≠ (ofMethods 1 two).text := by
  intro one alike two
  have plain : ∀ method ∈ one, '\n' ∉ method.signature := by decide
  have plainAlike : ∀ method ∈ alike, '\n' ∉ method.signature := by decide
  have plainTwo : ∀ method ∈ two, '\n' ∉ method.signature := by decide
  refine ⟨by decide, (ofMethods_text_eq_iff (by decide) plain plainAlike).mpr (by decide), ?_⟩
  intro same
  have alike := (ofMethods_text_eq_iff (by decide) plain plainTwo).mp same
  exact absurd alike.length_eq (by decide)

-- Without an indent they could not be told apart.
example :
    (ofMethods 0 [⟨"a()".toList, "\x7d\n\nb() \x7b".toList⟩]).text =
      (ofMethods 0 [⟨"a()".toList, []⟩, ⟨"b()".toList, []⟩]).text := by
  decide

/-! The ends of lines in a body. Whether lines end in a line feed or in a carriage return and a line
feed, and whether the last one is ended at all, a method is written the same; and whatever a body
is made of, each of its lines is written empty, or indented and with something to see in it. -/

section LineEnds

/-- Bodies with the same lines are written alike. -/
theorem write_congr {body other : Text} (same : Text.lines body = Text.lines other)
    (signature : Text) (source : MethodSource) :
    source.write signature body = source.write signature other := by
  rw [write, write, methodText, methodText, same]

/-- A line of a body is written empty if it is blank, and otherwise it is moved to the right. -/
theorem indented_bodyLine_cases {indent : Nat} {body line : Text}
    (h : line ∈ (bodyLines body).map (indented indent)) :
    line = [] ∨ ∃ visible, line = List.replicate indent ' ' ++ visible ∧
      ∃ c ∈ visible, Text.isBlankChar c = false := by
  simp only [bodyLines, List.map_map, List.mem_map, Function.comp_apply] at h
  obtain ⟨visible, -, rfl⟩ := h
  split_ifs with blank
  · exact .inl rfl
  · rw [Bool.not_eq_true] at blank
    obtain ⟨c, mem, shown⟩ := List.all_eq_false.mp blank
    rw [indented, if_neg (List.ne_nil_of_mem mem)]
    exact .inr ⟨visible, rfl, c, mem, eq_false_of_ne_true shown⟩

/-- A body without carriage returns is written like the same body with one before every line feed,
and a line feed at the end of a body that ends in neither of the two changes nothing. In all cases
the lines between the signature and the closing brace are empty, or they are indented and have a
character that is not blank after the indent. -/
theorem write_ignores_line_ends (signature body : Text) (source : MethodSource) :
    ('\r' ∉ body →
        source.write signature body.withCarriageReturns = source.write signature body) ∧
      (∀ last, body.getLast? = some last → last ≠ '\n' → last ≠ '\r' →
        source.write signature (body ++ ['\n']) = source.write signature body) ∧
      (source.write signature body).text =
        source.text ++ Text.unlines ((signature ++ " \x7b".toList) ::
          ((bodyLines body).map (indented source.indent) ++ [closingBrace, []])) ∧
      ∀ line ∈ (bodyLines body).map (indented source.indent),
        '\n' ∉ line ∧ (line = [] ∨
          ∃ visible, line = List.replicate source.indent ' ' ++ visible ∧
            ∃ c ∈ visible, Text.isBlankChar c = false) := by
  refine ⟨fun plain => ?_, fun last found feed carriage => ?_, ?_, fun line mem => ⟨?_, ?_⟩⟩
  · exact write_congr (Text.lines_withCarriageReturns plain) signature source
  · exact write_congr (Text.lines_append_final_newline found feed carriage) signature source
  · rw [write, methodText_eq source.indent ⟨signature, body⟩, blockLines]
  · obtain ⟨inner, inside, rfl⟩ := List.mem_map.mp mem
    exact not_mem_indented (forall_mem_bodyLines body inner inside)
  · exact indented_bodyLine_cases mem

/-- A body with a blank line and a last line that is not ended: with carriage returns, and with a
line feed at its end, it is written as it is without them. -/
theorem write_ignores_line_ends_blank_line :
    let body : Text := "\tint x = 1;\n\u2003\nreturn x;".toList
    let source : MethodSource := ⟨2, "// x\n".toList⟩
    let written := "// x\nint x() \x7b\n  \tint x = 1;\n\n  return x;\n\x7d\n\n".toList
    (source.write "int x()".toList body.withCarriageReturns).text = written ∧
      (source.write "int x()".toList (body ++ ['\n'])).text = written := by
  intro body source written
  obtain ⟨returns, ended, -, -⟩ := write_ignores_line_ends "int x()".toList body source
  rw [returns (by decide), ended ';' (by decide) (by decide) (by decide)]
  decide

-- A carriage return at the end of the text does not end a line, so it is kept.
example : (MethodSource.write "a()".toList "b;\r".toList ⟨1, []⟩).text ≠
    (MethodSource.write "a()".toList "b;\r\n".toList ⟨1, []⟩).text := by
  decide

end LineEnds

end Injector.MethodSource
