import Injector.Pass
import Injector.Proofs.AccessorNames.Identifier
import Injector.Proofs.ProviderBinding.CreatorMethod
import Mathlib.Tactic.TFAE
/-!
When generated code can call every accessor. A creator method declares a method of its own around
the call, and some identifiers are reserved words; an accessor with such a name cannot be called.
Names are safe from this exactly if no such word begins with the start of names, and that a start
is fit for use does not keep these words out.
-/
namespace Injector

section Words

/-- The name of the method that every creator method declares around its call. -/
def retrievalName : Text := "get".toList

/-- The words of the language that are no identifiers, though they are spelled like one. -/
def reservedWords : List Text :=
  ["_", "abstract", "assert", "boolean", "break", "byte", "case", "catch", "char", "class", "const",
    "continue", "default", "do", "double", "else", "enum", "extends", "false", "final", "finally",
    "float", "for", "goto", "if", "implements", "import", "instanceof", "int", "interface", "long",
    "native", "new", "null", "package", "private", "protected", "public", "return", "short",
    "static", "strictfp", "super", "switch", "synchronized", "this", "throw", "throws", "transient",
    "true", "try", "void", "volatile", "while"].map String.toList

/-- A call of the name inside a creator method is a legal call, and is not a call of the method
that is declared around it. -/
def IsCallable (name : Text) : Prop :=
  Settings.isNameStart name = true ∧ name ∉ retrievalName :: reservedWords

theorem isWordChar_of_mem_tail {word : Text} (h : word ∈ retrievalName :: reservedWords) :
    ∀ c ∈ word.tail, Text.isWordChar c = true := by
  have inside : ∀ word ∈ retrievalName :: reservedWords,
      word.tail.all Text.isWordChar = true := by decide
  exact List.all_eq_true.mp (inside word h)

end Words

section Starts

theorem AccessorNames.request_class (start : Text) {word : Text}
    (h : ∀ c ∈ word, Text.isWordChar c = true) :
    ((startingWith start).request (Key.ofType (.classType word))).1 = start ++ word := by
  have first : (startingWith start).name? (Key.ofType (.classType word)) = none := rfl
  have base : baseName start (Key.ofType (.classType word)) = start ++ word :=
    congrArg (start ++ ·) (Text.underscored_of_word h)
  rw [request_of_none first]
  exact base

/-- The binding of a provider of a class. -/
def classBinding (name : Text) : ProviderBinding :=
  ⟨Key.ofType (.parameterized "Provider".toList [.classType name]), Key.ofType (.classType name),
    ⟨_, rfl⟩, rfl⟩

/-- Some method calls an accessor whose name is the start followed by a given word. -/
theorem exists_wrote_calls (start : Text) {word : Text}
    (h : ∀ c ∈ word, Text.isWordChar c = true) :
    ∃ (uses : List (Ledger.Use UnnameableType MethodSource))
      (method : CreatorMethod UnnameableType),
      Ledger.Wrote start uses method ∧ method.Calls (start ++ word) := by
  have taken : ((classBinding word).emit
      ⟨JavaType.sourceName, AccessorNames.request, MethodSource.accept⟩ []
      (Ledger.run start ([] : List (Ledger.Use UnnameableType MethodSource))).names
      (.withIndent 0)).1 = .ok () := rfl
  obtain ⟨body, wrote⟩ := Ledger.wrote_of_emit [] [] taken
  rw [← AccessorNames.request_class start h]
  exact ⟨_, _, wrote, wrote.name?_target.1⟩

end Starts

/-- For settings that are fit for use, these are the same: every name that is handed out in a run
can be called, every accessor that a method of a run calls can be called, and neither the retrieval
method nor a reserved word begins with the start of names. -/
theorem Settings.accessors_callable_tfae {settings : Settings} (fit : settings.validate = .ok ()) :
    List.TFAE [
      ∀ (uses : List (Ledger.Use UnnameableType MethodSource)),
        ∀ answer ∈ (Ledger.run settings.nameStart uses).answers, IsCallable answer.2,
      ∀ (uses : List (Ledger.Use UnnameableType MethodSource))
        (method : CreatorMethod UnnameableType) (accessor : Text),
        Ledger.Wrote settings.nameStart uses method → method.Calls accessor → IsCallable accessor,
      ∀ word ∈ retrievalName :: reservedWords, ¬ settings.nameStart <+: word] := by
  have start_fit := (validate_eq_ok_iff.mp fit).2
  tfae_have 1 → 2
  | callable, uses, method, accessor, wrote, calls =>
      callable uses (method.binding.target, accessor)
        (((Ledger.sound_run _ uses).mem_answers _ _).mpr (wrote.name?_of_calls calls))
  tfae_have 2 → 3 := by
    rintro callable word reserved ⟨rest, rfl⟩
    -- The start is not empty, so the rest of the word is a text that a class can be named by.
    have inside : ∀ c ∈ rest, Text.isWordChar c = true := by
      intro c mem
      apply isWordChar_of_mem_tail reserved
      cases start : settings.nameStart with
      | nil =>
          rw [start] at start_fit
          cases start_fit
      | cons d others => exact List.mem_append_right others mem
    obtain ⟨uses, method, wrote, calls⟩ := exists_wrote_calls settings.nameStart inside
    exact (callable uses method _ wrote calls).2 reserved
  tfae_have 3 → 1 := by
    intro apart uses answer mem
    have continues := Ledger.continues_of_mem_answers mem
    exact ⟨continues.isNameStart start_fit, fun reserved => apart _ reserved continues.isPrefix⟩
  tfae_finish

/-- The default settings are fit for use, and every name under them can be called. -/
theorem Settings.accessors_callable_default :
    Settings.default.validate = .ok () ∧
      ∀ (uses : List (Ledger.Use UnnameableType MethodSource)),
        ∀ answer ∈ (Ledger.run Settings.default.nameStart uses).answers, IsCallable answer.2 := by
  have fit : Settings.default.validate = .ok () := by decide
  exact ⟨fit, ((Settings.accessors_callable_tfae fit).out 2 0).mp (by decide)⟩

/-- With the start `get`, which is fit for use, a class whose name has no word in it has the accessor
`get`, and the method for its provider calls itself. Other starts lead to reserved words. -/
theorem Settings.accessor_captured_by_retrieval :
    let starting (start : String) : Settings := { Settings.default with nameStart := start.toList }
    let accessor (start name : String) : Text :=
      ((starting start).accessorNames.request (Key.ofType (.classType name.toList))).1
    let provider := Key.ofType (.parameterized "com.google.inject.Provider".toList
      [.classType "Ω".toList])
    let emitter := ⟨JavaType.sourceName, AccessorNames.request, MethodSource.accept⟩
    ((starting "get").validate = .ok () ∧ accessor "get" "Ω" = retrievalName ∧
      ∃ binding, ProviderBinding.ofKey provider = .ok binding ∧
        (binding.emit emitter "Object make()".toList (starting "get").accessorNames
            (starting "get").methodSource).2.2.text =
          ("Object make() \x7b\n  return new com.google.inject.Provider<Ω>() \x7b\n" ++
            "    public Ω get() \x7b\n      return get();\n    \x7d\n  \x7d;\n\x7d\n\n").toList) ∧
      ((starting "_").validate = .ok () ∧ accessor "_" "$" ∈ reservedWords) ∧
      ((starting "in").validate = .ok () ∧ accessor "in" "t" ∈ reservedWords) ∧
      (starting "nul").validate = .ok () ∧ accessor "nul" "l" ∈ reservedWords := by
  refine ⟨⟨by decide, by decide, _, rfl, ?_⟩, ⟨by decide, by decide⟩, ⟨by decide, by decide⟩,
    by decide, by decide⟩
  decide +kernel

end Injector
