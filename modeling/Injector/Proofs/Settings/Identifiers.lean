import Injector.JavaType.SourceName
import Injector.Settings.Document
import Injector.Proofs.AccessorNames.Identifier
import Mathlib.Computability.Language
import Mathlib.Data.Char
/-!
Settings and identifiers. Settings are fit for use exactly if they name a provider type and their
start of names is an identifier itself, and then all names that are handed out under them are
identifiers that begin with it, whatever the keys are made of.
-/
namespace Injector

section Patterns

/-- The characters `[A-Za-z_]`. -/
def identifierHeads : Set Char :=
  Set.Icc 'A' 'Z' ∪ Set.Icc 'a' 'z' ∪ {'_'}

/-- The characters `[A-Za-z0-9_]`. -/
def identifierTails : Set Char :=
  Set.Icc 'A' 'Z' ∪ Set.Icc 'a' 'z' ∪ Set.Icc '0' '9' ∪ {'_'}

/-- The texts of a single character out of some. -/
def oneOf (chars : Set Char) : Language Char :=
  {text | ∃ c ∈ chars, text = [c]}

/-- The texts that match `[A-Za-z_][A-Za-z0-9_]*`. -/
def identifiers : Language Char :=
  oneOf identifierHeads * KStar.kstar (oneOf identifierTails)

theorem mem_kstar_oneOf_iff {chars : Set Char} {text : Text} :
    text ∈ KStar.kstar (oneOf chars) ↔ ∀ c ∈ text, c ∈ chars := by
  rw [Language.mem_kstar]
  constructor
  · rintro ⟨parts, rfl, each⟩ c mem
    obtain ⟨part, inside, mem⟩ := List.mem_flatten.mp mem
    obtain ⟨d, fits, rfl⟩ := each part inside
    rw [List.mem_singleton.mp mem]
    exact fits
  · intro all
    refine ⟨text.map fun c => [c], (List.flatMap_singleton' text).symm, ?_⟩
    intro part mem
    obtain ⟨c, inside, rfl⟩ := List.mem_map.mp mem
    exact ⟨c, all c inside, rfl⟩

theorem isAlpha_iff (c : Char) : c.isAlpha = true ↔ c ∈ Set.Icc 'A' 'Z' ∪ Set.Icc 'a' 'z' := by
  have upper : c.isUpper = true ↔ c ∈ Set.Icc 'A' 'Z' := decide_eq_true_iff
  have lower : c.isLower = true ↔ c ∈ Set.Icc 'a' 'z' :=
    Bool.and_eq_true_iff.trans (and_congr decide_eq_true_iff decide_eq_true_iff)
  exact Bool.or_eq_true_iff.trans (or_congr upper lower)

theorem isNameHead_iff (c : Char) : Settings.isNameHead c = true ↔ c ∈ identifierHeads :=
  Bool.or_eq_true_iff.trans (or_congr (isAlpha_iff c) beq_iff_eq)

theorem isNameTail_iff (c : Char) : Settings.isNameTail c = true ↔ c ∈ identifierTails := by
  have digit : c.isDigit = true ↔ c ∈ Set.Icc '0' '9' :=
    Bool.and_eq_true_iff.trans (and_congr decide_eq_true_iff decide_eq_true_iff)
  have word : c.isAlphanum = true ↔ c ∈ Set.Icc 'A' 'Z' ∪ Set.Icc 'a' 'z' ∪ Set.Icc '0' '9' :=
    Bool.or_eq_true_iff.trans (or_congr (isAlpha_iff c) digit)
  exact Bool.or_eq_true_iff.trans (or_congr word beq_iff_eq)

/-- A text may start names exactly if it is an identifier itself. -/
theorem mem_identifiers_iff {text : Text} :
    text ∈ identifiers ↔ Settings.isNameStart text = true := by
  rw [identifiers, Language.mem_mul]
  constructor
  · rintro ⟨_, ⟨head, fits, rfl⟩, tail, inside, rfl⟩
    rw [List.singleton_append, Settings.isNameStart, (isNameHead_iff head).mpr fits, Bool.true_and,
      List.all_eq_true]
    exact fun c mem => (isNameTail_iff c).mpr (mem_kstar_oneOf_iff.mp inside c mem)
  · intro fit
    cases text with
    | nil => cases fit
    | cons head tail =>
        obtain ⟨first, inside⟩ := Bool.and_eq_true_iff.mp fit
        refine ⟨[head], ⟨head, (isNameHead_iff head).mp first, rfl⟩, tail, ?_, rfl⟩
        exact mem_kstar_oneOf_iff.mpr fun c mem =>
          (isNameTail_iff c).mp (List.all_eq_true.mp inside c mem)

end Patterns

namespace Settings

section Names

variable {settings : Settings}

/-- The names that are handed out under some settings, each with its key. -/
def handedOut {ε ω : Type} (settings : Settings) (uses : List (Ledger.Use ε ω)) :
    List (Key × Text) :=
  (uses.foldl Ledger.apply ⟨settings.accessorNames, []⟩).answers

theorem mem_identifiers_of_handedOut {ε ω : Type} {uses : List (Ledger.Use ε ω)}
    {answer : Key × Text} (fit : settings.validate = .ok ())
    (mem : answer ∈ settings.handedOut uses) :
    settings.nameStart <+: answer.2 ∧ answer.2 ∈ identifiers := by
  have answered : answer ∈ (Ledger.run settings.nameStart uses).answers := mem
  have continues := Ledger.continues_of_mem_answers answered
  have start_fit := (validate_eq_ok_iff.mp fit).2
  exact ⟨continues.isPrefix, mem_identifiers_iff.mpr (continues.isNameStart start_fit)⟩

end Names

/-- Settings are fit for use exactly if they name a provider type and their start of names matches
`[A-Za-z_][A-Za-z0-9_]*`; if both are wrong, it is the provider types that are found fault with.
Under settings that are fit for use, and so under all that a document is read as, every name that is
handed out in a run begins with the start and matches the pattern as well. -/
theorem names_are_identifiers :
    (∀ settings : Settings,
      (settings.validate = .ok () ↔
        settings.providerTypes ≠ [] ∧ settings.nameStart ∈ identifiers) ∧
      (settings.validate = .error .noProviderTypes ↔ settings.providerTypes = []) ∧
      ∀ start, settings.validate = .error (.badNameStart start) ↔
        settings.providerTypes ≠ [] ∧ settings.nameStart ∉ identifiers ∧
          start = settings.nameStart) ∧
    ∀ settings : Settings,
      (settings.validate = .ok () ∨ ∃ document, load document = .ok settings) →
      ∀ (ε ω : Type) (uses : List (Ledger.Use ε ω)), ∀ answer ∈ settings.handedOut uses,
        settings.nameStart <+: answer.2 ∧ answer.2 ∈ identifiers := by
  constructor
  · intro settings
    rw [mem_identifiers_iff, Bool.not_eq_true]
    exact ⟨validate_eq_ok_iff, validate_eq_noProviderTypes_iff,
      fun start => validate_eq_badNameStart_iff⟩
  · intro settings source ε ω uses answer mem
    have fit : settings.validate = .ok () := by
      rcases source with fit | ⟨document, loaded⟩
      · exact fit
      · exact validate_of_load loaded
    exact mem_identifiers_of_handedOut fit mem

/-- The shortest start is read from a document, and names stay identifiers though no character of
the keys is one of a word: the second key gets a number. -/
theorem names_are_identifiers_underscore :
    let document := "getter_prefix = \"_\"".toList
    let settings : Settings := { default with nameStart := ['_'] }
    let first := Key.ofType (.classType "Ω".toList)
    let second := Key.markedWith (.classType "é".toList) "ß".toList
    let uses : List (Ledger.Use UnnameableType MethodSource) :=
      [.request first, .request second, .request first]
    load document = .ok settings ∧
      settings.handedOut uses =
        [(first, "_".toList), (second, "__2".toList), (first, "_".toList)] ∧
      ∀ answer ∈ settings.handedOut uses,
        settings.nameStart <+: answer.2 ∧ answer.2 ∈ identifiers := by
  intro document settings first second uses
  have loaded : load document = .ok settings := by rfl
  exact ⟨loaded, by decide +kernel,
    names_are_identifiers.2 settings (.inr ⟨document, loaded⟩) _ _ uses⟩

end Settings

end Injector
