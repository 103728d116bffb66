import Injector.ProviderBinding
import Injector.AccessorNames
/-!
Settings of a generator, and when they are fit for use.
-/
namespace Injector

/-- What a generator can be told. -/
structure Settings where
  providerTypes : List Text
  indentSize : UInt64
  nameStart : Text
  deriving DecidableEq

inductive SettingsFault where
  | noProviderTypes
  | badNameStart (start : Text)
  deriving DecidableEq

def SettingsFault.describe : SettingsFault → Text
  | .noProviderTypes => "provider_types must name at least one type".toList
  | .badNameStart start =>
      "getter_prefix '".toList ++ start ++ "' is not a valid identifier prefix".toList

namespace Settings

/-- The types that count as providers unless others are named. -/
def defaultProviderTypes : List Text :=
  ["com.google.inject.Provider".toList, "javax.inject.Provider".toList]

def default : Settings :=
  ⟨defaultProviderTypes, 2, AccessorNames.defaultStart⟩

/-- A name may start with an ASCII letter or an underscore. -/
def isNameHead (c : Char) : Bool :=
  c.isAlpha || c == '_'

/-- A name may go on with ASCII letters, digits and underscores. -/
def isNameTail (c : Char) : Bool :=
  c.isAlphanum || c == '_'

/-- Whether every name that starts with a text may be an identifier. -/
def isNameStart : Text → Bool
  | [] => false
  | c :: rest => isNameHead c && rest.all isNameTail

/-- Settings are fit for use if they name a provider type and a start of identifiers; the
provider types are looked at first. -/
def validate (settings : Settings) : Except SettingsFault Unit :=
  if settings.providerTypes = [] then .error .noProviderTypes
  else if isNameStart settings.nameStart then .ok ()
  else .error (.badNameStart settings.nameStart)

section Checks

variable {settings : Settings}

theorem validate_eq_ok_iff :
    settings.validate = .ok () ↔
      settings.providerTypes ≠ [] ∧ isNameStart settings.nameStart = true := by
  rw [validate]
  split
  · simp_all
  · split <;> simp_all

theorem validate_eq_noProviderTypes_iff :
    settings.validate = .error .noProviderTypes ↔ settings.providerTypes = [] := by
  rw [validate]
  split
  next none => exact iff_of_true rfl none
  next some_type => split <;> simp [some_type]

theorem validate_eq_badNameStart_iff {start : Text} :
    settings.validate = .error (.badNameStart start) ↔
      settings.providerTypes ≠ [] ∧ isNameStart settings.nameStart = false ∧
        start = settings.nameStart := by
  rw [validate]
  split
  next none => exact iff_of_false (by simp) fun h => h.1 none
  next some_type =>
    split
    next fit => simp [fit]
    next unfit => simp [some_type, unfit, eq_comm]

end Checks

/-- Whether a type is made from one of the types that count as providers. -/
def isProviderType (settings : Settings) (type : JavaType) : Bool :=
  match type.rawName? with
  | some raw => settings.providerTypes.contains raw
  | none => false

/-- The provider binding of a key, if its type counts as a provider. -/
def implicitBinding? (settings : Settings) (key : Key) :
    Option (Except MalformedBinding ProviderBinding) :=
  if settings.isProviderType key.type then some (ProviderBinding.ofKey key) else none

def accessorNames (settings : Settings) : AccessorNames :=
  .startingWith settings.nameStart

def methodSource (settings : Settings) : MethodSource :=
  .withIndent settings.indentSize.toNat

end Settings

end Injector
