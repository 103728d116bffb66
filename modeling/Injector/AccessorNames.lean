import Injector.Key
import Injector.Text
/-!
Names of accessors, the generated methods that hand out what a key stands for.
Every key has one name and no two keys share one: a name that is taken is told apart by a number.
-/
namespace Injector

/-- The names given so far. Every name begins with `start`. -/
structure AccessorNames where
  start : Text
  byKey : List (Key × Text)
  used : List Text

namespace AccessorNames

def startingWith (start : Text) : AccessorNames :=
  ⟨start, [], []⟩

/-- Names start this way unless something else is asked for. -/
def defaultStart : Text := "get_".toList

/-- What a key tells about itself in a name. -/
def keyText (key : Key) : Text :=
  match key.qualifier with
  | .unqualified => key.type.describe
  | qualifier => key.type.describe ++ '_' :: qualifier.describe

/-- The name that a key gets if nothing is in its way. -/
def baseName (start : Text) (key : Key) : Text :=
  start ++ Text.underscored (keyText key)

/-- The names that a key may get, in the order in which they are tried. -/
def candidate (base : Text) : Nat → Text
  | 0 => base
  | k + 1 => base ++ '_' :: Text.decimal (k + 2)

/-- How many candidates in a row are taken. The candidates differ, so no more of them than there
are names in use can be taken. -/
def collisions (used : List Text) (base : Text) : Nat :=
  ((List.range used.length).find? fun k => candidate base k ∉ used).getD used.length

/-- The first candidate that is free. -/
def freshName (used : List Text) (base : Text) : Text :=
  candidate base (collisions used base)

def name? (names : AccessorNames) (key : Key) : Option Text :=
  names.byKey.lookup key

/-- The name of a key, which gets one now unless it has one. -/
def request (key : Key) (names : AccessorNames) : Text × AccessorNames :=
  match names.name? key with
  | some name => (name, names)
  | none =>
      let name := freshName names.used (baseName names.start key)
      (name, { names with byKey := (key, name) :: names.byKey, used := name :: names.used })

def size (names : AccessorNames) : Nat :=
  names.byKey.length

def isEmpty (names : AccessorNames) : Bool :=
  names.byKey.isEmpty

end AccessorNames

end Injector
