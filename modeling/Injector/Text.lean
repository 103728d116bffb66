/-!
Text is a list of characters, so that every rule about text is a rule about lists. Names, messages
and generated source are all of this type.

A line ends at a line feed or at a carriage return and a line feed together; the end of the text
ends a line only if the line holds something. Blank characters have the Unicode property
White_Space. The words of a text are its longest runs of ASCII letters and digits; joined by
underscores they make the part of an identifier that a text lends its name to.
-/
namespace Injector

/-- A text is the list of its characters, in reading order. -/
abbrev Text := List Char

/-- The code points from `first` to `last`, both included. -/
structure CharRange where
  first : Nat
  last : Nat

/-- A range holds a character whose code point lies between its ends. -/
def CharRange.holds (range : CharRange) (c : Char) : Bool :=
  range.first ≤ c.toNat && c.toNat ≤ range.last

/-- A character is in a class if one of the ranges of the class holds it. -/
def CharRange.anyHolds (ranges : List CharRange) (c : Char) : Bool :=
  ranges.any (·.holds c)

namespace Text

/-- The parts of a list, written with a comma and a space between neighbours. -/
def commaList (parts : List Text) : Text :=
  ", ".toList.intercalate parts

theorem commaList_cons_cons (part next : Text) (more : List Text) :
    commaList (part :: next :: more) = part ++ ',' :: ' ' :: commaList (next :: more) := by
  rw [commaList, List.intercalate_cons_cons, List.append_assoc]
  rfl

section Digits

/-- A natural number in decimal digits, without leading zeros. -/
def decimal (n : Nat) : Text :=
  Nat.toDigits 10 n

def hexDigit? (c : Char) : Option Nat :=
  if '0' ≤ c ∧ c ≤ '9' then some (c.toNat - '0'.toNat)
  else if 'a' ≤ c ∧ c ≤ 'f' then some (c.toNat - 'a'.toNat + 10)
  else if 'A' ≤ c ∧ c ≤ 'F' then some (c.toNat - 'A'.toNat + 10)
  else none

/-- The character of a code point that is written in hexadecimal digits; surrogates are none. -/
def charOfHex? (digits : Text) : Option Char := do
  let code ← digits.foldlM (fun sum c => (hexDigit? c).map (16 * sum + ·)) 0
  if code.isValidChar then return Char.ofNat code else none

end Digits

section Lines

/-- Puts a character in front of the first line, opening that line if there is none. -/
def prependToFirst (c : Char) : List Text → List Text
  | [] => [[c]]
  | line :: rest => (c :: line) :: rest

def lines : Text → List Text
  | [] => []
  | '\n' :: rest => [] :: lines rest
  | '\r' :: '\n' :: rest => [] :: lines rest
  | c :: rest => prependToFirst c (lines rest)

/-- The code points with the property White_Space. -/
def blankRanges : List CharRange :=
  [⟨0x9, 0xD⟩, ⟨0x20, 0x20⟩, ⟨0x85, 0x85⟩, ⟨0xA0, 0xA0⟩, ⟨0x1680, 0x1680⟩,
   ⟨0x2000, 0x200A⟩, ⟨0x2028, 0x2029⟩, ⟨0x202F, 0x202F⟩, ⟨0x205F, 0x205F⟩, ⟨0x3000, 0x3000⟩]

/-- A character is blank if it has the property White_Space. -/
def isBlankChar (c : Char) : Bool :=
  CharRange.anyHolds blankRanges c

/-- A text is blank if all of its characters are; the empty text is blank. -/
def isBlank (text : Text) : Bool :=
  text.all isBlankChar

end Lines

section Words

/-- A word is made of ASCII letters and digits. -/
def isWordChar (c : Char) : Bool :=
  c.isAlphanum

/-- Whether the first character of a text belongs to a word. -/
def startsWord : Text → Bool
  | [] => false
  | c :: _ => isWordChar c

def words : Text → List Text
  | [] => []
  | c :: rest =>
      if isWordChar c then
        if startsWord rest then
          match words rest with
          | word :: others => (c :: word) :: others
          | [] => [[c]]
        else [c] :: words rest
      else words rest

/-- The words of a text, joined by single underscores. -/
def underscored (text : Text) : Text :=
  ['_'].intercalate (words text)

end Words

end Text

end Injector
