import Injector.Text
/-!
The words of a TOML document, and what stands between them. Numbers are integers of 64 bits in four
bases, and floats; single underscores may stand between digits. A moment is a date, a time, or a
date with a time and perhaps an offset. Strings stand between double quotes, where a backslash
begins an escape, or between single quotes, where every character stands for itself; between
threefold quotes a string may have lines.
-/
namespace Injector.Toml

section Space

/-- What a reader takes from the front of a text, and what it leaves. -/
abbrev Reader (α : Type) := Text → Option (α × Text)

/-- A blank is a space or a tab. -/
def isSpace (c : Char) : Bool :=
  c == ' ' || c == '\t'

def skipSpaces (text : Text) : Text :=
  text.dropWhile isSpace

/-- A text without the line end at its front, if there is one. -/
def lineEnd? : Text → Option Text
  | '\n' :: rest => some rest
  | '\r' :: '\n' :: rest => some rest
  | _ => none

def isCommentChar (c : Char) : Bool :=
  c == '\t' || (c.toNat ≥ 0x20 && c.toNat != 0x7F)

/-- A text without the comment at its front, if there is one. -/
def skipComment : Text → Text
  | '#' :: rest => rest.dropWhile isCommentChar
  | text => text

/-- A text without the rest of its first line, which may hold blanks and a comment. -/
def finishLine? (text : Text) : Option Text :=
  match skipComment (skipSpaces text) with
  | [] => some []
  | rest => lineEnd? rest

/-- A text without the blanks, line ends and comments at its front. A comment must be ended by a
line end. `comment` says whether the text begins inside a comment. -/
def skipLines (comment : Bool) : Text → Option Text
  | [] => if comment then none else some []
  | '\n' :: rest => skipLines false rest
  | '\r' :: '\n' :: rest => skipLines false rest
  | c :: rest =>
      if comment then
        if isCommentChar c then skipLines true rest else none
      else if isSpace c then skipLines false rest
      else if c = '#' then skipLines true rest
      else some (c :: rest)

end Space

section Numbers

/-- The digits at the front of a text, without the underscores between them. -/
def digitsAfter (isDigit : Char → Bool) : Text → Text × Text
  | [] => ([], [])
  | '_' :: c :: rest =>
      if isDigit c then
        let (digits, rest) := digitsAfter isDigit rest
        (c :: digits, rest)
      else ([], '_' :: c :: rest)
  | c :: rest =>
      if isDigit c then
        let (digits, rest) := digitsAfter isDigit rest
        (c :: digits, rest)
      else ([], c :: rest)

def digits (isDigit : Char → Bool) : Reader Text
  | [] => none
  | c :: rest =>
      if isDigit c then
        let (digits, rest) := digitsAfter isDigit rest
        some (c :: digits, rest)
      else none

/-- The number that digits stand for in a base. -/
def ofDigits (base : Nat) (digits : Text) : Nat :=
  digits.foldl (fun sum c => base * sum + (if c.isDigit then c.toNat - '0'.toNat
    else c.toLower.toNat - 'a'.toNat + 10)) 0

def isHexDigit (c : Char) : Bool :=
  c.isDigit || ('a' ≤ c.toLower && c.toLower ≤ 'f')

/-- A sign, which may be left out; `true` stands for the negative one. -/
def sign : Text → Bool × Text
  | '-' :: rest => (true, rest)
  | '+' :: rest => (false, rest)
  | text => (false, text)

/-- Decimal digits without leading zeros. -/
def wholeDigits : Reader Text
  | '0' :: rest => some (['0'], rest)
  | text => digits Char.isDigit text

/-- An integer if it has at most 64 bits. -/
def inRange? (value : Int) : Option Int :=
  if -9223372036854775808 ≤ value ∧ value ≤ 9223372036854775807 then some value else none

/-- An integer. A base other than ten is marked in front and takes no sign. -/
def integer (text : Text) : Option (Int × Text) :=
  match text with
  | '0' :: 'x' :: rest => do
      let (digits, rest) ← digits isHexDigit rest
      return (← inRange? (ofDigits 16 digits), rest)
  | '0' :: 'o' :: rest => do
      let (digits, rest) ← digits (fun c => '0' ≤ c && c ≤ '7') rest
      return (← inRange? (ofDigits 8 digits), rest)
  | '0' :: 'b' :: rest => do
      let (digits, rest) ← digits (fun c => c == '0' || c == '1') rest
      return (← inRange? (ofDigits 2 digits), rest)
  | _ => do
      let (negative, rest) := sign text
      let (digits, rest) ← wholeDigits rest
      let magnitude : Int := ofDigits 10 digits
      return (← inRange? (if negative then -magnitude else magnitude), rest)

/-- The digits after a decimal point; none if there is no point. -/
def fraction : Reader Text
  | '.' :: rest => digits Char.isDigit rest
  | text => some ([], text)

/-- The exponent of a float; zero if there is none. -/
def exponent : Reader Int
  | 'e' :: rest => signed rest
  | 'E' :: rest => signed rest
  | text => some (0, text)
where
  signed (text : Text) : Option (Int × Text) := do
    let (negative, rest) := sign text
    let (digits, rest) ← digits Char.isDigit rest
    let magnitude : Int := ofDigits 10 digits
    return (if negative then -magnitude else magnitude, rest)

/-- The least number that a double of 64 bits rounds to infinity. -/
def doubleLimit : Nat :=
  Nat.pow 2 1024 - Nat.pow 2 970

/-- Whether a number, given by its digits and a power of ten, is too large for a double. The first
two tests keep the powers small. -/
def overflows (digits : Text) (power : Int) : Bool :=
  let digits := digits.dropWhile (· == '0')
  if digits.isEmpty then false
  else if power + digits.length > 309 then true
  else if power + digits.length < 309 then false
  else if power ≥ 0 then ofDigits 10 digits * Nat.pow 10 power.toNat ≥ doubleLimit
  else ofDigits 10 digits ≥ doubleLimit * Nat.pow 10 power.natAbs

/-- A float in digits: it has a fraction, an exponent or both, and is not too large. -/
def finiteFloat (text : Text) : Option Text := do
  let (negative, rest) := sign text
  let (whole, afterWhole) ← wholeDigits rest
  let (part, rest) ← fraction afterWhole
  let (power, rest) ← exponent rest
  if rest.length = afterWhole.length then none
  else if !negative && overflows (whole ++ part) (power - part.length) then none
  else return rest

/-- Infinity or not a number, with or without a sign. -/
def specialFloat (text : Text) : Option Text :=
  match (sign text).2 with
  | 'i' :: 'n' :: 'f' :: rest => some rest
  | 'n' :: 'a' :: 'n' :: rest => some rest
  | _ => none

def float (text : Text) : Option (Text × Text) := do
  let rest ← (finiteFloat text).or (specialFloat text)
  return (text.take (text.length - rest.length), rest)

end Numbers

section Moments

def twoDigits : Reader Nat
  | a :: b :: rest =>
      if a.isDigit && b.isDigit then
        some (10 * (a.toNat - '0'.toNat) + (b.toNat - '0'.toNat), rest)
      else none
  | _ => none

/-- A number of exactly two digits between two bounds. -/
def twoDigitsIn (low high : Nat) (text : Text) : Option (Nat × Text) := do
  let (number, rest) ← twoDigits text
  if low ≤ number ∧ number ≤ high then return (number, rest) else none

def after (c : Char) : Text → Option Text
  | first :: rest => if first = c then some rest else none
  | [] => none

def monthLength (year month : Nat) : Nat :=
  if month = 2 then
    if year % 4 = 0 ∧ (year % 100 ≠ 0 ∨ year % 400 = 0) then 29 else 28
  else if month = 4 ∨ month = 6 ∨ month = 9 ∨ month = 11 then 30
  else 31

def afterDate (text : Text) : Option Text := do
  let (century, rest) ← twoDigits text
  let (yearOfCentury, rest) ← twoDigits rest
  let (month, rest) ← twoDigitsIn 1 12 (← after '-' rest)
  let (_, rest) ← twoDigitsIn 1 (monthLength (100 * century + yearOfCentury) month)
    (← after '-' rest)
  return rest

/-- A text without the fraction of a second at its front; a point must be followed by a digit. -/
def afterSecondFraction : Text → Option Text
  | '.' :: c :: rest => if c.isDigit then some (rest.dropWhile Char.isDigit) else none
  | '.' :: [] => none
  | text => some text

def afterTime (text : Text) : Option Text := do
  let (_, rest) ← twoDigitsIn 0 23 text
  let (_, rest) ← twoDigitsIn 0 59 (← after ':' rest)
  let (_, rest) ← twoDigitsIn 0 60 (← after ':' rest)
  afterSecondFraction rest

def afterOffset (text : Text) : Option Text := do
  let (_, rest) ← twoDigitsIn 0 23 text
  let (_, rest) ← twoDigitsIn 0 59 (← after ':' rest)
  return rest

/-- A text without the offset at its front, if there is one. -/
def skipOffset : Text → Option Text
  | 'Z' :: rest => some rest
  | 'z' :: rest => some rest
  | '+' :: rest => afterOffset rest
  | '-' :: rest => afterOffset rest
  | text => some text

/-- A text without the time that may follow a date. -/
def skipTimeOfDate (text : Text) : Option Text :=
  match text with
  | 'T' :: rest => timeAndOffset rest
  | 't' :: rest => timeAndOffset rest
  | ' ' :: rest => some ((timeAndOffset rest).getD text)
  | _ => some text
where
  timeAndOffset (text : Text) : Option Text := do
    skipOffset (← afterTime text)

def moment (text : Text) : Option (Text × Text) := do
  let rest ← ((afterDate text).bind skipTimeOfDate).or (afterTime text)
  return (text.take (text.length - rest.length), rest)

end Moments

section Strings

/-- The character of an escape of one letter. -/
def escape? (c : Char) : Option Char :=
  match c with
  | 'b' => some '\x08'
  | 'f' => some '\x0C'
  | 'n' => some '\n'
  | 'r' => some '\r'
  | 't' => some '\t'
  | '"' => some '"'
  | '\\' => some '\\'
  | _ => none

/-- Whether a string without lines may hold a character as it is. -/
def isStringChar (c : Char) : Bool :=
  isCommentChar c

/-- Puts a character in front of what was read. -/
def withChar (c : Char) (read : Option (Text × Text)) : Option (Text × Text) :=
  read.map fun (text, rest) => (c :: text, rest)

/-- A string after its double quote, up to the next one. -/
def basicString : Reader Text
  | [] => none
  | '"' :: rest => some ([], rest)
  | '\\' :: 'u' :: a :: b :: c :: d :: rest =>
      match Text.charOfHex? [a, b, c, d] with
      | some char => withChar char (basicString rest)
      | none => none
  | '\\' :: 'U' :: a :: b :: c :: d :: e :: f :: g :: h :: rest =>
      match Text.charOfHex? [a, b, c, d, e, f, g, h] with
      | some char => withChar char (basicString rest)
      | none => none
  | '\\' :: c :: rest =>
      match escape? c with
      | some char => withChar char (basicString rest)
      | none => none
  | c :: rest => if isStringChar c && c != '\\' then withChar c (basicString rest) else none

/-- A string after its single quote, up to the next one. -/
def literalString : Reader Text
  | [] => none
  | '\'' :: rest => some ([], rest)
  | c :: rest => if isStringChar c then withChar c (literalString rest) else none

/-- The end of a string with lines: three quotes, before which one or two may belong to it. -/
def closing? (quote : Char) : Reader Text
  | a :: b :: c :: d :: e :: rest =>
      if a = quote ∧ b = quote ∧ c = quote then
        if d = quote then
          if e = quote then some ([quote, quote], rest) else some ([quote], e :: rest)
        else some ([], d :: e :: rest)
      else none
  | [a, b, c, d] =>
      if a = quote ∧ b = quote ∧ c = quote then
        if d = quote then some ([quote], []) else some ([], [d])
      else none
  | [a, b, c] => if a = quote ∧ b = quote ∧ c = quote then some ([], []) else none
  | _ => none

/-- Where a string with lines and escapes is read. -/
inductive LineMode where
  | plain
  /-- A backslash came, and a line end must come after blanks. -/
  | lineEndDue
  /-- A backslash and a line end came, and what is blank is left out. -/
  | trimming

/-- A string with lines and escapes after its three double quotes. -/
def basicLines (mode : LineMode) : Reader Text
  | [] => none
  | text@('"' :: rest) =>
      match mode with
      | .lineEndDue => none
      | _ =>
          match closing? '"' text with
          | some result => some result
          | none => withChar '"' (basicLines .plain rest)
  | '\n' :: rest =>
      match mode with
      | .plain => withChar '\n' (basicLines .plain rest)
      | _ => basicLines .trimming rest
  | '\r' :: '\n' :: rest =>
      match mode with
      | .plain => withChar '\n' (basicLines .plain rest)
      | _ => basicLines .trimming rest
  | '\\' :: 'u' :: a :: b :: c :: d :: rest =>
      match mode, Text.charOfHex? [a, b, c, d] with
      | .lineEndDue, _ => none
      | _, some char => withChar char (basicLines .plain rest)
      | _, none => none
  | '\\' :: 'U' :: a :: b :: c :: d :: e :: f :: g :: h :: rest =>
      match mode, Text.charOfHex? [a, b, c, d, e, f, g, h] with
      | .lineEndDue, _ => none
      | _, some char => withChar char (basicLines .plain rest)
      | _, none => none
  | '\\' :: c :: rest =>
      match mode with
      | .lineEndDue => none
      | _ =>
          match escape? c with
          | some char => withChar char (basicLines .plain rest)
          | none => basicLines .lineEndDue (c :: rest)
  | c :: rest =>
      match mode with
      | .lineEndDue => if isSpace c then basicLines .lineEndDue rest else none
      | .trimming =>
          if isSpace c then basicLines .trimming rest
          else if isStringChar c && c != '\\' then withChar c (basicLines .plain rest)
          else none
      | .plain =>
          if isStringChar c && c != '\\' then withChar c (basicLines .plain rest) else none

/-- A string with lines after its three single quotes. -/
def literalLines : Reader Text
  | [] => none
  | text@('\'' :: rest) =>
      match closing? '\'' text with
      | some result => some result
      | none => withChar '\'' (literalLines rest)
  | '\n' :: rest => withChar '\n' (literalLines rest)
  | '\r' :: '\n' :: rest => withChar '\n' (literalLines rest)
  | c :: rest => if isStringChar c then withChar c (literalLines rest) else none

/-- A text without a line end directly after the opening quotes. -/
def afterOpening (text : Text) : Text :=
  (lineEnd? text).getD text

def string : Reader Text
  | '"' :: '"' :: '"' :: rest => basicLines .plain (afterOpening rest)
  | '"' :: rest => basicString rest
  | '\'' :: '\'' :: '\'' :: rest => literalLines (afterOpening rest)
  | '\'' :: rest => literalString rest
  | _ => none

end Strings

end Injector.Toml
