import Injector.Toml.Scalar
import Injector.Toml.Table
/-!
TOML documents: lines that say something, with comments and empty lines between them. What they say
is made of keys and values.
-/
namespace Injector.Toml

section Values

/-- Whether a key may hold a character without quotes. -/
def isBareChar (c : Char) : Bool :=
  c.isAlphanum || c == '-' || c == '_'

/-- One part of a key, with blanks around it. -/
def keyPart (text : Text) : Option (Text × Text) := do
  let (part, rest) ←
    match skipSpaces text with
    | '"' :: rest => basicString rest
    | '\'' :: rest => literalString rest
    | text =>
        match text.span isBareChar with
        | ([], _) => none
        | result => some result
  return (part, skipSpaces rest)

/-- A key, whose parts are parted by dots; it has no more than `most` parts. -/
def keyParts : (most : Nat) → Reader Path
  | 0, _ => none
  | most + 1, text => do
      let (part, rest) ← keyPart text
      match rest with
      | '.' :: rest =>
          let (path, rest) ← keyParts most rest
          return ({ path with parents := part :: path.parents }, rest)
      | rest => return (⟨[], part⟩, rest)

/-- The most parts that a key has, and the most arrays and inline tables that stand in each
other. -/
def deepest : Nat := 79

def key : Reader Path :=
  keyParts deepest

/-- Items with commas between them, up to a closing character. A comma may follow the last item if
`trailing` says so. Every item takes a character or more, so `fuel` need not exceed the length of
the text. -/
def itemsUntil {α : Type} (item : Reader α) (skip : Text → Option Text) (trailing : Bool)
    (close : Char) : (fuel : Nat) → Reader (List α)
  | 0, _ => none
  | fuel + 1, text => do
      let (first, rest) ← item (← skip text)
      match ← skip rest with
      | [] => none
      | c :: rest =>
          if c = close then return ([first], rest)
          else if c = ',' then
            match trailing, (← skip rest) with
            | true, next :: afterNext =>
                if next = close then return ([first], afterNext)
                else
                  let (others, rest) ← itemsUntil item skip trailing close fuel rest
                  return (first :: others, rest)
            | _, _ =>
                let (others, rest) ← itemsUntil item skip trailing close fuel rest
                return (first :: others, rest)
          else none

/-- Items with commas between them, after an opening character, or none at all. -/
def items {α : Type} (item : Reader α) (skip : Text → Option Text) (trailing : Bool)
    (close : Char) (text : Text) : Option (List α × Text) := do
  match ← skip text with
  | [] => none
  | c :: rest =>
      if c = close then return ([], rest)
      else itemsUntil item skip trailing close text.length text

def pair (value : Reader Value) (text : Text) : Option ((Path × Value) × Text) := do
  let (path, rest) ← key text
  let (value, rest) ← value (skipSpaces (← after '=' rest))
  return ((path, value), rest)

def numeral (text : Text) : Option (Value × Text) :=
  match moment text with
  | some (literal, rest) => some (.moment literal, rest)
  | none =>
      match float text with
      | some (literal, rest) => some (.float literal, rest)
      | none => (integer text).map fun (value, rest) => (.integer value, rest)

/-- A value in which no more than `depth` arrays and inline tables stand in each other. -/
def value : (depth : Nat) → Reader Value
  | _, 't' :: 'r' :: 'u' :: 'e' :: rest => some (.boolean true, rest)
  | _, 'f' :: 'a' :: 'l' :: 's' :: 'e' :: rest => some (.boolean false, rest)
  | 0, '[' :: _ => none
  | depth + 1, '[' :: rest => do
      let (values, rest) ← items (value depth) (skipLines false) true ']' rest
      return (.array values, rest)
  | 0, '\x7b' :: _ => none
  | depth + 1, '\x7b' :: rest => do
      let (pairs, rest) ← items (pair (value depth)) (some ∘ skipSpaces) false '\x7d' rest
      return (.inline (← Table.ofAssignments? pairs), rest)
  | _, '"' :: rest => (string ('"' :: rest)).map fun (value, rest) => (.string value, rest)
  | _, '\'' :: rest => (string ('\'' :: rest)).map fun (value, rest) => (.string value, rest)
  | _, text => numeral text

end Values

section Documents

def skipMark : Text → Text
  | '\uFEFF' :: rest => rest
  | text => text

/-- The header or the assignment at the front of a line, with the rest of that line. -/
def statement (text : Text) : Option (Statement × Text) :=
  match text with
  | '[' :: '[' :: rest => do
      let (path, rest) ← key rest
      return (.element path, ← finishLine? (← after ']' (← after ']' rest)))
  | '[' :: rest => do
      let (path, rest) ← key rest
      return (.table path, ← finishLine? (← after ']' rest))
  | _ => do
      let ((path, value), rest) ← pair (value deepest) text
      return (.assignment path value, ← finishLine? rest)

/-- The statements of a document. Every line takes a character or more, so `fuel` need not exceed
the length of the text. -/
def statements : (fuel : Nat) → Text → Option (List Statement)
  | 0, text => if (skipSpaces text).isEmpty then some [] else none
  | fuel + 1, text =>
      match skipSpaces text with
      | [] => some []
      | '#' :: rest => do
          statements fuel (← finishLine? ('#' :: rest))
      | text =>
          match lineEnd? text with
          | some rest => statements fuel rest
          | none => do
              let (first, rest) ← statement text
              return first :: (← statements fuel rest)

/-- The root table of a document, if the document is well formed. -/
def document? (text : Text) : Option Table := do
  Table.empty.follow [] (← statements text.length (skipMark text))

end Documents

end Injector.Toml
