import DocMatch.Json.Basic
import DocMatch.Text.Hex
import DocMatch.Text.Search
/-!
The tokens of a JSON text.  Blanks are the four ASCII ones, strings are decoded,
and numbers are read on the spot.
-/

namespace DocMatch.Json

/-- A token of a JSON text; a value that is no container is one token. -/
inductive Token where
  | openArray
  | closeArray
  | openObject
  | closeObject
  | comma
  | colon
  | scalar (value : Json)

namespace Token

/-- The characters that may stand between tokens. -/
def isSpace (c : Char) : Bool :=
  c == ' ' || c == '\t' || c == '\n' || c == '\r'

/-- The number that four hexadecimal digits write. -/
def hexUnit? (a b c d : Char) : Option Nat := do
  return (((← Text.hexValue? a) * 16 + (← Text.hexValue? b)) * 16 + (← Text.hexValue? c)) * 16 +
    (← Text.hexValue? d)

/-- Whether a 16-bit unit opens a surrogate pair. -/
def isHighSurrogate (n : Nat) : Bool :=
  0xD800 ≤ n && n ≤ 0xDBFF

/-- Whether a 16-bit unit closes a surrogate pair. -/
def isLowSurrogate (n : Nat) : Bool :=
  0xDC00 ≤ n && n ≤ 0xDFFF

/-- The character that a surrogate pair denotes. -/
def ofSurrogates (high low : Nat) : Char :=
  Char.ofNat (0x10000 + (high - 0xD800) * 0x400 + (low - 0xDC00))

/-- The character that a backslash and one letter stand for. -/
def escaped? (c : Char) : Option Char :=
  if c = '"' ∨ c = '\\' ∨ c = '/' then some c
  else if c = 'b' then some '\x08'
  else if c = 'f' then some '\x0c'
  else if c = 'n' then some '\n'
  else if c = 'r' then some '\r'
  else if c = 't' then some '\t'
  else none

/-- Put a character in front of a string that has been read. -/
def push (c : Char) (read : Option (List Char × List Char)) : Option (List Char × List Char) :=
  read.map fun (s, rest) => (c :: s, rest)

/-- Read a string up to its closing quote and return what follows.  `high` is an
escaped high surrogate just before, whose other half has to come next. -/
def readString (high : Option Nat) : List Char → Option (List Char × List Char)
  | [] => none
  | ['\\'] => none
  | '\\' :: 'u' :: a :: b :: c :: d :: rest =>
      match hexUnit? a b c d, high with
      | none, _ => none
      | some n, some h =>
          if isLowSurrogate n then push (ofSurrogates h n) (readString none rest) else none
      | some n, none =>
          if isHighSurrogate n then readString (some n) rest
          else if isLowSurrogate n then none
          else push (Char.ofNat n) (readString none rest)
  | '\\' :: c :: rest =>
      match escaped? c, high with
      | some e, none => push e (readString none rest)
      | _, _ => none
  | c :: rest =>
      if high.isSome then none
      else if c = '"' then some ([], rest)
      else if c.toNat < 0x20 then none
      else push c (readString none rest)

/-- Read the token that starts with the character `c`. -/
def readFrom (c : Char) (rest : List Char) : Option (Token × List Char) :=
  match c with
  | '[' => some (.openArray, rest)
  | ']' => some (.closeArray, rest)
  | '{' => some (.openObject, rest)
  | '}' => some (.closeObject, rest)
  | ',' => some (.comma, rest)
  | ':' => some (.colon, rest)
  | '"' => (readString none rest).map fun (s, rest) => (.scalar (.string (String.ofList s)), rest)
  | 'n' => (Text.dropPrefix? "ull".toList rest).map fun rest => (.scalar .null, rest)
  | 't' => (Text.dropPrefix? "rue".toList rest).map fun rest => (.scalar (.bool true), rest)
  | 'f' => (Text.dropPrefix? "alse".toList rest).map fun rest => (.scalar (.bool false), rest)
  | _ => (JsonNumber.readNumber (c :: rest)).map fun (n, rest) => (.scalar (.number n), rest)

/-- The tokens of a text, with as many steps as there are characters left. -/
def readAll : Nat → List Char → Option (List Token)
  | _, [] => some []
  | 0, _ :: _ => none
  | steps + 1, c :: rest =>
      if isSpace c then readAll steps rest
      else
        match readFrom c rest with
        | none => none
        | some (token, rest) => (readAll steps rest).map (token :: ·)

/-- The tokens of a text.  Each takes at least one character, so the length of
the text bounds their number. -/
def ofText? (s : List Char) : Option (List Token) :=
  readAll s.length s

end Token

end DocMatch.Json
