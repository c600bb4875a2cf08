import DocMatch.Markup.Token
import DocMatch.Number.Power
import DocMatch.Text.Hex
/-!
Decoding text and attribute values: references become the characters they name,
line ends become line feeds, and in attribute values blanks become spaces.
Characters named by a reference are exempt from that.
-/

namespace DocMatch.Markup

/-- A character of a raw text, as written or named by a reference. -/
inductive Piece where
  | literal (c : Char)
  | reference (c : Char)
deriving DecidableEq, Repr

/-- The characters that have an entity without a declaration. -/
def entity? (name : List Char) : Option Char :=
  if name = "quot".toList then some '"'
  else if name = "amp".toList then some '&'
  else if name = "apos".toList then some '\''
  else if name = "lt".toList then some '<'
  else if name = "gt".toList then some '>'
  else none

/-- The number that digits write in a base, if there are digits and it fits 32 bits. -/
def codePoint? (base : Nat) (digits : List Char) : Option Nat :=
  let n := Text.digitsValue base digits
  if digits.isEmpty || twoTo 32 ≤ n then none else some n

/-- The character of a code point; what is none becomes the replacement
character, and one that no document may hold is refused. -/
def documentChar? (n : Nat) : Option Char :=
  let c := if n.isValidChar then Char.ofNat n else '\uFFFD'
  if isDocumentChar c then some c else none

/-- Read a reference after its ampersand. -/
def readReference (s : List Char) : Option (Char × List Char) :=
  let closed (c : Option Char) (rest : List Char) : Option (Char × List Char) :=
    match c, rest with
    | some c, ';' :: rest => some (c, rest)
    | _, _ => none
  match s with
  | '#' :: 'x' :: rest =>
      let (digits, rest) := rest.span Text.isHexDigit
      closed ((codePoint? 16 digits).bind documentChar?) rest
  | '#' :: rest =>
      let (digits, rest) := rest.span Char.isDigit
      closed ((codePoint? 10 digits).bind documentChar?) rest
  | _ =>
      let (name, rest) := s.span fun c => isNameChar c || c == ':'
      closed (entity? name) rest

/-- The pieces of a raw text, with as many steps as there are characters left. -/
def readPieces : Nat → List Char → Option (List Piece)
  | _, [] => some []
  | 0, _ :: _ => none
  | steps + 1, c :: rest =>
      if c = '&' then
        match readReference rest with
        | none => none
        | some (c, rest) => (readPieces steps rest).map (.reference c :: ·)
      else (readPieces steps rest).map (.literal c :: ·)

/-- The pieces of a raw text. -/
def pieces? (raw : List Char) : Option (List Piece) :=
  readPieces raw.length raw

/-- The value of an attribute: each line end and each tab is one space. -/
def attributeValue : List Piece → List Char
  | [] => []
  | .reference c :: rest => c :: attributeValue rest
  | .literal '\r' :: .literal '\n' :: rest => ' ' :: attributeValue rest
  | .literal c :: rest =>
      (if c = '\n' || c = '\r' || c = '\t' then ' ' else c) :: attributeValue rest

/-- Append a character to a text held in reverse.  A carriage return becomes a
line feed as soon as the next character shows whether a line feed follows it;
at the end of a text it becomes one at once. -/
def appendChar (reversed : List Char) (c : Char) (isLast : Bool) : List Char :=
  let c' := if isLast && c = '\r' then '\n' else c
  match reversed with
  | '\r' :: before => if c = '\n' then '\n' :: before else c' :: '\n' :: before
  | _ => c' :: reversed

/-- The characters of a text in reverse, appended to `reversed`.  A referenced
character and the literal one after it are taken as they are. -/
def appendPieces (reversed : List Char) (exempt : Bool) : List Piece → List Char
  | [] => reversed
  | .reference c :: rest => appendPieces (c :: reversed) true rest
  | .literal c :: rest =>
      if exempt then appendPieces (c :: reversed) false rest
      else appendPieces (appendChar reversed c rest.isEmpty) false rest

/-- The characters of a run of text. -/
def textValue (pieces : List Piece) : List Char :=
  (appendPieces [] false pieces).reverse

/-- The characters of a character data section, where nothing is a reference. -/
def characterDataValue (raw : List Char) : List Char :=
  textValue (raw.map .literal)

end DocMatch.Markup
