/-!
Paths: addresses of places in a document.
-/

namespace DocMatch

/-- One step of a path. -/
inductive Segment where
  /-- The entry under a key. -/
  | key (k : String)
  /-- The item at an index. -/
  | index (n : Nat)
  /-- The place after the last item. -/
  | append
deriving DecidableEq, Repr

/-- Steps from the root inwards; the empty path is the root. -/
abbrev Path := List Segment

namespace Path

/-- The path of the enclosing container; the root has none. -/
def parent? (p : Path) : Option Path :=
  if p.isEmpty then none else some p.dropLast

/-- Whether the path ends at the place after the last item. -/
def endsWithAppend (p : Path) : Bool :=
  p.getLast? == some .append

/-- The path without such an end. -/
def withoutAppend (p : Path) : Path :=
  if endsWithAppend p then p.dropLast else p

/-- The characters that a bare key may not hold. -/
def isSpecial (c : Char) : Bool :=
  c == '.' || c == '[' || c == ']' || c == '\'' || c == '"'

/-- Whether a key has to be quoted. -/
def needsQuotes (key : List Char) : Bool :=
  key.isEmpty || key.any isSpecial || key.head? == some '$'

/-- A key as a path writes it: bare after a point, or quoted in brackets. -/
def keyChars (key : List Char) : List Char :=
  if needsQuotes key then
    if key.contains '\'' then '[' :: '"' :: key ++ ['"', ']']
    else '[' :: '\'' :: key ++ ['\'', ']']
  else '.' :: key

/-- A segment as a path writes it. -/
def segmentChars : Segment → List Char
  | .key k => keyChars k.toList
  | .index n => '[' :: Nat.toDigits 10 n ++ [']']
  | .append => ['[', ']']

/-- The text of a path, as characters. -/
def chars (p : Path) : List Char :=
  '$' :: p.flatMap segmentChars

/-- The text of a path. -/
def text (p : Path) : String :=
  String.ofList (chars p)

end Path

end DocMatch
