import DocMatch.Number.Power
import DocMatch.Number.Scientific
import DocMatch.Path.Error
import DocMatch.Text.Blank
/-!
Reading a path: an optional `$`, then segments.  A segment is a point and a bare
key, or brackets around a quoted key, an index, or nothing at all.  Brackets
around anything else name the place after the last item, and a bracket that is
never closed belongs to the bare key before it.
-/

namespace DocMatch.Path

/-- Whether a bare key goes on with the character. -/
def isBareChar (c : Char) : Bool :=
  c != '.' && c != '['

/-- Read a bare key.  If a bracket follows that nothing closes, the key goes on
up to the next point. -/
def readBareKey (s : List Char) : Option (List Char × List Char) :=
  let (name, rest) := s.span isBareChar
  if name.isEmpty then none
  else if rest.head? == some '[' && !rest.contains ']' then
    let (tail, rest) := rest.span (· != '.')
    some (name ++ tail, rest)
  else some (name, rest)

/-- Read a quoted key after its opening quote, up to the quote and a bracket. -/
def readQuotedKey (quote : Char) (s : List Char) : Option (List Char × List Char) :=
  match s.span (· != quote) with
  | (key, _ :: ']' :: rest) => some (key, rest)
  | _ => none

/-- Indexes lie below this bound. -/
def indexBound : Nat := twoTo 64

/-- The segment of digits in brackets; a number that is no index is read like
any other text. -/
def ofDigits (digits : List Char) : Segment :=
  let n := Scientific.digitsValue digits
  if n < indexBound then .index n else .append

/-- Read an index after its opening bracket. -/
def readIndex (s : List Char) : Option (Segment × List Char) :=
  match Scientific.spanDigits s with
  | (d :: digits, ']' :: rest) => some (ofDigits (d :: digits), rest)
  | _ => none

/-- Read brackets around nothing or around any other text, after the opening one. -/
def readAppend (s : List Char) : Option (Segment × List Char) :=
  match s.span (· != ']') with
  | (_, _ :: rest) => some (.append, rest)
  | _ => none

/-- Read what brackets hold, after the opening one; the first reading that fits counts. -/
def readBracket (s : List Char) : Option (Segment × List Char) :=
  let quoted :=
    match s with
    | '\'' :: rest => readQuotedKey '\'' rest
    | '"' :: rest => readQuotedKey '"' rest
    | _ => none
  match quoted with
  | some (key, rest) => some (.key (String.ofList key), rest)
  | none => (readIndex s).or (readAppend s)

/-- Read one segment. -/
def readSegment : List Char → Option (Segment × List Char)
  | '.' :: s => (readBareKey s).map fun (key, rest) => (.key (String.ofList key), rest)
  | '[' :: s => readBracket s
  | _ => none

/-- Read segments as long as there are any, at most `steps`, and return what follows. -/
def readSegments : Nat → List Char → Path × List Char
  | 0, s => ([], s)
  | steps + 1, s =>
      match readSegment s with
      | none => ([], s)
      | some (segment, rest) =>
          let (segments, rest) := readSegments steps rest
          (segment :: segments, rest)

/-- Read the start of a path: `$`, or else a bare key if there is one. -/
def readStart : List Char → Path × List Char
  | '$' :: s => ([], s)
  | s =>
      match readBareKey s with
      | some (key, rest) => ([.key (String.ofList key)], rest)
      | none => ([], s)

/-- Read as much of a path as possible; each segment takes at least one
character, so the length of the text bounds their number. -/
def readLongest (s : List Char) : Path × List Char :=
  let (first, rest) := readStart s
  let (segments, rest) := readSegments rest.length rest
  (first ++ segments, rest)

/-- Read a path text; blanks around it do not matter. -/
def read (text : String) : Except PathError Path :=
  match readLongest (Text.trim text.toList) with
  | (path, []) => .ok path
  | (_, rest) => .error (.unexpectedText text (String.ofList rest))

end DocMatch.Path
