import DocMatch.Regex.Basic
import DocMatch.Regex.Flags
import DocMatch.Regex.Property
import DocMatch.Text.Search
/-!
Reading the escapes of a regular expression: literals, sets of characters and
conditions.
-/

namespace DocMatch.Regex

/-- What an escape or a single character stands for. -/
inductive Primitive where
  | literal (c : Char)
  | set (set : CharSet)
  | look (l : Look)

/-- The characters with a meaning of their own. -/
def isMeta (c : Char) : Bool :=
  "\\.+*?()|[]\x7b\x7d^$#&-~".toList.contains c

/-- The characters that stand for themselves after a backslash. -/
def isEscapable (c : Char) : Bool :=
  isMeta c || (c.toNat < 0x80 && !c.isAlphanum && c != '<' && c != '>')

/-- A code point written in hexadecimal digits. -/
def hexChar? (digits : List Char) : Option Char :=
  let n := Text.digitsValue 16 digits
  if n.isValidChar then some (Char.ofNat n) else none

/-- Read exactly `count` hexadecimal digits. -/
def readHexDigits (flags : Flags) : Nat → List Char → Option (List Char × List Char)
  | 0, s => some ([], s)
  | count + 1, c :: rest =>
      if Text.isHexDigit c then
        (readHexDigits flags count (skip flags rest)).map fun (digits, rest) => (c :: digits, rest)
      else none
  | _ + 1, [] => none

/-- Read hexadecimal digits up to a closing brace. -/
def readHexBrace (flags : Flags) : Nat → List Char → Option (List Char × List Char)
  | 0, _ => none
  | steps + 1, s =>
      match skip flags s with
      | [] => none
      | '}' :: rest => some ([], skip flags rest)
      | c :: rest =>
          if Text.isHexDigit c then
            (readHexBrace flags steps rest).map fun (digits, rest) => (c :: digits, rest)
          else none

/-- Read the code point of a hexadecimal escape after its letter.  A byte beyond
ASCII is no character where Unicode is off. -/
def readHex (flags : Flags) (count : Nat) (s : List Char) : Option (Char × List Char) :=
  match skip flags s with
  | '{' :: rest => do
      let (digits, rest) ← readHexBrace flags (rest.length + 1) rest
      if digits.isEmpty then none else return (← hexChar? digits, rest)
  | s => do
      let (digits, rest) ← readHexDigits flags count s
      let c ← hexChar? digits
      if count = 2 && !flags.unicode && 0x80 ≤ c.toNat then none else return (c, rest)

/-- Read a property name up to its closing brace. -/
def readPropertyName (flags : Flags) : Nat → List Char → Option (List Char × List Char)
  | 0, _ => none
  | steps + 1, s =>
      match skip flags s with
      | [] => none
      | '}' :: rest => some ([], rest)
      | c :: rest =>
          (readPropertyName flags steps rest).map fun (name, rest) => (c :: name, rest)

/-- Split a text at the first occurrence of a separator. -/
def splitAt? (separator : List Char) : List Char → Option (List Char × List Char)
  | [] => none
  | c :: rest =>
      match Text.dropPrefix? separator (c :: rest) with
      | some after => some ([], after)
      | none => (splitAt? separator rest).map fun (before, after) => (c :: before, after)

/-- The set of a property expression: a name, or a name and a value.  The flag
says whether the expression is for a different value, so that the complement of
the set is meant. -/
def propertySet? (s : List Char) : Option (CharSet × Bool) :=
  match splitAt? ['!', '='] s with
  | some (name, value) => (CharSet.propertyValue? name value).map (·, true)
  | none =>
      match (splitAt? [':'] s).or (splitAt? ['='] s) with
      | some (name, value) => (CharSet.propertyValue? name value).map (·, false)
      | none => (CharSet.property? s).map (·, false)

/-- A set closed under case variants, if case is ignored. -/
def foldedIf (flags : Flags) (set : CharSet) : CharSet :=
  if !flags.ignoreCase then set
  else if flags.unicode then .folded set
  else .asciiFolded set

/-- Read a property escape after its letter.  Case variants join the set before
its complement is taken, and two negations cancel. -/
def readProperty (flags : Flags) (negated : Bool) (s : List Char) :
    Option (CharSet × List Char) := do
  if !flags.unicode then none
  else
    let (name, rest) ← match skip flags s with
      | '{' :: rest => readPropertyName flags (rest.length + 1) rest
      | '\\' :: _ | [] => none
      | c :: rest => some ([c], skip flags rest)
    let (set, different) ← propertySet? name
    return (CharSet.negatedIf (negated != different) (foldedIf flags set), rest)

/-- The set of a one-letter class escape.  Its complement needs Unicode. -/
def classEscape? (flags : Flags) (c : Char) : Option CharSet :=
  let pick (unicodeSet asciiSet : CharSet) (negated : Bool) : Option CharSet :=
    if flags.unicode then some (.negatedIf negated unicodeSet)
    else if negated then none else some asciiSet
  match c with
  | 'd' => pick .digits .asciiDigits false
  | 'D' => pick .digits .asciiDigits true
  | 's' => pick .blanks .asciiBlanks false
  | 'S' => pick .blanks .asciiBlanks true
  | 'w' => pick .wordChars .asciiWordChars false
  | 'W' => pick .wordChars .asciiWordChars true
  | _ => none

/-- The letters and the hyphen, of which the names of word conditions consist. -/
def isConditionChar (c : Char) : Bool :=
  c.isAlpha || c == '-'

/-- Read the name of a word condition up to its closing brace. -/
def readConditionName (flags : Flags) : Nat → List Char → Option (List Char × List Char)
  | 0, _ => none
  | steps + 1, s =>
      match s with
      | '}' :: rest => some ([], rest)
      | c :: rest =>
          if isConditionChar c then
            (readConditionName flags steps (skip flags rest)).map fun (name, rest) =>
              (c :: name, rest)
          else none
      | [] => none

/-- Read what follows the letter of a word boundary: the name of a special
condition in braces, unless the braces hold a count. -/
def readBoundary (flags : Flags) (s : List Char) : Option (Look × List Char) :=
  match s with
  | '{' :: rest =>
      match skip flags rest with
      | [] => none
      | c :: after =>
          if !isConditionChar c then some (.wordBoundary flags.unicode false, s)
          else do
            let (name, rest) ← readConditionName flags (after.length + 2) (c :: after)
            match String.ofList name with
            | "start" => some (.wordStart flags.unicode, rest)
            | "end" => some (.wordEnd flags.unicode, rest)
            | "start-half" => some (.wordStartHalf flags.unicode, rest)
            | "end-half" => some (.wordEndHalf flags.unicode, rest)
            | _ => none
  | _ => some (.wordBoundary flags.unicode false, s)

/-- Read an escape after its backslash. -/
def readEscape (flags : Flags) : List Char → Option (Primitive × List Char)
  | [] => none
  | c :: rest =>
      match c with
      | 'x' => (readHex flags 2 rest).map fun (c, rest) => (.literal c, rest)
      | 'u' => (readHex flags 4 rest).map fun (c, rest) => (.literal c, rest)
      | 'U' => (readHex flags 8 rest).map fun (c, rest) => (.literal c, rest)
      | 'p' => (readProperty flags false rest).map fun (set, rest) => (.set set, rest)
      | 'P' => (readProperty flags true rest).map fun (set, rest) => (.set set, rest)
      | 'd' | 'D' | 's' | 'S' | 'w' | 'W' =>
          (classEscape? flags c).map fun set => (.set set, rest)
      | 'a' => some (.literal '\x07', rest)
      | 'f' => some (.literal '\x0c', rest)
      | 't' => some (.literal '\t', rest)
      | 'n' => some (.literal '\n', rest)
      | 'r' => some (.literal '\r', rest)
      | 'v' => some (.literal '\x0b', rest)
      | 'A' => some (.look .textStart, rest)
      | 'z' => some (.look .textEnd, rest)
      | 'b' => (readBoundary flags rest).map fun (l, rest) => (.look l, rest)
      | 'B' => some (.look (.wordBoundary flags.unicode true), rest)
      | '<' => some (.look (.wordStart flags.unicode), rest)
      | '>' => some (.look (.wordEnd flags.unicode), rest)
      | _ => if isEscapable c then some (.literal c, rest) else none

end DocMatch.Regex
