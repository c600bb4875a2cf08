import DocMatch.Text.Search
/-!
The tokens of a markup text: tags with their attributes still undecoded, runs of
text, character data sections, and what only separates text, which is comments
and processing instructions.  A document type declaration is no token.
-/

namespace DocMatch.Markup

/-- A name with an optional qualifier in front of a colon. -/
structure QName where
  qualifier : List Char
  name : List Char
deriving DecidableEq, Repr

/-- A token of a markup text. -/
inductive Token where
  | startTag (name : QName) (attributes : List (QName × List Char)) (isEmpty : Bool)
  | endTag (name : QName)
  | text (raw : List Char)
  | characterData (raw : List Char)
  | separator
deriving Repr

/-- The four blanks of markup. -/
def isSpace (c : Char) : Bool :=
  c == ' ' || c == '\t' || c == '\n' || c == '\r'

/-- The characters that a document may hold. -/
def isDocumentChar (c : Char) : Bool :=
  if c.toNat < 0x20 then isSpace c else c.toNat ≠ 0xFFFE && c.toNat ≠ 0xFFFF

/-- The ranges beyond ASCII in which a name may start. -/
def nameStartRanges : List (Nat × Nat) :=
  [(0xC0, 0xD6), (0xD8, 0xF6), (0xF8, 0x2FF), (0x370, 0x37D), (0x37F, 0x1FFF),
   (0x200C, 0x200D), (0x2070, 0x218F), (0x2C00, 0x2FEF), (0x3001, 0xD7FF),
   (0xF900, 0xFDCF), (0xFDF0, 0xFFFD), (0x10000, 0xEFFFF)]

/-- The ranges beyond ASCII with which a name may only go on. -/
def nameRestRanges : List (Nat × Nat) :=
  [(0xB7, 0xB7), (0x300, 0x36F), (0x203F, 0x2040)]

/-- Whether a code point lies in one of the ranges. -/
def inRanges (ranges : List (Nat × Nat)) (n : Nat) : Bool :=
  ranges.any fun (low, high) => low ≤ n && n ≤ high

/-- Whether a name may start with the character; the colon is no part of a name here. -/
def isNameStart (c : Char) : Bool :=
  c.isAlpha || c == '_' || inRanges nameStartRanges c.toNat

/-- Whether a name may go on with the character. -/
def isNameChar (c : Char) : Bool :=
  isNameStart c || c.isDigit || c == '-' || c == '.' || inRanges nameRestRanges c.toNat

/-- Skip blanks. -/
def skipSpaces (s : List Char) : List Char :=
  s.dropWhile isSpace

/-- Read up to a delimiter and return what follows it.  All characters before
it have to be document characters. -/
def readUntil (delimiter : List Char) : List Char → Option (List Char × List Char)
  | [] => none
  | c :: rest =>
      match Text.dropPrefix? delimiter (c :: rest) with
      | some after => some ([], after)
      | none =>
          if isDocumentChar c then
            (readUntil delimiter rest).map fun (read, after) => (c :: read, after)
          else none

/-- A qualified name from its two parts, if both may start a name.  The
qualifier may be missing, the name itself may not. -/
def QName.ofParts? (qualifier name : List Char) : Option QName :=
  if qualifier.head?.all isNameStart && name.head?.any isNameStart then
    some ⟨qualifier, name⟩
  else none

/-- Read a qualified name. -/
def readQName (s : List Char) : Option (QName × List Char) :=
  let (first, rest) := s.span isNameChar
  match rest with
  | ':' :: rest =>
      let (second, rest) := rest.span isNameChar
      (QName.ofParts? first second).map (·, rest)
  | _ => (QName.ofParts? [] first).map (·, rest)

/-- Read an attribute value up to its closing quote; a `<` may not stand in it. -/
def readValue (quote : Char) : List Char → Option (List Char × List Char)
  | [] => none
  | c :: rest =>
      if c = quote then some ([], rest)
      else if c = '<' || !isDocumentChar c then none
      else (readValue quote rest).map fun (value, after) => (c :: value, after)

/-- Read a name, an equals sign and a quoted value. -/
def readAttribute (s : List Char) : Option ((QName × List Char) × List Char) := do
  let (name, s) ← readQName s
  match skipSpaces s with
  | '=' :: s =>
      match skipSpaces s with
      | quote :: s =>
          if quote = '"' || quote = '\'' then
            let (value, s) ← readValue quote s
            return ((name, value), s)
          else none
      | [] => none
  | _ => none

/-- Read the attributes of a tag and its end, which may mark it as empty.  Each
attribute has a blank before it, so the length of the text bounds their number. -/
def readAttributes : Nat → List Char → Option (List (QName × List Char) × Bool × List Char)
  | 0, _ => none
  | steps + 1, s =>
      match skipSpaces s with
      | '/' :: '>' :: rest => some ([], true, rest)
      | '>' :: rest => some ([], false, rest)
      | rest =>
          if s.head?.any isSpace then do
            let (first, s) ← readAttribute rest
            let (attributes, isEmpty, s) ← readAttributes steps s
            return (first :: attributes, isEmpty, s)
          else none

/-- Read a comment after its opening `<!--`; two hyphens may only end it. -/
def readComment (s : List Char) : Option (Token × List Char) := do
  let (body, rest) ← readUntil "-->".toList s
  if Text.occursIn ['-', '-'] body || body.getLast? == some '-' then none
  else return (.separator, rest)

/-- Read a processing instruction after its opening `<?`. -/
def readInstruction (s : List Char) : Option (Token × List Char) := do
  let isTargetChar (c : Char) : Bool := isNameChar c || c == ':'
  if Text.startsWith "xml ".toList s then none
  else if s.head?.any fun c => isNameStart c || c == ':' then
    let (_, rest) ← readUntil "?>".toList (s.dropWhile isTargetChar)
    return (.separator, rest)
  else none

/-- Read an end tag after its opening `</`. -/
def readEndTag (s : List Char) : Option (Token × List Char) := do
  let (name, s) ← readQName s
  match skipSpaces s with
  | '>' :: rest => some (.endTag name, rest)
  | _ => none

/-- Read a start tag after its opening `<`. -/
def readStartTag (s : List Char) : Option (Token × List Char) := do
  let (name, s) ← readQName s
  let (attributes, isEmpty, rest) ← readAttributes (s.length + 1) s
  return (.startTag name attributes isEmpty, rest)

/-- Read what starts with a `<`. -/
def readTag (s : List Char) : Option (Token × List Char) :=
  match s with
  | '!' :: rest =>
      match Text.dropPrefix? "--".toList rest, Text.dropPrefix? "[CDATA[".toList rest with
      | some rest, _ => readComment rest
      | _, some rest =>
          (readUntil "]]>".toList rest).map fun (raw, rest) => (.characterData raw, rest)
      | _, _ => none
  | '?' :: rest => readInstruction rest
  | '/' :: rest => readEndTag rest
  | _ => readStartTag s

/-- Read a run of text up to the next tag; the end of a character data section
may not stand in it. -/
def readText (s : List Char) : Option (Token × List Char) :=
  let (raw, rest) := s.span (· != '<')
  if raw.all isDocumentChar && !Text.occursIn "]]>".toList raw then some (.text raw, rest)
  else none

/-- The tokens of a text, with as many steps as there are characters left. -/
def readAll : Nat → List Char → Option (List Token)
  | _, [] => some []
  | 0, _ :: _ => none
  | steps + 1, c :: rest =>
      match if c = '<' then readTag rest else readText (c :: rest) with
      | none => none
      | some (token, rest) => (readAll steps rest).map (token :: ·)

/-- Skip the blanks inside a declaration, which have to be there unless it ends. -/
def skipDeclared (s : List Char) : Option (List Char) :=
  if s.head?.any isSpace then some (skipSpaces s)
  else if Text.startsWith "?>".toList s then some s
  else none

/-- Skip an optional attribute of a declaration whose name starts as given. -/
def skipDeclaredAttribute (name : String) (s : List Char) : Option (List Char) :=
  if Text.startsWith name.toList s then (readAttribute s).map (·.2) else some s

/-- Skip a declaration after its opening `<?xml`: the version, then optionally the
encoding, then optionally whether the document stands alone. -/
def skipDeclaration (s : List Char) : Option (List Char) := do
  let s ← skipDeclared s
  if !Text.startsWith "version".toList s then none
  else
    let (_, s) ← readAttribute s
    let s ← skipDeclared s
    let s ← if Text.startsWith "encoding".toList s then do
        let (_, s) ← readAttribute s
        skipDeclared s
      else some s
    let s ← skipDeclaredAttribute "standalone" s
    Text.dropPrefix? "?>".toList (skipSpaces s)

/-- The tokens of a document, after an optional byte order mark and declaration. -/
def tokens? (s : List Char) : Option (List Token) := do
  let s := (Text.dropPrefix? ['\uFEFF'] s).getD s
  let s ← if Text.startsWith "<?xml ".toList s then skipDeclaration (s.drop 5) else some s
  readAll s.length s

end DocMatch.Markup
