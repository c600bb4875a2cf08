import DocMatch.Regex.Automaton.Size
import DocMatch.Regex.Brackets
/-!
Reading a regular expression.  Flags hold from where they are set to the end of
their group, and are worked into the atoms while reading.
-/

namespace DocMatch.Regex

/-- How deeply an expression may be nested. -/
def nestLimit : Nat := 250

/-- A part of a pattern, with its form without redundant parts and the depth of its
nesting. -/
structure Item where
  expr : Expr Atom
  form : Form
  depth : Nat
  /-- Whether the item only sets flags, so that nothing can repeat it. -/
  isDirective : Bool := false

/-- An atom as an item. -/
def Item.ofAtom (a : Atom) (depth : Nat) : Item :=
  ⟨.atom a, Form.ofAtom a, depth, false⟩

/-- An item in parentheses, which may be a group with a number. -/
def Item.enclosed (item : Item) (number : Option Nat) : Item :=
  let form := match number with
    | some n => .group n item.form
    | none => item.form
  ⟨item.expr, form, item.depth + 1, false⟩

/-- The rest of a pattern, the flags in force, the group names in use and the number
of groups so far. -/
structure Scan where
  rest : List Char
  flags : Flags
  names : List (List Char)
  groups : Nat

/-- The items of one branch, in reverse, as a single part. -/
def sequenceOf (items : List Item) : Item :=
  match items with
  | [item] => { item with isDirective := false }
  | _ =>
      let depth := items.foldl (fun d item => max d item.depth) 0
      ⟨.sequence (items.reverse.map Item.expr), Form.concat (items.reverse.map Item.form),
        if items.isEmpty then 0 else depth + 1, false⟩

/-- The branches of a group, in reverse, as a single part. -/
def choiceOf (branches : List Item) : Item :=
  match branches with
  | [branch] => branch
  | _ =>
      let depth := branches.foldl (fun d branch => max d branch.depth) 0
      ⟨.choice (branches.reverse.map Item.expr), Form.choice (branches.reverse.map Item.form),
        depth + 1, false⟩

/-- Read the flags of a group up to its colon or closing parenthesis.  No flag
is named twice, and one sign of negation has to be followed by a flag. -/
def readFlags : Nat → Flags → Option Bool → List Char → List Char →
    Option (Flags × Bool × List Char)
  | 0, _, _, _, _ => none
  | steps + 1, flags, negation, seen, s =>
      match s with
      | [] => none
      | c :: rest =>
          if c = ':' || c = ')' then
            if negation == some false then none else some (flags, c = ')', rest)
          else if c = '-' then
            if negation.isSome then none else readFlags steps flags (some false) seen rest
          else if seen.contains c then none
          else do
            let flags ← flags.set? c negation.isNone
            readFlags steps flags (negation.map fun _ => true) (c :: seen) rest

/-- Whether a group name may start with the character. -/
def isNameStart (c : Char) : Bool :=
  c == '_' || Unicode.inRuns Unicode.alphabetic c.toNat

/-- Whether a group name may go on with the character. -/
def isNameChar (c : Char) : Bool :=
  isNameStart c || c == '.' || c == '[' || c == ']' ||
    ["nd", "nl", "no"].any fun category => Unicode.inRuns (Unicode.category category) c.toNat

/-- Read the name of a group up to its closing angle bracket. -/
def readGroupName (s : List Char) : Option (List Char × List Char) := do
  let (name, rest) ← splitAt? ['>'] s
  if name.head?.any isNameStart && name.all isNameChar then some (name, rest) else none

/-- What an opening parenthesis starts. -/
inductive GroupStart where
  /-- A group with its flags, and with its number if it is remembered. -/
  | group (inside : Scan) (number : Option Nat)
  /-- A change of the flags of the group around it. -/
  | directive (after : Scan)

/-- The openings of conditions on the text around, which there are none of. -/
def isLookAround (s : List Char) : Bool :=
  ["?=", "?!", "?<=", "?<!"].any fun opening => Text.startsWith opening.toList s

/-- Read the start of a group after its parenthesis. -/
def readGroupStart (scan : Scan) : Option GroupStart :=
  let s := skip scan.flags scan.rest
  let number := scan.groups + 1
  if isLookAround s then none
  else
    match (Text.dropPrefix? "?P<".toList s).or (Text.dropPrefix? "?<".toList s) with
    | some rest => do
        let (name, rest) ← readGroupName rest
        if scan.names.contains name then none
        else
          return .group { scan with rest := rest, names := name :: scan.names, groups := number }
            (some number)
    | none =>
        match s with
        | '?' :: rest => do
            let (flags, isDirective, after) ← readFlags (rest.length + 1) scan.flags none [] rest
            if isDirective then
              if rest.head? == some ')' then none
              else return .directive { scan with rest := after, flags := flags }
            else return .group { scan with rest := after, flags := flags } none
        | _ => some (.group { scan with rest := s, groups := number } (some number))

/-- How often a part is repeated, and whether fewer rounds are preferred. -/
structure Repetition where
  least : Nat
  most : Option Nat
  lazy : Bool

/-- Read the sign that marks a repetition, which goes against what the flags prefer. -/
def readLazy (flags : Flags) (least : Nat) (most : Option Nat) :
    List Char → Repetition × List Char
  | '?' :: rest => (⟨least, most, !flags.lazy⟩, rest)
  | s => (⟨least, most, flags.lazy⟩, s)

/-- Repeat the last item, if there is one that can be repeated. -/
def repeatLast (items : List Item) (r : Repetition) : Option (List Item) :=
  match items with
  | item :: before =>
      if item.isDirective then none
      else
        some (⟨.iterate item.expr r.least r.most, item.form.repeated r.least r.most r.lazy,
          item.depth + 1, false⟩ :: before)
  | [] => none

/-- Read a counted repetition after its opening brace. -/
def readRepetition (flags : Flags) (s : List Char) : Option (Repetition × List Char) := do
  let finish (least : Nat) (most : Option Nat) (s : List Char) :
      Option (Repetition × List Char) :=
    match s with
    | '}' :: rest =>
        if most.all fun most => least ≤ most then
          some (readLazy flags least most (skip flags rest))
        else none
    | _ => none
  let (least, s) ← readCount flags (skip flags s)
  match s with
  | ',' :: rest =>
      match skip flags rest with
      | '}' :: rest => finish least none ('}' :: rest)
      | rest => do
          let (most, s) ← readCount flags rest
          finish least (some most) s
  | s => finish least (some least) s

/-- Read a repetition, if the character `c` starts one. -/
def readOperator (flags : Flags) (c : Char) (rest : List Char) :
    Option (Option (Repetition × List Char)) :=
  match c with
  | '?' => some (some (readLazy flags 0 (some 1) rest))
  | '*' => some (some (readLazy flags 0 none rest))
  | '+' => some (some (readLazy flags 1 none rest))
  | '{' => (readRepetition flags rest).map some
  | _ => some none

/-- The atom of a literal. -/
def literalAtom (flags : Flags) (c : Char) : Atom :=
  .char (if flags.unicode || c.toNat < 0x80 then foldedIf flags (.single c) else .single c)

/-- The atom of a primitive. -/
def Primitive.atom (flags : Flags) : Primitive → Atom
  | .literal c => literalAtom flags c
  | .set chars => .char chars
  | .look condition => .look condition

/-- The atom of a point: any character, or any but the end of a line.  It needs Unicode. -/
def dotAtom? (flags : Flags) : Option Atom :=
  if !flags.unicode then none
  else if flags.dotAll then some (.char .all)
  else if flags.crlf then some (.char (.compl (.union (.single '\n') (.single '\r'))))
  else some (.char (.compl (.single '\n')))

/-- Read a point, an anchor, an escape or a literal that starts with `c`. -/
def readAtom (flags : Flags) (c : Char) (rest : List Char) : Option (Atom × List Char) :=
  match c with
  | '.' => (dotAtom? flags).map (·, rest)
  | '^' => some (.look (if flags.multiLine then .lineStart flags.crlf else .textStart), rest)
  | '$' => some (.look (if flags.multiLine then .lineEnd flags.crlf else .textEnd), rest)
  | '\\' => (readEscape flags rest).map fun (p, rest) => (p.atom flags, rest)
  | c => some (literalAtom flags c, rest)

/-- Read a group up to its closing parenthesis, or the whole pattern up to its
end.  The items of the current branch and the branches before it are in reverse. -/
def readBody : Nat → List Item → List Item → Scan → Option (Item × Scan)
  | 0, _, _, _ => none
  | steps + 1, items, branches, scan =>
      let flags := scan.flags
      let finished := choiceOf (sequenceOf items :: branches)
      match skip flags scan.rest with
      | [] => some (finished, { scan with rest := [] })
      | ')' :: rest => some (finished, { scan with rest := ')' :: rest })
      | '|' :: rest =>
          readBody steps [] (sequenceOf items :: branches) { scan with rest := rest }
      | '(' :: rest => do
          match ← readGroupStart { scan with rest := rest } with
          | .directive after =>
              readBody steps (⟨.empty, .empty, 0, true⟩ :: items) branches after
          | .group inside number =>
              let (body, inside) ← readBody steps [] [] inside
              match inside.rest with
              | ')' :: rest =>
                  readBody steps (body.enclosed number :: items) branches
                    { scan with rest := rest, names := inside.names, groups := inside.groups }
              | _ => none
      | '[' :: rest => do
          let (negated, start, rest) := openClass flags rest
          let (nested, rest) ← readClass flags negated (rest.length + 1) start none rest
          readBody steps (Item.ofAtom (.char nested.set) nested.depth :: items) branches
            { scan with rest := rest }
      | c :: rest => do
          match ← readOperator flags c rest with
          | some (repetition, rest) =>
              let items ← repeatLast items repetition
              readBody steps items branches { scan with rest := rest }
          | none =>
              let (atom, rest) ← readAtom flags c rest
              readBody steps (Item.ofAtom atom 0 :: items) branches { scan with rest := rest }

/-- Read a pattern.  Every step takes at least one character, so the length of
the text bounds their number. -/
def readExpr? (s : List Char) : Option (Expr Atom) := do
  let (body, scan) ← readBody (s.length + 1) [] [] ⟨s, .initial, [], 0⟩
  if scan.rest.isEmpty && body.depth ≤ nestLimit && body.form.isSmall then
    some body.expr
  else none

/-- Read a regular expression. -/
def read? (source : String) : Option Regex :=
  (readExpr? source.toList).map fun expr => ⟨source, expr⟩

end DocMatch.Regex
