import DocMatch.Regex.Basic
/-!
Expressions without redundant parts, in the form in which automata are built from
them: texts joined, empty parts dropped, and choices between single characters
made sets.
-/

namespace DocMatch.Regex

open Unicode (CodeRange)

/-- An expression without redundant parts. -/
inductive Form where
  | empty
  /-- One character after another. -/
  | literal (text : List Char)
  /-- One character of a set of none or at least two. -/
  | chars (ranges : List CodeRange)
  | look (l : Look)
  | iterate (body : Form) (least : Nat) (most : Option Nat) (lazy : Bool)
  /-- A group whose place in a match is remembered under a number. -/
  | group (number : Nat) (body : Form)
  | seq (parts : List Form)
  | alt (branches : List Form)

namespace Form

mutual

/-- Whether two expressions are the same. -/
def same : Form → Form → Bool
  | .empty, .empty => true
  | .literal s, .literal t => s == t
  | .chars rs, .chars qs => rs == qs
  | .look l, .look k => l == k
  | .iterate a least most lazy, .iterate b least' most' lazy' =>
      least == least' && most == most' && lazy == lazy' && a.same b
  | .group n a, .group m b => n == m && a.same b
  | .seq as, .seq bs => sameAll as bs
  | .alt as, .alt bs => sameAll as bs
  | _, _ => false

/-- Whether two lists hold the same expressions. -/
def sameAll : List Form → List Form → Bool
  | [], [] => true
  | a :: as, b :: bs => a.same b && sameAll as bs
  | _, _ => false

end

/-- One character of a set. -/
def ofRanges : List CodeRange → Form
  | [i] => if i.first = i.last then .literal [Char.ofNat i.first] else .chars [i]
  | ranges => .chars ranges

/-- The form of an atom. -/
def ofAtom : Atom → Form
  | .char set => ofRanges set.charRanges
  | .look l => .look l

mutual

/-- Whether an expression matches empty texts alone. -/
def isEmptyOnly : Form → Bool
  | .empty | .look _ => true
  | .literal _ | .chars _ => false
  | .iterate body _ most _ => most == some 0 || body.isEmptyOnly
  | .group _ body => body.isEmptyOnly
  | .seq parts => areEmptyOnly parts
  | .alt branches => areEmptyOnly branches

/-- Whether all of several expressions match empty texts alone. -/
def areEmptyOnly : List Form → Bool
  | [] => true
  | a :: rest => a.isEmptyOnly && areEmptyOnly rest

end

mutual

/-- The least number of characters in a match; none if a part matches nothing at all. -/
def leastLength? : Form → Option Nat
  | .empty | .look _ => some 0
  | .literal text => some text.length
  | .chars ranges => if ranges.isEmpty then none else some 1
  | .iterate body least _ _ => body.leastLength?.map (· * least)
  | .group _ body => body.leastLength?
  | .seq parts => sumOfLeast? parts
  | .alt branches => minOfLeast? branches

/-- The sum of the least lengths. -/
def sumOfLeast? : List Form → Option Nat
  | [] => some 0
  | a :: rest => do return (← a.leastLength?) + (← sumOfLeast? rest)

/-- The least of the least lengths. -/
def minOfLeast? : List Form → Option Nat
  | [] => none
  | [a] => a.leastLength?
  | a :: rest => do return min (← a.leastLength?) (← minOfLeast? rest)

end

mutual

/-- Whether every match has to satisfy a condition at its start or, backward, at its end. -/
def requires (l : Look) (backward : Bool) : Form → Bool
  | .empty | .literal _ | .chars _ => false
  | .look k => k == l
  | .iterate body least _ _ => 0 < least && body.requires l backward
  | .group _ body => body.requires l backward
  | .seq parts => if backward then endRequires l parts else startRequires l parts
  | .alt branches => allRequire l backward branches

/-- Whether a sequence requires a condition at its start. -/
def startRequires (l : Look) : List Form → Bool
  | [] => false
  | a :: rest => a.requires l false || (a.isEmptyOnly && startRequires l rest)

/-- Whether a sequence requires a condition at its end. -/
def endRequires (l : Look) : List Form → Bool
  | [] => false
  | a :: rest => endRequires l rest || (areEmptyOnly rest && a.requires l true)

/-- Whether all of several expressions require a condition. -/
def allRequire (l : Look) (backward : Bool) : List Form → Bool
  | [] => true
  | a :: rest => a.requires l backward && allRequire l backward rest

end

/-- The parts of an expression that is one of several in a sequence. -/
def parts : Form → List Form
  | .seq parts => parts
  | .empty => []
  | a => [a]

/-- Join texts that follow one another. -/
def joinLiterals : List Form → List Form
  | [] => []
  | .literal text :: rest =>
      match joinLiterals rest with
      | .literal more :: rest => .literal (text ++ more) :: rest
      | rest => .literal text :: rest
  | a :: rest => a :: joinLiterals rest

/-- One expression after another. -/
def concat (forms : List Form) : Form :=
  match joinLiterals (forms.flatMap parts) with
  | [] => .empty
  | [a] => a
  | parts => .seq parts

/-- The branches of an expression that is one of several in a choice. -/
def branches : Form → List Form
  | .alt branches => branches
  | a => [a]

/-- The character of a text of length one. -/
def singleChar? : Form → Option CodeRange
  | .literal [c] => some ⟨c.toNat, c.toNat⟩
  | _ => none

/-- The ranges of a set. -/
def ranges? : Form → Option (List CodeRange)
  | .chars ranges => some ranges
  | _ => none

/-- The set of a choice between single characters, or between sets. -/
def setOfBranches? (branches : List Form) : Option Form :=
  match branches.mapM singleChar? with
  | some singles => some (ofRanges (Unicode.unionOfRanges singles))
  | none => (branches.mapM ranges?).map fun sets => ofRanges (Unicode.unionOfRanges sets.flatten)

/-- The parts with which two lists start. -/
def commonParts : List Form → List Form → List Form
  | a :: as, b :: bs => if a.same b then a :: commonParts as bs else []
  | _, _ => []

/-- The parts of a sequence; none for other expressions. -/
def seqParts? : Form → Option (List Form)
  | .seq parts => some parts
  | _ => none

/-- The parts with which all of several sequences start. -/
def commonStart (branches : List Form) : List Form :=
  match branches.mapM seqParts? with
  | some (first :: rest) => rest.foldl commonParts first
  | _ => []

/-- A choice between branches that have no start in common. -/
def choose (forms : List Form) : Form :=
  match forms.flatMap branches with
  | [a] => a
  | branches => (setOfBranches? branches).getD (.alt branches)

/-- A choice.  A start that all branches share comes before the choice. -/
def choice (forms : List Form) : Form :=
  let branches := forms.flatMap branches
  if branches.length ≤ 1 || (setOfBranches? branches).isSome then choose branches
  else
    match commonStart branches with
    | [] => .alt branches
    | start =>
        concat (start ++ [choose (branches.map fun branch =>
          concat (branch.parts.drop start.length))])

/-- A repetition.  Repeating what matches empty texts alone gives nothing new. -/
def repeated (body : Form) (least : Nat) (most : Option Nat) (lazy : Bool) : Form :=
  let (least, most) :=
    if body.isEmptyOnly then (min least 1, some (min (most.getD 1) 1)) else (least, most)
  if most = some 0 then .empty
  else if least = 1 && most = some 1 then body
  else .iterate body least most lazy

end Form

end DocMatch.Regex
