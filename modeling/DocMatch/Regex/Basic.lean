import DocMatch.Regex.CharSet
/-!
Regular expressions: what they are made of.
-/

namespace DocMatch.Regex

/-- A condition on a place between characters. -/
inductive Look where
  | textStart
  | textEnd
  /-- The start of a line; with `crlf` lines may also end in a carriage return. -/
  | lineStart (crlf : Bool)
  /-- The end of a line. -/
  | lineEnd (crlf : Bool)
  /-- A place between a word character and another one, or its opposite. -/
  | wordBoundary (unicode negated : Bool)
  /-- A place before which there is no word character and after which there is one. -/
  | wordStart (unicode : Bool)
  | wordEnd (unicode : Bool)
  /-- A place before which there is no word character. -/
  | wordStartHalf (unicode : Bool)
  | wordEndHalf (unicode : Bool)
deriving DecidableEq, Repr

/-- A regular expression over atoms of type `α`. -/
inductive Expr (α : Type) where
  | empty
  | atom (a : α)
  | seq (first second : Expr α)
  | alt (left right : Expr α)
  | iterate (body : Expr α) (least : Nat) (most : Option Nat)
deriving Repr

/-- An atom: one character of a set, or a condition. -/
inductive Atom where
  | char (set : CharSet)
  | look (l : Look)
deriving Repr

namespace Expr

variable {α β : Type}

/-- Change every atom. -/
def map (f : α → β) : Expr α → Expr β
  | .empty => .empty
  | .atom a => .atom (f a)
  | .seq a b => .seq (a.map f) (b.map f)
  | .alt a b => .alt (a.map f) (b.map f)
  | .iterate a least most => .iterate (a.map f) least most

/-- One after another. -/
def sequence : List (Expr α) → Expr α
  | [] => .empty
  | [a] => a
  | a :: rest => .seq a (sequence rest)

/-- One of several. -/
def choice : List (Expr α) → Expr α
  | [] => .empty
  | [a] => a
  | a :: rest => .alt a (choice rest)

end Expr

end DocMatch.Regex

namespace DocMatch

/-- A regular expression with its text. -/
structure Regex where
  source : String
  expr : Regex.Expr Regex.Atom
deriving Repr

end DocMatch
