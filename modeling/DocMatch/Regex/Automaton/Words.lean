import DocMatch.Regex.Automaton.Extent
/-!
Automata that read one of several words, as trees in which words share their
starts.  A word that ends where others go on divides the words before it from those
after it, so that earlier words are preferred.
-/

namespace DocMatch.Regex

/-- What is left of words after a common start, divided at those that end there. -/
def divideWords : List (List Nat) → List (List (Nat × List Nat))
  | [] => [[]]
  | [] :: rest => [] :: divideWords rest
  | (byte :: word) :: rest =>
      match divideWords rest with
      | [] => [[(byte, word)]]
      | group :: groups => ((byte, word) :: group) :: groups

/-- Words without the repetitions of an empty first word. -/
def dropRepeatedEmpty : List (List Nat) → List (List Nat)
  | [] :: rest => [] :: rest.dropWhile List.isEmpty
  | words => words

/-- The bytes with which words start. -/
def firstBytes (group : List (Nat × List Nat)) : List Nat :=
  (group.map Prod.fst).eraseDups

/-- Add the tree of words that are not all empty; `depth` is at least their length.
Each place has a state that branches to the groups of its words, and each group a
state with a transition for each byte. -/
def wordTree : Nat → List (List Nat) → Extent → Extent
  | 0, _, e => e
  | depth + 1, words, e =>
      let groups := divideWords (dropRepeatedEmpty words)
      let filled := groups.filter fun group => !group.isEmpty
      let e := e.add 1 (Extent.alternativeBytes * (filled.length + groups.length - 1))
      filled.foldl
        (fun e group =>
          let bytes := firstBytes group
          let e := e.add 1
            (if bytes.length = 1 then 0 else Extent.transitionBytes * bytes.length)
          bytes.foldl
            (fun e byte =>
              let rest := (group.filter fun entry => entry.1 == byte).map Prod.snd
              if rest.all List.isEmpty then e else wordTree depth rest e)
            e)
        e

/-- Add the automaton that reads one of several words, and the state in which it ends. -/
def wordsExtent (words : List (List Nat)) (e : Extent) : Extent :=
  let depth := words.foldl (fun depth word => max depth word.length) 0
  wordTree (depth + 1) words (e.add 1 0)

end DocMatch.Regex
