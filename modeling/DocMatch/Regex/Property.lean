import DocMatch.Regex.CharSet
import DocMatch.Unicode.Age
import DocMatch.Unicode.GraphemeBreak
import DocMatch.Unicode.SentenceBreak
import DocMatch.Unicode.WordBreak
/-!
Looking up a Unicode property by name.  Case, blanks, hyphens, underscores and a
leading `is` do not matter in names.
-/

namespace DocMatch.Regex.CharSet

/-- Drop a leading `is` in any case. -/
def dropIs : List Char → Option (List Char)
  | i :: s :: rest => if i.toLower = 'i' && s.toLower = 's' then some rest else none
  | _ => none

/-- A name in the form in which tables hold it. -/
def propertyName (s : List Char) : String :=
  let reduce (s : List Char) : List Char :=
    (s.filter fun c => c.toNat < 0x80 && c != ' ' && c != '_' && c != '-').map Char.toLower
  match dropIs s with
  | some rest => if reduce rest = ['c'] then "isc" else String.ofList (reduce rest)
  | none => String.ofList (reduce s)

/-- All characters that have been assigned. -/
def assigned : CharSet :=
  unions (Unicode.categories.map fun entry => .runs (Unicode.runsOfText entry.runs))

/-- The characters of a general category. -/
def category? (name : String) : Option CharSet :=
  match name with
  | "any" => some all
  | "ascii" => some (range 0x00 0x7F)
  | "assigned" => some assigned
  | "cn" | "unassigned" => some (.compl assigned)
  | "c" | "other" =>
      some (unions [.runs (Unicode.category "cc"), .runs (Unicode.category "cf"),
        .runs (Unicode.category "co"), .compl assigned])
  | _ =>
      match Unicode.categoryGroups.find? fun group => group.1.contains name with
      | some (_, parts) => some (unions (parts.map fun part => .runs (Unicode.category part)))
      | none => (Unicode.lookUp? name Unicode.categories).map .runs

/-- The characters of a script. -/
def script? (name : String) : Option CharSet :=
  (Unicode.lookUp? name Unicode.scripts).map .runs

/-- The characters used with a script, also those shared with others. -/
def scriptExtension? (name : String) : Option CharSet := do
  let entry ← Unicode.scripts.find? fun entry => entry.names.contains name
  let shared := Unicode.sharedScripts.filter fun (_, _, scripts) =>
    scripts.any fun script => entry.names.contains script
  let ofShared (shared : List (Nat × Nat × List String)) : CharSet :=
    .runs (shared.map fun (first, last, _) => ⟨first, last, 1⟩)
  return .union (.diff (.runs (Unicode.runsOfText entry.runs)) (ofShared Unicode.sharedScripts))
    (ofShared shared)

/-- The characters that a version of the standard knows: its own additions and
those of all versions before it. -/
def age? (version : String) : Option CharSet := do
  let position ← Unicode.additions.findIdx? fun entry => entry.names.contains version
  return unions ((Unicode.additions.take (position + 1)).map fun entry =>
    .runs (Unicode.runsOfText entry.runs))

/-- The characters that have the property of a single name: a binary property, a
general category or a script.  Three short names are those of a category only. -/
def property? (name : List Char) : Option CharSet :=
  let name := propertyName name
  let binary :=
    if name = "cf" || name = "sc" || name = "lc" then none
    else (Unicode.lookUp? name Unicode.properties).map CharSet.runs
  (binary.or (category? name)).or (script? name)

/-- The characters for which a property has a value. -/
def propertyValue? (name value : List Char) : Option CharSet :=
  let value := propertyName value
  match propertyName name with
  | "gc" | "generalcategory" => category? value
  | "sc" | "script" => script? value
  | "scx" | "scriptextensions" => scriptExtension? value
  | "age" => age? value
  | "gcb" | "graphemeclusterbreak" => (Unicode.lookUp? value Unicode.graphemeBreaks).map .runs
  | "wb" | "wordbreak" => (Unicode.lookUp? value Unicode.wordBreaks).map .runs
  | "sb" | "sentencebreak" => (Unicode.lookUp? value Unicode.sentenceBreaks).map .runs
  | _ => none

end DocMatch.Regex.CharSet
