import DocMatch.Markup.Basic
/-!
Compact markup: attributes in double quotes, no blanks between children, and the
four characters that could be taken for markup written as entities.
-/

namespace DocMatch.Element

/-- One character of a text or of an attribute value. -/
def escapeChar (c : Char) : List Char :=
  if c = '&' then "&amp;".toList
  else if c = '<' then "&lt;".toList
  else if c = '>' then "&gt;".toList
  else if c = '"' then "&quot;".toList
  else [c]

/-- A text or an attribute value. -/
def escape (s : String) : List Char :=
  s.toList.flatMap escapeChar

/-- The attributes of a tag, each after a space. -/
def attributesChars (attributes : Fields String) : List Char :=
  List.flatMap (fun (name, value) => ' ' :: name.toList ++ '=' :: '"' :: escape value ++ ['"'])
    attributes

mutual

/-- The markup of an element, as characters; one without children is a single tag. -/
def chars : Element → List Char
  | ⟨name, attributes, []⟩ => '<' :: name.toList ++ attributesChars attributes ++ ['/', '>']
  | ⟨name, attributes, child :: rest⟩ =>
      '<' :: name.toList ++ attributesChars attributes ++
        '>' :: childrenChars (child :: rest) ++ '<' :: '/' :: name.toList ++ ['>']

/-- The markup of children, one after another. -/
def childrenChars : List (Content Element) → List Char
  | [] => []
  | .element e :: rest => e.chars ++ childrenChars rest
  | .text t :: rest => escape t ++ childrenChars rest

end

/-- The markup of an element. -/
def markup (e : Element) : String :=
  String.ofList e.chars

end DocMatch.Element
