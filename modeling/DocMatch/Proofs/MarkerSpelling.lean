import DocMatch.Marker.Reader
import DocMatch.Proofs.Scanning
import Mathlib.Data.List.Basic
/-!
The spellings of markers.  A marker is written as a name with an optional argument, or as
brackets around an optional size, which a marker of the elements may follow after blanks.
Reading gives exactly this marker back, at every depth.
-/

namespace DocMatch

namespace Marker

/-- A marker as it is written. -/
inductive Form where
  | named (isOptional : Bool) (name : List Char) (argument : Option (List Char))
  | brackets (isOptional : Bool) (size : Option Nat)
  | elements (isOptional : Bool) (size : Option Nat) (blanks : List Char) (each : Form)

namespace Form

/-- The signs in front of a marker. -/
def signs (isOptional : Bool) : List Char :=
  if isOptional then ['#', '#'] else ['#']

/-- An argument after a name. -/
def argumentChars : Option (List Char) → List Char
  | none => []
  | some argument => ' ' :: argument

/-- A size in brackets. -/
def sizeChars : Option Nat → List Char
  | none => []
  | some n => Nat.toDigits 10 n

/-- The text of a form, as characters. -/
def chars : Form → List Char
  | named isOptional name argument => signs isOptional ++ (name ++ argumentChars argument)
  | brackets isOptional size => signs isOptional ++ ('[' :: sizeChars size ++ [']'])
  | elements isOptional size blanks each =>
      signs isOptional ++ ('[' :: sizeChars size ++ ']' :: (blanks ++ each.chars))

/-- The text of a form. -/
def text (form : Form) : String :=
  String.ofList form.chars

/-- Whether a form can be read: names consist of name characters, arguments have no blanks
around them, sizes are within their bound, and blanks are blank. -/
def IsReadable : Form → Prop
  | named _ name argument => name ≠ [] ∧ (∀ c ∈ name, isNameChar c = true) ∧
      ∀ a, argument = some a → a ≠ [] ∧ Text.Trimmed a
  | brackets _ size => ∀ n, size = some n → n < sizeBound
  | elements _ size blanks each => (∀ n, size = some n → n < sizeBound) ∧
      (∀ c ∈ blanks, Text.isBlank c = true) ∧ each.IsReadable

/-- The marker that a form denotes, with the validator that its name and its argument make. -/
inductive Denotes (registry : Registry) : Form → Marker → Prop
  | named {isOptional : Bool} {name : List Char} {argument : Option (List Char)}
      {factory : Factory} {v : Validator}
      (registered : Fields.get? (String.ofList name) registry = some factory)
      (accepted : factory (argument.map String.ofList) = .ok v) :
      Denotes registry (.named isOptional name argument)
        (.validator (text (.named isOptional name argument)) isOptional v)
  | brackets {isOptional : Bool} {size : Option Nat} :
      Denotes registry (.brackets isOptional size)
        (.sequence (text (.brackets isOptional size)) isOptional size none)
  | elements {isOptional : Bool} {size : Option Nat} {blanks : List Char} {each : Form}
      {m : Marker} (below : Denotes registry each m) :
      Denotes registry (.elements isOptional size blanks each)
        (.sequence (text (.elements isOptional size blanks each)) isOptional size (some m))

/-- The name that the innermost marker of a form asks for. -/
def name? : Form → Option (List Char)
  | named _ name _ => some name
  | brackets .. => none
  | elements _ _ _ each => each.name?

/-- The innermost brackets with a marker of the elements after them, and that marker. -/
def innermost? : Form → Option (Form × Form)
  | named .. | brackets .. => none
  | elements isOptional size blanks each =>
      some (each.innermost?.getD (.elements isOptional size blanks each, each))

/-- What a form is read as. -/
def reading (registry : Registry) : Form → Except MarkerError (Option Marker)
  | named isOptional name argument =>
      (registry.compile (String.ofList name) (argument.map String.ofList)).map fun v =>
        v.map (.validator (text (.named isOptional name argument)) isOptional)
  | brackets isOptional size =>
      .ok (some (.sequence (text (.brackets isOptional size)) isOptional size none))
  | elements isOptional size blanks each =>
      let whole := text (.elements isOptional size blanks each)
      match each.reading registry with
      | .ok (some m) => .ok (some (.sequence whole isOptional size (some m)))
      | .ok none => .error (.invalidArgument whole (.notAMarker each.text))
      | .error e => .error e

variable {registry : Registry} {form : Form} {m : Marker} {name tail s : List Char}

theorem reading_of_denotes (h : form.Denotes registry m) :
    form.reading registry = .ok (some m) := by
  induction h with
  | named registered accepted =>
      simp [reading, Registry.compile, registered, accepted, Except.map]
  | brackets => rfl
  | elements below ih => simp only [reading, ih]

/-- Without a validator for its name a form is no marker, and the brackets around it are
refused. -/
theorem reading_of_unregistered (hname : form.name? = some name)
    (hnone : Fields.get? (String.ofList name) registry = none) :
    form.reading registry = match form.innermost? with
      | none => .ok none
      | some (outer, inner) => .error (.invalidArgument outer.text (.notAMarker inner.text)) := by
  induction form with
  | named isOptional other argument =>
      cases hname
      simp [reading, Registry.compile, hnone, Except.map, innermost?]
  | brackets isOptional size => cases hname
  | elements isOptional size blanks each ih =>
      rw [reading, ih hname, innermost?]
      cases each.innermost? <;> rfl

section Pieces

theorem readShape_signs (isOptional : Bool) (hs : ∀ c ∈ s.head?, c ≠ '#') :
    readShape (signs isOptional ++ s) = (readBody s).map (isOptional, ·) := by
  cases isOptional with
  | true => rfl
  | false =>
      have hsecond : ∀ rest, s = '#' :: rest → False := by
        rintro rest rfl
        exact hs '#' rfl rfl
      exact readShape.eq_2 s hsecond

theorem isNameChar_ne {c d : Char} (hc : isNameChar c = true) (hd : isNameChar d = false) :
    c ≠ d := by
  rintro rfl
  rw [hc] at hd
  cases hd

theorem isBlank_of_isNameChar {c : Char} (hc : isNameChar c = true) : Text.isBlank c = false := by
  have hrange : (((65 ≤ c.toNat ∧ c.toNat ≤ 90) ∨ (97 ≤ c.toNat ∧ c.toNat ≤ 122)) ∨
      (48 ≤ c.toNat ∧ c.toNat ≤ 57)) ∨ c = '_' := by
    delta isNameChar Char.isAlphanum Char.isAlpha Char.isUpper Char.isLower Char.isDigit at hc
    simpa [UInt32.le_iff_toNat_le] using hc
  rcases hrange with halphanum | rfl
  · simp [Text.isBlank]
    omega
  · rfl

theorem isNameChar_of_isDigit {c : Char} (hc : c.isDigit = true) : isNameChar c = true := by
  simp [isNameChar, Char.isAlphanum, hc]

theorem readNamed_name (hne : name ≠ []) (hname : ∀ c ∈ name, isNameChar c = true)
    (htail : ∀ c ∈ tail.head?, isNameChar c = false) :
    readNamed (name ++ tail) = some (.named name tail) := by
  have hspan : (name ++ tail).span isNameChar = (name, tail) := span_append hname htail
  obtain ⟨c, rest, rfl⟩ := List.exists_cons_of_ne_nil hne
  have hc := hname c List.mem_cons_self
  have hspace : isSpace c = false := by
    simp only [isSpace, Bool.or_eq_false_iff, beq_eq_false_iff_ne]
    exact ⟨⟨⟨isNameChar_ne hc rfl, isNameChar_ne hc rfl⟩, isNameChar_ne hc rfl⟩,
      isNameChar_ne hc rfl⟩
  have hdrop : (c :: rest ++ tail).dropWhile isSpace = c :: rest ++ tail := by
    rw [List.cons_append, List.dropWhile_cons, hspace]
    rfl
  rw [readNamed, hdrop, hspan]

theorem readBody_name (hne : name ≠ []) (hname : ∀ c ∈ name, isNameChar c = true)
    (htail : ∀ c ∈ tail.head?, isNameChar c = false) :
    readBody (name ++ tail) = some (.named name tail) := by
  rw [← readNamed_name hne hname htail]
  obtain ⟨c, rest, rfl⟩ := List.exists_cons_of_ne_nil hne
  have hc := hname c List.mem_cons_self
  unfold readBody
  split
  · rename_i heq
    exact absurd (List.cons.inj heq).1 (isNameChar_ne hc rfl)
  · rename_i heq
    exact absurd (List.cons.inj heq).1 (isNameChar_ne hc rfl)
  · rename_i heq
    exact absurd (List.cons.inj heq).1 (isNameChar_ne hc rfl)
  · rfl

theorem readBody_brackets {size : List Char} (hsize : ']' ∉ size) :
    readBody ('[' :: size ++ ']' :: tail) = some (.sequence size tail) := by
  have hspan : (size ++ ']' :: tail).span (· != ']') = (size, ']' :: tail) := by
    apply span_append
    · intro c hc
      rw [bne_iff_ne]
      rintro rfl
      exact hsize hc
    · simp
  rw [List.cons_append, readBody, hspan]

/-- A sign in front of a name or a bracket is told from a second one. -/
theorem readShape_name (isOptional : Bool) (hne : name ≠ [])
    (hname : ∀ c ∈ name, isNameChar c = true) (htail : ∀ c ∈ tail.head?, isNameChar c = false) :
    readShape (signs isOptional ++ (name ++ tail)) = some (isOptional, .named name tail) := by
  rw [readShape_signs, readBody_name hne hname htail, Option.map_some]
  obtain ⟨c, rest, rfl⟩ := List.exists_cons_of_ne_nil hne
  rintro d ⟨⟩
  exact isNameChar_ne (hname c List.mem_cons_self) rfl

theorem readShape_brackets (isOptional : Bool) {size : List Char} (hsize : ']' ∉ size) :
    readShape (signs isOptional ++ ('[' :: size ++ ']' :: tail)) =
      some (isOptional, .sequence size tail) := by
  rw [readShape_signs, readBody_brackets hsize, Option.map_some]
  rintro d ⟨⟩
  decide

theorem head_argumentChars (argument : Option (List Char)) :
    ∀ c ∈ (argumentChars argument).head?, isNameChar c = false := by
  cases argument with
  | none => nofun
  | some a =>
      rintro c ⟨⟩
      rfl

theorem bracket_not_mem_sizeChars (size : Option Nat) : ']' ∉ sizeChars size := by
  cases size with
  | none => exact List.not_mem_nil
  | some n =>
      intro hmem
      cases Scientific.isDigit_of_mem_toDigits hmem

theorem readArgument_argumentChars (whole : List Char) {argument : Option (List Char)}
    (h : ∀ a, argument = some a → a ≠ [] ∧ Text.Trimmed a) :
    readArgument whole (argumentChars argument) = .ok (some (argument.map String.ofList)) := by
  cases argument with
  | none => rfl
  | some a =>
      obtain ⟨hne, htrimmed⟩ := h a rfl
      have htrim : Text.trim (' ' :: a) = a := by
        have hblank : ∀ c ∈ [' '], Text.isBlank c = true := by simp [Text.isBlank]
        exact htrimmed.trim_append_left hblank
      obtain ⟨c, rest, rfl⟩ := List.exists_cons_of_ne_nil hne
      have hspace : Text.isBlank ' ' = true := rfl
      simp [argumentChars, readArgument, hspace, htrim]

/-- Both ways to value decimal digits agree. -/
theorem digitsValue_eq {digits : List Char} (h : ∀ c ∈ digits, c.isDigit = true) :
    Text.digitsValue 10 digits = Scientific.digitsValue digits := by
  unfold Text.digitsValue Scientific.digitsValue
  apply List.foldl_ext
  intro n c hc
  rw [Text.hexValue?, if_pos (h c hc)]
  rfl

theorem trimmed_of_isNameChar (h : ∀ c ∈ s, isNameChar c = true) : Text.Trimmed s :=
  ⟨fun c hc => isBlank_of_isNameChar (h c (List.mem_of_head? hc)),
    fun c hc => isBlank_of_isNameChar (h c (List.mem_of_getLast? hc))⟩

theorem readSize_sizeChars (whole : List Char) {size : Option Nat}
    (h : ∀ n, size = some n → n < sizeBound) :
    readSize whole (sizeChars size) = .ok size := by
  cases size with
  | none => rfl
  | some n =>
      have hdigits : ∀ c ∈ Nat.toDigits 10 n, c.isDigit = true :=
        fun c => Scientific.isDigit_of_mem_toDigits
      have hvalue : Text.digitsValue 10 (Nat.toDigits 10 n) = n := by
        rw [digitsValue_eq hdigits, Scientific.digitsValue_toDigits]
      have htrimmed : Text.Trimmed (Nat.toDigits 10 n) :=
        trimmed_of_isNameChar fun c hc => isNameChar_of_isDigit (hdigits c hc)
      have hall : (Nat.toDigits 10 n).all Char.isDigit = true := List.all_eq_true.2 hdigits
      obtain ⟨d, rest, heq, hd⟩ := Scientific.exists_toDigits_eq_cons n
      have hplus : d ≠ '+' := by
        rintro rfl
        cases hd
      rw [heq] at hvalue htrimmed hall
      rw [sizeChars, heq, readSize, htrimmed.trim_eq]
      simp [hplus, hvalue, hall, h n rfl]

end Pieces

theorem chars_eq_cons (form : Form) : ∃ rest, form.chars = '#' :: rest := by
  have hsigns : ∀ isOptional s, ∃ rest, signs isOptional ++ s = '#' :: rest := by
    intro isOptional s
    cases isOptional
    · exact ⟨s, rfl⟩
    · exact ⟨'#' :: s, rfl⟩
  cases form <;> exact hsigns _ _

theorem chars_ne_nil (form : Form) : form.chars ≠ [] := by
  obtain ⟨rest, heq⟩ := form.chars_eq_cons
  rw [heq]
  exact List.cons_ne_nil _ _

/-- No readable form ends in a blank. -/
theorem last_chars (h : form.IsReadable) : ∀ c ∈ form.chars.getLast?, Text.isBlank c = false := by
  induction form with
  | named isOptional name argument =>
      obtain ⟨hne, hname, hargument⟩ := h
      cases argument with
      | none =>
          rw [chars, argumentChars, List.append_nil, List.getLast?_append_of_ne_nil _ hne]
          exact (trimmed_of_isNameChar hname).last
      | some a =>
          obtain ⟨ha, htrimmed⟩ := hargument a rfl
          have hsplit : (named isOptional name (some a)).chars =
              (signs isOptional ++ name ++ [' ']) ++ a := by simp [chars, argumentChars]
          rw [hsplit, List.getLast?_append_of_ne_nil _ ha]
          exact htrimmed.last
  | brackets isOptional size =>
      have hsplit : (brackets isOptional size).chars =
          (signs isOptional ++ '[' :: sizeChars size) ++ [']'] := by simp [chars]
      rw [hsplit, List.getLast?_concat]
      rintro c ⟨⟩
      rfl
  | elements isOptional size blanks each ih =>
      have hsplit : (elements isOptional size blanks each).chars =
          (signs isOptional ++ '[' :: sizeChars size ++ ']' :: blanks) ++ each.chars := by
        simp [chars]
      rw [hsplit, List.getLast?_append_of_ne_nil _ each.chars_ne_nil]
      exact ih h.2.2

theorem trimmed_chars (h : form.IsReadable) : Text.Trimmed form.chars := by
  refine ⟨?_, last_chars h⟩
  obtain ⟨rest, heq⟩ := form.chars_eq_cons
  rw [heq]
  rintro c ⟨⟩
  rfl

/-- A form is read in as many steps as it has markers one in another. -/
theorem readLevels_chars {steps : Nat} (h : form.IsReadable)
    (hsteps : form.chars.length < steps) :
    readLevels registry steps form.chars = form.reading registry := by
  induction form generalizing steps with
  | named isOptional name argument =>
      obtain ⟨hne, hname, hargument⟩ := h
      obtain ⟨steps, rfl⟩ : ∃ fewer, steps = fewer + 1 := ⟨steps - 1, by omega⟩
      have hshape : readShape (named isOptional name argument).chars =
          some (isOptional, .named name (argumentChars argument)) :=
        readShape_name isOptional hne hname (head_argumentChars argument)
      rw [readLevels, reading]
      simp only [hshape, readArgument_argumentChars _ hargument, bind, Except.bind]
      cases registry.compile (String.ofList name) (argument.map String.ofList) <;> rfl
  | brackets isOptional size =>
      obtain ⟨steps, rfl⟩ : ∃ fewer, steps = fewer + 1 := ⟨steps - 1, by omega⟩
      have hshape : readShape (brackets isOptional size).chars =
          some (isOptional, .sequence (sizeChars size) []) :=
        readShape_brackets isOptional (bracket_not_mem_sizeChars size)
      rw [readLevels, reading]
      simp only [hshape, readSize_sizeChars _ h]
      rfl
  | elements isOptional size blanks each ih =>
      obtain ⟨hsize, hblanks, heach⟩ := h
      obtain ⟨steps, rfl⟩ : ∃ fewer, steps = fewer + 1 := ⟨steps - 1, by omega⟩
      have hshape : readShape (elements isOptional size blanks each).chars =
          some (isOptional, .sequence (sizeChars size) (blanks ++ each.chars)) :=
        readShape_brackets isOptional (bracket_not_mem_sizeChars size)
      have htrim : Text.trim (blanks ++ each.chars) = each.chars :=
        (trimmed_chars heach).trim_append_left hblanks
      have hshorter : each.chars.length < steps := by
        simp only [chars, List.length_append, List.length_cons] at hsteps
        omega
      have hread := ih heach hshorter
      obtain ⟨rest, hrest⟩ := each.chars_eq_cons
      rw [readLevels, reading]
      simp only [hshape, readSize_sizeChars _ hsize, htrim, bind, Except.bind]
      have htext : each.text = String.ofList ('#' :: rest) := by rw [text, hrest]
      rw [hrest] at hread ⊢
      simp only [hread, htext]
      rcases each.reading registry with e | _ | m <;> rfl

end Form

/-- A form is read as what it stands for. -/
theorem read_text (registry : Registry) {form : Form} (h : form.IsReadable) :
    read registry form.text = form.reading registry := by
  rw [read, Form.text, String.toList_ofList]
  exact Form.readLevels_chars h (Nat.lt_succ_self _)

end Marker

/-- Reading a marker gives back what is written: the same signs, sizes and validators at every
depth.  A name that is not registered makes no marker, and the innermost brackets around it are
refused. -/
theorem written_marker_read_back (registry : Registry) (form : Marker.Form)
    (hform : form.IsReadable) :
    (∀ m, form.Denotes registry m → Marker.read registry form.text = .ok (some m)) ∧
    ∀ name, form.name? = some name → Fields.get? (String.ofList name) registry = none →
      (form.innermost? = none → Marker.read registry form.text = .ok none) ∧
      ∀ outer inner, form.innermost? = some (outer, inner) →
        Marker.read registry form.text =
          .error (.invalidArgument outer.text (.notAMarker inner.text)) := by
  rw [Marker.read_text registry hform]
  refine ⟨fun m hm => Marker.Form.reading_of_denotes hm, fun name hname hnone => ?_⟩
  rw [Marker.Form.reading_of_unregistered hname hnone]
  constructor
  · intro hinnermost
    rw [hinnermost]
  · intro outer inner hinnermost
    rw [hinnermost]

/-- An argument may hold brackets and signs, and blanks may stand between two pairs of brackets.
Without the name the inner brackets are refused, and the name by itself is no marker. -/
theorem argument_with_brackets_read_back :
    let registry : Registry := [("code", fun _ => .ok .string)]
    let code : Marker := .validator "##code [a] #b" true .string
    let codes : Marker := .sequence "##[]##code [a] #b" true none (some code)
    Marker.read registry "#[12] \n##[]##code [a] #b" =
        .ok (some (.sequence "#[12] \n##[]##code [a] #b" false (some 12) (some codes))) ∧
      Marker.read [] "#[12] \n##[]##code [a] #b" =
        .error (.invalidArgument "##[]##code [a] #b" (.notAMarker "##code [a] #b")) ∧
      Marker.read [] "##code [a] #b" = .ok none := by
  intro registry code codes
  let named : Marker.Form := .named true "code".toList (some "[a] #b".toList)
  let form : Marker.Form := .elements false (some 12) [' ', '\n'] (.elements true none [] named)
  have hnamed : named.IsReadable := by
    refine ⟨by decide, List.all_eq_true.mp rfl, ?_⟩
    rintro a ⟨⟩
    exact ⟨by decide, by constructor <;> rintro c ⟨⟩ <;> rfl⟩
  have hform : form.IsReadable := by
    refine ⟨?_, by simp [Text.isBlank], nofun, nofun, hnamed⟩
    rintro n ⟨⟩
    decide
  have hregistered : Fields.get? "code" registry = some fun _ => .ok .string := rfl
  have hdenotes : form.Denotes registry
      (.sequence "#[12] \n##[]##code [a] #b" false (some 12) (some codes)) :=
    .elements (.elements (.named hregistered rfl))
  obtain ⟨hread, -⟩ := written_marker_read_back registry form hform
  obtain ⟨-, hrefused⟩ := written_marker_read_back [] form hform
  obtain ⟨-, hplain⟩ := written_marker_read_back [] named hnamed
  exact ⟨hread _ hdenotes, (hrefused _ rfl rfl).2 _ _ rfl, (hplain _ rfl rfl).1 rfl⟩

end DocMatch
