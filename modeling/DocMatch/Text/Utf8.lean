import DocMatch.Unicode.CodeRange
/-!
The UTF-8 form of characters, and of intervals of them: the bytes of all the
characters of an interval are those that fit one of its sequences of byte ranges.
-/

namespace DocMatch.Text.Utf8

open Unicode (CodeRange)

/-- The bytes of a code point. -/
def encode (n : Nat) : List Nat :=
  if n < 0x80 then [n]
  else if n < 0x800 then [0xC0 + n / 0x40, 0x80 + n % 0x40]
  else if n < 0x10000 then [0xE0 + n / 0x1000, 0x80 + n / 0x40 % 0x40, 0x80 + n % 0x40]
  else [0xF0 + n / 0x40000, 0x80 + n / 0x1000 % 0x40, 0x80 + n / 0x40 % 0x40, 0x80 + n % 0x40]

/-- The bytes of a text. -/
def encodeText (text : List Char) : List Nat :=
  text.flatMap fun c => encode c.toNat

/-- The bytes from `first` to `last`. -/
structure ByteRange where
  first : Nat
  last : Nat
deriving DecidableEq, Repr

/-- Split an interval into parts each of which lies in one block of the first unit
or fills blocks of it, and go on with the next unit for what fills blocks. -/
def split : List Nat → CodeRange → List CodeRange
  | [], i => [i]
  | unit :: units, i =>
      if i.first / unit = i.last / unit then [i]
      else
        let start := (i.first + unit - 1) / unit * unit
        let stop := (i.last + 1) / unit * unit
        (if i.first < start then [⟨i.first, start - 1⟩] else []) ++
          (if start < stop then split units ⟨start, stop - 1⟩ else []) ++
          (if stop ≤ i.last then [⟨stop, i.last⟩] else [])

/-- The characters by the number of their bytes, with the sizes of the blocks that
share all bytes but the last one, two or three. -/
def blocks : List (CodeRange × List Nat) :=
  [(⟨0x00, 0x7F⟩, []),
   (⟨0x80, 0x7FF⟩, [0x40]),
   (⟨0x800, 0xD7FF⟩, [0x40, 0x1000]),
   (⟨0xE000, 0xFFFF⟩, [0x40, 0x1000]),
   (⟨0x10000, 0x10FFFF⟩, [0x40, 0x1000, 0x40000])]

/-- The sequences of byte ranges of an interval, in increasing order. -/
def sequences (i : CodeRange) : List (List ByteRange) :=
  blocks.flatMap fun (block, units) =>
    let first := max i.first block.first
    let last := min i.last block.last
    if first ≤ last then
      (split units ⟨first, last⟩).map fun part =>
        List.zipWith ByteRange.mk (encode part.first) (encode part.last)
    else []

end DocMatch.Text.Utf8
