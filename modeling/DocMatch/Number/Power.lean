/-!
Powers of two and of ten, the scales of binary and of decimal numbers.
-/

namespace DocMatch

/-- The product of `n` twos. -/
def twoTo (n : Nat) : Nat :=
  Nat.pow 2 n

/-- The product of `n` tens. -/
def tenTo (n : Nat) : Nat :=
  Nat.pow 10 n

theorem twoTo_pos (n : Nat) : 0 < twoTo n :=
  Nat.pow_pos (by decide)

theorem tenTo_pos (n : Nat) : 0 < tenTo n :=
  Nat.pow_pos (by decide)

end DocMatch
