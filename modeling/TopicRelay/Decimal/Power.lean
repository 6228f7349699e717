/-
Powers of two and of ten.
-/

namespace TopicRelay.Decimal

/-- The power of two with an exponent. -/
def twoTo (n : Nat) : Nat :=
  Nat.pow 2 n

/-- The power of ten with an exponent. -/
def tenTo (n : Nat) : Nat :=
  Nat.pow 10 n

end TopicRelay.Decimal
