/-
# The binary64 format

A finite nonnegative double is `significand * 2 ^ exponent` with a significand
below `2 ^ 53` and an exponent of at least `-1074`. Read as a number, its bit
pattern is the exponent, counted from the least, times `2 ^ 52`, plus the
significand: a significand that reaches `2 ^ 53` carries into the exponent,
and the patterns from `2047 * 2 ^ 52` on are not finite.
-/

namespace PostfixCalc.Binary64

/-- The value of the hidden leading bit of a significand. -/
def hiddenBit : Nat :=
  Nat.pow 2 52

/-- The least exponent, that of the subnormal doubles. -/
def leastExponent : Int :=
  -1074

/-- The first bit pattern of a nonnegative double that is not finite. -/
def infinityBits : Nat :=
  2047 * hiddenBit

/-- A finite nonnegative double as `significand * 2 ^ exponent`. -/
structure Parts where
  significand : Nat
  exponent : Int
  deriving DecidableEq, Repr

namespace Parts

/-- The bit pattern of the given parts. -/
def toBits (parts : Parts) : Nat :=
  (parts.exponent - leastExponent).toNat * hiddenBit + parts.significand

/-- The parts of a bit pattern without its sign. -/
def ofBits (bits : Nat) : Parts :=
  if bits / hiddenBit = 0 then ⟨bits, leastExponent⟩
  else ⟨bits % hiddenBit + hiddenBit, (bits / hiddenBit : Int) - 1 + leastExponent⟩

end Parts

end PostfixCalc.Binary64
