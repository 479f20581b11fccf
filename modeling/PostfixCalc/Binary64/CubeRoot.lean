/-
# The nearest double to a cube root

The cube root of a positive double is rounded once and exactly. The double is
written as a large integer times a power of eight; the floor of the integer's
cube root is found bit by bit, and half a unit is added if the root is not
whole. The floor has more bits than a double, so no double and no midpoint
between doubles lies strictly within a unit of it, and the nearest double to
that number is the nearest one to the root.
-/

import PostfixCalc.Binary64.Nearest

namespace PostfixCalc.Binary64

/-- Decide the given number of low bits of a root, each from the highest down
being set if the cube then stays within the radicand. -/
def cubeRootBits (radicand : Nat) : Nat → Nat → Nat
  | 0, root => root
  | bit + 1, root =>
      let next := root + Nat.pow 2 bit
      cubeRootBits radicand bit (if next * next * next ≤ radicand then next else root)

/-- The floor of the cube root of a natural number. -/
def floorCubeRoot (radicand : Nat) : Nat :=
  cubeRootBits radicand (Nat.log2 radicand / 3 + 1) 0

/-- The least number of bits of the integer whose cube root is taken. -/
def cubeRadicandWidth : Nat :=
  180

/-- The bit pattern of the double nearest to the cube root of a positive double. -/
def nearestCubeRoot (parts : Parts) : Nat :=
  let wanted := cubeRadicandWidth - Nat.log2 parts.significand
  let shift := wanted + ((parts.exponent - wanted) % 3).toNat
  let radicand := parts.significand * Nat.pow 2 shift
  let root := floorCubeRoot radicand
  let halves := 2 * root + (if root * root * root = radicand then 0 else 1)
  let unit : Int := (parts.exponent - shift) / 3
  let (above, below) := inUnits halves 2 (-unit)
  nearestBits above below

end PostfixCalc.Binary64
