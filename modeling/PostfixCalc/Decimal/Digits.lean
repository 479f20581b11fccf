/-
# Decimal digits

Whole numbers written in base ten with the ASCII digits. A run of digits may
start with zeros and has a value all the same; a written number has none it
does not need.

A number is written by halves: it is divided by a power of ten in the middle
of its digits, and each part is written in the same way. Main statement: this
is the usual text of the number, so only the time differs from writing one
digit after the other.
-/

namespace PostfixCalc.Decimal

/-- The number that a run of decimal digits denotes; the empty run denotes zero. -/
def digitsValue (digits : List Char) : Nat :=
  Nat.ofDigitChars 10 digits 0

/-- A run of one or more ASCII digits. -/
def isDigits (chars : List Char) : Bool :=
  !chars.isEmpty && chars.all Char.isDigit

/-- The given power of ten. -/
def tenPow (exponent : Nat) : Nat :=
  Nat.pow 10 exponent

/-- The last `2 ^ level` digits of a number, zeros included, in front of a text. -/
def writeBlock : Nat → Nat → List Char → List Char
  | 0, n, tail => Nat.digitChar (n % 10) :: tail
  | level + 1, n, tail =>
      let unit := tenPow (Nat.pow 2 level)
      writeBlock level (n / unit) (writeBlock level (n % unit) tail)

/-- The digits of a number below `10 ^ (2 ^ level)`, none superfluous, in front of a text. -/
def writeDigits : Nat → Nat → List Char → List Char
  | 0, n, tail => Nat.digitChar (n % 10) :: tail
  | level + 1, n, tail =>
      let unit := tenPow (Nat.pow 2 level)
      if n < unit then writeDigits level n tail
      else writeDigits level (n / unit) (writeBlock level (n % unit) tail)

/-- A level whose digits suffice for a number: it has no more decimal digits than bits. -/
def digitsLevel (n : Nat) : Nat :=
  Nat.log2 (Nat.log2 n + 1) + 1

/-- A natural number without superfluous zeros. -/
def natText (n : Nat) : String :=
  String.ofList (writeDigits (digitsLevel n) n [])

/-- An integer: a minus sign if it is negative, then its magnitude. -/
def intText (z : Int) : String :=
  if z < 0 then "-" ++ natText z.natAbs else natText z.natAbs

/-- The digits of one level are those of two halves of the level below. -/
theorem tenPow_succ_level (level : Nat) :
    tenPow (Nat.pow 2 (level + 1)) =
      tenPow (Nat.pow 2 level) * tenPow (Nat.pow 2 level) := by
  show 10 ^ (2 ^ (level + 1)) = 10 ^ (2 ^ level) * 10 ^ (2 ^ level)
  rw [← Nat.pow_add, Nat.pow_succ, Nat.mul_two]

theorem tenPow_pos (exponent : Nat) : 0 < tenPow exponent :=
  Nat.pow_pos (by decide)

/-- Splitting a number before its last digits splits its text. -/
theorem toDigits_append_writeBlock (level : Nat) {upper lower : Nat} (positive : 0 < upper)
    (small : lower < tenPow (Nat.pow 2 level)) (tail : List Char) :
    Nat.toDigits 10 (upper * tenPow (Nat.pow 2 level) + lower) ++ tail =
      Nat.toDigits 10 upper ++ writeBlock level lower tail := by
  induction level generalizing upper lower tail with
  | zero =>
      have digit : lower < 10 := small
      show Nat.toDigits 10 (upper * 10 + lower) ++ tail = _
      rw [Nat.mul_comm, ← Nat.toDigits_append_toDigits (by decide) positive digit,
        Nat.toDigits_of_lt_base digit, writeBlock, Nat.mod_eq_of_lt digit]
      simp
  | succ level ih =>
      have unit_positive := tenPow_pos (Nat.pow 2 level)
      rw [tenPow_succ_level] at small
      have upper_small : lower / tenPow (Nat.pow 2 level) < tenPow (Nat.pow 2 level) :=
        Nat.div_lt_of_lt_mul small
      have lower_small : lower % tenPow (Nat.pow 2 level) < tenPow (Nat.pow 2 level) :=
        Nat.mod_lt _ unit_positive
      have regroup : upper * tenPow (Nat.pow 2 (level + 1)) + lower =
          (upper * tenPow (Nat.pow 2 level) + lower / tenPow (Nat.pow 2 level)) *
            tenPow (Nat.pow 2 level) + lower % tenPow (Nat.pow 2 level) := by
        rw [tenPow_succ_level, Nat.add_mul, Nat.mul_assoc, Nat.add_assoc, Nat.div_add_mod']
      have shifted : 0 < upper * tenPow (Nat.pow 2 level) + lower / tenPow (Nat.pow 2 level) :=
        Nat.add_pos_left (Nat.mul_pos positive unit_positive) _
      rw [regroup, ih shifted lower_small, ih positive upper_small]
      rfl

/-- A level that suffices for a number writes it in the usual way. -/
theorem writeDigits_eq (level : Nat) {n : Nat} (small : n < tenPow (Nat.pow 2 level))
    (tail : List Char) : writeDigits level n tail = Nat.toDigits 10 n ++ tail := by
  induction level generalizing n tail with
  | zero =>
      have digit : n < 10 := small
      simp [writeDigits, Nat.toDigits_of_lt_base digit, Nat.mod_eq_of_lt digit]
  | succ level ih =>
      have unit_positive := tenPow_pos (Nat.pow 2 level)
      rw [writeDigits]
      split
      · next below => exact ih below tail
      · next reached =>
          have positive : 0 < n / tenPow (Nat.pow 2 level) :=
            Nat.div_pos (Nat.le_of_not_lt reached) unit_positive
          rw [tenPow_succ_level] at small
          rw [ih (Nat.div_lt_of_lt_mul small),
            ← toDigits_append_writeBlock level positive (Nat.mod_lt _ unit_positive),
            Nat.div_add_mod']

/-- The chosen level suffices. -/
theorem lt_tenPow_digitsLevel (n : Nat) : n < tenPow (Nat.pow 2 (digitsLevel n)) := by
  have bits : n < 2 ^ (Nat.log2 n + 1) := Nat.lt_log2_self
  have levels : Nat.log2 n + 1 < 2 ^ digitsLevel n := Nat.lt_log2_self
  calc n < 2 ^ (Nat.log2 n + 1) := bits
    _ ≤ 2 ^ (2 ^ digitsLevel n) := Nat.pow_le_pow_right (by decide) (Nat.le_of_lt levels)
    _ ≤ 10 ^ (2 ^ digitsLevel n) := Nat.pow_le_pow_left (by decide) _

/-- A number is written in the usual way. -/
theorem natText_eq_repr (n : Nat) : natText n = Nat.repr n := by
  rw [natText, writeDigits_eq _ (lt_tenPow_digitsLevel n), Nat.repr_eq_ofList_toDigits,
    List.append_nil]

/-- A written number reads back. -/
theorem digitsValue_natText (n : Nat) : digitsValue (natText n).toList = n := by
  simp [digitsValue, natText_eq_repr, Nat.toList_repr]

theorem isDigits_natText (n : Nat) : isDigits (natText n).toList = true := by
  simp only [isDigits, natText_eq_repr, Nat.toList_repr, Bool.and_eq_true, List.all_eq_true]
  exact ⟨by simp [Nat.toDigits_ne_nil], fun c member =>
    Nat.isDigit_of_mem_toDigits (by decide) (by decide) member⟩

end PostfixCalc.Decimal
