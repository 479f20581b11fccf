/-
# The grammar of exact literals

The forms that a literal can take, given by their pieces. A form determines
its text and the number that it denotes, and says nothing of how a text is
read. Main statement: integers and rationals are read from exactly the texts
of their forms, each with the number of its form, and any other text is
refused.

A reader of decimals counts the power of ten in 32 bits. The number is that of
the form as long as the power fits, as it does in every text of less than
`2 ^ 31` bytes; which texts are refused does not depend on it. The settings
that a reader is given make no difference.
-/

import Mathlib.Algebra.Field.Rat
import Mathlib.Data.List.Basic
import Mathlib.Data.String.Basic
import PostfixCalc.Proofs.DecimalUnits
import PostfixCalc.Proofs.ExactText

namespace PostfixCalc

namespace Decimal

/-- What may stand in front of digits. -/
inductive Sign
  | absent
  | plus
  | minus
  deriving DecidableEq

namespace Sign

def chars : Sign → List Char
  | absent => []
  | plus => ['+']
  | minus => ['-']

/-- An integer with the sign in front of it. -/
def apply : Sign → Int → Int
  | minus, z => -z
  | _, z => z

end Sign

/-- A run of digits, which may be empty. -/
structure Digits where
  chars : List Char
  isDigit_of_mem : ∀ c ∈ chars, c.isDigit = true

/-- The number that digits write: each counts for the power of ten of its
place, and the last stands in the place of the ones. -/
def placeValue : List Char → Nat
  | [] => 0
  | c :: rest => (c.toNat - '0'.toNat) * 10 ^ rest.length + placeValue rest

/-- A sign and one or more digits. -/
structure IntegerForm where
  sign : Sign
  digits : Digits
  nonempty : digits.chars ≠ []

namespace IntegerForm

def chars (form : IntegerForm) : List Char :=
  form.sign.chars ++ form.digits.chars

def text (form : IntegerForm) : String :=
  String.ofList form.chars

def value (form : IntegerForm) : Int :=
  form.sign.apply (placeValue form.digits.chars)

end IntegerForm

/-- A mark and the exponent behind it. -/
structure ExponentForm where
  mark : Char
  mark_eq : mark = 'e' ∨ mark = 'E'
  power : IntegerForm

/-- A sign, digits around a point, and an exponent. The point may be left out
together with the digits behind it; there is at least one digit on one of its
sides. -/
structure DecimalForm where
  sign : Sign
  whole : Digits
  fraction : Option Digits
  exponent : Option ExponentForm
  has_digit : whole.chars ++ (fraction.map Digits.chars).getD [] ≠ []

namespace DecimalForm

/-- The digits behind the point. -/
def decimals (form : DecimalForm) : List Char :=
  (form.fraction.map Digits.chars).getD []

def chars (form : DecimalForm) : List Char :=
  form.sign.chars ++
    (form.whole.chars ++ (form.fraction.map fun digits => '.' :: digits.chars).getD [] ++
      (form.exponent.map fun exponent => exponent.mark :: exponent.power.chars).getD [])

/-- The written exponent, which is zero if there is none. -/
def power (form : DecimalForm) : Int :=
  (form.exponent.map fun exponent => exponent.power.value).getD 0

/-- The power of ten by which the mantissa digits, read as one integer, are
moved: the exponent less the number of digits behind the point. -/
def scale (form : DecimalForm) : Int :=
  form.power - form.decimals.length

/-- All mantissa digits as one integer. -/
def number (form : DecimalForm) : Int :=
  form.sign.apply (placeValue (form.whole.chars ++ form.decimals))

def value (form : DecimalForm) : Rat :=
  (form.number : Rat) * 10 ^ form.scale

end DecimalForm

/-- A fraction whose denominator is not zero, or a decimal whose exponent is
of magnitude 4096 at most. -/
inductive RationalForm
  | fraction (numerator : IntegerForm) (denominator : Digits)
      (nonzero : placeValue denominator.chars ≠ 0)
  | decimal (form : DecimalForm) (bounded : form.power.natAbs ≤ 4096)

namespace RationalForm

def chars : RationalForm → List Char
  | fraction numerator denominator _ => numerator.chars ++ '/' :: denominator.chars
  | decimal form _ => form.chars

def text (form : RationalForm) : String :=
  String.ofList form.chars

def value : RationalForm → Rat
  | fraction numerator denominator _ =>
      (numerator.value : Rat) / (placeValue denominator.chars : Rat)
  | decimal form _ => form.value

/-- The power of ten of a decimal; a fraction has none. -/
def scale : RationalForm → Int
  | fraction _ _ _ => 0
  | decimal form _ => form.scale

end RationalForm

/-! ## Pieces -/

theorem digitsValue_eq_placeValue (digits : List Char) :
    digitsValue digits = placeValue digits := by
  unfold digitsValue
  induction digits with
  | nil => rfl
  | cons c rest ih =>
      rw [Nat.ofDigitChars_cons, Nat.ofDigitChars_eq_ofDigitChars_zero, ih, placeValue,
        Nat.mul_zero, Nat.zero_add, Nat.mul_comm]

theorem isDigits_iff {chars : List Char} :
    isDigits chars = true ↔ chars ≠ [] ∧ ∀ c ∈ chars, c.isDigit = true := by
  simp [isDigits]

theorem isDigits_chars {digits : Digits} (nonempty : digits.chars ≠ []) :
    isDigits digits.chars = true :=
  isDigits_iff.mpr ⟨nonempty, digits.isDigit_of_mem⟩

namespace Sign

/-- Whether the sign is a minus. -/
def isMinus : Sign → Bool
  | minus => true
  | _ => false

theorem signed_isMinus (sign : Sign) (magnitude : Nat) :
    signed sign.isMinus magnitude = sign.apply magnitude := by
  cases sign <;> rfl

theorem natAbs_apply (sign : Sign) (z : Int) : (sign.apply z).natAbs = z.natAbs := by
  cases sign <;> simp [apply]

end Sign

/-- A sign is split off in front of what does not start with another. -/
theorem splitSign_append (sign : Sign) {rest : List Char}
    (unsigned : ∀ c ∈ rest.head?, c ≠ '-' ∧ c ≠ '+') :
    splitSign (sign.chars ++ rest) = (sign.isMinus, rest) := by
  cases sign with
  | absent =>
      rw [Sign.chars, List.nil_append]
      unfold splitSign
      split
      · exact absurd rfl (unsigned '-' rfl).1
      · exact absurd rfl (unsigned '+' rfl).2
      · rfl
  | plus => rfl
  | minus => rfl

theorem exists_sign_of_splitSign {chars rest : List Char} {negative : Bool}
    (split : splitSign chars = (negative, rest)) :
    ∃ sign : Sign, chars = sign.chars ++ rest ∧ negative = sign.isMinus := by
  unfold splitSign at split
  split at split <;> cases split
  · exact ⟨.minus, rfl, rfl⟩
  · exact ⟨.plus, rfl, rfl⟩
  · exact ⟨.absent, rfl, rfl⟩

/-- A text is cut behind a character of a class that no earlier one belongs
to, unless it has none. -/
theorem splitFirst_cases (here : Char → Bool) (chars : List Char) :
    (splitFirst here chars = (chars, none) ∧ ∀ c ∈ chars, here c = false) ∨
      ∃ before c after, splitFirst here chars = (before, some after) ∧
        chars = before ++ c :: after ∧ here c = true ∧ ∀ d ∈ before, here d = false := by
  induction chars with
  | nil => exact .inl ⟨rfl, by simp⟩
  | cons c rest ih =>
      cases found : here c with
      | true => exact .inr ⟨[], c, rest, by simp [splitFirst, found], rfl, found, by simp⟩
      | false =>
          rcases ih with ⟨cut, nowhere⟩ | ⟨before, d, after, cut, rfl, there, nowhere⟩
          · exact .inl ⟨by simp [splitFirst, found, cut], by simpa [found] using nowhere⟩
          · exact .inr ⟨c :: before, d, after, by simp [splitFirst, found, cut], rfl, there,
              by simpa [found] using nowhere⟩

/-! ## Integers -/

theorem head?_digits {digits : Digits} : ∀ c ∈ digits.chars.head?, c ≠ '-' ∧ c ≠ '+' := by
  intro c first
  have digit := digits.isDigit_of_mem c (List.mem_of_mem_head? first)
  exact ⟨ne_of_isDigit digit rfl, ne_of_isDigit digit rfl⟩

theorem IntegerForm.splitSign_chars (form : IntegerForm) :
    splitSign form.chars = (form.sign.isMinus, form.digits.chars) :=
  splitSign_append form.sign head?_digits

/-- An integer is read from exactly the texts of integer forms. -/
theorem readInteger?_eq_some_iff_form {chars : List Char} {z : Int} :
    readInteger? chars = some z ↔ ∃ form : IntegerForm, form.chars = chars ∧ form.value = z := by
  rw [readInteger?_eq_some_iff]
  constructor
  · intro pieces
    obtain ⟨negative, digits, split, all_digits, rfl⟩ := pieces
    obtain ⟨sign, rfl, rfl⟩ := exists_sign_of_splitSign split
    obtain ⟨nonempty, each⟩ := isDigits_iff.mp all_digits
    refine ⟨⟨sign, ⟨digits, each⟩, nonempty⟩, rfl, ?_⟩
    rw [Sign.signed_isMinus, digitsValue_eq_placeValue]
    rfl
  · intro written
    obtain ⟨form, rfl, rfl⟩ := written
    refine ⟨_, _, form.splitSign_chars, isDigits_chars form.nonempty, ?_⟩
    rw [Sign.signed_isMinus, digitsValue_eq_placeValue]
    rfl

/-! ## Fractions -/

theorem IntegerForm.ne_slash (form : IntegerForm) : ∀ c ∈ form.chars, decide (c = '/') = false := by
  intro c member
  have reads := readInteger?_eq_some_iff_form.mpr ⟨form, rfl, rfl⟩
  rcases mem_of_readInteger? reads member with rfl | rfl | digit
  · rfl
  · rfl
  · simpa using ne_of_isDigit digit rfl

/-- A fraction is read from exactly an integer, a slash and digits of a number
other than zero. -/
theorem readFraction?_eq_some_iff {chars : List Char} {r : Rat} :
    readFraction? chars = some r ↔
      ∃ (numerator : IntegerForm) (denominator : Digits),
        placeValue denominator.chars ≠ 0 ∧ numerator.chars ++ '/' :: denominator.chars = chars ∧
          (numerator.value : Rat) / (placeValue denominator.chars : Rat) = r := by
  constructor
  · intro reads
    rcases splitFirst_cases (· = '/') chars with
      ⟨cut, _⟩ | ⟨before, slash, after, cut, rfl, is_slash, _⟩
    · simp [readFraction?, cut] at reads
    · obtain rfl : slash = '/' := by simpa using is_slash
      cases integer : readInteger? before with
      | none => simp [readFraction?, cut, integer] at reads
      | some n =>
          simp only [readFraction?, cut, integer] at reads
          split at reads
          · next accepted =>
              obtain ⟨numerator, rfl, rfl⟩ := readInteger?_eq_some_iff_form.mp integer
              refine ⟨numerator, ⟨after, (isDigits_iff.mp accepted.1).2⟩, ?_, rfl, ?_⟩
              · rw [← digitsValue_eq_placeValue]
                exact accepted.2
              · rw [← digitsValue_eq_placeValue, ← Rat.mkRat_eq_div]
                exact Option.some.inj reads
          · cases reads
  · intro written
    obtain ⟨numerator, denominator, nonzero, rfl, rfl⟩ := written
    have reads := readInteger?_eq_some_iff_form.mpr ⟨numerator, rfl, rfl⟩
    have nonempty : denominator.chars ≠ [] := by
      intro empty
      rw [empty] at nonzero
      exact nonzero rfl
    have cut := splitFirst_append numerator.ne_slash (c := '/') rfl denominator.chars
    simp [readFraction?, cut, reads, isDigits_chars nonempty, digitsValue_eq_placeValue, nonzero,
      Rat.mkRat_eq_div]

/-! ## Decimals -/

/-- What is written behind a mark, if it is written, is found behind it. -/
theorem splitFirst_append_getD {β : Type} {here : Char → Bool} {before : List Char}
    (nowhere : ∀ c ∈ before, here c = false) (tail : Option β) (mark : β → Char)
    (marked : ∀ part ∈ tail, here (mark part) = true) (after : β → List Char) :
    splitFirst here (before ++ (tail.map fun part => mark part :: after part).getD []) =
      (before, tail.map after) := by
  cases tail with
  | none => simpa using splitFirst_of_forall nowhere
  | some part => exact splitFirst_append nowhere (marked part rfl) (after part)

theorem isExponentMark_iff {c : Char} : Literal.isExponentMark c = true ↔ c = 'e' ∨ c = 'E' := by
  simp [Literal.isExponentMark]

theorem isExponentMark_of_isDigit {c : Char} (digit : c.isDigit = true) :
    Literal.isExponentMark c = false := by
  rw [Bool.eq_false_iff, Ne, isExponentMark_iff]
  intro mark
  rcases mark with rfl | rfl <;> cases digit

theorem Digits.ne_point (digits : Digits) : ∀ c ∈ digits.chars, decide (c = '.') = false := by
  intro c member
  simpa using ne_of_isDigit (digits.isDigit_of_mem c member) rfl

namespace DecimalForm

/-- The pieces that a reader keeps of a form. -/
def pieces (form : DecimalForm) : Literal where
  negative := form.sign.isMinus
  whole := form.whole.chars
  fraction := form.decimals
  exponentNegative := (form.exponent.map fun exponent => exponent.power.sign.isMinus).getD false
  exponentDigits := (form.exponent.map fun exponent => exponent.power.digits.chars).getD []

/-- The digits and the point in front of the exponent. -/
def mantissa (form : DecimalForm) : List Char :=
  form.whole.chars ++ (form.fraction.map fun digits => '.' :: digits.chars).getD []

theorem isDigit_or_point {form : DecimalForm} {c : Char} (member : c ∈ form.mantissa) :
    c.isDigit = true ∨ c = '.' := by
  rcases List.mem_append.mp member with whole | behind
  · exact .inl (form.whole.isDigit_of_mem c whole)
  · cases fraction : form.fraction with
    | none => simp [fraction] at behind
    | some digits =>
        simp only [fraction, Option.map_some, Option.getD_some, List.mem_cons] at behind
        rcases behind with point | decimal
        · exact .inr point
        · exact .inl (digits.isDigit_of_mem c decimal)

theorem mantissa_ne_nil (form : DecimalForm) : form.mantissa ≠ [] := by
  intro empty
  obtain ⟨no_whole, nothing_behind⟩ := List.append_eq_nil_iff.mp empty
  have no_digit := form.has_digit
  cases fraction : form.fraction with
  | none => simp [fraction, no_whole] at no_digit
  | some digits => simp [fraction] at nothing_behind

/-- A reader finds the pieces of a form in its text. -/
theorem ofChars?_chars (form : DecimalForm) : Literal.ofChars? form.chars = some form.pieces := by
  have unsigned : ∀ c ∈ (form.mantissa ++ (form.exponent.map fun exponent =>
      exponent.mark :: exponent.power.chars).getD []).head?, c ≠ '-' ∧ c ≠ '+' := by
    intro c first
    rw [List.head?_append_of_ne_nil _ form.mantissa_ne_nil] at first
    rcases isDigit_or_point (List.mem_of_mem_head? first) with digit | rfl
    · exact ⟨ne_of_isDigit digit rfl, ne_of_isDigit digit rfl⟩
    · decide
  have no_mark : ∀ c ∈ form.mantissa, Literal.isExponentMark c = false := by
    intro c member
    rcases isDigit_or_point member with digit | rfl
    · exact isExponentMark_of_isDigit digit
    · rfl
  have cut_sign := splitSign_append form.sign unsigned
  have cut_exponent := splitFirst_append_getD no_mark form.exponent ExponentForm.mark
    (fun exponent _ => isExponentMark_iff.mpr exponent.mark_eq) fun exponent => exponent.power.chars
  have cut_point := splitFirst_append_getD form.whole.ne_point form.fraction (fun _ => '.')
    (fun _ _ => rfl) Digits.chars
  have all_digits : isDigits (form.whole.chars ++ form.decimals) = true := by
    refine isDigits_iff.mpr ⟨form.has_digit, fun c member => ?_⟩
    rcases List.mem_append.mp member with whole | decimal
    · exact form.whole.isDigit_of_mem c whole
    · cases fraction : form.fraction with
      | none => simp [decimals, fraction] at decimal
      | some digits =>
          exact digits.isDigit_of_mem c (by simpa [decimals, fraction] using decimal)
  unfold mantissa at cut_sign cut_exponent
  unfold decimals at all_digits
  simp only [Literal.ofChars?, chars, cut_sign, cut_exponent, cut_point, all_digits, if_true]
  cases exponent : form.exponent with
  | none => simp [pieces, decimals, exponent]
  | some found =>
      simp [pieces, decimals, exponent, found.power.splitSign_chars,
        isDigits_chars found.power.nonempty]

end DecimalForm

/-- Digits around an optional point. -/
theorem exists_mantissa {mantissa whole : List Char} {behind : Option (List Char)}
    (cut : splitFirst (· = '.') mantissa = (whole, behind))
    (all_digits : isDigits (whole ++ behind.getD []) = true) :
    ∃ (front : Digits) (fraction : Option Digits),
      mantissa = front.chars ++ (fraction.map fun digits => '.' :: digits.chars).getD [] ∧
        whole = front.chars ∧ behind = fraction.map Digits.chars := by
  obtain ⟨_, each⟩ := isDigits_iff.mp all_digits
  rcases splitFirst_cases (· = '.') mantissa with
    ⟨uncut, _⟩ | ⟨before, point, after, divided, rfl, is_point, _⟩
  · cases cut.symm.trans uncut
    exact ⟨⟨mantissa, by simpa using each⟩, none, by simp, rfl, rfl⟩
  · cases cut.symm.trans divided
    obtain rfl : point = '.' := by simpa using is_point
    refine ⟨⟨whole, fun c member => each c ?_⟩, some ⟨after, fun c member => each c ?_⟩, rfl, rfl,
      rfl⟩
    · exact List.mem_append_left _ member
    · exact List.mem_append_right _ member

/-- A mark and a signed run of digits, or nothing. -/
theorem exists_exponent {body mantissa : List Char} {tail : Option (List Char)}
    (cut : splitFirst Literal.isExponentMark body = (mantissa, tail))
    (all_digits : ∀ written ∈ tail, isDigits (splitSign written).2 = true) :
    ∃ exponent : Option ExponentForm,
      body = mantissa ++ (exponent.map fun found => found.mark :: found.power.chars).getD [] ∧
        tail = exponent.map fun found => found.power.chars := by
  rcases splitFirst_cases Literal.isExponentMark body with
    ⟨uncut, _⟩ | ⟨before, mark, after, divided, rfl, is_mark, _⟩
  · cases cut.symm.trans uncut
    exact ⟨none, by simp, rfl⟩
  · cases cut.symm.trans divided
    cases split : splitSign after with
    | mk negative digits =>
        obtain ⟨sign, rfl, rfl⟩ := exists_sign_of_splitSign split
        have accepted := all_digits _ rfl
        rw [split] at accepted
        obtain ⟨nonempty, each⟩ := isDigits_iff.mp accepted
        exact ⟨some ⟨mark, isExponentMark_iff.mp is_mark, sign, ⟨digits, each⟩, nonempty⟩,
          rfl, rfl⟩

/-- The pieces that a reader finds are those of a form with this text. -/
theorem exists_decimalForm {chars : List Char} {literal : Literal}
    (found : Literal.ofChars? chars = some literal) :
    ∃ form : DecimalForm, form.chars = chars ∧ form.pieces = literal := by
  unfold Literal.ofChars? at found
  cases split : splitSign chars with
  | mk negative body =>
  cases cut_exponent : splitFirst Literal.isExponentMark body with
  | mk mantissa tail =>
  cases cut_point : splitFirst (· = '.') mantissa with
  | mk whole behind =>
      simp only [split, cut_exponent, cut_point] at found
      obtain ⟨all_digits, found⟩ := Option.ite_none_right_eq_some.mp found
      have exponent_digits : ∀ written ∈ tail, isDigits (splitSign written).2 = true := by
        rintro written rfl
        exact (Option.ite_none_right_eq_some.mp found).1
      obtain ⟨sign, rfl, rfl⟩ := exists_sign_of_splitSign split
      obtain ⟨front, fraction, rfl, rfl, rfl⟩ := exists_mantissa cut_point all_digits
      obtain ⟨exponent, rfl, rfl⟩ := exists_exponent cut_exponent exponent_digits
      refine ⟨⟨sign, front, fraction, exponent, (isDigits_iff.mp all_digits).1⟩, rfl, ?_⟩
      cases exponent with
      | none => exact Option.some.inj found
      | some written =>
          simp only [Option.map_some, written.power.splitSign_chars] at found
          exact Option.some.inj (Option.ite_none_right_eq_some.mp found).2

/-- The pieces of a decimal are found in exactly the texts of decimal forms. -/
theorem ofChars?_eq_some_iff {chars : List Char} {literal : Literal} :
    Literal.ofChars? chars = some literal ↔
      ∃ form : DecimalForm, form.chars = chars ∧ form.pieces = literal := by
  refine ⟨exists_decimalForm, fun written => ?_⟩
  obtain ⟨form, rfl, rfl⟩ := written
  exact form.ofChars?_chars

end Decimal

/-- A text has no more characters than bytes. -/
theorem Text.length_toList_le (text : String) : text.toList.length ≤ text.utf8ByteSize := by
  rw [← String.utf8Len_toList]
  induction text.toList with
  | nil => exact Nat.zero_le _
  | cons c rest ih =>
      have positive := c.utf8Size_pos
      rw [List.length_cons, String.utf8Len_cons]
      omega

namespace Rational

open Decimal

theorem natAbs_power (form : DecimalForm) :
    digitsValue form.pieces.exponentDigits = form.power.natAbs := by
  cases exponent : form.exponent with
  | none => simp [DecimalForm.pieces, DecimalForm.power, exponent, digitsValue]
  | some found =>
      simp [DecimalForm.pieces, DecimalForm.power, exponent, IntegerForm.value,
        Sign.natAbs_apply, digitsValue_eq_placeValue]

theorem scale_pieces (form : DecimalForm) :
    form.pieces.scale (digitsValue form.pieces.exponentDigits) = form.scale := by
  cases exponent : form.exponent with
  | none =>
      simp [Literal.scale, DecimalForm.pieces, DecimalForm.scale, DecimalForm.power, exponent,
        digitsValue, signed]
  | some found =>
      simp [Literal.scale, DecimalForm.pieces, DecimalForm.scale, DecimalForm.power, exponent,
        IntegerForm.value, Sign.signed_isMinus, digitsValue_eq_placeValue]

theorem signed_pieces (form : DecimalForm) :
    signed form.pieces.negative form.pieces.mantissa = form.number := by
  rw [DecimalForm.number, ← digitsValue_eq_placeValue]
  exact form.sign.signed_isMinus _

/-- A power of ten that is counted in 32 bits moves a number as it should. -/
theorem scaled_eq {number scale : Int} (counted : scale.natAbs < 2 ^ 32) :
    scaled number scale = (number : Rat) * 10 ^ scale := by
  unfold scaled
  split
  · next nonneg =>
      obtain ⟨places, rfl⟩ := Int.eq_ofNat_of_zero_le nonneg
      rw [Int.natAbs_natCast] at counted
      rw [Int.toNat_natCast, unitsPerOne_eq_pow counted, zpow_natCast]
      push_cast
      rfl
  · next negative =>
      obtain ⟨places, rfl⟩ := Int.exists_eq_neg_ofNat (by omega : scale ≤ 0)
      rw [neg_neg, Int.toNat_natCast, ofScaled_eq_div (by simpa using counted), zpow_neg,
        zpow_natCast, div_eq_mul_inv]

/-- The bound on the exponent is all that the pieces of a decimal have to meet. -/
theorem ofLiteral?_pieces (form : DecimalForm) :
    ofLiteral? form.pieces =
      if form.power.natAbs ≤ 4096 then some (scaled form.number form.scale) else none := by
  simp only [ofLiteral?, scale_pieces, signed_pieces]
  rw [natAbs_power, greatestLiteralExponent]
  by_cases bounded : form.power.natAbs ≤ 4096
  · rw [if_neg (Nat.not_lt.mpr bounded), if_pos bounded]
  · rw [if_pos (Nat.lt_of_not_le bounded), if_neg bounded]

/-- Every character of a decimal form belongs to one of its pieces. -/
theorem mem_piece_of_mem_decimal {form : DecimalForm} {c : Char} (member : c ∈ form.chars) :
    c ∈ form.sign.chars ∨ c ∈ form.mantissa ∨
      ∃ exponent : ExponentForm, c = exponent.mark ∨ c ∈ exponent.power.chars := by
  rcases List.mem_append.mp member with sign | body
  · exact .inl sign
  rcases List.mem_append.mp body with mantissa | tail
  · exact .inr (.inl mantissa)
  cases found : form.exponent with
  | none => simp [found] at tail
  | some exponent => exact .inr (.inr ⟨exponent, by simpa [found] using tail⟩)

theorem ne_slash_of_mem_decimal {form : DecimalForm} {c : Char} (member : c ∈ form.chars) :
    c ≠ '/' := by
  rcases mem_piece_of_mem_decimal member with sign | mantissa | ⟨exponent, mark | power⟩
  · cases kind : form.sign <;> simp only [kind, Sign.chars, List.mem_cons, List.not_mem_nil] at sign
    all_goals
      rcases sign with rfl | impossible
      · decide
      · cases impossible
  · rcases DecimalForm.isDigit_or_point mantissa with digit | rfl
    · exact ne_of_isDigit digit rfl
    · decide
  · rcases exponent.mark_eq with lower | upper
    · rw [mark, lower]
      decide
    · rw [mark, upper]
      decide
  · simpa using exponent.power.ne_slash c power

/-- Whatever is read is the text of a rational form, and is the number of the
form if its power of ten is counted in 32 bits. -/
theorem exists_form_of_readLiteral? {text : String} {r : Rat}
    (reads : Rational.readLiteral? text = some r) :
    ∃ form : RationalForm, form.text = text ∧
      (form.scale.natAbs < 2 ^ 32 → form.value = r) := by
  unfold Rational.readLiteral? at reads
  split at reads
  · obtain ⟨numerator, denominator, nonzero, written, quotient⟩ :=
      readFraction?_eq_some_iff.mp reads
    refine ⟨.fraction numerator denominator nonzero, ?_, fun _ => quotient⟩
    rw [RationalForm.text, RationalForm.chars, written, String.ofList_toList]
  · obtain ⟨literal, found, accepted⟩ := Option.bind_eq_some_iff.mp reads
    obtain ⟨form, written, rfl⟩ := ofChars?_eq_some_iff.mp found
    rw [ofLiteral?_pieces] at accepted
    split at accepted
    · next bounded =>
        refine ⟨.decimal form bounded, ?_, fun counted => ?_⟩
        · rw [RationalForm.text, RationalForm.chars, written, String.ofList_toList]
        · rw [← Option.some.inj accepted]
          exact (scaled_eq counted).symm
    · cases accepted

/-- The text of a rational form is read, with its number if its power of ten is
counted in 32 bits. -/
theorem exists_readLiteral?_text (form : RationalForm) :
    ∃ r, Rational.readLiteral? form.text = some r ∧
      (form.scale.natAbs < 2 ^ 32 → form.value = r) := by
  cases form with
  | fraction numerator denominator nonzero =>
      have slash : (numerator.chars ++ '/' :: denominator.chars).contains '/' = true := by simp
      refine ⟨_, ?_, fun _ => rfl⟩
      rw [Rational.readLiteral?, RationalForm.text, String.toList_ofList, RationalForm.chars,
        if_pos slash]
      exact readFraction?_eq_some_iff.mpr ⟨numerator, denominator, nonzero, rfl, rfl⟩
  | decimal form bounded =>
      have no_slash : ¬ form.chars.contains '/' = true := by
        rw [List.contains_iff_mem]
        exact fun member => ne_slash_of_mem_decimal member rfl
      refine ⟨scaled form.number form.scale, ?_, fun counted => (scaled_eq counted).symm⟩
      rw [Rational.readLiteral?, RationalForm.text, String.toList_ofList, RationalForm.chars,
        if_neg no_slash, form.ofChars?_chars, Option.bind_some, ofLiteral?_pieces,
        if_pos bounded]

theorem readLiteral?_text {form : RationalForm} (counted : form.scale.natAbs < 2 ^ 32) :
    Rational.readLiteral? form.text = some form.value := by
  obtain ⟨r, reads, value_eq⟩ := exists_readLiteral?_text form
  rw [reads, value_eq counted]

/-- The texts that are refused are those of no form, however long they are. -/
theorem exists_readLiteral?_iff {text : String} :
    (∃ r, Rational.readLiteral? text = some r) ↔ ∃ form : RationalForm, form.text = text := by
  constructor
  · intro accepted
    obtain ⟨r, reads⟩ := accepted
    obtain ⟨form, written, _⟩ := exists_form_of_readLiteral? reads
    exact ⟨form, written⟩
  · intro written
    obtain ⟨form, rfl⟩ := written
    obtain ⟨r, reads, _⟩ := exists_readLiteral?_text form
    exact ⟨r, reads⟩

/-- The power of ten in a short text is counted in 32 bits. -/
theorem natAbs_scale_lt {form : RationalForm} (short : form.text.utf8ByteSize < 2 ^ 31) :
    form.scale.natAbs < 2 ^ 32 := by
  cases form with
  | fraction => exact Nat.two_pow_pos 32
  | decimal form bounded =>
      have size := Text.length_toList_le (RationalForm.decimal form bounded).text
      have decimals : form.decimals.length ≤ form.chars.length := by
        cases fraction : form.fraction with
        | none => simp [DecimalForm.decimals, fraction]
        | some digits =>
            simp only [DecimalForm.decimals, DecimalForm.chars, fraction, Option.map_some,
              Option.getD_some, List.length_append, List.length_cons]
            omega
      rw [RationalForm.text, String.toList_ofList, RationalForm.chars] at size
      rw [RationalForm.scale, DecimalForm.scale]
      rw [RationalForm.text, RationalForm.chars] at short
      omega

/-- Rationals are read from exactly the short texts of rational forms. -/
theorem readLiteral?_eq_some_iff {text : String} (short : text.utf8ByteSize < 2 ^ 31) {r : Rat} :
    Rational.readLiteral? text = some r ↔
      ∃ form : RationalForm, form.text = text ∧ form.value = r := by
  constructor
  · intro reads
    obtain ⟨form, rfl, value_eq⟩ := exists_form_of_readLiteral? reads
    exact ⟨form, rfl, value_eq (natAbs_scale_lt short)⟩
  · intro written
    obtain ⟨form, rfl, rfl⟩ := written
    exact readLiteral?_text (natAbs_scale_lt short)

end Rational

namespace Number

theorem read_eq_ok_iff {α : Type} [Number α] {text : String} {settings : Settings α} {value : α} :
    Number.read text settings = .ok value ↔ Number.readLiteral? settings text = some value := by
  unfold Number.read
  cases (Number.readLiteral? settings text : Option α) <;> simp

theorem read_eq_error_iff {α : Type} [Number α] {text : String} {settings : Settings α}
    {invalid : InvalidLiteral} :
    Number.read text settings = .error invalid ↔
      (¬ ∃ value : α, Number.readLiteral? settings text = some value) ∧ invalid = ⟨text⟩ := by
  unfold Number.read
  cases (Number.readLiteral? settings text : Option α) <;> simp [eq_comm]

/-- Whatever the settings are, rationals are read from exactly the texts of
rational forms and integers from exactly those of integer forms, with the
numbers of the forms; every other text is handed back. An integer form denotes
the same number for both. The number of a decimal is only claimed in texts of
less than `2 ^ 31` bytes. -/
theorem read_exact_iff_form (text : String) :
    (text.utf8ByteSize < 2 ^ 31 → ∀ (precision : Settings Rat) (r : Rat),
      Number.read text precision = .ok r ↔
        ∃ form : Decimal.RationalForm, form.text = text ∧ form.value = r) ∧
    (∀ (precision : Settings Rat) invalid, Number.read text precision = .error invalid ↔
      (¬ ∃ form : Decimal.RationalForm, form.text = text) ∧ invalid = ⟨text⟩) ∧
    (∀ (settings : Settings Int) (z : Int), Number.read text settings = .ok z ↔
      ∃ form : Decimal.IntegerForm, form.text = text ∧ form.value = z) ∧
    (∀ (settings : Settings Int) invalid, Number.read text settings = .error invalid ↔
      (¬ ∃ form : Decimal.IntegerForm, form.text = text) ∧ invalid = ⟨text⟩) ∧
    (∀ (precision : Settings Rat) (form : Decimal.IntegerForm),
      Number.read form.text precision = .ok (form.value : Rat)) := by
  have rational (precision : Settings Rat) :
      (∃ r, Number.readLiteral? precision text = some r) ↔
        ∃ form : Decimal.RationalForm, form.text = text :=
    Rational.exists_readLiteral?_iff
  have integer (settings : Settings Int) (z : Int) :
      Number.readLiteral? settings text = some z ↔
        ∃ form : Decimal.IntegerForm, form.text = text ∧ form.value = z := by
    show Decimal.readInteger? text.toList = some z ↔ _
    have same_text (form : Decimal.IntegerForm) : form.chars = text.toList ↔ form.text = text := by
      rw [← String.toList_inj, Decimal.IntegerForm.text, String.toList_ofList]
    simp only [Decimal.readInteger?_eq_some_iff_form, same_text]
  refine ⟨fun short precision r => ?_, fun precision invalid => ?_, fun settings z => ?_,
    fun settings invalid => ?_, fun precision form => ?_⟩
  · rw [read_eq_ok_iff]
    exact Rational.readLiteral?_eq_some_iff short
  · rw [read_eq_error_iff, rational]
  · rw [read_eq_ok_iff, integer]
  · rw [read_eq_error_iff]
    simp only [integer, exists_comm (α := Int), exists_and_left, exists_eq', and_true]
  · rw [read_eq_ok_iff]
    apply Rational.readLiteral?_of_readInteger?
    rw [Decimal.IntegerForm.text, String.toList_ofList]
    exact Decimal.readInteger?_eq_some_iff_form.mpr ⟨form, rfl, rfl⟩

/-- A decimal with every piece is the text of a form and is read at any
precision; a fraction with a sign below its bar is the text of none. -/
theorem read_of_decimal_and_fraction :
    "-.5E+01".utf8ByteSize < 2 ^ 31 ∧
    (∃ form : Decimal.RationalForm, form.text = "-.5E+01" ∧ form.value = -5) ∧
    (∀ precision : Settings Rat, Number.read "-.5E+01" precision = .ok (-5)) ∧
    (¬ ∃ form : Decimal.RationalForm, form.text = "1/-2") := by
  have short : "-.5E+01".utf8ByteSize < 2 ^ 31 := by decide
  have reads : Number.read "-.5E+01" = .ok (-5 : Rat) := by decide +kernel
  have refused : Number.read "1/-2" = (.error ⟨"1/-2"⟩ : Except InvalidLiteral Rat) := by
    decide +kernel
  obtain ⟨accepts, _⟩ := read_exact_iff_form "-.5E+01"
  obtain ⟨_, refuses, _⟩ := read_exact_iff_form "1/-2"
  have written := (accepts short _ _).mp reads
  exact ⟨short, written, fun precision => (accepts short precision _).mpr written,
    ((refuses _ _).mp refused).1⟩

end Number

end PostfixCalc
