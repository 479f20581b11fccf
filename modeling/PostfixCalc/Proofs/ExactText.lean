/-
# Written forms of exact numbers

An integer or a rational that is written down is one word, and this word is a
literal of the number. For rationals the reader has to find out first which
shape it is given: only a written fraction has a slash, and a text that is an
integer is the decimal of the same value.
-/

import Mathlib.Data.Rat.Defs
import PostfixCalc.Number.Rational
import PostfixCalc.Proofs.Words

namespace PostfixCalc

/-- A kind of number whose written forms are words that read back, whatever the
settings are. -/
def Number.ReadsBack (α : Type) [Number α] : Prop :=
  ∀ (settings : Number.Settings α) (value : α),
    Number.readLiteral? settings (Number.render value) = some value ∧
      Text.IsWord (Number.render value)

theorem isDigit_iff_toNat {c : Char} : c.isDigit = true ↔ 48 ≤ c.toNat ∧ c.toNat ≤ 57 := by
  simp [Char.isDigit, UInt32.le_iff_toNat_le]

theorem Text.isBlank_of_isDigit {c : Char} (digit : c.isDigit = true) : Text.isBlank c = false := by
  rw [isDigit_iff_toNat] at digit
  simp only [Text.isBlank, Text.blankRanges, List.any_cons, List.any_nil, Bool.or_false,
    Bool.or_eq_false_iff, Bool.and_eq_false_iff, decide_eq_false_iff_not]
  omega

namespace Decimal

theorem ne_of_isDigit {c d : Char} (digit : c.isDigit = true) (other : d.isDigit = false) :
    c ≠ d := by
  intro same
  rw [same, other] at digit
  cases digit

theorem splitFirst_of_forall {here : Char → Bool} {chars : List Char}
    (nowhere : ∀ c ∈ chars, here c = false) : splitFirst here chars = (chars, none) := by
  induction chars with
  | nil => rfl
  | cons c rest ih =>
      rw [splitFirst, nowhere c List.mem_cons_self,
        ih fun d member => nowhere d (List.mem_cons_of_mem _ member)]
      rfl

theorem splitFirst_append {here : Char → Bool} {before : List Char}
    (nowhere : ∀ c ∈ before, here c = false) {c : Char} (found : here c = true)
    (after : List Char) : splitFirst here (before ++ c :: after) = (before, some after) := by
  induction before with
  | nil => simp [splitFirst, found]
  | cons d rest ih =>
      rw [List.cons_append, splitFirst, nowhere d List.mem_cons_self,
        ih fun e member => nowhere e (List.mem_cons_of_mem _ member)]
      rfl

/-- Only a sign is dropped in front of the rest. -/
theorem mem_of_splitSign {chars rest : List Char} {negative : Bool}
    (split : splitSign chars = (negative, rest)) {c : Char} (member : c ∈ chars) :
    c = '-' ∨ c = '+' ∨ c ∈ rest := by
  unfold splitSign at split
  split at split <;> cases split
  · rcases List.mem_cons.mp member with rfl | member
    · exact .inl rfl
    · exact .inr (.inr member)
  · rcases List.mem_cons.mp member with rfl | member
    · exact .inr (.inl rfl)
    · exact .inr (.inr member)
  · exact .inr (.inr member)

theorem isDigit_of_mem {chars : List Char} (digits : isDigits chars = true) {c : Char}
    (member : c ∈ chars) : c.isDigit = true := by
  simp only [isDigits, Bool.and_eq_true, List.all_eq_true] at digits
  exact digits.2 c member

theorem readInteger?_eq_some_iff {chars : List Char} {z : Int} :
    readInteger? chars = some z ↔
      ∃ negative digits, splitSign chars = (negative, digits) ∧ isDigits digits = true ∧
        z = signed negative (digitsValue digits) := by
  cases split : splitSign chars with
  | mk negative digits =>
      by_cases all_digits : isDigits digits = true
      · simp only [readInteger?, split, all_digits, if_true, Option.some.injEq]
        refine ⟨fun same => ⟨negative, digits, rfl, all_digits, same.symm⟩, ?_⟩
        intro pieces
        obtain ⟨_, _, same, _, rfl⟩ := pieces
        cases same
        rfl
      · simp only [readInteger?, split, all_digits, Bool.false_eq_true, if_false]
        refine ⟨fun impossible => (by cases impossible), ?_⟩
        intro pieces
        obtain ⟨_, _, same, other_digits, _⟩ := pieces
        cases same
        exact absurd other_digits all_digits

/-- The characters of an integer literal are signs and digits. -/
theorem mem_of_readInteger? {chars : List Char} {z : Int} (reads : readInteger? chars = some z)
    {c : Char} (member : c ∈ chars) : c = '-' ∨ c = '+' ∨ c.isDigit = true := by
  obtain ⟨negative, digits, split, all_digits, _⟩ := readInteger?_eq_some_iff.mp reads
  rcases mem_of_splitSign split member with minus | plus | member
  · exact .inl minus
  · exact .inr (.inl plus)
  · exact .inr (.inr (isDigit_of_mem all_digits member))

end Decimal

/-- A text that is an integer is the decimal of the same value. -/
theorem Rational.readLiteral?_of_readInteger? {text : String} {z : Int}
    (reads : Decimal.readInteger? text.toList = some z) :
    Rational.readLiteral? text = some (z : Rat) := by
  obtain ⟨negative, digits, split, all_digits, rfl⟩ :=
    Decimal.readInteger?_eq_some_iff.mp reads
  have no_slash : text.toList.contains '/' = false := by
    rw [Bool.eq_false_iff, Ne, List.contains_iff_mem]
    intro member
    rcases Decimal.mem_of_readInteger? reads member with minus | plus | digit
    · cases minus
    · cases plus
    · cases digit
  have no_mark : ∀ c ∈ digits, Decimal.Literal.isExponentMark c = false := by
    intro c member
    have digit := Decimal.isDigit_of_mem all_digits member
    have not_lower : c ≠ 'e' := Decimal.ne_of_isDigit digit rfl
    have not_upper : c ≠ 'E' := Decimal.ne_of_isDigit digit rfl
    simp [Decimal.Literal.isExponentMark, not_lower, not_upper]
  have no_point : ∀ c ∈ digits, (decide (c = '.')) = false := by
    intro c member
    have not_point : c ≠ '.' :=
      Decimal.ne_of_isDigit (Decimal.isDigit_of_mem all_digits member) rfl
    simp [not_point]
  have pieces : Decimal.Literal.ofChars? text.toList =
      some ⟨negative, digits, [], false, []⟩ := by
    simp [Decimal.Literal.ofChars?, split, Decimal.splitFirst_of_forall no_mark,
      Decimal.splitFirst_of_forall no_point, all_digits]
  have unscaled : Decimal.unitsPerOne 0 = 1 := rfl
  rw [Rational.readLiteral?, no_slash, pieces]
  simp [Rational.ofLiteral?, Rational.scaled, Decimal.digitsValue, Decimal.Literal.scale,
    Decimal.signed, Decimal.Literal.mantissa, unscaled]

/-- A text of characters that can stand in the written form of an exact number
is a word unless it is empty. -/
theorem Text.isWord_of_written {text : String} (nonempty : text.toList ≠ [])
    (written : ∀ c ∈ text.toList, c = '-' ∨ c = '+' ∨ c = '/' ∨ c.isDigit = true) :
    Text.IsWord text := by
  refine ⟨nonempty, fun c member => ?_⟩
  rcases written c member with rfl | rfl | rfl | digit
  · rfl
  · rfl
  · rfl
  · exact Text.isBlank_of_isDigit digit

theorem Decimal.mem_intText {z : Int} {c : Char} (member : c ∈ (Decimal.intText z).toList) :
    c = '-' ∨ c = '+' ∨ c.isDigit = true :=
  Decimal.mem_of_readInteger? (Decimal.readInteger?_intText z) member

theorem Decimal.intText_ne_nil (z : Int) : (Decimal.intText z).toList ≠ [] := by
  intro empty
  have reads := Decimal.readInteger?_intText z
  rw [empty] at reads
  cases reads

theorem Decimal.written_of_mem_intText {z : Int} {c : Char}
    (member : c ∈ (Decimal.intText z).toList) :
    c = '-' ∨ c = '+' ∨ c = '/' ∨ c.isDigit = true := by
  rcases Decimal.mem_intText member with minus | plus | digit
  · exact .inl minus
  · exact .inr (.inl plus)
  · exact .inr (.inr (.inr digit))

/-- A written fraction reads back; its only slash stands before the denominator. -/
theorem Rational.readLiteral?_fraction (r : Rat) :
    Rational.readLiteral? (Decimal.intText r.num ++ "/" ++ Decimal.natText r.den) = some r := by
  have no_slash : ∀ c ∈ (Decimal.intText r.num).toList, decide (c = '/') = false := by
    intro c member
    rcases Decimal.mem_intText member with rfl | rfl | digit
    · rfl
    · rfl
    · simpa using Decimal.ne_of_isDigit digit rfl
  have chars : (Decimal.intText r.num ++ "/" ++ Decimal.natText r.den).toList =
      (Decimal.intText r.num).toList ++ '/' :: (Decimal.natText r.den).toList := by
    simp
  rw [Rational.readLiteral?, chars]
  simp [Decimal.readFraction?, Decimal.splitFirst_append no_slash,
    Decimal.readInteger?_intText, Decimal.isDigits_natText, Decimal.digitsValue_natText,
    r.den_nz]

theorem Integer.readsBack : Number.ReadsBack Int := by
  intro settings z
  refine ⟨Decimal.readInteger?_intText z, Text.isWord_of_written (Decimal.intText_ne_nil z) ?_⟩
  exact fun c member => Decimal.written_of_mem_intText member

theorem Rational.readsBack : Number.ReadsBack Rat := by
  intro settings r
  show Rational.readLiteral? (Rational.render r) = some r ∧ Text.IsWord (Rational.render r)
  by_cases whole : r.den = 1
  · have value : (r.num : Rat) = r := Rat.coe_int_num_of_den_eq_one whole
    rw [Rational.render, if_pos whole]
    refine ⟨?_, (Integer.readsBack () r.num).2⟩
    rw [Rational.readLiteral?_of_readInteger? (Decimal.readInteger?_intText r.num), value]
  · rw [Rational.render, if_neg whole]
    refine ⟨Rational.readLiteral?_fraction r, Text.isWord_of_written ?_ ?_⟩
    · simp
    · intro c member
      simp only [String.toList_append, List.mem_append] at member
      rcases member with (member | member) | member
      · exact Decimal.written_of_mem_intText member
      · obtain rfl : c = '/' := List.mem_singleton.mp member
        exact .inr (.inr (.inl rfl))
      · exact .inr (.inr (.inr (Decimal.isDigit_of_mem (Decimal.isDigits_natText _) member)))

end PostfixCalc
