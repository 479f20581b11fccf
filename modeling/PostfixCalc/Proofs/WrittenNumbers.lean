/-
# Characters of written numbers

A list of numbers is written with a comma and a blank between two of them. It
can be taken apart again because no written number has a comma or a blank of
its own and none is empty. Main statement: this holds of every kind of number,
also of the doubles that are not finite and of which only a name is written.

A finite double is written in digits, with a point and a minus sign where they
are needed.
-/

import PostfixCalc.Number.Floating
import PostfixCalc.Proofs.ExactText

namespace PostfixCalc

/-- A text that can be told from its neighbours in a list of texts. -/
structure Text.IsEntry (text : String) : Prop where
  isWord : Text.IsWord text
  no_comma : ',' ∉ text.toList

/-- A kind of number whose written forms can be told apart in a list. -/
def Number.WrittenAsEntries (α : Type) [Number α] : Prop :=
  ∀ value : α, Text.IsEntry (Number.render value)

/-! ## Exact numbers -/

theorem Decimal.ne_comma_of_written {c : Char}
    (written : c = '-' ∨ c = '+' ∨ c = '/' ∨ c.isDigit = true) : c ≠ ',' := by
  rcases written with rfl | rfl | rfl | digit
  · decide
  · decide
  · decide
  · exact Decimal.ne_of_isDigit digit rfl

theorem Integer.writtenAsEntries : Number.WrittenAsEntries Int := by
  refine fun z => ⟨(Integer.readsBack () z).2, fun comma => ?_⟩
  exact Decimal.ne_comma_of_written (Decimal.written_of_mem_intText comma) rfl

theorem Rational.written_of_mem_render {r : Rat} {c : Char}
    (member : c ∈ (Rational.render r).toList) :
    c = '-' ∨ c = '+' ∨ c = '/' ∨ c.isDigit = true := by
  unfold Rational.render at member
  split at member
  · exact Decimal.written_of_mem_intText member
  · simp only [String.toList_append, List.mem_append] at member
    rcases member with (numerator | slash) | denominator
    · exact Decimal.written_of_mem_intText numerator
    · exact .inr (.inr (.inl (List.mem_singleton.mp slash)))
    · exact .inr (.inr (.inr (Decimal.isDigit_of_mem (Decimal.isDigits_natText _) denominator)))

theorem Rational.writtenAsEntries : Number.WrittenAsEntries Rat := by
  refine fun r => ⟨(Rational.readsBack Number.defaultSettings r).2, fun comma => ?_⟩
  exact Decimal.ne_comma_of_written (Rational.written_of_mem_render comma) rfl

/-! ## Positional texts -/

namespace Decimal

/-- A text in positional notation has no other characters than these. -/
def IsPlain (text : String) : Prop :=
  ∀ c ∈ text.toList, c = '-' ∨ c = '.' ∨ c.isDigit = true

theorem isPlain_append {first second : String} :
    IsPlain (first ++ second) ↔ IsPlain first ∧ IsPlain second := by
  simp [IsPlain, or_imp, forall_and]

theorem isPlain_sign (negative : Prop) [Decidable negative] :
    IsPlain (if negative then "-" else "") := by
  intro c member
  split at member
  · exact .inl (List.mem_singleton.mp member)
  · exact absurd member (by simp)

theorem isPlain_natText (n : Nat) : IsPlain (natText n) :=
  fun _ member => .inr (.inr (isDigit_of_mem (isDigits_natText n) member))

theorem natText_ne_empty (n : Nat) : natText n ≠ "" := by
  intro empty
  have digits := isDigits_natText n
  rw [empty] at digits
  cases digits

theorem natText_injective : Function.Injective natText := by
  intro first second same
  rw [← digitsValue_natText first, same, digitsValue_natText]

theorem isPlain_paddedText (width n : Nat) : IsPlain (paddedText width n) := by
  intro c member
  rw [paddedText, String.toList_ofList] at member
  rcases List.mem_append.mp member with zero | digit
  · rw [List.eq_of_mem_replicate zero]
    exact .inr (.inr rfl)
  · exact isPlain_natText n c digit

theorem isPlain_scaledText (scaled : Int) (digits : Nat) : IsPlain (scaledText scaled digits) := by
  have point : IsPlain "." := fun c member => .inr (.inl (List.mem_singleton.mp member))
  unfold scaledText
  by_cases whole : digits = 0
  · simp only [whole, if_true, isPlain_append]
    exact ⟨isPlain_sign _, isPlain_natText _⟩
  · simp only [whole, if_false, isPlain_append]
    exact ⟨⟨⟨isPlain_sign _, isPlain_natText _⟩, point⟩, isPlain_paddedText _ _⟩

theorem scaledText_ne_empty (scaled : Int) (digits : Nat) : scaledText scaled digits ≠ "" := by
  unfold scaledText
  by_cases whole : digits = 0 <;> simp [whole, String.append_eq_empty_iff, natText_ne_empty]

theorem Numeral.isPlain_positional (numeral : Numeral) : IsPlain numeral.positional := by
  unfold Numeral.positional
  split
  · exact isPlain_scaledText _ _
  · exact isPlain_natText _

theorem Numeral.positional_ne_empty (numeral : Numeral) : numeral.positional ≠ "" := by
  unfold Numeral.positional
  split
  · exact scaledText_ne_empty _ _
  · exact natText_ne_empty _

/-- A text in positional notation is an entry unless it is empty. -/
theorem IsPlain.isEntry {text : String} (plain : IsPlain text) (nonempty : text ≠ "") :
    Text.IsEntry text := by
  refine ⟨⟨fun empty => nonempty (String.toList_eq_nil_iff.mp empty), fun c member => ?_⟩,
    fun comma => ?_⟩
  · rcases plain c member with rfl | rfl | digit
    · rfl
    · rfl
    · exact Text.isBlank_of_isDigit digit
  · rcases plain ',' comma with minus | point | digit
    · cases minus
    · cases point
    · cases digit

theorem isWord_natText (n : Nat) : Text.IsWord (natText n) :=
  ((isPlain_natText n).isEntry (natText_ne_empty n)).isWord

end Decimal

/-! ## Doubles -/

namespace Floating

open Binary64 (infinityBits)

/-- A double whose pattern is below that of infinity is written in positional
notation, and of any other a name is written. -/
theorem render_cases (x : Float) :
    (x.toBits.toNat % signBit < infinityBits ∧ Decimal.IsPlain (render x) ∧ render x ≠ "") ∨
    (infinityBits ≤ x.toBits.toNat % signBit ∧ render x ∈ ["inf", "-inf", "NaN"]) := by
  have infinity_positive : 0 < infinityBits := by decide
  by_cases zero : x.toBits.toNat % signBit = 0
  · have written : render x = (if signBit ≤ x.toBits.toNat then "-" else "") ++ "0" := by
      simp only [render, zero, if_true]
    refine .inl ⟨by omega, ?_, ?_⟩
    · rw [written, Decimal.isPlain_append]
      exact ⟨Decimal.isPlain_sign _, Decimal.isPlain_natText 0⟩
    · rw [written]
      simp [String.append_eq_empty_iff]
  by_cases finite : x.toBits.toNat % signBit < infinityBits
  · have written : render x = (if signBit ≤ x.toBits.toNat then "-" else "") ++
        (Binary64.shortestDecimal (.ofBits (x.toBits.toNat % signBit))).positional := by
      simp only [render, zero, finite, if_false, if_true]
    refine .inl ⟨finite, ?_, ?_⟩
    · rw [written, Decimal.isPlain_append]
      exact ⟨Decimal.isPlain_sign _, Decimal.Numeral.isPlain_positional _⟩
    · rw [written]
      simp [String.append_eq_empty_iff, Decimal.Numeral.positional_ne_empty]
  refine .inr ⟨Nat.le_of_not_lt finite, ?_⟩
  by_cases infinite : x.toBits.toNat % signBit = infinityBits
  · have written : render x = (if signBit ≤ x.toBits.toNat then "-" else "") ++ "inf" := by
      simp only [render]
      rw [if_neg zero, if_neg finite, if_pos infinite]
    rw [written]
    split <;> decide
  · have written : render x = "NaN" := by
      simp only [render, zero, finite, infinite, if_false]
    simp [written]

theorem writtenAsEntries : Number.WrittenAsEntries Float := by
  intro x
  rcases render_cases x with ⟨_, plain, nonempty⟩ | ⟨_, name⟩
  · exact plain.isEntry nonempty
  · have each : ∀ text ∈ ["inf", "-inf", "NaN"], Text.IsWord text ∧ ',' ∉ text.toList := by decide
    exact ⟨(each _ name).1, (each _ name).2⟩

end Floating

end PostfixCalc
