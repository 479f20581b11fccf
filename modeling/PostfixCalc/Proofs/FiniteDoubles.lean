/-
# Only finite doubles are evaluated

A double is finite exactly if the exponent of its pattern is not the greatest
one, and negation changes nothing but the sign of a pattern. Literals are read
as finite doubles only. Of the operations that a calculator knows at first,
most check their result; negation and the two constants do not need to.

Main statement: as long as what is registered makes finite doubles of finite
doubles, every number that an evaluation puts on its stack is finite. What a
value, a trace or a stack left over shows is then in positional notation, and
never the name of a double that is not finite. Nothing is assumed of the
functions that check their results.
-/

import Mathlib.Algebra.Group.Nat.Defs
import PostfixCalc.Proofs.KeptNumbers
import PostfixCalc.Proofs.WrittenNumbers

namespace PostfixCalc

namespace Floating

/-! ## Patterns of finite doubles -/

section Patterns

open Float.Model (Format)
open Float.Model.UnpackedFloat

theorem unpackExponent_packedNaN (format : Format) : unpackExponent (packedNaN format) = -1#_ :=
  unpackExponent_packComponents ..

theorem unpackExponent_packedInfinity (format : Format) (sign : Sign) :
    unpackExponent (packedInfinity format sign) = -1#_ :=
  unpackExponent_packComponents ..

theorem unpackExponent_packedZero (format : Format) (sign : Sign) :
    unpackExponent (packedZero format sign) = 0#_ :=
  unpackExponent_packComponents ..

theorem unpackExponent_pack_neg (format : Format) (x : Float.Model.UnpackedFloat) :
    unpackExponent (pack format x.neg) = unpackExponent (pack format x) := by
  cases x with
  | notANumber => rfl
  | infinity sign =>
      exact (unpackExponent_packedInfinity ..).trans (unpackExponent_packedInfinity ..).symm
  | zero sign => exact (unpackExponent_packedZero ..).trans (unpackExponent_packedZero ..).symm
  | finite sign mantissa exponent positive =>
      unfold neg pack
      dsimp only
      split
      · rw [unpackExponent_packedInfinity, unpackExponent_packedInfinity]
      · split <;> rw [unpackExponent_packComponents, unpackExponent_packComponents]

/-- A finite number is packed without the greatest exponent if its own is small. -/
theorem unpackExponent_pack_finite {format : Format} {sign : Sign} {mantissa : Nat}
    {exponent : Int} {positive : 0 < mantissa}
    (small : (exponent + format.exponentBias + format.mantissaBitsWithoutImplicit).toNat + 1 <
      2 ^ format.exponentBits) :
    unpackExponent (pack format (.finite sign mantissa exponent positive)) ≠ -1#_ := by
  have one_less : ∀ biased : Nat, biased + 1 < 2 ^ format.exponentBits →
      BitVec.ofNat format.exponentBits biased ≠ -1#_ := by
    intro biased below greatest
    have same := congrArg BitVec.toNat greatest
    rw [BitVec.toNat_ofNat, BitVec.neg_one_eq_allOnes, BitVec.toNat_allOnes,
      Nat.mod_eq_of_lt (by omega)] at same
    omega
  unfold pack
  dsimp only
  rw [if_neg (Nat.not_le.mpr small)]
  split
  · rw [unpackExponent_packComponents]
    exact one_less _ small
  · rw [unpackExponent_packComponents]
    exact one_less 0 (by omega)

/-- What a pattern stands for, by its exponent. -/
inductive Unpacks {format : Format} (bits : BitVec format.numBits) :
    Float.Model.UnpackedFloat → Prop
  | notANumber (greatest : unpackExponent bits = -1#_) : Unpacks bits .notANumber
  | infinity (sign : Sign) (greatest : unpackExponent bits = -1#_) :
      Unpacks bits (.infinity sign)
  | zero (sign : Sign) (other : unpackExponent bits ≠ -1#_) (least : unpackExponent bits = 0#_) :
      Unpacks bits (.zero sign)
  | finite (sign : Sign) (mantissa : Nat) (exponent : Int) (positive : 0 < mantissa)
      (other : unpackExponent bits ≠ -1#_)
      (small : (exponent + format.exponentBias + format.mantissaBitsWithoutImplicit).toNat + 1 <
        2 ^ format.exponentBits) :
      Unpacks bits (.finite sign mantissa exponent positive)

theorem toNat_unpackExponent_succ_lt {format : Format} {bits : BitVec format.numBits}
    (other : unpackExponent bits ≠ -1#_) :
    (unpackExponent bits).toNat + 1 < 2 ^ format.exponentBits := by
  have bounded := (unpackExponent bits).isLt
  have unequal : (unpackExponent bits).toNat ≠ 2 ^ format.exponentBits - 1 := by
    intro same
    apply other
    rw [← BitVec.toNat_inj, same, BitVec.neg_one_eq_allOnes, BitVec.toNat_allOnes]
  omega

theorem unpacks_unpack {format : Format} (several : 2 ≤ format.exponentBits)
    (bits : BitVec format.numBits) : Unpacks bits (unpack format bits) := by
  unfold unpack
  dsimp only
  by_cases greatest : unpackExponent bits = -1#_
  · rw [if_pos greatest]
    by_cases empty : unpackMantissa bits = 0#_
    · rw [if_pos empty]
      exact .infinity _ greatest
    · rw [if_neg empty]
      exact .notANumber greatest
  rw [if_neg greatest]
  by_cases least : unpackExponent bits = 0#_
  · rw [if_pos least]
    by_cases empty : unpackMantissa bits = 0#_
    · rw [dif_pos empty]
      exact .zero _ greatest least
    · rw [dif_neg empty]
      refine .finite _ _ _ _ greatest ?_
      have four : 2 ^ 2 ≤ 2 ^ format.exponentBits := Nat.pow_le_pow_right (by decide) several
      rw [least, BitVec.toNat_zero]
      omega
  · rw [if_neg least]
    refine .finite _ _ _ _ greatest ?_
    have below := toNat_unpackExponent_succ_lt greatest
    omega

theorem Unpacks.isFinite_iff {format : Format} {bits : BitVec format.numBits}
    {x : Float.Model.UnpackedFloat} (unpacks : Unpacks bits x) :
    x.isFinite = true ↔ unpackExponent bits ≠ -1#_ := by
  cases unpacks with
  | notANumber greatest => exact iff_of_false Bool.false_ne_true (not_not_intro greatest)
  | infinity _ greatest => exact iff_of_false Bool.false_ne_true (not_not_intro greatest)
  | zero _ other => exact iff_of_true rfl other
  | finite _ _ _ _ other => exact iff_of_true rfl other

/-- Packing what a pattern stands for keeps the greatest exponent where it is, and
does not bring it in. -/
theorem Unpacks.unpackExponent_pack_iff {format : Format} {bits : BitVec format.numBits}
    {x : Float.Model.UnpackedFloat} (unpacks : Unpacks bits x) :
    unpackExponent (pack format x) = -1#_ ↔ unpackExponent bits = -1#_ := by
  cases unpacks with
  | notANumber greatest => exact iff_of_true (unpackExponent_packedNaN ..) greatest
  | infinity _ greatest => exact iff_of_true (unpackExponent_packedInfinity ..) greatest
  | zero sign _ least =>
      have packed : unpackExponent (pack format (.zero sign)) = unpackExponent bits :=
        (unpackExponent_packedZero ..).trans least.symm
      rw [packed]
  | finite _ _ _ _ other small => exact iff_of_false (unpackExponent_pack_finite small) other

theorem isFinite_neg (x : Float) : (-x).isFinite = x.isFinite := by
  let bits : BitVec Format.binary64.numBits := x.toModel.toBits.toBitVec
  show (unpack Format.binary64 (pack Format.binary64 (unpack Format.binary64 bits).neg)).isFinite =
    (unpack Format.binary64 bits).isFinite
  rw [Bool.eq_iff_iff, (unpacks_unpack (by decide) _).isFinite_iff,
    (unpacks_unpack (by decide) bits).isFinite_iff, unpackExponent_pack_neg, Ne,
    (unpacks_unpack (by decide) bits).unpackExponent_pack_iff]


theorem isFinite_iff_pattern (x : Float) :
    x.isFinite = true ↔ x.toBits.toNat % signBit < Binary64.infinityBits := by
  let bits : BitVec Format.binary64.numBits := x.toModel.toBits.toBitVec
  have exponent : (unpackExponent bits).toNat = x.toBits.toNat / 2 ^ 52 % 2 ^ 11 := by
    rw [unpackExponent, BitVec.toNat_cast, BitVec.extractLsb_toNat, Nat.shiftRight_eq_div_pow]
    rfl
  have greatest : (-BitVec.ofNat Format.binary64.exponentBits 1).toNat = 2047 := rfl
  have sign : signBit = 2 ^ 63 := rfl
  have infinity : Binary64.infinityBits = 2047 * 2 ^ 52 := rfl
  show (unpack Format.binary64 bits).isFinite = true ↔ _
  rw [(unpacks_unpack (by decide) bits).isFinite_iff, Ne, ← BitVec.toNat_inj, exponent, greatest,
    sign, infinity]
  omega

end Patterns

/-- A text that shows a finite double, in positional notation. -/
structure ShowsFinite (text : String) : Prop where
  double : ∃ x : Float, x.isFinite = true ∧ render x = text
  plain : Decimal.IsPlain text
  nonempty : text ≠ ""

theorem showsFinite_render {x : Float} (finite : x.isFinite = true) : ShowsFinite (render x) := by
  rcases render_cases x with ⟨_, plain, nonempty⟩ | ⟨not_below, _⟩
  · exact ⟨⟨x, finite, rfl⟩, plain, nonempty⟩
  · exact absurd ((isFinite_iff_pattern x).mp finite) (Nat.not_lt.mpr not_below)

/-! ## What is known at first -/

theorem isFinite_of_checked {name : String} {x value : Float}
    (passes : checked name x = .ok value) : value.isFinite = true := by
  unfold checked at passes
  split at passes
  · next finite =>
      cases passes
      exact finite
  · cases passes

theorem isFinite_of_divide {dividend divisor value : Float}
    (quotient : divide dividend divisor = .ok value) : value.isFinite = true := by
  unfold divide at quotient
  split at quotient
  · cases quotient
  · exact isFinite_of_checked quotient

theorem isFinite_of_readLiteral? {text : String} {value : Float}
    (reads : readLiteral? text = some value) : value.isFinite = true := by
  obtain ⟨literal, _, rounds⟩ := Option.bind_eq_some_iff.mp reads
  simp only [ofLiteral?, Option.ite_none_right_eq_some, Option.some.injEq] at rounds
  obtain ⟨finite, rfl⟩ := rounds
  exact finite

theorem isFinite_pi : pi.isFinite = true := by
  decide +kernel

theorem isFinite_naturalBase : naturalBase.isFinite = true := by
  decide +kernel

/-- The finite doubles, as a property of numbers. -/
def IsFinite (x : Float) : Prop :=
  x.isFinite = true

theorem keeps_function (name : String) (rule : Float → Float) :
    (function name rule).2.Keeps IsFinite :=
  .unary fun _ _ _ => isFinite_of_checked

theorem keeps_checked (name : String) (rule : Float → Float → Float) :
    (Operation.binary fun x y => checked name (rule x y)).Keeps IsFinite :=
  .binary fun _ _ _ _ _ => isFinite_of_checked

theorem keeps_arithmetic : ∀ entry ∈ (Number.arithmetic : List (String × Operation Float)),
    entry.2.Keeps IsFinite := by
  simp only [Number.arithmetic, List.forall_mem_cons]
  exact ⟨keeps_checked "+" (· + ·), keeps_checked "-" (· - ·), keeps_checked "*" (· * ·),
    .binary fun _ _ _ _ _ => isFinite_of_divide, List.forall_mem_nil _⟩

theorem keeps_functions : ∀ entry ∈ functions, entry.2.Keeps IsFinite := by
  have negation : (Operation.unary fun x : Float => .ok (-x)).Keeps IsFinite := by
    refine .unary fun x finite value yields => ?_
    cases yields
    exact (isFinite_neg x).trans finite
  have constants : (Operation.constant pi).Keeps IsFinite ∧
      (Operation.constant naturalBase).Keeps IsFinite :=
    ⟨.constant isFinite_pi, .constant isFinite_naturalBase⟩
  simp only [functions, List.forall_mem_cons, keeps_function, keeps_checked, negation,
    constants, true_and]
  exact List.forall_mem_nil _

end Floating

namespace Calculator

open Floating (IsFinite ShowsFinite)

theorem keeps_standard : (standard : Calculator Float).Keeps IsFinite := by
  refine .ofSettings (fun _ _ => Floating.isFinite_of_readLiteral?) fun entry member => ?_
  rcases List.mem_append.mp member with arithmetic | named
  · exact Floating.keeps_arithmetic entry arithmetic
  · exact Floating.keeps_functions entry named

/-- Every number on the stack of an evaluation is finite, if what was registered
makes finite doubles of finite doubles, and so are the value and what a trace
or a stack left over shows. -/
theorem evaluates_finite {registrations : List (String × Operation Float)}
    (each : ∀ entry ∈ registrations, entry.2.Keeps IsFinite) (equation : String) :
    let calculator : Calculator Float :=
      registrations.foldl (fun reached entry => reached.register entry.1 entry.2) standard
    (∀ step ∈ (calculator.run equation).steps, ∀ x ∈ step.stack, x.isFinite = true) ∧
    (∀ value, calculator.evaluate equation = .ok value → value.isFinite = true) ∧
    (∀ value steps, calculator.explain equation = .ok (value, steps) →
      ∀ shown ∈ steps, ∀ entry ∈ shown.entries, ShowsFinite entry) ∧
    (∀ entries, calculator.evaluate equation = .error (.leftoverStack entries) →
      ∀ entry ∈ entries, ShowsFinite entry) := by
  intro calculator
  have keeps : calculator.Keeps IsFinite := keeps_standard.foldl_register each
  refine ⟨keeps.steps_run equation, fun value => keeps.evaluate,
    fun value steps explained shown member entry written => ?_,
    fun entries left entry written => ?_⟩
  · obtain ⟨x, finite, rfl⟩ := keeps.entry_of_explain explained shown member entry written
    exact Floating.showsFinite_render finite
  · obtain ⟨x, finite, rfl⟩ := keeps.entry_of_leftoverStack left entry written
    exact Floating.showsFinite_render finite

/-- The mean of two numbers with a checked result, under the given name. -/
def checkedMean (name : String) : String × Operation Float :=
  (name, .binary fun x y => Floating.checked name ((x + y) / 2))

/-- A mean under a name of its own, and one in place of addition. -/
def meanRegistrations : List (String × Operation Float) :=
  [checkedMean "moy", checkedMean "+"]

/-- The mean of two numbers is finite, the mean of two that are too large is
refused, and what is left beside a constant is written in digits. -/
theorem means_evaluate_finite :
    let calculator : Calculator Float :=
      meanRegistrations.foldl (fun reached entry => reached.register entry.1 entry.2) standard
    (∀ entry ∈ meanRegistrations, entry.2.Keeps IsFinite) ∧
    (∀ step ∈ (calculator.run "1e308 1e308 moy").steps, ∀ x ∈ step.stack, x.isFinite = true) ∧
    (calculator.evaluate "1e308 1e308 moy").map Number.render =
      .error (.arithmetic (.outOfDomain "moy")) ∧
    calculator.evaluate "2 4 + pi" = .error (.leftoverStack ["3", "3.141592653589793"]) ∧
    ShowsFinite "3" ∧ ShowsFinite "3.141592653589793" := by
  intro calculator
  have keeps_mean (name : String) : (checkedMean name).2.Keeps IsFinite :=
    Floating.keeps_checked name fun x y => (x + y) / 2
  have each : ∀ entry ∈ meanRegistrations, entry.2.Keeps IsFinite :=
    List.forall_mem_cons.mpr ⟨keeps_mean "moy", List.forall_mem_singleton.mpr (keeps_mean "+")⟩
  have refused : (calculator.evaluate "1e308 1e308 moy").map Number.render =
      .error (.arithmetic (.outOfDomain "moy")) := by
    decide +kernel
  have left : calculator.evaluate "2 4 + pi" =
      .error (.leftoverStack ["3", "3.141592653589793"]) := rfl
  have shown := (evaluates_finite each "2 4 + pi").2.2.2 _ left
  exact ⟨each, (evaluates_finite each _).1, refused, left, shown _ (by decide), shown _ (by decide)⟩

end Calculator

end PostfixCalc
