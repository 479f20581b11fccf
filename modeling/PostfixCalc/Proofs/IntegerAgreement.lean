/-
# Integers among the rationals

An equation on integers can be evaluated by either exact kind of number. The
two read integer literals alike and know seven operations under the same
names, which do the same to integers. Two differences remain: a negative
exponent has a rational power and no integer one, and a rational root keeps
decimals unless the precision is zero.

The root of integers is that of an arithmetic library, which is assumed to be
the floor; the root of rationals is made by an iteration of its own.

Main statement: apart from the two differences, a new calculator of rationals
gives the value of one of integers, or its error.
-/

import Mathlib.Algebra.Order.Ring.Cast
import Mathlib.Data.Rat.Cast.Defs
import PostfixCalc.Proofs.ExactPower
import PostfixCalc.Proofs.FloorRoot
import PostfixCalc.Proofs.LiteralForms
import PostfixCalc.Proofs.RunImage

namespace PostfixCalc

/-- The failure of integer powers that rational powers do not share. -/
def IsNegativeExponent (failure : Failure) : Prop :=
  failure = .negativeExponent

namespace Integer

/-- A library whose roots are rounded down. -/
def Library.Floors (library : Library) : Prop :=
  ∀ radicand, library.root radicand = Nat.sqrt radicand

theorem heron_eq_iter (radicand guess : Nat) :
    heron radicand guess = Nat.sqrt.iter radicand guess := by
  fun_induction heron radicand guess with
  | case1 guess next lower ih => rw [Nat.sqrt.iter, dif_pos lower, ih]
  | case2 guess next reached => rw [Nat.sqrt.iter, dif_neg reached]

/-- A calculator that is built on no library in particular has such roots. -/
theorem Library.floors_standard : Library.standard.Floors := by
  intro radicand
  simp only [Library.standard, heron_eq_iter, Nat.sqrt]

end Integer

namespace Rational

theorem render_intCast (z : Int) : Number.render (z : Rat) = Number.render z := by
  show Rational.render (z : Rat) = Decimal.intText z
  rw [Rational.render, Rat.den_intCast, if_pos rfl, Rat.num_intCast]

theorem abs_intCast (z : Int) : (z : Rat).abs = ((z.natAbs : Int) : Rat) := by
  rw [abs_eq_abs, ← Int.cast_abs, Int.abs_eq_natAbs]

/-- The powers of a base are bounded for both kinds or for neither. -/
theorem large_intCast_iff {base exponent : Int} (natural : 0 ≤ exponent) :
    ((base : Rat) ≠ 0 ∧ (base : Rat) ≠ 1 ∧ (base : Rat) ≠ -1 ∧ 4096 < |exponent|) ↔
      2 ≤ |base| ∧ 4096 < exponent := by
  rw [abs_of_nonneg natural, Int.abs_eq_natAbs]
  norm_cast
  omega

/-- On a natural exponent the powers of both kinds are the same. -/
theorem power_intCast (base : Int) {exponent : Int} (natural : 0 ≤ exponent) :
    Rational.power (base : Rat) (exponent : Rat) =
      (Integer.power base exponent).map Int.cast := by
  have same_power : (base : Rat) ^ exponent = ((base ^ exponent.toNat : Int) : Rat) := by
    obtain ⟨count, rfl⟩ := Int.eq_ofNat_of_zero_le natural
    exact (zpow_natCast _ _).trans (Int.cast_pow base count).symm
  have rational := Rational.power_cases (base : Rat) (Rat.den_intCast exponent)
  rw [Rat.num_intCast, large_intCast_iff natural, same_power] at rational
  rcases Integer.power_cases base exponent with
    ⟨negative, _⟩ | ⟨_, large, fails⟩ | ⟨_, small, succeeds⟩
  · exact absurd natural (Int.not_le.mpr negative)
  · rcases rational with ⟨⟨_, negative⟩, _⟩ | ⟨_, _, fails_too⟩ | ⟨_, small, _⟩
    · exact absurd natural (Int.not_le.mpr negative)
    · rw [fails, fails_too]
      rfl
    · exact absurd large small
  · rcases rational with ⟨⟨_, negative⟩, _⟩ | ⟨_, large, _⟩ | ⟨_, _, succeeds_too⟩
    · exact absurd natural (Int.not_le.mpr negative)
    · exact absurd large small
    · rw [succeeds, succeeds_too]
      rfl

/-- Without decimals the root of an integer is the floor, as that of the library. -/
theorem squareRoot_intCast {library : Integer.Library} (floors : library.Floors)
    {precision : Precision} (whole : precision.digits = 0) (z : Int) :
    Rational.squareRoot precision (z : Rat) = (Integer.squareRoot library z).map Int.cast := by
  have one_unit : Decimal.unitsPerOne 0 = 1 := rfl
  unfold Rational.squareRoot Integer.squareRoot Approx.squareRoot?
  rw [Rat.num_intCast, whole, floors]
  by_cases negative : z < 0
  · rw [if_pos negative, if_pos negative]
    rfl
  rw [if_neg negative, if_neg negative]
  by_cases zero : z = 0
  · simp [zero, Except.map]
  rw [if_neg zero]
  have radicand : Approx.scaledRadicand (z : Rat) 0 = z.toNat := by
    simp [Approx.scaledRadicand, one_unit]
  simp [radicand, Approx.floorRoot_eq_sqrt, Decimal.ofScaled, one_unit, Except.map,
    Rat.mkRat_eq_div]

end Rational

/-- The names that both kinds know for operations on integers. -/
def sharedNames : List String :=
  ["+", "-", "*", "abs", "neg", "sqrt", "^"]

/-- What each kind knows under the shared names. -/
def sharedOperations (library : Integer.Library) (precision : Precision) :
    List (String × Operation Int × Operation Rat) :=
  [("+", .binary Number.plus, .binary Number.plus),
   ("-", .binary Number.minus, .binary Number.minus),
   ("*", .binary Number.times, .binary Number.times),
   ("abs", .unary fun x => .ok (x.natAbs : Int), .unary fun r => .ok r.abs),
   ("neg", .unary fun x => .ok (-x), .unary fun r => .ok (-r)),
   ("sqrt", .unary (Integer.squareRoot library), .unary (Rational.squareRoot precision)),
   ("^", .binary Integer.power, .binary Rational.power)]

theorem known_of_mem_sharedOperations (library : Integer.Library) (precision : Precision) :
    ∀ entry ∈ sharedOperations library precision,
      (Calculator.ofLibrary library).find? entry.1 = some entry.2.1 ∧
      (Calculator.ofSettings precision : Calculator Rat).find? entry.1 = some entry.2.2 := by
  intro entry member
  rw [Calculator.find?_ofLibrary, Calculator.find?_ofSettings]
  simp only [sharedOperations, List.mem_cons, List.not_mem_nil, or_false] at member
  rcases member with rfl | rfl | rfl | rfl | rfl | rfl | rfl <;>
    simp [Calculator.initialOperations, Number.arithmetic, Number.functions, Integer.functions,
      Rational.functions, List.lookup_cons]

theorem refused_of_mem_sharedNames :
    ∀ name ∈ sharedNames, Decimal.readInteger? name.toList = none ∧
      Rational.readLiteral? name = none := by
  decide +kernel

/-- Operations under a shared name do the same to integers, but for negative
exponents and for the decimals of roots. -/
theorem mirrors_of_mem_sharedOperations {library : Integer.Library} (floors : library.Floors)
    {precision : Precision} :
    ∀ entry ∈ sharedOperations library precision, (precision.digits = 0 ∨ entry.1 ≠ "sqrt") →
      entry.2.1.Mirrors Int.cast IsNegativeExponent entry.2.2 := by
  intro entry member whole
  simp only [sharedOperations, List.mem_cons, List.not_mem_nil, or_false] at member
  rcases member with rfl | rfl | rfl | rfl | rfl | rfl | rfl
  · exact .binary fun x y => .inr (congrArg Except.ok (Int.cast_add x y).symm)
  · exact .binary fun x y => .inr (congrArg Except.ok (Int.cast_sub x y).symm)
  · exact .binary fun x y => .inr (congrArg Except.ok (Int.cast_mul x y).symm)
  · exact .unary fun x => congrArg Except.ok (Rational.abs_intCast x)
  · exact .unary fun x => congrArg Except.ok (Int.cast_neg x).symm
  · have no_decimals : precision.digits = 0 := whole.resolve_right fun other => other rfl
    exact .unary (Rational.squareRoot_intCast floors no_decimals)
  · refine .binary fun base exponent => ?_
    by_cases natural : 0 ≤ exponent
    · exact .inr (Rational.power_intCast base natural)
    · refine .inl ⟨.negativeExponent, rfl, ?_⟩
      rw [Integer.power, if_pos (Int.not_le.mp natural)]

namespace Calculator

/-- A word that both kinds of number treat alike at a precision: an integer
literal, a shared name, or a word that means nothing to either. -/
inductive SharedWord (library : Integer.Library) (precision : Precision) (word : String) : Prop
  | integer (form : Decimal.IntegerForm) (written : form.text = word)
  | operator (named : word ∈ sharedNames)
  | foreign (no_integer : (ofLibrary library).readLiteral? word = none)
      (no_rational : (ofSettings precision : Calculator Rat).readLiteral? word = none)
      (unknown_integer : (ofLibrary library).find? word = none)
      (unknown_rational : (ofSettings precision : Calculator Rat).find? word = none)

section Libraries

variable {library : Integer.Library} {precision : Precision}

theorem SharedWord.of_readInteger? {word : String} {z : Int}
    (reads : Decimal.readInteger? word.toList = some z) : SharedWord library precision word := by
  obtain ⟨form, written, _⟩ := Decimal.readInteger?_eq_some_iff_form.mp reads
  exact .integer form (by rw [Decimal.IntegerForm.text, written, String.ofList_toList])

theorem SharedWord.mirrors (floors : library.Floors) {word : String}
    (shared : SharedWord library precision word) (whole : precision.digits = 0 ∨ word ≠ "sqrt") :
    Mirrors Int.cast IsNegativeExponent (ofLibrary library)
      (ofSettings precision : Calculator Rat) word := by
  cases shared with
  | integer form written =>
      have reads : (ofLibrary library).readLiteral? word = some form.value := by
        rw [← written]
        exact Decimal.readInteger?_eq_some_iff_form.mpr
          ⟨form, by simp [Decimal.IntegerForm.text], rfl⟩
      have reads_rational :
          (ofSettings precision : Calculator Rat).readLiteral? word = some (form.value : Rat) :=
        Rational.readLiteral?_of_readInteger? reads
      refine ⟨by rw [reads, reads_rational, Option.map_some], fun refused => ?_⟩
      cases reads.symm.trans refused
  | operator named =>
      obtain ⟨no_integer, no_rational⟩ := refused_of_mem_sharedNames word named
      have refused : (ofLibrary library).readLiteral? word = none := no_integer
      have refused_rational : (ofSettings precision : Calculator Rat).readLiteral? word = none :=
        no_rational
      refine ⟨by rw [refused, refused_rational, Option.map_none], fun _ => ?_⟩
      have entry_of_name : word ∈ (sharedOperations library precision).map Prod.fst := named
      obtain ⟨entry, member, rfl⟩ := List.mem_map.mp entry_of_name
      obtain ⟨known_integer, known_rational⟩ :=
        known_of_mem_sharedOperations library precision entry member
      rw [known_integer, known_rational]
      exact .some (mirrors_of_mem_sharedOperations floors entry member whole)
  | foreign no_integer no_rational unknown_integer unknown_rational =>
      refine ⟨by rw [no_integer, no_rational, Option.map_none], fun _ => ?_⟩
      rw [unknown_integer, unknown_rational]
      exact .none

/-- On words that both kinds of number treat alike, a new calculator of
rationals and one of integers have the same value or the same error, unless
the integers meet a negative exponent. The precision matters only to roots. The
roots of integers are those of a library that rounds them down. -/
theorem evaluate_rational_eq_integer {equation : String}
    (floors : ∀ radicand, library.root radicand = Nat.sqrt radicand)
    (shared : ∀ word ∈ Text.words equation, SharedWord library precision word)
    (whole : precision.digits = 0 ∨ "sqrt" ∉ Text.words equation)
    (natural : (ofLibrary library).evaluate equation ≠ .error (.arithmetic .negativeExponent)) :
    (ofSettings precision : Calculator Rat).evaluate equation =
      ((ofLibrary library).evaluate equation).map fun z : Int => (z : Rat) := by
  have agree : ∀ word ∈ Text.words equation, Mirrors Int.cast IsNegativeExponent
      (ofLibrary library) (ofSettings precision : Calculator Rat) word := by
    intro word member
    refine (shared word member).mirrors floors (whole.imp_right fun no_root => ?_)
    rintro rfl
    exact no_root member
  rcases run_map Rational.render_intCast agree with ⟨failure, rfl, fails⟩ | same
  · exact absurd fails natural
  · rw [evaluate, same, Run.value_map Rational.render_intCast]
    rfl

end Libraries

/-- The cube of a root at precision zero, the same before a word unknown to both
kinds, and a product at another precision that leaves two numbers. -/
theorem shared_words_agree :
    (∀ radicand, Integer.Library.standard.root radicand = Nat.sqrt radicand) ∧
    ((∀ word ∈ Text.words "-20 abs sqrt 3 ^", SharedWord .standard (.ofNat 0) word) ∧
      (Precision.ofNat 0).digits = 0 ∧
      (ofLibrary .standard).evaluate "-20 abs sqrt 3 ^" = .ok 64 ∧
      (ofSettings (Precision.ofNat 0) : Calculator Rat).evaluate "-20 abs sqrt 3 ^" = .ok 64) ∧
    ((∀ word ∈ Text.words "-20 abs sqrt 3 ^ x", SharedWord .standard (.ofNat 0) word) ∧
      (ofLibrary .standard).evaluate "-20 abs sqrt 3 ^ x" =
        .error (.unknownElement ⟨"x", 6⟩) ∧
      (ofSettings (Precision.ofNat 0) : Calculator Rat).evaluate "-20 abs sqrt 3 ^ x" =
        .error (.unknownElement ⟨"x", 6⟩)) ∧
    ((∀ word ∈ Text.words "+2 -3 * 7", SharedWord .standard (.ofNat 5) word) ∧
      "sqrt" ∉ Text.words "+2 -3 * 7" ∧
      (ofLibrary .standard).evaluate "+2 -3 * 7" = .error (.leftoverStack ["-6", "7"]) ∧
      (ofSettings (Precision.ofNat 5) : Calculator Rat).evaluate "+2 -3 * 7" =
        .error (.leftoverStack ["-6", "7"])) := by
  have floors : ∀ radicand, Integer.Library.standard.root radicand = Nat.sqrt radicand :=
    Integer.Library.floors_standard
  have cube : (ofLibrary .standard).evaluate "-20 abs sqrt 3 ^" = .ok 64 := by
    decide +kernel
  have unknown : (ofLibrary .standard).evaluate "-20 abs sqrt 3 ^ x" =
      .error (.unknownElement ⟨"x", 6⟩) := by
    decide +kernel
  have left_over : (ofLibrary .standard).evaluate "+2 -3 * 7" =
      .error (.leftoverStack ["-6", "7"]) := by
    decide +kernel
  have shared : ∀ word ∈ ["-20", "abs", "sqrt", "3", "^", "x"],
      SharedWord .standard (.ofNat 0) word := by
    intro word member
    simp only [List.mem_cons, List.not_mem_nil, or_false] at member
    rcases member with rfl | rfl | rfl | rfl | rfl | rfl
    · exact .of_readInteger? (z := -20) rfl
    · exact .operator (by decide)
    · exact .operator (by decide)
    · exact .of_readInteger? (z := 3) rfl
    · exact .operator (by decide)
    · refine .foreign rfl rfl rfl ?_
      rw [find?_ofSettings]
      rfl
  have cube_words : Text.words "-20 abs sqrt 3 ^" = ["-20", "abs", "sqrt", "3", "^"] := by
    decide
  have shared_cube : ∀ word ∈ Text.words "-20 abs sqrt 3 ^",
      SharedWord .standard (.ofNat 0) word := by
    rw [cube_words]
    exact fun word member => shared word (List.mem_append_left ["x"] member)
  have shared_unknown : ∀ word ∈ Text.words "-20 abs sqrt 3 ^ x",
      SharedWord .standard (.ofNat 0) word := by
    have words_eq : Text.words "-20 abs sqrt 3 ^ x" = ["-20", "abs", "sqrt", "3", "^", "x"] := by
      decide
    rw [words_eq]
    exact shared
  have shared_product : ∀ word ∈ Text.words "+2 -3 * 7",
      SharedWord .standard (.ofNat 5) word := by
    intro word member
    have words_eq : Text.words "+2 -3 * 7" = ["+2", "-3", "*", "7"] := by
      decide
    simp only [words_eq, List.mem_cons, List.not_mem_nil, or_false] at member
    rcases member with rfl | rfl | rfl | rfl
    · exact .of_readInteger? (z := 2) rfl
    · exact .of_readInteger? (z := -3) rfl
    · exact .operator (by decide)
    · exact .of_readInteger? (z := 7) rfl
  have no_root : "sqrt" ∉ Text.words "+2 -3 * 7" := by decide
  refine ⟨floors, ⟨shared_cube, rfl, cube, ?_⟩, ⟨shared_unknown, unknown, ?_⟩,
    shared_product, no_root, left_over, ?_⟩
  · rw [evaluate_rational_eq_integer floors shared_cube (.inl rfl) (by simp [cube]), cube]
    rfl
  · rw [evaluate_rational_eq_integer floors shared_unknown (.inl rfl) (by simp [unknown]), unknown]
    rfl
  · rw [evaluate_rational_eq_integer floors shared_product (.inr no_root) (by simp [left_over]),
      left_over]
    rfl

end Calculator

end PostfixCalc
