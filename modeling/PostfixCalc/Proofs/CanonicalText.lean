/-
# Canonical texts of exact numbers

A number has many literals and one written form. If written forms read back,
the written form stands for all literals of the number: it is one of them, it
is written as itself, and it is what reading and writing makes of each of them
and of no other text.

Main statement: this holds of rationals and of integers, and a written integer
reads back as the same rational. Floating numbers are not considered.
-/

import Mathlib.Data.Rat.Cast.Defs
import PostfixCalc.Proofs.ExactText
import PostfixCalc.Proofs.LiteralForms

namespace PostfixCalc

namespace Number

/-- What a text becomes when it is read under settings and its number written down. -/
def canonical (α : Type) [Number α] (settings : Settings α) (text : String) :
    Except InvalidLiteral String :=
  (Number.read text settings : Except InvalidLiteral α).map Number.render

section

variable (α : Type) [Number α] (settings : Settings α)

/-- A text that stands for all literals of a number. -/
structure Represents (form : String) (value : α) : Prop where
  denotes : Number.read form settings = .ok value
  canonical_self : canonical α settings form = .ok form
  canonical_iff : ∀ text,
    canonical α settings text = .ok form ↔ Number.read text settings = .ok value

/-- Numbers are read from what is written for them, so that their written forms
tell them apart and represent them. -/
structure InverseTexts : Prop where
  read_render : ∀ value : α, Number.read (Number.render value) settings = .ok value
  render_eq_iff : ∀ first second : α, Number.render first = Number.render second ↔ first = second
  canonical_eq_ok_iff : ∀ text form, canonical α settings text = .ok form ↔
    ∃ value : α, Number.read text settings = .ok value ∧ Represents α settings form value

end

variable {α : Type} [Number α]

theorem canonical_eq_ok_iff_render {settings : Settings α} {text form : String} :
    canonical α settings text = .ok form ↔
      ∃ value : α, Number.read text settings = .ok value ∧ Number.render value = form := by
  unfold canonical
  cases (Number.read text settings : Except InvalidLiteral α) <;> simp [Except.map]

section

variable (reads_back : ReadsBack α) (settings : Settings α)

include reads_back

theorem ReadsBack.read_render (value : α) :
    Number.read (Number.render value) settings = .ok value :=
  read_eq_ok_iff.mpr (reads_back settings value).1

theorem ReadsBack.render_eq_iff {first second : α} :
    Number.render first = Number.render second ↔ first = second := by
  refine ⟨fun same => ?_, congrArg _⟩
  have same_number := reads_back.read_render defaultSettings first
  rw [same, reads_back.read_render defaultSettings second] at same_number
  exact (Except.ok.inj same_number).symm

/-- A written form represents its number. -/
theorem ReadsBack.represents_render (value : α) :
    Represents α settings (Number.render value) value where
  denotes := reads_back.read_render settings value
  canonical_self :=
    canonical_eq_ok_iff_render.mpr ⟨value, reads_back.read_render settings value, rfl⟩
  canonical_iff text := by
    rw [canonical_eq_ok_iff_render]
    constructor
    · rintro ⟨other, read, same⟩
      rwa [← reads_back.render_eq_iff.mp same]
    · exact fun read => ⟨value, read, rfl⟩

/-- Nothing but its written form represents a number. -/
theorem ReadsBack.eq_render_of_represents {form : String} {value : α}
    (represents : Represents α settings form value) : Number.render value = form := by
  have written := (represents.canonical_iff _).mpr (reads_back.read_render settings value)
  have own := (reads_back.represents_render settings value).canonical_self
  exact Except.ok.inj (own.symm.trans written)

theorem ReadsBack.inverseTexts : InverseTexts α settings where
  read_render := reads_back.read_render settings
  render_eq_iff _ _ := reads_back.render_eq_iff
  canonical_eq_ok_iff text form := by
    rw [canonical_eq_ok_iff_render]
    constructor
    · rintro ⟨value, read, rfl⟩
      exact ⟨value, read, reads_back.represents_render settings value⟩
    · rintro ⟨value, read, represents⟩
      exact ⟨value, read, reads_back.eq_render_of_represents settings represents⟩

end

/-- Reading and writing are inverse for rationals and for integers, whatever the
settings are: written numbers read back, two numbers are written alike exactly
if they are equal, and the canonical text of a literal is the one that
represents its number. Rationals read written integers as these integers. -/
theorem read_render_exact :
    (∀ precision : Settings Rat, InverseTexts Rat precision) ∧
    (∀ settings : Settings Int, InverseTexts Int settings) ∧
    ∀ (precision : Settings Rat) (z : Int),
      Number.read (Number.render z) precision = .ok (z : Rat) := by
  refine ⟨Rational.readsBack.inverseTexts, Integer.readsBack.inverseTexts, fun precision z => ?_⟩
  exact read_eq_ok_iff.mpr (Rational.readLiteral?_of_readInteger? (Decimal.readInteger?_intText z))

example : ["2/4", "+.50", "5E-1"].map (canonical Rat defaultSettings) =
    [.ok "1/2", .ok "1/2", .ok "1/2"] := by
  decide +kernel

end Number

end PostfixCalc
