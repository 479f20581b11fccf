/-
# Vocabularies

A vocabulary maps names to operations. A name has at most one operation, the
last that was registered under it; nothing is ever removed. A vocabulary is a
value: registering in it makes another one and leaves the first as it was.
-/

import PostfixCalc.Operation
import PostfixCalc.Text.Quoted
import Std.Data.TreeMap

namespace PostfixCalc

/-- Named operations, the names in the order of their code points. -/
structure Vocabulary (α : Type) where
  entries : Std.TreeMap String (Operation α)

namespace Vocabulary

variable {α : Type}

/-- The vocabulary without names. -/
def empty : Vocabulary α :=
  ⟨∅⟩

/-- The operation registered under a name. -/
def find? (vocabulary : Vocabulary α) (name : String) : Option (Operation α) :=
  vocabulary.entries[name]?

/-- Give a name its operation, in place of any it had. -/
def register (vocabulary : Vocabulary α) (name : String) (operation : Operation α) :
    Vocabulary α :=
  ⟨vocabulary.entries.insert name operation⟩

/-- Register an operation and hand over the one that it replaces. -/
def exchange (vocabulary : Vocabulary α) (name : String) (operation : Operation α) :
    Option (Operation α) × Vocabulary α :=
  (vocabulary.find? name, vocabulary.register name operation)

/-- Register the given operations from first to last. -/
def registerAll (vocabulary : Vocabulary α) :
    List (String × Operation α) → Vocabulary α
  | [] => vocabulary
  | (name, operation) :: rest => (vocabulary.register name operation).registerAll rest

/-- The names, in the order of their code points. -/
def names (vocabulary : Vocabulary α) : List String :=
  vocabulary.entries.keys

/-- The number of names. -/
def size (vocabulary : Vocabulary α) : Nat :=
  vocabulary.entries.size

/-- A vocabulary without names. -/
def isEmpty (vocabulary : Vocabulary α) : Bool :=
  vocabulary.entries.isEmpty

theorem find?_empty (name : String) : (empty : Vocabulary α).find? name = none := by
  simp [empty, find?]

/-- A registration decides the operation of its own name and of no other. -/
theorem find?_register (vocabulary : Vocabulary α) (name other : String)
    (operation : Operation α) :
    (vocabulary.register name operation).find? other =
      if name = other then some operation else vocabulary.find? other := by
  simp [register, find?, Std.TreeMap.getElem?_insert]

/-- After several registrations a name has the last operation registered under
it, or the one it had before. -/
theorem find?_registerAll (vocabulary : Vocabulary α) (entries : List (String × Operation α))
    (name : String) :
    (vocabulary.registerAll entries).find? name =
      (entries.reverse.lookup name).or (vocabulary.find? name) := by
  induction entries generalizing vocabulary with
  | nil => rfl
  | cons entry rest ih =>
      obtain ⟨known, operation⟩ := entry
      rw [registerAll, ih, find?_register, List.reverse_cons, List.lookup_append, Option.or_assoc]
      by_cases same : known = name
      · simp [same]
      · have other : (name == known) = false := by simpa using Ne.symm same
        simp [same, List.lookup_cons, other]

theorem registerAll_append (vocabulary : Vocabulary α)
    (earlier later : List (String × Operation α)) :
    vocabulary.registerAll (earlier ++ later) =
      (vocabulary.registerAll earlier).registerAll later := by
  induction earlier generalizing vocabulary with
  | nil => rfl
  | cons entry rest ih => exact ih _

/-- The names are those that have an operation. -/
theorem mem_names_iff (vocabulary : Vocabulary α) (name : String) :
    name ∈ vocabulary.names ↔ (vocabulary.find? name).isSome := by
  simp [names, find?, Std.TreeMap.mem_keys]

theorem length_names (vocabulary : Vocabulary α) : vocabulary.names.length = vocabulary.size :=
  Std.TreeMap.length_keys

theorem isEmpty_eq_size_eq_zero (vocabulary : Vocabulary α) :
    vocabulary.isEmpty = (vocabulary.size == 0) :=
  Std.TreeMap.isEmpty_eq_size_eq_zero

/-- A registration adds a name unless it replaces an operation. -/
theorem size_register (vocabulary : Vocabulary α) (name : String) (operation : Operation α) :
    (vocabulary.register name operation).size =
      if (vocabulary.find? name).isSome then vocabulary.size else vocabulary.size + 1 := by
  simp [register, size, find?, Std.TreeMap.size_insert]

/-- The structured description of a vocabulary, which shows its names. -/
def describe (vocabulary : Vocabulary α) : String :=
  "Registre \x7b noms: " ++ Text.quotedSet vocabulary.names ++ " \x7d"

end Vocabulary

end PostfixCalc
