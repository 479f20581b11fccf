/-
# Sessions on vocabularies

A session on bare vocabularies in a growing list: a request addresses one of
them by its index, only registrations change it, and copies are appended. A
registration answers with the operation that it replaces. Requests on integer
operations may give the operation by a body; equations in it are evaluated by
a standard calculator, not by the vocabulary.
-/

import PostfixCalc.Number.Integer
import PostfixCalc.Session.Body
import PostfixCalc.Session.Requests

namespace PostfixCalc.Session.Vocabularies

/-- What can be asked of a vocabulary in a session. -/
inductive Request (α : Type)
  | register (name : String) (operation : Operation α)
  | copy
  | find (name : String)
  | apply (name : String) (arguments : List α)
  | listNames
  | describe
  | isEmpty

/-- What a request answers. -/
inductive Response (α : Type)
  | registered (replaced : Option (Operation α))
  | appended (index : Nat)
  | found (operation : Option (Operation α))
  | applied (result : Option (Except Failure α))
  | names (names : List String)
  | description (text : String)
  | emptiness (empty : Bool)

/-- A response and the number of names of the addressed vocabulary afterwards. -/
structure Answer (α : Type) where
  reply : Response α
  size : Nat

variable {α : Type}

/-- Carry out a request on the given vocabulary of a list, at its index. -/
def perform (vocabularies : List (Vocabulary α)) (index : Nat)
    (vocabulary : Vocabulary α) : Request α → List (Vocabulary α) × Answer α
  | .register name operation =>
      let (replaced, changed) := vocabulary.exchange name operation
      (vocabularies.set index changed, ⟨.registered replaced, changed.size⟩)
  | .copy => (vocabularies ++ [vocabulary], ⟨.appended vocabularies.length, vocabulary.size⟩)
  | .find name => (vocabularies, ⟨.found (vocabulary.find? name), vocabulary.size⟩)
  | .apply name arguments =>
      (vocabularies,
        ⟨.applied ((vocabulary.find? name).map fun operation => operation.apply arguments),
          vocabulary.size⟩)
  | .listNames => (vocabularies, ⟨.names vocabulary.names, vocabulary.size⟩)
  | .describe => (vocabularies, ⟨.description vocabulary.describe, vocabulary.size⟩)
  | .isEmpty => (vocabularies, ⟨.emptiness vocabulary.isEmpty, vocabulary.size⟩)

/-- The answers to requests in order. -/
def answers (vocabularies : List (Vocabulary α)) (requests : List (Nat × Request α)) :
    List (Answer α) :=
  Performer.answers perform vocabularies requests

/-- The vocabularies at the end of the answers. -/
def after (vocabularies : List (Vocabulary α)) (requests : List (Nat × Request α)) :
    List (Vocabulary α) :=
  Performer.after perform vocabularies requests

/-- A request on integer operations. -/
abbrev Command : Type :=
  Request Int

/-- What a command on integer operations answers. -/
abbrev Reply : Type :=
  Response Int

/-- Register the operation with the given arity and body. -/
def Command.register (name : String) (arity : Nat) (body : Body Int) : Command :=
  Request.register name (body.operation .standard arity)

end PostfixCalc.Session.Vocabularies
