/-
# Journals

The journal records what a calculator does: every registration while it is
made, then every completed token of an evaluation, then the value if there is
one. A record about a token shows the number that the token put on the stack.
A fault leaves no record of its own.
-/

import PostfixCalc.Evaluation

namespace PostfixCalc

namespace Vocabulary

variable {α : Type}

/-- What registering a name in a vocabulary records. -/
def registrationRecords (vocabulary : Vocabulary α) (name : String)
    (operation : Operation α) : List Record :=
  .registered name operation.arity ::
    (if (vocabulary.find? name).isSome then [.replaced] else [])

/-- What registering operations from first to last records. -/
def registrationJournal (vocabulary : Vocabulary α) :
    List (String × Operation α) → List Record
  | [] => []
  | (name, operation) :: rest =>
      vocabulary.registrationRecords name operation ++
        (vocabulary.register name operation).registrationJournal rest

end Vocabulary

namespace Calculator

variable {α : Type} [Number α]

/-- What making a calculator with the given settings records. -/
def constructionJournal (settings : Number.Settings α) : List Record :=
  Vocabulary.empty.registrationJournal (initialOperations settings) ++
    [.ready (Number.kindName α) (ofSettings settings).size (Number.describeSettings settings)]

/-- What evaluating an equation records. -/
def evaluationJournal (calculator : Calculator α) (equation : String) : List Record :=
  let run := calculator.run equation
  run.records ++
    match run.value with
    | .ok value => [.evaluated equation (Number.render value)]
    | .error _ => []

end Calculator

end PostfixCalc
