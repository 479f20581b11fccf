/-
# Requests in order

A session holds a growing list whose members are known by their indices. A
request addresses one of them, and what it does there is left to the kind of
session: it gives the list afterwards and an answer. Requests are carried out
one after the other, up to the first whose index does not exist.
-/

namespace PostfixCalc.Session

/-- Carry out a request on the given member of a list, at its index. -/
abbrev Performer (Member Request Answer : Type) : Type :=
  List Member → Nat → Member → Request → List Member × Answer

namespace Performer

variable {Member Request Answer : Type}

/-- Carry out a request on the member at an index, if there is one. -/
def step (perform : Performer Member Request Answer) (members : List Member) (index : Nat)
    (request : Request) : Option (List Member × Answer) :=
  members[index]?.map fun member => perform members index member request

/-- Carry out requests in order; the answers stop at an index that does not exist. -/
def answers (perform : Performer Member Request Answer) (members : List Member) :
    List (Nat × Request) → List Answer
  | [] => []
  | (index, request) :: rest =>
      match perform.step members index request with
      | none => []
      | some (changed, answer) => answer :: perform.answers changed rest

/-- The members at the end of the answers. -/
def after (perform : Performer Member Request Answer) (members : List Member) :
    List (Nat × Request) → List Member
  | [] => members
  | (index, request) :: rest =>
      match perform.step members index request with
      | none => members
      | some (changed, _) => perform.after changed rest

/-- Two kinds of session go through the same states if carrying out a request
on what represents a member gives what represents the result. -/
theorem after_map {Member' Answer' : Type} (represent : Member → Member')
    {perform : Performer Member Request Answer} {other : Performer Member' Request Answer'}
    (same : ∀ members index member request,
      (other (members.map represent) index (represent member) request).1 =
        (perform members index member request).1.map represent)
    (members : List Member) (requests : List (Nat × Request)) :
    other.after (members.map represent) requests =
      (perform.after members requests).map represent := by
  induction requests generalizing members with
  | nil => rfl
  | cons first rest ih =>
      obtain ⟨index, request⟩ := first
      rw [after, after, step, step, List.getElem?_map]
      cases members[index]? with
      | none => rfl
      | some member =>
          simp only [Option.map_some, same]
          exact ih _

end Performer

end PostfixCalc.Session
