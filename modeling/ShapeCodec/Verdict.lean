/-
# Verdicts

A value is checked against a shape field by field, and every field that does not fit is
complained about, in the order of the fields. The outcome is a `Verdict`: the shape, or all the
complaints. A whole number too large for a double is no complaint: it ends the check at once,
and the complaints so far are lost.

Key definitions: `Problem`, `Complaint`, `Verdict`, `Verdict.both`, `Verdict.within`.
-/
import ShapeCodec.Text.Joined

namespace ShapeCodec

/-- What can be wrong with a part of a value. -/
inductive Problem where
  | notAnInstance (className : String)
  | missing
  | notANumber
  | notAMetric
  | negativeRadius
  | notATuple
  | noPoints
  | notAText
  | emptyText
  | notABoolean
deriving DecidableEq

/-- The wording of a problem. -/
def Problem.message : Problem → String
  | notAnInstance className => "Input should be a valid dictionary or instance of " ++ className
  | missing => "Field required"
  | notANumber => "Input should be a valid number"
  | notAMetric => "Input should be 'KILOMETERS', 'MILES' or 'NEUTRAL'"
  | negativeRadius => "Value error, radius must not be negative"
  | notATuple => "Input should be a valid tuple"
  | noPoints => "Tuple should have at least 1 item after validation, not 0"
  | notAText => "Input should be a valid string"
  | emptyText => "String should have at least 1 character"
  | notABoolean => "Input should be a valid boolean, unable to interpret input"

/-- A problem and where it is: the names and positions that lead to the part. -/
structure Complaint where
  path : List String
  problem : Problem
deriving DecidableEq

/-- A complaint as written; one about the whole value has no place. -/
def Complaint.write (c : Complaint) : String :=
  if c.path.isEmpty then c.problem.message else joined "." c.path ++ ": " ++ c.problem.message

/-- A complaint as written where the whole value goes by a name. -/
def Complaint.writeUnder (whole : String) (c : Complaint) : String :=
  (if c.path.isEmpty then whole else joined "." c.path) ++ ": " ++ c.problem.message

/-- The same complaint about a part of a larger value. -/
def Complaint.within (place : String) (c : Complaint) : Complaint :=
  { c with path := place :: c.path }

/-- The outcome of checking a value. -/
inductive Verdict (α : Type) where
  | accepted (value : α)
  | refused (complaints : List Complaint)
  | overflow

namespace Verdict

variable {α β : Type}

/-- Refuses a value as a whole. -/
def refuse (problem : Problem) : Verdict α := refused [⟨[], problem⟩]

/-- Builds on an accepted value. -/
def map (f : α → β) : Verdict α → Verdict β
  | accepted a => accepted (f a)
  | refused complaints => refused complaints
  | overflow => overflow

/-- Checks an accepted value further. -/
def andThen (v : Verdict α) (f : α → Verdict β) : Verdict β :=
  match v with
  | accepted a => f a
  | refused complaints => refused complaints
  | overflow => overflow

/-- The verdict on a part, as one on a larger value. -/
def within (place : String) : Verdict α → Verdict α
  | refused complaints => refused (complaints.map (Complaint.within place))
  | v => v

/-- Two parts checked side by side: the complaints about both are kept, and an overflow in
either is one. -/
def both : Verdict α → Verdict β → Verdict (α × β)
  | overflow, _ => overflow
  | _, overflow => overflow
  | accepted a, accepted b => accepted (a, b)
  | refused cs, accepted _ => refused cs
  | accepted _, refused ds => refused ds
  | refused cs, refused ds => refused (cs ++ ds)

end Verdict

end ShapeCodec
