/-!
# What a question reads

Which of the kept values a question looks at.  Those, and no others, are known after it.
-/

namespace Haulage

/-- A set of the values that are kept of a convoy. -/
structure Reads where
  /-- Summary of the vehicles. -/
  vehicle : Bool := false
  /-- Summary of where they stand. -/
  adverse : Bool := false
  /-- Summary of what they can carry. -/
  freight : Bool := false
  /-- Summary of what they weigh. -/
  weight : Bool := false
  /-- Traction at standstill. -/
  startingForce : Bool := false
  /-- Power at the rated top speed; it is found with the summary of the vehicles. -/
  continuousPower : Bool := false
deriving DecidableEq, Inhabited

namespace Reads

/-- Nothing is read. -/
def nothing : Reads := {}

/-- What is read by either of two questions. -/
def both (first second : Reads) : Reads where
  vehicle := first.vehicle || second.vehicle
  adverse := first.adverse || second.adverse
  freight := first.freight || second.freight
  weight := first.weight || second.weight
  startingForce := first.startingForce || second.startingForce
  continuousPower := first.continuousPower || second.continuousPower

instance : Append Reads := ⟨both⟩

/-- What is read if a condition holds. -/
@[macro_inline]
def onlyIf (condition : Bool) (reads : Reads) : Reads := if condition then reads else nothing

end Reads

end Haulage
