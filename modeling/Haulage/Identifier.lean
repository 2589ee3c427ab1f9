/-!
# Identifiers

Convoys are numbered from 0 in the order of their departure plans, sections from 0 at the forward
start of the route.  A number that does not fit 32 bits names neither.
-/

namespace Haulage

/-- A number too large for an identifier. -/
inductive IdentifierError where
  /-- The number does not fit 32 bits. -/
  | tooLarge
deriving DecidableEq

/-- The wording of the error. -/
def IdentifierError.message : IdentifierError → String
  | .tooLarge => "number too large to fit in target type"

/-- The place of a convoy in its fleet. -/
structure ConvoyId where
  /-- The number of the convoy. -/
  number : UInt32
deriving DecidableEq, Inhabited

/-- The place of a section along its route. -/
structure SectionId where
  /-- The number of the section. -/
  number : UInt32
deriving DecidableEq, Inhabited

/-- A place in a list as a 32-bit number. -/
def identifierNumber (place : Nat) : Except IdentifierError UInt32 :=
  if place < 4294967296 then .ok (UInt32.ofNat place) else .error .tooLarge

namespace ConvoyId

/-- The convoy at a place of the fleet. -/
def ofPlace (place : Nat) : Except IdentifierError ConvoyId :=
  (identifierNumber place).map ConvoyId.mk

/-- The place of the convoy in the fleet. -/
def place (id : ConvoyId) : Nat := id.number.toNat

/-- The convoy as messages write it. -/
def label (id : ConvoyId) : String := "convoy#" ++ toString id.place

end ConvoyId

namespace SectionId

/-- The section at a place of the route. -/
def ofPlace (place : Nat) : Except IdentifierError SectionId :=
  (identifierNumber place).map SectionId.mk

/-- The place of the section on the route. -/
def place (id : SectionId) : Nat := id.number.toNat

/-- The section as messages write it. -/
def label (id : SectionId) : String := "section#" ++ toString id.place

end SectionId

end Haulage
