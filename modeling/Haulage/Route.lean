import Haulage.Identifier
import Haulage.Settings
import Haulage.Summary.Adverse

/-!
# Routes

A route is a line of sections on which convoys run to and fro.  Positions are steps from the forward
start, and a convoy is where its head is.  A head on a boundary stands on the section that it
enters.
-/

namespace Haulage

/-- Which way along the route a convoy runs. -/
inductive Direction where
  /-- From the first section to the last. -/
  | forward
  /-- From the last section to the first. -/
  | backward
deriving DecidableEq, Inhabited

namespace Direction

/-- The other direction. -/
def reversed : Direction → Direction
  | forward => backward
  | backward => forward

/-- The direction as reports write it. -/
def label : Direction → String
  | forward => "Forward"
  | backward => "Backward"

end Direction

/-- A stretch of way that is the same all along. -/
structure Section where
  /-- The kind of way. -/
  way : Way
  /-- Its length in steps. -/
  length : UInt32
  /-- Its speed limit in km/h. -/
  maxSpeed : Int32
  /-- Its slope running forward, as `1000 · sin(slope)`; positive is uphill. -/
  slope : Int16 := 0
  /-- Whether it has an overhead line. -/
  electrified : Bool := false
deriving DecidableEq, Inhabited

namespace Section

/-- The slope met in a direction; the lowest 16-bit number turns into the highest. -/
def slopeTowards (stretch : Section) : Direction → Int16
  | .forward => stretch.slope
  | .backward => .ofIntClamp (-stretch.slope.toInt)

/-- What a vehicle that runs in a direction has under it. -/
def context (stretch : Section) (direction : Direction) : WayContext :=
  let context :=
    (WayContext.flat stretch.way stretch.maxSpeed).withSlope (stretch.slopeTowards direction)
  if stretch.electrified then context.withLine else context

end Section

/-- A speed limit some steps ahead. -/
structure LimitPoint where
  /-- Steps to where it starts. -/
  steps : UInt32
  /-- The limit in km/h. -/
  kmh : Int32
deriving DecidableEq, Inhabited

/-- Total length of a list of sections in steps. -/
def totalLength : List Section → Nat
  | [] => 0
  | stretch :: rest => stretch.length.toNat + totalLength rest

/-- A route: one or more sections, none empty or without a positive speed limit, whose total length
fits 32 bits. -/
structure Route where
  /-- The sections, from the forward start. -/
  sections : List Section
  /-- There is a section. -/
  nonempty : sections ≠ []
  /-- Every section has a length and a positive speed limit. -/
  passable : ∀ stretch ∈ sections, 0 < stretch.length ∧ 0 < stretch.maxSpeed
  /-- The length fits 32 bits. -/
  length_lt : totalLength sections < 4294967296

namespace Route

/-- The first reason for which the sections from a place on make no route, where `start` steps lie
before them. -/
def firstFault (start : Nat) (place : Nat) : List Section → Option ConfigError
  | [] => none
  | stretch :: rest =>
      if stretch.length = 0 then some (.emptySection place)
      else if stretch.maxSpeed ≤ 0 then some (.badSpeedLimit place stretch.maxSpeed)
      else if 4294967296 ≤ start + stretch.length.toNat then some .longRoute
      else firstFault (start + stretch.length.toNat) (place + 1) rest

theorem passable_of_firstFault {start place : Nat} {sections : List Section}
    (no_fault : firstFault start place sections = none) :
    ∀ stretch ∈ sections, 0 < stretch.length ∧ 0 < stretch.maxSpeed := by
  induction sections generalizing start place with
  | nil => simp
  | cons first rest ih =>
    unfold firstFault at no_fault
    split at no_fault
    · contradiction
    · next length_ne =>
      split at no_fault
      · contradiction
      · next limit_pos =>
        split at no_fault
        · contradiction
        · intro stretch stretch_mem
          rcases List.mem_cons.mp stretch_mem with rfl | inside
          · refine ⟨?_, Int32.not_le.mp limit_pos⟩
            rw [UInt32.lt_iff_toNat_lt]
            have : stretch.length.toNat ≠ 0 := fun zero =>
              length_ne (UInt32.toNat_inj.mp (by simpa using zero))
            simpa using Nat.pos_of_ne_zero this
          · exact ih no_fault stretch inside

theorem length_of_firstFault {start place : Nat} {sections : List Section}
    (start_lt : start < 4294967296) (no_fault : firstFault start place sections = none) :
    start + totalLength sections < 4294967296 := by
  induction sections generalizing start place with
  | nil => simpa [totalLength] using start_lt
  | cons first rest ih =>
    unfold firstFault at no_fault
    split at no_fault
    · contradiction
    · split at no_fault
      · contradiction
      · split at no_fault
        · contradiction
        · next short =>
          have := ih (Nat.lt_of_not_le short) no_fault
          simp only [totalLength]
          omega

/-- The route of these sections, or the first reason for which there is none. -/
def ofSections (sections : List Section) : Except ConfigError Route :=
  if nonempty : sections = [] then .error .noSection
  else
    match no_fault : firstFault 0 0 sections with
    | some fault => .error fault
    | none =>
        .ok ⟨sections, nonempty, passable_of_firstFault no_fault, by
          simpa using length_of_firstFault (by decide) no_fault⟩

/-- The section with a number, if there is one. -/
def get? (route : Route) (id : SectionId) : Option Section := route.sections[id.place]?

/-- Length of the route in steps. -/
def length (route : Route) : UInt32 := .ofNat (totalLength route.sections)

/-- Where a convoy that runs in a direction stops. -/
def endPosition (route : Route) : Direction → UInt32
  | .forward => route.length
  | .backward => 0

/-- Steps from a position to where a convoy that runs in a direction stops. -/
def stepsToEnd (route : Route) (position : UInt32) (direction : Direction) : UInt32 :=
  let here := min position route.length
  match direction with
  | .forward => route.length - here
  | .backward => here

/-- The position some steps further on, at most where the route ends. -/
def advance (route : Route) (position : UInt32) (direction : Direction) (steps : UInt32) : UInt32 :=
  match direction with
  | .forward => .ofNat (min (position.toNat + steps.toNat) route.length.toNat)
  | .backward => .ofNat (position.toNat - steps.toNat)

/-- How many of the sections, which begin at `start`, begin at a position that passes a test. -/
def countStarts (passes : Nat → Bool) (start : Nat) : List Section → Nat
  | [] => 0
  | stretch :: rest =>
      if passes start then 1 + countStarts passes (start + stretch.length.toNat) rest else 0

/-- The place of the section on which a head stands that runs in a direction. -/
def placeAt (route : Route) (position : UInt32) : Direction → Nat
  | .forward => countStarts (fun start => start ≤ position.toNat) 0 route.sections - 1
  | .backward => countStarts (fun start => start < position.toNat) 0 route.sections - 1

/-- The section on which a head stands that runs in a direction. -/
def sectionAt (route : Route) (position : UInt32) (direction : Direction) : SectionId :=
  ⟨.ofNat (route.placeAt position direction)⟩

/-- The limits of the sections in travel order, where the first begins `distance` steps ahead. -/
def limitsFrom (distance : UInt32) : List Section → List LimitPoint
  | [] => []
  | stretch :: rest =>
      ⟨distance, stretch.maxSpeed⟩ :: limitsFrom (distance + stretch.length) rest

/-- The sections that a head at a place has ahead of it, in travel order. -/
def sectionsAhead (route : Route) (place : Nat) : Direction → List Section
  | .forward => route.sections.drop (place + 1)
  | .backward => (route.sections.take place).reverse

/-- Steps from a position to the end of the section at a place. -/
def stepsToBoundary (route : Route) (position : UInt32) (place : Nat) : Direction → UInt32
  | .forward => .ofNat (totalLength (route.sections.take (place + 1))) - position
  | .backward => position - .ofNat (totalLength (route.sections.take place))

/-- Every boundary ahead with the limit that starts there, nearest first; the last is the end of the
route with the limit zero. -/
def limitsAhead (route : Route) (position : UInt32) (direction : Direction) : List LimitPoint :=
  let place := route.placeAt position direction
  limitsFrom (route.stepsToBoundary position place direction)
      (route.sectionsAhead place direction) ++
    [⟨route.stepsToEnd position direction, 0⟩]

end Route

end Haulage
