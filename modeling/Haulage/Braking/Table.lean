import Haulage.Braking

/-!
# Table of braking distances

One call of the mover asks for many braking distances of the same convoy.  A table holds those from
the lower ends of the first bins, each one found from the one before, and agrees with the sum
itself: `distance_eq_brakingDistance`.
-/

namespace Haulage

/-- The braking distances of `weight` from the lower ends of the first bins. -/
structure BrakeTable (profile : Profile) (weight : WeightSummary) where
  /-- The distances, from bin 0 on. -/
  entries : Array Fixed
  /-- There is at least the distance from a standstill. -/
  nonempty : 0 < entries.size
  /-- Each entry is the sum up to its bin. -/
  entries_eq : ∀ (bin : Nat) (inside : bin < entries.size),
    entries[bin] =
      profile.stoppingDistance (profile.resistance weight) (.ofInt weight.weight.toInt) bin

namespace BrakeTable

variable {profile : Profile} {weight : WeightSummary}

/-- The table with the distance from a standstill alone. -/
def single : BrakeTable profile weight where
  entries := #[.zero]
  nonempty := by decide
  entries_eq := by
    intro bin inside
    have bin_eq : bin = 0 := by simpa using inside
    subst bin_eq
    rfl

/-- The table with one more bin. -/
def grow (resistance mass : Fixed) (table : BrakeTable profile weight)
    (resistance_eq : resistance = profile.resistance weight)
    (mass_eq : mass = .ofInt weight.weight.toInt) : BrakeTable profile weight :=
  let last := table.entries.size - 1
  have last_lt : last < table.entries.size := Nat.sub_lt table.nonempty Nat.one_pos
  { entries := table.entries.push
      (profile.throughBin resistance mass last (Profile.binFloor (last + 1)) table.entries[last])
    nonempty := by simp
    entries_eq := by
      intro bin inside
      rw [Array.getElem_push]
      split
      · next below => exact table.entries_eq bin below
      · next above =>
        have bin_eq : bin = last + 1 := by
          have := table.nonempty
          simp only [Array.size_push] at inside
          omega
        subst bin_eq
        rw [Profile.stoppingDistance, table.entries_eq last last_lt, resistance_eq, mass_eq] }

/-- The table with `count` more bins. -/
def growBy (resistance mass : Fixed) (resistance_eq : resistance = profile.resistance weight)
    (mass_eq : mass = .ofInt weight.weight.toInt) :
    Nat → BrakeTable profile weight → BrakeTable profile weight
  | 0, table => table
  | count + 1, table =>
      growBy resistance mass resistance_eq mass_eq count
        (table.grow resistance mass resistance_eq mass_eq)

/-- The table that covers speeds up to `top`. -/
def upTo (profile : Profile) (weight : WeightSummary) (top : Fixed) : BrakeTable profile weight :=
  growBy (profile.resistance weight) (.ofInt weight.weight.toInt) rfl rfl
    (Profile.binOf (min top Profile.brakeCap)) single

/-- The braking distance from the lower end of a bin: from the table, or else summed up. -/
def stopping (table : BrakeTable profile weight) (bin : Nat) : Fixed :=
  if inside : bin < table.entries.size then table.entries[bin]
  else profile.stoppingDistance (profile.resistance weight) (.ofInt weight.weight.toInt) bin

theorem stopping_eq (table : BrakeTable profile weight) :
    table.stopping =
      profile.stoppingDistance (profile.resistance weight) (.ofInt weight.weight.toInt) := by
  funext bin
  unfold stopping
  split
  · next inside => exact table.entries_eq bin inside
  · rfl

/-- Metres that the weight needs to brake from a velocity to a standstill. -/
def distance (table : BrakeTable profile weight) (velocity : Fixed) : Fixed :=
  profile.brakingDistanceBy weight table.stopping velocity

@[simp]
theorem distance_eq_brakingDistance (table : BrakeTable profile weight) (velocity : Fixed) :
    table.distance velocity = profile.brakingDistance weight velocity := by
  rw [distance, stopping_eq, Profile.brakingDistance]

end BrakeTable

end Haulage
