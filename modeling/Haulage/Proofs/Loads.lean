import Haulage.Proofs.Foresight
import Haulage.Proofs.LevelBrakes

/-!
# Trains that shuttle on a level route

A convoy of a fleet carries nothing or all it can, and every vehicle is built for the way of the
route.  So on a level route its train brakes as one of two trains that its departure plan names.
-/

namespace Haulage

open Fixed

namespace Train

/-- Both trains have the same vehicles with the same loads. -/
def Alike (first second : Train) : Prop := first.setWay default = second.setWay default

/-- The train has these vehicles, all empty or all full. -/
def LoadedAs (train : Train) (vehicles : List Vehicle) : Prop :=
  train.Alike (ofVehicles vehicles) ∨ train.Alike (ofVehicles vehicles).fill

theorem setWay_setWay (train : Train) (first second : WayContext) :
    (train.setWay first).setWay second = train.setWay second := by
  simp only [setWay, List.map_map]
  rfl

theorem setWay_clear (train : Train) (context : WayContext) :
    train.clear.setWay context = (train.setWay context).clear := by
  simp only [setWay, clear, List.map_map]
  rfl

theorem setWay_fill (train : Train) (context : WayContext) :
    train.fill.setWay context = (train.setWay context).fill := by
  simp only [setWay, fill, List.map_map]
  rfl

theorem clear_fill (train : Train) : train.fill.clear = train.clear := by
  simp only [fill, clear, List.map_map]
  rfl

theorem fill_fill (train : Train) : train.fill.fill = train.fill := by
  simp only [fill, List.map_map]
  rfl

theorem clear_ofVehicles (vehicles : List Vehicle) :
    (ofVehicles vehicles).clear = ofVehicles vehicles := by
  simp only [ofVehicles, clear, List.map_map]
  rfl

theorem brakes_setWay (train : Train) (context : WayContext) (way : Way) :
    (train.setWay context).brakes way = train.brakes way := by
  have weight_eq : (train.setWay context).levelWeight way = train.levelWeight way := by
    rw [levelWeight, setWay, List.foldl_map]
    rfl
  rw [brakes, brakes, weight_eq, vehicles_setWay]

theorem Alike.brakes_eq {first second : Train} (alike : first.Alike second) (way : Way) :
    first.brakes way = second.brakes way := by
  rw [← first.brakes_setWay default, alike, brakes_setWay]

namespace LoadedAs

variable {train : Train} {vehicles : List Vehicle}

theorem brakes_eq (loaded : train.LoadedAs vehicles) (way : Way) :
    train.brakes way = (ofVehicles vehicles).brakes way ∨
      train.brakes way = (ofVehicles vehicles).fill.brakes way := by
  rcases loaded with empty | full
  · exact .inl (empty.brakes_eq way)
  · exact .inr (full.brakes_eq way)

theorem setWay (loaded : train.LoadedAs vehicles) (context : WayContext) :
    (train.setWay context).LoadedAs vehicles := by
  unfold LoadedAs Alike at *
  rw [setWay_setWay]
  exact loaded

theorem clear (loaded : train.LoadedAs vehicles) : train.clear.LoadedAs vehicles := by
  left
  unfold Alike
  rcases loaded with empty | full
  · rw [setWay_clear, empty, ← setWay_clear, clear_ofVehicles]
  · rw [setWay_clear, full, ← setWay_clear, clear_fill, clear_ofVehicles]

theorem fill (loaded : train.LoadedAs vehicles) : train.fill.LoadedAs vehicles := by
  right
  unfold Alike
  rcases loaded with empty | full
  · rw [setWay_fill, empty, ← setWay_fill]
  · rw [setWay_fill, full, ← setWay_fill, fill_fill]

end LoadedAs

end Train

namespace Convoy

variable {convoy : Convoy} {route : Route} {dwell : UInt64} {now : Tick}
  {vehicles : List Vehicle}

theorem loadedAs_enter (loaded : convoy.train.LoadedAs vehicles) (stretch : SectionId) :
    (convoy.enter route stretch).train.LoadedAs vehicles := by
  unfold enter
  simp only
  split
  · exact loaded.setWay _
  · exact loaded

theorem loadedAs_arrive (loaded : convoy.train.LoadedAs vehicles) :
    (convoy.arrive route dwell now).train.LoadedAs vehicles := by
  rw [arrive_eq]
  apply loadedAs_enter
  change (if convoy.train.isLoaded then convoy.train.clear else convoy.train.fill).LoadedAs vehicles
  split
  · exact loaded.clear
  · exact loaded.fill

/-- Moving on keeps the vehicles all empty or all full. -/
theorem loadedAs_settle (loaded : convoy.train.LoadedAs vehicles) (route : Route) (dwell : UInt64)
    (now : Tick) (canRestart : Bool) (report : StepReport) :
    (convoy.settle route dwell now canRestart report).1.train.LoadedAs vehicles := by
  rcases convoy.settle_cases route dwell now canRestart report with
    ⟨-, settled_eq, -⟩ | ⟨-, -, ⟨-, settled_eq⟩ | settled_eq⟩
  · rw [settled_eq]
    exact loadedAs_arrive loaded
  · rw [settled_eq]
    exact loaded
  · rw [settled_eq]
    exact loadedAs_enter loaded _

end Convoy

namespace Route

/-- Every section is level and of one kind of way. -/
def LevelOf (route : Route) (way : Way) : Prop :=
  ∀ stretch ∈ route.sections, stretch.way = way ∧ stretch.slope = 0

end Route

theorem Section.context_level {stretch : Section} {way : Way} (way_eq : stretch.way = way)
    (slope_eq : stretch.slope = 0) (direction : Direction) :
    (stretch.context direction).way = way ∧
      (stretch.context direction).friction = way.baseFriction := by
  have towards_eq : stretch.slopeTowards direction = 0 := by
    cases direction with
    | forward => exact slope_eq
    | backward =>
      rw [slopeTowards, slope_eq]
      rfl
  have friction_eq : Int16.ofIntClamp (way.baseFriction.toInt + (0 : Int16).toInt) =
      way.baseFriction := by
    cases way <;> decide
  unfold context
  simp only [towards_eq]
  split
  · exact ⟨way_eq, by rw [← friction_eq, ← way_eq]; rfl⟩
  · exact ⟨way_eq, by rw [← friction_eq, ← way_eq]; rfl⟩

/-- The train of a convoy that stands on its section of a level route is on level way. -/
theorem Convoy.Placed.level {convoy : Convoy} {route : Route} {way : Way}
    (placed : convoy.Placed route) (level : route.LevelOf way) : convoy.train.Level way := by
  obtain ⟨under, under_eq, contexts⟩ := placed.contexts
  obtain ⟨way_eq, slope_eq⟩ := level under (List.mem_of_getElem? under_eq)
  intro car car_mem
  rw [contexts car car_mem]
  exact under.context_level way_eq slope_eq convoy.direction

end Haulage
