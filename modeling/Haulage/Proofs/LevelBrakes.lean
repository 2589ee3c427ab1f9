import Haulage.Proofs.Braking
import Haulage.Proofs.CurveSums
import Haulage.Proofs.Runs

/-!
# The brakes of a train on level way

On level way of one kind the brakes of a train follow from its vehicles and their loads alone,
whatever the limits of the sections are.  They are firm, unless brakes and resistance together slow
the train down by more than 16 m/s² at a standstill.
-/

namespace Haulage

open Fixed

namespace Train

/-- What the cars of a train weigh on level way of a kind. -/
def levelWeight (train : Train) (way : Way) : WeightSummary :=
  train.cars.foldl (fun summary car => summary.add car.gross (.ofInt way.baseFriction.toInt)) {}

/-- The brakes of a train on level way of a kind. -/
def brakes (train : Train) (way : Way) : Brakes where
  force := thousand (Curves.totalBrake train.vehicles)
  drag := way.resistance.drag
  resistance := gravity *
    (way.resistance.rolling * (train.levelWeight way).across + (train.levelWeight way).along)
  weight := (train.levelWeight way).weight

/-- Every car stands on level way of a kind. -/
def Level (train : Train) (way : Way) : Prop :=
  ∀ car ∈ train.cars, car.context.way = way ∧ car.context.friction = way.baseFriction

end Train

theorem Way.rolling_nonneg (way : Way) : zero ≤ way.resistance.rolling := by
  cases way <;> decide

namespace LiveConvoy

theorem adverse_foldl_of_way {way : Way} (cars : List LiveCar) {summary : AdverseSummary}
    (on_way : ∀ car ∈ cars, car.context.way = way)
    (drag_eq : summary.drag = way.resistance.drag)
    (rolling_eq : summary.rolling = way.resistance.rolling) :
    let summed := cars.foldl (fun summary car => summary.add car.context car.vehicle.electric)
      summary
    summed.drag = way.resistance.drag ∧ summed.rolling = way.resistance.rolling := by
  induction cars generalizing summary with
  | nil => exact ⟨drag_eq, rolling_eq⟩
  | cons car cars ih =>
    have first := on_way car List.mem_cons_self
    apply ih fun other other_mem => on_way other (List.mem_cons_of_mem car other_mem)
    · change max summary.drag car.context.way.resistance.drag = _
      rw [first, drag_eq, max_self]
    · change max summary.rolling car.context.way.resistance.rolling = _
      rw [first, rolling_eq, max_self]

/-- A convoy that stands on one kind of way meets its drag and its resistance to rolling. -/
theorem adverse_of_way {way : Way} (live : LiveConvoy)
    (on_way : ∀ car ∈ live.cars, car.context.way = way) :
    live.adverse.drag = way.resistance.drag ∧ live.adverse.rolling = way.resistance.rolling := by
  obtain ⟨cars, world, nonempty⟩ := live
  cases cars with
  | nil => contradiction
  | cons car cars =>
    have first := on_way car List.mem_cons_self
    apply adverse_foldl_of_way cars fun other other_mem =>
      on_way other (List.mem_cons_of_mem car other_mem)
    · change max zero car.context.way.resistance.drag = _
      rw [first]
      exact max_eq_right way.drag_nonneg
    · change max zero car.context.way.resistance.rolling = _
      rw [first]
      exact max_eq_right way.rolling_nonneg

end LiveConvoy

/-- A train on level way brakes with its brakes there. -/
theorem Train.Level.brakesBy {train : Train} {way : Way} {world : World} {live : LiveConvoy}
    (level : train.Level way) (live_eq : train.live world = .ok live) :
    (Profile.ofSource live).BrakesBy live.weight (train.brakes way) := by
  have vehicles_eq := (Convoy.vehicles_of_live live_eq).1
  have nonempty : train.vehicles ≠ [] := by
    rw [← vehicles_eq]
    exact fun no_vehicles => live.nonempty (List.map_eq_nil_iff.mp no_vehicles)
  obtain ⟨same, same_eq, cars_eq, -⟩ := Train.live_of_vehicles nonempty world
  obtain rfl : same = live := Except.ok.inj (same_eq.symm.trans live_eq)
  have on_way : ∀ car ∈ same.cars, car.context.way = way := by
    intro car car_mem
    rw [cars_eq] at car_mem
    obtain ⟨standing, standing_mem, rfl⟩ := List.mem_map.mp car_mem
    exact (level standing standing_mem).1
  have adverse_eq := same.adverse_of_way on_way
  have weight_eq : same.weight = train.levelWeight way := by
    rw [LiveConvoy.weight, cars_eq, List.foldl_map, levelWeight]
    apply List.foldl_ext
    intro summary car car_mem
    have friction_eq : car.live.context.friction = way.baseFriction := (level car car_mem).2
    rw [friction_eq]
    rfl
  constructor
  · intro speed
    change thousand (Curves.totalBrake same.vehicles) = _
    rw [vehicles_eq]
    rfl
  · exact adverse_eq.1
  · change gravity * (same.adverse.rolling * same.weight.across + same.weight.along) = _
    rw [adverse_eq.2, weight_eq]
    rfl
  · rw [weight_eq]
    rfl

namespace WeightSummary

/-- What presses on a level way and what pulls along it is nearly the whole weight, and a thousandth
of it. -/
structure OnLevel (summary : WeightSummary) : Prop where
  /-- The weight is not negative. -/
  weight_nonneg : 0 ≤ summary.weight.toInt
  /-- The part across. -/
  across_ge : 1048567 * summary.weight.toInt ≤ summary.across.raw
  /-- The part along. -/
  along_ge : 1049 * summary.weight.toInt ≤ summary.along.raw

theorem onLevel_empty : OnLevel {} := ⟨by decide, by decide, by decide⟩

theorem slopeParts_baseFriction (way : Way) :
    1049 ≤ (slopeParts way.baseFriction.toInt).1.raw ∧
      1048567 ≤ (slopeParts way.baseFriction.toInt).2.raw := by
  cases way <;> decide +kernel

/-- The weight of a mass with a factor. -/
theorem raw_ofInt_mul {kg : Int32} (nonneg : 0 ≤ kg.toInt) {part : Fixed} {least : Int}
    (least_le : least ≤ part.raw) (least_small : least ≤ 1048576) :
    least * kg.toInt ≤ (Fixed.ofInt kg.toInt * part).raw := by
  have kg_lt := kg.toInt_lt
  have product_ge : least * (kg.toInt * 1048576) ≤ part.raw * (kg.toInt * 1048576) :=
    Int.mul_le_mul_of_nonneg_right least_le (by omega)
  have least_le : least * kg.toInt ≤ 1048576 * kg.toInt :=
    Int.mul_le_mul_of_nonneg_right least_small nonneg
  rw [Fixed.mul_comm, raw_mul, raw_ofInt32]
  rw [← Int.mul_assoc] at product_ge
  simp only [halfScale, scale, limit]
  omega

theorem OnLevel.add {summary : WeightSummary} (level : summary.OnLevel) {kg : Int32}
    (kg_nonneg : 0 ≤ kg.toInt) (way : Way) :
    (summary.add kg (.ofInt way.baseFriction.toInt)).OnLevel ∧
      kg.toInt ≤
        (summary.add kg (.ofInt way.baseFriction.toInt)).weight.toInt := by
  have kg_lt := kg.toInt_lt
  have slope_eq : max (-1000) (min (Int32.ofInt way.baseFriction.toInt).toInt 1000) =
      way.baseFriction.toInt := by
    cases way <;> decide
  have steep : ¬ way.baseFriction.toInt = 0 := by
    cases way <;> decide
  obtain ⟨sine_ge, cosine_ge⟩ := slopeParts_baseFriction way
  have along_ge := raw_ofInt_mul kg_nonneg sine_ge (by decide)
  have across_ge := raw_ofInt_mul kg_nonneg cosine_ge (by decide)
  have weight_nonneg := level.weight_nonneg
  have before_across := level.across_ge
  have before_along := level.along_ge
  have weight_eq : (Int32.ofIntClamp (summary.weight.toInt + kg.toInt)).toInt =
      min (summary.weight.toInt + kg.toInt) 2147483647 := by
    rw [toInt_ofIntClamp32]
    omega
  unfold WeightSummary.add
  simp only [slope_eq, if_neg steep]
  refine ⟨⟨?_, ?_, ?_⟩, ?_⟩
  · simp only [weight_eq]
    omega
  · simp only [weight_eq, raw_add, limit]
    omega
  · simp only [weight_eq, raw_add, limit]
    omega
  · rw [weight_eq]
    omega

end WeightSummary

namespace Train

theorem toInt_gross (car : Car) :
    car.gross.toInt = min (car.vehicle.tonnes.toNat * 1000 + car.load.toNat : Nat) 2147483647 := by
  rw [Car.gross, toInt_ofIntClamp32]
  omega

theorem foldl_onLevel (way : Way) (cars : List Car) {summary : WeightSummary}
    (heavy : ∀ car ∈ cars, 0 < car.vehicle.tonnes.toNat) (level : summary.OnLevel)
    (start : cars ≠ [] ∨ 1000 ≤ summary.weight.toInt) :
    let summed := cars.foldl
      (fun summary car => summary.add car.gross (.ofInt way.baseFriction.toInt)) summary
    summed.OnLevel ∧ 1000 ≤ summed.weight.toInt := by
  induction cars generalizing summary with
  | nil => exact ⟨level, start.resolve_left (fun no_cars => no_cars rfl)⟩
  | cons car cars ih =>
    have tonnes_pos := heavy car List.mem_cons_self
    have gross_eq := toInt_gross car
    obtain ⟨added, added_ge⟩ := level.add (by omega : 0 ≤ car.gross.toInt) way
    have added_heavy :
        1000 ≤ (summary.add car.gross (.ofInt way.baseFriction.toInt)).weight.toInt := by omega
    exact ih (fun other other_mem => heavy other (List.mem_cons_of_mem car other_mem)) added
      (.inr added_heavy)

theorem levelWeight_onLevel {train : Train} (nonempty : train.vehicles ≠ [])
    (heavy : ∀ vehicle ∈ train.vehicles, 0 < vehicle.tonnes.toNat) (way : Way) :
    (train.levelWeight way).OnLevel ∧ 1000 ≤ (train.levelWeight way).weight.toInt := by
  apply foldl_onLevel way train.cars _ WeightSummary.onLevel_empty
  · exact .inl fun no_cars => nonempty (by rw [vehicles, no_cars, List.map_nil])
  · exact fun car car_mem => heavy car.vehicle (List.mem_map_of_mem car_mem)

end Train

theorem Way.drag_le (way : Way) : way.resistance.drag.raw ≤ 26214400 := by
  cases way <;> decide

theorem Way.rolling_ge (way : Way) : 1049 ≤ way.resistance.rolling.raw := by
  cases way <;> decide

/-- Rolling and the friction of the way slow any weight down by 0.0196 m/s² at least. -/
theorem resistance_ge {summary : WeightSummary} (level : summary.OnLevel) {rolling : Fixed}
    (rolling_ge : 1049 ≤ rolling.raw) :
    20500 * summary.weight.toInt ≤
      (gravity * (rolling * summary.across + summary.along)).raw := by
  have weight_nonneg := level.weight_nonneg
  have weight_lt := summary.weight.toInt_lt
  have across_ge := level.across_ge
  have along_ge := level.along_ge
  have gravity_eq : gravity.raw = 10286531 := by decide
  have product_ge : 1049 * (1048567 * summary.weight.toInt) ≤
      rolling.raw * summary.across.raw :=
    Int.mul_le_mul rolling_ge across_ge (by omega) (by omega)
  have rolled_ge : 1048 * summary.weight.toInt ≤ (rolling * summary.across).raw := by
    rw [raw_mul]
    simp only [halfScale, scale, limit]
    omega
  have sum_ge : 2097 * summary.weight.toInt ≤
      (rolling * summary.across + summary.along).raw := by
    rw [raw_add]
    simp only [limit]
    omega
  rw [raw_mul, gravity_eq]
  simp only [halfScale, scale, limit]
  omega

/-- The brakes of a train on level way are firm, if at a standstill they slow it down by at most
16 m/s². -/
theorem Train.brakes_firm {train : Train} (nonempty : train.vehicles ≠ [])
    (heavy : ∀ vehicle ∈ train.vehicles, 0 < vehicle.tonnes.toNat) {way : Way}
    (gentle : (train.brakes way).force.raw + (train.brakes way).resistance.raw ≤
      16777216 * (train.brakes way).weight.toInt) : (train.brakes way).Firm where
  force_nonneg := by
    have brake_nonneg := Curves.totalBrake_nonneg train.vehicles
    change 0 ≤ (thousand _).raw
    rw [raw_thousand]
    omega
  drag_nonneg := way.drag_nonneg
  drag_le := way.drag_le
  weight_ge := (levelWeight_onLevel nonempty heavy way).2
  resistance_ge := resistance_ge (levelWeight_onLevel nonempty heavy way).1 way.rolling_ge
  force_le := gentle

end Haulage
