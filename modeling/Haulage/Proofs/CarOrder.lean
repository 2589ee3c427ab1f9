import Haulage.Proofs.Alike
import Haulage.Proofs.Coherence
import Haulage.Proofs.WeightSums

/-!
# The order of the cars

A live convoy is summed up car by car, front first.  The sums saturate, the brake rate of the first
car is taken as it is, and an electric engine without a line overwrites the limit; still two cars
may be added in either order.  So the convoy weighs, pulls, brakes and runs the same however its
cars are ordered.  Only the friction under its head and the tiles it takes hang on the order.
-/

namespace Haulage

open Fixed

theorem ofIntClamp32_right_comm {first second : Int} (first_nonneg : 0 ≤ first)
    (second_nonneg : 0 ≤ second) (start : Int32) :
    Int32.ofIntClamp ((Int32.ofIntClamp (start.toInt + first)).toInt + second) =
      Int32.ofIntClamp ((Int32.ofIntClamp (start.toInt + second)).toInt + first) := by
  have start_ge := start.le_toInt
  apply Int32.toInt_inj.mp
  simp only [toInt_ofIntClamp32]
  omega

theorem ofIntClamp64_right_comm {first second : Int} (first_nonneg : 0 ≤ first)
    (second_nonneg : 0 ≤ second) (start : Int64) :
    Int64.ofIntClamp ((Int64.ofIntClamp (start.toInt + first)).toInt + second) =
      Int64.ofIntClamp ((Int64.ofIntClamp (start.toInt + second)).toInt + first) := by
  have start_ge := start.le_toInt
  apply Int64.toInt_inj.mp
  simp only [toInt_ofIntClamp64]
  omega

theorem min_right_comm32 (first second third : Int32) :
    min (min first second) third = min (min first third) second := by
  apply Int32.toInt_inj.mp
  simp only [toInt_min32]
  omega

/-- Indices that are not negative may be summed in any order. -/
theorem clampedSum_perm {first second : List Int} (reordered : first.Perm second)
    (nonneg : ∀ index ∈ first, 0 ≤ index) : clampedSum first = clampedSum second := by
  apply reordered.foldl_eq'
  intro index index_mem other other_mem start
  exact ofIntClamp64_right_comm (nonneg index index_mem) (nonneg other other_mem) start

variable {first second : List Vehicle}

namespace Curves

/-- Force, brake force and power do not depend on the order. -/
theorem ofVehicles_perm (reordered : first.Perm second) (world : World) :
    ofVehicles first world = ofVehicles second world := by
  have indices_perm : ∀ index : Vehicle → Int, (∀ vehicle, 0 ≤ index vehicle) →
      clampedSum (first.map index) = clampedSum (second.map index) := by
    intro index nonneg
    exact clampedSum_perm (reordered.map index) (List.forall_mem_map.mpr fun vehicle _ =>
      nonneg vehicle)
  have force_eq : totalForce first world = totalForce second world := by
    funext speed
    rw [totalForce, totalForce,
      indices_perm _ fun vehicle => Int.natCast_nonneg (vehicle.forceIndex speed)]
  have power_eq : totalPower first world = totalPower second world := by
    rw [totalPower, totalPower,
      indices_perm _ fun vehicle => Int.natCast_nonneg vehicle.powerIndex]
  have brake_eq : totalBrake first = totalBrake second := by
    rw [totalBrake, totalBrake, indices_perm _ Vehicle.brakeForce_nonneg]
  simp only [ofVehicles, force_eq, power_eq, brake_eq]

end Curves

namespace VehicleSummary

theorem add_right_comm (summary : VehicleSummary) (vehicle other : Vehicle) :
    (summary.add vehicle).add other = (summary.add other).add vehicle := by
  have kilograms_nonneg : ∀ vehicle, 0 ≤ kilograms vehicle := by
    intro vehicle
    rw [kilograms]
    omega
  have lengths_comm : summary.length + vehicle.length.toUInt32 + other.length.toUInt32 =
      summary.length + other.length.toUInt32 + vehicle.length.toUInt32 := by
    rw [UInt32.add_assoc, UInt32.add_comm vehicle.length.toUInt32, ← UInt32.add_assoc]
  simp only [add, lengths_comm, min_right_comm32 summary.maxSpeed vehicle.topKmh,
    ofIntClamp32_right_comm (kilograms_nonneg vehicle) (kilograms_nonneg other)]

/-- The order of the vehicles tells in the tiles alone. -/
theorem ofList_perm (reordered : first.Perm second) :
    ofList first = { ofList second with tiles := (ofList first).tiles } := by
  have folded : first.foldl add {} = second.foldl add {} :=
    reordered.foldl_eq' (fun vehicle _ other _ summary => add_right_comm summary vehicle other) {}
  simp only [ofList, folded]
  rfl

end VehicleSummary

namespace FreightSummary

theorem add_right_comm (summary : FreightSummary) (vehicle other : Vehicle) :
    (summary.add vehicle).add other = (summary.add other).add vehicle := by
  have load_nonneg : ∀ capacity kg, 0 ≤ load capacity kg := fun _ _ => le_max_left _ _
  unfold add
  cases vehicle.freight with
  | none => rfl
  | some range =>
    cases other.freight with
    | none => rfl
    | some other_range =>
      simp only [ofIntClamp32_right_comm (load_nonneg vehicle.capacity _)
        (load_nonneg other.capacity _)]

theorem ofList_perm (reordered : first.Perm second) : ofList first = ofList second :=
  reordered.foldl_eq' (fun vehicle _ other _ summary => add_right_comm summary vehicle other) {}

end FreightSummary

theorem Way.drag_pos (way : Way) : 0 < way.resistance.drag.raw := by
  cases way <;> decide

namespace AdverseSummary

/-- The limit with one more vehicle. -/
def limitAfter (kmh : Int32) (context : WayContext) (electric : Bool) : Int32 :=
  if electric && !context.electrified then 0 else min kmh context.maxSpeed

theorem limitAfter_right_comm (kmh : Int32) {context other : WayContext}
    (context_limit : 0 < context.maxSpeed) (other_limit : 0 < other.maxSpeed)
    (electric other_electric : Bool) :
    limitAfter (limitAfter kmh context electric) other other_electric =
      limitAfter (limitAfter kmh other other_electric) context electric := by
  rw [Int32.lt_iff_toInt_lt, Int32.toInt_zero] at context_limit other_limit
  apply Int32.toInt_inj.mp
  simp only [limitAfter]
  split <;> split <;> simp only [toInt_min32, Int32.toInt_zero] <;> omega

/-- Where a vehicle stands there is drag, so the next one is not the first. -/
theorem drag_add_pos (summary : AdverseSummary) (context : WayContext) (electric : Bool) :
    0 < (summary.add context electric).drag.raw :=
  context.way.drag_pos.trans_le (le_max_right summary.drag context.way.resistance.drag)

theorem add_next {summary : AdverseSummary} (drag_pos : 0 < summary.drag.raw)
    (context : WayContext) (electric : Bool) :
    summary.add context electric =
      { drag := max summary.drag context.way.resistance.drag
        rolling := max summary.rolling context.way.resistance.rolling
        braking := min summary.braking context.way.resistance.braking
        maxSpeed := limitAfter summary.maxSpeed context electric } := by
  have not_first : summary.drag.isZero = false := by
    rw [isZero, decide_eq_false_iff_not]
    omega
  simp only [add, not_first, Bool.false_and, Bool.false_eq_true, if_false]
  rfl

theorem add_right_comm (summary : AdverseSummary) {context other : WayContext}
    (context_limit : 0 < context.maxSpeed) (other_limit : 0 < other.maxSpeed)
    (electric other_electric : Bool) :
    (summary.add context electric).add other other_electric =
      (summary.add other other_electric).add context electric := by
  have drag_comm : max (summary.add context electric).drag other.way.resistance.drag =
      max (summary.add other other_electric).drag context.way.resistance.drag :=
    max_right_comm _ _ _
  have rolling_comm : max (summary.add context electric).rolling other.way.resistance.rolling =
      max (summary.add other other_electric).rolling context.way.resistance.rolling :=
    max_right_comm _ _ _
  -- The first of two vehicles sets the rate and the second lowers it, or both lower what was there.
  have braking_comm : min (summary.add context electric).braking other.way.resistance.braking =
      min (summary.add other other_electric).braking context.way.resistance.braking := by
    simp only [add]
    split
    · exact min_comm _ _
    · exact min_right_comm _ _ _
  have limit_comm : limitAfter (summary.add context electric).maxSpeed other other_electric =
      limitAfter (summary.add other other_electric).maxSpeed context electric :=
    limitAfter_right_comm summary.maxSpeed context_limit other_limit electric other_electric
  rw [add_next (summary.drag_add_pos context electric), drag_comm, rolling_comm, braking_comm,
    limit_comm, add_next (summary.drag_add_pos other other_electric)]

end AdverseSummary

namespace LiveConvoy

/-- What the cars weigh, each on its slope. -/
def loads (cars : List LiveCar) : List WeightSummary.Load :=
  cars.map fun car => ⟨car.gross, .ofInt car.context.friction.toInt⟩

/-- The cars of two convoys are the same but for their order.  None weighs less than nothing, a word
holds their weight, and each stands under a limit at which it may run. -/
structure Reordered (first second : LiveConvoy) : Prop where
  /-- The same cars in another order. -/
  perm : first.cars.Perm second.cars
  /-- On the same map. -/
  world_eq : first.world = second.world
  /-- No car weighs less than nothing. -/
  gross_nonneg : ∀ car ∈ first.cars, 0 ≤ car.gross
  /-- A word holds the weight of all. -/
  gross_fits : (first.cars.map fun car => car.gross.toInt).sum ≤ 2147483647
  /-- The limits are positive. -/
  limit_pos : ∀ car ∈ first.cars, 0 < car.context.maxSpeed

theorem weight_eq_ofLoads (convoy : LiveConvoy) : convoy.weight = .ofLoads (loads convoy.cars) := by
  rw [weight, WeightSummary.ofLoads, loads, List.foldl_map]

namespace Reordered

variable {first second : LiveConvoy}

theorem vehicles (reordered : first.Reordered second) : first.vehicles.Perm second.vehicles :=
  reordered.perm.map LiveCar.vehicle

theorem adverse_eq (reordered : first.Reordered second) : first.adverse = second.adverse := by
  apply reordered.perm.foldl_eq'
  intro car car_mem other other_mem summary
  exact summary.add_right_comm (reordered.limit_pos car car_mem)
    (reordered.limit_pos other other_mem) car.vehicle.electric other.vehicle.electric

theorem light (reordered : first.Reordered second) : WeightSummary.Light (loads first.cars) where
  nonneg := by
    rw [loads, List.forall_mem_map]
    intro car car_mem
    have gross_nonneg := reordered.gross_nonneg car car_mem
    rwa [Int32.le_iff_toInt_le, Int32.toInt_zero] at gross_nonneg
  fits := by
    rw [WeightSummary.totalKg, loads, List.map_map]
    exact reordered.gross_fits

theorem weight_eq (reordered : first.Reordered second) : first.weight = second.weight := by
  have loads_perm : (loads first.cars).Perm (loads second.cars) := reordered.perm.map _
  rw [weight_eq_ofLoads, weight_eq_ofLoads]
  exact WeightSummary.ofLoads_eq_of_sameSums reordered.light (reordered.light.perm loads_perm)
    (WeightSummary.sameSums_of_perm loads_perm)

theorem curves_eq (reordered : first.Reordered second) :
    Curves.ofVehicles first.vehicles first.world = .ofVehicles second.vehicles second.world := by
  rw [reordered.world_eq]
  exact Curves.ofVehicles_perm reordered.vehicles second.world

theorem vehicle_eq (reordered : first.Reordered second) :
    VehicleSummary.ofList first.vehicles =
      { VehicleSummary.ofList second.vehicles with
        tiles := (VehicleSummary.ofList first.vehicles).tiles } :=
  VehicleSummary.ofList_perm reordered.vehicles

/-- The profiles differ in tiles and friction alone. -/
theorem alike (reordered : first.Reordered second) :
    (Profile.ofSource first).Alike (Profile.ofSource second) := by
  have rated_eq : (VehicleSummary.ofList first.vehicles).maxSpeed =
      (VehicleSummary.ofList second.vehicles).maxSpeed := by
    rw [reordered.vehicle_eq]
  have isEmpty_eq : (VehicleSummary.ofList first.vehicles).isEmpty =
      (VehicleSummary.ofList second.vehicles).isEmpty := by
    rw [VehicleSummary.isEmpty, reordered.vehicle_eq, VehicleSummary.isEmpty]
  change (Profile.ofCurves (.ofList first.vehicles) first.adverse
      (.ofVehicles first.vehicles first.world) first.front.context.friction).Alike
    (.ofCurves (.ofList second.vehicles) second.adverse
      (.ofVehicles second.vehicles second.world) second.front.context.friction)
  rw [reordered.adverse_eq, reordered.curves_eq]
  exact Profile.alike_ofCurves rated_eq isEmpty_eq _ _ _ _

end Reordered

end LiveConvoy

namespace Memo

/-- Two memos of live convoys give the same answers to all that the physics asks. -/
structure SameAnswers (one other : Memo LiveConvoy) : Prop where
  /-- The summaries of the vehicles are the same but for the tiles. -/
  vehicle_eq : (one.ask .vehicle).1 =
    { (other.ask .vehicle).1 with tiles := (one.ask .vehicle).1.tiles }
  /-- The summaries of where they stand. -/
  adverse_eq : (one.ask .adverse).1 = (other.ask .adverse).1
  /-- The summaries of what they can carry. -/
  freight_eq : one.askFreight.1 = other.askFreight.1
  /-- The summaries of what they weigh. -/
  weight_eq : one.askWeight.1 = other.askWeight.1
  /-- The top speed with any weight. -/
  maxSpeed_eq : ∀ weight, (one.ask (.maxSpeed weight)).1 = (other.ask (.maxSpeed weight)).1
  /-- The top speed as they are loaded. -/
  loadedMaxSpeed_eq : (one.askLoaded .maxSpeed).1 = (other.askLoaded .maxSpeed).1
  /-- The heaviest weight that starts. -/
  maxStartingWeight_eq : ∀ slope,
    (one.ask (.maxStartingWeight slope)).1 = (other.ask (.maxStartingWeight slope)).1
  /-- The heaviest weight that is pulled at the speed limit. -/
  maxWeight_eq : ∀ slope, (one.ask (.maxWeight slope)).1 = (other.ask (.maxWeight slope)).1
  /-- The braking distance of any weight. -/
  brakingDistance_eq : ∀ weight velocity,
    (one.ask (.brakingDistance weight velocity)).1 =
      (other.ask (.brakingDistance weight velocity)).1
  /-- The braking distance in metres. -/
  brakingMetres_eq : ∀ weight velocity,
    (one.ask (.brakingMetres weight velocity)).1 = (other.ask (.brakingMetres weight velocity)).1
  /-- The braking distance in steps. -/
  brakingSteps_eq : ∀ mapScale weight speed,
    (one.ask (.brakingSteps mapScale weight speed)).1 =
      (other.ask (.brakingSteps mapScale weight speed)).1
  /-- The braking distance in steps as they are loaded. -/
  loadedBrakingSteps_eq : ∀ mapScale speed,
    (one.askLoaded fun weight => .brakingSteps mapScale weight speed).1 =
      (other.askLoaded fun weight => .brakingSteps mapScale weight speed).1
  /-- The motion with any weight. -/
  move_eq : ∀ request weight state,
    (one.ask (.move request weight state)).1 = (other.ask (.move request weight state)).1
  /-- The motion as they are loaded. -/
  loadedMove_eq : ∀ request state,
    (one.askLoaded fun weight => .move request weight state).1 =
      (other.askLoaded fun weight => .move request weight state).1

theorem sameAnswers_of_reordered {one other : Memo LiveConvoy}
    (reordered : one.source.Reordered other.source)
    (one_agrees : one.cache.AgreesLoaded one.source)
    (other_agrees : other.cache.AgreesLoaded other.source) : one.SameAnswers other := by
  have alike := reordered.alike
  have asked : ∀ {α : Type} (query : Query α),
      query.answer (.ofSource one.source) = query.answer (.ofSource other.source) →
        (one.ask query).1 = (other.ask query).1 := by
    intro α query answer_eq
    rw [ask_answer one_agrees.toAgrees, ask_answer other_agrees.toAgrees, answer_eq]
  have loaded : ∀ {α : Type} (query : WeightSummary → Query α),
      (∀ weight, (query weight).answer (.ofSource one.source) =
        (query weight).answer (.ofSource other.source)) →
        (one.askLoaded query).1 = (other.askLoaded query).1 := by
    intro α query answer_eq
    rw [askLoaded_answer one_agrees, askLoaded_answer other_agrees]
    change (query one.source.weight).answer _ = (query other.source.weight).answer _
    rw [reordered.weight_eq, answer_eq]
  exact
    { vehicle_eq := by
        rw [ask_answer one_agrees.toAgrees, ask_answer other_agrees.toAgrees]
        exact reordered.vehicle_eq
      adverse_eq := asked .adverse reordered.adverse_eq
      freight_eq := by
        have one_eq : one.askFreight.1 = .ofList one.source.vehicles :=
          getD_of_agrees one_agrees.freight
        have other_eq : other.askFreight.1 = .ofList other.source.vehicles :=
          getD_of_agrees other_agrees.freight
        rw [one_eq, other_eq, FreightSummary.ofList_perm reordered.vehicles]
      weight_eq := by
        rw [askWeight_answer one_agrees, askWeight_answer other_agrees]
        exact reordered.weight_eq
      maxSpeed_eq := fun weight => asked (.maxSpeed weight) (alike.maxSpeed weight)
      loadedMaxSpeed_eq := loaded .maxSpeed alike.maxSpeed
      maxStartingWeight_eq := fun slope =>
        asked (.maxStartingWeight slope) (congrFun alike.maxStartingWeight slope)
      maxWeight_eq := fun slope => asked (.maxWeight slope) (alike.maxWeight slope)
      brakingDistance_eq := fun weight velocity =>
        asked (.brakingDistance weight velocity) (congrFun (alike.brakingDistance weight) velocity)
      brakingMetres_eq := fun weight velocity =>
        asked (.brakingMetres weight velocity) (alike.brakingMetres weight velocity)
      brakingSteps_eq := fun mapScale weight speed =>
        asked (.brakingSteps mapScale weight speed) (alike.brakingSteps mapScale weight speed)
      loadedBrakingSteps_eq := fun mapScale speed =>
        loaded (.brakingSteps mapScale · speed) fun weight =>
          alike.brakingSteps mapScale weight speed
      move_eq := fun request weight state =>
        asked (.move request weight state) (alike.move request weight state)
      loadedMove_eq := fun request state =>
        loaded (.move request · state) fun weight => alike.move request weight state }

end Memo

namespace LiveConvoy

open WeightSummary in
/-- The physics of a live convoy does not depend on the order of its cars: in any order, and
whatever is kept of it, the convoy gives the same answers.  Nor does a summary of weights depend on
their grouping: loads on one slope may be summed up before they are added. -/
theorem physics_order_free {first second : LiveConvoy} (reordered : first.Reordered second) :
    (∀ one other : Memo LiveConvoy,
      one.source = first → one.cache.AgreesLoaded one.source →
      other.source = second → other.cache.AgreesLoaded other.source → one.SameAnswers other) ∧
    ∀ (kgs : List Int32) (slope : Int32) (rest loads grouped : List Load), Light loads →
      loads.Perm (apart kgs slope ++ rest) → grouped.Perm (merged kgs slope :: rest) →
      ofLoads loads = ofLoads grouped := by
  constructor
  · rintro one other rfl one_agrees rfl other_agrees
    exact Memo.sameAnswers_of_reordered reordered one_agrees other_agrees
  · intro kgs slope rest loads grouped light loads_perm grouped_perm
    exact ofLoads_merge light loads_perm grouped_perm

open WeightSummary in
/-- An engine on a grade is shunted behind its wagon: another friction is under the head, but the
train answers alike, and two of three loads are summed up. -/
theorem shunted_train_answers_alike :
    let engine : LiveCar :=
      ⟨.engine "Freight" .track 80 120 1500, 80000, (WayContext.flat .track 90).withSlope 20⟩
    let wagon : LiveCar :=
      ⟨.wagon "Ore" .track 20 80 40 (.uniform 1000), 60000, .flat .narrowGauge 70⟩
    let first : LiveConvoy := ⟨[engine, wagon], {}, List.cons_ne_nil _ _⟩
    let second : LiveConvoy := ⟨[wagon, engine], {}, List.cons_ne_nil _ _⟩
    first.Reordered second ∧ Source.friction first ≠ Source.friction second ∧
      (⟨first, .empty⟩ : Memo LiveConvoy).SameAnswers ⟨second, .empty⟩ ∧
      ofLoads [⟨1000, 3⟩, ⟨500, 8⟩, ⟨2000, 3⟩] = ofLoads [⟨500, 8⟩, ⟨3000, 3⟩] := by
  intro engine wagon first second
  have reordered : first.Reordered second :=
    { perm := .swap _ _ _
      world_eq := rfl
      gross_nonneg := by decide
      gross_fits := by decide
      limit_pos := by decide }
  have light : Light [⟨1000, 3⟩, ⟨500, 8⟩, ⟨2000, 3⟩] := ⟨by simp, by decide⟩
  obtain ⟨answers, grouping⟩ := physics_order_free reordered
  refine ⟨reordered, by decide, ?_, ?_⟩
  · exact answers _ _ rfl (Cache.agreesLoaded_empty _) rfl (Cache.agreesLoaded_empty _)
  · exact grouping [1000, 2000] 3 [⟨500, 8⟩] _ _ light (.cons _ (.swap _ _ _)) (.swap _ _ _)

end LiveConvoy

end Haulage
