import Haulage.Proofs.Alike
import Haulage.Proofs.WeightSums

/-!
# Plans and runs

A consist on paper stands on the way of its first vehicle as one block of a given weight.  A train
that runs is summed up car by car.  On level way of one kind, with a limit that holds no vehicle
back, both answer alike: parts of a whole weight are exact, so the sum over the cars is one block,
and the two profiles differ in the speed limit of the way alone, which neither reaches.
-/

namespace Haulage

open Fixed

namespace WeightSummary

/-- One block on level way of a kind. -/
def block (way : Way) (kg : Nat) : WeightSummary :=
  .single (.ofNat kg) (.ofInt way.baseFriction.toInt)

theorem toInt_ofNat32 {kg : Nat} (fits : kg ≤ 2147483647) : (Int32.ofNat kg).toInt = kg :=
  Int32.toInt_ofNat_of_lt (by omega)

end WeightSummary

/-- What a fold adds to a word, clamped at every step, is the whole sum, clamped once. -/
theorem foldl_saturating {σ α : Type} {add : σ → α → σ} {word : σ → Int32} {part : α → Nat}
    (added : ∀ sum item, 0 ≤ (word sum).toInt →
      (word (add sum item)).toInt = min ((word sum).toInt + part item) 2147483647)
    (items : List α) (start : σ) (nonneg : 0 ≤ (word start).toInt) :
    (word (items.foldl add start)).toInt =
      min ((word start).toInt + (items.map part).sum) 2147483647 := by
  induction items generalizing start with
  | nil =>
    have start_lt := (word start).toInt_lt
    simp only [List.foldl_nil, List.map_nil, List.sum_nil]
    omega
  | cons item items ih =>
    have first := added start item nonneg
    have rest := ih (add start item) (by omega)
    rw [List.foldl_cons, rest, first, List.map_cons, List.sum_cons]
    omega

/-- The load of a full vehicle in kg: as many units as there is room for, each of them as heavy as
its freight can be, but no more than a 32-bit number holds. -/
def Vehicle.fullLoad (vehicle : Vehicle) : Nat :=
  match vehicle.freight with
  | some range => min (vehicle.capacity.toNat * range.heaviest.toNat) 4294967295
  | none => 0

theorem Car.toNat_maxLoad (car : Car) : car.maxLoad.toNat = car.vehicle.fullLoad := by
  rw [maxLoad, Vehicle.fullLoad]
  cases car.vehicle.freight with
  | none => rfl
  | some range =>
    simp only
    rcases Nat.lt_or_ge (car.vehicle.capacity.toNat * range.heaviest.toNat) UInt32.size with
      inside | beyond
    · rw [UInt32.toNat_ofNatClamp_of_lt inside]
      simp only [UInt32.size] at inside
      omega
    · rw [UInt32.toNat_ofNatClamp_of_le beyond]
      simp only [UInt32.size] at beyond ⊢
      omega

namespace VehicleSummary

/-- Unladen weight of a vehicle in kg, however heavy. -/
def tareKg (vehicle : Vehicle) : Nat := vehicle.tonnes.toNat * 1000

theorem weight_ofList (vehicles : List Vehicle) :
    (ofList vehicles).weight.toInt = min ((vehicles.map tareKg).sum : Int) 2147483647 := by
  have added : ∀ (summary : VehicleSummary) (vehicle : Vehicle), 0 ≤ summary.weight.toInt →
      (summary.add vehicle).weight.toInt =
        min (summary.weight.toInt + tareKg vehicle) 2147483647 := by
    intro summary vehicle nonneg
    rw [add, toInt_ofIntClamp32, kilograms, tareKg]
    omega
  have folded := foldl_saturating added vehicles {} (by decide)
  rw [Int32.toInt_zero, Int.zero_add] at folded
  exact folded

end VehicleSummary

namespace FreightSummary

/-- What a vehicle adds to the weight of the heaviest full load, kg. -/
def heaviestLoad (vehicle : Vehicle) : Nat :=
  match vehicle.freight with
  | some range => (load vehicle.capacity range.heaviest).toNat
  | none => 0

theorem heaviest_ofList (vehicles : List Vehicle) :
    (ofList vehicles).heaviest.toInt =
      min ((vehicles.map heaviestLoad).sum : Int) 2147483647 := by
  have added : ∀ (summary : FreightSummary) (vehicle : Vehicle), 0 ≤ summary.heaviest.toInt →
      (summary.add vehicle).heaviest.toInt =
        min (summary.heaviest.toInt + heaviestLoad vehicle) 2147483647 := by
    intro summary vehicle nonneg
    have heaviest_lt := summary.heaviest.toInt_lt
    unfold add heaviestLoad
    cases vehicle.freight with
    | none =>
      simp only
      omega
    | some range =>
      have load_nonneg : 0 ≤ load vehicle.capacity range.heaviest := Int.le_max_left _ _
      simp only [toInt_ofIntClamp32]
      omega
  have folded := foldl_saturating added vehicles {} (by decide)
  rw [Int32.toInt_zero, Int.zero_add] at folded
  exact folded

/-- A full vehicle carries what it adds, as long as a word holds that. -/
theorem heaviestLoad_eq {vehicle : Vehicle} (fits : vehicle.fullLoad ≤ 2147483647) :
    heaviestLoad vehicle = vehicle.fullLoad := by
  unfold Vehicle.fullLoad at fits ⊢
  unfold heaviestLoad
  cases freight_eq : vehicle.freight with
  | none => rfl
  | some range =>
    simp only [freight_eq] at fits ⊢
    have product_eq :
        (Int64.ofInt (vehicle.capacity.toNat * range.heaviest.toNat : Nat)).toInt =
          (vehicle.capacity.toNat * range.heaviest.toNat : Nat) :=
      toInt_ofInt64 (by omega) (by omega)
    rw [load, product_eq]
    omega

end FreightSummary

namespace Train

/-- Gross weight of a car in kg, however heavy. -/
def grossKg (car : Car) : Nat := car.vehicle.tonnes.toNat * 1000 + car.load.toNat

theorem gross_eq {car : Car} (fits : grossKg car ≤ 2147483647) :
    car.gross = .ofNat (grossKg car) := by
  apply Int32.toInt_inj.mp
  rw [toInt_gross, WeightSummary.toInt_ofNat32 fits]
  unfold grossKg at fits ⊢
  omega

theorem toInt_gross_eq {train : Train} (fits : (train.cars.map grossKg).sum ≤ 2147483647) :
    (train.cars.map Car.gross).map Int32.toInt = (train.cars.map grossKg).map Nat.cast := by
  simp only [List.map_map]
  apply List.map_congr_left
  intro car car_mem
  have gross_le := List.le_sum_of_mem (List.mem_map_of_mem (f := grossKg) car_mem)
  simp only [Function.comp_apply, gross_eq (gross_le.trans fits),
    WeightSummary.toInt_ofNat32 (gross_le.trans fits)]

theorem sum_gross_eq {train : Train} (fits : (train.cars.map grossKg).sum ≤ 2147483647) :
    ((train.cars.map Car.gross).map Int32.toInt).sum = ((train.cars.map grossKg).sum : Nat) := by
  rw [toInt_gross_eq fits, Nat.cast_list_sum]

open WeightSummary in
theorem light_of_fits {train : Train} (fits : (train.cars.map grossKg).sum ≤ 2147483647)
    (slope : Int32) : Light (apart (train.cars.map Car.gross) slope) := by
  constructor
  · have gross_nonneg : ∀ kg ∈ (train.cars.map Car.gross).map Int32.toInt, 0 ≤ kg := by
      rw [toInt_gross_eq fits, List.forall_mem_map]
      exact fun kg _ => Int.natCast_nonneg kg
    rw [apart, List.forall_mem_map]
    exact List.forall_mem_map.mp gross_nonneg
  · rw [totalKg_apart, sum_gross_eq fits]
    omega

open WeightSummary in
/-- The cars on level way are one block, as long as a word holds their weight. -/
theorem levelWeight_eq_block (way : Way) {train : Train}
    (fits : (train.cars.map grossKg).sum ≤ 2147483647) :
    train.levelWeight way = block way (train.cars.map grossKg).sum := by
  let slope := Int32.ofInt way.baseFriction.toInt
  let kgs := train.cars.map Car.gross
  have merged_eq : merged kgs slope = ⟨.ofNat (train.cars.map grossKg).sum, slope⟩ := by
    rw [merged, sum_gross_eq fits]
    rfl
  calc train.levelWeight way = ofLoads (apart kgs slope) := by
        rw [levelWeight, ofLoads, apart, List.foldl_map, List.foldl_map]
    _ = ofLoads [merged kgs slope] :=
        ofLoads_merge (light_of_fits fits slope) (by rw [List.append_nil]) (.refl _)
    _ = block way (train.cars.map grossKg).sum := by
        rw [merged_eq]
        rfl

theorem payload_eq_sum (train : Train) :
    train.payload = (train.cars.map fun car => car.load.toNat).sum := by
  rw [payload, List.sum_eq_foldl, List.foldl_map]

/-- The weight of a train is that of its vehicles and its payload. -/
theorem sum_grossKg (train : Train) :
    (train.cars.map grossKg).sum =
      (train.vehicles.map VehicleSummary.tareKg).sum + train.payload := by
  rw [payload_eq_sum, vehicles, List.map_map, ← List.sum_map_add]
  rfl

/-- A full train carries what its vehicles can carry. -/
theorem payload_fill (train : Train) :
    train.fill.payload = (train.cars.map fun car => car.vehicle.fullLoad).sum := by
  rw [payload_eq_sum, fill, List.map_map]
  congr 1
  exact List.map_congr_left fun car _ => car.toNat_maxLoad

/-- The payload of a full train is the heaviest load of its freight summary, unless that is clamped
to a word. -/
theorem payload_fill_eq_iff (train : Train) :
    (train.fill.payload : Int) = (FreightSummary.ofList train.vehicles).heaviest.toInt ↔
      train.fill.payload ≤ 2147483647 := by
  have heaviest_lt := (FreightSummary.ofList train.vehicles).heaviest.toInt_lt
  have payload_eq := train.payload_fill
  refine ⟨fun equal => by omega, fun fits => ?_⟩
  have loads_eq : train.vehicles.map FreightSummary.heaviestLoad =
      train.cars.map fun car => car.vehicle.fullLoad := by
    rw [vehicles, List.map_map]
    apply List.map_congr_left
    intro car car_mem
    apply FreightSummary.heaviestLoad_eq
    have load_le := List.le_sum_of_mem
      (List.mem_map_of_mem (f := fun car : Car => car.vehicle.fullLoad) car_mem)
    omega
  rw [FreightSummary.heaviest_ofList, loads_eq, ← payload_eq]
  omega

end Train

namespace Profile

/-- The profile with another speed limit of the way. -/
def withLimit (profile : Profile) (kmh : Int32) : Profile :=
  { profile with adverse := { profile.adverse with maxSpeed := kmh } }

theorem withLimit_ofCurves (vehicle : VehicleSummary) (adverse : AdverseSummary) (curves : Curves)
    (friction : Int16) (kmh : Int32) :
    (ofCurves vehicle adverse curves friction).withLimit kmh =
      ofCurves vehicle { adverse with maxSpeed := kmh } curves friction := rfl

variable {profile : Profile} {kmh : Int32}

theorem sameForces_withLimit (profile : Profile) (kmh : Int32) :
    (profile.withLimit kmh).SameForces profile := ⟨rfl, rfl, rfl, rfl, rfl⟩

theorem alike_withLimit (same : (profile.withLimit kmh).speedLimit = profile.speedLimit) :
    (profile.withLimit kmh).Alike profile where
  toSameForces := sameForces_withLimit profile kmh
  speedLimit_eq := same
  isEmpty_eq := rfl

theorem maxSpeed_withLimit (same : (profile.withLimit kmh).speedLimit = profile.speedLimit)
    (weight : WeightSummary) :
    (profile.withLimit kmh).maxSpeed weight = profile.maxSpeed weight :=
  (alike_withLimit same).maxSpeed weight

theorem maxStartingWeight_withLimit (slope : Int32) :
    (profile.withLimit kmh).maxStartingWeight slope = profile.maxStartingWeight slope := by
  rw [(sameForces_withLimit profile kmh).maxStartingWeight]

theorem maxWeight_withLimit (same : (profile.withLimit kmh).speedLimit = profile.speedLimit)
    (slope : Int32) : (profile.withLimit kmh).maxWeight slope = profile.maxWeight slope :=
  (alike_withLimit same).maxWeight slope

theorem brakingMetres_withLimit (weight : WeightSummary) (velocity : Fixed) :
    (profile.withLimit kmh).brakingMetres weight velocity =
      profile.brakingMetres weight velocity :=
  (sameForces_withLimit profile kmh).brakingMetres weight velocity

theorem brakingSteps_withLimit (mapScale : Fixed) (weight : WeightSummary) (speed : Int32) :
    (profile.withLimit kmh).brakingSteps mapScale weight speed =
      profile.brakingSteps mapScale weight speed :=
  (sameForces_withLimit profile kmh).brakingSteps mapScale weight speed

theorem move_withLimit (same : (profile.withLimit kmh).speedLimit = profile.speedLimit)
    (request : MoveRequest) (weight : WeightSummary) (state : MotionState) :
    (profile.withLimit kmh).move request weight state = profile.move request weight state :=
  (alike_withLimit same).move request weight state

end Profile

namespace VehicleSummary

theorem maxSpeed_ofList_le_of_mem {vehicle : Vehicle} {vehicles : List Vehicle}
    (vehicle_mem : vehicle ∈ vehicles) :
    (ofList vehicles).maxSpeed.toInt ≤ vehicle.topKmh.toInt := by
  obtain ⟨front, back, rfl⟩ := List.append_of_mem vehicle_mem
  change ((front ++ vehicle :: back).foldl add {}).maxSpeed.toInt ≤ _
  rw [List.foldl_append, List.foldl_cons]
  apply (maxSpeed_foldl_le back _).trans
  rw [add, toInt_min32]
  exact min_le_right _ _

end VehicleSummary

namespace AdverseSummary

/-- What vehicles meet that stand on level way with a limit. -/
def level (way : Way) (kmh : Int32) : AdverseSummary :=
  { ofWay way with maxSpeed := min Units.unlimitedKmh kmh }

variable {way : Way} {kmh : Int32} {line electric : Bool}

theorem maxSpeed_wired (wired : electric = true → line = true) (kmh : Int32) :
    (if electric && !line then 0 else kmh) = kmh := by
  cases electric with
  | false => rfl
  | true => rw [wired rfl]; rfl

theorem add_first (wired : electric = true → line = true) :
    add {} { WayContext.flat way kmh with electrified := line } electric = level way kmh := by
  have drag_eq : max zero way.resistance.drag = way.resistance.drag := max_eq_right way.drag_nonneg
  have rolling_eq : max zero way.resistance.rolling = way.resistance.rolling :=
    max_eq_right way.rolling_nonneg
  simp only [add, WayContext.flat, maxSpeed_wired wired, drag_eq, rolling_eq]
  rfl

theorem add_level (wired : electric = true → line = true) :
    (level way kmh).add { WayContext.flat way kmh with electrified := line } electric =
      level way kmh := by
  have moving : (way.resistance.drag.isZero && way.resistance.rolling.isZero) = false := by
    cases way <;> decide
  have limit_eq : min (min Units.unlimitedKmh kmh) kmh = min Units.unlimitedKmh kmh := by
    apply Int32.toInt_inj.mp
    rw [toInt_min32, toInt_min32]
    omega
  simp only [add, WayContext.flat, maxSpeed_wired wired, level, ofWay, setWay, moving, limit_eq,
    max_self, min_self]
  rfl

end AdverseSummary

namespace LiveConvoy

variable {way : Way} {kmh : Int32} {line : Bool}

theorem adverse_foldl_level (cars : List LiveCar)
    (stands : ∀ car ∈ cars, car.context = { WayContext.flat way kmh with electrified := line })
    (wired : ∀ car ∈ cars, car.vehicle.electric = true → line = true) :
    cars.foldl (fun summary car => summary.add car.context car.vehicle.electric)
        (AdverseSummary.level way kmh) = .level way kmh := by
  induction cars with
  | nil => rfl
  | cons car cars ih =>
    rw [List.forall_mem_cons] at stands wired
    rw [List.foldl_cons, stands.1, AdverseSummary.add_level wired.1]
    exact ih stands.2 wired.2

theorem adverse_level (live : LiveConvoy)
    (stands : ∀ car ∈ live.cars, car.context = { WayContext.flat way kmh with electrified := line })
    (wired : ∀ car ∈ live.cars, car.vehicle.electric = true → line = true) :
    live.adverse = .level way kmh := by
  obtain ⟨cars, world, nonempty⟩ := live
  cases cars with
  | nil => contradiction
  | cons car cars =>
    rw [List.forall_mem_cons] at stands wired
    rw [adverse, List.foldl_cons, stands.1, AdverseSummary.add_first wired.1]
    exact adverse_foldl_level cars stands.2 wired.2

end LiveConvoy

namespace Train

/-- A train of one kind of way that stands on level way of that kind, with a limit that does not
hold its slowest vehicle back and an overhead line if an engine needs one. -/
structure Trial (train : Train) (way : Way) (kmh : Int32) (line : Bool) : Prop where
  /-- It has cars. -/
  nonempty : train.cars ≠ []
  /-- The vehicles are built for the way. -/
  built_for : ∀ car ∈ train.cars, car.vehicle.way = way
  /-- They stand on it. -/
  stands : ∀ car ∈ train.cars, car.context = { WayContext.flat way kmh with electrified := line }
  /-- Electric engines have an overhead line. -/
  wired : ∀ car ∈ train.cars, car.vehicle.electric = true → line = true
  /-- The limit is one that the slowest vehicle keeps. -/
  slow : ∃ car ∈ train.cars, car.vehicle.topKmh ≤ kmh
  /-- A word holds the gross weight. -/
  light : (train.cars.map grossKg).sum ≤ 2147483647

/-- The train on paper. -/
def plan (train : Train) (world : World) : Consist := ⟨train.vehicles, world⟩

theorem cars_of_live {train : Train} {world : World} {live : LiveConvoy}
    (live_eq : train.live world = .ok live) : live.cars = train.cars.map Car.live := by
  unfold Train.live LiveConvoy.ofCars at live_eq
  split at live_eq
  · contradiction
  · rw [← Except.ok.inj live_eq]

namespace Trial

variable {train : Train} {way : Way} {kmh : Int32} {line : Bool} {world : World} {live : LiveConvoy}

theorem plan_way (trial : train.Trial way kmh line) (world : World) :
    (train.plan world).adverse = .ofWay way ∧ (train.plan world).friction = way.baseFriction := by
  obtain ⟨cars⟩ := train
  cases cars with
  | nil => exact absurd rfl trial.nonempty
  | cons car cars =>
    have way_eq : car.vehicle.way = way := trial.built_for car List.mem_cons_self
    rw [← way_eq]
    exact ⟨rfl, rfl⟩

theorem live_way (trial : train.Trial way kmh line) (live_eq : train.live world = .ok live) :
    live.adverse = .level way kmh ∧ live.front.context.friction = way.baseFriction := by
  have cars_eq := cars_of_live live_eq
  have stands : ∀ car ∈ live.cars,
      car.context = { WayContext.flat way kmh with electrified := line } := by
    rw [cars_eq, List.forall_mem_map]
    exact trial.stands
  have wired : ∀ car ∈ live.cars, car.vehicle.electric = true → line = true := by
    rw [cars_eq, List.forall_mem_map]
    exact trial.wired
  refine ⟨live.adverse_level stands wired, ?_⟩
  rw [stands live.front (List.head_mem live.nonempty)]
  rfl

/-- The profiles of plan and run differ in the speed limit of the way alone. -/
theorem ofSource_eq (trial : train.Trial way kmh line) (live_eq : train.live world = .ok live) :
    Profile.ofSource live =
      (Profile.ofSource (train.plan world)).withLimit (min Units.unlimitedKmh kmh) := by
  obtain ⟨vehicles_eq, world_eq⟩ := Convoy.vehicles_of_live live_eq
  obtain ⟨plan_adverse, plan_friction⟩ := trial.plan_way world
  obtain ⟨live_adverse, live_friction⟩ := trial.live_way live_eq
  change Profile.ofCurves (.ofList live.vehicles) live.adverse
      (.ofVehicles live.vehicles live.world) live.front.context.friction =
    (Profile.ofCurves (.ofList train.vehicles) (train.plan world).adverse
      (.ofVehicles train.vehicles world) (train.plan world).friction).withLimit _
  rw [vehicles_eq, world_eq, live_adverse, live_friction, plan_adverse, plan_friction,
    Profile.withLimit_ofCurves, AdverseSummary.level]

/-- Neither limit is below the lowest rated speed. -/
theorem speedLimit_eq (trial : train.Trial way kmh line) (world : World) :
    ((Profile.ofSource (train.plan world)).withLimit (min Units.unlimitedKmh kmh)).speedLimit =
      (Profile.ofSource (train.plan world)).speedLimit := by
  obtain ⟨car, car_mem, slow⟩ := trial.slow
  have rated_le := VehicleSummary.maxSpeed_ofList_le_of_mem
    (List.mem_map_of_mem (f := Car.vehicle) car_mem)
  have unlimited_le := Int32.le_iff_toInt_le.mp (VehicleSummary.maxSpeed_ofList_le train.vehicles)
  rw [Int32.le_iff_toInt_le] at slow
  change min (VehicleSummary.ofList train.vehicles).maxSpeed (min Units.unlimitedKmh kmh) =
    min (VehicleSummary.ofList train.vehicles).maxSpeed (train.plan world).adverse.maxSpeed
  rw [(trial.plan_way world).1]
  change _ = min _ Units.unlimitedKmh
  apply Int32.toInt_inj.mp
  rw [toInt_min32, toInt_min32, toInt_min32]
  rw [vehicles] at unlimited_le ⊢
  omega

theorem live_weight_eq (trial : train.Trial way kmh line) (live_eq : train.live world = .ok live) :
    live.weight = .block way (train.cars.map grossKg).sum := by
  rw [← levelWeight_eq_block way trial.light, LiveConvoy.weight, cars_of_live live_eq,
    List.foldl_map, levelWeight]
  apply List.foldl_ext
  intro summary car car_mem
  have friction_eq : car.live.context.friction = way.baseFriction := by
    change car.context.friction = _
    rw [trial.stands car car_mem]
    rfl
  rw [friction_eq]
  rfl

/-- The weight of the run is that of the plan with the payload. -/
theorem weight_eq (trial : train.Trial way kmh line) (live_eq : train.live world = .ok live) :
    (Query.weightWithLoad (.ofNat train.payload)).answer (.ofSource (train.plan world)) =
      live.weight := by
  have light := trial.light
  rw [sum_grossKg] at light
  have unladen : (VehicleSummary.ofList train.vehicles).weight.toInt =
      (train.vehicles.map VehicleSummary.tareKg).sum := by
    rw [VehicleSummary.weight_ofList]
    omega
  have total_eq : Int32.ofIntClamp ((VehicleSummary.ofList train.vehicles).weight.toInt +
      (Int32.ofNat train.payload).toInt) = .ofNat (train.cars.map grossKg).sum := by
    apply Int32.toInt_inj.mp
    rw [toInt_ofIntClamp32, WeightSummary.toInt_ofNat32 trial.light,
      WeightSummary.toInt_ofNat32 (by omega), unladen, sum_grossKg]
    omega
  rw [trial.live_weight_eq live_eq, WeightSummary.block, ← total_eq, ← (trial.plan_way world).2]
  rfl

end Trial

/-- A plan and its run answer alike: the plan weighs with the payload what the run weighs, and top
speed, haulage limits, braking distances and motion are the same for every weight, slope, speed,
request and state.  The payload of the full train is the heaviest load of the freight summary
exactly if a word holds it. -/
theorem plan_as_run {train : Train} {way : Way} {kmh : Int32} {line : Bool}
    (trial : train.Trial way kmh line) (world : World) :
    ∃ live, train.live world = .ok live ∧
      ∀ (plan : Memo Consist) (run : Memo LiveConvoy),
        plan.source = train.plan world → plan.cache.Agrees plan.source →
        run.source = live → run.cache.AgreesLoaded run.source →
        (plan.ask (.weightWithLoad (.ofNat train.payload))).1 = run.askWeight.1 ∧
        ((train.fill.payload : Int) = run.askFreight.1.heaviest.toInt ↔
          train.fill.payload ≤ 2147483647) ∧
        (plan.ask .vehicle).1 = (run.ask .vehicle).1 ∧
        plan.askFreight.1 = run.askFreight.1 ∧
        (∀ weight, (plan.ask (.maxSpeed weight)).1 = (run.ask (.maxSpeed weight)).1) ∧
        (∀ slope, (plan.ask (.maxStartingWeight slope)).1 =
          (run.ask (.maxStartingWeight slope)).1) ∧
        (∀ slope, (plan.ask (.maxWeight slope)).1 = (run.ask (.maxWeight slope)).1) ∧
        (∀ weight velocity, (plan.ask (.brakingMetres weight velocity)).1 =
          (run.ask (.brakingMetres weight velocity)).1) ∧
        (∀ mapScale weight speed, (plan.ask (.brakingSteps mapScale weight speed)).1 =
          (run.ask (.brakingSteps mapScale weight speed)).1) ∧
        ∀ request weight state, (plan.ask (.move request weight state)).1 =
          (run.ask (.move request weight state)).1 := by
  have nonempty : train.vehicles ≠ [] := fun no_vehicles =>
    trial.nonempty (List.map_eq_nil_iff.mp no_vehicles)
  obtain ⟨live, live_eq, -, -⟩ := live_of_vehicles nonempty world
  have vehicles_eq := (Convoy.vehicles_of_live live_eq).1
  have same := trial.speedLimit_eq world
  refine ⟨live, live_eq, fun plan run plan_eq plan_agrees run_eq run_agrees => ?_⟩
  have plan_freight : plan.askFreight.1 = .ofList train.vehicles := by
    have fresh : plan.freight = Source.freightSummary plan.source :=
      Memo.getD_of_agrees plan_agrees.freight
    exact fresh.trans (by rw [plan_eq]; rfl)
  have run_freight : run.askFreight.1 = .ofList train.vehicles := by
    have fresh : run.freight = Source.freightSummary run.source :=
      Memo.getD_of_agrees run_agrees.freight
    exact fresh.trans (by rw [run_eq, ← vehicles_eq]; rfl)
  have run_weight : run.askWeight.1 = live.weight := by
    rw [Memo.askWeight_answer run_agrees, run_eq]
    rfl
  simp only [Memo.ask_answer plan_agrees, Memo.ask_answer run_agrees.toAgrees, plan_eq, run_eq,
    trial.ofSource_eq live_eq, plan_freight, run_freight, run_weight]
  exact ⟨trial.weight_eq live_eq, train.payload_fill_eq_iff, rfl, trivial,
    fun weight => (Profile.maxSpeed_withLimit same weight).symm,
    fun slope => (Profile.maxStartingWeight_withLimit slope).symm,
    fun slope => (Profile.maxWeight_withLimit same slope).symm,
    fun weight velocity => (Profile.brakingMetres_withLimit weight velocity).symm,
    fun mapScale weight speed => (Profile.brakingSteps_withLimit mapScale weight speed).symm,
    fun request weight state => (Profile.move_withLimit same request weight state).symm⟩

/-- An ore train runs at 80 km/h with its 140 tonnes, because it does so on paper. -/
theorem ore_train_runs_as_planned :
    let train : Train :=
      ⟨[⟨.engine "Freight" .track 80 120 1500, 0, .flat .track 90⟩,
        ⟨.wagon "Ore" .track 20 80 40 (.uniform 1000), 40000, .flat .track 90⟩]⟩
    ∃ live, train.live {} = .ok live ∧
      live.weight = .block .track 140000 ∧
      ((⟨live, .empty⟩ : Memo LiveConvoy).ask (.maxSpeed (.block .track 140000))).1 = 80 := by
  intro train
  have trial : train.Trial .track 90 false :=
    { nonempty := List.cons_ne_nil _ _
      built_for := by decide
      stands := by decide
      wired := by decide
      slow := ⟨_, List.mem_cons_of_mem _ List.mem_cons_self, by decide⟩
      light := by decide }
  obtain ⟨live, live_eq, alike⟩ := plan_as_run trial {}
  obtain ⟨weight_eq, -, -, -, maxSpeed_eq, -⟩ := alike ⟨train.plan {}, .empty⟩ ⟨live, .empty⟩ rfl
    (Cache.agrees_empty _) rfl (Cache.agreesLoaded_empty _)
  refine ⟨live, live_eq, Eq.trans weight_eq.symm (by decide +kernel), ?_⟩
  rw [← maxSpeed_eq]
  decide +kernel

/-- The freight summary of a wagon for three million tonnes is clamped to a word, but its load is
not. -/
theorem payload_beyond_a_word :
    let train : Train := .ofVehicles [.wagon "Ore" .track 20 80 3000000 (.uniform 1000)]
    train.Trial .track 80 false ∧ (∀ vehicle ∈ train.vehicles, vehicle.validate = .ok ()) ∧
      train.fill.payload = 3000000000 ∧
      (FreightSummary.ofList train.vehicles).heaviest = 2147483647 ∧
      (train.fill.payload : Int) ≠ (FreightSummary.ofList train.vehicles).heaviest.toInt := by
  intro train
  have trial : train.Trial .track 80 false :=
    { nonempty := List.cons_ne_nil _ _
      built_for := by decide
      stands := by decide
      wired := by decide
      slow := ⟨_, List.mem_cons_self, by decide⟩
      light := by decide }
  exact ⟨trial, by decide, by decide, by decide, by decide⟩

end Train

end Haulage
