import Haulage.LiveConvoy
import Haulage.Proofs.Conversions

/-!
# Traction falls and drag rises

The traction of any list of vehicles does not rise with the speed, and the drag does not fall.  So a
velocity that traction sustains is sustained by every lower one too.
-/

namespace Haulage

open Fixed

/-- The clamped sum of a list from a start on. -/
theorem foldl_clamped_mono {α : Type} (items : List α) {low high : α → Int}
    (pointwise : ∀ item ∈ items, low item ≤ high item) {start start' : Int64}
    (start_le : start.toInt ≤ start'.toInt) :
    ((items.map low).foldl (fun sum index => Int64.ofIntClamp (sum.toInt + index)) start).toInt ≤
      ((items.map high).foldl
        (fun sum index => Int64.ofIntClamp (sum.toInt + index)) start').toInt := by
  induction items generalizing start start' with
  | nil => exact start_le
  | cons item items ih =>
    simp only [List.map_cons, List.foldl_cons]
    apply ih fun other other_mem => pointwise other (List.mem_cons_of_mem item other_mem)
    have item_le := pointwise item List.mem_cons_self
    rw [toInt_ofIntClamp64, toInt_ofIntClamp64]
    omega

theorem clampedSum_mono {α : Type} (items : List α) {low high : α → Int}
    (pointwise : ∀ item ∈ items, low item ≤ high item) :
    (clampedSum (items.map low)).toInt ≤ (clampedSum (items.map high)).toInt :=
  foldl_clamped_mono items pointwise le_rfl

theorem World.valueOfIndex_mono (world : World) {a b : Int64} (le : a.toInt ≤ b.toInt) :
    world.valueOfIndex a ≤ world.valueOfIndex b := by
  have product_le : a.toInt * world.powerPercent.toNat ≤ b.toInt * world.powerPercent.toNat :=
    Int.mul_le_mul_of_nonneg_right le (Int.natCast_nonneg _)
  have clamped_le : (Int64.ofIntClamp (a.toInt * world.powerPercent.toNat)).toInt ≤
      (Int64.ofIntClamp (b.toInt * world.powerPercent.toNat)).toInt := by
    rw [toInt_ofIntClamp64, toInt_ofIntClamp64]
    omega
  exact Int.tdiv_le_tdiv (by decide) clamped_le

/-- Traction of one vehicle does not rise with the speed. -/
theorem Vehicle.forceIndex_anti (vehicle : Vehicle) {slow fast : UInt32}
    (le : slow.toNat ≤ fast.toNat) : vehicle.forceIndex fast ≤ vehicle.forceIndex slow := by
  unfold Vehicle.forceIndex
  simp only
  split
  · split
    · next fast_zero =>
      have slow_zero : slow = 0 := by
        apply UInt32.toNat_inj.mp
        rw [fast_zero] at le
        simpa using le
      rw [if_pos slow_zero]
    · split
      · exact min_le_left _ _
      · next slow_pos =>
        have slow_nat_pos : 0 < slow.toNat :=
          Nat.pos_of_ne_zero fun zero => slow_pos (UInt32.toNat_inj.mp (by simpa using zero))
        exact min_le_min le_rfl (Nat.div_le_div_left le slow_nat_pos)
  · exact le_rfl

theorem Curves.totalForce_anti (vehicles : List Vehicle) (world : World) {slow fast : UInt32}
    (le : slow.toNat ≤ fast.toNat) :
    (totalForce vehicles world fast).toInt ≤ (totalForce vehicles world slow).toInt := by
  apply ofIntClamp32_mono
  apply world.valueOfIndex_mono
  apply clampedSum_mono
  intro vehicle _
  exact Int.ofNat_le.mpr (vehicle.forceIndex_anti le)

theorem raw_thousand (value : Int32) : (thousand value).raw = value.toInt * 1048576000 := by
  have low := value.le_toInt
  have high := value.toInt_lt
  rw [thousand, mulInt, raw_ofInt32, raw_saturate_of_fits]
  · omega
  · simp only [limit]
    omega
  · simp only [limit]
    omega

theorem thousand_mono {a b : Int32} (le : a.toInt ≤ b.toInt) : thousand a ≤ thousand b := by
  rw [le_def, raw_thousand, raw_thousand]
  omega

theorem toNat_ofInt32 {n : Int} (nonneg : 0 ≤ n) (fits : n ≤ 4294967295) :
    (UInt32.ofInt n).toNat = n.toNat := by
  rw [UInt32.ofInt, UInt32.toNat_ofNat']
  omega

theorem toNat_speedIndex {velocity : Fixed} (nonneg : zero ≤ velocity) :
    (speedIndex velocity).toNat = (min (velocity.raw / 1048576) 4294967295).toNat := by
  rw [nonneg_iff] at nonneg
  have whole_nonneg : 0 ≤ velocity.raw / 1048576 := Int.ediv_nonneg nonneg (by decide)
  have abs_eq : velocity.abs = velocity := by rw [Fixed.abs, if_neg (by omega)]
  have trunc_eq : velocity.trunc = velocity.raw / 1048576 := Int.tdiv_eq_ediv_of_nonneg nonneg
  rw [speedIndex, abs_eq, trunc_eq]
  exact toNat_ofInt32 (by omega) (by omega)

theorem speedIndex_mono {slow fast : Fixed} (nonneg : zero ≤ slow) (le : slow ≤ fast) :
    (speedIndex slow).toNat ≤ (speedIndex fast).toNat := by
  rw [toNat_speedIndex nonneg, toNat_speedIndex (nonneg.trans le)]
  rw [le_def] at le
  omega

theorem speedIndex_zero : speedIndex zero = 0 := by decide

theorem Profile.traction_zero (profile : Profile) :
    profile.traction zero = profile.startingForce := by
  rw [traction, if_pos speedIndex_zero]

theorem Profile.drag_zero (profile : Profile) : profile.drag zero = zero := by
  rw [drag, Fixed.mul_comm, Fixed.zero_mul]

/-- A profile as any list of vehicles has it: traction falls with the speed, drag does not push, and
no rated speed is above the one that stands for "unlimited". -/
structure Profile.Regular (profile : Profile) : Prop where
  /-- The traction at standstill is that of the curves. -/
  startingForce_eq : profile.startingForce = profile.curves.startingForce
  /-- Traction does not rise with the speed. -/
  force_anti : ∀ slow fast : UInt32, slow.toNat ≤ fast.toNat →
    (profile.curves.force fast).toInt ≤ (profile.curves.force slow).toInt
  /-- Drag does not push. -/
  drag_nonneg : zero ≤ profile.adverse.drag
  /-- The rated speed is at most the one that stands for "unlimited". -/
  maxSpeed_le : profile.vehicle.maxSpeed ≤ Units.unlimitedKmh

namespace VehicleSummary

theorem maxSpeed_foldl_le (vehicles : List Vehicle) (summary : VehicleSummary) :
    (vehicles.foldl add summary).maxSpeed.toInt ≤ summary.maxSpeed.toInt := by
  induction vehicles generalizing summary with
  | nil => exact le_rfl
  | cons vehicle vehicles ih =>
    apply (ih (summary.add vehicle)).trans
    rw [add, toInt_min32]
    exact min_le_left _ _

theorem maxSpeed_ofList_le (vehicles : List Vehicle) :
    (ofList vehicles).maxSpeed ≤ Units.unlimitedKmh :=
  Int32.le_iff_toInt_le.mpr (maxSpeed_foldl_le vehicles {})

end VehicleSummary

theorem Way.drag_nonneg (way : Way) : zero ≤ way.resistance.drag := by
  cases way <;> decide

namespace AdverseSummary

theorem drag_le_add (summary : AdverseSummary) (context : WayContext) (electric : Bool) :
    summary.drag ≤ (summary.add context electric).drag :=
  le_max_left _ _

end AdverseSummary

/-- Something that knows the vehicles of a convoy by their catalog entries. -/
class VehicleSource (σ : Type) [Source σ] where
  /-- The catalog entries, front first. -/
  vehicles : σ → List Vehicle
  /-- Map and engines. -/
  world : σ → World
  /-- The summary of the vehicles is that of the entries. -/
  vehicleSummary_eq : ∀ source : σ, Source.vehicleSummary source = .ofList (vehicles source)
  /-- So are the curves. -/
  curves_eq : ∀ source : σ, Source.curves source = .ofVehicles (vehicles source) (world source)
  /-- Drag does not push. -/
  drag_nonneg : ∀ source : σ, zero ≤ (Source.adverseSummary source).drag

namespace Consist

theorem drag_nonneg (consist : Consist) : zero ≤ consist.adverse.drag := by
  unfold adverse
  split
  · exact le_rfl
  · exact Way.drag_nonneg _

instance : VehicleSource Consist where
  vehicles := Consist.vehicles
  world := Consist.world
  vehicleSummary_eq _ := rfl
  curves_eq _ := rfl
  drag_nonneg := drag_nonneg

end Consist

namespace LiveConvoy

theorem drag_foldl_nonneg (cars : List LiveCar) {summary : AdverseSummary}
    (nonneg : zero ≤ summary.drag) :
    zero ≤ (cars.foldl (fun summary car => summary.add car.context car.vehicle.electric)
      summary).drag := by
  induction cars generalizing summary with
  | nil => exact nonneg
  | cons car cars ih => exact ih (nonneg.trans (summary.drag_le_add _ _))

instance : VehicleSource LiveConvoy where
  vehicles := LiveConvoy.vehicles
  world := LiveConvoy.world
  vehicleSummary_eq _ := rfl
  curves_eq _ := rfl
  drag_nonneg convoy := drag_foldl_nonneg convoy.cars le_rfl

end LiveConvoy

theorem VehicleSource.regular {σ : Type} [Source σ] [VehicleSource σ] (source : σ) :
    (Profile.ofSource source).Regular where
  startingForce_eq := rfl
  force_anti slow fast le := by
    change ((Source.curves source).force fast).toInt ≤ ((Source.curves source).force slow).toInt
    rw [VehicleSource.curves_eq source]
    exact Curves.totalForce_anti _ _ le
  drag_nonneg := VehicleSource.drag_nonneg source
  maxSpeed_le := by
    change (Source.vehicleSummary source).maxSpeed ≤ _
    rw [VehicleSource.vehicleSummary_eq source]
    exact VehicleSummary.maxSpeed_ofList_le _

namespace Profile.Regular

variable {profile : Profile} {slow fast resistance : Fixed}

theorem traction_eq (regular : profile.Regular) (velocity : Fixed) :
    profile.traction velocity = thousand (profile.curves.force (speedIndex velocity)) := by
  unfold traction
  simp only
  split
  · next standing => rw [regular.startingForce_eq, Curves.startingForce, standing]
  · rfl

/-- Traction does not rise with the speed. -/
theorem traction_anti (regular : profile.Regular) (nonneg : zero ≤ slow) (le : slow ≤ fast) :
    profile.traction fast ≤ profile.traction slow := by
  rw [regular.traction_eq, regular.traction_eq]
  exact thousand_mono (regular.force_anti _ _ (speedIndex_mono nonneg le))

/-- Drag does not fall with the speed. -/
theorem drag_mono (regular : profile.Regular) (nonneg : zero ≤ slow) (le : slow ≤ fast) :
    profile.drag slow ≤ profile.drag fast := by
  have product_le := mul_le_mul_left regular.drag_nonneg le
  have product_nonneg := mul_nonneg regular.drag_nonneg (nonneg.trans le)
  exact (mul_le_mul_right product_le nonneg).trans (mul_le_mul_left product_nonneg le)

theorem drag_velocity_nonneg (regular : profile.Regular) {velocity : Fixed}
    (nonneg : zero ≤ velocity) : zero ≤ profile.drag velocity :=
  mul_nonneg (mul_nonneg regular.drag_nonneg nonneg) nonneg

/-- What traction sustains at a velocity it sustains at every lower one. -/
theorem sustains_of_le (regular : profile.Regular) (nonneg : zero ≤ slow) (le : slow ≤ fast)
    (sustained : profile.sustains resistance fast = true) :
    profile.sustains resistance slow = true := by
  rw [sustains, decide_eq_true_eq] at sustained ⊢
  exact (add_le_add (regular.drag_mono nonneg le) le_rfl).trans
    (sustained.trans (regular.traction_anti nonneg le))

end Profile.Regular

end Haulage
