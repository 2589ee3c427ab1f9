import Haulage.Proofs.Inclines
import Mathlib.Algebra.BigOperators.Group.List.Lemmas
import Mathlib.Algebra.Order.BigOperators.Group.List

/-!
# Sums of weights on slopes

A weight on a slope adds a whole number of 2⁻²⁰ths of a kg to both parts, so no step of the sum is
rounded, and up to the largest 32-bit number of kg none is clamped.  The summary is then three plain
sums, which neither the order of the weights nor their grouping changes.
-/

namespace Haulage

open Fixed

namespace WeightSummary

/-- A weight that stands on a slope. -/
structure Load where
  /-- The weight in kg. -/
  kg : Int32
  /-- The slope in thousandths. -/
  slope : Int32

/-- The summary of some weights, one after another. -/
def ofLoads (loads : List Load) : WeightSummary :=
  loads.foldl (fun summary load => summary.add load.kg load.slope) {}

/-- What the weights come to in kg, however heavy. -/
def totalKg (loads : List Load) : Int := (loads.map fun load => load.kg.toInt).sum

/-- What their parts come to, if `part` counts those of one kg on a slope. -/
def totalPart (part : Int32 → Int) (loads : List Load) : Int :=
  (loads.map fun load => load.kg.toInt * part load.slope).sum

/-- No weight is negative, and together a word holds them. -/
structure Light (loads : List Load) : Prop where
  /-- No weight is negative. -/
  nonneg : ∀ load ∈ loads, 0 ≤ load.kg.toInt
  /-- A word holds their sum. -/
  fits : totalKg loads ≤ 2147483647

theorem eq_of_parts {first second : WeightSummary} (weight_eq : first.weight = second.weight)
    (across_eq : first.across = second.across) (along_eq : first.along = second.along) :
    first = second := by
  cases first
  cases second
  simp_all only

theorem totalKg_nonneg {loads : List Load} (nonneg : ∀ load ∈ loads, 0 ≤ load.kg.toInt) :
    0 ≤ totalKg loads :=
  List.sum_nonneg (List.forall_mem_map.mpr nonneg)

theorem totalKg_append (front back : List Load) :
    totalKg (front ++ back) = totalKg front + totalKg back := by
  simp only [totalKg, List.map_append, List.sum_append]

theorem totalPart_append (part : Int32 → Int) (front back : List Load) :
    totalPart part (front ++ back) = totalPart part front + totalPart part back := by
  simp only [totalPart, List.map_append, List.sum_append]

theorem totalKg_singleton (load : Load) : totalKg [load] = load.kg.toInt := List.sum_singleton

theorem totalPart_singleton (part : Int32 → Int) (load : Load) :
    totalPart part [load] = load.kg.toInt * part load.slope := List.sum_singleton

theorem Light.append {front back : List Load} (light : Light (front ++ back)) :
    Light front ∧ Light back := by
  obtain ⟨nonneg, fits⟩ := light
  rw [List.forall_mem_append] at nonneg
  have front_nonneg := totalKg_nonneg nonneg.1
  have back_nonneg := totalKg_nonneg nonneg.2
  rw [totalKg_append] at fits
  exact ⟨⟨nonneg.1, by omega⟩, ⟨nonneg.2, by omega⟩⟩

theorem totalPart_bounds {part : Int32 → Int}
    (bounds : ∀ slope, -1048576 ≤ part slope ∧ part slope ≤ 1048576) {loads : List Load}
    (nonneg : ∀ load ∈ loads, 0 ≤ load.kg.toInt) :
    totalKg loads * -1048576 ≤ totalPart part loads ∧
      totalPart part loads ≤ totalKg loads * 1048576 := by
  rw [totalKg, totalPart, ← List.sum_map_mul_right, ← List.sum_map_mul_right]
  constructor
  · apply List.sum_le_sum
    intro load load_mem
    exact Int.mul_le_mul_of_nonneg_left (bounds load.slope).1 (nonneg load load_mem)
  · apply List.sum_le_sum
    intro load load_mem
    exact Int.mul_le_mul_of_nonneg_left (bounds load.slope).2 (nonneg load load_mem)

/-- A summary that is exact: nothing was rounded or clamped in it. -/
structure Sums (summary : WeightSummary) (loads : List Load) : Prop where
  /-- The gross weight. -/
  weight_eq : summary.weight.toInt = totalKg loads
  /-- The part across the slopes. -/
  across_eq : summary.across.raw = totalPart cosineCount loads
  /-- The part along the slopes. -/
  along_eq : summary.along.raw = totalPart sineCount loads

theorem cosineCount_bounds_symm (slope : Int32) :
    -1048576 ≤ cosineCount slope ∧ cosineCount slope ≤ 1048576 := by
  have cosine := cosineCount_bounds slope
  omega

/-- One more weight is added exactly. -/
theorem Sums.add {summary : WeightSummary} {loads : List Load} (sums : summary.Sums loads)
    {load : Load} (light : Light (loads ++ [load])) :
    (summary.add load.kg load.slope).Sums (loads ++ [load]) := by
  obtain ⟨nonneg, fits⟩ := light
  rw [List.forall_mem_append, List.forall_mem_singleton] at nonneg
  rw [totalKg_append, totalKg_singleton] at fits
  have total_nonneg := totalKg_nonneg nonneg.1
  have across := totalPart_bounds cosineCount_bounds_symm nonneg.1
  have along := totalPart_bounds sineCount_bounds nonneg.1
  rw [← sums.across_eq] at across
  rw [← sums.along_eq] at along
  have parts := add_parts summary (by omega) (by omega) nonneg.2 load.slope
  constructor
  · rw [totalKg_append, totalKg_singleton, weight_add, toInt_ofIntClamp32, sums.weight_eq]
    omega
  · rw [totalPart_append, totalPart_singleton, ← sums.across_eq]
    exact parts.1
  · rw [totalPart_append, totalPart_singleton, ← sums.along_eq]
    exact parts.2

/-- Up to the largest number of a word the summary is exact. -/
theorem sums_ofLoads {loads : List Load} (light : Light loads) : (ofLoads loads).Sums loads := by
  induction loads using List.reverseRecOn with
  | nil => exact ⟨rfl, rfl, rfl⟩
  | append_singleton loads load ih =>
    rw [ofLoads, List.foldl_concat]
    exact (ih light.append.1).add light

/-- The same sums, whatever a kg counts on each slope. -/
structure SameSums (first second : List Load) : Prop where
  /-- They weigh the same. -/
  kg_eq : totalKg first = totalKg second
  /-- So do their parts. -/
  part_eq : ∀ part, totalPart part first = totalPart part second

theorem ofLoads_eq_of_sameSums {first second : List Load} (first_light : Light first)
    (second_light : Light second) (same : SameSums first second) :
    ofLoads first = ofLoads second := by
  have sums := sums_ofLoads first_light
  have others := sums_ofLoads second_light
  have weight_eq : (ofLoads first).weight = (ofLoads second).weight := by
    apply Int32.toInt_inj.mp
    rw [sums.weight_eq, others.weight_eq, same.kg_eq]
  have across_eq : (ofLoads first).across = (ofLoads second).across := by
    apply ext_raw
    rw [sums.across_eq, others.across_eq, same.part_eq]
  have along_eq : (ofLoads first).along = (ofLoads second).along := by
    apply ext_raw
    rw [sums.along_eq, others.along_eq, same.part_eq]
  exact eq_of_parts weight_eq across_eq along_eq

theorem sameSums_of_perm {first second : List Load} (reordered : first.Perm second) :
    SameSums first second where
  kg_eq := (reordered.map _).sum_eq
  part_eq _ := (reordered.map _).sum_eq

theorem Light.perm {first second : List Load} (light : Light first)
    (reordered : first.Perm second) : Light second where
  nonneg load load_mem := light.nonneg load (reordered.mem_iff.mpr load_mem)
  fits := (sameSums_of_perm reordered).kg_eq ▸ light.fits

/-- Several weights on one slope, as one. -/
def merged (kgs : List Int32) (slope : Int32) : Load :=
  ⟨.ofInt (kgs.map Int32.toInt).sum, slope⟩

/-- Several weights on one slope, one by one. -/
def apart (kgs : List Int32) (slope : Int32) : List Load := kgs.map fun kg => ⟨kg, slope⟩

theorem totalKg_apart (kgs : List Int32) (slope : Int32) :
    totalKg (apart kgs slope) = (kgs.map Int32.toInt).sum := by
  rw [totalKg, apart, List.map_map]
  rfl

theorem totalPart_apart (part : Int32 → Int) (kgs : List Int32) (slope : Int32) :
    totalPart part (apart kgs slope) = (kgs.map Int32.toInt).sum * part slope := by
  rw [totalPart, apart, List.map_map, ← List.sum_map_mul_right]
  rfl

theorem toInt_merged {kgs : List Int32} {slope : Int32} (light : Light (apart kgs slope)) :
    (merged kgs slope).kg.toInt = (kgs.map Int32.toInt).sum := by
  have total_nonneg := totalKg_nonneg light.nonneg
  have total_fits := light.fits
  rw [totalKg_apart] at total_nonneg total_fits
  exact Int32.toInt_ofInt_of_le (by omega) (by omega)

theorem sameSums_merged {kgs : List Int32} {slope : Int32} (light : Light (apart kgs slope))
    (rest : List Load) :
    SameSums (apart kgs slope ++ rest) (merged kgs slope :: rest) := by
  rw [← List.singleton_append (l := rest)]
  constructor
  · rw [totalKg_append, totalKg_append, totalKg_singleton, toInt_merged light, totalKg_apart]
  · intro part
    rw [totalPart_append, totalPart_append, totalPart_singleton, toInt_merged light,
      totalPart_apart]
    rfl

theorem Light.merge {kgs : List Int32} {slope : Int32} {rest : List Load}
    (light : Light (apart kgs slope ++ rest)) : Light (merged kgs slope :: rest) := by
  have same := sameSums_merged light.append.1 rest
  have merged_nonneg : 0 ≤ (merged kgs slope).kg.toInt := by
    rw [toInt_merged light.append.1, ← totalKg_apart kgs slope]
    exact totalKg_nonneg light.append.1.nonneg
  exact ⟨List.forall_mem_cons.mpr ⟨merged_nonneg, light.append.2.nonneg⟩, same.kg_eq ▸ light.fits⟩

/-- Weights on one slope may be summed up before they are added, wherever they stand. -/
theorem ofLoads_merge {kgs : List Int32} {slope : Int32} {rest first second : List Load}
    (light : Light first) (first_perm : first.Perm (apart kgs slope ++ rest))
    (second_perm : second.Perm (merged kgs slope :: rest)) : ofLoads first = ofLoads second := by
  have parted := light.perm first_perm
  calc ofLoads first = ofLoads (apart kgs slope ++ rest) :=
        ofLoads_eq_of_sameSums light parted (sameSums_of_perm first_perm)
    _ = ofLoads (merged kgs slope :: rest) :=
        ofLoads_eq_of_sameSums parted parted.merge (sameSums_merged parted.append.1 rest)
    _ = ofLoads second :=
        ofLoads_eq_of_sameSums parted.merge (parted.merge.perm second_perm.symm)
          (sameSums_of_perm second_perm.symm)

end WeightSummary

end Haulage
