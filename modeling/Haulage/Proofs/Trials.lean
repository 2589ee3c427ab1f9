import Haulage.Proofs.TopSpeed

/-!
# How many speeds are tried

The search for the top speed tries a speed in each stride, and then every speed in the stride that
failed.  A speed is tried just if the answer hangs on it, that is, if the answer is another one once
the test at this speed alone comes out the other way.  The strides are cut off to whole km/h, so 64
of them need not reach the cap: they do if 64 divides it, and else up to 63 more are tried.
-/

namespace Haulage

namespace Profile

/-- The speeds that the coarse search tries, in order. -/
def coarseTrials (holds : Int32 → Bool) (cap stride : Int32) : Nat → Int32 → List Int32
  | 0, _ => []
  | fuel + 1, sustained =>
      let trial := min (sustained + stride) cap
      if holds trial then
        if cap ≤ trial then [trial] else trial :: coarseTrials holds cap stride fuel trial
      else
        [trial]

/-- The speeds that the fine search tries, in order. -/
def fineTrials (holds : Int32 → Bool) : Nat → Int32 → List Int32
  | 0, _ => []
  | count + 1, kmh => kmh :: if holds kmh then fineTrials holds count (kmh + 1) else []

/-- The speeds that a search for the top speed tries. -/
structure Trials where
  /-- Those of the coarse search. -/
  coarse : List Int32
  /-- Those of the fine search. -/
  fine : List Int32

/-- The speeds that the search for the highest speed up to a cap tries. -/
def searchTrials (holds : Int32 → Bool) (cap : Int32) : Trials where
  coarse := coarseTrials holds cap (coarseStride cap) 4294967296 0
  fine :=
    match coarseSearch holds cap (coarseStride cap) 4294967296 0 with
    | .reachedCap => []
    | .failed sustained failed =>
        fineTrials holds (failed.toInt - sustained.toInt - 1).toNat (sustained + 1)

/-- A coarse search that has got to a speed below the cap. -/
structure Searching (cap stride sustained : Int32) : Prop where
  cap_le : cap.toInt ≤ 300000
  stride_pos : 0 < stride.toInt
  stride_le : stride.toInt ≤ 300000
  nonneg : 0 ≤ sustained.toInt
  below : sustained.toInt < cap.toInt

section Search

variable {holds other : Int32 → Bool} {cap stride sustained kmh tried : Int32}
  {fuel count index : Nat}

namespace Searching

theorem toInt_trial (searching : Searching cap stride sustained) :
    (min (sustained + stride) cap).toInt = min (sustained.toInt + stride.toInt) cap.toInt := by
  obtain ⟨cap_le, stride_pos, stride_le, nonneg, below⟩ := searching
  rw [toInt_min32, toInt_add32 (by omega) (by omega)]

theorem next (searching : Searching cap stride sustained)
    (short : ¬ cap ≤ min (sustained + stride) cap) :
    Searching cap stride (min (sustained + stride) cap) where
  cap_le := searching.cap_le
  stride_pos := searching.stride_pos
  stride_le := searching.stride_le
  nonneg := by
    have trial_eq := searching.toInt_trial
    obtain ⟨-, stride_pos, -, nonneg, below⟩ := searching
    omega
  below := by
    rw [Int32.le_iff_toInt_le] at short
    omega

theorem start (cap_pos : 0 < cap.toInt) (cap_le : cap ≤ Units.unlimitedKmh) :
    Searching cap (coarseStride cap) 0 where
  cap_le := Int32.le_iff_toInt_le.mp cap_le
  stride_pos := (coarseStride_bounds cap_pos cap_le).1
  stride_le := (coarseStride_bounds cap_pos cap_le).2
  nonneg := le_rfl
  below := cap_pos

/-- The fuel lasts to the cap. -/
theorem room (searching : Searching cap stride sustained) :
    cap.toInt - sustained.toInt ≤ (4294967296 : Nat) := by
  obtain ⟨cap_le, -, -, nonneg, -⟩ := searching
  omega

end Searching

/-- One stride: the trial fails, or it is the cap and holds, or the search goes on from it. -/
theorem coarse_step (holds : Int32 → Bool) (searching : Searching cap stride sustained)
    (fuel : Nat) :
    let trial := min (sustained + stride) cap
    (holds trial = false ∧
        coarseSearch holds cap stride (fuel + 1) sustained = .failed sustained trial ∧
        coarseTrials holds cap stride (fuel + 1) sustained = [trial]) ∨
      (holds trial = true ∧ trial = cap ∧
        coarseSearch holds cap stride (fuel + 1) sustained = .reachedCap ∧
        coarseTrials holds cap stride (fuel + 1) sustained = [trial]) ∨
      (holds trial = true ∧ trial.toInt = sustained.toInt + stride.toInt ∧
        Searching cap stride trial ∧
        coarseSearch holds cap stride (fuel + 1) sustained =
          coarseSearch holds cap stride fuel trial ∧
        coarseTrials holds cap stride (fuel + 1) sustained =
          trial :: coarseTrials holds cap stride fuel trial) := by
  intro trial
  have trial_eq : trial.toInt = min (sustained.toInt + stride.toInt) cap.toInt :=
    searching.toInt_trial
  cases held : holds trial with
  | false =>
    exact .inl ⟨rfl, by simp [coarseSearch, trial, held], by simp [coarseTrials, trial, held]⟩
  | true =>
    by_cases reached : cap ≤ trial
    · have trial_cap : trial = cap := Int32.toInt_inj.mp (by
        rw [Int32.le_iff_toInt_le] at reached
        omega)
      exact .inr (.inl ⟨rfl, trial_cap, by simp [coarseSearch, trial, held, reached],
        by simp [coarseTrials, trial, held, reached]⟩)
    · refine .inr (.inr ⟨rfl, ?_, searching.next reached,
        by simp [coarseSearch, trial, held, reached],
        by simp [coarseTrials, trial, held, reached]⟩)
      rw [Int32.le_iff_toInt_le] at reached
      omega

/-- Each coarse trial is one stride further than the last, but for one cut off at the cap. -/
theorem getElem?_coarseTrials (searching : Searching cap stride sustained)
    (tried : (coarseTrials holds cap stride fuel sustained)[index]? = some kmh) :
    kmh.toInt = min (sustained.toInt + (index + 1) * stride.toInt) cap.toInt ∧
      sustained.toInt + index * stride.toInt < cap.toInt := by
  induction fuel generalizing sustained index with
  | zero => simp [coarseTrials] at tried
  | succ fuel ih =>
    have trial_eq := searching.toInt_trial
    have below := searching.below
    cases index with
    | zero =>
      have first : kmh = min (sustained + stride) cap := by
        rcases coarse_step holds searching fuel with
          ⟨-, -, trials_eq⟩ | ⟨-, -, -, trials_eq⟩ | ⟨-, -, -, -, trials_eq⟩ <;>
        · rw [trials_eq] at tried
          exact (Option.some.inj tried).symm
      rw [first, trial_eq]
      simpa using below
    | succ index =>
      rcases coarse_step holds searching fuel with
        ⟨-, -, trials_eq⟩ | ⟨-, -, -, trials_eq⟩ | ⟨-, strided, onward, -, trials_eq⟩
      · simp [trials_eq] at tried
      · simp [trials_eq] at tried
      · rw [trials_eq, List.getElem?_cons_succ] at tried
        obtain ⟨kmh_eq, fewer⟩ := ih onward tried
        rw [strided] at kmh_eq fewer
        simp only [Nat.cast_add, Nat.cast_one, Int.add_mul, Int.one_mul] at *
        omega

/-- All strides but the last end below the cap. -/
theorem length_coarseTrials_lt (holds : Int32 → Bool) (fuel : Nat)
    (searching : Searching cap stride sustained) :
    ((coarseTrials holds cap stride fuel sustained).length - 1) * stride.toInt <
      cap.toInt - sustained.toInt := by
  have below := searching.below
  rcases Nat.eq_zero_or_pos (coarseTrials holds cap stride fuel sustained).length with none | some
  · have := searching.stride_pos
    rw [none]
    omega
  · have last := List.getElem?_eq_getElem (Nat.sub_one_lt_of_lt some)
    obtain ⟨-, fewer⟩ := getElem?_coarseTrials searching last
    rw [Nat.cast_sub some] at fewer
    push_cast at fewer
    omega

/-- A coarse search that fails does so within one stride. -/
theorem coarseSearch_failed (searching : Searching cap stride sustained) {last failed : Int32}
    (stopped : coarseSearch holds cap stride fuel sustained = .failed last failed)
    (room : cap.toInt - sustained.toInt ≤ fuel) :
    sustained.toInt ≤ last.toInt ∧ last.toInt < failed.toInt ∧
      failed.toInt ≤ last.toInt + stride.toInt ∧ failed.toInt ≤ cap.toInt := by
  induction fuel generalizing sustained with
  | zero =>
    have := searching.below
    omega
  | succ fuel ih =>
    have trial_eq := searching.toInt_trial
    obtain ⟨-, stride_pos, -, -, below⟩ := id searching
    rcases coarse_step holds searching fuel with
      ⟨-, outcome, -⟩ | ⟨-, -, outcome, -⟩ | ⟨-, strided, onward, outcome, -⟩
    · obtain ⟨rfl, rfl⟩ := Coarse.failed.inj (outcome.symm.trans stopped)
      omega
    · rw [outcome] at stopped
      contradiction
    · have later := ih onward (outcome.symm.trans stopped) (by omega)
      omega

/-- A coarse search that reaches the cap gets there in strides. -/
theorem le_length_coarseTrials (searching : Searching cap stride sustained)
    (reached : coarseSearch holds cap stride fuel sustained = .reachedCap) :
    cap.toInt - sustained.toInt ≤
      (coarseTrials holds cap stride fuel sustained).length * stride.toInt := by
  induction fuel generalizing sustained with
  | zero => contradiction
  | succ fuel ih =>
    rcases coarse_step holds searching fuel with
      ⟨-, outcome, -⟩ | ⟨-, trial_cap, -, trials_eq⟩ | ⟨-, strided, onward, outcome, trials_eq⟩
    · rw [outcome] at reached
      contradiction
    · have trial_eq := searching.toInt_trial
      rw [trial_cap] at trial_eq
      rw [trials_eq, List.length_singleton]
      omega
    · have further := ih onward (outcome.symm.trans reached)
      rw [trials_eq, List.length_cons]
      simp only [Nat.cast_add, Nat.cast_one, Int.add_mul, Int.one_mul]
      omega

/-- A coarse search that reaches the cap tries only speeds that hold. -/
theorem coarse_reached (searching : Searching cap stride sustained)
    (reached : coarseSearch holds cap stride fuel sustained = .reachedCap)
    (mem : tried ∈ coarseTrials holds cap stride fuel sustained) :
    holds tried = true ∧ tried.toInt ≤ cap.toInt := by
  induction fuel generalizing sustained with
  | zero => contradiction
  | succ fuel ih =>
    rcases coarse_step holds searching fuel with
      ⟨-, outcome, -⟩ | ⟨held, trial_cap, -, trials_eq⟩ |
      ⟨held, -, onward, outcome, trials_eq⟩
    · rw [outcome] at reached
      contradiction
    · rw [trials_eq, List.mem_singleton] at mem
      rw [mem]
      exact ⟨held, by rw [trial_cap]⟩
    · rw [trials_eq, List.mem_cons] at mem
      rcases mem with rfl | later
      · exact ⟨held, onward.below.le⟩
      · exact ih onward (outcome.symm.trans reached) later

/-- Of the speeds that a failing coarse search tries, all but the last hold. -/
theorem coarse_failed (searching : Searching cap stride sustained) {last failed : Int32}
    (room : cap.toInt - sustained.toInt ≤ fuel)
    (stopped : coarseSearch holds cap stride fuel sustained = .failed last failed)
    (mem : tried ∈ coarseTrials holds cap stride fuel sustained) :
    holds tried = true ∧ tried.toInt ≤ last.toInt ∨ holds tried = false ∧ tried = failed := by
  induction fuel generalizing sustained with
  | zero => contradiction
  | succ fuel ih =>
    rcases coarse_step holds searching fuel with
      ⟨fails, outcome, trials_eq⟩ | ⟨-, -, outcome, -⟩ |
      ⟨held, strided, onward, outcome, trials_eq⟩
    · rw [trials_eq, List.mem_singleton] at mem
      obtain ⟨-, rfl⟩ := Coarse.failed.inj (outcome.symm.trans stopped)
      exact .inr ⟨by rw [mem]; exact fails, mem⟩
    · rw [outcome] at stopped
      contradiction
    · have room_left : cap.toInt - (min (sustained + stride) cap).toInt ≤ fuel := by
        have := searching.stride_pos
        omega
      rw [outcome] at stopped
      rw [trials_eq, List.mem_cons] at mem
      rcases mem with rfl | later
      · exact .inl ⟨held, (coarseSearch_failed onward stopped room_left).1⟩
      · exact ih onward room_left stopped later

theorem length_fineTrials_le (holds : Int32 → Bool) (count : Nat) (kmh : Int32) :
    (fineTrials holds count kmh).length ≤ count := by
  induction count generalizing kmh with
  | zero => exact le_rfl
  | succ count ih =>
    rw [fineTrials, List.length_cons]
    split
    · exact Nat.succ_le_succ (ih _)
    · simp

/-- The fine search answers with a speed from the one before its first to its last. -/
theorem fineSearch_bounds (holds : Int32 → Bool) (count : Nat) (kmh : Int32) (pos : 0 < kmh.toInt)
    (small : kmh.toInt + count ≤ 300000) :
    kmh.toInt - 1 ≤ (fineSearch holds count kmh).toInt ∧
      (fineSearch holds count kmh).toInt < kmh.toInt + count := by
  have previous := toInt_sub_one32 (a := kmh) (by omega)
  induction count generalizing kmh with
  | zero =>
    rw [fineSearch]
    omega
  | succ count ih =>
    have next_eq := toInt_add_one32 kmh (by omega)
    rw [fineSearch]
    split
    · have later := ih (kmh + 1) (by omega) (by omega) (toInt_sub_one32 (by omega))
      omega
    · omega

/-- The fine search answers below a speed that it tries just if this one fails. -/
theorem fine_tried (pos : 0 < kmh.toInt) (small : kmh.toInt + count ≤ 300000)
    (mem : tried ∈ fineTrials holds count kmh) :
    tried.toInt ≤ (fineSearch holds count kmh).toInt ↔ holds tried = true := by
  induction count generalizing kmh with
  | zero => contradiction
  | succ count ih =>
    have previous := toInt_sub_one32 (a := kmh) (by omega)
    have next_eq := toInt_add_one32 kmh (by omega)
    rw [fineTrials] at mem
    rw [fineSearch]
    cases held : holds kmh with
    | false =>
      obtain rfl : tried = kmh := by simpa [held] using mem
      simp [held, previous]
    | true =>
      rw [held, if_pos rfl, List.mem_cons] at mem
      rw [if_pos rfl]
      rcases mem with rfl | later
      · have reached := (fineSearch_bounds holds count (tried + 1) (by omega) (by omega)).1
        simp only [held, iff_true]
        omega
      · exact ih (by omega) (by omega) later

/-- The speeds that the fine search tries lie between its ends. -/
theorem fine_bounds (pos : 0 < kmh.toInt) (small : kmh.toInt + count ≤ 300000)
    (mem : tried ∈ fineTrials holds count kmh) :
    kmh.toInt ≤ tried.toInt ∧ tried.toInt < kmh.toInt + count := by
  induction count generalizing kmh with
  | zero => contradiction
  | succ count ih =>
    have next_eq := toInt_add_one32 kmh (by omega)
    rw [fineTrials, List.mem_cons] at mem
    rcases mem with rfl | later
    · omega
    · split at later
      · have := ih (by omega) (by omega) later
        omega
      · contradiction

/-- The same test with the other outcome at one speed. -/
def turnedAt (holds : Int32 → Bool) (kmh : Int32) : Int32 → Bool :=
  Function.update holds kmh (!holds kmh)

theorem turnedAt_self (holds : Int32 → Bool) (kmh : Int32) : turnedAt holds kmh kmh = !holds kmh :=
  Function.update_self ..

theorem turnedAt_of_ne {trial : Int32} (other : trial ≠ kmh) :
    turnedAt holds kmh trial = holds trial :=
  Function.update_of_ne other ..

theorem coarseSearch_congr
    (agree : ∀ trial ∈ coarseTrials holds cap stride fuel sustained, other trial = holds trial) :
    coarseSearch other cap stride fuel sustained =
      coarseSearch holds cap stride fuel sustained := by
  induction fuel generalizing sustained with
  | zero => rfl
  | succ fuel ih =>
    simp only [coarseSearch, coarseTrials] at agree ⊢
    generalize min (sustained + stride) cap = trial at *
    cases held : holds trial with
    | false =>
      have same : other trial = false := by simpa [held] using agree
      simp [same]
    | true =>
      by_cases reached : cap ≤ trial
      · have same : other trial = true := by simpa [held, reached] using agree
        simp [same, reached]
      · simp only [held, reached, if_true, if_false, List.forall_mem_cons] at agree
        simp [agree.1, reached, ih agree.2]

theorem fineSearch_congr
    (agree : ∀ trial ∈ fineTrials holds count kmh, other trial = holds trial) :
    fineSearch other count kmh = fineSearch holds count kmh := by
  induction count generalizing kmh with
  | zero => rfl
  | succ count ih =>
    rw [fineTrials, List.forall_mem_cons] at agree
    obtain ⟨same, further⟩ := agree
    rw [fineSearch, fineSearch, same]
    split
    · next held =>
      rw [if_pos held] at further
      exact ih further
    · rfl

theorem coarseSearch_turnedAt (untried : kmh ∉ coarseTrials holds cap stride fuel sustained) :
    coarseSearch (turnedAt holds kmh) cap stride fuel sustained =
      coarseSearch holds cap stride fuel sustained :=
  coarseSearch_congr fun _ mem => turnedAt_of_ne (ne_of_mem_of_not_mem mem untried)

theorem fineSearch_turnedAt {start : Int32} (untried : kmh ∉ fineTrials holds count start) :
    fineSearch (turnedAt holds kmh) count start = fineSearch holds count start :=
  fineSearch_congr fun _ mem => turnedAt_of_ne (ne_of_mem_of_not_mem mem untried)

/-- The trials up to a speed do not depend on the outcome there. -/
theorem mem_coarseTrials_of_agree
    (agree : ∀ trial, trial ≠ tried → other trial = holds trial)
    (mem : tried ∈ coarseTrials holds cap stride fuel sustained) :
    tried ∈ coarseTrials other cap stride fuel sustained := by
  induction fuel generalizing sustained with
  | zero => exact mem
  | succ fuel ih =>
    simp only [coarseTrials] at mem ⊢
    generalize min (sustained + stride) cap = trial at *
    -- Before it gets to this speed the one search goes on just if the other does.
    by_cases here : trial = tried
    · rw [here]
      split
      · split
        · exact List.mem_singleton_self tried
        · exact List.mem_cons_self
      · exact List.mem_singleton_self tried
    · rw [agree trial here]
      split at mem
      · next held =>
        split at mem
        · exact absurd (List.mem_singleton.mp mem).symm here
        · next short =>
          rw [if_pos held, if_neg short]
          exact List.mem_cons_of_mem _ (ih (List.mem_of_ne_of_mem (Ne.symm here) mem))
      · exact absurd (List.mem_singleton.mp mem).symm here

theorem mem_fineTrials_of_agree
    (agree : ∀ trial, trial ≠ tried → other trial = holds trial)
    (mem : tried ∈ fineTrials holds count kmh) : tried ∈ fineTrials other count kmh := by
  induction count generalizing kmh with
  | zero => exact mem
  | succ count ih =>
    rw [fineTrials] at mem ⊢
    by_cases here : kmh = tried
    · rw [here]
      exact List.mem_cons_self
    · have later := List.mem_of_ne_of_mem (Ne.symm here) mem
      rw [agree kmh here]
      split at later
      · next held =>
        rw [if_pos held]
        exact List.mem_cons_of_mem _ (ih later)
      · contradiction

/-- If so many strides reach the cap, no more speeds than that are tried at first. -/
theorem length_coarse_le (holds : Int32 → Bool) (cap_pos : 0 < cap.toInt)
    (cap_le : cap ≤ Units.unlimitedKmh) {bound : Nat}
    (reach : cap.toInt ≤ bound * (coarseStride cap).toInt) :
    (searchTrials holds cap).coarse.length ≤ bound := by
  have searching := Searching.start cap_pos cap_le
  have fewer := length_coarseTrials_lt holds 4294967296 searching
  by_contra more
  have strides := Int.mul_le_mul_of_nonneg_right
    (show (bound : Int) ≤ (searchTrials holds cap).coarse.length - 1 by omega)
    searching.stride_pos.le
  simp only [searchTrials] at strides
  simp only [Int32.reduceToInt] at fewer
  omega

/-- The search reaches the cap, or it stops within one stride and looks closer there. -/
theorem search_cases (holds : Int32 → Bool) (cap_pos : 0 < cap.toInt)
    (cap_le : cap ≤ Units.unlimitedKmh) :
    (coarseSearch holds cap (coarseStride cap) 4294967296 0 = .reachedCap ∧
        searchTopSpeed holds cap = cap ∧ (searchTrials holds cap).fine = []) ∨
      ∃ last failed,
        coarseSearch holds cap (coarseStride cap) 4294967296 0 = .failed last failed ∧
        0 ≤ last.toInt ∧ last.toInt < failed.toInt ∧ failed.toInt ≤ cap.toInt ∧
        failed.toInt ≤ last.toInt + (coarseStride cap).toInt ∧
        searchTopSpeed holds cap =
          fineSearch holds (failed.toInt - last.toInt - 1).toNat (last + 1) ∧
        (searchTrials holds cap).fine =
          fineTrials holds (failed.toInt - last.toInt - 1).toNat (last + 1) := by
  have searching := Searching.start cap_pos cap_le
  have standing : (0 : Int32).toInt = 0 := rfl
  cases outcome : coarseSearch holds cap (coarseStride cap) 4294967296 0 with
  | reachedCap => exact .inl ⟨rfl, by rw [searchTopSpeed, outcome], by rw [searchTrials, outcome]⟩
  | failed last failed =>
    obtain ⟨nonneg, below_failed, near, failed_le⟩ :=
      coarseSearch_failed searching outcome searching.room
    refine .inr ⟨last, failed, rfl, by omega, below_failed, failed_le, near, ?_,
      by rw [searchTrials, outcome]⟩
    rw [searchTopSpeed, outcome]
    simp only
    split
    · next adjacent =>
      have last_eq : failed - 1 = last := Int32.toInt_inj.mp (by
        rw [toInt_sub_one32 (by omega)]
        omega)
      rw [adjacent, fineSearch, Int32.add_sub_cancel, last_eq]
    · rfl

theorem length_fine_lt (holds : Int32 → Bool) (cap_pos : 0 < cap.toInt)
    (cap_le : cap ≤ Units.unlimitedKmh) :
    ((searchTrials holds cap).fine.length : Int) < (coarseStride cap).toInt := by
  have stride_pos := (coarseStride_bounds cap_pos cap_le).1
  rcases search_cases holds cap_pos cap_le with
    ⟨-, -, fine_eq⟩ | ⟨last, failed, -, -, below_failed, -, near, -, fine_eq⟩
  · rw [fine_eq]
    exact stride_pos
  · have fewer := length_fineTrials_le holds (failed.toInt - last.toInt - 1).toNat
      (last + 1)
    rw [fine_eq]
    omega

/-- If the search reaches the cap, the speeds tried on the way lie close enough to do so. -/
theorem le_length_coarse (cap_pos : 0 < cap.toInt) (cap_le : cap ≤ Units.unlimitedKmh)
    (reached : searchTopSpeed holds cap = cap) :
    cap.toInt ≤ (searchTrials holds cap).coarse.length * (coarseStride cap).toInt := by
  have searching := Searching.start cap_pos cap_le
  rcases search_cases holds cap_pos cap_le with
    ⟨outcome, -⟩ | ⟨last, failed, -, nonneg, below_failed, failed_le, -, answer, -⟩
  · have reach := le_length_coarseTrials searching outcome
    simp only [Int32.reduceToInt, Int.sub_zero] at reach
    exact reach
  · have next_eq := toInt_add_one32 last (by have := searching.cap_le; omega)
    have bounds := fineSearch_bounds holds (failed.toInt - last.toInt - 1).toNat (last + 1)
      (by omega) (by have := searching.cap_le; omega)
    rw [← answer, reached] at bounds
    omega

/-- The search answers below a speed that it tries just if this one fails. -/
theorem tried_le_iff (cap_pos : 0 < cap.toInt) (cap_le : cap ≤ Units.unlimitedKmh)
    (mem : kmh ∈ (searchTrials holds cap).coarse ∨ kmh ∈ (searchTrials holds cap).fine) :
    kmh.toInt ≤ (searchTopSpeed holds cap).toInt ↔ holds kmh = true := by
  have searching := Searching.start cap_pos cap_le
  have cap_small := searching.cap_le
  rcases search_cases holds cap_pos cap_le with
    ⟨outcome, answer, fine_eq⟩ |
    ⟨last, failed, outcome, nonneg, below_failed, failed_le, -, answer, fine_eq⟩
  · rw [fine_eq] at mem
    obtain ⟨held, le_cap⟩ := coarse_reached searching outcome (mem.resolve_right List.not_mem_nil)
    rw [answer]
    exact iff_of_true le_cap held
  · have next_eq := toInt_add_one32 last (by omega)
    have pos : 0 < (last + 1).toInt := by omega
    have small : (last + 1).toInt + (failed.toInt - last.toInt - 1).toNat ≤ 300000 := by omega
    have bounds := fineSearch_bounds holds _ _ pos small
    rw [answer]
    rcases mem with coarse | fine
    · rcases coarse_failed searching searching.room outcome coarse with
        ⟨held, le_last⟩ | ⟨fails, rfl⟩
      · exact iff_of_true (by omega) held
      · exact iff_of_false (by omega) (by rw [fails]; exact Bool.false_ne_true)
    · rw [fine_eq] at fine
      exact fine_tried pos small fine

/-- The speeds of the fine search are none of the coarse search. -/
theorem not_mem_coarse_of_mem_fine (cap_pos : 0 < cap.toInt) (cap_le : cap ≤ Units.unlimitedKmh)
    (fine : kmh ∈ (searchTrials holds cap).fine) : kmh ∉ (searchTrials holds cap).coarse := by
  have searching := Searching.start cap_pos cap_le
  have cap_small := searching.cap_le
  intro coarse
  rcases search_cases holds cap_pos cap_le with
    ⟨-, -, fine_eq⟩ | ⟨last, failed, outcome, nonneg, below_failed, failed_le, -, -, fine_eq⟩
  · rw [fine_eq] at fine
    contradiction
  · have next_eq := toInt_add_one32 last (by omega)
    rw [fine_eq] at fine
    have between := fine_bounds (by omega) (by omega) fine
    rcases coarse_failed searching searching.room outcome coarse with ⟨-, le_last⟩ | ⟨-, rfl⟩ <;>
      omega

/-- A speed that is tried is tried also if it would come out the other way. -/
theorem mem_searchTrials_turnedAt (cap_pos : 0 < cap.toInt) (cap_le : cap ≤ Units.unlimitedKmh)
    (mem : kmh ∈ (searchTrials holds cap).coarse ∨ kmh ∈ (searchTrials holds cap).fine) :
    kmh ∈ (searchTrials (turnedAt holds kmh) cap).coarse ∨
      kmh ∈ (searchTrials (turnedAt holds kmh) cap).fine := by
  have agree : ∀ trial, trial ≠ kmh → turnedAt holds kmh trial = holds trial :=
    fun _ => turnedAt_of_ne
  rcases mem with coarse | fine
  · exact .inl (mem_coarseTrials_of_agree agree coarse)
  · have same := coarseSearch_turnedAt (not_mem_coarse_of_mem_fine cap_pos cap_le fine)
    refine .inr ?_
    simp only [searchTrials, same] at fine ⊢
    split at fine
    · contradiction
    · exact mem_fineTrials_of_agree agree fine

/-- The search tries just the speeds that its answer hangs on. -/
theorem mem_searchTrials_iff (cap_pos : 0 < cap.toInt) (cap_le : cap ≤ Units.unlimitedKmh) :
    kmh ∈ (searchTrials holds cap).coarse ∨ kmh ∈ (searchTrials holds cap).fine ↔
      searchTopSpeed (turnedAt holds kmh) cap ≠ searchTopSpeed holds cap := by
  constructor
  · intro mem same
    -- Both searches try the speed, and each answers at least that just if it holds there.
    have turned := tried_le_iff cap_pos cap_le (mem_searchTrials_turnedAt cap_pos cap_le mem)
    rw [same, tried_le_iff cap_pos cap_le mem, turnedAt_self] at turned
    cases held : holds kmh <;> simp [held] at turned
  · contrapose!
    rintro ⟨not_coarse, not_fine⟩
    simp only [searchTrials] at not_fine
    simp only [searchTopSpeed, coarseSearch_turnedAt not_coarse]
    split
    · rfl
    · next outcome =>
      rw [outcome] at not_fine
      split
      · rfl
      · exact fineSearch_turnedAt not_fine

end Search

end Profile

namespace Memo

variable {σ : Type}

/-- The top speed of a convoy that starts is found by trying just the speeds that the answer hangs
on.  At first they lie one stride apart, up to the cap.  There are at most 127 of them; there are
at most 64 if 64 divides the cap, or if the cap is at most 64, and no other cap is reached with 64.
Those tried next are fewer than the whole km/h in a stride. -/
theorem trials_bounded [Source σ] [VehicleSource σ] (memo : Memo σ)
    (agrees : memo.cache.Agrees memo.source) (weight : WeightSummary) :
    let cap := (memo.ask .speedLimit).1
    let drag := (memo.ask .adverse).1.drag
    let resistance := (memo.ask (.resistance weight)).1
    let startingForce := (memo.ask .startingForce).1
    let covered := fun kmh : Int32 =>
      let velocity := Units.velocityOfKmh kmh
      decide (drag * velocity * velocity + resistance ≤ (memo.ask (.traction velocity)).1)
    let trials := Profile.searchTrials covered cap
    let top := Profile.searchTopSpeed covered cap
    let stride := max (cap.toInt / 64) 1
    0 < cap →
      ((memo.ask .vehicle).1.isEmpty = false → resistance ≤ startingForce →
        (memo.ask (.maxSpeed weight)).1 = top) ∧
      (∀ kmh, kmh ∈ trials.coarse ∨ kmh ∈ trials.fine ↔
        Profile.searchTopSpeed (Profile.turnedAt covered kmh) cap ≠ top) ∧
      (∀ (index : Nat) (kmh : Int32), trials.coarse[index]? = some kmh →
        kmh.toInt = min ((index + 1) * stride) cap.toInt ∧ index * stride < cap.toInt) ∧
      trials.coarse.length ≤ 127 ∧
      (cap.toInt ≤ 64 ∨ 64 ∣ cap.toInt → trials.coarse.length ≤ 64) ∧
      (top = cap → trials.coarse.length ≤ 64 → cap.toInt ≤ 64 ∨ 64 ∣ cap.toInt) ∧
      (trials.fine.length : Int) ≤ stride - 1 := by
  have cap_le := (VehicleSource.regular memo.source).speedLimit_le
  simp only [ask_answer agrees]
  intro moves
  have cap_pos := Int32.lt_iff_toInt_lt.mp moves
  have stride_eq := Profile.toInt_coarseStride cap_pos
  have stride_pos := (Profile.coarseStride_bounds cap_pos cap_le).1
  refine ⟨fun manned starts => ?_, fun kmh => Profile.mem_searchTrials_iff cap_pos cap_le,
    fun index kmh tried => ?_, ?_, fun even => ?_, fun reached few => ?_, ?_⟩
  · exact Profile.maxSpeed_eq_search moves manned starts
  · have placed := Profile.getElem?_coarseTrials (.start cap_pos cap_le) tried
    simpa [stride_eq] using placed
  · exact Profile.length_coarse_le _ cap_pos cap_le (by omega)
  · exact Profile.length_coarse_le _ cap_pos cap_le (by omega)
  · have reach := Profile.le_length_coarse cap_pos cap_le reached
    have strides := Int.mul_le_mul_of_nonneg_right (Int.ofNat_le.mpr few) stride_pos.le
    omega
  · rw [← stride_eq]
    exact Int.le_sub_one_of_lt (Profile.length_fine_lt _ cap_pos cap_le)

/-- An express engine hauls 4000 t at 88 km/h.  The cap of 192 km/h is 64 strides of 3 km/h; the
search stops at 90 km/h and then tries 88 km/h and 89 km/h. -/
theorem express_tries_strides_of_3 :
    let memo : Memo Consist := ⟨⟨[.engine "Express" .track 80 192 5000], {}⟩, .empty⟩
    let weight : WeightSummary := .single 4000000 0
    let covered := fun kmh : Int32 =>
      let velocity := Units.velocityOfKmh kmh
      decide ((memo.ask .adverse).1.drag * velocity * velocity +
        (memo.ask (.resistance weight)).1 ≤ (memo.ask (.traction velocity)).1)
    let trials := Profile.searchTrials covered 192
    (memo.ask (.maxSpeed weight)).1 = Profile.searchTopSpeed covered 192 ∧
      trials.coarse.length ≤ 64 ∧ trials.fine.length ≤ 2 ∧ trials.fine = [88, 89] := by
  intro memo weight covered trials
  have speedLimit_eq : (memo.ask .speedLimit).1 = 192 := by decide +kernel
  have manned : (memo.ask .vehicle).1.isEmpty = false := by decide +kernel
  have starts : (memo.ask (.resistance weight)).1 ≤ (memo.ask .startingForce).1 := by
    decide +kernel
  have bounded := memo.trials_bounded (Cache.agrees_empty _) weight
  simp only [speedLimit_eq] at bounded
  obtain ⟨top_eq, -, -, -, coarse_le, -, fine_le⟩ := bounded (by decide)
  refine ⟨top_eq manned starts, coarse_le (.inr (by decide)), ?_, by decide +kernel⟩
  exact Int.ofNat_le.mp fine_le

/-- Below 128 km/h the stride is one, so that the search up to 127 km/h tries each speed. -/
theorem express_tries_127 :
    let memo : Memo Consist := ⟨⟨[.engine "Express" .track 80 127 5000], {}⟩, .empty⟩
    let weight : WeightSummary := .single 80000 0
    let covered := fun kmh : Int32 =>
      let velocity := Units.velocityOfKmh kmh
      decide ((memo.ask .adverse).1.drag * velocity * velocity +
        (memo.ask (.resistance weight)).1 ≤ (memo.ask (.traction velocity)).1)
    (memo.ask .speedLimit).1 = 127 ∧
      (memo.ask (.maxSpeed weight)).1 = Profile.searchTopSpeed covered 127 ∧
      (Profile.searchTrials covered 127).coarse.length = 127 := by
  decide +kernel

end Memo

end Haulage
