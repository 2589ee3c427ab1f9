import Haulage.Memo

/-!
# Kept values that agree with their source

A cache agrees with a source if every value it keeps is the one the source would tell now.  A memo
whose cache agrees answers every question as the source does, and still agrees afterwards.
-/

namespace Haulage

variable {σ : Type}

namespace Cache

/-- Every kept value that does not hang on the load is the one the source tells. -/
structure Agrees [Source σ] (cache : Cache) (source : σ) : Prop where
  /-- The summary of the vehicles. -/
  vehicle : ∀ kept ∈ cache.vehicle, kept = Source.vehicleSummary source
  /-- The summary of where they stand. -/
  adverse : ∀ kept ∈ cache.adverse, kept = Source.adverseSummary source
  /-- The summary of what they can carry. -/
  freight : ∀ kept ∈ cache.freight, kept = Source.freightSummary source
  /-- Traction at standstill. -/
  startingForce : ∀ kept ∈ cache.startingForce, kept = (Source.curves source).startingForce
  /-- Power at the rated top speed. -/
  continuousPower : ∀ kept ∈ cache.continuousPower,
    kept = (Source.curves source).continuousPower (Source.vehicleSummary source).maxSpeed

/-- Every kept value is the one the source tells. -/
structure AgreesLoaded [LoadedSource σ] (cache : Cache) (source : σ) : Prop
    extends cache.Agrees source where
  /-- The summary of what the vehicles weigh. -/
  weight : ∀ kept ∈ cache.weight, kept = LoadedSource.weightSummary source

theorem agrees_empty [Source σ] (source : σ) : empty.Agrees source where
  vehicle := by simp [empty]
  adverse := by simp [empty]
  freight := by simp [empty]
  startingForce := by simp [empty]
  continuousPower := by simp [empty]

theorem agreesLoaded_empty [LoadedSource σ] (source : σ) : empty.AgreesLoaded source where
  toAgrees := agrees_empty source
  weight := by simp [empty]

end Cache

namespace Memo

theorem getD_of_agrees {α : Type} {kept : Option α} {fresh : α}
    (agrees : ∀ value ∈ kept, value = fresh) : kept.getD fresh = fresh := by
  cases kept with
  | none => rfl
  | some value => exact agrees value rfl

theorem keep_agrees {α : Type} {kept : Option α} {fresh : α} (read : Bool)
    (agrees : ∀ value ∈ kept, value = fresh) : ∀ value ∈ keep read kept fresh, value = fresh := by
  intro value value_mem
  unfold keep at value_mem
  split at value_mem
  · rw [getD_of_agrees agrees] at value_mem
    exact (Option.some.inj value_mem).symm
  · exact agrees value value_mem

section Plain

variable [Source σ] {memo : Memo σ}

theorem profile_of_agrees (agrees : memo.cache.Agrees memo.source) :
    memo.profile = .ofSource memo.source := by
  have vehicle_eq : memo.vehicle = Source.vehicleSummary memo.source :=
    getD_of_agrees agrees.vehicle
  simp only [profile, vehicle_eq, Profile.ofSource, Profile.ofCurves,
    getD_of_agrees agrees.adverse, getD_of_agrees agrees.startingForce,
    getD_of_agrees agrees.continuousPower]

theorem ask_answer {α : Type} (agrees : memo.cache.Agrees memo.source) (query : Query α) :
    (memo.ask query).1 = query.answer (.ofSource memo.source) := by
  rw [ask, profile_of_agrees agrees]

theorem keepRead_agrees {cache : Cache} {source : σ} (agrees : cache.Agrees source)
    (reads : Reads) : (keepRead cache (.ofSource source) reads).Agrees source where
  vehicle := keep_agrees _ agrees.vehicle
  adverse := keep_agrees _ agrees.adverse
  freight := agrees.freight
  startingForce := keep_agrees _ agrees.startingForce
  continuousPower := keep_agrees _ agrees.continuousPower

/-- A question leaves a cache that agrees with the source. -/
theorem ask_agrees {α : Type} (agrees : memo.cache.Agrees memo.source) (query : Query α) :
    (memo.ask query).2.cache.Agrees memo.source := by
  rw [ask, profile_of_agrees agrees]
  exact keepRead_agrees agrees _

end Plain

section Loaded

variable [LoadedSource σ] {memo : Memo σ}

theorem ask_agreesLoaded {α : Type} (agrees : memo.cache.AgreesLoaded memo.source)
    (query : Query α) : (memo.ask query).2.cache.AgreesLoaded memo.source where
  toAgrees := ask_agrees agrees.toAgrees query
  weight := agrees.weight

theorem askWeight_answer (agrees : memo.cache.AgreesLoaded memo.source) :
    memo.askWeight.1 = LoadedSource.weightSummary memo.source :=
  getD_of_agrees agrees.weight

theorem askWeight_agreesLoaded (agrees : memo.cache.AgreesLoaded memo.source) :
    memo.askWeight.2.cache.AgreesLoaded memo.source where
  vehicle := agrees.vehicle
  adverse := agrees.adverse
  freight := agrees.freight
  startingForce := agrees.startingForce
  continuousPower := agrees.continuousPower
  weight := by
    intro kept kept_mem
    have kept_eq : memo.askWeight.1 = kept := Option.some.inj kept_mem
    rw [← kept_eq, askWeight_answer agrees]

theorem askLoaded_answer {α : Type} (agrees : memo.cache.AgreesLoaded memo.source)
    (query : WeightSummary → Query α) :
    (memo.askLoaded query).1 =
      (query (LoadedSource.weightSummary memo.source)).answer (.ofSource memo.source) := by
  have weighed := askWeight_agreesLoaded agrees
  change (memo.askWeight.2.ask (query memo.askWeight.1)).1 = _
  rw [askWeight_answer agrees]
  exact ask_answer weighed.toAgrees _

/-- A question to a memo that agrees has the answer of its source, and leaves a memo of that source
that agrees. -/
theorem ask_eq {α : Type} {source : σ} {cache : Cache} (agrees : cache.AgreesLoaded source)
    (query : Query α) :
    ∃ after : Cache, after.AgreesLoaded source ∧
      (⟨source, cache⟩ : Memo σ).ask query =
        (query.answer (.ofSource source), ⟨source, after⟩) := by
  let memo : Memo σ := ⟨source, cache⟩
  have memo_agrees : memo.cache.AgreesLoaded memo.source := agrees
  exact ⟨_, ask_agreesLoaded memo_agrees query,
    Prod.ext (ask_answer memo_agrees.toAgrees query) rfl⟩

theorem askWeight_eq {source : σ} {cache : Cache} (agrees : cache.AgreesLoaded source) :
    ∃ after : Cache, after.AgreesLoaded source ∧
      (⟨source, cache⟩ : Memo σ).askWeight =
        (LoadedSource.weightSummary source, ⟨source, after⟩) := by
  let memo : Memo σ := ⟨source, cache⟩
  have memo_agrees : memo.cache.AgreesLoaded memo.source := agrees
  exact ⟨_, askWeight_agreesLoaded memo_agrees, Prod.ext (askWeight_answer memo_agrees) rfl⟩

end Loaded

end Memo

end Haulage
