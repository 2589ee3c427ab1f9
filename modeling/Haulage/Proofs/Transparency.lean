import Haulage.Proofs.Coherence
import Haulage.Train

/-!
# Transparent memos

A convoy is asked, edited and told what became stale, in any order.  As long as every edit is
followed, before the next question, by the loss of what it may have changed, every question is
answered as the source alone would answer it.  Whatever the order, a known value is lost only with
the value it is derived from.
-/

namespace Haulage

variable {σ : Type}

/-- One of the values that are kept of a convoy. -/
inductive Entry where
  /-- Summary of the vehicles. -/
  | vehicle
  /-- Summary of where they stand. -/
  | adverse
  /-- Summary of what they can carry. -/
  | freight
  /-- Summary of what they weigh. -/
  | weight
  /-- Traction at standstill. -/
  | startingForce
  /-- Power at the rated top speed. -/
  | continuousPower
deriving DecidableEq

namespace Entry

/-- What an entry holds. -/
def Value : Entry → Type
  | vehicle => VehicleSummary
  | adverse => AdverseSummary
  | freight => FreightSummary
  | weight => WeightSummary
  | startingForce => Fixed
  | continuousPower => Fixed

/-- An entry and those that it is derived from. -/
def lineage : Entry → List Entry
  | vehicle => [vehicle]
  | adverse => [adverse, vehicle]
  | freight => [freight, vehicle]
  | weight => [weight, adverse, vehicle]
  | startingForce => [startingForce, vehicle]
  | continuousPower => [continuousPower, vehicle]

theorem lineage_trans {entry middle ancestor : Entry} (near : middle ∈ entry.lineage)
    (far : ancestor ∈ middle.lineage) : ancestor ∈ entry.lineage := by
  cases entry <;> cases middle <;> first | exact far | simp_all [lineage]

/-- What a source tells of an entry. -/
def fresh [LoadedSource σ] (source : σ) : (entry : Entry) → entry.Value
  | vehicle => Source.vehicleSummary source
  | adverse => Source.adverseSummary source
  | freight => Source.freightSummary source
  | weight => LoadedSource.weightSummary source
  | startingForce => (Source.curves source).startingForce
  | continuousPower =>
      (Source.curves source).continuousPower (Source.vehicleSummary source).maxSpeed

end Entry

/-- A part of a convoy that may be edited. -/
inductive Part where
  /-- Its vehicles. -/
  | vehicles
  /-- The way and the slope under it. -/
  | way
  /-- What its vehicles can carry. -/
  | cargo
  /-- What they do carry. -/
  | load
deriving DecidableEq

/-- The entry from which all are derived that an edit of a part may change. -/
def Part.entry : Part → Entry
  | vehicles => .vehicle
  | way => .adverse
  | cargo => .freight
  | load => .weight

/-- An edit is confined to a part if it leaves all entries as they are that are not derived from
that part.  Friction and the curves are never kept, so they may change with any. -/
def Part.Confines [LoadedSource σ] (part : Part) (before after : σ) : Prop :=
  ∀ entry : Entry, part.entry ∉ entry.lineage → entry.fresh after = entry.fresh before

namespace Cache

/-- The value kept of an entry. -/
def kept (cache : Cache) : (entry : Entry) → Option entry.Value
  | .vehicle => cache.vehicle
  | .adverse => cache.adverse
  | .freight => cache.freight
  | .weight => cache.weight
  | .startingForce => cache.startingForce
  | .continuousPower => cache.continuousPower

/-- The cache after an edit of a part was announced. -/
def drop (cache : Cache) : Part → Cache
  | .vehicles => cache.dropVehicle
  | .way => cache.dropAdverse
  | .cargo => cache.dropFreight
  | .load => cache.dropWeight

theorem kept_drop_of_mem {part : Part} {entry : Entry} (cache : Cache)
    (derived : part.entry ∈ entry.lineage) : (cache.drop part).kept entry = none := by
  cases part <;> cases entry <;> first | rfl | exact absurd derived (by decide)

theorem kept_drop_of_not_mem {part : Part} {entry : Entry} (cache : Cache)
    (apart : part.entry ∉ entry.lineage) :
    (cache.drop part).kept entry = cache.kept entry := by
  cases part <;> cases entry <;> first | rfl | exact absurd (by decide) apart

theorem agreesLoaded_iff [LoadedSource σ] {cache : Cache} {source : σ} :
    cache.AgreesLoaded source ↔
      ∀ entry : Entry, ∀ value ∈ cache.kept entry, value = entry.fresh source := by
  constructor
  · intro agrees entry
    cases entry with
    | vehicle => exact agrees.vehicle
    | adverse => exact agrees.adverse
    | freight => exact agrees.freight
    | weight => exact agrees.weight
    | startingForce => exact agrees.startingForce
    | continuousPower => exact agrees.continuousPower
  · intro all
    exact
      { vehicle := all .vehicle
        adverse := all .adverse
        freight := all .freight
        weight := all .weight
        startingForce := all .startingForce
        continuousPower := all .continuousPower }

end Cache

/-- What a convoy may be asked. -/
inductive Question : Type → Type 1 where
  /-- Something that follows from its profile. -/
  | profile {α : Type} (query : Query α) : Question α
  /-- The summary of what it can carry. -/
  | freight : Question FreightSummary
  /-- The summary of what it weighs. -/
  | weight : Question WeightSummary
  /-- Something that follows from its profile and its weight. -/
  | loaded {α : Type} (query : WeightSummary → Query α) : Question α

/-- What the source alone answers. -/
def Question.answer [LoadedSource σ] {α : Type} (source : σ) : Question α → α
  | profile query => query.answer (.ofSource source)
  | freight => Source.freightSummary source
  | weight => LoadedSource.weightSummary source
  | loaded query => (query (LoadedSource.weightSummary source)).answer (.ofSource source)

namespace Memo

section Question

variable [LoadedSource σ] {α : Type}

/-- The answer of a memo to a question, and the memo after it. -/
def pose (memo : Memo σ) : Question α → α × Memo σ
  | .profile query => memo.ask query
  | .freight => memo.askFreight
  | .weight => memo.askWeight
  | .loaded query => memo.askLoaded query

theorem pose_source (memo : Memo σ) (question : Question α) :
    (memo.pose question).2.source = memo.source := by
  cases question <;> rfl

theorem askFreight_agreesLoaded {memo : Memo σ} (agrees : memo.cache.AgreesLoaded memo.source) :
    memo.askFreight.2.cache.AgreesLoaded memo.source where
  vehicle := agrees.vehicle
  adverse := agrees.adverse
  freight := by
    intro kept kept_mem
    have kept_eq : memo.freight = kept := Option.some.inj kept_mem
    rw [← kept_eq]
    exact getD_of_agrees agrees.freight
  startingForce := agrees.startingForce
  continuousPower := agrees.continuousPower
  weight := agrees.weight

theorem pose_answer {memo : Memo σ} (agrees : memo.cache.AgreesLoaded memo.source)
    (question : Question α) : (memo.pose question).1 = question.answer memo.source := by
  cases question with
  | profile query => exact ask_answer agrees.toAgrees query
  | freight => exact getD_of_agrees agrees.freight
  | weight => exact askWeight_answer agrees
  | loaded query => exact askLoaded_answer agrees query

theorem pose_agreesLoaded {memo : Memo σ} (agrees : memo.cache.AgreesLoaded memo.source)
    (question : Question α) : (memo.pose question).2.cache.AgreesLoaded memo.source := by
  cases question with
  | profile query => exact ask_agreesLoaded agrees query
  | freight => exact askFreight_agreesLoaded agrees
  | weight => exact askWeight_agreesLoaded agrees
  | loaded query =>
    exact ask_agreesLoaded (askWeight_agreesLoaded agrees) _

theorem mem_keep {β : Type} {kept : Option β} {value : β} (read : Bool) (other : β)
    (known : value ∈ kept) : value ∈ keep read kept other := by
  rw [Option.mem_def] at known
  rw [known, keep]
  split <;> rfl

theorem mem_kept_keepRead {cache : Cache} {entry : Entry} {value : entry.Value} (profile : Profile)
    (reads : Reads) (known : value ∈ cache.kept entry) :
    value ∈ (keepRead cache profile reads).kept entry := by
  cases entry with
  | vehicle => exact mem_keep _ _ known
  | adverse => exact mem_keep _ _ known
  | freight => exact known
  | weight => exact known
  | startingForce => exact mem_keep _ _ known
  | continuousPower => exact mem_keep _ _ known

theorem mem_kept_askWeight {memo : Memo σ} {entry : Entry} {value : entry.Value}
    (known : value ∈ memo.cache.kept entry) : value ∈ memo.askWeight.2.cache.kept entry := by
  cases entry with
  | weight =>
    have weight_eq : memo.cache.weight = some value := known
    change some (memo.cache.weight.getD _) = some value
    rw [weight_eq]
    rfl
  | _ => exact known

theorem mem_kept_askFreight {memo : Memo σ} {entry : Entry} {value : entry.Value}
    (known : value ∈ memo.cache.kept entry) : value ∈ memo.askFreight.2.cache.kept entry := by
  cases entry with
  | freight =>
    have freight_eq : memo.cache.freight = some value := known
    change some (memo.cache.freight.getD _) = some value
    rw [freight_eq]
    rfl
  | _ => exact known

/-- A question neither changes nor loses a known value, whether it holds or not. -/
theorem mem_kept_pose {memo : Memo σ} {entry : Entry} {value : entry.Value}
    (question : Question α) (known : value ∈ memo.cache.kept entry) :
    value ∈ (memo.pose question).2.cache.kept entry := by
  cases question with
  | profile query => exact mem_kept_keepRead _ _ known
  | freight => exact mem_kept_askFreight known
  | weight => exact mem_kept_askWeight known
  | loaded query => exact mem_kept_keepRead _ _ (mem_kept_askWeight known)

end Question

/-- The source and the kept values, taken apart. -/
def parts (memo : Memo σ) : σ × Cache := (memo.source, memo.cache)

/-- A memo of a source and kept values. -/
def ofParts (parts : σ × Cache) : Memo σ := ⟨parts.1, parts.2⟩

end Memo

/-- What may be done with a memo. -/
inductive Action (σ : Type) : Type 1 where
  /-- A question. -/
  | ask {α : Type} (question : Question α)
  /-- It is taken apart and put together again. -/
  | roundTrip
  /-- An edit of a part is announced. -/
  | drop (part : Part)
  /-- A part of the source is edited. -/
  | edit (part : Part) (change : σ → σ)

/-- An answer, with its type. -/
abbrev Answer : Type 1 := Σ α : Type, α

namespace Action

/-- What the source alone answers, if it is asked. -/
def answer [LoadedSource σ] (source : σ) : Action σ → Option Answer
  | ask question => some ⟨_, question.answer source⟩
  | _ => none

/-- The source after the action. -/
def edited (source : σ) : Action σ → σ
  | edit _ change => change source
  | _ => source

/-- The action loses an entry: it announces an edit of a part from which the entry is derived. -/
def Drops : Action σ → Entry → Prop
  | drop part, entry => part.entry ∈ entry.lineage
  | _, _ => False

/-- Before the next question, an edit of a part, or of one that it is derived from, is announced. -/
def Announced (part : Part) : List (Action σ) → Prop
  | [] => True
  | ask _ :: _ => False
  | drop other :: actions => other.entry ∈ part.entry.lineage ∨ Announced part actions
  | roundTrip :: actions => Announced part actions
  | edit _ _ :: actions => Announced part actions

/-- Every edit of a source is confined to its part, and announced before the next question. -/
def Disciplined [LoadedSource σ] : σ → List (Action σ) → Prop
  | _, [] => True
  | source, edit part change :: actions =>
      part.Confines source (change source) ∧ Announced part actions ∧
        Disciplined (change source) actions
  | source, ask _ :: actions => Disciplined source actions
  | source, drop _ :: actions => Disciplined source actions
  | source, roundTrip :: actions => Disciplined source actions

/-- What a source alone answers in the course of actions. -/
def answers [LoadedSource σ] : σ → List (Action σ) → List (Option Answer)
  | _, [] => []
  | source, action :: actions => action.answer source :: answers (action.edited source) actions

end Action

namespace Memo

section Run

variable [LoadedSource σ]

/-- What a memo answers to an action, and the memo after it. -/
def act (memo : Memo σ) : Action σ → Option Answer × Memo σ
  | .ask question => (some ⟨_, (memo.pose question).1⟩, (memo.pose question).2)
  | .roundTrip => (none, .ofParts memo.parts)
  | .drop part => (none, memo.withCache (memo.cache.drop part))
  | .edit _ change => (none, { memo with source := change memo.source })

/-- What a memo answers in the course of actions. -/
def answers : Memo σ → List (Action σ) → List (Option Answer)
  | _, [] => []
  | memo, action :: actions => (memo.act action).1 :: answers (memo.act action).2 actions

/-- The memo after actions. -/
def after (memo : Memo σ) (actions : List (Action σ)) : Memo σ :=
  actions.foldl (fun memo action => (memo.act action).2) memo

theorem act_source (memo : Memo σ) (action : Action σ) :
    (memo.act action).2.source = action.edited memo.source := by
  cases action with
  | ask question => exact memo.pose_source question
  | _ => rfl

/-- The kept values that the source would not tell now are about to be lost. -/
def Heralded (memo : Memo σ) (actions : List (Action σ)) : Prop :=
  ∀ entry : Entry, (∀ value ∈ memo.cache.kept entry, value = entry.fresh memo.source) ∨
    ∃ part : Part, part.entry ∈ entry.lineage ∧ Action.Announced part actions

theorem heralded_of_agreesLoaded {memo : Memo σ} (agrees : memo.cache.AgreesLoaded memo.source)
    (actions : List (Action σ)) : memo.Heralded actions :=
  fun entry => .inl (Cache.agreesLoaded_iff.mp agrees entry)

/-- Nothing can be about to be lost before a question, so everything holds. -/
theorem Heralded.agreesLoaded {memo : Memo σ} {α : Type} {question : Question α}
    {actions : List (Action σ)} (heralded : memo.Heralded (.ask question :: actions)) :
    memo.cache.AgreesLoaded memo.source := by
  rw [Cache.agreesLoaded_iff]
  intro entry
  rcases heralded entry with holds | ⟨part, -, announced⟩
  · exact holds
  · exact announced.elim

theorem Heralded.drop {memo : Memo σ} {part : Part} {actions : List (Action σ)}
    (heralded : memo.Heralded (.drop part :: actions)) :
    (memo.withCache (memo.cache.drop part)).Heralded actions := by
  intro entry
  by_cases derived : part.entry ∈ entry.lineage
  · refine .inl fun value known => ?_
    have lost : (memo.cache.drop part).kept entry = none := Cache.kept_drop_of_mem _ derived
    rw [withCache, lost] at known
    exact absurd known (Option.not_mem_none value)
  · have same : (memo.cache.drop part).kept entry = memo.cache.kept entry :=
      Cache.kept_drop_of_not_mem _ derived
    rcases heralded entry with holds | ⟨stale, stale_mem, above | announced⟩
    · exact .inl (by rw [withCache, same]; exact holds)
    · exact absurd (Entry.lineage_trans stale_mem above) derived
    · exact .inr ⟨stale, stale_mem, announced⟩

theorem Heralded.edit {memo : Memo σ} {part : Part} {change : σ → σ} {actions : List (Action σ)}
    (heralded : memo.Heralded (.edit part change :: actions))
    (confined : part.Confines memo.source (change memo.source))
    (announced : Action.Announced part actions) :
    ({ memo with source := change memo.source } : Memo σ).Heralded actions := by
  intro entry
  by_cases derived : part.entry ∈ entry.lineage
  · exact .inr ⟨part, derived, announced⟩
  · rcases heralded entry with holds | pending
    · exact .inl fun value known => (holds value known).trans (confined entry derived).symm
    · exact .inr pending

/-- A disciplined action is answered as by the source alone. -/
theorem Heralded.act {memo : Memo σ} {action : Action σ} {actions : List (Action σ)}
    (heralded : memo.Heralded (action :: actions))
    (disciplined : Action.Disciplined memo.source (action :: actions)) :
    (memo.act action).1 = action.answer memo.source ∧ (memo.act action).2.Heralded actions ∧
      Action.Disciplined (memo.act action).2.source actions := by
  cases action with
  | ask question =>
    have agrees := heralded.agreesLoaded
    have answer_eq := pose_answer agrees question
    have source_eq := memo.pose_source question
    have after_agrees := pose_agreesLoaded agrees question
    rw [← source_eq] at after_agrees
    refine ⟨by rw [Memo.act, answer_eq]; rfl, heralded_of_agreesLoaded after_agrees actions, ?_⟩
    change Action.Disciplined (memo.pose question).2.source actions
    rw [source_eq]
    exact disciplined
  | roundTrip => exact ⟨rfl, heralded, disciplined⟩
  | drop part => exact ⟨rfl, heralded.drop, disciplined⟩
  | edit part change =>
    obtain ⟨confined, announced, rest⟩ := disciplined
    exact ⟨rfl, heralded.edit confined announced, rest⟩

theorem answers_of_disciplined {actions : List (Action σ)} {memo : Memo σ}
    (heralded : memo.Heralded actions) (disciplined : Action.Disciplined memo.source actions) :
    memo.answers actions = Action.answers memo.source actions := by
  induction actions generalizing memo with
  | nil => rfl
  | cons action actions ih =>
    obtain ⟨answer_eq, after_heralded, after_disciplined⟩ := heralded.act disciplined
    rw [answers, Action.answers, answer_eq, ih after_heralded after_disciplined, act_source]

theorem mem_kept_act {memo : Memo σ} {action : Action σ} {entry : Entry} {value : entry.Value}
    (known : value ∈ memo.cache.kept entry) (keeps : ¬action.Drops entry) :
    value ∈ (memo.act action).2.cache.kept entry := by
  cases action with
  | ask question => exact mem_kept_pose question known
  | drop part =>
    change value ∈ (memo.cache.drop part).kept entry
    rw [Cache.kept_drop_of_not_mem _ keeps]
    exact known
  | _ => exact known

theorem kept_act_of_drops {memo : Memo σ} {action : Action σ} {entry : Entry}
    (drops : action.Drops entry) : (memo.act action).2.cache.kept entry = none := by
  cases action with
  | drop part => exact Cache.kept_drop_of_mem _ drops
  | _ => exact drops.elim

theorem mem_kept_after {actions : List (Action σ)} {memo : Memo σ} {entry : Entry}
    {value : entry.Value} (known : value ∈ memo.cache.kept entry)
    (keep : ∀ action ∈ actions, ¬action.Drops entry) :
    value ∈ (memo.after actions).cache.kept entry := by
  induction actions generalizing memo with
  | nil => exact known
  | cons action actions ih =>
    rw [List.forall_mem_cons] at keep
    exact ih (mem_kept_act known keep.1) keep.2

end Run

/-- If every edit is confined to a part and announced before the next question, a memo that begins
with values that hold answers as the source alone, in any run of questions, edits, announcements and
round trips.  Even where edits are not announced, a known value stays as it is until an edit is
announced of what it is derived from, and then it is stale.  A source may be weighed in any way; of
one that is not, no action reads the weight. -/
theorem transparent [Source σ] (weigh : σ → WeightSummary) :
    let _ : LoadedSource σ := { weightSummary := weigh }
    (∀ (memo : Memo σ) (actions : List (Action σ)), memo.cache.AgreesLoaded memo.source →
      Action.Disciplined memo.source actions →
        memo.answers actions = Action.answers memo.source actions) ∧
      ∀ (memo : Memo σ) (entry : Entry), ∀ value ∈ memo.cache.kept entry,
        (∀ actions : List (Action σ), (∀ action ∈ actions, ¬action.Drops entry) →
          value ∈ (memo.after actions).cache.kept entry) ∧
        ∀ action : Action σ, (memo.act action).2.cache.kept entry = none ↔ action.Drops entry := by
  intro _
  refine ⟨fun memo actions agrees disciplined =>
    answers_of_disciplined (heralded_of_agreesLoaded agrees actions) disciplined,
    fun memo entry value known => ⟨fun actions => mem_kept_after known, fun action => ?_⟩⟩
  refine ⟨fun lost => ?_, kept_act_of_drops⟩
  by_cases drops : action.Drops entry
  · exact drops
  · have still_known := mem_kept_act known drops
    rw [lost] at still_known
    exact absurd still_known (Option.not_mem_none value)

/-- A freight engine tells its top speed, is coupled to a heavier load, and tells it again. -/
theorem heavier_load_is_seen :
    let convoy := fun kg : Int32 =>
      (⟨[⟨.engine "Freight" .track 80 120 1500, kg, .flat .track 120⟩], {},
        List.cons_ne_nil _ _⟩ : LiveConvoy)
    let topSpeed : Action LiveConvoy := .ask (.loaded .maxSpeed)
    (⟨convoy 100000, .empty⟩ : Memo LiveConvoy).answers
        [topSpeed, .edit .load fun _ => convoy 2000000, .drop .load, topSpeed] =
      [some ⟨Int32, 120⟩, none, none, some ⟨Int32, 46⟩] := by
  intro convoy topSpeed
  have confined : Part.load.Confines (convoy 100000) (convoy 2000000) := by
    intro entry apart
    cases entry with
    | weight => exact absurd List.mem_cons_self apart
    | _ => rfl
  have light : (Query.maxSpeed (convoy 100000).weight).answer (.ofSource (convoy 100000)) = 120 :=
    by decide +kernel
  have heavy : (Query.maxSpeed (convoy 2000000).weight).answer (.ofSource (convoy 2000000)) = 46 :=
    by decide +kernel
  have seen := (transparent LiveConvoy.weight).1 ⟨convoy 100000, .empty⟩
    [topSpeed, .edit .load fun _ => convoy 2000000, .drop .load, topSpeed]
    (Cache.agreesLoaded_empty _) ⟨confined, .inl List.mem_cons_self, trivial⟩
  rw [seen]
  simp only [Action.answers, Action.answer, Action.edited, Question.answer, topSpeed]
  rw [light, heavy]

end Memo

end Haulage
