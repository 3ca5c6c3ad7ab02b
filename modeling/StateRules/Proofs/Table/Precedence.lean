import StateRules.Proofs.Table.Search
import StateRules.Proofs.Table.Wildcard

/-!
Which declaration decides.

Declarations read as a row of steps (`Value.steps`). A step covers a state and an event from
one of its sources: its own, or any of the states known just before it where it is declared
for `any` (`Step.Covers`). In the table that is built from the declarations, what is found
for a state and an event is what the earliest step that covers them says, from the first of
its sources that equals the state (`earliest_step_decides`). So a step for `any` covers the
states known when its turn comes, and neither the state that it leads to nor one that is only
met later, unless the same is known by then.

What is found decides where an entity goes: to the literal state of the step, or to what its guard
gives for the entity. It gets there if the record of the move can be written, which takes the `repr`
of both states. A guard may give a value that has none (`decided_move_fails_of_unwritable`).

The proof goes from the rules of the table to the phases that they come from
(`Table.rules_takeSteps_of_ok`): the first rule that does not decline is the first in the
first phase that does not decline as a whole.
-/

namespace StateRules

namespace Step

/-- The states that a step leads from when the given states are known. -/
def sources (step : Step) (known : List Value) : List Value :=
  if step.source.isAny then known else [step.source]

/-- Whether a step says that it does not cover a state and an event. -/
def Declines (m : Interpretation) (known : List Value) (state event : Value) (step : Step) :
    Prop :=
  ∀ source ∈ step.sources known,
    source.Differs m state ∨ source.Equals m state ∧ step.event.Differs m event

/-- Whether a step covers a state and an event, and from which of its sources: the first that
equals the state. -/
structure Covers (m : Interpretation) (known : List Value) (state event : Value) (step : Step)
    (source : Value) : Prop where
  first : IsFirst (fun other => other.Differs m state) (step.sources known) source
  source : source.Equals m state
  event : step.event.Equals m event

theorem rules_eq_map_sources (step : Step) (known : List Value) :
    step.rules known =
      (step.sources known).map fun source => ⟨source, step.event, step.target⟩ := by
  unfold rules sources
  split <;> rfl

theorem forall_rules_declines_iff {m : Interpretation} {known : List Value}
    {state event : Value} {step : Step} :
    (∀ rule ∈ step.rules known, rule.Declines m state event) ↔
      step.Declines m known state event := by
  simp only [rules_eq_map_sources, List.forall_mem_map, Rule.declines_iff, Declines]

/-- The rule of a step that decides is the one from the source that the step covers the state
from. The event is the same for all of them, so before that source no state was equal. -/
theorem isFirst_rules_iff {m : Interpretation} {known : List Value} {state event : Value}
    {step : Step} {rule : Rule} :
    IsFirst (Rule.Declines m state event) (step.rules known) rule ∧
        rule.Applies m state event ↔
      ∃ source, step.Covers m known state event source ∧
        rule = ⟨source, step.event, step.target⟩ := by
  rw [rules_eq_map_sources, IsFirst.map_iff]
  constructor
  · rintro ⟨⟨source, hfirst, rfl⟩, happlies⟩
    obtain ⟨hsource, hevent⟩ := Rule.applies_iff.mp happlies
    refine ⟨source, ⟨hfirst.imp ?_, hsource, hevent⟩, rfl⟩
    intro other hother
    rcases Rule.declines_iff.mp hother with hdiffers | ⟨_, hevent'⟩
    · exact hdiffers
    · cases hevent.symm.trans hevent'
  · rintro ⟨source, hcovers, rfl⟩
    refine ⟨⟨source, hcovers.first.imp ?_, rfl⟩, ?_⟩
    · intro other hother
      exact Rule.declines_iff.mpr (.inl hother)
    · exact Rule.applies_iff.mpr ⟨hcovers.source, hcovers.event⟩

end Step

/-- The states that are known just before the step at a place in a row of steps. -/
def knownBefore (m : Interpretation) (steps : List Step) (j : Nat) : List Value :=
  (Table.empty.takeSteps m (steps.take j)).table.states

/-- Whether no step of a row covers a state and an event, each saying so. -/
def Undecided (m : Interpretation) (steps : List Step) (state event : Value) : Prop :=
  ∀ (j : Nat) (step : Step), steps[j]? = some step →
    step.Declines m (knownBefore m steps j) state event

/-- Whether the step at a place in a row is the earliest that covers a state and an event, and
from which of its sources. -/
structure Decides (m : Interpretation) (steps : List Step) (state event : Value) (j : Nat)
    (step : Step) (source : Value) : Prop where
  here : steps[j]? = some step
  covers : step.Covers m (knownBefore m steps j) state event source
  earliest : ∀ i < j, ∀ earlier, steps[i]? = some earlier →
    earlier.Declines m (knownBefore m steps i) state event

namespace Table

variable {m : Interpretation} {steps : List Step} {state event : Value}

theorem rules_takeSteps_empty (h : (Table.empty.takeSteps m steps).act.result = .ok ()) :
    (Table.empty.takeSteps m steps).table.rules =
      (Table.empty.phases m steps).flatMap fun phase => phase.1.rules phase.2 := by
  rw [rules_takeSteps_of_ok h]
  rfl

theorem getElem?_phases_empty_iff (h : (Table.empty.takeSteps m steps).act.result = .ok ())
    {j : Nat} {phase : Step × List Value} :
    (Table.empty.phases m steps)[j]? = some phase ↔
      steps[j]? = some phase.1 ∧ phase.2 = knownBefore m steps j := by
  rw [getElem?_phases_of_ok h j, Option.map_eq_some_iff]
  constructor
  · rintro ⟨step, hstep, rfl⟩
    exact ⟨hstep, rfl⟩
  · rintro ⟨hstep, hknown⟩
    exact ⟨phase.1, hstep, Prod.ext rfl hknown.symm⟩

theorem search_takeSteps_eq_none_iff
    (h : (Table.empty.takeSteps m steps).act.result = .ok ()) :
    ((Table.empty.takeSteps m steps).table.search m state event).result = .ok none ↔
      Undecided m steps state event := by
  rw [result_search_eq_ok_none_iff, rules_takeSteps_empty h]
  constructor
  · intro hall j step hstep
    refine Step.forall_rules_declines_iff.mp fun rule hrule => hall rule ?_
    have hphase := (getElem?_phases_empty_iff h).mpr
      (show steps[j]? = some (step, knownBefore m steps j).1 ∧ _ from ⟨hstep, rfl⟩)
    exact List.mem_flatMap.mpr ⟨_, List.mem_of_getElem? hphase, hrule⟩
  · intro hall rule hrule
    obtain ⟨phase, hmem, hrule⟩ := List.mem_flatMap.mp hrule
    obtain ⟨j, hj⟩ := List.mem_iff_getElem?.mp hmem
    obtain ⟨hstep, hknown⟩ := (getElem?_phases_empty_iff h).mp hj
    rw [hknown] at hrule
    exact Step.forall_rules_declines_iff.mpr (hall j phase.1 hstep) rule hrule

theorem search_takeSteps_eq_some_iff
    (h : (Table.empty.takeSteps m steps).act.result = .ok ()) {rule : Rule} :
    ((Table.empty.takeSteps m steps).table.search m state event).result = .ok (some rule) ↔
      ∃ j step source, Decides m steps state event j step source ∧
        rule = ⟨source, step.event, step.target⟩ := by
  rw [result_search_eq_ok_some_iff, rules_takeSteps_empty h, IsFirst.flatMap_iff]
  simp only [Step.forall_rules_declines_iff]
  constructor
  · rintro ⟨⟨phase, hphase, hfirst⟩, happlies⟩
    obtain ⟨j, hj, hbefore⟩ := IsFirst.iff_getElem?.mp hphase
    obtain ⟨hstep, hknown⟩ := (getElem?_phases_empty_iff h).mp hj
    obtain ⟨source, hcovers, hrule⟩ := Step.isFirst_rules_iff.mp ⟨hfirst, happlies⟩
    refine ⟨j, phase.1, source, ⟨hstep, hknown ▸ hcovers, ?_⟩, hrule⟩
    intro i hi earlier hearlier
    exact hbefore i hi (earlier, knownBefore m steps i)
      ((getElem?_phases_empty_iff h).mpr ⟨hearlier, rfl⟩)
  · rintro ⟨j, step, source, hdecides, hrule⟩
    obtain ⟨hfirst, happlies⟩ := Step.isFirst_rules_iff.mpr ⟨source, hdecides.covers, hrule⟩
    refine ⟨⟨(step, knownBefore m steps j), ?_, hfirst⟩, happlies⟩
    refine IsFirst.iff_getElem?.mpr ⟨j, ?_, ?_⟩
    · exact (getElem?_phases_empty_iff h).mpr ⟨hdecides.here, rfl⟩
    · intro i hi phase hphase
      obtain ⟨hearlier, hknown⟩ := (getElem?_phases_empty_iff h).mp hphase
      rw [hknown]
      exact hdecides.earliest i hi phase.1 hearlier

end Table

/-- A step that decides covers the state and the event from one of its sources. -/
theorem Decides.covered {m : Interpretation} {steps : List Step} {state event : Value} {j : Nat}
    {step : Step} {source : Value} (h : Decides m steps state event j step source) :
    steps[j]? = some step ∧ step.event.Equals m event ∧
      ∃ source ∈ step.sources (knownBefore m steps j), source.Equals m state :=
  ⟨h.here, h.covers.event, source, h.covers.first.mem, h.covers.source⟩

/-- Where no step covers a state and an event, none has a source that equals the state beside
an event that equals the event. -/
theorem Undecided.not_covered {m : Interpretation} {steps : List Step} {state event : Value}
    (h : Undecided m steps state event) :
    ¬∃ (j : Nat) (step : Step), steps[j]? = some step ∧ step.event.Equals m event ∧
      ∃ source ∈ step.sources (knownBefore m steps j), source.Equals m state := by
  rintro ⟨j, step, hstep, hevent, source, hmem, hsource⟩
  rcases h j step hstep source hmem with hdiffers | ⟨_, hevent'⟩
  · cases hdiffers.symm.trans hsource
  · cases hevent'.symm.trans hevent

namespace Table

variable {m : Interpretation} {steps : List Step} {state event : Value}

/-- Where every comparison with the state and the event gives an answer, a search gets to an
end, and it comes upon nothing just when no step covers the two. -/
theorem search_takeSteps_of_answers
    (h : (Table.empty.takeSteps m steps).act.result = .ok ())
    (hanswers : ∀ rule ∈ (Table.empty.takeSteps m steps).table.rules,
      ∃ answer, (rule.applies m state event).result = .ok answer) :
    (∃ found, ((Table.empty.takeSteps m steps).table.search m state event).result =
        .ok found) ∧
      (((Table.empty.takeSteps m steps).table.search m state event).result = .ok none ↔
        ¬∃ (j : Nat) (step : Step), steps[j]? = some step ∧ step.event.Equals m event ∧
          ∃ source ∈ step.sources (knownBefore m steps j), source.Equals m state) := by
  obtain ⟨found, hfound⟩ := result_search_of_answers fun rule hrule => by
    obtain ⟨answer, hanswer⟩ := hanswers rule hrule
    cases answer with
    | true => exact .inr hanswer
    | false => exact .inl hanswer
  refine ⟨⟨found, hfound⟩, ?_, ?_⟩
  · intro hnone
    exact ((search_takeSteps_eq_none_iff h).mp hnone).not_covered
  · intro hnot
    cases found with
    | none => exact hfound
    | some rule =>
        obtain ⟨j, step, source, hdecides, _⟩ := (search_takeSteps_eq_some_iff h).mp hfound
        exact absurd ⟨j, step, hdecides.covered⟩ hnot

/-- An entity moves by the earliest step that covers its state and the event. -/
theorem result_transit_takeSteps_eq_ok_moved_iff
    (h : (Table.empty.takeSteps m steps).act.result = .ok ()) {accessor : Accessor}
    {entity copy : Value} (hstate : (accessor.get m entity).result = .ok state) :
    (transit m accessor (Table.empty.takeSteps m steps).table entity event).result =
        .ok (.moved copy) ↔
      ∃ j step source next, Decides m steps state event j step source ∧
        step.target.Gives m entity next ∧
        (∃ record, (moveRecord m state event next).result = .ok record) ∧
        (accessor.set m entity next).result = .ok copy := by
  rw [result_transit_eq_ok_moved_iff hstate]
  constructor
  · rintro ⟨rule, next, hfound, hnext, hrecord, hcopy⟩
    obtain ⟨j, step, source, hdecides, rfl⟩ := (search_takeSteps_eq_some_iff h).mp hfound
    exact ⟨j, step, source, next, hdecides, hnext, hrecord, hcopy⟩
  · rintro ⟨j, step, source, next, hdecides, hnext, hrecord, hcopy⟩
    have hfound := (search_takeSteps_eq_some_iff h).mpr ⟨j, step, source, hdecides, rfl⟩
    exact ⟨_, next, hfound, hnext, hrecord, hcopy⟩

end Table

/-- In the table that some declarations are built into, the earliest step that covers a state and an
event decides. What is found is its rule from the first source that equals the state, and nothing is
found when no step covers the two. An entity in that state moves by that step: to its literal state,
or to what its guard gives when it is called with the entity, as long as the record of the move can
be written and the state can be set.

The state and the event are any values (see `StateRules.Proofs.Table.Search`). A comparison that
neither says yes nor no ends the search. Where every comparison with the state and the event gives
an answer, the search gets to an end, and it comes upon nothing just when no step has both an event
that equals the event and a source that equals the state. -/
theorem earliest_step_decides {m : Interpretation} {declarations : List Value} {table : Table}
    (h : (build m declarations).result = .ok table) (state event : Value) :
    let steps := declarations.flatMap Value.steps
    ((table.search m state event).result = .ok none ↔ Undecided m steps state event) ∧
      (∀ rule, (table.search m state event).result = .ok (some rule) ↔
        ∃ j step source, Decides m steps state event j step source ∧
          rule = ⟨source, step.event, step.target⟩) ∧
      ((∀ rule ∈ table.rules, ∃ answer, (rule.applies m state event).result = .ok answer) →
        (∃ found, (table.search m state event).result = .ok found) ∧
        ((table.search m state event).result = .ok none ↔
          ¬∃ (j : Nat) (step : Step), steps[j]? = some step ∧ step.event.Equals m event ∧
            ∃ source ∈ step.sources (knownBefore m steps j), source.Equals m state)) ∧
      ∀ (accessor : Accessor) (entity : Value), (accessor.get m entity).result = .ok state →
        ((transit m accessor table entity event).result = .ok .notAllowed ↔
          Undecided m steps state event ∧
            ∃ record, (refusalRecord m state event).result = .ok record) ∧
        ∀ copy, (transit m accessor table entity event).result = .ok (.moved copy) ↔
          ∃ j step source next, Decides m steps state event j step source ∧
            step.target.Gives m entity next ∧
            (∃ record, (moveRecord m state event next).result = .ok record) ∧
            (accessor.set m entity next).result = .ok copy := by
  intro steps
  obtain ⟨hextend, rfl⟩ := Extension.result_finish_eq_ok_iff.mp h
  have hagrees := Table.extend_agrees_of_accepted (Table.accepted_of_extend_ok hextend) .empty
  have hsteps : (Table.empty.takeSteps m steps).act.result = .ok () := hagrees.result ▸ hextend
  rw [hagrees.table]
  refine ⟨Table.search_takeSteps_eq_none_iff hsteps,
    fun _ => Table.search_takeSteps_eq_some_iff hsteps,
    Table.search_takeSteps_of_answers hsteps, ?_⟩
  intro accessor entity hstate
  refine ⟨?_, fun _ => Table.result_transit_takeSteps_eq_ok_moved_iff hsteps hstate⟩
  rw [result_transit_eq_ok_notAllowed_iff hstate, Table.search_takeSteps_eq_none_iff hsteps]

/-- An order that is paid, may be dropped in any state known by then, and is sent. -/
def orderDeclarations : List Value :=
  [.declaration (.simple (.text "new") (.text "paid") (.text "pay")),
    .declaration (.simple .any (.text "void") (.text "drop")),
    .declaration (.sourceBlock (.text "paid") .unset .null
      [.declaration (.toEntry (.text "sent") (.text "send"))])]

/-- A paid order is dropped by the second step, from the second of its sources, and is void then. -/
theorem earliest_step_decides_order :
    ∃ table, (build .exhausted orderDeclarations).result = .ok table ∧
      (table.search .exhausted (.text "paid") (.text "drop")).result =
        .ok (some ⟨.text "paid", .text "drop", .literal (.text "void")⟩) ∧
      (transit .exhausted .standard table (.mapping .plain [(.text "state", .text "paid")])
        (.text "drop")).result =
          .ok (.moved (.mapping .plain [(.text "state", .text "void")])) := by
  have hbuild : (build .exhausted orderDeclarations).result = .ok _ := rfl
  have hdecides : Decides .exhausted (orderDeclarations.flatMap Value.steps) (.text "paid")
      (.text "drop") 1 ⟨.any, .text "drop", .literal (.text "void")⟩ (.text "paid") := by
    refine ⟨rfl, ⟨⟨[.text "new"], [], rfl, ?_⟩, rfl, rfl⟩, ?_⟩
    · intro other hother
      obtain rfl := List.mem_singleton.mp hother
      rfl
    · intro i hi earlier hearlier
      obtain rfl : i = 0 := by omega
      obtain rfl := Option.some.inj hearlier
      intro source hsource
      obtain rfl := List.mem_singleton.mp hsource
      exact .inl rfl
  obtain ⟨_, hfound, _, hmoves⟩ := earliest_step_decides hbuild (.text "paid") (.text "drop")
  refine ⟨_, hbuild, (hfound _).mpr ⟨1, _, _, hdecides, rfl⟩, ?_⟩
  exact ((hmoves .standard _ rfl).2 _).mpr
    ⟨1, _, _, .text "void", hdecides, rfl, ⟨_, rfl⟩, rfl⟩

/-- A draft with an author but with no title yet, whose `repr` asks for both. -/
def untitled : Value :=
  .object ⟨"Draft", "Draft", .record, ["author", "title"], ["title"], [], "Draft", none, false,
    false, false⟩ [] ⟨0, 0⟩ [("author", .text "x")]

/-- Calls of guards that give a draft that has no title yet. -/
def drafting : Interpretation := .upTo (fun _ => .give fun _ => pure untitled) 1

/-- A move that is decided, to a state that can be set, may still fail: what the guard gives has to
be written for the record of the move first. -/
theorem decided_move_fails_of_unwritable :
    ¬∀ (m : Interpretation) (declarations : List Value) (table : Table) (accessor : Accessor)
        (entity state event : Value) (j : Nat) (step : Step) (source next copy : Value),
      (build m declarations).result = .ok table → (accessor.get m entity).result = .ok state →
        Decides m (declarations.flatMap Value.steps) state event j step source →
          step.target.Gives m entity next → (accessor.set m entity next).result = .ok copy →
            (transit m accessor table entity event).result = .ok (.moved copy) := by
  intro hall
  have hcovers : Step.Covers drafting [] (.text "new") (.text "check")
      ⟨.text "new", .text "check", .guarded orderGuard .unset⟩ (.text "new") :=
    ⟨⟨[], [], rfl, fun _ hother => absurd hother List.not_mem_nil⟩, rfl, rfl⟩
  have hmoved :=
    hall drafting (eventFrom .unset (.text "check") orderGuard [.text "new"]) _ .standard
    (.mapping .plain [(.text "state", .text "new")]) (.text "new") (.text "check") 0 _ (.text "new")
    untitled _ rfl rfl ⟨rfl, hcovers, fun i hi => absurd hi (Nat.not_lt_zero i)⟩ rfl rfl
  cases hmoved

end StateRules
