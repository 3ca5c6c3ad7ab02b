import StateRules.Proofs.Table.Conservation
import StateRules.Proofs.Table.Legibility

/-!
Building a table again from its rules.

Each rule of a table reads as a declaration (`Rule.declaration`). The catalogs that grew through
blocks and steps for `any` come of the rules alone, one after the other: what a step stands for is
settled by the time that its first rule enters, and a step that stands for no rule leaves nothing
behind (`Table.takeRules_agrees_takeSteps`). So the declarations that the rules read as, if they are
accepted, build the same table again and no other.

Nothing that a rule is made of is refused: the source is a proper state, the event is one, the
destination is known in advance and the guard can be called, as all of it has been checked once, and
all of it can be written (`Table.Reachable.isSound`, `Table.Reachable.isLegible`). But a declaration
of its own wants its source to go by a text, and the head of a block does not. This is all that it
takes (`Rule.accepted_declaration_iff`).
-/

namespace StateRules

variable {m : Interpretation}

/-- The declaration that a rule reads as: a simple one, or an event block with one entry under the
guard. -/
def Rule.declaration (rule : Rule) : Value :=
  match rule.target with
  | .literal destination => .declaration (.simple rule.source destination rule.event)
  | .guarded guard declared =>
      .declaration (.eventBlock rule.event [.declaration (.simple rule.source declared .null)]
        guard)

/-- Whether no entry of a source block leads to `unset`. -/
def Value.IsGiven : Value → Prop
  | .declaration (.sourceBlock _ _ _ entries) => ∀ destination event,
      .declaration (.toEntry destination event) ∈ entries → destination.isUnset = false
  | _ => True

/-- Whether a target is not the literal destination `unset`. -/
def Target.IsGiven (target : Target) : Prop :=
  ∀ destination, target = .literal destination → destination.isUnset = false

theorem isGiven_entryTarget {guard destination : Value}
    (h : guard.isNull = true → destination.isUnset = false) :
    (entryTarget guard destination).IsGiven := by
  intro other hother
  unfold entryTarget at hother
  split at hother
  · next hnull =>
      obtain rfl : destination = other := Target.literal.inj hother
      exact h hnull
  · cases hother

/-- The steps of an accepted declaration have destinations that are there, if the entries of source
blocks do: everywhere else this is checked. -/
theorem Value.Accepted.given_steps {v : Value} (h : v.Accepted m) (hgiven : v.IsGiven) :
    ∀ step ∈ v.steps, step.target.IsGiven := by
  obtain ⟨_, hsound⟩ := Value.accepted_iff.mp h
  cases v with
  | declaration d =>
      cases d with
      | simple source destination event =>
          obtain ⟨hunset, _⟩ := hsound
          refine List.forall_mem_singleton.mpr fun other hother => ?_
          obtain rfl : destination = other := Target.literal.inj hother
          exact hunset
      | sourceBlock source destination event entries =>
          obtain ⟨_, _, hentries⟩ := hsound
          intro step hstep other hother
          obtain ⟨entry, hentry, hstep⟩ := List.mem_flatMap.mp hstep
          obtain ⟨destination, event, rfl, _⟩ := hentries entry hentry
          obtain rfl := List.mem_singleton.mp hstep
          obtain rfl : destination = other := Target.literal.inj hother
          exact hgiven destination event hentry
      | toEntry destination event => exact hsound.elim
      | eventBlock event entries guard =>
          obtain ⟨_, _, hentries⟩ := hsound
          intro step hstep
          obtain ⟨entry, hentry, hstep⟩ := List.mem_flatMap.mp hstep
          obtain ⟨source, destination, rfl, hunset, _⟩ := hentries entry hentry
          obtain rfl := List.mem_singleton.mp hstep
          exact isGiven_entryTarget hunset
  | _ => exact hsound.elim

/-- Values without parts go by texts. -/
theorem Value.isNamed_of_isAtom {v : Value} (h : v.isAtom = true) : v.IsNamed m := by
  refine ⟨.text v.label, v.label, ?_, rfl⟩
  rw [naming_of_isAtom m h]
  rfl

theorem Value.IsName.isEvent {event : Value} (h : event.IsName m) :
    (event.isEvent m).result = .ok true :=
  Act.result_bind_eq_ok_iff.mpr ⟨true, h.isText, h.counts⟩

namespace Rule

/-- What a sound rule reads as reads as the rule. -/
theorem steps_declaration {rule : Rule} (h : rule.IsSound m) :
    rule.declaration.steps = [⟨rule.source, rule.event, rule.target⟩] := by
  obtain ⟨source, event, target⟩ := rule
  cases target with
  | literal destination => rfl
  | guarded guard declared =>
      obtain ⟨hguard, _⟩ := h.target
      have htarget : entryTarget guard declared = .guarded guard declared := by
        simp [entryTarget, hguard]
      show [(⟨source, event, entryTarget guard declared⟩ : Step)] = _
      rw [htarget]

/-- What a sound and legible rule reads as is accepted exactly if its source goes by a text. -/
theorem accepted_declaration_iff {rule : Rule} (hsound : rule.IsSound m)
    (hlegible : rule.IsLegible m) (hgiven : rule.target.IsGiven) :
    rule.declaration.Accepted m ↔ rule.source.IsNamed m := by
  obtain ⟨source, event, target⟩ := rule
  have hevent : (event.isEvent m).result = .ok true := hsound.event.isEvent
  have hlabel : event.IsWritable m := hlegible.event
  cases target with
  | literal destination =>
      have hunset : destination.isUnset = false := hgiven destination rfl
      have hdestination : destination.IsDestination := hsound.target
      have hwritten : destination.IsWritable m :=
        hlegible.named destination List.mem_cons_self
      show (Value.declaration (.simple source destination event)).Accepted m ↔ _
      rw [accepted_simple_iff]
      exact and_iff_left ⟨hunset, hwritten, hlabel, hdestination, hevent⟩
  | guarded guard declared =>
      obtain ⟨hnull, hcallable, hdeclared⟩ := hsound.target
      have hdestination : declared.IsDestination := by
        rcases hdeclared with hunset | hdestination
        · cases declared with
          | unset => exact ⟨rfl, rfl⟩
          | _ => cases hunset
        · exact hdestination
      have hwritten : declared.isUnset = false → declared.IsWritable m := by
        intro hunset
        apply hlegible.named
        simp [Target.named, hunset]
      show (Value.declaration (.eventBlock event [.declaration (.simple source declared .null)]
        guard)).Accepted m ↔ _
      rw [Declaration.accepted_iff, renders_eventBlock_iff, List.forall_mem_singleton,
        rendersInEvent_declaration_iff, renders_simple_iff]
      constructor
      · rintro ⟨⟨_, ⟨hnamed, _⟩, _⟩, _⟩
        exact hnamed
      · intro hnamed
        have hentry :
            Value.IsSoundFromEntry guard (.declaration (.simple source declared .null)) := by
          refine ⟨source, declared, rfl, fun h => ?_, hdestination⟩
          cases hnull.symm.trans h
        refine ⟨⟨hlabel, ⟨hnamed, hwritten, fun h => ?_⟩, fun _ => hlegible.guard guard rfl⟩,
          hevent, .inr hcallable, List.forall_mem_singleton.mpr hentry⟩
        cases h

end Rule

namespace Table

theorem takeRules_append (m : Interpretation) (table : Table) (first second : List Rule) :
    table.takeRules m (first ++ second) =
      (table.takeRules m first).andThen fun table => table.takeRules m second := by
  induction first generalizing table with
  | nil => rfl
  | cons rule rest ih =>
      simp only [List.cons_append, takeRules, Extension.andThen_assoc]
      congr 1
      funext table
      exact ih table

/-- A step that gets in comes to its rules, of which there may be none. -/
theorem takeRules_agrees_takeStep {table : Table} {step : Step}
    (h : (table.takeStep m step).act.result = .ok ()) :
    (table.takeRules m (step.rules table.states)).Agrees (table.takeStep m step) := by
  unfold takeStep at h ⊢
  split
  · next hnone =>
      rw [if_pos hnone] at h
      simp only [Bool.and_eq_true, List.isEmpty_iff] at hnone
      have hrules : step.rules table.states = [] := by simp [Step.rules, hnone.1, hnone.2]
      rw [hrules]
      exact ⟨rfl, h.symm⟩
  · exact .refl _

/-- Steps that get in come to the rules of their phases, which can enter one after the other without
regard to the steps that they are of. -/
theorem takeRules_agrees_takeSteps {table : Table} {steps : List Step}
    (h : (table.takeSteps m steps).act.result = .ok ()) :
    (table.takeRules m ((table.phases m steps).flatMap fun phase => phase.1.rules phase.2)).Agrees
      (table.takeSteps m steps) := by
  induction steps generalizing table with
  | nil => exact .refl _
  | cons step rest ih =>
      rw [takeSteps] at h ⊢
      obtain ⟨hstep, hrest⟩ := Extension.result_andThen_eq_ok_iff.mp h
      have hfirst := takeRules_agrees_takeStep hstep
      rw [phases, List.flatMap_cons, takeRules_append]
      refine (Extension.andThen_agrees_of_ok (hfirst.result.trans hstep) _).trans ?_
      rw [hfirst.table]
      have hboth := Extension.andThen_agrees_of_ok hstep fun table => table.takeSteps m rest
      exact (ih hrest).trans hboth.symm

/-- The rules of a table that steps lead to from the empty one enter it again as they stand. -/
theorem takeRules_rules_agrees {steps : List Step}
    (h : (Table.empty.takeSteps m steps).act.result = .ok ()) :
    (Table.empty.takeRules m (Table.empty.takeSteps m steps).table.rules).Agrees
      (Table.empty.takeSteps m steps) := by
  rw [rules_takeSteps_of_ok h]
  exact takeRules_agrees_takeSteps h

/-- Sound rules come to the same as the declarations that they read as. -/
theorem takeSteps_declarations_agrees {rules : List Rule} (h : ∀ rule ∈ rules, rule.IsSound m)
    (table : Table) :
    (table.takeSteps m ((rules.map Rule.declaration).flatMap Value.steps)).Agrees
      (table.takeRules m rules) := by
  have hsteps : (rules.map Rule.declaration).flatMap Value.steps =
      rules.map fun rule => (⟨rule.source, rule.event, rule.target⟩ : Step) := by
    rw [List.flatMap_map]
    induction rules with
    | nil => rfl
    | cons rule rest ih =>
        obtain ⟨hrule, hrest⟩ := List.forall_mem_cons.mp h
        rw [List.flatMap_cons, ih hrest, Rule.steps_declaration hrule, List.map_cons,
          List.singleton_append]
  have hown : ∀ step ∈ rules.map fun rule => (⟨rule.source, rule.event, rule.target⟩ : Step),
      step.source.isAny = false :=
    List.forall_mem_map.mpr fun rule hrule => (h rule hrule).source
  have hagrees : (table.takeSteps m _).Agrees _ := takeSteps_agrees_takeRules hown
  rw [List.map_map] at hagrees
  rw [hsteps]
  have hrules : rules.map (Step.rule ∘ fun rule : Rule =>
      (⟨rule.source, rule.event, rule.target⟩ : Step)) = rules := List.map_id rules
  rwa [hrules] at hagrees

end Table

/-- The targets of the rules of a built table are there, if those of the declarations are. -/
theorem isGiven_of_build {declarations : List Value} {table : Table}
    (hgiven : ∀ declaration ∈ declarations, declaration.IsGiven)
    (hbuild : (build m declarations).result = .ok table) :
    ∀ rule ∈ table.rules, rule.target.IsGiven := by
  obtain ⟨haccepted, hok, rfl⟩ := build_eq_ok_iff.mp hbuild
  intro rule hrule
  rw [Table.rules_takeSteps_of_ok hok] at hrule
  obtain ⟨phase, hphase, hmem⟩ := List.mem_flatMap.mp hrule
  obtain ⟨hstep, _⟩ := Table.mem_phases_of_ok hok phase hphase
  obtain ⟨declaration, hdeclaration, hstep⟩ := List.mem_flatMap.mp hstep
  rw [Step.rules_eq_map_sources] at hmem
  obtain ⟨source, _, rfl⟩ := List.mem_map.mp hmem
  exact (haccepted declaration hdeclaration).given_steps (hgiven declaration hdeclaration) _ hstep

/-- A table is built again from what its rules read as, exactly if their sources go by texts. If no
entry of a source block leads to `unset`, what a rule of the table reads as is accepted exactly if
the source of the rule goes by a text, and if that holds of all rules, what they read as is built
into the same table, catalogs and their order included. Otherwise it is not built at all. -/
theorem rebuilds_iff_named {m : Interpretation} {declarations : List Value} {table : Table}
    (hgiven : ∀ declaration ∈ declarations, declaration.IsGiven)
    (hbuild : (build m declarations).result = .ok table) :
    (∀ rule ∈ table.rules, (rule.declaration.Accepted m ↔ rule.source.IsNamed m)) ∧
      ((build m (table.rules.map Rule.declaration)).result = .ok table ↔
        ∀ rule ∈ table.rules, rule.source.IsNamed m) ∧
      ∀ table', (build m (table.rules.map Rule.declaration)).result = .ok table' →
        table' = table := by
  have hreachable := Table.Reachable.build hbuild
  have hsound := hreachable.isSound.rules
  have haccepted : ∀ rule ∈ table.rules,
      (rule.declaration.Accepted m ↔ rule.source.IsNamed m) := fun rule hrule =>
    Rule.accepted_declaration_iff (hsound rule hrule) (hreachable.isLegible.rules rule hrule)
      (isGiven_of_build hgiven hbuild rule hrule)
  obtain ⟨_, hok, htable⟩ := build_eq_ok_iff.mp hbuild
  have hagrees := Table.takeSteps_declarations_agrees hsound Table.empty
  have hagain := Table.takeRules_rules_agrees hok
  rw [htable] at hagain
  have hsame := hagrees.trans hagain
  refine ⟨haccepted, ?_, fun table' hrebuild => ?_⟩
  · rw [build_eq_ok_iff, List.forall_mem_map]
    constructor
    · rintro ⟨hall, _⟩ rule hrule
      exact (haccepted rule hrule).mp (hall rule hrule)
    · intro hnamed
      exact ⟨fun rule hrule => (haccepted rule hrule).mpr (hnamed rule hrule),
        hsame.result.trans hok, hsame.table.trans htable⟩
  · obtain ⟨_, _, htable'⟩ := build_eq_ok_iff.mp hrebuild
    rw [← htable', hsame.table, htable]

/-- Orders that may also be checked in any state known by then, with a state beside the guard. -/
def checkedOrders : List Value :=
  orderDeclarations ++ [.declaration (.eventBlock (.text "check")
    [.declaration (.simple .any (.text "held") .null)] orderGuard)]

/-- The eight rules of these orders, four of them guarded, are built into the same table. -/
theorem rebuilds_iff_named_orders :
    ∃ table, (build .exhausted checkedOrders).result = .ok table ∧ table.rules.length = 8 ∧
      (build .exhausted (table.rules.map Rule.declaration)).result = .ok table := by
  have hbuild : (build .exhausted checkedOrders).result = .ok _ := rfl
  have hgiven : ∀ declaration ∈ checkedOrders, declaration.IsGiven := by
    simp only [checkedOrders, orderDeclarations, List.cons_append, List.nil_append,
      List.forall_mem_cons]
    refine ⟨trivial, trivial, ?_, trivial, by simp⟩
    intro destination event hentry
    cases List.mem_singleton.mp hentry
    rfl
  obtain ⟨_, hrebuild, _⟩ := rebuilds_iff_named hgiven hbuild
  refine ⟨_, hbuild, rfl, hrebuild.mpr ?_⟩
  have hatoms : ∀ rule ∈ (Table.empty.extend .exhausted checkedOrders).table.rules,
      rule.source.isAtom = true := by decide
  exact fun rule hrule => Value.isNamed_of_isAtom (hatoms rule hrule)

/-- A rule need not be accepted when it stands for itself, as one from the stage that goes by a
number is not. -/
theorem rules_are_not_rebuilt_of_unnamed :
    ¬∀ (m : Interpretation) (declarations : List Value) (table : Table),
      (∀ declaration ∈ declarations, declaration.IsGiven) →
        (build m declarations).result = .ok table →
          (∀ rule ∈ table.rules, rule.declaration.Accepted m) ∧
            (build m (table.rules.map Rule.declaration)).result = .ok table := by
  intro hall
  have hgiven : ∀ declaration ∈ [stageBlock], declaration.IsGiven := by
    refine List.forall_mem_singleton.mpr fun destination event hentry => ?_
    cases List.mem_singleton.mp hentry
    rfl
  obtain ⟨haccepted, _⟩ := hall _ _ _ hgiven build_stageBlock
  obtain ⟨hnamed, _⟩ := accepted_simple_iff.mp (haccepted _ List.mem_cons_self)
  exact not_isNamed_stage hnamed

end StateRules
