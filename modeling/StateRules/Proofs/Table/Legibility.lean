import StateRules.Proofs.Table.Catalog
import StateRules.Proofs.Table.Soundness

/-!
What stands in a table can be written.

A declaration is rendered before it is checked, so whatever it mentions has been written once by
the time that its rules get in (`Value.Accepted.legible_steps`). The sources of the rules that a
step for `any` stands for are known states, which earlier rules have mentioned. So all that a
reachable table holds can be written (`Table.Reachable.isLegible`), and where a value can be written
does not depend on where it stands.
-/

namespace StateRules

variable {m : Interpretation}

/-- Whether all that a rule mentions can be written. -/
structure Rule.IsLegible (m : Interpretation) (rule : Rule) : Prop where
  source : rule.source.IsWritable m
  event : rule.event.IsWritable m
  guard : ∀ guard, rule.guard? = some guard → guard.IsWritable m
  named : ∀ v ∈ rule.target.named, v.IsWritable m

theorem Rule.IsLegible.states {rule : Rule} (h : rule.IsLegible m) :
    ∀ v ∈ rule.states, v.IsWritable m :=
  List.forall_mem_cons.mpr ⟨h.source, h.named⟩

theorem isLegible_literal {source event destination : Value} (hsource : source.IsWritable m)
    (hevent : event.IsWritable m) (hdestination : destination.IsWritable m) :
    Rule.IsLegible m ⟨source, event, .literal destination⟩ where
  source := hsource
  event := hevent
  guard := by
    intro guard hguard
    cases hguard
  named := List.forall_mem_singleton.mpr hdestination

/-- An entry of an event block is legible if its parts are, where a state that is left out beside
a guard is none. -/
theorem isLegible_entryTarget {source event guard destination : Value}
    (hsource : source.IsWritable m) (hevent : event.IsWritable m)
    (hguard : guard.isNull = false → guard.IsWritable m)
    (hgiven : guard.isNull = true → destination.isUnset = false)
    (hdestination : destination.isUnset = false → destination.IsWritable m) :
    Rule.IsLegible m ⟨source, event, entryTarget guard destination⟩ := by
  unfold entryTarget
  split
  · next hnull => exact isLegible_literal hsource hevent (hdestination (hgiven hnull))
  · next hnull =>
      refine ⟨hsource, hevent, ?_, ?_⟩
      · intro other hother
        obtain rfl : guard = other := Option.some.inj hother
        exact hguard (eq_false_of_ne_true hnull)
      · cases hunset : destination.isUnset with
        | true => simp [Target.named, hunset]
        | false => simp [Target.named, hunset, hdestination hunset]

/-- What a declaration reads as can be written if the declaration can be rendered and is sound. -/
theorem Declaration.Renders.legible_steps {d : Declaration} (h : d.Renders m)
    (hsound : d.IsSound m) : ∀ step ∈ d.steps, step.rule.IsLegible m := by
  cases d with
  | simple source destination event =>
      obtain ⟨hsource, hdestination, hlabel⟩ := renders_simple_iff.mp h
      obtain ⟨hgiven, hevent, _⟩ := hsound
      have hlabel := hlabel (Value.isNull_of_isEvent hevent)
      exact List.forall_mem_singleton.mpr
        (isLegible_literal hsource.isWritable hlabel (hdestination hgiven))
  | sourceBlock source destination event entries =>
      obtain ⟨hsource, hrenders⟩ := renders_sourceBlock_iff.mp h
      obtain ⟨_, _, hentries⟩ := hsound
      intro step hstep
      obtain ⟨entry, hentry, hstep⟩ := List.mem_flatMap.mp hstep
      obtain ⟨destination, event, rfl, hevent, _⟩ := hentries entry hentry
      obtain rfl := List.mem_singleton.mp hstep
      have hentry := rendersInSource_declaration_iff.mp (hrenders _ hentry)
      obtain ⟨hdestination, hlabel⟩ := renders_toEntry_iff.mp hentry
      exact isLegible_literal hsource (hlabel (Value.isNull_of_isEvent hevent)) hdestination
  | toEntry destination event => exact hsound.elim
  | eventBlock event entries guard =>
      obtain ⟨hevent, hrenders, hguard⟩ := renders_eventBlock_iff.mp h
      obtain ⟨_, _, hentries⟩ := hsound
      intro step hstep
      obtain ⟨entry, hentry, hstep⟩ := List.mem_flatMap.mp hstep
      obtain ⟨source, destination, rfl, hgiven, _⟩ := hentries entry hentry
      obtain rfl := List.mem_singleton.mp hstep
      have hentry := rendersInEvent_declaration_iff.mp (hrenders _ hentry)
      obtain ⟨hsource, hdestination, _⟩ := renders_simple_iff.mp hentry
      exact isLegible_entryTarget hsource.isWritable hevent hguard hgiven hdestination

theorem Value.Accepted.legible_steps {v : Value} (h : v.Accepted m) :
    ∀ step ∈ v.steps, step.rule.IsLegible m := by
  obtain ⟨hrenders, hsound⟩ := Value.accepted_iff.mp h
  cases v with
  | declaration d => exact Declaration.Renders.legible_steps hrenders hsound
  | _ => exact hsound.elim

/-- Whether all that a table holds can be written. -/
structure Table.IsLegible (m : Interpretation) (table : Table) : Prop where
  rules : ∀ rule ∈ table.rules, rule.IsLegible m
  states : ∀ k ∈ table.states, k.IsWritable m

namespace Table

theorem isLegible_empty : Table.empty.IsLegible m := ⟨by simp [empty], by simp [empty]⟩

/-- A legible table stays legible when a legible rule enters, whatever becomes of that. -/
theorem IsLegible.enter {table : Table} (h : table.IsLegible m) {rule : Rule}
    (hrule : rule.IsLegible m) : (table.enter m rule).1.IsLegible m where
  rules := forall_rules_enter h.rules hrule
  states := forall_states_enter h.states hrule.states

theorem IsLegible.rules_of_step {table : Table} (h : table.IsLegible m) {step : Step}
    (hstep : step.rule.IsLegible m) : ∀ rule ∈ step.rules table.states, rule.IsLegible m := by
  refine Step.forall_rules (fun _ k hk => ?_) fun _ => hstep
  exact ⟨h.states k hk, hstep.event, hstep.guard, hstep.named⟩

/-- All that a reachable table holds can be written. -/
theorem Reachable.isLegible {table : Table} (h : table.Reachable m) : table.IsLegible m := by
  refine h.induction (P := IsLegible m) (Q := Rule.IsLegible m) isLegible_empty
    (fun _ _ htable hrule => htable.enter hrule) ?_
  intro table htable declaration steps hcheck step hstep
  obtain rfl := Value.steps_of_check hcheck
  have haccepted : declaration.Accepted m := ⟨_, hcheck⟩
  exact htable.rules_of_step (haccepted.legible_steps step hstep)

theorem IsLegible.mentionedStates {table : Table} (h : table.IsLegible m) :
    ∀ v ∈ table.mentionedStates, v.IsWritable m := by
  intro v hv
  obtain ⟨rule, hrule, hmem⟩ := List.mem_flatMap.mp hv
  exact (h.rules rule hrule).states v hmem

end Table

end StateRules
