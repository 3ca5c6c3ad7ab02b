import StateRules.Declaration.Check
import StateRules.Proofs.Journal

/-!
What a declaration stands for, read off it without a check, and what its check asks for.

`Value.steps` is the reading: a simple declaration is one step, a source block one step for
each of its entries, an event block one step for each of its own. The check of a value that
is accepted comes to exactly these steps (`Value.steps_of_check`), so nothing else has to be
known of it to say which table it leads to.

Each check has one lemma that says when it gets through. The text that a refusal would
quote plays no part in that.
-/

namespace StateRules

/-- The step of an entry of a source block. What is no such entry stands for nothing. -/
def Value.toEntrySteps (source : Value) : Value → List Step
  | .declaration (.toEntry destination event) => [⟨source, event, .literal destination⟩]
  | _ => []

/-- Where an entry of an event block leads: to its destination, or to whatever the guard of
the block gives. -/
def entryTarget (guard destination : Value) : Target :=
  if guard.isNull then .literal destination else .guarded guard destination

/-- The step of an entry of an event block. What is no such entry stands for nothing. -/
def Value.fromEntrySteps (event guard : Value) : Value → List Step
  | .declaration (.simple source destination _) =>
      [⟨source, event, entryTarget guard destination⟩]
  | _ => []

/-- The steps that a declaration reads as, in order. -/
def Declaration.steps : Declaration → List Step
  | .simple source destination event => [⟨source, event, .literal destination⟩]
  | .sourceBlock source _ _ entries => entries.flatMap (Value.toEntrySteps source)
  | .toEntry _ _ => []
  | .eventBlock event entries guard => entries.flatMap (Value.fromEntrySteps event guard)

/-- The steps that a value reads as where a declaration should stand. -/
def Value.steps : Value → List Step
  | .declaration d => d.steps
  | _ => []

/-- Whether all that a step comes to mention by way of an entry is of one kind. -/
def Value.EntryWithin (P : Value → Prop) : Value → Prop
  | .declaration (.toEntry destination event) => P destination ∧ P event
  | .declaration (.simple source destination _) => P source ∧ P destination
  | _ => True

/-- Whether all that a declaration has its steps mention is of one kind. -/
def Declaration.Within (P : Value → Prop) : Declaration → Prop
  | .simple source destination event => P source ∧ P destination ∧ P event
  | .sourceBlock source _ _ entries => P source ∧ ∀ entry ∈ entries, entry.EntryWithin P
  | .toEntry _ _ => True
  | .eventBlock event entries guard =>
      P event ∧ P guard ∧ ∀ entry ∈ entries, entry.EntryWithin P

section Within

variable {P : Value → Prop} {source event guard destination : Value} (hsource : P source)
  (hevent : P event) (hdestination : P destination)
include hsource hevent hdestination

theorem Step.within_literal : Step.Within P ⟨source, event, .literal destination⟩ :=
  ⟨hsource, hevent, hdestination, List.forall_mem_singleton.mpr hdestination⟩

theorem Step.within_entryTarget (hguard : P guard) :
    Step.Within P ⟨source, event, entryTarget guard destination⟩ := by
  unfold entryTarget
  split
  · exact within_literal hsource hevent hdestination
  · refine ⟨hsource, hevent, hguard, ?_⟩
    intro v hv
    cases hunset : destination.isUnset with
    | true => simp [Target.named, hunset] at hv
    | false =>
        obtain rfl : v = destination := by simpa [Target.named, hunset] using hv
        exact hdestination

end Within

/-- What the steps of a declaration mention is of a kind that all it is made of is of. -/
theorem Declaration.Within.steps {P : Value → Prop} {d : Declaration} (h : d.Within P) :
    ∀ step ∈ d.steps, step.Within P := by
  cases d with
  | simple source destination event =>
      obtain ⟨hsource, hdestination, hevent⟩ := h
      exact List.forall_mem_singleton.mpr (Step.within_literal hsource hevent hdestination)
  | sourceBlock source destination event entries =>
      obtain ⟨hsource, hentries⟩ := h
      intro step hstep
      obtain ⟨entry, hentry, hstep⟩ := List.mem_flatMap.mp hstep
      have hwithin := hentries entry hentry
      unfold Value.toEntrySteps at hstep
      split at hstep
      · rw [List.mem_singleton.mp hstep]
        exact Step.within_literal hsource hwithin.2 hwithin.1
      · cases hstep
  | toEntry destination event => exact fun step hstep => absurd hstep List.not_mem_nil
  | eventBlock event entries guard =>
      obtain ⟨hevent, hguard, hentries⟩ := h
      intro step hstep
      obtain ⟨entry, hentry, hstep⟩ := List.mem_flatMap.mp hstep
      have hwithin := hentries entry hentry
      unfold Value.fromEntrySteps at hstep
      split at hstep
      · rw [List.mem_singleton.mp hstep]
        exact Step.within_entryTarget hwithin.1 hevent hwithin.2 hguard
      · cases hstep

/-- Whether a value is accepted as a declaration. -/
def Value.Accepted (m : Interpretation) (v : Value) : Prop :=
  ∃ steps, (v.check m).result = .ok steps

/-- Whether a value can be led to: it is known in advance, and it is not `any`. -/
structure Value.IsDestination (v : Value) : Prop where
  known : v.isFunction = false
  proper : v.isAny = false

@[simp]
theorem Objection.result_refuse {α : Type} (objection : Objection) (rendered : String) :
    (objection.refuse rendered : Act α).result =
      .error (.declaration (.invalid objection.reason (some rendered))) := rfl

/-- A piece of advice is never a way through. -/
@[simp]
theorem Objection.result_advise_ne_ok {α : Type} (m : Interpretation) (objection : Objection)
    (rendered : String) (replacement : Declaration) (a : α) :
    (objection.advise m rendered replacement : Act α).result ≠ .ok a := by
  intro h
  obtain ⟨suggestion, _, hfail⟩ := Act.result_bind_eq_ok_iff.mp h
  cases hfail

theorem Value.isFunctionFor_eq_ok_false_iff (m : Interpretation) (v : Value) :
    (v.isFunctionFor m).result = .ok false ↔ v.isFunction = false := by
  cases h : v.isFunction with
  | false => simp [isFunctionFor, h]
  | true =>
      simp only [isFunctionFor, h, if_true, reduceCtorEq, iff_false]
      intro hfalse
      obtain ⟨_, _, hrest⟩ := Act.result_bind_eq_ok_iff.mp hfalse
      obtain ⟨_, _, hpure⟩ := Act.result_bind_eq_ok_iff.mp hrest
      cases hpure

theorem checkEvent_eq_ok_iff (m : Interpretation) (rendered : String) (event : Value) :
    (checkEvent m rendered event).result = .ok () ↔ (event.isEvent m).result = .ok true := by
  rw [checkEvent, Act.result_bind_eq_ok_iff]
  constructor
  · rintro ⟨fit, hfit, hrest⟩
    cases fit with
    | true => exact hfit
    | false => simp [Act.result_bind_eq_ok_iff] at hrest
  · intro h
    exact ⟨true, h, rfl⟩

theorem checkState_eq_ok_iff (rendered : String) (destination : Value) :
    (checkState rendered destination).result = .ok () ↔ destination.isAny = false := by
  cases h : destination.isAny <;> simp [checkState, h]

theorem checkKnown_eq_ok_iff (m : Interpretation) (rendered : String)
    (source event destination : Value) :
    (checkKnown m rendered source event destination).result = .ok () ↔
      destination.isFunction = false := by
  rw [checkKnown, Act.result_bind_eq_ok_iff, ← Value.isFunctionFor_eq_ok_false_iff m]
  constructor
  · rintro ⟨computed, hcomputed, hrest⟩
    cases computed with
    | false => exact hcomputed
    | true => simp at hrest
  · intro h
    exact ⟨false, h, rfl⟩

theorem checkGuard_eq_ok_iff (rendered : String) (guard : Value) :
    (checkGuard rendered guard).result = .ok () ↔
      guard.isNull = true ∨ guard.isCallable = true := by
  cases hnull : guard.isNull <;> cases hcall : guard.isCallable <;>
    simp [checkGuard, hnull, hcall]

theorem checkDestination_eq_ok_iff {β : Type} (m : Interpretation) (rendered : String)
    (source event destination : Value) (b b' : β) :
    (checkKnown m rendered source event destination >>= fun _ =>
        checkState rendered destination >>= fun _ => (pure b : Act β)).result = .ok b' ↔
      destination.IsDestination ∧ b = b' := by
  rw [Act.result_seq_eq_ok_iff, Act.result_seq_eq_ok_iff, checkKnown_eq_ok_iff,
    checkState_eq_ok_iff, Act.result_pure, Except.ok.injEq]
  exact ⟨fun ⟨hknown, hproper, heq⟩ => ⟨⟨hknown, hproper⟩, heq⟩,
    fun ⟨h, heq⟩ => ⟨h.known, h.proper, heq⟩⟩

theorem checkSimple_eq_ok_iff (m : Interpretation) (rendered : String)
    (source destination event : Value) (step : Step) :
    (checkSimple m rendered source destination event).result = .ok step ↔
      destination.isUnset = false ∧ (event.isEvent m).result = .ok true ∧
        destination.IsDestination ∧ ⟨source, event, .literal destination⟩ = step := by
  cases hunset : destination.isUnset with
  | true => simp [checkSimple, hunset, Act.result_seq_eq_ok_iff]
  | false =>
      simp only [checkSimple, hunset, Bool.false_eq_true, if_false, true_and]
      rw [Act.result_seq_eq_ok_iff, checkEvent_eq_ok_iff, checkDestination_eq_ok_iff]

/-- An entry of a source block needs an event and a destination, which may be `unset`. -/
theorem checkToEntry_eq_ok_iff (m : Interpretation) (rendered : String) (source entry : Value)
    (step : Step) :
    (checkToEntry m rendered source entry).result = .ok step ↔
      ∃ destination event, entry = .declaration (.toEntry destination event) ∧
        (event.isEvent m).result = .ok true ∧ destination.IsDestination ∧
        ⟨source, event, .literal destination⟩ = step := by
  unfold checkToEntry
  split
  · next destination event =>
      rw [Act.result_seq_eq_ok_iff, checkEvent_eq_ok_iff, checkDestination_eq_ok_iff]
      constructor
      · intro h
        exact ⟨destination, event, rfl, h⟩
      · rintro ⟨_, _, heq, h⟩
        cases heq
        exact h
  · next hother =>
      constructor
      · intro h
        obtain ⟨_, _, hrefuse⟩ := Act.result_bind_eq_ok_iff.mp h
        cases hrefuse
      · rintro ⟨destination, event, rfl, _⟩
        exact absurd rfl (hother destination event)

/-- A simple entry of an event block has no event of its own. Only without a guard does its
destination have to be there. -/
theorem checkSimpleEntry_eq_ok_iff (m : Interpretation) (rendered : String)
    (event guard source destination ownEvent : Value) (step : Step) :
    (checkSimpleEntry m rendered event guard source destination ownEvent).result = .ok step ↔
      ownEvent.isNull = true ∧ (guard.isNull = true → destination.isUnset = false) ∧
        destination.IsDestination ∧
        ⟨source, event, entryTarget guard destination⟩ = step := by
  cases hown : ownEvent.isNull with
  | false => simp [checkSimpleEntry, hown, Act.result_seq_eq_ok_iff]
  | true =>
      cases hguard : guard.isNull with
      | true =>
          cases hunset : destination.isUnset with
          | true => simp [checkSimpleEntry, hown, hguard, hunset, Act.result_seq_eq_ok_iff]
          | false =>
              simp only [checkSimpleEntry, hown, hguard, hunset, Bool.not_true,
                Bool.false_eq_true, if_false, if_true]
              rw [checkDestination_eq_ok_iff]
              simp [entryTarget, hguard]
      | false =>
          simp only [checkSimpleEntry, hown, hguard, Bool.not_true, Bool.false_eq_true, if_false,
            false_implies, true_and]
          rw [Act.result_bind_eq_ok_iff]
          constructor
          · rintro ⟨computed, hcomputed, hrest⟩
            cases computed with
            | true => simp [Act.result_seq_eq_ok_iff] at hrest
            | false =>
                obtain ⟨hproper, hstep⟩ := Act.result_seq_eq_ok_iff.mp hrest
                have hknown := (Value.isFunctionFor_eq_ok_false_iff m destination).mp hcomputed
                have hproper := (checkState_eq_ok_iff rendered destination).mp hproper
                refine ⟨⟨hknown, hproper⟩, ?_⟩
                simpa [entryTarget, hguard] using hstep
          · rintro ⟨h, hstep⟩
            refine ⟨false, (Value.isFunctionFor_eq_ok_false_iff m destination).mpr h.known, ?_⟩
            refine Act.result_seq_eq_ok_iff.mpr ⟨(checkState_eq_ok_iff _ _).mpr h.proper, ?_⟩
            simpa [entryTarget, hguard] using hstep

theorem checkFromEntry_eq_ok_iff (m : Interpretation) (rendered : String)
    (event guard entry : Value) (step : Step) :
    (checkFromEntry m rendered event guard entry).result = .ok step ↔
      ∃ source destination ownEvent,
        entry = .declaration (.simple source destination ownEvent) ∧
        ownEvent.isNull = true ∧ (guard.isNull = true → destination.isUnset = false) ∧
        destination.IsDestination ∧
        ⟨source, event, entryTarget guard destination⟩ = step := by
  unfold checkFromEntry
  split
  · next source destination ownEvent =>
      rw [checkSimpleEntry_eq_ok_iff]
      constructor
      · intro h
        exact ⟨source, destination, ownEvent, rfl, h⟩
      · rintro ⟨_, _, _, heq, h⟩
        cases heq
        exact h
  · next source _ _ entries =>
      constructor
      · intro h
        obtain ⟨_, _, hadvise⟩ := Act.result_bind_eq_ok_iff.mp h
        exact absurd hadvise (Objection.result_advise_ne_ok m _ _ _ _)
      · rintro ⟨_, _, _, heq, _⟩
        cases heq
  · next hsimple _ =>
      constructor
      · intro h
        obtain ⟨_, _, hrefuse⟩ := Act.result_bind_eq_ok_iff.mp h
        cases hrefuse
      · rintro ⟨source, destination, ownEvent, rfl, _⟩
        exact absurd rfl (hsimple source destination ownEvent)

theorem Declaration.check_simple_eq_ok_iff (m : Interpretation)
    (source destination event : Value) (steps : List Step) :
    ((Declaration.simple source destination event).check m).result = .ok steps ↔
      (∃ text, ((Declaration.simple source destination event).render m).result = .ok text) ∧
        destination.isUnset = false ∧ (event.isEvent m).result = .ok true ∧
        destination.IsDestination ∧ [⟨source, event, .literal destination⟩] = steps := by
  rw [Declaration.check, Act.result_bind_eq_ok_iff]
  constructor
  · rintro ⟨text, htext, hrest⟩
    obtain ⟨step, hstep, hpure⟩ := Act.result_bind_eq_ok_iff.mp hrest
    obtain ⟨hunset, hevent, hdestination, rfl⟩ :=
      (checkSimple_eq_ok_iff m text source destination event step).mp hstep
    exact ⟨⟨text, htext⟩, hunset, hevent, hdestination, Except.ok.inj hpure⟩
  · rintro ⟨⟨text, htext⟩, hunset, hevent, hdestination, rfl⟩
    refine ⟨text, htext, Act.result_bind_eq_ok_iff.mpr ⟨_, ?_, rfl⟩⟩
    exact (checkSimple_eq_ok_iff m text source destination event _).mpr
      ⟨hunset, hevent, hdestination, rfl⟩

theorem Declaration.check_sourceBlock_eq_ok_iff (m : Interpretation)
    (source destination event : Value) (entries : List Value) (steps : List Step) :
    ((Declaration.sourceBlock source destination event entries).check m).result = .ok steps ↔
      ∃ text, ((Declaration.sourceBlock source destination event entries).render m).result =
          .ok text ∧
        destination.isUnset = true ∧ event.isNull = true ∧
        List.Forall₂ (fun entry step => (checkToEntry m text source entry).result = .ok step)
          entries steps := by
  rw [Declaration.check, Act.result_bind_eq_ok_iff]
  refine exists_congr fun text => and_congr_right fun _ => ?_
  cases hunset : destination.isUnset <;> cases hnull : event.isNull <;>
    simp [Act.result_seq_eq_ok_iff, Act.result_mapM_eq_ok_iff]

theorem Declaration.check_eventBlock_eq_ok_iff (m : Interpretation) (event guard : Value)
    (entries : List Value) (steps : List Step) :
    ((Declaration.eventBlock event entries guard).check m).result = .ok steps ↔
      ∃ text, ((Declaration.eventBlock event entries guard).render m).result = .ok text ∧
        (event.isEvent m).result = .ok true ∧
        (guard.isNull = true ∨ guard.isCallable = true) ∧
        List.Forall₂ (fun entry step => (checkFromEntry m text event guard entry).result = .ok step)
          entries steps := by
  rw [Declaration.check, Act.result_bind_eq_ok_iff]
  refine exists_congr fun text => and_congr_right fun _ => ?_
  rw [Act.result_seq_eq_ok_iff, Act.result_seq_eq_ok_iff, checkEvent_eq_ok_iff,
    checkGuard_eq_ok_iff, Act.result_mapM_eq_ok_iff]

theorem flatMap_eq_of_forall₂ {read : Value → List Step} {entries : List Value}
    {steps : List Step} (h : List.Forall₂ (fun entry step => read entry = [step]) entries steps) :
    entries.flatMap read = steps := by
  induction h with
  | nil => rfl
  | cons hentry _ ih => rw [List.flatMap_cons, hentry, ih, List.singleton_append]

/-- A declaration that is accepted is accepted as the steps that it reads as. -/
theorem Declaration.steps_of_check {m : Interpretation} {d : Declaration} {steps : List Step}
    (h : (d.check m).result = .ok steps) : d.steps = steps := by
  cases d with
  | simple source destination event =>
      obtain ⟨_, _, _, _, hsteps⟩ := (check_simple_eq_ok_iff m _ _ _ steps).mp h
      exact hsteps
  | sourceBlock source destination event entries =>
      obtain ⟨text, _, _, _, hentries⟩ := (check_sourceBlock_eq_ok_iff m _ _ _ _ steps).mp h
      apply flatMap_eq_of_forall₂
      refine hentries.imp fun entry step hentry => ?_
      obtain ⟨_, _, rfl, _, _, rfl⟩ := (checkToEntry_eq_ok_iff m text source entry step).mp hentry
      rfl
  | toEntry destination event =>
      obtain ⟨_, _, hrefuse⟩ := Act.result_bind_eq_ok_iff.mp h
      cases hrefuse
  | eventBlock event entries guard =>
      obtain ⟨text, _, _, _, hentries⟩ := (check_eventBlock_eq_ok_iff m _ _ _ steps).mp h
      apply flatMap_eq_of_forall₂
      refine hentries.imp fun entry step hentry => ?_
      obtain ⟨_, _, _, rfl, _, _, _, rfl⟩ :=
        (checkFromEntry_eq_ok_iff m text event guard entry step).mp hentry
      rfl

/-- Nothing but a declaration is accepted as one. -/
theorem Value.declaration_of_check {m : Interpretation} {v : Value} {steps : List Step}
    (h : (v.check m).result = .ok steps) :
    ∃ d, v = .declaration d ∧ (d.check m).result = .ok steps := by
  unfold Value.check at h
  split at h
  · exact ⟨_, rfl, h⟩
  · obtain ⟨_, _, hrest⟩ := Act.result_bind_eq_ok_iff.mp h
    obtain ⟨_, _, hrest⟩ := Act.result_bind_eq_ok_iff.mp hrest
    obtain ⟨_, _, hrefuse⟩ := Act.result_bind_eq_ok_iff.mp hrest
    cases hrefuse

/-- What a value is accepted as is what it reads as. -/
theorem Value.steps_of_check {m : Interpretation} {v : Value} {steps : List Step}
    (h : (v.check m).result = .ok steps) : v.steps = steps := by
  obtain ⟨d, rfl, hd⟩ := Value.declaration_of_check h
  exact Declaration.steps_of_check hd

theorem forall_mem_of_forall₂ {check : Value → Step → Prop} {P : Step → Prop}
    (hentry : ∀ entry step, check entry step → P step) {entries : List Value}
    {steps : List Step} (h : List.Forall₂ check entries steps) : ∀ step ∈ steps, P step := by
  induction h with
  | nil => simp
  | cons hfirst _ ih => exact List.forall_mem_cons.mpr ⟨hentry _ _ hfirst, ih⟩

/-- No step of an accepted declaration leads to `any`. -/
theorem Declaration.proper_of_check {m : Interpretation} {d : Declaration} {steps : List Step}
    (h : (d.check m).result = .ok steps) :
    ∀ step ∈ steps, ∀ v ∈ step.target.named, v.isAny = false := by
  cases d with
  | simple source destination event =>
      obtain ⟨_, _, _, hdestination, rfl⟩ := (check_simple_eq_ok_iff m _ _ _ steps).mp h
      simp [Target.named, hdestination.proper]
  | sourceBlock source destination event entries =>
      obtain ⟨text, _, _, _, hentries⟩ := (check_sourceBlock_eq_ok_iff m _ _ _ _ steps).mp h
      refine forall_mem_of_forall₂ ?_ hentries
      intro entry step hentry
      obtain ⟨_, _, _, _, hdestination, rfl⟩ :=
        (checkToEntry_eq_ok_iff m text source entry step).mp hentry
      simp [Target.named, hdestination.proper]
  | toEntry destination event =>
      obtain ⟨_, _, hrefuse⟩ := Act.result_bind_eq_ok_iff.mp h
      cases hrefuse
  | eventBlock event entries guard =>
      obtain ⟨text, _, _, _, hentries⟩ := (check_eventBlock_eq_ok_iff m _ _ _ steps).mp h
      refine forall_mem_of_forall₂ ?_ hentries
      intro entry step hentry
      obtain ⟨_, destination, _, _, _, _, hdestination, rfl⟩ :=
        (checkFromEntry_eq_ok_iff m text event guard entry step).mp hentry
      unfold entryTarget
      cases guard.isNull <;> cases hunset : destination.isUnset <;>
        simp [Target.named, hunset, hdestination.proper]

theorem Value.proper_of_check {m : Interpretation} {v : Value} {steps : List Step}
    (h : (v.check m).result = .ok steps) :
    ∀ step ∈ steps, ∀ v ∈ step.target.named, v.isAny = false := by
  obtain ⟨d, rfl, hd⟩ := Value.declaration_of_check h
  exact Declaration.proper_of_check hd

theorem Value.Accepted.check {m : Interpretation} {v : Value} (h : v.Accepted m) :
    (v.check m).result = .ok v.steps := by
  obtain ⟨steps, hsteps⟩ := h
  rw [Value.steps_of_check hsteps, hsteps]

end StateRules
