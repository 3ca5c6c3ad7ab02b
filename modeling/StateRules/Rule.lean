import StateRules.Value.Settled

/-!
Rules and the steps they come from.

A rule leads from one state, on one event, to a target: a state known in advance,
or whatever a guard gives for the entity. A step is what a declaration is broken
down into; its source may still be `any`, which stands for a rule from each state
known at that point.
-/

namespace StateRules

/-- Where a rule leads: a `LiteralTarget` or a `GuardedTarget`. A guard may have a state declared
beside it, which is `unset` when it was left out; it documents a possible outcome and is never used
to find one. -/
inductive Target where
  | literal (state : Value)
  | guarded (guard declared : Value)

/-- The state that a target names, if it names one. -/
def Target.named : Target → List Value
  | .literal state => [state]
  | .guarded _ declared => if declared.isUnset then [] else [declared]

/-- A `TransitionRule`, from one state on one event. -/
structure Rule where
  source : Value
  event : Value
  target : Target

/-- A rule as it is listed (`TransitionRule.to_dict`): where it leads from and to, and on which
event. A guard stands in the place of the destination that it computes. -/
structure Transition where
  source : Value
  destination : Value
  event : Value

namespace Rule

/-- The guard of a rule, if it has one. -/
def guard? (rule : Rule) : Option Value :=
  match rule.target with
  | .literal _ => none
  | .guarded guard _ => some guard

/-- `TransitionRule.to`: the destination of a rule, or the guard that computes it. -/
def destination (rule : Rule) : Value :=
  match rule.target with
  | .literal state => state
  | .guarded guard _ => guard

/-- The states that a rule mentions, in the order they are met. -/
def states (rule : Rule) : List Value := rule.source :: rule.target.named

/-- What a rule is listed as. -/
def transition (rule : Rule) : Transition := ⟨rule.source, rule.destination, rule.event⟩

/-- `TransitionRule.matches`: whether a rule applies to a state and an event, with the operations
that classes bring for comparing. The events are only compared if the states are equal. -/
def applies (m : Interpretation) (rule : Rule) (state event : Value) : Act Bool := do
  if ← rule.source.equals m state then rule.event.equals m event else pure false

/-- Whether everything that a rule mentions is of one kind. -/
structure Within (P : Value → Prop) (rule : Rule) : Prop where
  source : P rule.source
  event : P rule.event
  destination : P rule.destination
  named : ∀ v ∈ rule.target.named, P v

/-- The states of a rule are of the kind that all it mentions is of. -/
theorem Within.states {P : Value → Prop} {rule : Rule} (h : rule.Within P) :
    ∀ v ∈ rule.states, P v := by
  intro v hv
  rcases List.mem_cons.mp hv with rfl | hnamed
  · exact h.source
  · exact h.named v hnamed

end Rule

/-- One step of a declaration. -/
structure Step where
  source : Value
  event : Value
  target : Target

/-- The rules that a step stands for when the given states are known. A source that is `ANY` is
expanded over these. -/
def Step.rules (step : Step) (known : List Value) : List Rule :=
  if step.source.isAny then known.map fun state => ⟨state, step.event, step.target⟩
  else [⟨step.source, step.event, step.target⟩]

/-- What holds of the rules from each known state where the source of a step is `ANY`, and of the
rule from its own source otherwise, holds of all that the step stands for. -/
theorem Step.forall_rules {step : Step} {known : List Value} {P : Rule → Prop}
    (hany : step.source.isAny = true → ∀ k ∈ known, P ⟨k, step.event, step.target⟩)
    (hown : step.source.isAny = false → P ⟨step.source, step.event, step.target⟩) :
    ∀ rule ∈ step.rules known, P rule := by
  unfold rules
  split
  · next hsource => exact List.forall_mem_map.mpr (hany hsource)
  · next hsource => exact List.forall_mem_singleton.mpr (hown (eq_false_of_ne_true hsource))

/-- Whether everything that a step mentions is of one kind. -/
def Step.Within (P : Value → Prop) (step : Step) : Prop :=
  Rule.Within P ⟨step.source, step.event, step.target⟩

/-- The rules of a step are of the kind that all it mentions is of, and all that is
known. -/
theorem Step.Within.rules {P : Value → Prop} {step : Step} (hstep : step.Within P)
    {known : List Value} (hknown : ∀ k ∈ known, P k) :
    ∀ rule ∈ step.rules known, rule.Within P := by
  refine Step.forall_rules (fun _ k hk => ?_) fun _ => hstep
  exact ⟨hknown k hk, hstep.event, hstep.destination, hstep.named⟩

end StateRules
