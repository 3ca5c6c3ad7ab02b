import StateRules.Machine
import StateRules.Proofs.Table.Course

/-!
What a machine sees of an entity before it decides.

Asking whether an entity can move and moving it begin alike: the type of the entity is tested, its
state is read, and the rules are searched for it. Only then do the two part ways. The question is
answered by whether a rule was found (`Machine.canTransitBy_eq`), the move is made along it
(`Machine.transitBy_eq`).
-/

namespace StateRules

/-- What a machine has seen of an entity. -/
inductive Sighting where
  /-- The entity is not one of those that the machine moves, and nothing of it has been read. -/
  | foreign
  /-- The entity is in a state, and a rule was found for it or none. -/
  | known (state : Value) (found : Option Rule)

/-- Whether a rule was found. -/
def Sighting.isPromising : Sighting → Bool
  | foreign => false
  | known _ found => found.isSome

namespace Machine

/-- Looks at an entity that is to move on an event. -/
def sight (m : Interpretation) (machine : Machine) (accessor : Accessor) (table : Table)
    (entity event : Value) : Act Sighting := do
  if ← machine.binding.admits m entity then
    let state ← accessor.get m entity
    let found ← table.search m state event
    pure (.known state found)
  else pure .foreign

/-- Goes on with an entity that has been looked at. -/
def proceed (m : Interpretation) (machine : Machine) (accessor : Accessor)
    (entity event : Value) : Sighting → Act Outcome
  | .foreign => machine.turnAway entity
  | .known state found => follow m accessor entity event state (found.map Rule.target)

variable {m : Interpretation} {machine : Machine} {accessor : Accessor} {table : Table}
  {entity event : Value}

theorem canTransitBy_eq :
    machine.canTransitBy m (some accessor) (some table) entity event =
      machine.sight m accessor table entity event >>= fun seen => pure seen.isPromising := by
  rw [canTransitBy, sight, bind_assoc]
  refine congrArg _ (funext fun isAdmitted => ?_)
  cases isAdmitted with
  | false => rfl
  | true =>
      simp only [if_true, bind_assoc, pure_bind]
      rfl

/-- A machine that has not been given an accessor moves entities by the usual one. -/
theorem transitBy_eq (accessor : Option Accessor) :
    machine.transitBy m accessor (some table) entity event =
      machine.sight m (accessor.getD .standard) table entity event >>=
        machine.proceed m (accessor.getD .standard) entity event := by
  rw [transitBy, sight, bind_assoc]
  refine congrArg _ (funext fun isAdmitted => ?_)
  cases isAdmitted with
  | false => rfl
  | true =>
      simp only [if_true, bind_assoc, pure_bind]
      refine congrArg _ (funext fun state => congrArg _ (funext fun found => ?_))
      cases found with
      | none => rfl
      | some rule => exact (follow_some rule.target).symm

theorem result_sight_eq_ok_known_iff {state : Value} {found : Option Rule} :
    (machine.sight m accessor table entity event).result = .ok (.known state found) ↔
      (machine.binding.admits m entity).result = .ok true ∧
        (accessor.get m entity).result = .ok state ∧
        (table.search m state event).result = .ok found := by
  rw [sight, Act.result_bind_eq_ok_iff]
  constructor
  · rintro ⟨isAdmitted, hadmits, hrest⟩
    cases isAdmitted with
    | false => cases hrest
    | true =>
        obtain ⟨_, hread, hrest⟩ := Act.result_bind_eq_ok_iff.mp hrest
        obtain ⟨_, hfound, hknown⟩ := Act.result_bind_eq_ok_iff.mp hrest
        cases hknown
        exact ⟨hadmits, hread, hfound⟩
  · rintro ⟨hadmits, hread, hfound⟩
    refine ⟨true, hadmits, ?_⟩
    refine Act.result_bind_eq_ok_iff.mpr ⟨state, hread, ?_⟩
    exact Act.result_bind_eq_ok_iff.mpr ⟨found, hfound, rfl⟩

/-- An entity that cannot be read is not seen. -/
theorem result_sight_of_unreadable {fault : Fault}
    (hadmits : (machine.binding.admits m entity).result = .ok true)
    (hread : (accessor.get m entity).result = .error fault) :
    (machine.sight m accessor table entity event).result = .error fault := by
  rw [sight, Act.result_bind_of_ok hadmits]
  exact Act.result_bind_eq_error_iff.mpr (.inl hread)

end Machine

end StateRules
