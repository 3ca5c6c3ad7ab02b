import StateRules.Accessor
import StateRules.Table

/-!
`transit`: moving an entity along the first rule that covers its state and an event.

The entity is read once and never changed: a move gives a copy. A literal target
is the new state; a guard is called with the entity as it was given, and what it
gives is the new state, in the catalog or not. When no rule covers the state and
the event, nothing is called and the entity may not move.
-/

namespace StateRules

/-- What became of an entity: a `TransitResult`. -/
inductive Outcome where
  | moved (entity : Value)
  | notAllowed

namespace Outcome

/-- Whether the entity moved. -/
def isMoved : Outcome → Bool
  | moved _ => true
  | notAllowed => false

/-- The entity that a move gave, and `null` when there was none. -/
def entity : Outcome → Value
  | moved entity => entity
  | notAllowed => .null

/-- Whether two outcomes are equal. -/
def equal : Outcome → Outcome → Bool
  | moved a, moved b => a.same b
  | notAllowed, notAllowed => true
  | _, _ => false

/-- Whether two outcomes are equal, with the operations that classes bring for
comparing. -/
def compare (m : Interpretation) (one two : Outcome) : Act Bool := do
  if ← one.entity.resembles m two.entity then pure (one.isMoved == two.isMoved) else pure false

end Outcome

/-- `LiteralTarget.resolve` and `GuardedTarget.resolve`: the state that a target leads an entity
to. -/
def Target.resolve (m : Interpretation) (target : Target) (entity : Value) : Act Value :=
  match target with
  | .literal state => pure state
  | .guarded guard _ => m.call guard (.ofList [entity])

/-- The record of an entity that may not move. -/
def refusalRecord (m : Interpretation) (state event : Value) : Act Record := do
  let state ← state.writeLabel m
  let event ← event.write m
  pure ⟨.debug, .resolver, "Not allowed: " ++ state ++ " on " ++ event⟩

/-- The record of a move. -/
def moveRecord (m : Interpretation) (state event next : Value) : Act Record := do
  let state ← state.writeLabel m
  let event ← event.writeDisplay m
  let next ← next.writeLabel m
  pure ⟨.debug, .resolver, "Transit: " ++ state ++ " --" ++ event ++ "--> " ++ next⟩

/-- Moves an entity on an event. The record of a move is emitted before the copy is
made, so it stands even where the copy then fails. -/
def transit (m : Interpretation) (accessor : Accessor) (table : Table)
    (entity event : Value) : Act Outcome := do
  let state ← accessor.get m entity
  match ← table.search m state event with
  | none =>
      let record ← refusalRecord m state event
      Act.emit record
      pure .notAllowed
  | some rule =>
      let next ← rule.target.resolve m entity
      let record ← moveRecord m state event next
      Act.emit record
      let copy ← accessor.set m entity next
      pure (.moved copy)

end StateRules
