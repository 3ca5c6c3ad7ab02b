import StateRules.Value.Reading

/-!
What to write instead of a declaration whose shape is no longer supported.
-/

namespace StateRules

/-- `_function_destination`: instead of a function as the destination of a rule, an event block with
that function as its guard, around the same source. A missing event is left blank. -/
def Declaration.withGuard (source event function : Value) : Declaration :=
  .eventBlock (if event.isNull then .placeholder .newEvent else event)
    [.declaration (.simple source (.placeholder .newState) .null)] function

/-- `_nested_from_block`: instead of a source block inside an event block, an event block with one
simple entry for each destination of the inner block. -/
def Declaration.flattened (event guard source : Value) (destinations : List Value) : Declaration :=
  .eventBlock event
    (destinations.map fun destination => .declaration (.simple source destination .null)) guard

/-- The destination that an entry names. One that it does not name is left blank. -/
def Value.namedDestination (m : Interpretation) (entry : Value) : Act Value := do
  let named ← entry.read? m "target"
  pure (named.getD (.placeholder .newState))

/-- An entry of a source block names its destination. -/
theorem Value.namedDestination_toEntry (m : Interpretation) (destination event : Value) :
    (Value.declaration (.toEntry destination event)).namedDestination m = pure destination := by
  simp [namedDestination, read?, read, find, shared?, attr?, attributes, Declaration.parts,
    Act.ofOption, Act.attempt, Act.ofExcept, bind, Act.andThen, pure]

end StateRules
