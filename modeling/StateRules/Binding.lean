import StateRules.Build
import StateRules.Transit
import StateRules.Value.ClassSpec

/-!
Rules bound to a class of entities by the decorator `transitions`, so that the objects of the class
move by themselves. The field is looked at first and the table is built at once, so a refused
declaration shows when the class is bound and not when an entity first moves. The bound class shares
the table and the operations by which its objects move and say what they know; a field of the same
name hides such an operation.
-/

namespace StateRules

/-- A record whose class is known by its name only, as a value among others. -/
def namedRecord (name : String) (fields : List (String × Value)) : Value :=
  .object (.ofName name (fields.map Prod.fst)) [] .none fields

def Target.asValue : Target → Value
  | .literal state => namedRecord "LiteralTarget" [("value", state)]
  | .guarded guard declared =>
      namedRecord "GuardedTarget" [("guard", guard), ("declared", declared)]

def Rule.asValue (rule : Rule) : Value :=
  namedRecord "TransitionRule"
    [("from_state", rule.source), ("event", rule.event), ("target", rule.target.asValue)]

def Table.asValue (table : Table) : Value :=
  namedRecord "RuleTable"
    [("rules", .tuple (table.rules.map Rule.asValue)), ("states", .tuple table.states),
      ("events", .tuple table.events)]

/-- A class with the rules of its objects. -/
structure Binding where
  cls : Class
  accessor : Accessor
  table : Table

namespace Binding

/-- The name by which an object moves. -/
def operation : String := "transit"

def qualifiedName (cls : Class) : String := cls.fullName ++ "." ++ operation

/-- What is said about that operation. -/
def summary : String := "Apply ``event`` and return a TransitResult."

def record (binding : Binding) : Record :=
  ⟨.info, .binding,
    binding.cls.name ++ " transitions — " ++ toString binding.table.rules.length ++ " rules"⟩

def bind (m : Interpretation) (cls : Class) (attr declarations : Value) : Act Binding := do
  let items ← declarations.items m
  let accessor ← Accessor.ofField m attr
  let table ← build m items
  let binding : Binding := ⟨cls, accessor, table⟩
  Act.emit binding.record
  pure binding

/-- What a class shares with its objects once rules are bound to it: `transit`, `__transitions__`
and what lists the states, the events and the rules. -/
def attributes (binding : Binding) : List (String × Value) :=
  (operation, operationNamed "method" (qualifiedName binding.cls)) ::
    ("__transitions__", binding.table.asValue) ::
    ["list_states", "list_events", "list_transitions"].map fun name =>
      (name, operationNamed "method" ("RuleTable." ++ name))

/-- The states that a bound class lists, which are those of its table; so it is with the events and
the rules. -/
def listStates (binding : Binding) : List Value := binding.table.states

def listEvents (binding : Binding) : List Value := binding.table.events

def listTransitions (binding : Binding) : List Transition := binding.table.transitions

/-- A class as it is once the rules are bound, be it the bound one or one below it. -/
def attach (binding : Binding) (spec : ClassSpec) : ClassSpec :=
  spec.extend binding.cls.name binding.attributes

def offered (m : Interpretation) (entity : Value) : Act Value := entity.read m operation

/-- Moves an object of the class, or of a class below it, on an event by what it offers
for that. Something other than the operation is called with the event, and what comes of
it is read like an outcome. -/
def transit (m : Interpretation) (binding : Binding) (offered entity event : Value) :
    Act Outcome := do
  match offered with
  | .feature _ _ _ => StateRules.transit m binding.accessor binding.table entity event
  | other => do
      let answer ← m.call other (.ofList [event])
      let moved ← answer.read m "ok"
      if ← moved.holds m then
        let entity ← answer.read m "entity"
        pure (.moved entity)
      else pure .notAllowed

/-- A move that an object makes by itself: it is asked for the operation, which is then called. -/
def move (m : Interpretation) (binding : Binding) (entity event : Value) : Act Outcome := do
  let offered ← offered m entity
  binding.transit m offered entity event

end Binding

end StateRules
