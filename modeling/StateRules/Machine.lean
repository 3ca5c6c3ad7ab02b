import StateRules.Build
import StateRules.Transit

/-!
Machines: a named set of declarations with an accessor, possibly bound to a type of entities. A
`Machine` is what a class below `StateMachine` defines, a `Session` what an object of the class
keeps.

A machine is initialised when it is first used. The accessor comes first, then the
declarations, then the table, and what the machine has come by is kept where a later
part fails. Only one that got through counts as initialised, so after a failure the next
use starts over. Whatever is asked of a machine asks for its table first.
-/

namespace StateRules

/-- The `entity_type` of a machine: the entities that it moves. -/
inductive EntityBinding where
  | anything
  | only (type : TypeRef)
  | oneOf (types : List TypeRef)

/-- Whether an entity is one of those that are bound. Of several types, each is tried
until one fits. -/
def EntityBinding.admits (m : Interpretation) (binding : EntityBinding) (entity : Value) :
    Act Bool :=
  match binding with
  | .anything => pure true
  | .only type => entity.isA m type
  | .oneOf types => types.anyM (entity.isA m)

/-- The name of the bound type; several types have none. -/
def EntityBinding.name : EntityBinding → Except Fault String
  | .anything => .error (.noAttribute "NoneType" "__name__")
  | .only type => .ok type.name
  | .oneOf _ => .error (.noAttribute "tuple" "__name__")

/-- A machine as it is defined, by its `define_accessor` and its `define_transitions`. A machine may
have no accessor at all. -/
structure Machine where
  name : String
  binding : EntityBinding
  accessor : Act (Option Accessor)
  declarations : Act Value

/-- What a machine keeps from one use to the next, and how often it has been asked for its
declarations. -/
structure Session where
  table : Option Table
  accessor : Option Accessor
  isInitialized : Bool
  definitions : Nat

/-- What a machine keeps before its first use. -/
def Session.fresh : Session := ⟨none, none, false, 0⟩

/-- A use of a machine: what the machine keeps afterwards, also where the use fails, and what
the use comes to. -/
def Use (α : Type) : Type := Session → Session × Act α

namespace Use

/-- One use after the other; after a failure nothing more happens. -/
def andThen {α β : Type} (first : Use α) (next : α → Use β) : Use β := fun session =>
  let (kept, act) := first session
  match act.result with
  | .error fault => (kept, ⟨act.records, act.calls, .error fault⟩)
  | .ok a =>
      let (kept, others) := next a kept
      (kept, act >>= fun _ => others)

instance : Monad Use where
  pure a session := (session, pure a)
  bind := andThen

instance : MonadLift Act Use where
  monadLift act session := (session, act)

instance : MonadStateOf Session Use where
  get session := (session, pure session)
  set session _ := (session, pure ())
  modifyGet f session := ((f session).2, pure (f session).1)

end Use

/-- What there is, or else the fault of asking nothing for an operation. -/
def required {α : Type} (operation : String) (found : Option α) : Act α :=
  Act.ofOption (.noAttribute "NoneType" operation) found

namespace Machine

def record (machine : Machine) (table : Table) : Record :=
  ⟨.info, .machine,
    machine.name ++ " initialised — " ++ toString table.rules.length ++ " transitions, " ++
      toString table.states.length ++ " states, " ++ toString table.events.length ++ " events"⟩

/-- Asks a machine for its declarations. -/
def define (machine : Machine) : Use Value := do
  modify fun session => {session with definitions := session.definitions + 1}
  machine.declarations

/-- `StateMachine.initialize`: initialises a machine, unless it is initialised. -/
def prepare (m : Interpretation) (machine : Machine) : Use Unit := do
  if (← get).isInitialized then return
  let accessor ← machine.accessor
  modify fun session => {session with accessor := accessor}
  let declarations ← machine.define
  let table ← buildFrom m declarations
  modify fun session => {session with table := some table, isInitialized := true}
  Act.emit (machine.record table)

/-- `StateMachine.table`: the table that a machine keeps, which is initialised first. -/
def table (m : Interpretation) (machine : Machine) : Use (Option Table) := do
  if !(← get).isInitialized then machine.prepare m
  return (← get).table

/-- The record of an entity that is not one of those a machine moves. -/
def refusal (machine : Machine) (entity : Value) : Except Fault Record := do
  let bound ← machine.binding.name
  pure ⟨.debug, .machine,
    machine.name ++ ": " ++ entity.typeName ++ " is not a " ++ bound ++ " — not allowed"⟩

/-- Turns away an entity that is not one of those a machine moves. -/
def turnAway (machine : Machine) (entity : Value) : Act Outcome := do
  let record ← machine.refusal entity
  Act.emit record
  pure .notAllowed

/-- Moves an entity on an event by what a machine keeps. Without an accessor the state is taken to
be where it usually is. -/
def transitBy (m : Interpretation) (machine : Machine) (accessor : Option Accessor)
    (table : Option Table) (entity event : Value) : Act Outcome := do
  if ← machine.binding.admits m entity then
    let accessor := accessor.getD Accessor.standard
    match table with
    | some table => StateRules.transit m accessor table entity event
    | none => do
        let _ ← accessor.get m entity
        required "match" none
  else machine.turnAway entity

/-- Whether some rule that a machine keeps covers the state of an entity and an event. -/
def canTransitBy (m : Interpretation) (machine : Machine) (accessor : Option Accessor)
    (table : Option Table) (entity event : Value) : Act Bool := do
  if ← machine.binding.admits m entity then
    let table ← required "match" table
    let accessor ← required "get" accessor
    let state ← accessor.get m entity
    let found ← table.search m state event
    pure found.isSome
  else pure false

/-- `StateMachine.transit`: moves an entity on an event. -/
def transit (m : Interpretation) (machine : Machine) (entity event : Value) : Use Outcome := do
  let table ← machine.table m
  machine.transitBy m (← get).accessor table entity event

/-- `StateMachine.can_transit`: whether some rule covers the state of an entity and an event. -/
def canTransit (m : Interpretation) (machine : Machine) (entity event : Value) : Use Bool := do
  let table ← machine.table m
  machine.canTransitBy m (← get).accessor table entity event

/-- What a machine lists of its table. -/
def list {α : Type} (m : Interpretation) (machine : Machine) (operation : String)
    (listed : Table → α) : Use α := do
  let table ← required operation (← machine.table m)
  pure (listed table)

def listStates (m : Interpretation) (machine : Machine) : Use (List Value) :=
  machine.list m "list_states" Table.states

def listEvents (m : Interpretation) (machine : Machine) : Use (List Value) :=
  machine.list m "list_events" Table.events

def listTransitions (m : Interpretation) (machine : Machine) : Use (List Transition) :=
  machine.list m "list_transitions" Table.transitions

end Machine

end StateRules
