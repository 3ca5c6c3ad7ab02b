import StateRules.Value.Conversion
import StateRules.Value.Order

/-!
Guards: calling them, and the scripts that say what a function does.

What guard functions do is given from outside, as `Scripts`. A call of one is recorded
together with the entity. Types, acting members of enumerations and objects whose class
says what calling them means can be called as well; of these calls only those of the
functions behind them leave a record. A script comes by its fixed values only when it needs
them, so a value that cannot be had fails a call only where the call gets to it.

`Interpretation.upTo` is the meaning of a call that may go through a given number of
further calls.
-/

namespace StateRules

abbrev Needed := Interpretation → Act Value

/-- What a guard function does with an entity. -/
inductive Script where
  | give (v : Needed)
  | entity
  | part (name : String)
  /-- Gives one of two values, depending on whether a part is at least as great. -/
  | threshold (name : String) (least reached missed : Needed)
  /-- Gives the value that stands beside the first case equal to a part. -/
  | select (name : String) (cases : List (Needed × Needed))
  | fail (fault : Fault)

/-- What the function of each name does. -/
abbrev Scripts := String → Script

def selectCase (m : Interpretation) (item : Value) : List (Needed × Needed) → Act Value
  | [] => Act.fail (.noItem item)
  | (key, answer) :: rest => do
      let key ← key m
      if ← key.equals m item then answer m else selectCase m item rest

def Script.run (m : Interpretation) (script : Script) (entity : Value) : Act Value :=
  match script with
  | .give v => v m
  | .entity => pure entity
  | .part name => entity.part m name
  | .threshold name least reached missed => do
      let item ← entity.part m name
      let least ← least m
      if ← item.atLeast m least then reached m else missed m
  | .select name cases => do
      let item ← entity.part m name
      selectCase m item cases
  | .fail fault => Act.fail fault

/-- What is wrong with what is given under names to an operation that takes an entity,
`filled` telling whether that is given already. -/
def entityFault? (operation : String) (filled : Bool) : List (Value × Value) → Option Fault
  | [] => none
  | (key, _) :: rest =>
      let name := key.text?.getD ""
      if name = "self" || (filled && name = "entity") then some (.givenTwice operation name)
      else if name = "entity" then entityFault? operation true rest
      else some (.unknownArgument operation key.display)

/-- The entity that an operation is called with, which is all that it takes. -/
def Arguments.entity (operation : String) (arguments : Arguments) : Except Fault Value :=
  match entityFault? operation (!arguments.positional.isEmpty) arguments.named with
  | some fault => .error fault
  | none =>
      match arguments.positional, arguments.named? "entity" with
      | [entity], _ => .ok entity
      | [], some entity => .ok entity
      | [], none => .error (.missing operation ["entity"])
      | given, _ => .error (.tooMany operation 2 (given.length + 1))

def Value.perform (m : Interpretation) (scripts : Scripts) (v : Value) (arguments : Arguments) :
    Act Value :=
  match v with
  | .function f _ => do
      let entity ← arguments.entity "Function.__call__"
      Act.note ⟨f.name, entity⟩
      (scripts f.name).run m entity
  | .basicType t => t.call m arguments
  | .member ⟨⟨typeName, .acting lead, _⟩, _, payload⟩ => do
      let _ ← arguments.entity (typeName ++ ".__call__")
      pure (.text (lead ++ (Value.ofPayload payload).display))
  | .classType cls shared => cls.make m shared ⟨0, 1⟩ arguments
  | .feature "method_descriptor" label _ => Act.fail (.unbound label)
  | .object _ shared _ _ =>
      match shared.lookup "__call__" with
      | some operation => do
          let operation ← v.bound m operation
          m.call operation arguments
      | none => Act.fail (.notCallable v.formalName)
  | v => Act.fail (.notCallable v.formalName)

/-- An object that its class has gone on to fill: it is called back (`__post_init__`), unless the
class brings an `__init__`, which has been called before. What scripts do leaves the fields of an
object as they are; an interpretation at large may set any of them (`Interpretation.finish`). -/
def Value.calledBack (m : Interpretation) (v : Value) : Act Value := do
  match v.shared? "__init__" with
  | some _ => pure v
  | none => do
      let finisher ← v.read m "__post_init__"
      let _ ← m.call finisher .empty
      pure v

/-- How many calls may go on within one another. -/
def depthLimit : Nat := 200

namespace Interpretation

/-- The meaning of calls within which no others can go on. -/
def exhausted : Interpretation where
  call _ _ := Act.fail .tooDeep
  write _ := Act.fail .tooDeep
  resembles _ _ := Act.fail .tooDeep
  checkKey _ := Act.fail .tooDeep
  finish _ := Act.fail .tooDeep

/-- The meaning of calls that lie within one another no deeper than a number. -/
def upTo (scripts : Scripts) : Nat → Interpretation
  | 0 => exhausted
  | depth + 1 =>
      let within := upTo scripts depth
      { call := fun v arguments => v.perform within scripts arguments
        write := fun v => v.write within
        resembles := fun a b => a.resembles within b
        checkKey := fun v => v.checkKey within
        finish := fun v => v.calledBack within }

def ofScripts (scripts : Scripts) : Interpretation := upTo scripts depthLimit

end Interpretation

end StateRules
