import StateRules.Value.Setting

/-!
Making objects of a class from what is given, in order or under names.

An object is created first (`__new__`) and then filled (`__init__`). Creating one is up to the class
that makes tuples, if there is one above, and filling it is up to the nearest record class, which
takes a value for each of its initial fields and then may call the object back (`__post_init__`); a
class may bring operations of its own for either. What is given under a name that is not asked for,
given twice or not given at all is refused before anything is set.
-/

namespace StateRules

def Identity.none : Identity := ⟨0, 0⟩

/-- The identity of a copy. What has none of its own gives none to its copies. -/
def Identity.copy (identity : Identity) : Identity :=
  if identity = .none then .none else {identity with copies := identity.copies + 1}

/-- What is wrong with what is given under names to an operation that takes the given names,
some of which are taken already. -/
def namedFault? (operation : String) (taken names : List String) :
    List (Value × Value) → Option Fault
  | [] => none
  | (key, _) :: rest =>
      let name := key.text?.getD ""
      if taken.contains name then some (.givenTwice operation name)
      else if names.contains name then namedFault? operation taken names rest
      else some (.unknownArgument operation key.display)

/-- What an operation that is given `self` anyway takes under some names. What is given in order
comes under the first of them. -/
def takeGiven (operation self : String) (names : List String) (given : Arguments) :
    Except Fault (List (String × Value)) :=
  let inOrder := names.zip given.positional
  match namedFault? operation (self :: inOrder.map Prod.fst) names given.named with
  | some fault => .error fault
  | none =>
      if names.length < given.positional.length then
        .error (.tooMany operation (names.length + 1) (given.positional.length + 1))
      else
        let all := inOrder.map (fun (name, item) => (.text name, item)) ++ given.named
        let lookedUp := names.map fun name => (name, (Arguments.mk [] all).named? name)
        let lacking := (lookedUp.filter fun item => item.2.isNone).map Prod.fst
        if lacking.isEmpty then
          .ok (lookedUp.filterMap fun (name, item) => item.map fun item => (name, item))
        else .error (.missing operation lacking)

namespace Class

/-- The fields that are given when an object of a record class is made. -/
def initial (cls : Class) : List String := cls.fields.filter fun name => !cls.late.contains name

/-- What is given to fill an object, with what a field starts from that is called like the
type of the object, which every class has. -/
def completed (cls : Class) (given : Arguments) : Arguments :=
  let name := "__class__"
  if (cls.initial.drop given.positional.length).contains name && (given.named? name).isNone then
    {given with named := given.named ++ [(.text name, typeNamed "type")]}
  else given

/-- The name by which an object that is being filled is known. A field of that name takes
it away. -/
def selfName (cls : Class) : String :=
  if cls.fields.contains "self" then "__dataclass_self__" else "self"

/-- Whether a value is an object of a class. -/
def admits (cls : Class) (v : Value) : Bool := v.isKind (.named cls.name)

/-- A new object, unfilled (`__new__`). -/
def create (m : Interpretation) (cls : Class) (shared : List (String × Value))
    (identity : Identity) (given : Arguments) : Act Value := do
  let type := Value.classType cls shared
  match shared.lookup "__new__" with
  | some maker =>
      let maker ← type.boundToClass m maker
      m.call maker {given with positional := type :: given.positional}
  | none =>
      match cls.layout, cls.shape with
      | layout, some shape => do
          let items ← takeGiven (shape.maker ++ ".__new__") "_cls" shape.names given
          let named := if layout = .namedTuple then cls.fields.zip (items.map Prod.snd) else []
          pure (.object cls shared identity named)
      | .namedTuple, none => pure (.object cls shared identity [])
      | .plain, none =>
          if given.count ≠ 0 && (shared.lookup "__init__").isNone then
            Act.fail (.noArguments cls.name)
          else pure (.object cls shared identity [])
      | .record, none =>
          if given.count ≠ 0 && cls.fields.contains "__new__" then Act.fail .onlyType
          else pure (.object cls shared identity [])

end Class

namespace Value

/-- An object with fields set on it one after the other. A frozen object is filled
directly. -/
def setAll (m : Interpretation) (frozen : Bool) (v : Value) : List (String × Value) → Act Value
  | [] => pure v
  | (name, item) :: rest => do
      let v ← if frozen then v.setDirectly m name item else v.set m name item
      v.setAll m frozen rest

/-- An object filled with what is given (`__init__`). A record takes a value for each of its initial
fields; the late ones (`init=False`) get none, unless the class goes on with the object then
(`__post_init__`, `default_factory`). An `__init__` that a class brings itself is called with what
is given and gives nothing; what it has set is up to the meaning of calls as well. -/
def fill (m : Interpretation) (v : Value) (given : Arguments) : Act Value := do
  match v with
  | .object cls shared _ _ =>
      match shared.lookup "__init__" with
      | some filler =>
          let filler ← v.bound m filler
          let answer ← m.call filler given
          if answer.isNull then m.finish v else Act.fail (.unfit .nothing answer.formalName)
      | none =>
          match cls.layout with
          | .record => do
              let operation := cls.builder ++ ".__init__"
              let items ← takeGiven operation cls.selfName cls.initial (cls.completed given)
              let v ← v.setAll m cls.frozen items
              if cls.finishes then m.finish v else pure v
          | _ => pure v
  | v => pure v

end Value

/-- A new object of a class from what is given. What is created need not be of the class; then
it is not filled. -/
def Class.make (m : Interpretation) (cls : Class) (shared : List (String × Value))
    (identity : Identity) (given : Arguments) : Act Value := do
  let created ← cls.create m shared identity given
  if cls.admits created then created.fill m given else pure created

end StateRules
