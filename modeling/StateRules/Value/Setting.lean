import StateRules.Value.Lookup

/-!
Setting an attribute of a value by name (`setattr`).

A value is never changed: setting gives the value as it is afterwards, the same object with other
fields. A class may bring an operation that is called in place of setting (`__setattr__`), and
something that a class shares may say itself what setting its name means (`__set__`); then the
fields stay as they are. Values without fields of their own refuse.
-/

namespace StateRules

def writeField (fields : List (String × Value)) (name : String) (item : Value) :
    List (String × Value) :=
  match fields with
  | [] => [(name, item)]
  | (n, old) :: rest =>
      if n = name then (n, item) :: rest else (n, old) :: writeField rest name item

/-- Some fields in the order in which a class declares them, the others behind. -/
def Class.arrange (cls : Class) (fields : List (String × Value)) : List (String × Value) :=
  cls.fields.filterMap (fun name => (fields.lookup name).map fun item => (name, item)) ++
    fields.filter fun field => !cls.fields.contains field.1

def fieldsOf (entries : List (Value × Value)) : List (String × Value) :=
  entries.filterMap fun (key, item) => key.text?.map fun name => (name, item)

namespace Value

def typeFault (item : Value) : Fault :=
  match item with
  | .basicType _ => .fixedType
  | item => .notType item.formalName

/-- What setting one of the names fails with under which any value with fields keeps
account of itself, if it fails. `owner` is the type that gave the value its fields. -/
def accountFault? (owner name : String) (item : Value) : Option Fault :=
  match name, item with
  | "__class__", item => some (typeFault item)
  | "__weakref__", _ => some (.computedAttribute owner name)
  | "__dict__", .mapping .plain _ | "__dict__", .mapping .ordered _ => none
  | "__dict__", item => some (.notFields item.formalName)
  | _, _ => none

/-- An object with a value under a name among its fields. All of its fields are given
anew as a mapping under their common name, unless its class shares something under that
name. -/
def setField (v : Value) (name : String) (item : Value) : Except Fault Value :=
  match v with
  | .object cls shared identity fields =>
      let isOwn := (shared.lookup name).isNone
      let root := cls.ancestors.getLast?.getD cls.name
      match if isOwn then accountFault? root name item else none with
      | some fault => .error fault
      | none =>
          let items := (cls.shape.map TupleShape.names).getD []
          if items.contains name && isOwn then .error .fixedItem
          else if cls.layout = .namedTuple then .ok v
          else
            match name, item, isOwn with
            | "__dict__", .mapping _ entries, true =>
                .ok (.object cls shared identity (fieldsOf entries))
            | name, item, _ =>
                .ok (.object cls shared identity (cls.arrange (writeField fields name item)))
  | v => .ok v

/-- What setting an attribute of a value without fields fails with, if it fails.
Markers and members of enumerations take any attribute that is not already theirs by
nature, and remain what they are. -/
def settingFault? (v : Value) (name : String) (item : Value) : Option Fault :=
  match v with
  | .basicType t => some (.closedType t name)
  | .any => accountFault? v.typeName name item
  | .classType _ _ => none
  | v =>
      if name = "__class__" then some (typeFault item)
      else if (v.numericParts.lookup name).isSome then
        some (.computedAttribute (if v.integer?.isSome then "int" else v.typeName) name)
      else
        match v with
        | .member m =>
            if ["name", "value"].contains name then some (.memberAttribute name)
            else accountFault? m.fieldOwner name item
        | v =>
            if (v.attr? name).isSome then some (.fixedAttribute v.typeName name)
            else some (v.lackOf name)

def setPlain (v : Value) (name : String) (item : Value) : Except Fault Value :=
  match v with
  | .token _ | .renderable _ _ | .function _ _ =>
      match accountFault? v.typeName name item, v with
      | some fault, _ => .error fault
      | none, .token shown => .ok (.token (if name = "text" then item else shown))
      | none, .renderable identity rendition =>
          .ok (.renderable identity (if name = "text" then item else rendition))
      | none, .function f label =>
          .ok (.function f (if name = "__qualname__" then item else label))
      | none, v => .ok v
  | v =>
      match v.settingFault? name item with
      | some fault => .error fault
      | none => .ok v

/-- A value with an attribute set on it, whatever operation for that its class brings. -/
def setDirectly (m : Interpretation) (v : Value) (name : String) (item : Value) : Act Value :=
  match v, v.shared? name with
  | .object _ _ _ _, some kept =>
      if kept.governsSetting then do
        match ← kept.consult m "__set__" [v, item] with
        | some _ => pure v
        | none => Act.fail (.raised .access "__set__")
      else Act.ofExcept (v.setField name item)
  | .object _ _ _ _, none => Act.ofExcept (v.setField name item)
  | v, _ => Act.ofExcept (v.setPlain name item)

def set (m : Interpretation) (v : Value) (name : String) (item : Value) : Act Value := do
  match ← v.consult m "__setattr__" [.text name, item] with
  | some _ => pure v
  | none => v.setDirectly m name item

def setItem (m : Interpretation) (v key item : Value) : Act Value := do
  match ← v.consult m "__setitem__" [key, item] with
  | some _ => pure v
  | none =>
      match v with
      | .mapping .plain entries | .mapping .ordered entries => do
          key.checkKey m
          let kind : MappingKind := match v with | .mapping kind _ => kind | _ => .plain
          .mapping kind <$> putEntry m key item entries
      | .list _ => Act.fail (.notPosition "list" key.formalName)
      | v => Act.fail (.noAssignment v.formalName)

end Value

end StateRules
