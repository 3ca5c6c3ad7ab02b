import StateRules.Text.Identifier
import StateRules.Text.Normal
import StateRules.Value.Copying

/-!
Defining classes, one below another, and making objects of them.

A class below another has its fields first, shares its attributes unless it has its own
of the same name, and counts as one of its kind. A record class may declare a field again,
which then keeps its place. A field takes the place of what its own class would share under
its name; what a class above shares under the name of a late field stands in for it as long
as it is not given.

A record class (`dataclass`) brings the operations of a record, which take the place of those that
the classes above share, and a plain class says anew how its objects are written; this is what a
`Layer` hides. A definition can be refused for the names in it, and for what a class above does when
it is told of a class below it (`__init_subclass__`).
-/

namespace StateRules

/-- What a class brings for its objects and those of the classes below it: what it shares,
and the names under which nothing is shared any more by the classes above. -/
structure Layer where
  name : String
  own : List (String × Value)
  hides : List String

/-- What the objects of a class share, the class's own first; the layers are those of the
class and of the classes above it. -/
def sharedBy : List Layer → List (String × Value)
  | [] => []
  | layer :: above =>
      layer.own ++ (sharedBy above).filter fun item => !layer.hides.contains item.1

/-- A class together with what it and each class above it bring, its own first. -/
structure ClassSpec where
  cls : Class
  layers : List Layer

namespace ClassSpec

def shared (spec : ClassSpec) : List (String × Value) := sharedBy spec.layers

def asValue (spec : ClassSpec) : Value := .classType spec.cls spec.shared

/-- The class without fields that stands above a class without a base. -/
def root : ClassSpec where
  cls :=
    { name := ""
      fullName := ""
      layout := .plain
      fields := []
      late := []
      ancestors := []
      builder := ""
      shape := none
      finishes := false
      frozen := false
      bare := true }
  layers := []

/-- The names of a class and of those above it. -/
def lineage (spec : ClassSpec) : List String :=
  if spec.layers.isEmpty then [] else spec.cls.name :: spec.cls.ancestors

/-! ### Names -/

/-- What is wrong with a name by itself, if anything is. -/
def flaw? (name : String) : Option NameFlaw :=
  if !Text.isIdentifier name then some .malformed
  else if Text.reservedWords.contains name then some .reserved
  else none

/-- The first name of an item that cannot stand with those before it. -/
def misplaced? (seen : List String) : List String → Option (NameFlaw × String)
  | [] => none
  | name :: rest =>
      if name.startsWith "_" then some (.hidden, name)
      else if seen.contains name then some (.repeated, name)
      else misplaced? (name :: seen) rest

/-- The first name of a field that cannot be one, by itself or behind those before it. -/
def flawedField? (seen : List String) : List String → Option (NameFlaw × String)
  | [] => none
  | name :: rest =>
      match flaw? name with
      | some flaw => some (flaw, name)
      | none =>
          if seen.contains name then some (.repeated, name) else flawedField? (name :: seen) rest

/-- The first of some names that one before it has as well. -/
def repeated? (seen : List String) : List String → Option String
  | [] => none
  | name :: rest => if seen.contains name then some name else repeated? (name :: seen) rest

def fieldMark : Value := operationNamed "Field" "Field"

/-- What a definition has under a name: a field, or what the class shares. -/
def defined (fields : List String) (own : List (String × Value)) (name : String) : Option Value :=
  if fields.contains name then some fieldMark else own.lookup name

/-- What is wrong with the fields that objects of a class may have, given one after the
other. -/
def slotFault? : List Value → Option Fault
  | [] => none
  | slot :: rest =>
      match slot.text? with
      | none => some (.notSlot slot.formalName)
      | some name =>
          if Text.isIdentifier name then slotFault? rest else some .flawedSlot

/-- What is wrong with what a class gives for the fields that its objects may have (`__slots__`). A
text is the name of one field. -/
def slotsFault? (given : String → Option Value) (slots : Value) : Option Fault :=
  let named := if slots.text?.isSome then some [slots] else slots.items?
  match named with
  | none => some (.notSlots slots.formalName)
  | some named =>
      (slotFault? named).or
        (((named.filterMap Value.text?).find? fun name => (given name).isSome).map Fault.takenSlot)

/-- The full name of a class, which it may give itself. The fields that its objects may have
come first, and what the class is known by last. -/
def fullNameOf (name : String) (given : String → Option Value) : Except Fault String := do
  match (given "__slots__").bind (slotsFault? given) with
  | some fault => throw fault
  | none => pure ()
  if name.toList.contains '\x00' then throw .brokenName
  let fullName ←
    match given "__qualname__" with
    | none => pure name
    | some title =>
        match title.text? with
        | some title => pure title
        | none => throw (.notFullName title.typeName)
  match given "__classcell__" with
  | some cell =>
      throw (.badCell (if cell.typeName = "Field" then "dataclasses.Field" else cell.formalName))
  | none => pure fullName

/-! ### What a definition sets off -/

/-- Fails when something that a class shares asks to be told its name (`__set_name__`), which it
cannot be told. -/
def nameAll (cls : Class) (own : List (String × Value)) : Except Fault Unit :=
  match own.find? fun item => (item.2.shared? "__set_name__").isSome with
  | some (name, item) => .error (.nameRefused item.typeName name cls.name)
  | none => .ok ()

/-- Tells the classes above of a class below them. -/
def announce (m : Interpretation) (base : ClassSpec) (cls : Value) : Act Unit :=
  match base.shared.lookup "__init_subclass__" with
  | none => pure ()
  | some listener => do
      let listener ← cls.boundToClass m listener
      let _ ← m.call listener .empty
      pure ()

/-- Attributes with the say on keys that follows from a say on equality. -/
def withKeySay (fields : List String) (own : List (String × Value)) : List (String × Value) :=
  let has (name : String) : Bool := (own.lookup name).isSome || fields.contains name
  if has "__eq__" && !has "__hash__" then own ++ [("__hash__", .null)] else own

/-- Whether a class shares something that can be read on the class itself. -/
def brings (m : Interpretation) (spec : ClassSpec) (name : String) : Act Bool :=
  match spec.shared.lookup name with
  | none => pure false
  | some item => do
      match ← (spec.asValue.boundToClass m item).attempt with
      | .ok _ => pure true
      | .error fault => if fault.kind = .access then pure false else Act.fail fault

/-! ### Plain classes -/

def plainHides : List String := ["__repr__", "__doc__", "__module__"]

/-- A class that adds attributes only. Its objects are written without their fields
and are otherwise like those of the class above. -/
def derivePlain (m : Interpretation) (base : ClassSpec) (name : String)
    (own : List (String × Value)) : Act ClassSpec := do
  let fullName ← fullNameOf name (defined [] own)
  let cls : Class :=
    {base.cls with name := name, fullName := fullName, ancestors := base.lineage, bare := true}
  let kept := own.filter fun item => !(["__qualname__", "__repr__"] : List String).contains item.1
  let spec : ClassSpec := ⟨cls, ⟨name, withKeySay [] kept, plainHides⟩ :: base.layers⟩
  nameAll cls kept
  base.announce m spec.asValue
  pure spec

/-! ### Named tuples -/

/-- `namedtuple`: a class of tuples whose items have the given names. All names are looked at by
themselves before they are looked at together. -/
def namedTuple (name : String) (fields : List String) : Except Fault ClassSpec :=
  let flawed := (name :: fields).findSome? fun name => (flaw? name).map fun flaw => (flaw, name)
  let parameters := fields.map Text.normalForm
  match flawed.or (misplaced? [] fields), repeated? [] parameters with
  | some (flaw, name), _ => .error (.flawedName flaw name)
  | none, some parameter => .error (.repeatedParameter parameter)
  | none, none =>
      .ok
        { cls :=
            {root.cls with
              name := name, fullName := name, layout := .namedTuple, fields := fields,
              builder := name, shape := some ⟨name, parameters⟩, bare := false}
          layers := [⟨name, [], []⟩] }

/-! ### Records -/

/-- What a record class does not take over from the classes above, because it brings it by
nature. -/
def recordHides (frozen : Bool) : List String :=
  ["__eq__", "__repr__", "__init__", "__hash__", "__match_args__", "__dataclass_fields__",
    "__dataclass_params__", "__doc__", "__module__"] ++
    if frozen then ["__setattr__", "__delattr__"] else []

/-- Whether some attributes say for themselves how objects are filed as keys. -/
def filesKeys (own : List (String × Value)) : Bool :=
  match own.lookup "__hash__" with
  | none => false
  | some item => !(item.isNull && (own.lookup "__eq__").isSome)

def recordOwn (fields : List String) (own : List (String × Value)) : List (String × Value) :=
  let replaced :=
    ["__qualname__", "__annotations__", "__dataclass_fields__", "__dataclass_params__"]
  let kept :=
    (withKeySay fields own).filter fun item =>
      !fields.contains item.1 && !replaced.contains item.1
  let kept := if filesKeys kept then kept else kept.filter fun item => item.1 ≠ "__hash__"
  let types := namesTo (fields.map fun name => (name, .basicType .object))
  let marked := if fields.contains "__class__" then [("__class__", fieldMark)] else []
  kept ++ marked ++ [("__annotations__", types), ("__module__", .text "types")]

/-- What a field of a certain name cannot start from, as every class has something else
there. -/
def startFault? (name : String) : Option Fault :=
  match name with
  | "__annotations__" => some (.mutableDefault "<class 'dict'>" name)
  | "__dict__" => some (.mutableDefault "<class 'mappingproxy'>" name)
  | _ => none

/-- What is wrong with a field of a certain name, as it would take away what a class is
known by. -/
def takingFault? (cls name : String) : Option Fault :=
  match name with
  | "__doc__" | "__module__" => some (.ownAttribute name cls)
  | _ => none

/-- The names under which every class has something that a field may start from. -/
def startNames : List String :=
  ["__class__", "__name__", "__mro__", "__bases__", "__base__", "__basicsize__", "__itemsize__",
    "__flags__", "__dictoffset__", "__weakrefoffset__", "__text_signature__"]

/-- What is wrong with the names by which an operation that fills objects takes their
fields, of which it is given the initial ones. -/
def parameterFault? (fields initial : List String) : Option Fault :=
  let lead := "_type_"
  let fixed := "__debug__"
  let behind := (initial.dropWhile fun name => !startNames.contains name).filter fun name =>
    !startNames.contains name
  match behind, repeated? [] (fields.map Text.normalForm) with
  | name :: _, _ => some (.misplacedField name)
  | [], some name => some (.repeatedParameter (lead ++ name))
  | [], none =>
      if initial.contains fixed then some (.fixedName fixed)
      else
        (fields.find? fun name => Text.normalForm name ≠ name).map fun name =>
          .unknownArgument "__create_fn__" (lead ++ name)

/-- What is wrong with a class of records beside the names of its own fields: its fields,
the class above it, and the operations that it brings itself. -/
def recordFault? (base : ClassSpec) (cls : Class) (fields : List String)
    (own : List (String × Value)) : Option Fault :=
  let mixed :=
    if base.cls.layout = .record && base.cls.frozen != cls.frozen then
      some (.mixedFrozen cls.frozen)
    else none
  let closed :=
    if cls.frozen then
      (["__setattr__", "__delattr__"].find? fun name => (own.lookup name).isSome).map fun name =>
        .frozenOperation name cls.name
    else none
  ((((fields.findSome? startFault?).or (fields.findSome? (takingFault? cls.name))).or mixed).or
    (parameterFault? cls.fields cls.initial)).or closed

/-- Looks at what a class above gives for the descriptions of its fields in place of those
of a record, which say nothing that is understood. -/
def checkDescriptions (m : Interpretation) (base : ClassSpec) : Act Unit := do
  let above := base.asValue
  match base.shared.lookup "__dataclass_fields__" with
  | none => pure ()
  | some described =>
      match ← above.boundToClass m described with
      | .null => pure ()
      | .mapping _ [] => do
          let settings ← above.read m "__dataclass_params__"
          let _ ← settings.read m "frozen"
          pure ()
      | .mapping _ ((_, item) :: _) => do
          let _ ← item.read m "name"
          pure ()
      | described => do
          let lister ← described.read m "values"
          let _ ← m.call lister .empty
          pure ()

/-- Whether what a class says about itself is kept. Where it counts as nothing, a record
class says what its objects are made of. -/
def keepsNote (m : Interpretation) (spec : ClassSpec) (own : List (String × Value)) : Act Bool :=
  match own.lookup "__doc__" with
  | none => pure true
  | some note => do
      let note ← spec.asValue.boundToClass m note
      note.holds m

/-- `dataclass`: a class of records with the given fields behind those of the class above. -/
def deriveRecord (m : Interpretation) (base : ClassSpec) (name : String) (frozen : Bool)
    (fields late : List String) (own : List (String × Value)) : Act ClassSpec := do
  match flawedField? [] fields with
  | some (flaw, field) => Act.fail (.flawedField flaw field)
  | none =>
      let own := own.filter fun item => !fields.contains item.1
      let fullName ← fullNameOf name (defined fields own)
      let above : List String := if base.cls.layout = .record then base.cls.fields else []
      let layer : Layer := ⟨name, recordOwn fields own, recordHides frozen⟩
      let layers := layer :: base.layers
      let cls : Class :=
        { name := name
          fullName := fullName
          layout := .record
          fields := (above ++ fields).eraseDups
          late := (base.cls.late.filter fun field => !fields.contains field) ++
            fields.filter fun field => late.contains field && !startNames.contains field
          ancestors := base.lineage
          builder := fullName
          shape := base.cls.shape
          finishes := false
          frozen := frozen
          bare := false }
      let spec : ClassSpec := ⟨cls, layers⟩
      let settled : List String := ["__qualname__", "__annotations__"]
      nameAll cls (own.filter fun item => !settled.contains item.1)
      base.announce m spec.asValue
      match own.lookup "__module__" with
      | some home => home.checkKey m
      | none => pure ()
      base.checkDescriptions m
      match recordFault? base cls fields own with
      | some fault => Act.fail fault
      | none =>
          let finishes ← spec.brings m "__post_init__"
          let cls := {cls with finishes := finishes}
          if ← spec.keepsNote m own then pure ⟨cls, spec.layers⟩
          else
            let silent := layer.own.filter fun item => item.1 ≠ "__doc__"
            pure ⟨cls, {layer with own := silent} :: base.layers⟩

/-! ### Objects -/

/-- The class with more attributes shared by the class of the given name, if that is
the class itself or one above it. -/
def extend (spec : ClassSpec) (name : String) (more : List (String × Value)) : ClassSpec :=
  {spec with
    layers := spec.layers.map fun layer =>
      if layer.name = name then {layer with own := more ++ layer.own} else layer}

/-- Some values under names, of which a name that comes again keeps its place. -/
def distinct (given : List (String × Value)) : List (String × Value) :=
  given.foldl (fun kept (name, item) => writeField kept name item) []

def makesRecords (m : Interpretation) (spec : ClassSpec) : Act Bool :=
  if spec.cls.layout = .record then pure true else spec.brings m "__dataclass_fields__"

/-- An object of the class with the given fields. A tuple is made of all of them; a record
is made of its initial fields and then given the late ones; any other object is made of
nothing, and the fields are set on it one after the other. -/
def make (m : Interpretation) (spec : ClassSpec) (origin : Nat) (given : List (String × Value)) :
    Act Value := do
  let identity : Identity := ⟨origin, 0⟩
  let build (given : List (String × Value)) : Act Value :=
    spec.cls.make m spec.shared identity
      ⟨[], (distinct given).map fun (name, item) => (.text name, item)⟩
  if spec.cls.shape.isSome then build given
  else if ← spec.makesRecords m then
    let isLate (field : String × Value) : Bool := spec.cls.late.contains field.1
    let v ← build (given.filter fun field => !isLate field)
    (given.filter isLate).foldlM (fun v (name, item) => v.setDirectly m name item) v
  else
    let v ← build []
    given.foldlM (fun v (name, item) => v.set m name item) v

end ClassSpec

end StateRules
