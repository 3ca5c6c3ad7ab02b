import StateRules.Interpretation
import StateRules.Value.Attribute

/-!
Reading an attribute of a value (`getattr`), and consulting the operations that its class brings.

What a value has under a name is settled by what it is made of (`Value.attr?`), except for an object
whose class has a say in it: the class may read every name itself (`__getattribute__`), may step in
where there is nothing under a name (`__getattr__`), and may share a descriptor, which turns into
something else when it is read on an object (`__get__`). A descriptor comes before the object's own
field only if it also says what setting the name means (`__set__`, `__delete__`). Reading leaves the
object as it is.

An operation of an object's own is whatever its class shares under the name of the
operation, and it is called, whatever it is (`Value.consult`).
-/

namespace StateRules

namespace Value

/-- The fault of a value that has no attribute of the given name. -/
def lackOf (v : Value) (name : String) : Fault :=
  match v with
  | .basicType t => .typeAttribute t.name name
  | .classType cls _ => .typeAttribute cls.name name
  | v => .noAttribute v.formalName name

/-- Whether something that a class shares turns into something else when it is read. -/
def isBinding (item : Value) : Bool := (item.shared? "__get__").isSome

/-- Whether something that a class shares says what setting its name on an object
means. -/
def governsSetting (item : Value) : Bool :=
  (item.shared? "__set__").isSome || (item.shared? "__delete__").isSome

/-- Something that a class shares as it is read on an object of the class. -/
def bound (m : Interpretation) (owner item : Value) : Act Value :=
  match item.shared? "__get__" with
  | none => pure item
  | some binding => m.call binding (.ofList [item, owner, owner.type])

def boundToClass (m : Interpretation) (cls item : Value) : Act Value :=
  match item.shared? "__get__" with
  | none => pure item
  | some binding => m.call binding (.ofList [item, .null, cls])

/-- Whether an object keeps a field of its own under a name, apart from its class. -/
def keepsField (v : Value) (name : String) : Bool :=
  match v with
  | .object cls _ _ fields => cls.layout != .namedTuple && (fields.lookup name).isSome
  | _ => false

/-- What a value has under a name, as far as its class does not read it itself. -/
def find (m : Interpretation) (v : Value) (name : String) : Act Value :=
  let kept := Act.ofOption (v.lackOf name) (v.attr? name)
  match v.shared? name with
  | none => kept
  | some item =>
      if item.isBinding && (item.governsSetting || !v.keepsField name) then v.bound m item
      else kept

/-- `getattr`: the attribute of a value with a given name. -/
def read (m : Interpretation) (v : Value) (name : String) : Act Value :=
  let direct : Act Value :=
    match v.shared? "__getattribute__" with
    | none => v.find m name
    | some reader => do
        let reader ← v.bound m reader
        m.call reader (.ofList [.text name])
  match v.shared? "__getattr__" with
  | none => direct
  | some fallback => do
      match ← direct.attempt with
      | .ok item => pure item
      | .error fault =>
          if fault.kind = .access then do
            let fallback ← v.bound m fallback
            m.call fallback (.ofList [.text name])
          else Act.fail fault

/-- The attribute of a value with a given name, if there is one. -/
def read? (m : Interpretation) (v : Value) (name : String) : Act (Option Value) := do
  match ← (v.read m name).attempt with
  | .ok item => pure (some item)
  | .error fault => if fault.kind = .access then pure none else Act.fail fault

/-- `hasattr`. -/
def has (m : Interpretation) (v : Value) (name : String) : Act Bool :=
  Option.isSome <$> v.read? m name

/-- What an operation of an object's own gives, if its class brings the operation. -/
def consult (m : Interpretation) (v : Value) (operation : String) (items : List Value) :
    Act (Option Value) :=
  match v.shared? operation with
  | none => pure none
  | some item => do
      let item ← v.bound m item
      some <$> m.call item (.ofList items)

/-- An operation that no class brings is not consulted. -/
theorem consult_of_shared_none {v : Value} {operation : String}
    (h : v.shared? operation = none) (m : Interpretation) (items : List Value) :
    v.consult m operation items = pure none := by
  simp [consult, h]

def isBelow (claimed : Value) (t : TypeRef) : Bool :=
  match claimed, t with
  | .basicType own, .basic t => own = t || own.above.contains t
  | .classType cls _, .named name => cls.name = name || cls.ancestors.contains name
  | .classType _ _, .basic .object => true
  | .classType cls _, .basic .tuple => cls.layout = .namedTuple || cls.shape.isSome
  | _, _ => false

/-- `isinstance`: whether a value belongs to a type, by its nature or by what it gives itself out to
be (`__class__`). -/
def isA (m : Interpretation) (v : Value) (t : TypeRef) : Act Bool :=
  if v.isKind t then pure true
  else
    match v with
    | .object _ _ _ _ => do
        let claimed ← v.read? m "__class__"
        pure ((claimed.map fun claimed => claimed.isBelow t).getD false)
    | _ => pure false

/-- `isinstance`, for a type, an enumeration or a kind of declaration, when it is known whether the
value is one by its nature. An object is asked for its `__class__`, as anywhere else, but what it
gives is taken for none of these. Here the values have a limit: `isinstance` would believe an object
that gives itself out to be one of them, and there is no such object. -/
def countsAs (m : Interpretation) (v : Value) (own : Bool) : Act Bool :=
  if own then pure true
  else
    match v with
    | .object _ _ _ _ => do
        let _ ← v.read? m "__class__"
        pure false
    | _ => pure false

/-- Whether what an object gives itself out to be is looked up among what is known already. -/
def isNoted (claimed : Value) : Bool :=
  match claimed with
  | .object cls _ _ _ => cls.layout != .namedTuple
  | .token _ => true
  | _ => false

/-- `isinstance` for a mapping of any kind, as `collections.abc.Mapping` answers it. -/
def isMapping (m : Interpretation) (v : Value) : Act Bool :=
  match v with
  | .mapping _ _ => pure true
  | .object _ _ _ _ => do
      match ← v.read m "__class__" with
      | .basicType t => pure (t = .mapping)
      | .classType _ _ | .feature "type" _ _ => pure false
      | claimed => do
          if claimed.isNoted then m.checkKey claimed
          Act.fail .notClass
  | _ => pure false

end Value

end StateRules
