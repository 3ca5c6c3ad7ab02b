import StateRules.Value.Kind
import StateRules.Value.Manifest
import StateRules.Value.Note

/-!
The attributes that can be read on a value by name.

An object's own field comes before what its class shares, while the items of a named
tuple are read by way of its class, so what that shares hides an item of the same
name. Numbers have their numeric parts, members of an enumeration their name and
payload and the other members, declarations their parts. Every value has a type, and
what that defines can be read as well, though it says nothing about the value's state.
On a type itself the same names give what the type defines for its values.
-/

namespace StateRules

def typeNamed (name : String) : Value := .feature "type" name ("<class '" ++ name ++ "'>")

def operationNamed (kind name : String) : Value := .feature kind name name

def namesTo (fields : List (String × Value)) : Value :=
  .mapping .plain (fields.map fun (name, item) => (.text name, item))

/-- The type whose values the transparent members of an enumeration count as. -/
def Enumeration.basis (e : Enumeration) : BasicType :=
  match e.nature, e.members with
  | .transparent, (_, .integer _) :: _ => .integer
  | .transparent, (_, .text _) :: _ => .text
  | _, _ => .object

def Enumeration.asType (e : Enumeration) : Value :=
  .feature "type" e.name ("<enum '" ++ e.name ++ "'>")

def Enumeration.roster (e : Enumeration) : List (String × Value) :=
  e.members.map fun (name, payload) => (name, .member ⟨e, name, payload⟩)

def Enumeration.registers (e : Enumeration) : List (String × Value) :=
  let plain := e.basis = .object
  [("_member_names_", .list (e.roster.map fun entry => .text entry.1)),
    ("_member_map_", namesTo e.roster),
    ("_value2member_map_", .mapping .plain (e.members.map fun (name, payload) =>
      (.ofPayload payload, .member ⟨e, name, payload⟩))),
    ("_member_type_", .basicType e.basis), ("_unhashable_values_", .list []),
    ("_use_args_", .boolean !plain),
    ("_value_repr_",
      if plain then .null else operationNamed "method-wrapper" (e.basis.name ++ ".__repr__")),
    ("_new_member_", operationNamed "builtin_function_or_method" (e.basis.name ++ ".__new__")),
    ("_generate_next_value_", operationNamed "method" "Enum._generate_next_value_"),
    ("_missing_", operationNamed "method" "Enum._missing_")]

namespace Member

/-- The place of a member in its enumeration. -/
def rank (m : Member) : Nat := m.enumeration.members.findIdx fun other => other.1 = m.name

def fieldOwner (m : Member) : String :=
  match m.enumeration.basis with
  | .text => m.enumeration.name
  | _ => "Enum"

/-- What a member is known by. -/
def marks (m : Member) : List (String × Value) :=
  [("_value_", .ofPayload m.payload), ("_name_", .text m.name),
    ("__objclass__", m.enumeration.asType), ("_sort_order_", .integer m.rank)]

/-- What a member is known by, the other members of its enumeration, and what that
keeps about them. -/
def attributes (m : Member) : List (String × Value) :=
  [("name", .text m.name), ("value", .ofPayload m.payload), ("__dict__", namesTo m.marks)] ++
    (match m.enumeration.basis with
      | .integer => [("__str__", operationNamed "method-wrapper" "int.__repr__")]
      | _ => [("__weakref__", .null)]) ++
    m.marks ++ m.enumeration.roster ++ m.enumeration.registers

/-- The types that a member belongs to. -/
def lineage (m : Member) : List Manifest :=
  match m.enumeration.nature, m.enumeration.basis with
  | .acting _, _ => [.ofRoutines m.enumeration.name ["__call__"], .member, .object]
  | _, .integer => [.numberMember, .integer, .member, .object]
  | _, .text => [.textMember, .text, .member, .object]
  | _, _ => [.member, .object]

end Member

/-- The parts of a declaration that can be read by name. A block's entries read
as a tuple. -/
def Declaration.parts : Declaration → List (String × Value)
  | .simple source destination event =>
      [("state", source), ("to", destination), ("event", event), ("body", .null)]
  | .sourceBlock source destination event entries =>
      [("state", source), ("to", destination), ("event", event), ("body", .tuple entries)]
  | .toEntry destination event => [("target", destination), ("event", event)]
  | .eventBlock event entries guard =>
      [("event", event), ("body", .tuple entries), ("guard", guard)]

def recordTraits (fields : List String) (frozen : Bool) : List (String × Value) :=
  let settings :=
    "(init=True,repr=True,eq=True,order=False,unsafe_hash=False,frozen=" ++
      (if frozen then "True)" else "False)")
  [("__dataclass_fields__", namesTo (fields.map fun name => (name, operationNamed "Field" name))),
    ("__dataclass_params__", operationNamed "_DataclassParams" ("_DataclassParams" ++ settings))]

def Declaration.traits (d : Declaration) : List (String × Value) :=
  let fixed :=
    [("__dict__", namesTo d.parts),
      ("__match_args__", .tuple (d.parts.map fun part => .text part.1)), ("__weakref__", .null)] ++
      recordTraits (d.parts.map Prod.fst) true
  match d with
  | .simple .. => ("is_block", .boolean false) :: fixed
  | .sourceBlock .. => ("is_block", .boolean true) :: fixed
  | .toEntry .. | .eventBlock .. => fixed

namespace BasicType

/-- The manifests of a type and of the types above it. -/
def lineage : BasicType → List Manifest
  | .boolean => [.boolean, .integer, .object]
  | .integer => [.integer, .object]
  | .float => [.float, .object]
  | .text => [.text, .object]
  | .list => [.list, .object]
  | .tuple => [.tuple, .object]
  | .mapping => [.mapping, .object]
  | .object => [.object]

/-- What a type says about the arguments it is called with, if it says so. -/
def signature : BasicType → Value
  | .float => .text "(x=0, /)"
  | .list | .tuple => .text "(iterable=(), /)"
  | .object => .text "()"
  | _ => .null

/-- Whether values of a type may change, so that none of them is a key. -/
def isMutable : BasicType → Bool
  | .list | .mapping => true
  | _ => false

/-- What the values of a type take: the room for any of them, the room for each item, and
the marks of the type. -/
def dimensions : BasicType → Nat × Nat × Nat
  | .boolean => (32, 4, 21500160)
  | .integer => (24, 4, 21501184)
  | .float => (24, 0, 4723968)
  | .text => (80, 0, 273159424)
  | .list => (40, 0, 38294816)
  | .tuple => (24, 8, 71849248)
  | .mapping => (48, 0, 541611328)
  | .object => (16, 0, 529664)

/-- What a type is known by. -/
def attributes (t : BasicType) : List (String × Value) :=
  let higher := t.above.map Value.basicType
  [("__name__", .text t.name), ("__qualname__", .text t.name), ("__class__", typeNamed "type"),
    ("__module__", .text "builtins"), ("__base__", higher.head?.getD .null),
    ("__bases__", .tuple (higher.take 1)), ("__mro__", .tuple (.basicType t :: higher)),
    ("__text_signature__", t.signature), ("__dictoffset__", .integer 0),
    ("__weakrefoffset__", .integer 0), ("__basicsize__", .integer t.dimensions.1),
    ("__itemsize__", .integer t.dimensions.2.1), ("__flags__", .integer t.dimensions.2.2)] ++
    if t.isMutable then [("__hash__", .null)] else []

def definition (t : BasicType) (m : Manifest) (trait : Trait) (name : String) : Value :=
  let own := m.owner ++ "." ++ name
  let shown (what : String) : String :=
    "<" ++ what ++ " '" ++ name ++ "' of '" ++ m.owner ++ "' objects>"
  match trait with
  | .slot => .feature "wrapper_descriptor" own (shown "slot wrapper")
  | .method => .feature "method_descriptor" own (shown "method")
  | .routine => operationNamed "function" own
  | .shared => operationNamed "builtin_function_or_method" (t.name ++ "." ++ name)
  | .free => operationNamed "builtin_function_or_method" own
  | .part => .feature "getset_descriptor" (shown "attribute") (shown "attribute")

end BasicType

/-- What a value of a type finds under a name that one of its types defines. -/
def Manifest.offer (m : Manifest) (trait : Trait) (typeName name : String) : Value :=
  let own := m.owner ++ "." ++ name
  match trait with
  | .slot => operationNamed "method-wrapper" own
  | .routine => operationNamed "method" own
  | .free => operationNamed "builtin_function_or_method" own
  | _ => operationNamed "builtin_function_or_method" (typeName ++ "." ++ name)

namespace Class

/-- The manifests of a class and of the types above it. -/
def lineage (cls : Class) : List Manifest :=
  let own := if cls.bare then [Manifest.ofRoutines cls.name ["__repr__"]] else []
  match cls.layout with
  | .record => own ++ [.record cls.builder cls.frozen, .object]
  | .namedTuple => own ++ [.namedTuple cls.builder, .tuple, .object]
  | .plain => own ++ [.object]

/-- What can be read on the objects of a class beside their fields and what it shares. -/
def traits (cls : Class) (fields : List (String × Value)) : List (String × Value) :=
  let names (fields : List String) : Value := .tuple (fields.map Value.text)
  match cls.layout with
  | .plain =>
      [("__dict__", namesTo fields), ("__weakref__", .null)]
  | .namedTuple =>
      let own :=
        if cls.bare then [("__dict__", .mapping .plain [])]
        else
          let given := match cls.fields with | [name] => name ++ "," | many => ", ".intercalate many
          [("__doc__", .text (cls.name ++ "(" ++ given ++ ")"))]
      own ++
        [("_fields", names cls.fields), ("_field_defaults", .mapping .plain []),
          ("__match_args__", names cls.fields), ("__slots__", .tuple []),
          ("__new__", operationNamed "function" (cls.builder ++ ".__new__"))]
  | .record =>
      let initial := cls.fields.filter fun name => !cls.late.contains name
      let kept := fields.filter fun field => initial.contains field.1
      let added := fields.filter fun field => !initial.contains field.1
      let own :=
        if cls.bare then []
        else
          let given := initial.map fun name => name ++ ": object"
          [("__doc__", .text (cls.name ++ "(" ++ ", ".intercalate given ++ ")"))]
      own ++
        [("__dict__", namesTo (kept ++ added)), ("__match_args__", names initial),
          ("__weakref__", .null)] ++
        recordTraits cls.fields cls.frozen ++ if cls.frozen then [] else [("__hash__", .null)]

/-- What a class is known by. -/
def marks (cls : Class) : List (String × Value) :=
  [("__name__", .text cls.name), ("__qualname__", .text cls.fullName)]

end Class

/-- The names of an operation or a type that is known by its full name: the last part of
that, and the full name itself. -/
def titles (label : String) : List (String × Value) :=
  let last := (label.toList.reverse.takeWhile (· ≠ '.')).reverse
  [("__name__", .text (String.ofList last)), ("__qualname__", .text label)]

/-- The types of what is known by a full name. -/
def titled : List String :=
  ["type", "function", "method", "method-wrapper", "builtin_function_or_method",
    "method_descriptor", "wrapper_descriptor"]

namespace Value

/-- The numeric parts of a number: whole numbers have four, binary ones two. -/
def numericParts (v : Value) : List (String × Value) :=
  match v with
  | .float _ =>
      [("real", v), ("imag", .float (.finite false 0 Number.Binary.leastExponent))]
  | v =>
      match v.integer? with
      | some n =>
          [("real", .integer n), ("imag", .integer 0), ("numerator", .integer n),
            ("denominator", .integer 1)]
      | none => []

def attributes (v : Value) : List (String × Value) :=
  match v with
  | .object cls shared _ fields =>
      if cls.layout = .namedTuple then shared ++ fields ++ cls.traits fields
      else fields ++ shared ++ cls.traits fields
  | .classType cls shared => cls.marks ++ shared
  | .member m => m.attributes ++ v.numericParts
  | .any =>
      [("_instance", .any), ("__dict__", .mapping .plain []), ("__weakref__", .null),
        ("__new__", operationNamed "function" "_AnyState.__new__")]
  | .function _ label =>
      (if label.isUnset then [] else [("__qualname__", label)]) ++ [("__weakref__", .null)]
  | .token shown =>
      [("text", shown), ("__dict__", namesTo [("text", shown)]), ("__hash__", .null),
        ("__weakref__", .null)]
  | .renderable _ rendition =>
      [("text", rendition), ("__dict__", namesTo [("text", rendition)]), ("__weakref__", .null)]
  | .declaration d => d.parts ++ d.traits
  | .feature typeName label _ => if titled.contains typeName then titles label else []
  | .list _ => [("__hash__", .null)]
  | .basicType t => t.attributes
  | v => v.numericParts

def type (v : Value) : Value :=
  match v with
  | .boolean _ => .basicType .boolean
  | .integer _ => .basicType .integer
  | .float _ => .basicType .float
  | .text _ => .basicType .text
  | .list _ => .basicType .list
  | .tuple _ => .basicType .tuple
  | .mapping .plain _ => .basicType .mapping
  | .unset => .basicType .object
  | .member m => m.enumeration.asType
  | .object cls shared _ _ => .classType cls shared
  | v => typeNamed v.typeName

/-- The manifests of the types that a value belongs to. -/
def lineage (v : Value) : List Manifest :=
  match v with
  | .null => [.null, .object]
  | .feature "type" _ _ | .classType _ _ => [.type, .object]
  | .bytes _ => [.bytes, .object]
  | .mapping _ _ => [.mapping, .object]
  | .member m => m.lineage
  | .any => [.ofRoutines v.typeName ["__repr__"], .object]
  | .function _ _ => [.ofRoutines "Function" ["__call__", "__init__", "__repr__"], .object]
  | .token _ => [.ofRoutines v.typeName ["__eq__", "__init__", "__repr__"], .object]
  | .renderable _ _ => [.ofRoutines v.typeName ["__init__", "__repr__", "render"], .object]
  | .object cls _ _ _ => cls.lineage
  | .declaration d =>
      [.ofRoutines d.typeName ["render"], .record d.typeName true, .object]
  | v =>
      match v.type with
      | .basicType t => t.lineage
      | _ => [.object]

/-- What a value offers under a name by one of its types. A text's `maketrans` is that of
texts in general, also on a member of an enumeration. -/
def offer? (v : Value) (name : String) : Option Value :=
  match v with
  | .basicType t =>
      match Manifest.traitOf? t.lineage name with
      | some (m, trait) => some (t.definition m trait name)
      | none =>
          (Manifest.type.trait? name).map fun trait => Manifest.type.offer trait t.name name
  | v =>
      (Manifest.traitOf? v.lineage name).map fun (m, trait) => m.offer trait v.typeName name

/-- What is said about any value: its type, and what that says about itself. -/
def aside? (v : Value) (name : String) : Option Value :=
  match name with
  | "__class__" => some v.type
  | "__doc__" => some ((v.note?.map Value.text).getD .null)
  | _ => none

def attr? (v : Value) (name : String) : Option Value :=
  ((v.attributes.lookup name).or (v.aside? name)).or (v.offer? name)

def ownFields (v : Value) : List (String × Value) :=
  match v with
  | .object _ _ _ fields => fields
  | _ => []

end Value

end StateRules
