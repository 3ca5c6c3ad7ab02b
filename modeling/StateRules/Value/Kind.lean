import StateRules.Value.Basic
import StateRules.Number.Decimal

/-!
What kind of value a value is: the name of its type, the types it belongs to, the
items it can be taken apart into, and whether it counts as true.
-/

namespace StateRules

def BasicType.name : BasicType → String
  | .boolean => "bool"
  | .integer => "int"
  | .float => "float"
  | .text => "str"
  | .list => "list"
  | .tuple => "tuple"
  | .mapping => "dict"
  | .object => "object"

def BasicType.above : BasicType → List BasicType
  | .boolean => [.integer, .object]
  | .object => []
  | _ => [.object]

def MappingKind.typeName : MappingKind → String
  | .plain => "dict"
  | .ordered => "OrderedDict"
  | .readOnly => "mappingproxy"

def Declaration.typeName : Declaration → String
  | .simple .. | .sourceBlock .. => "FromDeclaration"
  | .toEntry .. => "ToDeclaration"
  | .eventBlock .. => "EventDeclaration"

/-- A type to which an entity can be bound: one of the basic types, or a class by
its name. -/
inductive TypeRef where
  | basic (t : BasicType)
  | named (cls : String)
deriving DecidableEq, Repr

def TypeRef.name : TypeRef → String
  | .basic t => t.name
  | .named cls => cls

namespace Value

def typeName : Value → String
  | .null => "NoneType"
  | .boolean _ => "bool"
  | .integer _ => "int"
  | .float _ => "float"
  | .text _ => "str"
  | .bytes _ => "bytes"
  | .list _ => "list"
  | .tuple _ => "tuple"
  | .mapping kind _ => kind.typeName
  | .any => "_AnyState"
  | .unset => "object"
  | .member m => m.enumeration.name
  | .basicType _ => "type"
  | .function _ _ => "function"
  | .token _ => "Opaque"
  | .placeholder _ => "_Placeholder"
  | .renderable _ _ => "Renderable"
  | .feature typeName _ _ => typeName
  | .classType _ _ => "type"
  | .object cls _ _ _ => cls.name
  | .declaration d => d.typeName

/-- The full name of a value's type, which differs from its name where the type
comes with a collection of its own. -/
def formalName : Value → String
  | .mapping .ordered _ => "collections.OrderedDict"
  | v => v.typeName

/-- Whether a value belongs to a type by its nature, a class being known by its simple name. Truth
values are whole numbers, named tuples are tuples, ordered mappings are mappings while read-only
ones are not, transparent members belong to the type of their payload, an object belongs to its
class and all ancestors of it, and everything is an object. -/
def isKind (v : Value) : TypeRef → Bool
  | .basic .object => true
  | .basic .boolean => match v with | .boolean _ => true | _ => false
  | .basic .integer => v.integer?.isSome
  | .basic .float => match v with | .float _ => true | _ => false
  | .basic .text => v.text?.isSome
  | .basic .list => match v with | .list _ => true | _ => false
  | .basic .tuple => v.tupleItems?.isSome
  | .basic .mapping =>
      match v with
      | .mapping .plain _ | .mapping .ordered _ => true
      | _ => false
  | .named name =>
      match v with
      | .object cls _ _ _ => cls.name == name || cls.ancestors.contains name
      | _ => false

/-- The items that a value is taken apart into, if it can be: characters of a
text, numbers of bytes, keys of a mapping. -/
def items? (v : Value) : Option (List Value) :=
  match v with
  | .list items => some items
  | .bytes data => some (data.map fun byte => .integer byte.toNat)
  | .mapping _ entries => some (entries.map Prod.fst)
  | v => v.tupleItems?.or (v.text?.map fun s => s.toList.map fun c => .text c.toString)

/-- Whether a value counts as true. Empty collections, zeros and `null` do not. -/
def truth (v : Value) : Bool :=
  match v with
  | .null => false
  | .float x => !x.isZero
  | v =>
      match v.integer?, v.items? with
      | some n, _ => n ≠ 0
      | none, some items => !items.isEmpty
      | none, none => true

theorem truth_text (s : String) : (Value.text s).truth = !s.isEmpty := by
  have hempty : s.toList.isEmpty = s.isEmpty := by rw [Bool.eq_iff_iff]; simp
  simp [truth, integer?, items?, text?, tupleItems?, hempty]

end Value

end StateRules
