import StateRules.Number.Binary

/-!
The values that states, events, entities and declarations are made of.

A rule set treats states as it finds them, so the type is wide: numbers, texts,
collections, members of enumerations, types, functions, objects with fields, and
the declarations themselves, which may stand wherever a value may. Two values of
this type may be equal as values without being written alike; `Value.equal`
decides that, not Lean's equality.
-/

namespace StateRules

/-- The three kinds of mapping. All keep their entries in order, but only the
ordered kind takes the order into account when two of them are compared. -/
inductive MappingKind where
  | plain
  | ordered
  | readOnly
deriving DecidableEq, Repr

/-- The types that are values themselves. -/
inductive BasicType where
  | boolean
  | integer
  | float
  | text
  | list
  | tuple
  | mapping
  | object
deriving DecidableEq, Repr

/-- What a member of an enumeration stands for. -/
inductive Payload where
  | integer (n : Int)
  | text (s : String)
deriving DecidableEq, Repr

/-- What the members of an enumeration can do. A transparent member counts as its
payload wherever a value of that kind is looked for; an acting member can be
called with an entity and answers with its payload behind a lead. -/
inductive Nature where
  | standalone
  | transparent
  | acting (lead : String)
deriving DecidableEq, Repr

/-- An enumeration with its members in order. -/
structure Enumeration where
  name : String
  nature : Nature
  members : List (String × Payload)
deriving DecidableEq, Repr

/-- A member of an enumeration. -/
structure Member where
  enumeration : Enumeration
  name : String
  payload : Payload
deriving DecidableEq, Repr

/-- A function, known by its name; `shown` is its written form. -/
structure Function where
  name : String
  shown : String
deriving DecidableEq, Repr

/-- How the objects of a class keep their fields. Records, the objects of a `dataclass`, are
compared field by field and copied by building a new one; named tuples (`namedtuple`) are tuples
whose items have names; plain objects take whatever field is set on them. -/
inductive Layout where
  | record
  | namedTuple
  | plain
deriving DecidableEq, Repr

/-- How a class makes tuples: the full name of the class that does, and the names by which it
is given the items. -/
structure TupleShape where
  maker : String
  names : List String
deriving DecidableEq, Repr

/-- A class of objects. `fields` lists every declared field, inherited ones first; the `late` ones
(`init=False`) are not given when an object is built, only afterwards. `builder` is the full name of
the class whose `__init__` fills the objects, the class itself or the nearest one above it. A class
that `finishes` goes on when the fields that are given are filled: it calls the object back
(`__post_init__`), or has values of its own for late fields (`default_factory`). Objects of a class
with a `shape` are tuples as well. Objects of a `frozen` class (`frozen=True`) may serve as keys,
and those of a `bare` one are written without their fields.

A default of a late field is what the class shares under its name. A field that is not late has no
default. -/
structure Class where
  name : String
  fullName : String
  layout : Layout
  fields : List String
  late : List String
  ancestors : List String
  builder : String
  shape : Option TupleShape
  finishes : Bool
  frozen : Bool
  bare : Bool
deriving DecidableEq, Repr

/-- Which object an object is. A copy of an object is another object. -/
structure Identity where
  origin : Nat
  copies : Nat
deriving DecidableEq, Repr

/-- The blanks that an advised declaration leaves to be filled in. -/
inductive Placeholder where
  | newState
  | newEvent
deriving DecidableEq, Repr

mutual

/-- A value. `any` is `ANY`, which stands for every state known so far; `unset` stands for a
destination that was left out; `token` is a value known only by its written form. A `function` has a
label, the name it goes by in a declaration, or `unset`. A `renderable` brings its own rendition. A
`feature` is something that a value offers beside its parts, an operation or its type, known by the
name of its own type, the name it goes by and its written form. A `classType` is the class of an
object; it carries the attributes that the class shares, and so does every `object`. Classes are
told apart by their simple name, so the values at hand together are to have no two classes of one
name. -/
inductive Value where
  | null
  | boolean (b : Bool)
  | integer (n : Int)
  | float (x : Number.Binary)
  | text (s : String)
  | bytes (data : List UInt8)
  | list (items : List Value)
  | tuple (items : List Value)
  | mapping (kind : MappingKind) (entries : List (Value × Value))
  | any
  | unset
  | member (m : Member)
  | basicType (t : BasicType)
  | function (f : Function) (label : Value)
  | token (shown : Value)
  | placeholder (p : Placeholder)
  | renderable (identity : Identity) (rendition : Value)
  | feature (typeName label shown : String)
  | classType (cls : Class) (shared : List (String × Value))
  | object (cls : Class) (shared : List (String × Value)) (identity : Identity)
      (fields : List (String × Value))
  | declaration (d : Declaration)

/-- A declaration: a `FromDeclaration` is `simple` or a `sourceBlock`, a `ToDeclaration` a
`toEntry`, an `EventDeclaration` an `eventBlock`. An omitted event or guard is `null`, an omitted
destination is `unset`. A source block groups `toEntry` entries by their source, an event block
groups simple declarations by their event; either may hold anything until it is checked. -/
inductive Declaration where
  | simple (source destination event : Value)
  | sourceBlock (source destination event : Value) (entries : List Value)
  | toEntry (destination event : Value)
  | eventBlock (event : Value) (entries : List Value) (guard : Value)

end

instance : Inhabited Value := ⟨.null⟩

namespace Member

/-- The whole number that a member counts as, if it counts as one. -/
def integer? (m : Member) : Option Int :=
  match m.enumeration.nature, m.payload with
  | .transparent, .integer n => some n
  | _, _ => none

def text? (m : Member) : Option String :=
  match m.enumeration.nature, m.payload with
  | .transparent, .text s => some s
  | _, _ => none

/-- Whether a member can be called with an entity. -/
def isActing (m : Member) : Bool :=
  match m.enumeration.nature with
  | .acting _ => true
  | _ => false

end Member

namespace Value

def text? : Value → Option String
  | .text s => some s
  | .member m => m.text?
  | _ => none

/-- The whole number that a value counts as, if it counts as one. Truth values
count as zero and one. -/
def integer? : Value → Option Int
  | .boolean b => some (if b then 1 else 0)
  | .integer n => some n
  | .member m => m.integer?
  | _ => none

def worth? : Value → Option Number.Worth
  | .float x => some x.worth
  | v => v.integer?.map Number.Worth.ofInt

/-- The items of a tuple, with or without names. A record that is a tuple as well has
none. -/
def tupleItems? : Value → Option (List Value)
  | .tuple items => some items
  | .object cls _ _ fields =>
      if cls.layout = .namedTuple then some (fields.map Prod.snd) else cls.shape.map fun _ => []
  | _ => none

/-- What the class of an object shares under a name. An object has an operation of its
own where its class shares something under the name of that operation. -/
def shared? : Value → String → Option Value
  | .object _ shared _ _, name => shared.lookup name
  | _, _ => none

def isAny : Value → Bool
  | .any => true
  | _ => false

def isUnset : Value → Bool
  | .unset => true
  | _ => false

def isNull : Value → Bool
  | .null => true
  | _ => false

/-- A function in the narrow sense: neither a type nor a member of an enumeration
that can be called. An object is one where its class says what calling it means. -/
def isFunction : Value → Bool
  | .function _ _ => true
  | v => (v.shared? "__call__").isSome

def isCallable : Value → Bool
  | .basicType _ | .classType _ _ => true
  | .member m => m.isActing
  | v => v.isFunction

def ofPayload : Payload → Value
  | .integer n => .integer n
  | .text s => .text s

end Value

end StateRules
