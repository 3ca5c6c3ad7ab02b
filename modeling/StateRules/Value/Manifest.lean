/-!
What the types of values define.

A type is described by the names of what it defines, each of them under the way in
which it is used (`Trait`). A value finds a name in the first of its types that defines
it (`traitOf?`), so a special type comes before a general one.
-/

namespace StateRules

/-- In which way something that a type defines is used. -/
inductive Trait where
  /-- It stands behind a sign or a way of treating any value. -/
  | slot
  /-- It is called on a value. -/
  | method
  /-- It is called on a value and belongs to the type that defines it, whatever type the
  value has. -/
  | routine
  /-- It is called on a type. -/
  | shared
  /-- It is called on nothing. -/
  | free
  /-- It is worked out from a value. -/
  | part
deriving DecidableEq, Repr

/-- The names of what a type defines. -/
structure Manifest where
  owner : String
  slots : List String := []
  methods : List String := []
  routines : List String := []
  shared : List String := []
  free : List String := []
  parts : List String := []

namespace Manifest

/-- In which way a name is used that the type defines. -/
def trait? (m : Manifest) (name : String) : Option Trait :=
  if m.slots.contains name then some .slot
  else if m.methods.contains name then some .method
  else if m.routines.contains name then some .routine
  else if m.shared.contains name then some .shared
  else if m.free.contains name then some .free
  else if m.parts.contains name then some .part
  else none

/-- The first of some types that defines a name, and in which way. -/
def traitOf? (lineage : List Manifest) (name : String) : Option (Manifest × Trait) :=
  lineage.findSome? fun m => (m.trait? name).map fun trait => (m, trait)

/-- What every value offers. -/
def object : Manifest where
  owner := "object"
  slots :=
    ["__delattr__", "__eq__", "__ge__", "__getattribute__", "__gt__", "__hash__", "__init__",
      "__le__", "__lt__", "__ne__", "__repr__", "__setattr__", "__str__"]
  methods := ["__dir__", "__format__", "__getstate__", "__reduce__", "__reduce_ex__", "__sizeof__"]
  shared := ["__init_subclass__", "__subclasshook__"]
  free := ["__new__"]

def type : Manifest where
  owner := "type"
  slots :=
    ["__call__", "__delattr__", "__getattribute__", "__init__", "__or__", "__repr__", "__ror__",
      "__setattr__"]
  methods :=
    ["__dir__", "__instancecheck__", "__sizeof__", "__subclasscheck__", "__subclasses__", "mro"]
  free := ["__new__", "__prepare__"]

/-- What whole numbers offer. -/
def integer : Manifest where
  owner := "int"
  slots :=
    ["__abs__", "__add__", "__and__", "__bool__", "__divmod__", "__eq__", "__float__",
      "__floordiv__", "__ge__", "__getattribute__", "__gt__", "__hash__", "__index__", "__int__",
      "__invert__", "__le__", "__lshift__", "__lt__", "__mod__", "__mul__", "__ne__", "__neg__",
      "__or__", "__pos__", "__pow__", "__radd__", "__rand__", "__rdivmod__", "__repr__",
      "__rfloordiv__", "__rlshift__", "__rmod__", "__rmul__", "__ror__", "__rpow__", "__rrshift__",
      "__rshift__", "__rsub__", "__rtruediv__", "__rxor__", "__sub__", "__truediv__", "__xor__"]
  methods :=
    ["__ceil__", "__floor__", "__format__", "__getnewargs__", "__round__", "__sizeof__",
      "__trunc__", "as_integer_ratio", "bit_count", "bit_length", "conjugate", "to_bytes"]
  shared := ["from_bytes"]
  free := ["__new__"]
  parts := ["denominator", "imag", "numerator", "real"]

/-- What truth values offer beyond whole numbers. -/
def boolean : Manifest where
  owner := "bool"
  slots := ["__and__", "__or__", "__rand__", "__repr__", "__ror__", "__rxor__", "__xor__"]
  free := ["__new__"]

/-- What binary numbers offer. -/
def float : Manifest where
  owner := "float"
  slots :=
    ["__abs__", "__add__", "__bool__", "__divmod__", "__eq__", "__float__", "__floordiv__",
      "__ge__", "__getattribute__", "__gt__", "__hash__", "__int__", "__le__", "__lt__", "__mod__",
      "__mul__", "__ne__", "__neg__", "__pos__", "__pow__", "__radd__", "__rdivmod__", "__repr__",
      "__rfloordiv__", "__rmod__", "__rmul__", "__rpow__", "__rsub__", "__rtruediv__", "__sub__",
      "__truediv__"]
  methods :=
    ["__ceil__", "__floor__", "__format__", "__getnewargs__", "__round__", "__trunc__",
      "as_integer_ratio", "conjugate", "hex", "is_integer"]
  shared := ["__getformat__", "fromhex"]
  free := ["__new__"]
  parts := ["imag", "real"]

def text : Manifest where
  owner := "str"
  slots :=
    ["__add__", "__contains__", "__eq__", "__ge__", "__getattribute__", "__getitem__", "__gt__",
      "__hash__", "__iter__", "__le__", "__len__", "__lt__", "__mod__", "__mul__", "__ne__",
      "__repr__", "__rmod__", "__rmul__", "__str__"]
  methods :=
    ["__format__", "__getnewargs__", "__sizeof__", "capitalize", "casefold", "center", "count",
      "encode", "endswith", "expandtabs", "find", "format", "format_map", "index", "isalnum",
      "isalpha", "isascii", "isdecimal", "isdigit", "isidentifier", "islower", "isnumeric",
      "isprintable", "isspace", "istitle", "isupper", "join", "ljust", "lower", "lstrip",
      "partition", "removeprefix", "removesuffix", "replace", "rfind", "rindex", "rjust",
      "rpartition", "rsplit", "rstrip", "split", "splitlines", "startswith", "strip", "swapcase",
      "title", "translate", "upper", "zfill"]
  free := ["__new__", "maketrans"]

def bytes : Manifest where
  owner := "bytes"
  slots :=
    ["__add__", "__contains__", "__eq__", "__ge__", "__getattribute__", "__getitem__", "__gt__",
      "__hash__", "__iter__", "__le__", "__len__", "__lt__", "__mod__", "__mul__", "__ne__",
      "__repr__", "__rmod__", "__rmul__", "__str__"]
  methods :=
    ["__bytes__", "__getnewargs__", "capitalize", "center", "count", "decode", "endswith",
      "expandtabs", "find", "hex", "index", "isalnum", "isalpha", "isascii", "isdigit", "islower",
      "isspace", "istitle", "isupper", "join", "ljust", "lower", "lstrip", "partition",
      "removeprefix", "removesuffix", "replace", "rfind", "rindex", "rjust", "rpartition", "rsplit",
      "rstrip", "split", "splitlines", "startswith", "strip", "swapcase", "title", "translate",
      "upper", "zfill"]
  shared := ["fromhex"]
  free := ["__new__", "maketrans"]

def list : Manifest where
  owner := "list"
  slots :=
    ["__add__", "__contains__", "__delitem__", "__eq__", "__ge__", "__getattribute__", "__gt__",
      "__iadd__", "__imul__", "__init__", "__iter__", "__le__", "__len__", "__lt__", "__mul__",
      "__ne__", "__repr__", "__rmul__", "__setitem__"]
  methods :=
    ["__getitem__", "__reversed__", "__sizeof__", "append", "clear", "copy", "count", "extend",
      "index", "insert", "pop", "remove", "reverse", "sort"]
  shared := ["__class_getitem__"]
  free := ["__new__"]

def tuple : Manifest where
  owner := "tuple"
  slots :=
    ["__add__", "__contains__", "__eq__", "__ge__", "__getattribute__", "__getitem__", "__gt__",
      "__hash__", "__iter__", "__le__", "__len__", "__lt__", "__mul__", "__ne__", "__repr__",
      "__rmul__"]
  methods := ["__getnewargs__", "count", "index"]
  shared := ["__class_getitem__"]
  free := ["__new__"]

def mapping : Manifest where
  owner := "dict"
  slots :=
    ["__delitem__", "__eq__", "__ge__", "__getattribute__", "__gt__", "__init__", "__ior__",
      "__iter__", "__le__", "__len__", "__lt__", "__ne__", "__or__", "__repr__", "__ror__",
      "__setitem__"]
  methods :=
    ["__contains__", "__getitem__", "__reversed__", "__sizeof__", "clear", "copy", "get", "items",
      "keys", "pop", "popitem", "setdefault", "update", "values"]
  shared := ["__class_getitem__", "fromkeys"]
  free := ["__new__"]

/-- What the missing value offers. -/
def null : Manifest where
  owner := "NoneType"
  slots := ["__bool__", "__repr__"]
  free := ["__new__"]

def member : Manifest where
  owner := "Enum"
  routines :=
    ["__copy__", "__deepcopy__", "__dir__", "__format__", "__hash__", "__init__", "__new__",
      "__reduce_ex__", "__repr__", "__str__"]

/-- What members that count as whole numbers offer in place of what numbers do. -/
def numberMember : Manifest where
  owner := "Enum"
  routines := ["__new__", "__repr__"]

def textMember : Manifest where
  owner := "Enum"
  routines := ["__format__", "__new__", "__repr__", "__str__"]

/-- What objects of a record class of the given name offer. Only those of a frozen class
can be keys. -/
def record (owner : String) (frozen : Bool) : Manifest where
  owner := owner
  routines :=
    ["__eq__", "__init__", "__repr__"] ++
      if frozen then ["__delattr__", "__hash__", "__setattr__"] else []

def namedTuple (owner : String) : Manifest where
  owner := owner
  routines := ["__getnewargs__", "__repr__", "_asdict", "_make", "_replace"]

/-- What a type offers that defines some operations of its own. -/
def ofRoutines (owner : String) (routines : List String) : Manifest where
  owner := owner
  routines := routines

end Manifest

end StateRules
