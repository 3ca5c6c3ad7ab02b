import StateRules.Text.Clip
import StateRules.Text.Lines
import StateRules.Value.Written

/-!
What can go wrong, by cause, and what is said about it.

A declaration that is refused gives a `DeclarationError`, which quotes the
declaration and, where a shape is no longer supported, the one to write instead.
Everything else that can fail comes from an entity that does not have what is
asked of it, from a guard, or from something that is not of the kind it is used
as; each such cause has its own constructor and its own wording. What a fault says
about a value is kept in the words in which it was found; only a key that is not there
is kept as it is (`Fault.noItem`).
-/

namespace StateRules

/-- A refused declaration (`CompileError`): why, and the text of the declaration. An
`UnsupportedSyntaxError` comes with the text of the replacement, an `InvalidDeclarationError`
without one. -/
inductive DeclarationError where
  | invalid (reason : String) (declaration : Option String)
  | unsupported (reason declaration suggestion : String)
deriving DecidableEq, Repr

/-- The full message: the quoted texts stand below the reason, pushed to the right
and set off by empty lines. An empty or missing declaration is not quoted. -/
def DeclarationError.message : DeclarationError → String
  | .invalid reason declaration =>
      match declaration with
      | none => reason
      | some text => if text.isEmpty then reason else reason ++ "\n\n" ++ Text.indent text ++ "\n"
  | .unsupported reason declaration suggestion =>
      reason ++ "\n\nInstead of this:\n\n" ++ Text.indent declaration ++
        "\n\nDo this:\n\n" ++ Text.indent suggestion ++ "\n"

/-- The kinds of fault that a caller can tell apart. -/
inductive FaultKind where
  | invalidDeclaration
  | unsupportedSyntax
  | access
  | copying
  | depth
  | index
  | key
  | overflow
  | runtime
  | spelling
  | type
  | value
deriving DecidableEq, Repr

/-- Why a name cannot be that of a class, of a field of a record or of an item of a
named tuple. -/
inductive NameFlaw where
  | malformed
  | reserved
  | hidden
  | repeated
deriving DecidableEq, Repr

def NameFlaw.fieldReason : NameFlaw → String
  | .reserved => "Field names must not be keywords"
  | .repeated => "Field name duplicated"
  | _ => "Field names must be valid identifiers"

/-- What is said about a flawed name of a named tuple or of an item of one. -/
def NameFlaw.reason : NameFlaw → String
  | .malformed => "Type names and field names must be valid identifiers"
  | .reserved => "Type names and field names cannot be a keyword"
  | .hidden => "Field names cannot start with an underscore"
  | .repeated => "Encountered duplicate field name"

/-- What an operation is expected to give. -/
inductive Expectation where
  | text (operation : String)
  | formatted
  | whole (operation : String)
  /-- A whole number, when a value is asked how many items it may have. -/
  | hint
  | integral
  | binary (operation : String)
  | truth
  | digest
  | supplier
  | tuple (operation : String)
  | nothing
deriving DecidableEq, Repr

/-- A failure. -/
inductive Fault where
  | declaration (error : DeclarationError)
  | fieldName (shown : String)
  | stateKey (shown : String)
  | stateField (typeName shown : String)
  | noAttribute (typeName field : String)
  | typeAttribute (typeName field : String)
  | closedType (t : BasicType) (field : String)
  /-- An attribute that is worked out from a value was to be set on it. -/
  | computedAttribute (typeName field : String)
  | fixedAttribute (typeName field : String)
  /-- What a member of an enumeration is known by was to be set on it. -/
  | memberAttribute (field : String)
  | fixedItem
  /-- An operation that a class brings does not keep to what is expected of it. -/
  | unfit (expected : Expectation) (typeName : String)
  | noItem (key : Value)
  | notKey (typeName : String)
  | notIterable (typeName : String)
  | notSearchable (typeName : String)
  /-- Something that refuses to be searched was searched for an item. -/
  | notContainer (typeName : String)
  /-- Something that is not a collection was spread over the arguments of an
  operation, which need not have a name. -/
  | notSpread (operation : Option String) (typeName : String)
  | keysNotIterable (typeName keysType : String)
  | notMapping (typeName : String)
  | noAssignment (typeName : String)
  | notCallable (typeName : String)
  | missing (operation : String) (names : List String)
  | tooMany (operation : String) (taken given : Nat)
  | tooManyParts (operation : String) (least most given : Nat)
  | notSubscriptable (typeName : String)
  | typeNotSubscriptable (typeName : String)
  | outOfRange (sequence : String)
  | negative (operation : String)
  | hugeLength
  | hugePosition (keyType : String)
  /-- A sequence was asked for an item by something that is no position. -/
  | notPosition (sequence keyType : String)
  /-- A text was asked for a character by something that is no position. -/
  | notTextPosition (keyType : String)
  /-- A field that is given only after building was to be set while copying. -/
  | lateField (field : String)
  /-- What an operation is given anyway was to be given to it once more by name. -/
  | givenTwice (operation field : String)
  /-- An operation was given something under a name that it does not know. -/
  | unknownArgument (operation field : String)
  | wrongName (t : BasicType) (field : String)
  /-- A type that takes nothing by name was given something under a name. -/
  | noNames (t : BasicType)
  | noArguments (typeName : String)
  /-- Of an object of a class that takes nothing, something was to be made all the same. -/
  | onlyType
  /-- An object of a class that takes nothing was to be filled all the same. -/
  | onlyObject
  | oneAtMost (t : BasicType) (given : Nat)
  | fewAtMost (t : BasicType) (most : Nat) (byName : Bool) (given : Nat)
  | givenBoth (t : BasicType) (field : String) (place : Nat)
  | noNumeral
  | badBase
  | unspelled
  /-- A type was given something other than a text for what has to be one. -/
  | notTextFor (t : BasicType) (field typeName : String)
  | decodedText
  /-- Something that is not made of bytes was to be read as an encoded text. -/
  | notBytes (typeName : String)
  | notIndex (typeName : String)
  | unbound (operation : String)
  | notType (typeName : String)
  | fixedType
  /-- Something that is no type stood for one in a question about types. -/
  | notClass
  /-- Something that is no mapping was to become the fields of an object. -/
  | notFields (typeName : String)
  /-- A named tuple was to be copied with names that it does not have. -/
  | unknownNames (shown : String)
  /-- A named tuple got another number of items than it has names for. -/
  | itemCount (expected given : Nat)
  | notCopied (shown : String)
  | notPacked (shown : String)
  /-- What an object is built from comes in another number of parts than two. -/
  | partCount (operation : String) (given : Nat)
  | unjoined (sign left right : String)
  | notJoined (place : Nat) (typeName : String)
  | notAppended (typeName addedType : String)
  /-- A named tuple or an item of it was to have a name that cannot be one. -/
  | flawedName (flaw : NameFlaw) (name : String)
  | flawedField (flaw : NameFlaw) (name : String)
  | brokenName
  /-- The full name of a class was to be something other than a text. -/
  | notFullName (typeName : String)
  /-- The fields that the objects of a class may have were given by something that is no
  collection. -/
  | notSlots (typeName : String)
  /-- A field that the objects of a class may have was given by something other than a text. -/
  | notSlot (typeName : String)
  /-- A field that the objects of a class may have was given by something that is no name. -/
  | flawedSlot
  /-- A field that the objects of a class may have has the name of something shared. -/
  | takenSlot (name : String)
  | nameRefused (typeName name cls : String)
  | repeatedParameter (name : String)
  | fixedName (name : String)
  | misplacedField (name : String)
  /-- What a field was given in place of a value to start from may change. -/
  | mutableDefault (shown field : String)
  | ownAttribute (name cls : String)
  | badCell (typeName : String)
  | frozenOperation (name cls : String)
  | mixedFrozen (frozen : Bool)
  | unordered (sign left right : String)
  | notNumeric (target : BasicType) (typeName : String)
  | notWhole (base : Int) (shown : String)
  | notBinary (shown : String)
  /-- A text that spells a number in too many digits was to become one. -/
  | tooManyDigits (digits : Nat)
  | undefinedWhole
  | infiniteWhole
  /-- A whole number was to become a binary one and is beyond them all. -/
  | beyondBinary
  | notEntry (index : Nat)
  | entryLength (index length : Nat)
  | tooDeep
  | raised (kind : FaultKind) (text : String)
deriving Inhabited

namespace Fault

def kind : Fault → FaultKind
  | .declaration (.invalid ..) => .invalidDeclaration
  | .declaration (.unsupported ..) => .unsupportedSyntax
  | .fieldName _ | .lateField _ | .unknownNames _ | .flawedName .. | .notWhole .. | .notBinary _
  | .tooManyDigits _ | .undefinedWhole | .entryLength .. | .partCount .. | .badBase
  | .brokenName | .mutableDefault .. | .takenSlot _ | .negative _ => .value
  | .stateKey _ | .noItem _ => .key
  | .outOfRange _ | .hugePosition _ => .index
  | .stateField .. | .noAttribute .. | .typeAttribute .. | .computedAttribute ..
  | .fixedAttribute .. | .memberAttribute _ | .fixedItem => .access
  | .repeatedParameter _ | .fixedName _ => .spelling
  | .nameRefused .. => .runtime
  | .notCopied _ => .copying
  | .tooDeep => .depth
  | .infiniteWhole | .beyondBinary | .hugeLength => .overflow
  | .raised kind _ => kind
  | _ => .type

def accepted : BasicType → String
  | .integer => "a string, a bytes-like object or a real number"
  | _ => "a string or a real number"

/-- How much of a text is shown where it was to become a whole number. -/
def excerptLength : Nat := 200

/-- The beginning of a value as it is written. -/
def excerpt (v : Value) : String :=
  let whole :=
    match v with
    | .bytes data => Text.quotedBytes (data.take excerptLength)
    | v => v.written
  String.ofList (whole.toList.take excerptLength)

/-- The room, in bytes, for the name of a type that lacks an attribute. -/
def attributeRoom : Nat := 50

def relationRoom : Nat := 100

/-- The room for the name of a type that was to be read as an encoded text. -/
def bytesRoom : Nat := 80

def nameRoom : Nat := 200

def shortName (typeName : String) : String := Text.clipped nameRoom typeName

def counted (n : Nat) (noun : String) : String :=
  toString n ++ " " ++ noun ++ if n = 1 then "" else "s"

/-- Names in quotes, set off as in a sentence. -/
def listed (names : List String) : String :=
  let quoted := names.map fun name => "'" ++ name ++ "'"
  match quoted.reverse with
  | [] => ""
  | [one] => one
  | [two, one] => one ++ " and " ++ two
  | last :: rest => ", ".intercalate rest.reverse ++ ", and " ++ last

/-- The kind of type that holds the given number of values at most. -/
def limit (t : BasicType) (most : Nat) (byName : Bool) (given : Nat) : String :=
  t.name ++ "() takes at most " ++
    counted most (if byName then "keyword argument" else "argument") ++
    " (" ++ toString given ++ " given)"

end Fault

/-- What is said about something that does not keep to what is expected. -/
def Expectation.complaint (expected : Expectation) (typeName : String) : String :=
  let shown := Fault.shortName typeName
  match expected with
  | .text operation => operation ++ " returned non-string (type " ++ shown ++ ")"
  | .formatted => "__format__ must return a str, not " ++ shown
  | .whole operation => operation ++ " returned non-int (type " ++ shown ++ ")"
  | .hint => "__length_hint__ must be an integer, not " ++ Text.clipped Fault.relationRoom typeName
  | .integral => "__trunc__ returned non-Integral (type " ++ shown ++ ")"
  | .binary operation =>
      operation ++ " returned non-float (type " ++
        Text.clipped Fault.attributeRoom typeName ++ ")"
  | .truth => "__bool__ should return bool, returned " ++ typeName
  | .digest => "__hash__ method should return an integer"
  | .supplier =>
      "iter() returned non-iterator of type '" ++ Text.clipped Fault.relationRoom typeName ++ "'"
  | .tuple operation => operation ++ " should return a tuple, not '" ++ shown ++ "'"
  | .nothing => "__init__() should return None, not '" ++ shown ++ "'"

namespace Fault

/-- What is said about the fault. Faults of the key kind quote their whole
message. -/
def message : Fault → String
  | .declaration error => error.message
  | .fieldName shown => "attr must be a non-empty identifier, got " ++ shown
  | .stateKey shown =>
      Text.quoted ("Entity has no " ++ shown ++
        " key. Pass attr= to read the state from another key.")
  | .stateField typeName shown =>
      typeName ++ " has no attribute " ++ shown ++
        ". Pass attr= to read the state from another field."
  | .noAttribute typeName field =>
      "'" ++ Text.clipped attributeRoom typeName ++ "' object has no attribute '" ++ field ++ "'"
  | .typeAttribute typeName field =>
      "type object '" ++ Text.clipped attributeRoom typeName ++ "' has no attribute '" ++
        field ++ "'"
  | .closedType t field =>
      "cannot set '" ++ field ++ "' attribute of immutable type '" ++ t.name ++ "'"
  | .computedAttribute typeName field =>
      "attribute '" ++ field ++ "' of '" ++ Text.clipped relationRoom typeName ++
        "' objects is not writable"
  | .fixedAttribute typeName field =>
      "'" ++ typeName ++ "' object attribute '" ++ field ++ "' is read-only"
  | .memberAttribute field => "<enum 'Enum'> cannot set attribute '" ++ field ++ "'"
  | .fixedItem => "can't set attribute"
  | .unfit expected typeName => expected.complaint typeName
  | .noItem key => key.written
  | .notKey typeName => "unhashable type: '" ++ shortName typeName ++ "'"
  | .notIterable typeName => "'" ++ shortName typeName ++ "' object is not iterable"
  | .notSearchable typeName => "argument of type '" ++ shortName typeName ++ "' is not iterable"
  | .notContainer typeName => "'" ++ shortName typeName ++ "' object is not a container"
  | .notSpread operation typeName =>
      (match operation with | some operation => operation ++ "() argument" | none => "Value") ++
        " after * must be an iterable, not " ++ shortName typeName
  | .keysNotIterable typeName keysType =>
      shortName typeName ++ ".keys() returned a non-iterable (type " ++ shortName keysType ++ ")"
  | .notMapping typeName => "'" ++ shortName typeName ++ "' object is not a mapping"
  | .noAssignment typeName =>
      "'" ++ shortName typeName ++ "' object does not support item assignment"
  | .notCallable typeName => "'" ++ shortName typeName ++ "' object is not callable"
  | .missing operation names =>
      operation ++ "() missing " ++ counted names.length "required positional argument" ++ ": " ++
        listed names
  | .tooMany operation taken given =>
      operation ++ "() takes " ++ counted taken "positional argument" ++ " but " ++
        toString given ++ (if given = 1 then " was given" else " were given")
  | .tooManyParts operation least most given =>
      operation ++ "() takes from " ++ toString least ++ " to " ++ toString most ++
        " positional arguments but " ++ toString given ++ " were given"
  | .notSubscriptable typeName => "'" ++ shortName typeName ++ "' object is not subscriptable"
  | .typeNotSubscriptable typeName =>
      "type '" ++ Text.clipped relationRoom typeName ++ "' is not subscriptable"
  | .outOfRange sequence =>
      if sequence = "byte" then "index out of range" else sequence ++ " index out of range"
  | .negative operation => operation ++ "() should return >= 0"
  | .hugeLength => "cannot fit 'int' into an index-sized integer"
  | .hugePosition keyType => "cannot fit '" ++ shortName keyType ++ "' into an index-sized integer"
  | .notPosition sequence keyType =>
      sequence ++ " indices must be integers or slices, not " ++ shortName keyType
  | .notTextPosition keyType => "string indices must be integers, not '" ++ shortName keyType ++ "'"
  | .lateField field =>
      "field " ++ field ++
        " is declared with init=False, it cannot be specified with replace()"
  | .givenTwice operation field =>
      operation ++ "() got multiple values for argument '" ++ field ++ "'"
  | .unknownArgument operation field =>
      operation ++ "() got an unexpected keyword argument '" ++ field ++ "'"
  | .wrongName t field =>
      "'" ++ field ++ "' is an invalid keyword argument for " ++ t.name ++ "()"
  | .noNames t => t.name ++ "() takes no keyword arguments"
  | .noArguments typeName => shortName typeName ++ "() takes no arguments"
  | .onlyType => "object.__new__() takes exactly one argument (the type to instantiate)"
  | .onlyObject => "object.__init__() takes exactly one argument (the instance to initialize)"
  | .oneAtMost t given => t.name ++ " expected at most 1 argument, got " ++ toString given
  | .fewAtMost t most byName given => limit t most byName given
  | .givenBoth t field place =>
      "argument for " ++ t.name ++ "() given by name ('" ++ field ++ "') and position (" ++
        toString place ++ ")"
  | .noNumeral => "int() missing string argument"
  | .badBase => "int() base must be >= 2 and <= 36, or 0"
  | .unspelled => "int() can't convert non-string with explicit base"
  | .notTextFor t field typeName =>
      t.name ++ "() argument '" ++ field ++ "' must be str, not " ++
        Text.clipped attributeRoom typeName
  | .decodedText => "decoding str is not supported"
  | .notBytes typeName =>
      "decoding to str: need a bytes-like object, " ++ Text.clipped bytesRoom typeName ++ " found"
  | .notIndex typeName =>
      "'" ++ shortName typeName ++ "' object cannot be interpreted as an integer"
  | .unbound operation => "unbound method " ++ operation ++ "() needs an argument"
  | .notType typeName => "__class__ must be set to a class, not '" ++ typeName ++ "' object"
  | .fixedType =>
      "__class__ assignment only supported for mutable types or ModuleType subclasses"
  | .notClass => "issubclass() arg 1 must be a class"
  | .notFields typeName =>
      "__dict__ must be set to a dictionary, not a '" ++ shortName typeName ++ "'"
  | .unknownNames shown => "Got unexpected field names: " ++ shown
  | .itemCount expected given =>
      "Expected " ++ toString expected ++ " arguments, got " ++ toString given
  | .notCopied shown => "un(deep)copyable object of type " ++ shown
  | .notPacked shown => "cannot pickle " ++ shown
  | .partCount operation given =>
      operation ++ " should return a tuple of length 2, not " ++ toString given
  | .unjoined sign left right =>
      "unsupported operand type(s) for " ++ sign ++ ": '" ++ Text.clipped relationRoom left ++
        "' and '" ++ Text.clipped relationRoom right ++ "'"
  | .notJoined place typeName =>
      "sequence item " ++ toString place ++ ": expected str instance, " ++
        Text.clipped bytesRoom typeName ++ " found"
  | .notAppended typeName addedType =>
      "can only concatenate " ++ typeName ++ " (not \"" ++ shortName addedType ++ "\") to " ++
        typeName
  | .flawedName flaw name => flaw.reason ++ ": " ++ Text.quoted name
  | .flawedField flaw name => flaw.fieldReason ++ ": " ++ Text.quoted name
  | .brokenName => "type name must not contain null characters"
  | .notFullName typeName => "type __qualname__ must be a str, not " ++ typeName
  | .notSlots typeName => "'" ++ shortName typeName ++ "' object is not iterable"
  | .notSlot typeName => "__slots__ items must be strings, not '" ++ shortName typeName ++ "'"
  | .flawedSlot => "__slots__ must be identifiers"
  | .takenSlot name => Text.quoted name ++ " in __slots__ conflicts with class variable"
  | .nameRefused typeName name cls =>
      "Error calling __set_name__ on '" ++ Text.clipped relationRoom typeName ++ "' instance " ++
        Text.quoted name ++ " in '" ++ Text.clipped relationRoom cls ++ "'"
  | .repeatedParameter name =>
      "duplicate argument '" ++ name ++ "' in function definition (<string>, line 1)"
  | .fixedName name => "cannot assign to " ++ name ++ " (<string>, line 2)"
  | .misplacedField name =>
      "non-default argument " ++ Text.quoted name ++ " follows default argument"
  | .mutableDefault shown field =>
      "mutable default " ++ shown ++ " for field " ++ field ++
        " is not allowed: use default_factory"
  | .ownAttribute name cls =>
      "cannot delete '" ++ name ++ "' attribute of immutable type '" ++ cls ++ "'"
  | .badCell typeName =>
      "__classcell__ must be a nonlocal cell, not <class '" ++ typeName ++ "'>"
  | .frozenOperation name cls => "Cannot overwrite attribute " ++ name ++ " in class " ++ cls
  | .mixedFrozen frozen =>
      if frozen then "cannot inherit frozen dataclass from a non-frozen one"
      else "cannot inherit non-frozen dataclass from a frozen one"
  | .unordered sign left right =>
      "'" ++ sign ++ "' not supported between instances of '" ++ Text.clipped relationRoom left ++
        "' and '" ++ Text.clipped relationRoom right ++ "'"
  | .notNumeric target typeName =>
      target.name ++ "() argument must be " ++ accepted target ++ ", not '" ++
        shortName typeName ++ "'"
  | .notWhole base shown =>
      "invalid literal for int() with base " ++ toString base ++ ": " ++ shown
  | .notBinary shown => "could not convert string to float: " ++ shown
  | .tooManyDigits digits =>
      "Exceeds the limit (" ++ toString Number.digitLimit ++
        " digits) for integer string conversion: value has " ++ toString digits ++
        " digits; use sys.set_int_max_str_digits() to increase the limit"
  | .undefinedWhole => "cannot convert float NaN to integer"
  | .infiniteWhole => "cannot convert float infinity to integer"
  | .beyondBinary => "int too large to convert to float"
  | .notEntry index =>
      "cannot convert dictionary update sequence element #" ++ toString index ++ " to a sequence"
  | .entryLength index length =>
      "dictionary update sequence element #" ++ toString index ++ " has length " ++
        toString length ++ "; 2 is required"
  | .tooDeep => "maximum recursion depth exceeded"
  | .raised kind text => if kind = .key then Text.quoted text else text

end Fault

end StateRules
