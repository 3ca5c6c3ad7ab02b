import StateRules.Value.Basic

/-!
What types say about themselves, word for word.
-/

namespace StateRules

def BasicType.note : BasicType → String
  | .boolean =>
      "bool(x) -> bool\n\nReturns True when the argument x is true, False otherwise.\n" ++
      "The builtins True and False are the only two instances of the class bool.\n" ++
      "The class bool is a subclass of the class int, and cannot be subclassed."
  | .integer =>
      "int([x]) -> integer\nint(x, base=10) -> integer\n\n" ++
      "Convert a number or string to an integer, or return 0 if no arguments\n" ++
      "are given.  If x is a number, return x.__int__().  For floating point\n" ++
      "numbers, this truncates towards zero.\n\n" ++
      "If x is not a number or if base is given, then x must be a string,\n" ++
      "bytes, or bytearray instance representing an integer literal in the\n" ++
      "given base.  The literal can be preceded by '+' or '-' and be surrounded\n" ++
      "by whitespace.  The base defaults to 10.  Valid bases are 0 and 2-36.\n" ++
      "Base 0 means to interpret the base from the string as an integer literal.\n" ++
      ">>> int('0b100', base=0)\n4"
  | .float =>
      "Convert a string or number to a floating point number, if possible."
  | .text =>
      "str(object='') -> str\nstr(bytes_or_buffer[, encoding[, errors]]) -> str\n\n" ++
      "Create a new string object from the given object. If encoding or\n" ++
      "errors is specified, then the object must expose a data buffer\n" ++
      "that will be decoded using the given encoding and error handler.\n" ++
      "Otherwise, returns the result of object.__str__() (if defined)\nor repr(object).\n" ++
      "encoding defaults to sys.getdefaultencoding().\nerrors defaults to 'strict'."
  | .list =>
      "Built-in mutable sequence.\n\n" ++
      "If no argument is given, the constructor creates a new empty list.\n" ++
      "The argument must be an iterable if specified."
  | .tuple =>
      "Built-in immutable sequence.\n\n" ++
      "If no argument is given, the constructor returns an empty tuple.\n" ++
      "If iterable is specified the tuple is initialized from iterable's items.\n\n" ++
      "If the argument is a tuple, the return value is the same object."
  | .mapping =>
      "dict() -> new empty dictionary\n" ++
      "dict(mapping) -> new dictionary initialized from a mapping object's\n" ++
      "    (key, value) pairs\ndict(iterable) -> new dictionary initialized as if via:\n" ++
      "    d = \x7b\x7d\n    for k, v in iterable:\n        d[k] = v\n" ++
      "dict(**kwargs) -> new dictionary initialized with the name=value pairs\n" ++
      "    in the keyword argument list.  For example:  dict(one=1, two=2)"
  | .object =>
      "The base class of the class hierarchy.\n\n" ++
      "When called, it accepts no arguments and returns a new featureless\n" ++
      "instance that has no instance attributes and cannot be given any.\n"

def bytesNote : String :=
  "bytes(iterable_of_ints) -> bytes\nbytes(string, encoding[, errors]) -> bytes\n" ++
    "bytes(bytes_or_buffer) -> immutable copy of bytes_or_buffer\n" ++
    "bytes(int) -> bytes object of size given by the parameter initialized with null bytes\n" ++
    "bytes() -> empty bytes object\n\nConstruct an immutable array of bytes from:\n" ++
    "  - an iterable yielding integers in range(256)\n" ++
    "  - a text string encoded using the specified encoding\n" ++
    "  - any object implementing the buffer API.\n  - an integer"

def orderedNote : String := "Dictionary that remembers insertion order"

def Declaration.note : Declaration → String
  | .simple .. | .sourceBlock .. =>
      "\n    A ``from_(...)`` declaration.\n\n" ++
      "    Either a simple rule (``to`` and ``event`` set) or, when ``body`` is\n" ++
      "    given, a from-block grouping several ``to`` entries by source (an\n" ++
      "    empty block adds no rules).\n" ++
      "    Inside an event block ``event`` is left unset.\n    "
  | .toEntry .. => "A ``to(...)`` entry inside a from-block."
  | .eventBlock .. => "An ``event(...)`` block grouping several sources by event."

/-- What the type of a value says about itself, where that is known by the kind of the
value alone. -/
def Value.note? : Value → Option String
  | .boolean _ => some BasicType.boolean.note
  | .integer _ => some BasicType.integer.note
  | .float _ => some BasicType.float.note
  | .text _ => some BasicType.text.note
  | .bytes _ => some bytesNote
  | .list _ => some BasicType.list.note
  | .tuple _ => some BasicType.tuple.note
  | .mapping .plain _ => some BasicType.mapping.note
  | .mapping .ordered _ => some orderedNote
  | .any => some "Singleton marker for any-state rules."
  | .unset => some BasicType.object.note
  | .basicType t => some t.note
  | .declaration d => some d.note
  | _ => none

end StateRules
