import StateRules.Value.Kind
import StateRules.Text.Quoted

/-!
How values are written.

`written` shows a value so that its kind can be told; `label` is the form that a
declaration uses, which differs for types and functions only; `display` is the
form inside a running text, which leaves out a text's quotes. All three go by what a
value is made of and leave aside what the class of an object may have to say in the
matter; `Value.write` and its companions take that into account.
-/

namespace StateRules

def tupleText : List String → String
  | [item] => "(" ++ item ++ ",)"
  | items => "(" ++ ", ".intercalate items ++ ")"

def entriesText (entries : List String) : String := "\x7b" ++ ", ".intercalate entries ++ "\x7d"

def BasicType.written (t : BasicType) : String := "<class '" ++ t.name ++ "'>"

/-- A class as a value. Record classes are made in a place of their own. -/
def Class.written (cls : Class) : String :=
  let home := if cls.layout = .record && !cls.bare then "types." else ""
  "<class '" ++ home ++ cls.fullName ++ "'>"

def Payload.written : Payload → String
  | .integer n => toString n
  | .text s => Text.quoted s

def Member.fullName (m : Member) : String := m.enumeration.name ++ "." ++ m.name

def Member.written (m : Member) : String := "<" ++ m.fullName ++ ": " ++ m.payload.written ++ ">"

def Placeholder.text : Placeholder → String
  | .newState => "your_new_state"
  | .newEvent => "your_event"

/-- An ordered mapping from its entries, each written as key and item in brackets. -/
def pairsText (pairs : List String) : String :=
  if pairs.isEmpty then "OrderedDict()" else "OrderedDict([" ++ ", ".intercalate pairs ++ "])"

def listText (items : List String) : String := "[" ++ ", ".intercalate items ++ "]"

/-- A mapping from its entries, written as they stand in a mapping of its kind. -/
def MappingKind.frame : MappingKind → List String → String
  | .plain, entries => entriesText entries
  | .ordered, pairs => pairsText pairs
  | .readOnly, entries => "mappingproxy(" ++ entriesText entries ++ ")"

def MappingKind.entryText : MappingKind → String → String → String
  | .ordered, key, item => "(" ++ key ++ ", " ++ item ++ ")"
  | _, key, item => key ++ ": " ++ item

def fieldText (name item : String) : String := name ++ "=" ++ item

/-- A type under its full name with what it is made of. -/
def recordText (title : String) (fields : List String) : String :=
  title ++ "(" ++ ", ".intercalate fields ++ ")"

def Class.bareText (cls : Class) : String := "<" ++ cls.name ++ ">"

/-- An object with its fields written. An object of a bare class shows its class
only. -/
def Class.frame (cls : Class) (fields : List String) : String :=
  if cls.bare then cls.bareText else recordText cls.fullName fields

def Declaration.frame (d : Declaration) (parts : List String) : String :=
  let names :=
    match d with
    | .simple .. | .sourceBlock .. => ["state", "to", "event", "body"]
    | .toEntry .. => ["target", "event"]
    | .eventBlock .. => ["event", "body", "guard"]
  recordText d.typeName (List.zipWith fieldText names parts)

mutual

def Value.written (v : Value) : String :=
  match v with
  | .null => "None"
  | .boolean b => if b then "True" else "False"
  | .integer n => toString n
  | .float x => x.text
  | .text s => Text.quoted s
  | .bytes data => Text.quotedBytes data
  | .list items => listText (writtenItems items)
  | .tuple items => tupleText (writtenItems items)
  | .mapping kind entries => kind.frame (writtenEntries kind entries)
  | .any => "ANY"
  | .unset => "<object object>"
  | .member m => m.written
  | .basicType t => t.written
  | .function f _ => f.shown
  | .token shown => shown.text?.getD ""
  | .placeholder p => p.text
  | .renderable _ _ => "<Renderable>"
  | .feature _ _ shown => shown
  | .classType cls _ => cls.written
  | .object cls _ _ fields => cls.frame (writtenFields fields)
  | .declaration d => d.written
termination_by structural v

def writtenItems (items : List Value) : List String :=
  match items with
  | [] => []
  | item :: rest => item.written :: writtenItems rest
termination_by structural items

def writtenEntries (kind : MappingKind) (entries : List (Value × Value)) : List String :=
  match entries with
  | [] => []
  | (key, item) :: rest =>
      kind.entryText key.written item.written :: writtenEntries kind rest
termination_by structural entries

def writtenFields (fields : List (String × Value)) : List String :=
  match fields with
  | [] => []
  | (name, item) :: rest => fieldText name item.written :: writtenFields rest
termination_by structural fields

def Declaration.written (d : Declaration) : String :=
  match d with
  | .simple source destination event =>
      d.frame [source.written, destination.written, event.written, "None"]
  | .sourceBlock source destination event entries =>
      d.frame [source.written, destination.written, event.written,
        tupleText (writtenItems entries)]
  | .toEntry destination event => d.frame [destination.written, event.written]
  | .eventBlock event entries guard =>
      d.frame [event.written, tupleText (writtenItems entries), guard.written]
termination_by structural d

end

namespace Value

/-- A value inside a running text. -/
def display : Value → String
  | .text s => s
  | .mapping .readOnly entries => (Value.mapping .plain entries).written
  | .member m =>
      match m.integer? with
      | some n => toString n
      | none => m.fullName
  | v => v.written

/-- A state, event or guard the way a declaration names it: a type by its bare
name, a function by its label where it has one. -/
def label : Value → String
  | .unset => "..."
  | .basicType t => t.name
  | .function f label =>
      match label with
      | .text name => if name.isEmpty then f.shown else name
      | .unset => f.shown
      | label => if label.truth then label.display else f.shown
  | .feature _ label _ => label
  | .classType cls _ => cls.fullName
  | .token shown => shown.display
  | v => v.written

end Value

end StateRules
