import StateRules.Value.Truth
import StateRules.Value.Written

/-!
Writing values, with the operations that classes bring for it.

`Value.write` (`repr`) shows a value so that its kind can be told, `Value.writeDisplay` (`format`)
is the form inside a running text, and `Value.naming` (`render_value`) the form that a declaration
uses. Where no class has a say, these are `Value.written`, `Value.display` and `Value.label`. A
record is written by reading its declared fields one after the other; as long as it is open, they
read as they are kept, and only then are they part of the value itself.
-/

namespace StateRules

namespace Value

/-- Whether every declared field of an object reads as it is kept, and its class as what
it is. -/
def isOpen (v : Value) : Bool :=
  match v with
  | .object cls shared _ fields =>
      fields.map Prod.fst == cls.fields &&
        (shared.lookup "__getattribute__").isNone && (shared.lookup "__class__").isNone &&
        fields.all fun field =>
          match shared.lookup field.1 with
          | some item => !(item.isBinding && item.governsSetting)
          | none => true
  | _ => true

def asText (operation : String) (answer : Value) : Act String :=
  Act.ofOption (.unfit (.text operation) answer.formalName) answer.text?

/-- What joining a title, which need not be a text, to a text fails with. -/
def titleFault (title : Value) : Fault :=
  match title with
  | .list _ => .notAppended "list" "str"
  | .tuple _ => .notAppended "tuple" "str"
  | .bytes _ => .raised .type "can't concat str to bytes"
  | title => .unjoined "+" title.formalName "str"

/-- What the class of an object gives for its written form, if it says so. What it says
and cannot be read on the object is passed over for the plainest form there is. -/
def ownText? (m : Interpretation) (v : Value) : Act (Option Value) :=
  match v, v.shared? "__repr__" with
  | .object cls _ _ _, some item => do
      match ← (v.bound m item).attempt with
      | .ok item => some <$> m.call item (.ofList [])
      | .error _ => pure (some (.text cls.bareText))
  | v, _ => v.consult m "__repr__" []

/-- An object whose fields do not read as they are kept, written by reading them. -/
def writeRead (m : Interpretation) (v : Value) (declared : List String) : Act String := do
  let cls ← v.read m "__class__"
  let title ← cls.read m "__qualname__"
  let parts ← declared.mapM fun name => do
    let item ← v.read m name
    fieldText name <$> m.write item
  let title ← Act.ofOption title.titleFault title.text?
  pure (recordText title parts)

end Value

mutual

def Value.write (m : Interpretation) (v : Value) : Act String :=
  match v with
  | .list items => listText <$> writeItems m items
  | .tuple items => tupleText <$> writeItems m items
  | .mapping kind entries => kind.frame <$> writeEntries m kind entries
  | .token shown => shown.asText "__repr__"
  | .object cls shared identity fields => do
      let self := Value.object cls shared identity fields
      match ← self.ownText? m with
      | some answer => answer.asText "__repr__"
      | none =>
          if cls.bare then pure cls.bareText
          else if self.isOpen then recordText cls.fullName <$> writeFields m fields
          else self.writeRead m cls.fields
  | .declaration d => d.write m
  | v => pure v.written
termination_by structural v

def writeItems (m : Interpretation) (items : List Value) : Act (List String) :=
  match items with
  | [] => pure []
  | item :: rest => do
      let first ← item.write m
      let others ← writeItems m rest
      pure (first :: others)
termination_by structural items

def writeEntries (m : Interpretation) (kind : MappingKind) (entries : List (Value × Value)) :
    Act (List String) :=
  match entries with
  | [] => pure []
  | (key, item) :: rest => do
      let key ← key.write m
      let item ← item.write m
      let others ← writeEntries m kind rest
      pure (kind.entryText key item :: others)
termination_by structural entries

def writeFields (m : Interpretation) (fields : List (String × Value)) : Act (List String) :=
  match fields with
  | [] => pure []
  | (name, item) :: rest => do
      let item ← item.write m
      let others ← writeFields m rest
      pure (fieldText name item :: others)
termination_by structural fields

def Declaration.write (m : Interpretation) (d : Declaration) : Act String :=
  match d with
  | .simple source destination event => do
      let source ← source.write m
      let destination ← destination.write m
      let event ← event.write m
      pure (d.frame [source, destination, event, "None"])
  | .sourceBlock source destination event entries => do
      let source ← source.write m
      let destination ← destination.write m
      let event ← event.write m
      let entries ← writeItems m entries
      pure (d.frame [source, destination, event, tupleText entries])
  | .toEntry destination event => do
      let destination ← destination.write m
      let event ← event.write m
      pure (d.frame [destination, event])
  | .eventBlock event entries guard => do
      let event ← event.write m
      let entries ← writeItems m entries
      let guard ← guard.write m
      pure (d.frame [event, tupleText entries, guard])
termination_by structural d

end

namespace Value

/-- What a value gives for its written form, which counts as a text but may be a value of a
more special kind. -/
def shownAs (m : Interpretation) (v : Value) (operation : String) : Act Value := do
  let given ←
    match v with
    | .token shown => pure (some shown)
    | v => v.ownText? m
  match given with
  | some answer => do
      let _ ← answer.asText operation
      pure answer
  | none => .text <$> v.write m

/-- The text that a value turns into, which counts as one but may be a value of a more
special kind. -/
def spell (m : Interpretation) (v : Value) : Act Value := do
  match v with
  | .text _ | .member _ => pure (.text v.display)
  | .mapping .readOnly entries => .text <$> (Value.mapping .plain entries).write m
  | v =>
      match ← v.consult m "__str__" [] with
      | some answer => do
          let _ ← answer.asText "__str__"
          pure answer
      | none => v.shownAs m "__str__"

/-- A value inside a running text. -/
def writeDisplay (m : Interpretation) (v : Value) : Act String := do
  match ← v.consult m "__format__" [.text ""] with
  | some answer => Act.ofOption (.unfit .formatted answer.formalName) answer.text?
  | none => do
      let spelled ← v.spell m
      pure (spelled.text?.getD "")

/-- What a value that can be called goes by, if it goes by anything; otherwise it is
written. -/
def byName (m : Interpretation) (v : Value) (name : Option Value) : Act Value := do
  match name with
  | none => v.shownAs m "__repr__"
  | some name => if ← name.holds m then pure name else v.shownAs m "__repr__"

/-- `render_value`: a state, event or guard the way a declaration names it. What an object goes by
need not be a text. -/
def naming (m : Interpretation) (v : Value) : Act Value :=
  match v with
  | .function _ label => v.byName m (if label.isUnset then none else some label)
  | .object _ _ _ _ =>
      if v.isCallable then do
        let _ ← v.countsAs m false
        let name ← v.read? m "__qualname__"
        v.byName m name
      else v.shownAs m "__repr__"
  | .token _ | .list _ | .tuple _ | .mapping _ _ | .declaration _ => v.shownAs m "__repr__"
  | v => pure (.text v.label)

/-- A state, event or guard inside a running text, the way a declaration names it. -/
def writeLabel (m : Interpretation) (v : Value) : Act String := do
  let name ← v.naming m
  name.writeDisplay m

end Value

/-- What is said about a fault, with the operations that classes bring for writing. -/
def Fault.describe (m : Interpretation) (fault : Fault) : Act String :=
  match fault with
  | .noItem key => key.write m
  | fault => pure fault.message

end StateRules
