import StateRules.Text.Identifier
import StateRules.Value.Copying

/-!
Accessors read the state of an entity and write it into a copy. The usual one, a `StateAccessor`,
goes by the name of a field (`Accessor.field`), which serves as the key where the entity is a
mapping; any other pair of functions `get` and `set` will do as well.
-/

namespace StateRules

/-- How the state of an entity is read, and how a copy with another state is
made. -/
structure Accessor where
  get : Interpretation → Value → Act Value
  set : Interpretation → Value → Value → Act Value

namespace Accessor

/-- `StateAccessor.get`: the state that an entity keeps under a name. An object is asked whether it
has anything there before that is read. -/
def readField (attr : Value) (name : String) (m : Interpretation) (entity : Value) : Act Value :=
  match entity with
  | .mapping _ entries => Act.ofOption (.stateKey attr.written) (entryOf? entries attr)
  | entity => do
      if ← entity.isMapping m then
        if ← entity.contains m attr then entity.item m attr
        else Act.fail (.stateKey attr.written)
      else if ← entity.has m name then entity.read m name
      else Act.fail (.stateField entity.typeName attr.written)

/-- The `StateAccessor` for a field. -/
def field (attr : Value) (name : String) : Accessor where
  get := readField attr name
  set m entity state := entity.withPart m attr name state

def refuse (m : Interpretation) (attr : Value) : Act Accessor := do
  let shown ← attr.write m
  Act.fail (.fieldName shown)

/-- The `StateAccessor` for the field that a value names, which has to be a text that can name a
field (`__post_init__`). -/
def ofField (m : Interpretation) (attr : Value) : Act Accessor :=
  match attr.text? with
  | some name => if Text.isIdentifier name then pure (field attr name) else refuse m attr
  | none => refuse m attr

/-- The accessor for the field `state`. -/
def standard : Accessor := field (.text "state") "state"

/-- The accessor of entities that are their own state. -/
def whole : Accessor where
  get _ entity := pure entity
  set _ _ state := pure state

/-- What asks a sequence for all of its items from the last to the first. -/
def backwards : Value := operationNamed "slice" "slice(None, None, -1)"

/-- A text or a sequence of items in reverse order. A mapping takes the reversal for
a key. -/
def reverse (m : Interpretation) (v : Value) : Act Value := do
  match ← v.consult m "__getitem__" [backwards] with
  | some answer => pure answer
  | none =>
      match v, v.tupleItems?, v.text? with
      | .list items, _, _ => pure (.list items.reverse)
      | .bytes data, _, _ => pure (.bytes data.reverse)
      | .mapping _ _, _, _ => Act.fail (.notKey "slice")
      | .basicType t, _, _ => t.narrow
      | .classType cls _, _, _ => Act.fail (.typeNotSubscriptable cls.name)
      | _, some items, _ => pure (.tuple items.reverse)
      | _, none, some s => pure (.text (String.ofList s.toList.reverse))
      | _, none, none => Act.fail (.notSubscriptable v.formalName)

/-- The accessor of entities that spell their state backwards. -/
def reversed : Accessor where
  get := reverse
  set m _ state := reverse m state

/-- A plain mapping with the entity's entries and a state under a key. -/
def writeItem (key : Value) (m : Interpretation) (entity state : Value) : Act Value := do
  let entries ← entity.spread m
  key.checkKey m
  .mapping .plain <$> putEntry m key state entries

/-- The accessor of mappings that keep their state under a key of any kind. -/
def item (key : Value) : Accessor where
  get m entity := entity.item m key
  set := writeItem key

end Accessor

end StateRules
