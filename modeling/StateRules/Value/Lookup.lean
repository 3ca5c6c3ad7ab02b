import StateRules.Value.Supply

/-!
What a value keeps under a key, and what it keeps under a key or a name.

A mapping is read by key and everything else by name. Sequences keep their items at
positions, which whole numbers stand for; numbers below zero count from the end.
-/

namespace StateRules

/-- The place in a sequence that a number names. Numbers below zero count from the
end. -/
def place? (length : Nat) (position : Int) : Option Nat :=
  let fromStart := if position < 0 then position + length else position
  if 0 ≤ fromStart && fromStart < length then some fromStart.toNat else none

/-- What a type gives when it is asked for some of its items: a type of collections
gives a type of collections of that kind. -/
def BasicType.narrow (t : BasicType) : Act Value :=
  match t with
  | .list | .tuple | .mapping => pure (operationNamed "GenericAlias" t.name)
  | t => Act.fail (.typeNotSubscriptable t.name)

namespace Value

/-- The whole number that a value stands for, if it stands for one. -/
def index? (m : Interpretation) (v : Value) : Act (Option Int) :=
  if v.integer?.isSome || (v.shared? "__index__").isSome then some <$> v.toIndex m else pure none

def itemOf (m : Interpretation) (sequence : String) (wrongKey : Fault) (items : List Value)
    (key : Value) : Act Value := do
  match ← key.index? m with
  | none => Act.fail wrongKey
  | some position =>
      if position < -positionBound || positionBound ≤ position then
        Act.fail (.hugePosition key.formalName)
      else
        Act.ofOption (.outOfRange sequence)
          ((place? items.length position).bind fun i => items[i]?)

/-- What a value keeps under a key. -/
def item (m : Interpretation) (v key : Value) : Act Value := do
  match ← v.consult m "__getitem__" [key] with
  | some item => pure item
  | none =>
      let sequence (name : String) (items : List Value) : Act Value :=
        itemOf m name (.notPosition name key.formalName) items key
      match v, v.tupleItems?, v.text? with
      | .mapping _ entries, _, _ => do
          key.checkKey m
          let found ← findEntry m key entries
          Act.ofOption (.noItem key) found
      | .basicType t, _, _ => t.narrow
      | .classType cls _, _, _ => Act.fail (.typeNotSubscriptable cls.name)
      | .list items, _, _ => sequence "list" items
      | .bytes data, _, _ => sequence "byte" (data.map fun byte => .integer byte.toNat)
      | _, some items, _ => sequence "tuple" items
      | _, none, some s =>
          itemOf m "string" (.notTextPosition key.formalName)
            (s.toList.map fun c => .text c.toString) key
      | _, none, none => Act.fail (.notSubscriptable v.formalName)

/-- What a value holds under a key, if it is a mapping, or else under a name. -/
def part (m : Interpretation) (v : Value) (name : String) : Act Value :=
  match v with
  | .mapping _ entries => Act.ofOption (.noItem (.text name)) (entryOf? entries (.text name))
  | v => do if ← v.isMapping m then v.item m (.text name) else v.read m name

/-- What a value has under some names, each tried before it is read; those under which there
is nothing are left out. -/
def readSome (m : Interpretation) (v : Value) : List String → Act (List (String × Value))
  | [] => pure []
  | name :: rest => do
      if ← v.has m name then
        let item ← v.read m name
        let others ← v.readSome m rest
        pure ((name, item) :: others)
      else v.readSome m rest

/-- What the fields of an object hold under some names, where the object reads its fields
itself. -/
def lookUpSome (m : Interpretation) (v : Value) : List String → Act (List (String × Value))
  | [] => pure []
  | name :: rest => do
      let fields ← v.read m "__dict__"
      if ← fields.contains m (.text name) then
        let fields ← v.read m "__dict__"
        let item ← fields.item m (.text name)
        let others ← v.lookUpSome m rest
        pure ((name, item) :: others)
      else v.lookUpSome m rest

/-- The fields of an object as they are seen from outside: the items of a named tuple as
they are read, the declared fields that a record has, and all fields of any other object. -/
def seenFields (m : Interpretation) (v : Value) : Act (List (String × Value)) :=
  match v with
  | .object cls shared _ fields =>
      let isDirect := (shared.lookup "__getattribute__").isNone && (shared.lookup "__dict__").isNone
      match cls.layout with
      | .namedTuple => v.readSome m cls.fields
      | .record =>
          if isDirect then pure (fields.filter fun field => cls.fields.contains field.1)
          else v.lookUpSome m cls.fields
      | .plain =>
          if isDirect then pure fields
          else do
            match ← v.read m "__dict__" with
            | .mapping _ entries =>
                pure (entries.filterMap fun entry => entry.1.text?.map fun name => (name, entry.2))
            | answer => Act.fail (answer.lackOf "items")
  | _ => pure []

end Value

end StateRules
