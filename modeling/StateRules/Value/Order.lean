import StateRules.Value.Comparison

/-!
When one value is at least as great as another.

Numbers are ordered by what they are worth, texts character by character, bytes byte
by byte. Two lists or two tuples are ordered by the first items in which they differ,
or else by length. An object of a class that brings an operation for it is ordered by
that operation. Values of any other kinds have no order. As in comparing, the value
that leads is asked first (`Value.leads`), and the other one is asked the question put
the other way round; this shows in what is said about values without an order.
-/

namespace StateRules

/-- The name under which a value is put in relation to another: a read-only mapping
leaves that to the plain one that it shows. -/
def Value.relationName (v : Value) : String :=
  match v with
  | .mapping .readOnly _ => MappingKind.plain.typeName
  | v => v.formalName

/-- Why two values have no order. The question is whether the first is at least as great
as the second, put that way round if the first is `onLeft`, and otherwise as whether the
second is at most as great as the first. A read-only mapping on the right is asked the
other way round. -/
def Value.orderFault (a : Value) (onLeft : Bool) (b : Value) : Fault :=
  let left := if onLeft then a else b
  let right := if onLeft then b else a
  match right with
  | .mapping .readOnly _ =>
      .unordered (if onLeft then "<=" else ">=") right.relationName left.relationName
  | _ => .unordered (if onLeft then ">=" else "<=") left.relationName right.relationName

/-- Whether a value without parts is at least as great as another, if the two have an
order. -/
def Value.atLeastScalar? (a b : Value) : Option Bool :=
  match a.worth?, b.worth? with
  | some x, some y => some (y.atMost x)
  | _, _ =>
      match a.text?, b.text? with
      | some s, some t => some (t ≤ s)
      | _, _ =>
          match a, b with
          | .bytes s, .bytes t => some (decide (t ≤ s))
          | _, _ => none

namespace Value

/-- The answer of an object's own operation to whether it stands to another value as a
sign has it, if its class brings one. A read-only mapping passes the question on. -/
def ownRelation? (m : Interpretation) (a : Value) (greater : Bool) (b : Value) :
    Act (Option Bool) := do
  let (asked, reverse) := if greater then ("__ge__", "__le__") else ("__le__", "__ge__")
  match ← a.consult m asked [b] with
  | some answer => some <$> answer.holds m
  | none =>
      match a with
      | .mapping .readOnly entries =>
          match ← b.consult m reverse [.mapping .plain entries] with
          | some answer => some <$> answer.holds m
          | none => pure none
      | _ => pure none

/-- Whether one value is at least as great as another, found out by asking one and then
the other. `greater` says whether the first value is to be the greater one; `parts` puts
the parts of the two in order, if they are of one kind. -/
def relate (m : Interpretation) (a : Value) (onLeft : Bool) (b : Value)
    (parts : Bool → Act (Option Bool)) : Act Bool := do
  let aFirst := a.leads onLeft b
  let own ← if aFirst then a.ownRelation? m true b else b.ownRelation? m false a
  match own with
  | some verdict => pure verdict
  | none =>
      match ← parts aFirst with
      | some verdict => pure verdict
      | none =>
          match ← if aFirst then b.ownRelation? m false a else a.ownRelation? m true b with
          | some verdict => pure verdict
          | none => Act.fail (a.orderFault onLeft b)

end Value

mutual

/-- Whether one value is at least as great as another, the first of which stands on the
left or on the right. -/
def Value.atLeastFrom (m : Interpretation) (a : Value) (onLeft : Bool) (b : Value) : Act Bool :=
  match a with
  | .list items =>
      Value.relate m (.list items) onLeft b fun asked =>
        match b with
        | .list others => some <$> atLeastItems m items asked others
        | _ => pure none
  | .tuple items =>
      Value.relate m (.tuple items) onLeft b fun asked =>
        match b.tupleItems? with
        | some others => some <$> atLeastItems m items asked others
        | none => pure none
  | .object cls shared identity fields =>
      Value.relate m (.object cls shared identity fields) onLeft b fun asked =>
        match cls.layout, b.tupleItems? with
        | .namedTuple, some others => some <$> atLeastFields m fields asked others
        | _, _ => pure none
  | a => Value.relate m a onLeft b fun _ => pure (a.atLeastScalar? b)
termination_by structural a

/-- Whether some items are at least as great as others, decided by the first that
differ. -/
def atLeastItems (m : Interpretation) : List Value → Bool → List Value → Act Bool
  | [], _, others => pure others.isEmpty
  | item :: items, onLeft, others =>
      match others with
      | [] => pure true
      | other :: rest => do
          let alike ←
            if item.identical other then pure true else item.equalsFrom m onLeft other
          if alike then atLeastItems m items onLeft rest else item.atLeastFrom m onLeft other
termination_by structural x => x

/-- Whether the values of some fields are at least as great as the given ones. -/
def atLeastFields (m : Interpretation) : List (String × Value) → Bool → List Value → Act Bool
  | [], _, others => pure others.isEmpty
  | (_, item) :: fields, onLeft, others =>
      match others with
      | [] => pure true
      | other :: rest => do
          let alike ←
            if item.identical other then pure true else item.equalsFrom m onLeft other
          if alike then atLeastFields m fields onLeft rest else item.atLeastFrom m onLeft other
termination_by structural x => x

end

def Value.atLeast (m : Interpretation) (a b : Value) : Act Bool := a.atLeastFrom m true b

end StateRules
