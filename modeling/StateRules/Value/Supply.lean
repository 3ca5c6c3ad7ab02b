import StateRules.Value.Key

/-!
Taking a value apart, with the operations that classes bring for it.

A collection has its items at hand. An object whose class says how it is gone through (`__iter__`),
or what it has at a position (`__getitem__`), hands its items out one at a time and only when they
are asked for (`Supply`), so that an item which is not needed is never made.
-/

namespace StateRules

/-- Where the items of a value come from. -/
inductive Supply where
  | atHand (items : List Value)
  | byNumber (next : Nat → Act (Option Value))

/-- How many items that are handed out one at a time can be kept. -/
def supplyLimit : Nat := 10000

namespace Supply

/-- The items from some number on, no more than a given number of them. -/
def gather (next : Nat → Act (Option Value)) : Nat → Nat → Act (List Value)
  | 0, _ => Act.fail .tooDeep
  | limit + 1, i => do
      match ← next i with
      | none => pure []
      | some item =>
          let rest ← gather next limit (i + 1)
          pure (item :: rest)

/-- All items. -/
def toList : Supply → Act (List Value)
  | .atHand items => pure items
  | .byNumber next => gather next supplyLimit 0

def anyFrom (next : Nat → Act (Option Value)) (ask : Value → Act Bool) : Nat → Nat → Act Bool
  | 0, _ => Act.fail .tooDeep
  | limit + 1, i => do
      match ← next i with
      | none => pure false
      | some item => if ← ask item then pure true else anyFrom next ask limit (i + 1)

/-- Whether some item answers a question. The items behind it are not asked for. -/
def any (supply : Supply) (ask : Value → Act Bool) : Act Bool :=
  match supply with
  | .atHand items => items.anyM ask
  | .byNumber next => anyFrom next ask supplyLimit 0

end Supply

namespace Value

/-- Items handed out as an object has them at each position, up to the first that is out
of range. -/
def atPositions (m : Interpretation) (v : Value) (i : Nat) : Act (Option Value) := do
  match ← (v.consult m "__getitem__" [.integer i]).attempt with
  | .ok item => pure item
  | .error fault => if fault.kind = .index then pure none else Act.fail fault

/-- Where the items of a value come from that says itself how it is gone through. -/
def ownSupply (m : Interpretation) (v guide : Value) : Act Supply := do
  match ← (v.bound m guide).attempt with
  | .ok .null => Act.fail (.notIterable v.formalName)
  | .ok guide =>
      let answer ← m.call guide .empty
      if (answer.shared? "__next__").isSome then
        pure (.byNumber fun _ => answer.consult m "__next__" [])
      else Act.fail (.unfit .supplier answer.formalName)
  | .error _ =>
      if (v.shared? "__getitem__").isSome then pure (.byNumber (v.atPositions m))
      else
        match v.items? with
        | some items => pure (.atHand items)
        | none => Act.fail (.notIterable v.formalName)

/-- Where the items of a value come from, if it can be taken apart. -/
def supply (m : Interpretation) (v : Value) : Act Supply := do
  match v.shared? "__iter__" with
  | some guide => v.ownSupply m guide
  | none =>
      match v.items? with
      | some items => pure (.atHand items)
      | none =>
          if (v.shared? "__getitem__").isSome then pure (.byNumber (v.atPositions m))
          else Act.fail (.notIterable v.formalName)

/-- Whether there is any way to take a value apart. -/
def isSupplier (v : Value) : Bool :=
  (v.shared? "__iter__").isSome || v.items?.isSome || (v.shared? "__getitem__").isSome

/-- Whether an object says how long it is, or has its items at hand. One that fails to say
so for its kind does not. -/
def tellsLength (m : Interpretation) (v : Value) : Act Bool := do
  match ← (v.ownLength? m).attempt with
  | .ok length => pure (length.isSome || v.items?.isSome)
  | .error fault => if fault.kind = .type then pure false else Act.fail fault

/-- Asks an object how many items it may have, before they are taken. -/
def askForCount (m : Interpretation) (v : Value) : Act Unit := do
  let operation := "__length_hint__"
  if ← v.tellsLength m then pure ()
  else
    match ← (v.consult m operation []).attempt with
    | .ok none => pure ()
    | .ok (some answer) => do
        let count ← Act.ofOption (.unfit .hint answer.formalName) answer.integer?
        if count < 0 then Act.fail (.negative operation)
    | .error fault => if fault.kind = .type then pure () else Act.fail fault

def items (m : Interpretation) (v : Value) : Act (List Value) := do
  let supply ← v.supply m
  v.askForCount m
  supply.toList

def occursIn (part whole : String) : Bool := part.isEmpty || (whole.splitOn part).length ≠ 1

/-- Whether an item is found in a value by a search. -/
def contains (m : Interpretation) (v item : Value) : Act Bool := do
  match v.shared? "__contains__" with
  | some own =>
      let own ← v.bound m own
      if own.isNull then Act.fail (.notContainer v.formalName)
      else
        let answer ← m.call own (.ofList [item])
        answer.holds m
  | none =>
      match v.text?, item.text?, ← (v.supply m).attempt with
      | some whole, some part, _ => pure (occursIn part whole)
      | _, _, .ok supply => supply.any fun kept => kept.resembles m item
      | _, _, .error fault =>
          if fault.kind = .type then Act.fail (.notSearchable v.formalName) else Act.fail fault

end Value

end StateRules
