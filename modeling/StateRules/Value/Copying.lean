import StateRules.Value.Construction

/-!
Copies of a value with one part replaced.

A mapping is copied with its entries, a record by building a new one from its fields, a
tuple with names by making one of its items, and any other object by taking its fields
over and setting the one that is replaced. A class may bring operations of its own for
every step. What such an operation gives takes the place of the copy, and it may be the
very object that was to be copied; the replaced part is then set on that object.
-/

namespace StateRules

/-- The entries that some items stand for, numbered from `index`. Each key is looked at
before the next item is. -/
def toEntries (m : Interpretation) (index : Nat) (kept : List (Value × Value)) :
    List Value → Act (List (Value × Value))
  | [] => pure kept
  | pair :: rest => do
      let parts ←
        match ← (pair.items m).attempt with
        | .ok parts => pure parts
        | .error fault =>
            Act.fail (if fault.kind = .type then .notEntry index else fault)
      match parts with
      | [key, item] => do
          key.checkKey m
          let kept ← putEntry m key item kept
          toEntries m (index + 1) kept rest
      | parts => Act.fail (.entryLength index parts.length)

/-- The entries that items stand for which are handed out by their number. -/
def toEntriesFrom (m : Interpretation) (next : Nat → Act (Option Value)) :
    Nat → Nat → List (Value × Value) → Act (List (Value × Value))
  | 0, _, _ => Act.fail .tooDeep
  | limit + 1, i, kept => do
      match ← next i with
      | none => pure kept
      | some pair =>
          let parts ←
            match ← (pair.items m).attempt with
            | .ok parts => pure parts
            | .error fault => Act.fail (if fault.kind = .type then .notEntry i else fault)
          match parts with
          | [key, item] => do
              key.checkKey m
              let kept ← putEntry m key item kept
              toEntriesFrom m next limit (i + 1) kept
          | parts => Act.fail (.entryLength i parts.length)

/-- The entries of an object by the keys it gives, each looked up in the object. -/
def lookUpAll (m : Interpretation) (v : Value) (kept : List (Value × Value)) :
    List Value → Act (List (Value × Value))
  | [] => pure kept
  | key :: rest => do
      let item ← v.item m key
      key.checkKey m
      let kept ← putEntry m key item kept
      lookUpAll m v kept rest

/-- Where the items of what an object gives for its keys come from. -/
def Value.keySupply (m : Interpretation) (v keys : Value) : Act Supply := do
  match ← (keys.supply m).attempt with
  | .ok supply => pure supply
  | .error fault =>
      Act.fail (if fault.kind = .type then .keysNotIterable v.typeName keys.formalName else fault)

/-- Some entries with those added that an object gives by its keys. All keys are known
before the first is looked up. -/
def Value.addKeyed (m : Interpretation) (v : Value) (kept : List (Value × Value)) :
    Act (List (Value × Value)) := do
  let lister ← v.read m "keys"
  let keys ← m.call lister .empty
  let supply ← v.keySupply m keys
  let keys ← supply.toList
  lookUpAll m v kept keys

/-- Some entries with those added that a value stands for: a mapping for its own, an object
with keys for those it gives, and anything else for the pairs it is taken apart into. -/
def Value.addEntries (m : Interpretation) (v : Value) (kept : List (Value × Value)) :
    Act (List (Value × Value)) := do
  match v with
  | .mapping _ entries => if kept.isEmpty then pure entries else collectEntries m kept entries
  | v =>
      if ← v.has m "keys" then v.addKeyed m kept
      else
        match ← v.supply m with
        | .atHand pairs => toEntries m 0 kept pairs
        | .byNumber next => toEntriesFrom m next supplyLimit 0 kept

def Value.spread (m : Interpretation) (v : Value) : Act (List (Value × Value)) := do
  match v with
  | .mapping _ entries => pure entries
  | v =>
      match ← (v.addKeyed m []).attempt with
      | .ok entries => pure entries
      | .error fault =>
          Act.fail (if fault.kind = .access then .notMapping v.formalName else fault)

def Class.ofName (name : String) (fields : List String) : Class where
  name := name
  fullName := name
  layout := .record
  fields := fields
  late := []
  ancestors := []
  builder := name
  shape := Option.none
  finishes := false
  frozen := true
  bare := false

def Declaration.cls (d : Declaration) : Class := .ofName d.typeName (d.parts.map Prod.fst)

/-- The value with the given parts, which is a declaration unless the body is neither
a tuple nor left out. -/
def Class.declare (cls : Class) (parts : List (String × Value)) : Value :=
  match parts.map Prod.snd with
  | [source, destination, event, .null] => .declaration (.simple source destination event)
  | [source, destination, event, .tuple entries] =>
      .declaration (.sourceBlock source destination event entries)
  | [destination, event] => .declaration (.toEntry destination event)
  | [event, .tuple entries, guard] => .declaration (.eventBlock event entries guard)
  | [_, _, _, _] => .object cls [("is_block", .boolean true)] .none parts
  | _ => .object cls [] .none parts

namespace Value

/-- Whether an object has by nature what it has under a name, and neither of its own nor
from what its class shares. -/
def hasByNature (v : Value) (name : String) : Bool :=
  (v.shared? "__getattribute__").isNone && (v.shared? name).isNone && !v.keepsField name

/-- A new record with the fields of an object, one of them given anew. -/
def refill (m : Interpretation) (v : Value) (given : List (Value × Value)) : Act Value := do
  let maker ← v.read m "__class__"
  match v, maker with
  | .object cls shared identity _, .classType other _ =>
      if cls.name = other.name then cls.make m shared identity.copy ⟨[], given⟩
      else m.call maker ⟨[], given⟩
  | _, maker => m.call maker ⟨[], given⟩

/-- The fields of a record that are handed on to a copy of it, besides one that is given
anew under a name. -/
def handOn (m : Interpretation) (v : Value) (cls : Class) (name : String) :
    List String → Act (List (Value × Value))
  | [] => pure []
  | field :: rest =>
      if cls.late.contains field then
        if field = name then Act.fail (.lateField field) else v.handOn m cls name rest
      else if field = name then v.handOn m cls name rest
      else do
        let item ← v.read m field
        let others ← v.handOn m cls name rest
        pure ((.text field, item) :: others)

/-- The descriptions of its fields that an object gives in place of those of its class,
which say nothing that is understood. -/
def readDescriptions (m : Interpretation) (v : Value) : Act Unit := do
  let described ← v.read m "__dataclass_fields__"
  let items ←
    match described with
    | .mapping _ entries => pure (entries.map Prod.snd)
    | described => do
        let lister ← described.read m "values"
        let answer ← m.call lister .empty
        answer.items m
  items.forM fun item => do
    let _ ← item.read m "_field_type"
    pure ()

/-- `dataclasses.replace`: a copy of a record with a value under a name. Only initial fields are
carried over, and only these can be given. -/
def replaceField (m : Interpretation) (v key : Value) (name : String) (item : Value) :
    Act Value := do
  if v.hasByNature "__dataclass_fields__" then
    match v with
    | .object cls _ _ _ => do
        let others ← v.handOn m cls name cls.fields
        v.refill m ((key, item) :: others)
    | v => v.refill m [(key, item)]
  else do
    v.readDescriptions m
    v.refill m [(key, item)]

/-- Something known only as what hands the items of a tuple over to a copy. -/
def handOver : Value := operationNamed "map" "map"

/-- What a class gives for a tuple by its own operation for making one. A type takes all
the items; anything else leaves them, and with them the one that is given anew. -/
def makeTuple (m : Interpretation) (maker : Value) (items : List Value) (key : Value) :
    Act Value := do
  let takes :=
    match maker with
    | .basicType .list | .basicType .tuple | .basicType .mapping => true
    | _ => false
  let made ← m.call maker (.ofList [if takes then .list items else handOver])
  if takes then pure made
  else do
    let shown ← (Value.list [key]).write m
    Act.fail (.unknownNames shown)

/-- `_replace` of a named tuple: a copy with an item under a name. All items are handed over before
a name that none of them has is noticed. -/
def replaceItem (m : Interpretation) (v key : Value) (name : String) (item : Value) :
    Act Value := do
  match v with
  | .object cls shared identity fields =>
      let maker ← if v.hasByNature "_make" then pure none else some <$> v.read m "_make"
      let handed ←
        match v.shared? "__iter__" with
        | some _ => v.items m
        | none => pure (fields.map Prod.snd)
      let given := fields.map Prod.fst
      let renewed := (given.zip handed).map fun (own, old) => if own = name then item else old
      let isKnown := given.contains name
      match maker with
      | some maker => do
          let made ← maker.makeTuple m renewed key
          if isKnown then pure made
          else do
            let shown ← (Value.list [key]).write m
            Act.fail (.unknownNames shown)
      | none => do
          let copy := Value.object cls shared identity.copy (given.zip renewed)
          let count ← copy.ownLength? m
          match count with
          | some count =>
              if count = fields.length then pure ()
              else Act.fail (.itemCount fields.length count.toNat)
          | none => pure ()
          if isKnown then pure copy
          else do
            let shown ← (Value.list [key]).write m
            Act.fail (.unknownNames shown)
  | v => pure v

/-- What an object gives for a copy of it with an item under a name, by its `_replace`. -/
def replaceByOffer (m : Interpretation) (v key : Value) (name : String) (item : Value) :
    Act Value := do
  if v.hasByNature "_replace" then v.replaceItem m key name item
  else
    let copier ← v.read m "_replace"
    m.call copier ⟨[], [(key, item)]⟩

/-- An object with the state of another taken over: by the operation it offers for that
(`__setstate__`), or else by setting its fields. -/
def takeOver (m : Interpretation) (v state : Value) : Act Value := do
  if state.isNull then pure v
  else
    match ← v.read? m "__setstate__" with
    | some _ => do
        let setter ← v.read m "__setstate__"
        let _ ← m.call setter (.ofList [state])
        pure v
    | none =>
        match state, v with
        | .tuple [.null, .null], v => pure v
        | state, .object cls shared identity fields => do
            match shared.lookup "__dict__" with
            | some kept => if !kept.isKind (.basic .mapping) then Act.fail (kept.lackOf "update")
            | none => pure ()
            let entries ← state.addEntries m []
            let fields := (fieldsOf entries).foldl (fun kept (n, x) => writeField kept n x) fields
            pure (.object cls shared identity (cls.arrange fields))
        | _, v => Act.fail (v.lackOf "__dict__")

/-- A copy of a value made as a recipe has it: something to call, what to call it with, and
possibly a state to take over. A text stands for the value itself. -/
def followRecipe (m : Interpretation) (v recipe : Value) : Act Value := do
  if recipe.text?.isSome then pure v
  else
    let operation := "_reconstruct"
    if !recipe.isSupplier then Act.fail (.notSpread none recipe.formalName)
    match ← recipe.items m with
    | [] => Act.fail (.missing operation ["func", "args"])
    | [_] => Act.fail (.missing operation ["args"])
    | maker :: arguments :: rest =>
        if 3 < rest.length then Act.fail (.tooManyParts operation 4 7 (rest.length + 4))
        else if arguments.isSupplier then
          let given ← arguments.items m
          let made ← m.call maker (.ofList given)
          made.takeOver m (rest.head?.getD .null)
        else do
          let name ← maker.writeLabel m
          Act.fail (.notSpread (some name) arguments.formalName)

/-- Looks at what an object says it is to be built from. -/
def checkNewArguments (m : Interpretation) (v : Value) : Act (List Value) := do
  let named := "__getnewargs_ex__"
  let plain := "__getnewargs__"
  match ← v.consult m named [] with
  | some answer =>
      match answer.tupleItems? with
      | none => Act.fail (.unfit (.tuple named) answer.formalName)
      | some items => Act.fail (.partCount named items.length)
  | none =>
      match ← v.consult m plain [] with
      | some answer =>
          Act.ofOption (.unfit (.tuple plain) answer.formalName) answer.tupleItems?
      | none => pure []

/-- The state of an object, which a copy takes over: what it gives for that (`__getstate__`), or
else its fields, if it has any. -/
def ownState (m : Interpretation) (v : Value) : Act Value := do
  if v.hasByNature "__getstate__" then
    let fields := v.ownFields
    pure (if fields.isEmpty then .null else namesTo fields)
  else
    let giver ← v.read m "__getstate__"
    m.call giver .empty

/-- A copy of an object by nature: a new object of its class that takes its state over. -/
def rebuild (m : Interpretation) (v : Value) : Act Value := do
  match v with
  | .object cls shared identity _ =>
      let arguments ← v.checkNewArguments m
      let state ← v.ownState m
      let made ←
        match shared.lookup "__new__" with
        | some maker => do
            let maker ← v.type.boundToClass m maker
            m.call maker (.ofList (v.type :: arguments))
        | none => pure (.object cls shared identity.copy [])
      made.takeOver m state
  | v => pure v

/-- A copy of an object by nature, created without a say of its class, that takes its state
over if there is anything to it. -/
def refit (m : Interpretation) (v : Value) : Act Value := do
  match v with
  | .object cls shared identity _ =>
      let state ← v.ownState m
      let made := Value.object cls shared identity.copy []
      if ← state.holds m then made.takeOver m state else pure made
  | v => pure v

/-- A copy of an object by the recipe it gives when it is asked for one of a certain form
(`__reduce_ex__`, `__reduce__`), or else by nature. -/
def copyByRecipe (m : Interpretation) (v : Value) : Act Value := do
  if v.hasByNature "__reduce_ex__" then
    let offered ←
      if v.hasByNature "__reduce__" then pure none else v.read? m "__reduce__"
    match offered, v.shared? "__reduce__" with
    | some giver, some own => do
        let _ ← v.type.boundToClass m own
        let recipe ← m.call giver .empty
        v.followRecipe m recipe
    | _, _ => v.rebuild m
  else
    match ← v.read? m "__reduce_ex__" with
    | none | some .null => do
        if v.hasByNature "__reduce__" then v.refit m
        else
          let giver ← v.read? m "__reduce__"
          let giver := giver.getD .null
          if ← giver.holds m then
            let recipe ← m.call giver .empty
            v.followRecipe m recipe
          else Act.fail (.notCopied v.type.written)
    | some giver => do
        let recipe ← m.call giver (.ofList [.integer 4])
        v.followRecipe m recipe

/-- `copy.copy`, for an object. -/
def copy (m : Interpretation) (v : Value) : Act Value := do
  match v.shared? "__copy__" with
  | some copier =>
      let copier ← v.type.boundToClass m copier
      if copier.isNull then v.copyByRecipe m else m.call copier (.ofList [v])
  | none => v.copyByRecipe m

def copyPlain (v : Value) : Value :=
  match v with
  | .renderable identity rendition => .renderable identity.copy rendition
  | v => v

/-- `StateAccessor.set` for an object: what it is decides which kind of copy is made, and it is
asked for that in the order in which the kinds are tried. -/
def withField (m : Interpretation) (v key : Value) (name : String) (item : Value) : Act Value := do
  let isRecord : Bool :=
    match v with
    | .object cls _ _ _ => cls.layout = .record || (v.shared? "__dataclass_fields__").isSome
    | _ => false
  let _ ← v.countsAs m false
  if isRecord then
    let _ ← v.countsAs m false
    v.replaceField m key name item
  else
    let copier ← if ← v.isA m (.basic .tuple) then v.read? m "_replace" else pure none
    if copier.isSome then v.replaceByOffer m key name item
    else if ← v.isA m (.basic .mapping) then
      let copy ← v.copy m
      copy.setItem m key item
    else
      let _ ← v.isMapping m
      let copy ← v.copy m
      copy.set m name item

def withDeclared (d : Declaration) (key : Value) (name : String) (item : Value) :
    Except Fault Value := do
  let others := d.parts.filter fun part => part.1 ≠ name
  let given := (key, item) :: others.map fun (part, kept) => (.text part, kept)
  let parts ← takeGiven (d.cls.builder ++ ".__init__") d.cls.selfName d.cls.initial ⟨[], given⟩
  pure (d.cls.declare parts)

/-- `StateAccessor.set`: a copy of a value with an item written under a key or a name. A read-only
mapping gives a plain one. -/
def withPart (m : Interpretation) (v key : Value) (name : String) (item : Value) : Act Value :=
  match v with
  | .mapping kind entries =>
      pure (.mapping (if kind = .ordered then .ordered else .plain) (writeEntry entries key item))
  | .object _ _ _ _ => v.withField m key name item
  | .declaration d => Act.ofExcept (withDeclared d key name item)
  | v => v.copyPlain.set m name item

/-- The objects of a value that are one and the same as another object, in the state in
which that one is. -/
def updatedBy (v changed : Value) : Value := if v.identical changed then changed else v

end Value

end StateRules
