import StateRules.Value.Comparison

/-!
Which values may serve as the keys of a mapping, and what a mapping keeps under a key.

A key must not change, so lists, mappings, tokens and records cannot be keys unless they are frozen,
and neither can a tuple, a frozen record or a declaration that holds one of these. A class may bring
an operation by which its objects are filed (`__hash__`), or do away with it. `Value.checkKey` fails
at the first objection.

A mapping keeps its keys in the order in which they came in; writing a key that is there
keeps the key and its place. Objects with an operation of their own are all filed under
zero, so they are only compared with each other and with keys that count as zero.
-/

namespace StateRules

def Value.mayChange : Value → Bool
  | .list _ | .mapping _ _ | .token _ => true
  | .object cls _ _ _ => cls.layout = .record && !cls.frozen
  | _ => false

/-- Fails unless an object may be a key by an operation that its class brings. -/
def Value.checkOwnKey (m : Interpretation) (v item : Value) : Act Unit := do
  match ← (v.bound m item).attempt with
  | .error _ | .ok .null => Act.fail (.notKey v.formalName)
  | .ok item =>
      let answer ← m.call item .empty
      if answer.integer?.isSome then pure () else Act.fail (.unfit .digest answer.formalName)

mutual

def Value.checkKey (m : Interpretation) (v : Value) : Act Unit :=
  match v with
  | .tuple items => checkKeyItems m items
  | .list items => Act.fail (.notKey (Value.list items).formalName)
  | .mapping kind entries => Act.fail (.notKey (Value.mapping kind entries).formalName)
  | .token shown => Act.fail (.notKey (Value.token shown).formalName)
  | .object cls shared identity fields =>
      let self := Value.object cls shared identity fields
      match shared.lookup "__hash__" with
      | some item => self.checkOwnKey m item
      | none =>
          if self.mayChange then Act.fail (.notKey self.formalName)
          else
            match cls.layout with
            | .plain => pure ()
            | .namedTuple => checkKeyFields m fields
            | .record =>
                if self.isOpen then checkKeyFields m fields
                else do
                  let items ← cls.fields.mapM (self.read m)
                  items.forM m.checkKey
  | .declaration d => d.checkKey m
  | _ => pure ()
termination_by structural v

def checkKeyItems (m : Interpretation) : List Value → Act Unit
  | [] => pure ()
  | item :: rest => do
      item.checkKey m
      checkKeyItems m rest
termination_by structural x => x

def checkKeyFields (m : Interpretation) : List (String × Value) → Act Unit
  | [] => pure ()
  | (_, item) :: rest => do
      item.checkKey m
      checkKeyFields m rest
termination_by structural x => x

def Declaration.checkKey (m : Interpretation) (d : Declaration) : Act Unit :=
  match d with
  | .simple source destination event => do
      source.checkKey m
      destination.checkKey m
      event.checkKey m
  | .sourceBlock source destination event entries => do
      source.checkKey m
      destination.checkKey m
      event.checkKey m
      checkKeyItems m entries
  | .toEntry destination event => do
      destination.checkKey m
      event.checkKey m
  | .eventBlock event entries guard => do
      event.checkKey m
      checkKeyItems m entries
      guard.checkKey m
termination_by structural d

end

namespace Value

def isFiledByOwn (v : Value) : Bool := (v.shared? "__hash__").isSome

def isFiledAtZero (v : Value) : Bool :=
  v.isFiledByOwn ||
    match v with
    | .bytes data => data.isEmpty
    | v => (v.text?.map String.isEmpty).getD ((v.worth?.isSome && !v.truth))

def sameKey (m : Interpretation) (kept key : Value) : Act Bool :=
  if (kept.isFiledByOwn || key.isFiledByOwn) && !kept.identical key &&
      !(kept.isFiledAtZero && key.isFiledAtZero) then pure false
  else kept.resembles m key

end Value

def entryOf? (entries : List (Value × Value)) (key : Value) : Option Value :=
  (entries.find? fun entry => entry.1.same key).map Prod.snd

def writeEntry (entries : List (Value × Value)) (key item : Value) : List (Value × Value) :=
  match entries with
  | [] => [(key, item)]
  | (k, old) :: rest =>
      if k.same key then (k, item) :: rest else (k, old) :: writeEntry rest key item

def findEntry (m : Interpretation) (key : Value) : List (Value × Value) → Act (Option Value)
  | [] => pure none
  | (kept, item) :: rest => do
      if ← kept.sameKey m key then pure (some item) else findEntry m key rest

def putEntry (m : Interpretation) (key item : Value) :
    List (Value × Value) → Act (List (Value × Value))
  | [] => pure [(key, item)]
  | (kept, old) :: rest => do
      if ← kept.sameKey m key then pure ((kept, item) :: rest)
      else
        let rest ← putEntry m key item rest
        pure ((kept, old) :: rest)

/-- The entries of a mapping made from some pairs, of which the later ones count. Each
key is looked at before it is put in. -/
def collectEntries (m : Interpretation) (kept : List (Value × Value)) :
    List (Value × Value) → Act (List (Value × Value))
  | [] => pure kept
  | (key, item) :: rest => do
      key.checkKey m
      let kept ← putEntry m key item kept
      collectEntries m kept rest

end StateRules
