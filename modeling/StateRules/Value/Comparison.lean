import StateRules.Value.Equality
import StateRules.Value.Writing

/-!
Comparing values, with the operations that classes bring for it.

`Value.equals` asks whether two values are equal (`==`), `Value.resembles` whether they are the same
(`is` or `==`); where no class has a say, that is `Value.equal` and `Value.same`. Of the two values
one is asked first (`Value.leads`), mostly the one on the left, but a value of a more special type
comes first from the right as well. An object whose class brings an operation for it (`__eq__`)
answers by that operation. Otherwise the parts of the two values are compared if these are of one
kind, those of the value that was asked being on the left; if they are not, the other value is
asked.

Comparing stops at the first difference: lists and mappings of different lengths differ before
anything in them is looked at, while tuples are compared as far as both go. A part is not compared
with itself: one object in the same place of two values is passed over (`Value.identical`). Two
records of one class are compared by reading every field of both first. Mappings find the entries to
compare by sameness of the keys; keys whose class brings an `__eq__` of its own are not asked.
-/

namespace StateRules

/-- Whether two values are one and the same, though they need not be equal. -/
def Value.identical (a b : Value) : Bool :=
  match a, b with
  | .object _ _ identity _, .object _ _ other _ => identity = other
  | .float x, .float y => x.isUndefined && x = y
  | _, _ => false

def MappingKind.precedence : MappingKind → Nat
  | .plain => 0
  | .readOnly => 1
  | .ordered => 2

/-- Whether the first of two compared values leads. The more special of two kinds does:
an ordered mapping before a read-only one before a plain one, a tuple with names before
one without, an object of a class before one of a class above it. Of two of a kind, the
one on the left leads, except that two read-only mappings ask each other in turn.
`onLeft` says whether the first value is the one on the left. -/
def Value.leads (a : Value) (onLeft : Bool) (b : Value) : Bool :=
  match a, b with
  | .mapping kind _, .mapping other _ =>
      if kind = other then onLeft != (kind == .readOnly)
      else other.precedence < kind.precedence
  | .tuple _, .object cls _ _ _ => cls.layout != .namedTuple && onLeft
  | .object cls _ _ _, .tuple _ => cls.layout = .namedTuple || onLeft
  | .object cls _ _ _, .object other _ _ _ =>
      if cls.ancestors.contains other.name then true
      else if other.ancestors.contains cls.name then false
      else onLeft
  | _, _ => onLeft

namespace Value

/-- Whether a class brings an operation by which its objects are compared. -/
def hasVerdict (v : Value) : Bool := (v.shared? "__eq__").isSome

/-- What an object's own operation answers to whether it equals another value. An
operation that cannot be had is passed over. -/
def verdict? (m : Interpretation) (a b : Value) : Act (Option Bool) :=
  match a.shared? "__eq__" with
  | none => pure none
  | some judge => do
      match ← (a.bound m judge).attempt with
      | .error _ => pure none
      | .ok judge => do
          let answer ← m.call judge (.ofList [b])
          some <$> answer.holds m

/-- Whether the classes of two objects are one and the same as they are read. The class of
the second object is read first. -/
def sharesClass (m : Interpretation) (a b : Value) : Act Bool := do
  let other ← b.read m "__class__"
  let own ← a.read m "__class__"
  pure (own.same other)

/-- Whether two lists of values that were read agree, item by item. -/
def resembleAll (m : Interpretation) : List Value → List Value → Act Bool
  | [], _ => pure true
  | item :: items, others =>
      match others with
      | [] => pure true
      | other :: rest => do
          let alike ← if item.identical other then pure true else m.resembles item other
          if alike then resembleAll m items rest else pure false

/-- The fields by which the objects of a class are compared as records, if they are. -/
def comparedFields? (v : Value) : Option (List String) :=
  match v with
  | .object cls _ _ _ => if cls.layout = .record then some cls.fields else none
  | _ => none

/-- The fields by which the objects of a class are compared as records even with values that
are none, as the class gives itself out to be something else. -/
def claimedFields? (v : Value) : Option (List String) :=
  if (v.shared? "__class__").isSome then v.comparedFields? else none

/-- Whether a record equals another value, found out by reading the same fields of both, if
they are of one class as far as that can be read. -/
def recordVerdict? (m : Interpretation) (a b : Value) (fields : List String) :
    Act (Option Bool) := do
  if ← a.sharesClass m b then
    let own ← fields.mapM (a.read m)
    let others ← fields.mapM (b.read m)
    some <$> resembleAll m own others
  else pure none

/-- The answer of an object's own operation to whether it equals another value, if its
class brings one. A read-only mapping passes the question on to whatever it is asked
about. -/
def ownVerdict? (m : Interpretation) (a b : Value) : Act (Option Bool) := do
  match ← a.verdict? m b with
  | some answer => pure (some answer)
  | none =>
      match a with
      | .mapping .readOnly entries => do
          let entries := Value.mapping .plain entries
          match ← b.verdict? m entries, b.claimedFields? with
          | none, some fields =>
              if b.hasVerdict then pure none else b.recordVerdict? m entries fields
          | verdict, _ => pure verdict
      | _ => pure none

/-- The answer of a value that is asked last to whether it equals another one. A record
answers only where it gives itself out to be of some other class. -/
def lastVerdict? (m : Interpretation) (a b : Value) : Act (Option Bool) := do
  let claimed ←
    match a.claimedFields? with
    | some fields => a.recordVerdict? m b fields
    | none => pure none
  match claimed, a.tupleItems?, b.tupleItems? with
  | none, some items, some others =>
      if items.length = others.length then some <$> resembleAll m items others
      else pure (some false)
  | claimed, _, _ => pure claimed

/-- Whether two values are equal, found out by asking one and then the other. `parts`
compares the parts of the two, if they are of one kind; it is told whether those of the
first value are on the left. -/
def judge (m : Interpretation) (a : Value) (onLeft : Bool) (b : Value)
    (parts : Bool → Act (Option Bool)) : Act Bool := do
  let aFirst := a.leads onLeft b
  let own ← if aFirst then a.ownVerdict? m b else b.ownVerdict? m a
  match own with
  | some verdict => pure verdict
  | none =>
      let (first, second) := if aFirst then (a, b) else (b, a)
      match ← if first.hasVerdict then pure none else parts aFirst with
      | some verdict => pure verdict
      | none =>
          match ← second.ownVerdict? m first with
          | some verdict => pure verdict
          | none =>
              let last ← if second.hasVerdict then pure none else second.lastVerdict? m first
              pure (last.getD (a.identical b))

end Value

/-- Whether a part is the same as its counterpart; if it is, the next parts decide. -/
@[macro_inline]
def Value.alike (a b : Value) (equals next : Act Bool) : Act Bool := do
  if a.identical b then next
  else
    let first ← equals
    if first then next else pure false

/-- Whether the entries of a mapping have the same items under the same keys as those of
another. `looks` has each key of one mapping with its value and how that is compared; the
entries of the other mapping are gone through in order. -/
def coveredBy (looks : List (Value × Value × (Value → Act Bool))) :
    List (Value × Value) → Act Bool
  | [] => pure true
  | (key, other) :: rest =>
      match looks.find? fun look => look.1.same key with
      | some (_, item, equals) => Value.alike item other (equals other) (coveredBy looks rest)
      | none => pure false

/-- Whether two mappings have the same keys in the same order, as far as that counts for
their kinds. -/
def sameOrder (kind other : MappingKind) (entries others : List (Value × Value)) : Bool :=
  kind != .ordered || other != .ordered ||
    sameItems (entries.map Prod.fst) (others.map Prod.fst)

mutual

/-- Whether two values are equal, the first of which stands on the left or on the
right. -/
def Value.equalsFrom (m : Interpretation) (a : Value) (onLeft : Bool) (b : Value) : Act Bool :=
  match a with
  | .list items =>
      Value.judge m (.list items) onLeft b fun asked =>
        match b with
        | .list others =>
            if items.length = others.length then some <$> equalItems m items asked others
            else pure (some false)
        | _ => pure none
  | .tuple items =>
      Value.judge m (.tuple items) onLeft b fun asked =>
        match b.tupleItems? with
        | some others => some <$> equalItems m items asked others
        | none => pure none
  | .mapping kind entries =>
      Value.judge m (.mapping kind entries) onLeft b fun asked =>
        match b with
        | .mapping otherKind others =>
            if entries.length = others.length then do
              let covered ←
                if asked then equalEntries m entries others
                else coveredBy (entryLooks m entries) others
              pure (some (covered && sameOrder kind otherKind entries others))
            else pure (some false)
        | _ => pure none
  | .token shown =>
      Value.judge m (.token shown) onLeft b fun asked => do
        match b with
        | .token other => pure (some (shown.equal other))
        | other => if asked then some <$> other.countsAs m false else pure none
  | .object cls shared identity fields =>
      let self := Value.object cls shared identity fields
      Value.judge m self onLeft b fun asked =>
        match cls.layout, if asked then none else b.claimedFields? with
        | .plain, none => pure none
        | .namedTuple, none =>
            match b.tupleItems? with
            | some others => some <$> equalFields m fields asked others
            | none => pure none
        | .plain, some names | .namedTuple, some names => b.recordVerdict? m self names
        | .record, _ => do
            let compared := if asked then some cls.fields else b.comparedFields?
            match compared with
            | none => pure none
            | some names =>
                if self.isOpen && names == cls.fields then
                  if ← if asked then self.sharesClass m b else b.sharesClass m self then
                    let others ← names.mapM (b.read m)
                    some <$> equalFields m fields asked others
                  else pure none
                else if asked then self.recordVerdict? m b names
                else b.recordVerdict? m self names
  | .declaration d =>
      Value.judge m (.declaration d) onLeft b fun asked =>
        match b with
        | .declaration other => some <$> d.equalsFrom m asked other
        | other => do
            let _ ← other.countsAs m (!asked)
            pure none
  | a =>
      Value.judge m a onLeft b fun _ =>
        match b with
        | .object _ _ _ _ => pure none
        | b => pure (some (a.equal b))
termination_by structural a

def equalItems (m : Interpretation) : List Value → Bool → List Value → Act Bool
  | [], _, others => pure others.isEmpty
  | item :: items, onLeft, others =>
      match others with
      | other :: rest =>
          Value.alike item other (item.equalsFrom m onLeft other) (equalItems m items onLeft rest)
      | [] => pure false
termination_by structural x => x

def equalFields (m : Interpretation) : List (String × Value) → Bool → List Value → Act Bool
  | [], _, others => pure others.isEmpty
  | (_, item) :: fields, onLeft, others =>
      match others with
      | other :: rest =>
          Value.alike item other (item.equalsFrom m onLeft other) (equalFields m fields onLeft rest)
      | [] => pure false
termination_by structural x => x

/-- Whether every entry of the mapping that is asked equals the one of the same key. -/
def equalEntries (m : Interpretation) : List (Value × Value) → List (Value × Value) → Act Bool
  | [], _ => pure true
  | (key, item) :: entries, others =>
      match others.find? fun other => key.same other.1 with
      | some (_, other) =>
          Value.alike item other (item.equalsFrom m true other) (equalEntries m entries others)
      | none => pure false
termination_by structural x => x

/-- The entries of a mapping that is not asked, each with how its value is compared. -/
def entryLooks (m : Interpretation) :
    List (Value × Value) → List (Value × Value × (Value → Act Bool))
  | [] => []
  | (key, item) :: entries => (key, item, item.equalsFrom m false) :: entryLooks m entries
termination_by structural x => x

/-- Whether two declarations agree part by part. Those with entries are compared with
those without as far as the parts go that both have. -/
def Declaration.equalsFrom (m : Interpretation) (d : Declaration) (onLeft : Bool)
    (e : Declaration) : Act Bool :=
  match d with
  | .simple source destination event =>
      match e with
      | .simple source' destination' event' =>
          Value.alike source source' (source.equalsFrom m onLeft source')
            (Value.alike destination destination' (destination.equalsFrom m onLeft destination')
              (Value.alike event event' (event.equalsFrom m onLeft event') (pure true)))
      | .sourceBlock source' destination' event' _ =>
          Value.alike source source' (source.equalsFrom m onLeft source')
            (Value.alike destination destination' (destination.equalsFrom m onLeft destination')
              (Value.alike event event' (event.equalsFrom m onLeft event') (pure false)))
      | _ => pure false
  | .sourceBlock source destination event entries =>
      match e with
      | .simple source' destination' event' =>
          Value.alike source source' (source.equalsFrom m onLeft source')
            (Value.alike destination destination' (destination.equalsFrom m onLeft destination')
              (Value.alike event event' (event.equalsFrom m onLeft event') (pure false)))
      | .sourceBlock source' destination' event' entries' =>
          Value.alike source source' (source.equalsFrom m onLeft source')
            (Value.alike destination destination' (destination.equalsFrom m onLeft destination')
              (Value.alike event event' (event.equalsFrom m onLeft event')
                (equalItems m entries onLeft entries')))
      | _ => pure false
  | .toEntry destination event =>
      match e with
      | .toEntry destination' event' =>
          Value.alike destination destination' (destination.equalsFrom m onLeft destination')
            (Value.alike event event' (event.equalsFrom m onLeft event') (pure true))
      | _ => pure false
  | .eventBlock event entries guard =>
      match e with
      | .eventBlock event' entries' guard' =>
          Value.alike event event' (event.equalsFrom m onLeft event') (do
            let alike ← equalItems m entries onLeft entries'
            if alike then
              Value.alike guard guard' (guard.equalsFrom m onLeft guard') (pure true)
            else pure false)
      | _ => pure false
termination_by structural d

end

namespace Value

def equals (m : Interpretation) (a b : Value) : Act Bool := a.equalsFrom m true b

/-- Whether two values are the same: one and the same, or equal. -/
def resembles (m : Interpretation) (a b : Value) : Act Bool :=
  if a.identical b then pure true else a.equals m b

end Value

end StateRules
