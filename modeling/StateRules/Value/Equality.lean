import StateRules.Value.Basic

/-!
When two values are equal, and when they are the same.

Numbers are compared by what they are worth, texts by their characters, lists and
tuples item by item, mappings entry by entry, records field by field; types,
functions, members, markers and plain objects equal only themselves. An undefined
number equals nothing, not even itself, yet it is the same as itself. Inside a
collection it is sameness that counts, so the two relations differ only at the
outermost level: `equal` is `same` with undefined numbers taken out.
-/

namespace StateRules

/-- What a value without parts is compared by. A class is compared by its simple name, as the values
at hand together have no two classes of one name. -/
inductive Scalar where
  | null
  | number (worth : Number.Worth)
  | text (s : String)
  | bytes (data : List UInt8)
  | any
  | unset
  | member (enumeration name : String)
  | basicType (t : BasicType)
  | function (name : String)
  | placeholder (p : Placeholder)
  | renderable (identity : Identity)
  | feature (typeName label : String)
  | classType (name : String)
  | object (identity : Identity)
deriving DecidableEq

namespace Value

/-- What a value is compared by, if it has no parts that count. -/
def scalar? : Value → Option Scalar
  | .null => some .null
  | .boolean b => some (.number (.ofInt (if b then 1 else 0)))
  | .integer n => some (.number (.ofInt n))
  | .float x => some (.number x.worth)
  | .text s => some (.text s)
  | .bytes bs => some (.bytes bs)
  | .any => some .any
  | .unset => some .unset
  | .member m =>
      match m.integer?, m.text? with
      | some n, _ => some (.number (.ofInt n))
      | none, some s => some (.text s)
      | none, none => some (.member m.enumeration.name m.name)
  | .basicType t => some (.basicType t)
  | .function f _ => some (.function f.name)
  | .placeholder p => some (.placeholder p)
  | .renderable identity _ => some (.renderable identity)
  | .feature typeName label _ => some (.feature typeName label)
  | .classType cls _ => some (.classType cls.name)
  | .object cls _ identity _ => if cls.layout = .plain then some (.object identity) else none
  | _ => none

def sameScalar (a b : Value) : Bool :=
  match a.scalar?, b.scalar? with
  | some x, some y => x = y
  | _, _ => false

end Value

mutual

def Value.same (a b : Value) : Bool :=
  match a with
  | .list items =>
      match b with
      | .list others => sameItems items others
      | _ => false
  | .tuple items =>
      match b.tupleItems? with
      | some others => sameItems items others
      | none => false
  | .mapping kind entries =>
      match b with
      | .mapping otherKind others =>
          if kind = .ordered && otherKind = .ordered then sameEntries entries others
          else entries.length == others.length && coveredEntries entries others
      | _ => false
  | .token shown =>
      match b with
      | .token other => shown.same other
      | _ => false
  | .object cls _ identity fields =>
      match cls.layout with
      | .plain =>
          match b.scalar? with
          | some other => Scalar.object identity = other
          | none => false
      | .namedTuple =>
          match b.tupleItems? with
          | some others => sameFieldItems fields others
          | none => false
      | .record =>
          match b with
          | .object otherCls _ _ others =>
              cls.name == otherCls.name && otherCls.layout = .record && sameFields fields others
          | _ => false
  | .declaration d =>
      match b with
      | .declaration other => d.same other
      | _ => false
  | a => a.sameScalar b
termination_by structural a

def sameItems : List Value → List Value → Bool
  | [], others => others.isEmpty
  | item :: items, others =>
      match others with
      | other :: rest => item.same other && sameItems items rest
      | [] => false
termination_by structural x => x

/-- Whether the values of some fields are the given ones, in order. -/
def sameFieldItems : List (String × Value) → List Value → Bool
  | [], others => others.isEmpty
  | (_, item) :: items, others =>
      match others with
      | other :: rest => item.same other && sameFieldItems items rest
      | [] => false
termination_by structural x => x

def sameFields : List (String × Value) → List (String × Value) → Bool
  | [], others => others.isEmpty
  | (name, item) :: fields, others =>
      match others with
      | (otherName, other) :: rest =>
          name == otherName && item.same other && sameFields fields rest
      | [] => false
termination_by structural x => x

def sameEntries : List (Value × Value) → List (Value × Value) → Bool
  | [], others => others.isEmpty
  | (key, item) :: entries, others =>
      match others with
      | (otherKey, other) :: rest =>
          key.same otherKey && item.same other && sameEntries entries rest
      | [] => false
termination_by structural x => x

def coveredEntries : List (Value × Value) → List (Value × Value) → Bool
  | [], _ => true
  | (key, item) :: entries, others =>
      (others.any fun other => key.same other.1 && item.same other.2) &&
        coveredEntries entries others
termination_by structural x => x

def Declaration.same (d e : Declaration) : Bool :=
  match d with
  | .simple source destination event =>
      match e with
      | .simple source' destination' event' =>
          source.same source' && destination.same destination' && event.same event'
      | _ => false
  | .sourceBlock source destination event entries =>
      match e with
      | .sourceBlock source' destination' event' entries' =>
          source.same source' && destination.same destination' && event.same event' &&
            sameItems entries entries'
      | _ => false
  | .toEntry destination event =>
      match e with
      | .toEntry destination' event' => destination.same destination' && event.same event'
      | _ => false
  | .eventBlock event entries guard =>
      match e with
      | .eventBlock event' entries' guard' =>
          event.same event' && sameItems entries entries' && guard.same guard'
      | _ => false
termination_by structural d

end

/-- Every entry is found among others that contain it. -/
theorem coveredEntries_of_mem {entries others : List (Value × Value)}
    (hsame : ∀ entry ∈ entries, entry.1.same entry.1 = true ∧ entry.2.same entry.2 = true)
    (hmem : ∀ entry ∈ entries, entry ∈ others) : coveredEntries entries others = true := by
  induction entries with
  | nil => rfl
  | cons entry rest ih =>
      obtain ⟨key, item⟩ := entry
      have hfirst := hsame (key, item) (by simp)
      simp only [coveredEntries, Bool.and_eq_true, List.any_eq_true]
      refine ⟨⟨(key, item), hmem _ (by simp), hfirst.1, hfirst.2⟩, ?_⟩
      exact ih (fun e he => hsame e (by simp [he])) (fun e he => hmem e (by simp [he]))

mutual

theorem Value.same_refl (a : Value) : a.same a = true := by
  match a with
  | .list items => simpa [Value.same] using sameItems_refl items
  | .tuple items => simpa [Value.same, Value.tupleItems?] using sameItems_refl items
  | .mapping kind entries =>
      have hordered := sameEntries_refl entries
      have hcovered :=
        coveredEntries_of_mem (entries_same_refl entries) (fun _ he => he)
      cases kind <;> simp [Value.same, hordered, hcovered]
  | .token shown => simpa [Value.same] using Value.same_refl shown
  | .object ⟨_, _, .plain, _, _, _, _, _, _, _, _⟩ _ identity _ => simp [Value.same, Value.scalar?]
  | .object ⟨_, _, .namedTuple, _, _, _, _, _, _, _, _⟩ _ _ fields =>
      simpa [Value.same, Value.tupleItems?] using sameFieldItems_refl fields
  | .object ⟨_, _, .record, _, _, _, _, _, _, _, _⟩ _ _ fields =>
      simpa [Value.same] using sameFields_refl fields
  | .declaration d => simpa [Value.same] using Declaration.same_refl d
  | .member m =>
      cases hn : m.integer? <;> cases hs : m.text? <;>
        simp [Value.same, Value.sameScalar, Value.scalar?, hn, hs]
  | .null | .boolean _ | .integer _ | .float _ | .text _ | .bytes _ | .any | .unset
  | .basicType _ | .function _ _ | .placeholder _ | .renderable _ _ | .feature _ _ _
  | .classType _ _ =>
      simp [Value.same, Value.sameScalar, Value.scalar?]

theorem sameItems_refl (items : List Value) : sameItems items items = true := by
  match items with
  | [] => rfl
  | item :: rest => simp [sameItems, Value.same_refl item, sameItems_refl rest]

theorem sameFieldItems_refl (fields : List (String × Value)) :
    sameFieldItems fields (fields.map Prod.snd) = true := by
  match fields with
  | [] => rfl
  | (_, item) :: rest => simp [sameFieldItems, Value.same_refl item, sameFieldItems_refl rest]

theorem sameFields_refl (fields : List (String × Value)) : sameFields fields fields = true := by
  match fields with
  | [] => rfl
  | (_, item) :: rest => simp [sameFields, Value.same_refl item, sameFields_refl rest]

theorem sameEntries_refl (entries : List (Value × Value)) :
    sameEntries entries entries = true := by
  match entries with
  | [] => rfl
  | (key, item) :: rest =>
      simp [sameEntries, Value.same_refl key, Value.same_refl item, sameEntries_refl rest]

theorem entries_same_refl (entries : List (Value × Value)) :
    ∀ entry ∈ entries, entry.1.same entry.1 = true ∧ entry.2.same entry.2 = true := by
  match entries with
  | [] => simp
  | (key, item) :: rest =>
      intro entry hentry
      rcases List.mem_cons.mp hentry with rfl | hrest
      · exact ⟨Value.same_refl key, Value.same_refl item⟩
      · exact entries_same_refl rest entry hrest

theorem Declaration.same_refl (d : Declaration) : d.same d = true := by
  match d with
  | .simple source destination event =>
      simp [Declaration.same, Value.same_refl source, Value.same_refl destination,
        Value.same_refl event]
  | .sourceBlock source destination event entries =>
      simp [Declaration.same, Value.same_refl source, Value.same_refl destination,
        Value.same_refl event, sameItems_refl entries]
  | .toEntry destination event =>
      simp [Declaration.same, Value.same_refl destination, Value.same_refl event]
  | .eventBlock event entries guard =>
      simp [Declaration.same, Value.same_refl event, sameItems_refl entries,
        Value.same_refl guard]

end

namespace Value

def isUndefinedNumber : Value → Bool
  | .float x => x.isUndefined
  | _ => false

def equal (a b : Value) : Bool := !a.isUndefinedNumber && a.same b

/-- A value equals itself unless it is an undefined number. -/
theorem equal_self_iff {a : Value} : a.equal a = true ↔ a.isUndefinedNumber = false := by
  simp [equal, same_refl a]

end Value

end StateRules
