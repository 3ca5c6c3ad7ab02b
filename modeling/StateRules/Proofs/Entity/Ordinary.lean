import StateRules.Accessor
import StateRules.Proofs.Journal

/-!
Entities that keep their state in an ordinary way.

A mapping keeps its state under a key. An object keeps it in a field, as long as nothing else has a
say in it: its class may bring nothing under the names by which objects of its layout are read and
copied, the object itself nothing under any such name (`handNames`), and what the class shares under
the name of the state may stand in for a field that is not there, but not for one that is
(`Class.Spares`). Which names these are depends on the layout: a class of plain objects may bring an
`__init__` of its own, a `__len__` or a `__getattr__`, but a dataclass is copied by its `__init__`.

What such an object has under a name is then read off its fields, and its class is read as it is.
-/

namespace StateRules

theorem lookup_cons_field (own : String) (item : Value) (fields : List (String × Value))
    (name : String) :
    ((own, item) :: fields).lookup name = if name = own then some item else fields.lookup name := by
  rw [List.lookup_cons]
  by_cases h : name = own
  · rw [if_pos h, beq_iff_eq.mpr h]
  · rw [if_neg h, beq_eq_false_iff_ne.mpr h]

/-- Fields that go by other names are not found. -/
theorem lookup_of_apart {names : List String} (own : List String) {fields : List (String × Value)}
    (hown : fields.map Prod.fst = own) (h : ∀ name ∈ names, name ∉ own) :
    ∀ name ∈ names, fields.lookup name = none := by
  intro name hname
  rw [List.lookup_eq_none_iff]
  intro field hfield
  have hne : name ≠ field.1 :=
    fun heq => h name hname (hown ▸ heq ▸ List.mem_map_of_mem hfield)
  exact bne_iff_ne.mpr hne

theorem lookup_writeField (fields : List (String × Value)) (name other : String) (item : Value) :
    (writeField fields name item).lookup other =
      if other = name then some item else fields.lookup other := by
  induction fields with
  | nil => exact lookup_cons_field name item [] other
  | cons field rest ih =>
      obtain ⟨own, old⟩ := field
      rw [writeField, lookup_cons_field]
      by_cases hown : own = name
      · subst hown
        rw [if_pos rfl, lookup_cons_field]
        by_cases h : other = own <;> simp [h]
      · rw [if_neg hown, lookup_cons_field, ih]
        by_cases h : other = own
        · simp [h, hown]
        · simp [h]

/-- Of the items written under a name the last one stays. -/
theorem lookup_foldl_writeField (given fields : List (String × Value)) (name : String) :
    (given.foldl (fun kept (n, x) => writeField kept n x) fields).lookup name =
      (given.reverse.lookup name).or (fields.lookup name) := by
  induction given generalizing fields with
  | nil => rfl
  | cons field rest ih =>
      obtain ⟨own, item⟩ := field
      rw [List.foldl_cons, ih, lookup_writeField, List.reverse_cons, List.lookup_append,
        Option.or_assoc,
        lookup_cons_field]
      by_cases h : name = own
      · rw [if_pos h, if_pos h, Option.some_or]
      · rw [if_neg h, if_neg h, List.lookup_nil, Option.none_or]

theorem lookup_reverse_of_none {fields : List (String × Value)} {name : String}
    (h : fields.lookup name = none) : fields.reverse.lookup name = none :=
  List.lookup_eq_none_iff.mpr fun field hfield =>
    List.lookup_eq_none_iff.mp h field (List.mem_reverse.mp hfield)

/-- Where every name is there once, it does not matter from which end it is looked for. -/
theorem lookup_reverse_of_nodup {fields : List (String × Value)} (h : (fields.map Prod.fst).Nodup)
    (name : String) : fields.reverse.lookup name = fields.lookup name := by
  induction fields with
  | nil => rfl
  | cons field rest ih =>
      obtain ⟨own, item⟩ := field
      obtain ⟨hown, hrest⟩ := List.nodup_cons.mp h
      rw [List.reverse_cons, List.lookup_append, ih hrest, lookup_cons_field, lookup_cons_field]
      by_cases hname : name = own
      · subst hname
        have hnone : rest.lookup name = none := by
          rw [List.lookup_eq_none_iff]
          intro field hfield
          have hne : name ≠ field.1 := fun heq => hown (List.mem_map.mpr ⟨field, hfield, heq.symm⟩)
          simpa using hne
        rw [hnone, if_pos rfl, if_pos rfl, Option.none_or]
      · rw [if_neg hname, if_neg hname, List.lookup_nil, Option.or_none]

theorem lookup_filterMap_lookup (names : List String) (fields : List (String × Value))
    (name : String) :
    (names.filterMap fun own => (fields.lookup own).map fun item => (own, item)).lookup name =
      if name ∈ names then fields.lookup name else none := by
  induction names with
  | nil => rfl
  | cons own rest ih =>
      cases hitem : fields.lookup own with
      | none =>
          rw [List.filterMap_cons_none (by rw [hitem]; rfl), ih]
          by_cases h : name = own
          · simp [h, hitem]
          · simp [h]
      | some item =>
          rw [List.filterMap_cons_some (by rw [hitem]; rfl), lookup_cons_field, ih]
          by_cases h : name = own
          · simp [h, hitem]
          · simp [h]

theorem lookup_filter_not_contains (names : List String) (fields : List (String × Value))
    (name : String) :
    (fields.filter fun field => !names.contains field.1).lookup name =
      if name ∈ names then none else fields.lookup name := by
  induction fields with
  | nil => exact (ite_self none).symm
  | cons field rest ih =>
      obtain ⟨own, item⟩ := field
      rw [lookup_cons_field]
      by_cases hmem : own ∈ names
      · rw [List.filter_cons_of_neg (by simpa using hmem), ih]
        by_cases h : name = own
        · simp [h, hmem]
        · simp [h]
      · rw [List.filter_cons_of_pos (by simpa using hmem), lookup_cons_field, ih]
        by_cases h : name = own
        · simp [h, hmem]
        · simp [h]

/-- Putting fields in order changes nothing about what they hold. -/
theorem Class.lookup_arrange (cls : Class) (fields : List (String × Value)) (name : String) :
    (cls.arrange fields).lookup name = fields.lookup name := by
  rw [arrange, List.lookup_append, lookup_filterMap_lookup, lookup_filter_not_contains]
  by_cases h : name ∈ cls.fields <;> simp [h]

theorem fieldsOf_namesTo (fields : List (String × Value)) :
    fieldsOf (fields.map fun (name, item) => (.text name, item)) = fields := by
  induction fields with
  | nil => rfl
  | cons field rest ih =>
      rw [List.map_cons, fieldsOf, List.filterMap_cons]
      exact congrArg _ ih

/-- The names under which an object or its class may take a hand in how the object is read, copied
and filled. -/
def handNames : List String :=
  ["__class__", "__dict__", "__weakref__", "__getattribute__", "__getattr__", "__setattr__",
    "__dataclass_fields__", "__copy__", "__reduce__", "__reduce_ex__", "__getnewargs__",
    "__getnewargs_ex__", "__getstate__", "__setstate__", "__new__", "__init__", "__iter__",
    "__len__", "_make", "_replace"]

/-- The names under which a class can take a hand in how its objects are read, whatever their
layout. A `__getattr__` is not among them, since it is asked only where there is nothing to be
read. -/
def readingNames : List String :=
  ["__class__", "__getattribute__", "__dataclass_fields__"]

/-- The names under which a class can take a hand in how its records are made. -/
def makingNames : List String := ["__new__", "__init__", "__setattr__"]

/-- The names under which a class can take a hand in how its tuples with names are copied. -/
def exchangingNames : List String := ["__iter__", "__len__", "_make", "_replace"]

/-- The names under which a class can take a hand in how objects that are neither are copied. -/
def copyingNames : List String :=
  ["__copy__", "__reduce__", "__reduce_ex__", "__getnewargs__", "__getnewargs_ex__",
    "__getstate__", "__setstate__", "__new__", "__dict__", "__setattr__"]

/-- Whether a class takes no hand in how objects of its layout are read and copied, and leaves alone
what they have under a name. It may have a say in what does not happen to objects of that layout, as
a class of plain objects has in how they are filled when they are made. A dataclass may not go on
with objects whose given fields are filled (`__post_init__`, `default_factory`). What the class
shares under the name counts for the objects that have no field of that name, but never for a tuple
with names, whose items it would hide. -/
structure Class.Spares (cls : Class) (shared : List (String × Value)) (name : String) : Prop where
  apart : name ∉ handNames
  declared : ∀ hand ∈ handNames, hand ∉ cls.fields
  unread : ∀ hand ∈ readingNames, shared.lookup hand = none
  unmade : cls.layout = .record → ∀ hand ∈ makingNames, shared.lookup hand = none
  unexchanged : cls.layout = .namedTuple → ∀ hand ∈ exchangingNames, shared.lookup hand = none
  uncopied : cls.layout = .plain → ∀ hand ∈ copyingNames, shared.lookup hand = none
  unreplaced : cls.layout = .plain → cls.shape.isSome = true →
    shared.lookup "_replace" = none ∧ shared.lookup "__getattr__" = none
  finished : cls.layout = .record → cls.finishes = false
  kept : ∀ item, shared.lookup name = some item →
    cls.layout ≠ .namedTuple ∧ item.governsSetting = false

/-- A class that brings nothing under any name by which it could take a hand in its objects spares
what they have. -/
theorem Class.spares_of_unshared {cls : Class} {shared : List (String × Value)} {name : String}
    (hapart : name ∉ handNames) (hdeclared : ∀ hand ∈ handNames, hand ∉ cls.fields)
    (hshared : ∀ hand ∈ handNames, shared.lookup hand = none)
    (hfinished : cls.layout = .record → cls.finishes = false)
    (hkept : ∀ item, shared.lookup name = some item →
      cls.layout ≠ .namedTuple ∧ item.governsSetting = false) : cls.Spares shared name where
  apart := hapart
  declared := hdeclared
  unread hand hhand :=
    hshared hand ((by decide : ∀ hand ∈ readingNames, hand ∈ handNames) hand hhand)
  unmade _ hand hhand :=
    hshared hand ((by decide : ∀ hand ∈ makingNames, hand ∈ handNames) hand hhand)
  unexchanged _ hand hhand :=
    hshared hand ((by decide : ∀ hand ∈ exchangingNames, hand ∈ handNames) hand hhand)
  uncopied _ hand hhand :=
    hshared hand ((by decide : ∀ hand ∈ copyingNames, hand ∈ handNames) hand hhand)
  unreplaced _ _ := ⟨hshared _ (by decide), hshared _ (by decide)⟩
  finished := hfinished
  kept := hkept

/-- Whether an entity keeps its state in an ordinary way: a mapping under a key, an object of a
class that spares it in a field. -/
inductive Value.IsOrdinary (name : String) : Value → Prop where
  | mapping (kind : MappingKind) (entries : List (Value × Value)) :
      IsOrdinary name (.mapping kind entries)
  | object {cls : Class} {shared fields : List (String × Value)} {identity : Identity} :
      cls.Spares shared name → (∀ hand ∈ handNames, fields.lookup hand = none) →
        IsOrdinary name (.object cls shared identity fields)

section Reading

variable {m : Interpretation} {cls : Class} {shared fields fields' : List (String × Value)}
  {identity identity' : Identity} {name : String}

theorem Value.attr?_of_lookup (hshared : cls.layout = .namedTuple → shared.lookup name = none)
    {item : Value} (hitem : fields.lookup name = some item) :
    (Value.object cls shared identity fields).attr? name = some item := by
  unfold attr? attributes
  dsimp only
  split
  · next hlayout => simp [List.lookup_append, hshared hlayout, hitem]
  · simp [List.lookup_append, hitem]

/-- What an object has under a name that neither it nor its class has anything under is what objects
of its layout have there anyway. -/
theorem Value.attr?_of_none (hshared : shared.lookup name = none)
    (hfields : fields.lookup name = none) :
    (Value.object cls shared identity fields).attr? name =
      (((cls.traits fields).lookup name).or
        ((Value.object cls shared identity fields).aside? name)).or
          ((Value.object cls shared identity fields).offer? name) := by
  unfold attr? attributes
  dsimp only
  split <;> simp [List.lookup_append, hshared, hfields]

theorem Class.lookup_traits_congr (hdict : name ≠ "__dict__") :
    (cls.traits fields').lookup name = (cls.traits fields).lookup name := by
  unfold traits
  cases cls.layout <;> cases cls.bare <;> simp [lookup_cons_field, hdict]

/-- What an object has under a name depends on its field of that name alone. -/
theorem Value.attr?_congr (hdict : name ≠ "__dict__")
    (hlookup : fields'.lookup name = fields.lookup name) :
    (Value.object cls shared identity' fields').attr? name =
      (Value.object cls shared identity fields).attr? name := by
  have htraits : (cls.traits fields').lookup name = (cls.traits fields).lookup name :=
    Class.lookup_traits_congr hdict
  have hattributes : (Value.object cls shared identity' fields').attributes.lookup name =
      (Value.object cls shared identity fields).attributes.lookup name := by
    unfold attributes
    dsimp only
    split <;> simp only [List.lookup_append, hlookup, htraits]
  rw [attr?, attr?, hattributes]
  rfl

/-- What an object has under a name is found as it is, unless its class shares something there that
turns into something else. -/
theorem Value.find_of_unbound {other : String}
    (hkept : ∀ item, shared.lookup other = some item → item.isBinding = false) :
    (Value.object cls shared identity fields).find m other =
      Act.ofOption (.noAttribute cls.name other)
        ((Value.object cls shared identity fields).attr? other) := by
  rw [find]
  cases hshared : (Value.object cls shared identity fields).shared? other with
  | none => rfl
  | some item =>
      simp only [hkept item hshared, Bool.false_and, Bool.false_eq_true, if_false]
      rfl

variable (h : cls.Spares shared name)
include h

/-- What is found under a name is read, be there a stand-in for what is not or none. -/
theorem Value.read_of_find {other : String} {item : Value}
    (hfound : (Value.object cls shared identity fields).find m other = pure item) :
    (Value.object cls shared identity fields).read m other = pure item := by
  have hreader : shared.lookup "__getattribute__" = none := h.unread _ (by decide)
  simp only [read, shared?, hreader, hfound]
  cases shared.lookup "__getattr__" with
  | none => rfl
  | some fallback => rfl

theorem Value.read_of_attr? {other : String} {item : Value}
    (hkept : ∀ item, shared.lookup other = some item → item.isBinding = false)
    (hattr : (Value.object cls shared identity fields).attr? other = some item) :
    (Value.object cls shared identity fields).read m other = pure item :=
  read_of_find h (by rw [find_of_unbound hkept, hattr]; rfl)

/-- An ordinary object has in a field what it is found to have under the name. -/
theorem Value.read_of_lookup {item : Value} (hitem : fields.lookup name = some item) :
    (Value.object cls shared identity fields).read m name = pure item := by
  have hattr : (Value.object cls shared identity fields).attr? name = some item := by
    refine attr?_of_lookup (fun hlayout => ?_) hitem
    cases hkept : shared.lookup name with
    | none => rfl
    | some kept => exact absurd hlayout (h.kept kept hkept).1
  refine read_of_find h ?_
  rw [find, hattr]
  cases hkept : (Value.object cls shared identity fields).shared? name with
  | none => rfl
  | some kept =>
      obtain ⟨hlayout, hsetting⟩ := h.kept kept hkept
      have hfield : (Value.object cls shared identity fields).keepsField name = true := by
        simp [keepsField, hlayout, hitem]
      simp [hsetting, hfield, Act.ofOption, Act.pure_def, Act.ofExcept]

section Unsupplied

variable (hsupply : shared.lookup "__getattr__" = none)
include hsupply

/-- What an ordinary object is found to have is what is read, unless it turns into something
else. -/
theorem Value.read_of_unbound {other : String}
    (hkept : ∀ item, shared.lookup other = some item → item.isBinding = false) :
    (Value.object cls shared identity fields).read m other =
      Act.ofOption (.noAttribute cls.name other)
        ((Value.object cls shared identity fields).attr? other) := by
  have hreader : shared.lookup "__getattribute__" = none := h.unread _ (by decide)
  simp only [read, shared?, hsupply, hreader]
  exact find_of_unbound hkept

/-- What an ordinary object is read to have under a name depends on its field of that name alone. -/
theorem Value.read_congr {other : String} (hdict : other ≠ "__dict__")
    (hkept : ∀ item, shared.lookup other = some item → item.isBinding = false)
    (hlookup : fields'.lookup other = fields.lookup other) :
    (Value.object cls shared identity' fields').read m other =
      (Value.object cls shared identity fields).read m other := by
  rw [read_of_unbound h hsupply hkept, read_of_unbound h hsupply hkept, attr?_congr hdict hlookup]

end Unsupplied

variable (hfields : ∀ hand ∈ handNames, fields.lookup hand = none)
include hfields

/-- An ordinary object gives itself out to be of its class. -/
theorem Value.read_class :
    (Value.object cls shared identity fields).read m "__class__" =
      pure (.classType cls shared) := by
  have hshared : shared.lookup "__class__" = none := h.unread _ (by decide)
  refine read_of_attr? h (fun item hitem => absurd hitem (by simp [hshared])) ?_
  rw [attr?_of_none hshared (hfields _ (by decide))]
  have htraits : (cls.traits fields).lookup "__class__" = none := by
    unfold Class.traits recordTraits
    cases cls.layout <;> cases cls.bare <;> cases cls.frozen <;> rfl
  rw [htraits]
  rfl

theorem Value.read?_class :
    (Value.object cls shared identity fields).read? m "__class__" =
      pure (some (.classType cls shared)) := by
  rw [read?, read_class h hfields]
  rfl

theorem Value.isMapping_of_spares :
    (Value.object cls shared identity fields).isMapping m = pure false := by
  rw [isMapping, read_class h hfields]
  rfl

theorem Value.countsAs_of_spares :
    (Value.object cls shared identity fields).countsAs m false = pure false := by
  simp [countsAs, read?_class h hfields]

theorem Value.hasByNature_of_spares {hand : String} (hhand : hand ∈ handNames)
    (hshared : shared.lookup hand = none) :
    (Value.object cls shared identity fields).hasByNature hand = true := by
  have hreader : shared.lookup "__getattribute__" = none := h.unread _ (by decide)
  simp [hasByNature, shared?, hreader, hshared, keepsField, hfields hand hhand]

/-- What an ordinary object keeps in the field of its state is read as its state. -/
theorem Accessor.readField_of_lookup (attr : Value) {item : Value}
    (hitem : fields.lookup name = some item) :
    readField attr name m (.object cls shared identity fields) = pure item := by
  have hread : (Value.object cls shared identity fields).read m name = pure item :=
    Value.read_of_lookup h hitem
  have hhas : (Value.object cls shared identity fields).has m name = pure true := by
    rw [Value.has, Value.read?, hread]
    rfl
  simp [readField, Value.isMapping_of_spares h hfields, hhas, hread]

end Reading

end StateRules
