import StateRules.Proofs.Entity.Copies

/-!
Reading back the state that was written into a copy.

An accessor reads back what it wrote if the state of a copy is the one that was given for it, on the
entity itself and on all copies that are made by the accessor (`Accessor.ReadsBack`).

However an ordinary object is copied, the copy holds the item in the field and has come by nothing
else that its class does not declare (`Value.renews_of_withField`), so it is an ordinary object
again (`Class.Holds`). So the accessor for a field reads back what it wrote on every ordinary entity
(`Accessor.readsBack_field`).
-/

namespace StateRules

section Objects

variable {m : Interpretation} {cls : Class} {shared fields : List (String × Value)}
  {identity : Identity} {name : String} {item w : Value}

/-- Whether a value is an object of a class that has an item in a field, and nothing under the names
by which it could take a hand in its own treatment. -/
def Class.Holds (cls : Class) (shared : List (String × Value)) (name : String) (item v : Value) :
    Prop :=
  ∃ identity fields, v = .object cls shared identity fields ∧
    (∀ hand ∈ handNames, fields.lookup hand = none) ∧ fields.lookup name = some item

/-- Whether a value is an object of a class that has an item in a field, and nothing under any other
name that the class does not declare and some fields lack. -/
def Class.Renews (cls : Class) (shared fields : List (String × Value)) (name : String)
    (item v : Value) : Prop :=
  ∃ identity fields', v = .object cls shared identity fields' ∧
    (∀ other, other ≠ name → other ∉ cls.fields → fields.lookup other = none →
      fields'.lookup other = none) ∧ fields'.lookup name = some item

variable (h : cls.Spares shared name) (hfields : ∀ hand ∈ handNames, fields.lookup hand = none)
include h hfields

/-- However an object is copied, what is given for the field of its state is what the copy holds,
and the copy has come by nothing else. -/
theorem Value.renews_of_withField {key : Value} (hkey : key.text? = some name)
    (hcopy : ((Value.object cls shared identity fields).withField m key name item).result = .ok w) :
    cls.Renews shared fields name item w := by
  have hfree : LeavesSetting shared name := fun kept hkept => (h.kept kept hkept).2
  cases hlayout : cls.layout with
  | record =>
      obtain ⟨fields', rfl, hremade⟩ := remade_of_withField h hfields hlayout hkey hcopy
      refine ⟨_, fields', rfl, fun other _ hother _ => ?_, hremade.set hfree⟩
      exact hremade.bare other fun hmem => hother (List.mem_of_mem_filter hmem)
  | namedTuple =>
      obtain ⟨hmem, rfl⟩ := (withField_namedTuple h hfields hlayout key).mp hcopy
      refine ⟨_, _, rfl, fun other _ _ hother => ?_, ?_⟩
      · rw [lookup_renewed, hother, Option.map_none]
      · obtain ⟨field, hfield, rfl⟩ := List.mem_map.mp hmem
        cases hitem : fields.lookup field.1 with
        | none => simpa using List.lookup_eq_none_iff.mp hitem field hfield
        | some old => rw [lookup_renewed, hitem, Option.map_some, if_pos rfl]
  | plain =>
      have hname : name ≠ "__dict__" := fun heq => h.apart (heq ▸ by decide)
      obtain ⟨kept, hkept, hset⟩ := set_of_withField h hfields hlayout hcopy
      obtain ⟨fields', rfl, hsets⟩ := fields_of_setDirectly (by simp [hlayout]) hname hset
      refine ⟨_, fields', rfl, fun other hne _ hother => ?_, hsets.set hfree⟩
      rw [hsets.others other hne]
      rcases hkept with rfl | rfl
      · rfl
      · rw [Class.lookup_transcribed, lookup_reverse_of_none hother]

theorem Value.holds_of_withField {key : Value} (hkey : key.text? = some name)
    (hcopy : ((Value.object cls shared identity fields).withField m key name item).result = .ok w) :
    cls.Holds shared name item w := by
  obtain ⟨identity', fields', rfl, hothers, hitem⟩ := renews_of_withField h hfields hkey hcopy
  refine ⟨identity', fields', rfl, fun hand hhand => ?_, hitem⟩
  have hapart : hand ≠ name := fun heq => h.apart (heq ▸ hhand)
  exact hothers hand hapart (h.declared hand hhand) (hfields hand hhand)

end Objects

theorem entryOf?_writeEntry (entries : List (Value × Value)) (key item : Value) :
    entryOf? (writeEntry entries key item) key = some item := by
  induction entries with
  | nil => simp [writeEntry, entryOf?, key.same_refl]
  | cons entry rest ih =>
      obtain ⟨own, old⟩ := entry
      rw [writeEntry]
      cases hsame : own.same key with
      | true => simp [entryOf?, hsame]
      | false => simpa [entryOf?, hsame] using ih

namespace Accessor

/-- What an entity can become when its state is written, again and again. -/
inductive IsCopy (m : Interpretation) (accessor : Accessor) (entity : Value) : Value → Prop where
  | self : IsCopy m accessor entity entity
  | set {v state copy : Value} : IsCopy m accessor entity v →
      (accessor.set m v state).result = .ok copy → IsCopy m accessor entity copy

/-- Whether an accessor reads back the state that it wrote, on an entity and on all copies made by
it. -/
def ReadsBack (m : Interpretation) (accessor : Accessor) (entity : Value) : Prop :=
  ∀ v state copy, IsCopy m accessor entity v → (accessor.set m v state).result = .ok copy →
    (accessor.get m copy).result = .ok state

variable {m : Interpretation}

/-- It is enough to look at one copy, if copies are of the kind that the entity is of. -/
theorem readsBack_of_kind {accessor : Accessor} {P : Value → Prop}
    (hcopy : ∀ {v state copy}, P v → (accessor.set m v state).result = .ok copy →
      P copy ∧ (accessor.get m copy).result = .ok state)
    {entity : Value} (hentity : P entity) : accessor.ReadsBack m entity := by
  have hkind {v : Value} (hv : IsCopy m accessor entity v) : P v := by
    induction hv with
    | self => exact hentity
    | set _ hset ih => exact (hcopy ih hset).1
  exact fun v state copy hv hset => (hcopy (hkind hv) hset).2

/-- The accessor for a field reads back what it wrote on entities that keep their state in an
ordinary way. -/
theorem readsBack_field {attr : Value} {name : String} (hattr : attr.text? = some name)
    {entity : Value} (hentity : entity.IsOrdinary name) :
    (field attr name).ReadsBack m entity := by
  refine readsBack_of_kind (P := Value.IsOrdinary name) ?_ hentity
  intro v state copy hv hset
  cases hv with
  | mapping kind entries =>
      obtain rfl := Except.ok.inj hset
      refine ⟨.mapping _ _, ?_⟩
      have hentry := entryOf?_writeEntry entries attr state
      exact Act.result_ofOption_eq_ok_iff.mpr hentry
  | object h hfields =>
      obtain ⟨identity, fields, rfl, hhands, hitem⟩ := Value.holds_of_withField h hfields hattr hset
      refine ⟨.object h hhands, ?_⟩
      exact congrArg Act.result (readField_of_lookup h hhands attr hitem)

/-- Every accessor that is made for a field goes by the text that names the field. -/
theorem ofField_eq_ok {attr : Value} {accessor : Accessor}
    (h : (ofField m attr).result = .ok accessor) :
    ∃ name, attr.text? = some name ∧ accessor = field attr name := by
  have hrefuse : (refuse m attr).result ≠ .ok accessor := by
    intro hrefuse
    obtain ⟨_, _, hfail⟩ := Act.result_bind_eq_ok_iff.mp hrefuse
    cases hfail
  unfold ofField at h
  split at h
  · next name hname =>
      split at h
      · exact ⟨name, hname, (Except.ok.inj h).symm⟩
      · exact absurd h hrefuse
  · exact absurd h hrefuse

end Accessor

end StateRules
