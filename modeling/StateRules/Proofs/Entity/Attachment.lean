import StateRules.Binding
import StateRules.Proofs.Entity.ReadBack
import StateRules.Proofs.Table.Search

/-!
Objects that move by themselves.

To a class that rules are bound to, a few attributes are attached. Under any other name the class
and those below it share what they shared before (`Binding.lookup_attach_of_not_mem`), and under
these names they share what is attached, unless a class in between has a say in it
(`Binding.lookup_attach`).

An ordinary object of such a class offers what is attached (`Binding.read_attached`), and however
it is copied, the copy is such an object again (`Binding.isMover_of_moved`).
-/

namespace StateRules

theorem lookup_sharedBy_cons (layer : Layer) (above : List Layer) (name : String) :
    (sharedBy (layer :: above)).lookup name =
      (layer.own.lookup name).or
        (if name ∈ layer.hides then none else (sharedBy above).lookup name) := by
  rw [sharedBy, List.lookup_append, lookup_filter_not_contains]

namespace Binding

/-- The names of the attributes that are attached to a class. -/
def attachedNames : List String :=
  [operation, "__transitions__", "list_states", "list_events", "list_transitions"]

/-- What is attached to a class for its objects to move by. -/
def mover (binding : Binding) : Value := operationNamed "method" (qualifiedName binding.cls)

/-- Whether a class inherits what is attached to the one that rules are bound to: it is that class
or one below it, and no class from it to that one has anything of its own there. -/
def IsInherited (binding : Binding) (spec : ClassSpec) : Prop :=
  ∃ below layer above, spec.layers = below ++ layer :: above ∧ layer.name = binding.cls.name ∧
    ∀ lower ∈ below, ∀ name ∈ attachedNames,
      lower.own.lookup name = none ∧ name ∉ lower.hides

/-- Whether a class leaves its objects to move by themselves: it spares the field of their state,
and inherits what is attached without having a field there. -/
structure LeavesToMove (binding : Binding) (name : String) (spec : ClassSpec) : Prop where
  spared : spec.cls.Spares spec.shared name
  apart : name ∉ attachedNames
  undeclared : ∀ attached ∈ attachedNames, attached ∉ spec.cls.fields
  inherited : binding.IsInherited spec

/-- Whether an entity is an ordinary object of a class with what is attached, and has nothing of its
own under the names of that. -/
inductive IsMover (binding : Binding) (spec : ClassSpec) : Value → Prop where
  | object {identity : Identity} {fields : List (String × Value)} :
      (∀ hand ∈ handNames, fields.lookup hand = none) →
        (∀ name ∈ attachedNames, fields.lookup name = none) →
          IsMover binding spec (.object spec.cls (binding.attach spec).shared identity fields)

variable {m : Interpretation} {binding : Binding} {spec : ClassSpec} {name : String}

theorem lookup_attributes_eq_none_iff :
    binding.attributes.lookup name = none ↔ name ∉ attachedNames := by
  simp [attributes, attachedNames, List.lookup_eq_none_iff]

theorem mem_attachedNames_of_lookup {item : Value}
    (h : binding.attributes.lookup name = some item) : name ∈ attachedNames := by
  by_contra hnot
  rw [lookup_attributes_eq_none_iff.mpr hnot] at h
  cases h

/-- What is attached is read as it is. -/
theorem isBinding_of_lookup_attributes {item : Value}
    (h : binding.attributes.lookup name = some item) : item.isBinding = false := by
  have hall : ∀ pair ∈ binding.attributes, pair.2.isBinding = false := by
    intro pair hpair
    simp only [attributes, List.map_cons, List.map_nil, List.mem_cons, List.not_mem_nil,
      or_false] at hpair
    rcases hpair with rfl | rfl | rfl | rfl | rfl <;> rfl
  obtain ⟨before, after, hsplit, -⟩ := List.lookup_eq_some_iff.mp h
  exact hall (name, item) (by simp [hsplit])

/-- An entity that offers what is attached to its class moves by the table of the class. -/
theorem move_of_offered {entity : Value} (h : offered m entity = pure binding.mover)
    (event : Value) :
    binding.move m entity event =
      StateRules.transit m binding.accessor binding.table entity event := by
  rw [move, h, pure_bind]
  rfl

/-- What a class has of its own once the attributes are attached, if they are attached to it. -/
theorem lookup_own (layer : Layer) :
    (if layer.name = binding.cls.name then
        {layer with own := binding.attributes ++ layer.own} else layer).own.lookup name =
      (if layer.name = binding.cls.name then binding.attributes.lookup name else none).or
        (layer.own.lookup name) := by
  split
  · exact List.lookup_append
  · rfl

theorem shared_attach_cons (layer : Layer) (above : List Layer) (cls : Class) :
    (binding.attach ⟨cls, layer :: above⟩).shared.lookup name =
      ((if layer.name = binding.cls.name then binding.attributes.lookup name else none).or
        (layer.own.lookup name)).or
        (if name ∈ layer.hides then none else
          (binding.attach ⟨cls, above⟩).shared.lookup name) := by
  rw [attach, ClassSpec.extend, ClassSpec.shared, List.map_cons, lookup_sharedBy_cons, lookup_own]
  congr 2
  split <;> rfl

/-- Under other names a class shares what it shared before. -/
theorem lookup_attach_of_not_mem (h : name ∉ attachedNames) :
    (binding.attach spec).shared.lookup name = spec.shared.lookup name := by
  have hnone : binding.attributes.lookup name = none := lookup_attributes_eq_none_iff.mpr h
  obtain ⟨cls, layers⟩ := spec
  induction layers with
  | nil => rfl
  | cons layer above ih =>
      rw [shared_attach_cons, ih, hnone, ite_self, Option.none_or]
      exact (lookup_sharedBy_cons layer above name).symm

/-- Under the names of what is attached, a class shares that if it inherits it. -/
theorem lookup_attach {item : Value} (h : binding.attributes.lookup name = some item)
    (hinherited : binding.IsInherited spec) :
    (binding.attach spec).shared.lookup name = some item := by
  obtain ⟨cls, layers⟩ := spec
  obtain ⟨below, layer, above, rfl, hname, hbelow⟩ := hinherited
  induction below with
  | nil =>
      rw [List.nil_append, shared_attach_cons, if_pos hname, h]
      rfl
  | cons lower rest ih =>
      obtain ⟨hlower, hrest⟩ := List.forall_mem_cons.mp hbelow
      obtain ⟨hown, hhides⟩ := hlower name (mem_attachedNames_of_lookup h)
      rw [List.cons_append, shared_attach_cons, hown, if_neg hhides, ih hrest, h]
      split <;> rfl

theorem lookup_attach_of_mem_handNames {hand : String} (hhand : hand ∈ handNames) :
    (binding.attach spec).shared.lookup hand = spec.shared.lookup hand :=
  lookup_attach_of_not_mem ((by decide : ∀ hand ∈ handNames, hand ∉ attachedNames) hand hhand)

/-- What is attached to a class does not keep it from sparing what its objects have. -/
theorem LeavesToMove.spares_attach (h : binding.LeavesToMove name spec) :
    spec.cls.Spares (binding.attach spec).shared name where
  apart := h.spared.apart
  declared := h.spared.declared
  unread hand hhand := by
    rw [lookup_attach_of_mem_handNames
      ((by decide : ∀ hand ∈ readingNames, hand ∈ handNames) hand hhand)]
    exact h.spared.unread hand hhand
  unmade hlayout hand hhand := by
    rw [lookup_attach_of_mem_handNames
      ((by decide : ∀ hand ∈ makingNames, hand ∈ handNames) hand hhand)]
    exact h.spared.unmade hlayout hand hhand
  unexchanged hlayout hand hhand := by
    rw [lookup_attach_of_mem_handNames
      ((by decide : ∀ hand ∈ exchangingNames, hand ∈ handNames) hand hhand)]
    exact h.spared.unexchanged hlayout hand hhand
  uncopied hlayout hand hhand := by
    rw [lookup_attach_of_mem_handNames
      ((by decide : ∀ hand ∈ copyingNames, hand ∈ handNames) hand hhand)]
    exact h.spared.uncopied hlayout hand hhand
  unreplaced hlayout hshape := by
    rw [lookup_attach_of_mem_handNames (by decide), lookup_attach_of_mem_handNames (by decide)]
    exact h.spared.unreplaced hlayout hshape
  finished := h.spared.finished
  kept := by
    rw [lookup_attach_of_not_mem h.apart]
    exact h.spared.kept

variable (h : binding.LeavesToMove name spec) {entity : Value}
  (hentity : binding.IsMover spec entity)
include h hentity

/-- An ordinary object of the class has what is attached to it. -/
theorem read_attached {attached : String} {item : Value}
    (hitem : binding.attributes.lookup attached = some item) :
    entity.read m attached = pure item := by
  obtain @⟨identity, fields, hhands, hnone⟩ := hentity
  have hshared := lookup_attach hitem h.inherited
  have hfield := hnone attached (mem_attachedNames_of_lookup hitem)
  have hattr : (Value.object spec.cls (binding.attach spec).shared identity fields).attr? attached =
      some item := by
    unfold Value.attr? Value.attributes
    dsimp only
    split <;> simp [List.lookup_append, hshared, hfield]
  refine Value.read_of_find h.spares_attach ?_
  rw [Value.find, hattr]
  simp [Value.shared?, hshared, isBinding_of_lookup_attributes hitem, Act.ofOption, Act.pure_def,
    Act.ofExcept]

theorem offered_of_isMover : offered m entity = pure binding.mover :=
  read_attached h hentity rfl

/-- When it has moved, the copy is an ordinary object of the class again. -/
theorem isMover_of_moved {attr event copy : Value} (hattr : attr.text? = some name)
    (haccessor : binding.accessor = .field attr name)
    (hmoved : (StateRules.transit m binding.accessor binding.table entity event).result =
      .ok (.moved copy)) : binding.IsMover spec copy := by
  obtain ⟨state, hstate, -⟩ := Act.result_bind_eq_ok_iff.mp hmoved
  obtain ⟨rule, next, -, -, -, hset⟩ := (result_transit_eq_ok_moved_iff hstate).mp hmoved
  rw [haccessor] at hset
  obtain ⟨hhands, hnone⟩ := hentity
  have hattach := h.spares_attach
  obtain ⟨identity, fields, rfl, hothers, -⟩ :=
    Value.renews_of_withField hattach hhands hattr hset
  refine .object (fun hand hhand => ?_) fun attached hattached => ?_
  · have hapart : hand ≠ name := fun heq => hattach.apart (heq ▸ hhand)
    exact hothers hand hapart (hattach.declared hand hhand) (hhands hand hhand)
  · have hapart : attached ≠ name := fun heq => h.apart (heq ▸ hattached)
    exact hothers attached hapart (h.undeclared attached hattached) (hnone attached hattached)

end Binding

end StateRules
