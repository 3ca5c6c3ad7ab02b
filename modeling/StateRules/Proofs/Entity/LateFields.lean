import StateRules.Proofs.Table.Run

/-!
What a record loses when its state is written.

A record is copied by making a new one of its class from its initial fields (`dataclasses.replace`).
What these are read to have is carried over (`Class.Remade`), but a field that is declared to be
late (`init=False`) is not given when a record is made, so a copy has in it what any new record of
the class has. Hence nothing is lost exactly if that is what the record had there itself
(`record_loses_nothing_iff`). It is not if the field was filled later, like the total of a sale
(`record_loses_late_field`).

A class that goes on by itself with a new record (`__post_init__`, `default_factory`) may fill late
fields again, so nothing is said about such classes here.
-/

namespace StateRules

/-- Whether the objects of a class are records with which it does not go on when they are filled
(`__post_init__`, `default_factory`), and the class takes no hand in any of their fields, be they
there or not. -/
structure Class.IsOpenRecord (cls : Class) (shared : List (String × Value)) : Prop where
  layout : cls.layout = .record
  finished : cls.finishes = false
  unsupplied : shared.lookup "__getattr__" = none
  spared : ∀ field ∈ cls.fields, cls.Spares shared field
  unbound : ∀ field ∈ cls.fields, ∀ item, shared.lookup field = some item → item.isBinding = false

/-- Whether a value comes of writing a state into a copy of an entity, be it by the accessor alone
or by a move. -/
inductive IsWritten (m : Interpretation) (accessor : Accessor) (entity : Value) : Value → Prop where
  | set {state copy : Value} : (accessor.set m entity state).result = .ok copy →
      IsWritten m accessor entity copy
  | moved {table : Table} {event copy : Value} :
      (transit m accessor table entity event).result = .ok (.moved copy) →
        IsWritten m accessor entity copy

/-- A new record of a class, none of whose fields is filled. -/
def Class.unfilled (cls : Class) (shared : List (String × Value)) (identity : Identity) : Value :=
  .object cls shared identity.copy []

/-- Whether a copy of a record has in every field but that of its state what the record has
there. -/
def Class.LosesNothing (m : Interpretation) (cls : Class) (name : String) (record copy : Value) :
    Prop :=
  ∀ field ∈ cls.fields, field ≠ name → (copy.read m field).result = (record.read m field).result

variable {m : Interpretation} {cls : Class} {shared fields fields' : List (String × Value)}
  {identity : Identity} {name : String} {item : Value}

theorem IsWritten.exists_set {accessor : Accessor} {entity copy : Value}
    (h : IsWritten m accessor entity copy) :
    ∃ state, (accessor.set m entity state).result = .ok copy := by
  cases h with
  | set hset => exact ⟨_, hset⟩
  | moved hmoved =>
      obtain ⟨state, rule, next, hmove⟩ := exists_move hmoved
      exact ⟨next, hmove.written⟩

namespace Class.Remade

/-- A record that is made anew has what was handed on. -/
theorem read_initial (hrecord : cls.IsOpenRecord shared)
    (hremade : cls.Remade m shared (.object cls shared identity fields) name item fields')
    {field : String} (hfield : field ∈ cls.initial) (hne : field ≠ name) :
    ((Value.object cls shared identity.copy fields').read m field).result =
      ((Value.object cls shared identity fields).read m field).result := by
  have hspares : cls.Spares shared field := hrecord.spared field (List.mem_of_mem_filter hfield)
  obtain ⟨x, hread, hheld⟩ := hremade.carried field hfield hne
  have hlookup : fields'.lookup field = some x :=
    hheld fun kept hkept => (hspares.kept kept hkept).2
  rw [Value.read_of_lookup hspares hlookup, hread, Act.result_pure]

/-- A record that is made anew has in a late field what any new record has there. -/
theorem read_late (hrecord : cls.IsOpenRecord shared)
    (hremade : cls.Remade m shared (.object cls shared identity fields) name item fields')
    {field : String} (hfield : field ∈ cls.fields) (hlate : field ∉ cls.initial) :
    (Value.object cls shared identity.copy fields').read m field =
      (cls.unfilled shared identity).read m field := by
  have hspares : cls.Spares shared field := hrecord.spared field hfield
  have hdict : field ≠ "__dict__" := fun heq => hspares.apart (heq ▸ by decide)
  exact Value.read_congr hspares hrecord.unsupplied hdict (hrecord.unbound field hfield)
    (hremade.bare field hlate)

end Class.Remade

/-- Whenever the state of a record is written, the copy is of the same class and has in each initial
field what the record has there. Nothing is lost exactly if the record has in its late fields what
any new record of its class has there. -/
theorem record_loses_nothing_iff {attr : Value} (hattr : attr.text? = some name)
    (hrecord : cls.IsOpenRecord shared) (hname : cls.Spares shared name)
    (hfields : ∀ hand ∈ handNames, fields.lookup hand = none) {copy : Value}
    (hwritten : IsWritten m (.field attr name) (.object cls shared identity fields) copy) :
    copy.type = (Value.object cls shared identity fields).type ∧
      (∀ field ∈ cls.initial, field ≠ name → (copy.read m field).result =
        ((Value.object cls shared identity fields).read m field).result) ∧
      (cls.LosesNothing m name (.object cls shared identity fields) copy ↔
        ∀ field ∈ cls.fields, field ∉ cls.initial →
          ((Value.object cls shared identity fields).read m field).result =
            ((cls.unfilled shared identity).read m field).result) := by
  obtain ⟨state, hset⟩ := hwritten.exists_set
  obtain ⟨fields', rfl, hremade⟩ :=
    Value.remade_of_withField hname hfields hrecord.layout hattr hset
  refine ⟨rfl, fun field hfield hne => hremade.read_initial hrecord hfield hne, ?_, ?_⟩
  · intro hnothing field hfield hlate
    have hne : field ≠ name := fun heq => hlate (heq ▸ hremade.initial)
    rw [← hnothing field hfield hne, hremade.read_late hrecord hfield hlate]
  · intro hblank field hfield hne
    by_cases hinitial : field ∈ cls.initial
    · exact hremade.read_initial hrecord hinitial hne
    · rw [hremade.read_late hrecord hfield hinitial, hblank field hfield hinitial]

/-- The class of sales, whose total is found out after a sale is made. -/
def saleClass : Class :=
  ⟨"Order", "Order", .record, ["state", "total"], ["total"], [], "Order", none, false, false, false⟩

/-- A new sale whose total has been found out. -/
def sale : Value :=
  .object saleClass [] ⟨1, 0⟩ [("state", .text "new"), ("total", .integer 30)]

def saleTable : Table :=
  ⟨[⟨.text "new", .text "pay", .literal (.text "paid")⟩], [.text "new", .text "paid"],
    [.text "pay"]⟩

theorem isOpenRecord_saleClass : saleClass.IsOpenRecord [] where
  layout := rfl
  finished := rfl
  unsupplied := rfl
  spared field hfield := by
    have hapart : ∀ field ∈ saleClass.fields, field ∉ handNames := by decide
    refine Class.spares_of_unshared (hapart field hfield) (by decide) (fun _ _ => rfl)
      (fun _ => rfl) fun item hitem => ?_
    cases hitem
  unbound field _ item hitem := by cases hitem

/-- A sale that is paid is still a sale, but it may have lost something. -/
theorem record_loses_nothing_iff_sale :
    ∃ copy, (transit .exhausted .standard saleTable sale (.text "pay")).result = .ok (.moved copy) ∧
      copy.type = sale.type ∧
      (saleClass.LosesNothing .exhausted "state" sale copy ↔
        ∀ field ∈ saleClass.fields, field ∉ saleClass.initial →
          (sale.read .exhausted field).result =
            ((saleClass.unfilled [] ⟨1, 0⟩).read .exhausted field).result) := by
  have hhands : ∀ hand ∈ handNames,
      [("state", Value.text "new"), ("total", .integer 30)].lookup hand = none :=
    lookup_of_apart ["state", "total"] rfl (by decide)
  have hmoved : (transit .exhausted .standard saleTable sale (.text "pay")).result =
      .ok (.moved (.object saleClass [] ⟨1, 1⟩ [("state", .text "paid")])) := rfl
  have hattr : (Value.text "state").text? = some "state" := rfl
  have hspares : saleClass.Spares [] "state" := isOpenRecord_saleClass.spared "state" (by decide)
  obtain ⟨htype, _, hnothing⟩ :=
    record_loses_nothing_iff hattr isOpenRecord_saleClass hspares hhands
    (.moved hmoved)
  exact ⟨_, hmoved, htype, hnothing⟩

/-- A record may lose what is in a late field: a sale that is paid loses its total. -/
theorem record_loses_late_field :
    ∃ copy, (Accessor.standard.set .exhausted sale (.text "paid")).result = .ok copy ∧
      (sale.read .exhausted "total").result = .ok (.integer 30) ∧
      (copy.read .exhausted "total").result = .error (.noAttribute "Order" "total") ∧
      ¬saleClass.LosesNothing .exhausted "state" sale copy := by
  refine ⟨_, rfl, rfl, rfl, fun hnothing => ?_⟩
  have hkept := hnothing "total" (by decide) (by decide)
  cases hkept

end StateRules
