import StateRules.Proofs.Entity.Copies

/-!
When a part of an object can be given anew.

An object is copied with another item in a field, or copying fails. Which of the two it is depends
on the class of the object, on the name of the field and on what is there to be copied, but neither
on the item nor on the object (`Value.exists_withField`): a record class asks for the same names
whatever is given under them (`exists_takeGiven_of_keys`), and whether a field can be set is up to
the class (`Value.result_setDirectly_eq_ok_iff`).
-/

namespace StateRules

/-- Whether the objects of a class let a field be set. The items of a tuple do not, unless the class
shares something else under the name. -/
def Class.isSettable (cls : Class) (shared : List (String × Value)) (name : String) : Bool :=
  !(((cls.shape.map TupleShape.names).getD []).contains name && (shared.lookup name).isNone)

/-- Whether a class and one of its objects leave the state that the object has under a name alone,
and keep what it has under other names for its copies. There is one field of every name, and nothing
stands in for one that is not there (`__getattr__`). A record is made anew from all fields of its
class, none of which the class takes a hand in. -/
structure Class.Keeps (cls : Class) (shared fields : List (String × Value)) (name : String) :
    Prop where
  spared : cls.Spares shared name
  unsupplied : shared.lookup "__getattr__" = none
  hands : ∀ hand ∈ handNames, fields.lookup hand = none
  declared : cls.fields.Nodup
  single : cls.layout ≠ .record → (fields.map Prod.fst).Nodup
  initial : cls.layout = .record → ∀ field ∈ cls.fields, field ∉ cls.late
  free : cls.layout = .record → ∀ field ∈ cls.fields, cls.Spares shared field ∧
    ∀ item, shared.lookup field = some item → item.isBinding = false

variable {m : Interpretation} {cls : Class} {shared fields fields' : List (String × Value)}
  {identity identity' : Identity} {name : String} {item item' w : Value}

theorem Class.Spares.leavesSetting (h : cls.Spares shared name) :
    LeavesSetting shared name := fun kept hkept => (h.kept kept hkept).2

theorem Class.Spares.ne_of_mem {hand : String} (h : cls.Spares shared name)
    (hhand : hand ∈ handNames) : name ≠ hand := fun heq => h.apart (heq ▸ hhand)

theorem Class.Keeps.mem_initial (h : cls.Keeps shared fields name) (hlayout : cls.layout = .record)
    {field : String} (hfield : field ∈ cls.fields) : field ∈ cls.initial := by
  have hlate : field ∉ cls.late := h.initial hlayout field hfield
  simpa [Class.initial] using And.intro hfield hlate

/-- No fault lies in setting a name by which no object keeps account of itself. -/
theorem Value.accountFault?_eq_none {owner : String} (hclass : name ≠ "__class__")
    (hweak : name ≠ "__weakref__") (hdict : name ≠ "__dict__") :
    accountFault? owner name item = none := by
  unfold accountFault?
  split
  · exact absurd rfl hclass
  · exact absurd rfl hweak
  · exact absurd rfl hdict
  · exact absurd rfl hdict
  · exact absurd rfl hdict
  · rfl

theorem Value.setField_eq (h : cls.Spares shared name) (hlayout : cls.layout ≠ .namedTuple) :
    (Value.object cls shared identity fields).setField name item =
      if cls.isSettable shared name then
        .ok (.object cls shared identity (cls.arrange (writeField fields name item)))
      else .error .fixedItem := by
  have hdict : name ≠ "__dict__" := h.ne_of_mem (by decide)
  have haccount (owner : String) : accountFault? owner name item = none :=
    accountFault?_eq_none (h.ne_of_mem (by decide)) (h.ne_of_mem (by decide)) hdict
  unfold setField Class.isSettable
  simp only [haccount, ite_self]
  cases hseat : ((cls.shape.map TupleShape.names).getD []).contains name &&
      (shared.lookup name).isNone with
  | true => simp
  | false =>
      simp only [Bool.false_eq_true, if_false, hlayout, Bool.not_false, if_true]
      split
      · exact absurd rfl hdict
      · rfl

/-- Whether a field can be set is up to the class alone. -/
theorem Value.result_setDirectly_eq_ok_iff (h : cls.Spares shared name)
    (hlayout : cls.layout ≠ .namedTuple) :
    ((Value.object cls shared identity fields).setDirectly m name item).result = .ok w ↔
      cls.isSettable shared name = true ∧
        w = .object cls shared identity (cls.arrange (writeField fields name item)) := by
  have hdirect : (Value.object cls shared identity fields).setDirectly m name item =
      Act.ofExcept ((Value.object cls shared identity fields).setField name item) := by
    unfold setDirectly
    cases hkept : shared.lookup name with
    | none => simp only [shared?, hkept]
    | some kept =>
        simp only [shared?, hkept, h.leavesSetting kept hkept, Bool.false_eq_true, if_false]
  rw [hdirect, setField_eq h hlayout]
  cases cls.isSettable shared name with
  | true => simpa [Act.ofExcept] using eq_comm
  | false => simp [Act.ofExcept]

theorem Value.exists_setAll_iff (hlayout : cls.layout ≠ .namedTuple)
    (hsetter : shared.lookup "__setattr__" = none) {frozen : Bool} {items : List (String × Value)}
    (hspares : ∀ field ∈ items.map Prod.fst, cls.Spares shared field) :
    (∃ w, ((Value.object cls shared identity fields).setAll m frozen items).result = .ok w) ↔
      ∀ field ∈ items.map Prod.fst, cls.isSettable shared field = true := by
  induction items generalizing fields with
  | nil => exact ⟨fun _ _ hfield => absurd hfield List.not_mem_nil, fun _ => ⟨_, rfl⟩⟩
  | cons first rest ih =>
      obtain ⟨own, given⟩ := first
      obtain ⟨hown, hrest⟩ := List.forall_mem_cons.mp hspares
      rw [setAll, set_eq_setDirectly hsetter, ite_self, List.map_cons,
        List.forall_mem_cons]
      constructor
      · rintro ⟨w, hset⟩
        obtain ⟨v, hfirst, hset⟩ := Act.result_bind_eq_ok_iff.mp hset
        obtain ⟨hsettable, rfl⟩ := (result_setDirectly_eq_ok_iff hown hlayout).mp hfirst
        exact ⟨hsettable, (ih hrest).mp ⟨w, hset⟩⟩
      · rintro ⟨hsettable, hothers⟩
        have hfirst : ((Value.object cls shared identity fields).setDirectly m own given).result =
            .ok (.object cls shared identity (cls.arrange (writeField fields own given))) :=
          (result_setDirectly_eq_ok_iff hown hlayout).mpr ⟨hsettable, rfl⟩
        have hset : ∃ w, ((Value.object cls shared identity (cls.arrange (writeField fields own
            given))).setAll m frozen rest).result = .ok w := (ih hrest).mpr hothers
        exact hset.imp fun w hset => Act.result_bind_eq_ok_iff.mpr ⟨_, hfirst, hset⟩

section Keys

variable {operation self : String} {taken names : List String} {given given' : List (Value × Value)}

theorem namedFault?_congr (hkeys : given'.map Prod.fst = given.map Prod.fst) :
    namedFault? operation taken names given' = namedFault? operation taken names given := by
  induction given generalizing given' with
  | nil => rw [List.map_eq_nil_iff.mp hkeys]
  | cons entry rest ih =>
      obtain ⟨key, item⟩ := entry
      cases given' with
      | nil => cases hkeys
      | cons entry' rest' =>
          obtain ⟨key', item'⟩ := entry'
          obtain ⟨hkey, hrest⟩ := List.cons.inj hkeys
          have hkey : key' = key := hkey
          rw [namedFault?, namedFault?, hkey, ih hrest]

theorem isSome_named?_congr (hkeys : given'.map Prod.fst = given.map Prod.fst) (name : String) :
    ((Arguments.mk [] given').named? name).isSome =
      ((Arguments.mk [] given).named? name).isSome := by
  have hany (given : List (Value × Value)) : ((Arguments.mk [] given).named? name).isSome =
      (given.map Prod.fst).any fun key => key.text? = some name := by
    rw [Arguments.named?, Option.isSome_map, Bool.eq_iff_iff, List.find?_isSome, List.any_map,
      List.any_eq_true]
    rfl
  rw [hany, hany, hkeys]

/-- What is given under names is taken or refused for the names alone. -/
theorem exists_takeGiven_of_keys (hkeys : given'.map Prod.fst = given.map Prod.fst)
    {items : List (String × Value)} (h : takeGiven operation self names ⟨[], given⟩ = .ok items) :
    ∃ items', takeGiven operation self names ⟨[], given'⟩ = .ok items' := by
  have hlacking : ((names.map fun name => (name, (Arguments.mk [] given').named? name)).filter
      fun item => item.2.isNone).map Prod.fst =
        ((names.map fun name => (name, (Arguments.mk [] given).named? name)).filter
          fun item => item.2.isNone).map Prod.fst := by
    simp only [List.filter_map, List.map_map, Function.comp_def, ← Option.not_isSome,
      isSome_named?_congr hkeys]
  rw [takeGiven_of_named] at h ⊢
  rw [namedFault?_congr hkeys]
  split at h
  · cases h
  · dsimp only at h ⊢
    rw [hlacking]
    split at h
    · next hnone => exact ⟨_, if_pos hnone⟩
    · cases h

end Keys

/-- A record none of whose fields is late hands on all but the one that is given anew. -/
theorem Value.exists_handOn {v : Value} {names : List String}
    (hlate : ∀ field ∈ names, field ∉ cls.late)
    (hread : ∀ field ∈ names, field ≠ name → ∃ x, (v.read m field).result = .ok x) :
    ∃ others, (v.handOn m cls name names).result = .ok others ∧
      others.map Prod.fst = (names.filter (· ≠ name)).map Value.text := by
  induction names with
  | nil => exact ⟨[], rfl, rfl⟩
  | cons first rest ih =>
      obtain ⟨hfirst, hothers⟩ := List.forall_mem_cons.mp hlate
      obtain ⟨hreadFirst, hreadOthers⟩ := List.forall_mem_cons.mp hread
      obtain ⟨others, hhanded, hkeys⟩ := ih hothers hreadOthers
      have hnot : cls.late.contains first = false := by simpa using hfirst
      rw [handOn, hnot]
      by_cases hname : first = name
      · exact ⟨others, by simpa [hname] using hhanded, by simpa [hname] using hkeys⟩
      · obtain ⟨x, hx⟩ := hreadFirst hname
        refine ⟨(.text first, x) :: others, ?_, by simp [hname, hkeys]⟩
        simp only [Bool.false_eq_true, if_false, hname]
        exact Act.result_bind_eq_ok_iff.mpr
          ⟨x, hx, Act.result_bind_eq_ok_iff.mpr ⟨others, hhanded, rfl⟩⟩

section Records

variable {given given' : List (Value × Value)}

theorem Class.exists_create (h : cls.Spares shared name) (hlayout : cls.layout = .record)
    (hkeys : given'.map Prod.fst = given.map Prod.fst)
    (hcreate : (cls.create m shared identity ⟨[], given⟩).result = .ok w) :
    ∃ w', (cls.create m shared identity' ⟨[], given'⟩).result = .ok w' := by
  cases hshape : cls.shape with
  | some shape =>
      simp only [create, h.unmade hlayout "__new__" (by decide), hlayout, hshape] at hcreate ⊢
      obtain ⟨items, htaken, _⟩ := Act.result_bind_eq_ok_iff.mp hcreate
      obtain ⟨items', htaken'⟩ := exists_takeGiven_of_keys hkeys htaken
      exact ⟨_, Act.result_bind_eq_ok_iff.mpr ⟨items', htaken', rfl⟩⟩
  | none =>
      have hnew : "__new__" ∉ cls.fields := h.declared _ (by decide)
      refine ⟨.object cls shared identity' [], ?_⟩
      simp [create, h.unmade hlayout "__new__" (by decide), hlayout, hshape, hnew]

theorem Value.exists_fill (hkeeps : cls.Keeps shared fields name) (hlayout : cls.layout = .record)
    (hkeys : given'.map Prod.fst = given.map Prod.fst)
    (hfill : ((Value.object cls shared identity []).fill m ⟨[], given⟩).result = .ok w) :
    ∃ w', ((Value.object cls shared identity' []).fill m ⟨[], given'⟩).result = .ok w' := by
  have hunfilled : shared.lookup "__init__" = none := hkeeps.spared.unmade hlayout _ (by decide)
  simp only [fill, hunfilled, hlayout, Class.completed_eq_self hkeeps.spared,
    hkeeps.spared.finished hlayout] at hfill ⊢
  obtain ⟨items, htaken, hfill⟩ := Act.result_bind_eq_ok_iff.mp hfill
  obtain ⟨v, hset, _⟩ := Act.result_bind_eq_ok_iff.mp hfill
  obtain ⟨items', htaken'⟩ := exists_takeGiven_of_keys hkeys htaken
  have hnames : items'.map Prod.fst = items.map Prod.fst :=
    (takeGiven_eq_ok htaken').2.1.trans (takeGiven_eq_ok htaken).2.1.symm
  have hspares : ∀ field ∈ items.map Prod.fst, cls.Spares shared field := by
    rw [(takeGiven_eq_ok htaken).2.1]
    exact fun field hfield => (hkeeps.free hlayout field (List.mem_of_mem_filter hfield)).1
  have hsetter : shared.lookup "__setattr__" = none := hkeeps.spared.unmade hlayout _ (by decide)
  have hsettable := (exists_setAll_iff (by simp [hlayout]) hsetter hspares).mp ⟨v, hset⟩
  rw [← hnames] at hspares hsettable
  obtain ⟨v', hset'⟩ := (exists_setAll_iff (by simp [hlayout]) hsetter hspares).mpr hsettable
  exact ⟨v', Act.result_bind_eq_ok_iff.mpr ⟨items', htaken',
    Act.result_bind_eq_ok_iff.mpr ⟨v', hset', rfl⟩⟩⟩

/-- What a record class makes of what is given, it makes of anything given under the same names. -/
theorem Class.exists_make (hkeeps : cls.Keeps shared fields name) (hlayout : cls.layout = .record)
    (hkeys : given'.map Prod.fst = given.map Prod.fst)
    (hmake : (cls.make m shared identity ⟨[], given⟩).result = .ok w) :
    ∃ w', (cls.make m shared identity' ⟨[], given'⟩).result = .ok w' := by
  have hadmits (identity : Identity) : cls.admits (.object cls shared identity []) = true := by
    simp [Class.admits, Value.isKind]
  obtain ⟨created, hcreated, hfill⟩ := Act.result_bind_eq_ok_iff.mp hmake
  obtain ⟨created', hcreated'⟩ :
      ∃ w', (cls.create m shared identity' ⟨[], given'⟩).result = .ok w' :=
    exists_create hkeeps.spared hlayout hkeys hcreated
  obtain rfl := create_record hkeeps.spared hlayout hcreated
  obtain rfl := create_record hkeeps.spared hlayout hcreated'
  rw [if_pos (hadmits identity)] at hfill
  obtain ⟨w', hfill'⟩ : ∃ w',
      ((Value.object cls shared identity' []).fill m ⟨[], given'⟩).result = .ok w' :=
    Value.exists_fill hkeeps hlayout hkeys hfill
  refine ⟨w', Act.result_bind_eq_ok_iff.mpr ⟨_, hcreated', ?_⟩⟩
  rw [if_pos (hadmits identity')]
  exact hfill'

/-- A record is read to have what it hands on, if it can be copied. -/
theorem Value.exists_read_of_withField {key : Value} (hkey : key.text? = some name)
    (hkeeps : cls.Keeps shared fields name) (hlayout : cls.layout = .record)
    (hcopy : ((Value.object cls shared identity fields).withField m key name item).result = .ok w)
    {field : String} (hfield : field ∈ cls.fields) (hne : field ≠ name) :
    ∃ x, ((Value.object cls shared identity fields).read m field).result = .ok x := by
  obtain ⟨_, _, hremade⟩ := remade_of_withField hkeeps.spared hkeeps.hands hlayout hkey hcopy
  have hinitial : field ∈ cls.initial := hkeeps.mem_initial hlayout hfield
  obtain ⟨x, hx, _⟩ := hremade.carried field hinitial hne
  exact ⟨x, hx⟩

end Records

/-- Whether a copy can be made with another item in a field does not depend on the item, nor on the
object that is copied, as long as its names are the same and it has all other fields of a record. -/
theorem Value.exists_withField {key : Value} (hkey : key.text? = some name)
    (hkeeps : cls.Keeps shared fields name) (hkeeps' : cls.Keeps shared fields' name)
    (hnames : cls.layout = .namedTuple → fields'.map Prod.fst = fields.map Prod.fst)
    (hread : cls.layout = .record → ∀ field ∈ cls.fields, field ≠ name →
      ∃ x, ((Value.object cls shared identity' fields').read m field).result = .ok x)
    (hcopy : ((Value.object cls shared identity fields).withField m key name item).result = .ok w) :
    ∃ w',
      ((Value.object cls shared identity' fields').withField m key name item').result = .ok w' := by
  cases hlayout : cls.layout with
  | record =>
      have hlate : ∀ field ∈ cls.fields, field ∉ cls.late := hkeeps.initial hlayout
      obtain ⟨others, hhanded, hkeys⟩ := exists_handOn hlate fun field hfield hne =>
        exists_read_of_withField hkey hkeeps hlayout hcopy hfield hne
      obtain ⟨others', hhanded', hkeys'⟩ := exists_handOn hlate (hread hlayout)
      rw [withField_record hkeeps.spared hkeeps.hands hlayout,
        Act.result_bind_of_ok hhanded] at hcopy
      rw [withField_record hkeeps'.spared hkeeps'.hands hlayout, Act.result_bind_of_ok hhanded']
      exact Class.exists_make hkeeps hlayout (by simp [hkeys, hkeys']) hcopy
  | namedTuple =>
      obtain ⟨hmem, _⟩ := (withField_namedTuple hkeeps.spared hkeeps.hands hlayout key).mp hcopy
      have hmem' : name ∈ fields'.map Prod.fst := by rwa [hnames hlayout]
      exact ⟨_, (withField_namedTuple hkeeps'.spared hkeeps'.hands hlayout key).mpr ⟨hmem', rfl⟩⟩
  | plain =>
      have htuple : cls.layout ≠ .namedTuple := by simp [hlayout]
      rw [withField_plain hkeeps.spared hkeeps.hands hlayout hkeeps.unsupplied] at hcopy
      obtain ⟨hsettable, _⟩ := (result_setDirectly_eq_ok_iff hkeeps.spared htuple).mp hcopy
      rw [withField_plain hkeeps'.spared hkeeps'.hands hlayout hkeeps'.unsupplied]
      exact ⟨_, (result_setDirectly_eq_ok_iff hkeeps'.spared htuple).mpr ⟨hsettable, rfl⟩⟩

end StateRules
