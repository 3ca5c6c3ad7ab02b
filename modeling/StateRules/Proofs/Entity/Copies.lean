import StateRules.Proofs.Entity.Ordinary

/-!
What the copies of objects hold.

An ordinary object is copied in one of three ways. A record is made anew: what it is read to have in
its initial fields is given to the new one, and a field that is late gets nothing
(`Value.remade_of_withField`). A tuple with names is made anew from its items, one of them given
anew (`Value.withField_namedTuple`), and any other object takes all fields over and has the one set
(`Value.withField_plain`), unless a stand-in for what is not there (`__getattr__`) takes them in
place of the copy (`Value.set_of_withField`). The class stays the same throughout.
-/

namespace StateRules

section Objects

variable {m : Interpretation} {cls : Class} {shared fields : List (String × Value)}
  {identity : Identity} {name : String} {item w : Value}

/-- Whether nothing that a class shares under a name has a say in setting it. -/
def LeavesSetting (shared : List (String × Value)) (name : String) : Prop :=
  ∀ kept, shared.lookup name = some kept → kept.governsSetting = false

/-- Setting a field that is not the name of all of them puts the item among the fields. -/
theorem Value.setField_eq_ok (hlayout : cls.layout ≠ .namedTuple) (hname : name ≠ "__dict__")
    (hset : (Value.object cls shared identity fields).setField name item = .ok w) :
    w = .object cls shared identity (cls.arrange (writeField fields name item)) := by
  unfold setField at hset
  dsimp only at hset
  split at hset
  · cases hset
  · split at hset
    · cases hset
    · split at hset
      · exact absurd rfl hname
      · exact (Except.ok.inj hset).symm

/-- Whether fields are others with an item set under a name, as far as looking up goes. What is set
counts only if nothing that the class shares has a say in it. -/
structure SetsField (shared fields fields' : List (String × Value)) (name : String) (item : Value) :
    Prop where
  others : ∀ other, other ≠ name → fields'.lookup other = fields.lookup other
  set : LeavesSetting shared name → fields'.lookup name = some item

theorem Class.setsField_arrange (cls : Class) (shared fields : List (String × Value))
    (name : String) (item : Value) :
    SetsField shared fields (cls.arrange (writeField fields name item)) name item where
  others other hother := by rw [lookup_arrange, lookup_writeField, if_neg hother]
  set _ := by rw [lookup_arrange, lookup_writeField, if_pos rfl]

theorem Value.fields_of_setDirectly (hlayout : cls.layout ≠ .namedTuple) (hname : name ≠ "__dict__")
    (hset : ((Value.object cls shared identity fields).setDirectly m name item).result = .ok w) :
    ∃ fields', w = .object cls shared identity fields' ∧
      SetsField shared fields fields' name item := by
  have hplain (hset : (Value.object cls shared identity fields).setField name item = .ok w) :
      ∃ fields', w = .object cls shared identity fields' ∧
        SetsField shared fields fields' name item :=
    ⟨_, setField_eq_ok hlayout hname hset, cls.setsField_arrange shared fields name item⟩
  unfold setDirectly at hset
  cases hkept : shared.lookup name with
  | none =>
      simp only [shared?, hkept] at hset
      exact hplain hset
  | some kept =>
      simp only [shared?, hkept] at hset
      split at hset
      · next hgoverns =>
          -- What the class shares has taken the item, and the fields are as they were.
          obtain ⟨answer, _, hrest⟩ := Act.result_bind_eq_ok_iff.mp hset
          cases answer with
          | none => cases hrest
          | some _ =>
              refine ⟨fields, (Except.ok.inj hrest).symm, fun _ _ => rfl, fun hfree => ?_⟩
              exact absurd hgoverns (by simp [hfree kept hkept])
      · exact hplain hset

theorem Value.set_eq_setDirectly (hsetter : shared.lookup "__setattr__" = none) :
    (Value.object cls shared identity fields).set m name item =
      (Value.object cls shared identity fields).setDirectly m name item := by
  rw [set, consult_of_shared_none (by exact hsetter)]
  rfl

/-- Setting fields one after the other leaves the others alone, and a field that is only ever set to
one item holds it in the end. -/
theorem Value.fields_of_setAll (hlayout : cls.layout ≠ .namedTuple)
    (hsetter : shared.lookup "__setattr__" = none) {frozen : Bool} {items : List (String × Value)}
    (hnames : "__dict__" ∉ items.map Prod.fst)
    (hset : ((Value.object cls shared identity fields).setAll m frozen items).result = .ok w) :
    ∃ fields', w = .object cls shared identity fields' ∧
      (∀ other, other ∉ items.map Prod.fst → fields'.lookup other = fields.lookup other) ∧
      ∀ name item, LeavesSetting shared name → (∀ given, (name, given) ∈ items → given = item) →
        name ∈ items.map Prod.fst ∨ fields.lookup name = some item →
          fields'.lookup name = some item := by
  induction items generalizing fields with
  | nil =>
      obtain rfl := Except.ok.inj hset
      exact ⟨fields, rfl, fun _ _ => rfl, fun _ _ _ _ hitem => hitem.resolve_left List.not_mem_nil⟩
  | cons first rest ih =>
      obtain ⟨own, given⟩ := first
      obtain ⟨hown, hrest⟩ := not_or.mp (List.mem_cons.not.mp hnames)
      rw [setAll, set_eq_setDirectly hsetter, ite_self] at hset
      obtain ⟨v, hfirst, hset⟩ := Act.result_bind_eq_ok_iff.mp hset
      obtain ⟨fields₁, rfl, hsets⟩ := fields_of_setDirectly hlayout (Ne.symm hown) hfirst
      obtain ⟨fields', rfl, hothers, hheld⟩ := ih hrest hset
      refine ⟨fields', rfl, fun other hother => ?_, fun name item hfree honly hitem => ?_⟩
      · obtain ⟨hne, hother⟩ := not_or.mp (List.mem_cons.not.mp hother)
        rw [hothers other hother, hsets.others other hne]
      · refine hheld name item hfree (fun given hgiven => honly given (.tail _ hgiven)) ?_
        by_cases hname : name = own
        · subst hname
          rw [hsets.set hfree, honly given List.mem_cons_self]
          exact .inr rfl
        · rw [hsets.others name hname]
          exact hitem.imp_left fun hmem => (List.mem_cons.mp hmem).resolve_left hname

theorem map_fst_filterMap {given : String → Option Value} {names : List String}
    (h : ∀ name ∈ names, (given name).isSome = true) :
    (names.filterMap fun name => (given name).map fun item => (name, item)).map Prod.fst =
      names := by
  induction names with
  | nil => rfl
  | cons name rest ih =>
      obtain ⟨hname, hrest⟩ := List.forall_mem_cons.mp h
      obtain ⟨item, hitem⟩ := Option.isSome_iff_exists.mp hname
      rw [List.filterMap_cons_some (by rw [hitem]; rfl), List.map_cons, ih hrest]

theorem named?_cons {key : Value} (hkey : key.text? = some name) (others : List (Value × Value))
    (other : String) :
    (Arguments.mk [] ((key, item) :: others)).named? other =
      if other = name then some item else (Arguments.mk [] others).named? other := by
  by_cases h : other = name
  · simp [Arguments.named?, hkey, h]
  · simp [Arguments.named?, hkey, h, Ne.symm h]

theorem mem_of_namedFault?_eq_none {operation : String} {taken names : List String} {key : Value}
    {others : List (Value × Value)} (hkey : key.text? = some name)
    (h : namedFault? operation taken names ((key, item) :: others) = none) : name ∈ names := by
  simp only [namedFault?, hkey, Option.getD_some] at h
  split at h
  · cases h
  · split at h
    · next hmem => simpa using hmem
    · cases h

/-- What is taken where nothing is given in order. -/
theorem takeGiven_of_named (operation self : String) (names : List String)
    (given : List (Value × Value)) :
    takeGiven operation self names ⟨[], given⟩ =
      match namedFault? operation [self] names given with
      | some fault => .error fault
      | none =>
          let lookedUp := names.map fun name => (name, (Arguments.mk [] given).named? name)
          let lacking := (lookedUp.filter fun item => item.2.isNone).map Prod.fst
          if lacking.isEmpty then
            .ok (lookedUp.filterMap fun (name, item) => item.map fun item => (name, item))
          else .error (.missing operation lacking) := by
  cases hfault : namedFault? operation [self] names given with
  | some fault => simp [takeGiven, hfault]
  | none => simp [takeGiven, hfault]

/-- What is taken under names is what is given under them. -/
theorem takeGiven_eq_ok {operation self : String} {names : List String}
    {given : List (Value × Value)} {items : List (String × Value)}
    (h : takeGiven operation self names ⟨[], given⟩ = .ok items) :
    namedFault? operation [self] names given = none ∧ items.map Prod.fst = names ∧
      ∀ field x, (field, x) ∈ items → (Arguments.mk [] given).named? field = some x := by
  rw [takeGiven_of_named] at h
  split at h
  · cases h
  · next hfault =>
      dsimp only at h
      split at h
      · next hlacking =>
          obtain rfl := Except.ok.inj h
          rw [List.filterMap_map]
          refine ⟨hfault, map_fst_filterMap fun other hother => ?_, fun field x hx => ?_⟩
          · by_contra hnone
            have hmem := List.isEmpty_iff.mp hlacking
            simp only [List.map_eq_nil_iff, List.filter_eq_nil_iff, List.mem_map] at hmem
            exact hmem _ ⟨other, hother, rfl⟩ (by simpa using hnone)
          · obtain ⟨other, _, hother⟩ := List.mem_filterMap.mp hx
            obtain ⟨found, hfound, hpair⟩ := Option.map_eq_some_iff.mp hother
            obtain ⟨rfl, rfl⟩ := Prod.mk.inj hpair
            exact hfound
      · cases h

/-- What is handed on to a copy of a record is what the record is read to have. -/
theorem Value.handOn_eq_ok {v : Value} {names : List String} {others : List (Value × Value)}
    (h : (v.handOn m cls name names).result = .ok others) :
    ∀ field ∈ names, cls.late.contains field = false → field ≠ name →
      ∃ x, (v.read m field).result = .ok x ∧ (Arguments.mk [] others).named? field = some x := by
  induction names generalizing others with
  | nil => exact fun _ hfield => absurd hfield List.not_mem_nil
  | cons first rest ih =>
      intro field hfield hlate hne
      rw [handOn] at h
      split at h
      · next hfirst =>
          have hrest := (List.mem_cons.mp hfield).resolve_left fun heq => by
            rw [← heq, hlate] at hfirst
            cases hfirst
          split at h
          · cases h
          · exact ih h field hrest hlate hne
      · split at h
        · next hfirst =>
            have hrest := (List.mem_cons.mp hfield).resolve_left fun heq => hne (heq.trans hfirst)
            exact ih h field hrest hlate hne
        · obtain ⟨x, hx, h⟩ := Act.result_bind_eq_ok_iff.mp h
          obtain ⟨handed, hhanded, h⟩ := Act.result_bind_eq_ok_iff.mp h
          obtain rfl := Except.ok.inj h
          have hgiven : (Arguments.mk [] ((.text first, x) :: handed)).named? field =
              if field = first then some x else (Arguments.mk [] handed).named? field :=
            named?_cons rfl handed field
          by_cases heq : field = first
          · rw [if_pos heq] at hgiven
            exact ⟨x, heq ▸ hx, hgiven⟩
          · rw [if_neg heq] at hgiven
            obtain ⟨y, hy, hfound⟩ := ih hhanded field
              ((List.mem_cons.mp hfield).resolve_left heq) hlate hne
            exact ⟨y, hy, hgiven.trans hfound⟩

/-- Some fields with the item under a name given anew. -/
def renewed (fields : List (String × Value)) (name : String) (item : Value) :
    List (String × Value) :=
  fields.map fun (own, old) => (own, if own = name then item else old)

theorem zip_renewed (fields : List (String × Value)) (name : String) (item : Value) :
    (fields.map Prod.fst).zip (((fields.map Prod.fst).zip (fields.map Prod.snd)).map
      fun (own, old) => if own = name then item else old) = renewed fields name item := by
  induction fields with
  | nil => rfl
  | cons field rest ih =>
      simp only [List.map_cons, List.zip_cons_cons, ih]
      rfl

theorem lookup_renewed (fields : List (String × Value)) (name other : String) (item : Value) :
    (renewed fields name item).lookup other =
      (fields.lookup other).map fun old => if other = name then item else old := by
  induction fields with
  | nil => rfl
  | cons field rest ih =>
      obtain ⟨own, old⟩ := field
      rw [renewed, List.map_cons, lookup_cons_field, lookup_cons_field, ← renewed, ih]
      by_cases hother : other = own <;> simp [hother]

theorem Value.offers_replace (hlayout : cls.layout = .namedTuple) :
    ((Value.object cls shared identity fields).attr? "_replace").isSome = true := by
  have hoffer : ((Value.object cls shared identity fields).offer? "_replace").isSome = true := by
    simp only [offer?, lineage, Class.lineage, hlayout, Option.isSome_map]
    cases cls.bare <;> rfl
  simp [attr?, hoffer]

theorem Value.attr?_of_plain (hlayout : cls.layout = .plain) {hand : String}
    (hhand : hand = "_replace" ∨ hand = "__setstate__") (hshared : shared.lookup hand = none)
    (hnone : fields.lookup hand = none) :
    (Value.object cls shared identity fields).attr? hand = none := by
  rw [attr?_of_none hshared hnone]
  rcases hhand with rfl | rfl <;>
    simp only [Class.traits, hlayout, offer?, lineage, Class.lineage] <;> cases cls.bare <;> rfl

theorem Value.takeOver_mapping
    (hsetter : (Value.object cls shared identity []).read? m "__setstate__" = pure none)
    (hdict : shared.lookup "__dict__" = none) (entries : List (Value × Value)) :
    (Value.object cls shared identity []).takeOver m (.mapping .plain entries) =
      pure (.object cls shared identity
        (cls.arrange ((fieldsOf entries).foldl (fun kept (n, x) => writeField kept n x) []))) := by
  simp [takeOver, isNull, hsetter, hdict, addEntries]

/-- The fields of an object, written one after the other into a new object of its class. -/
def Class.transcribed (cls : Class) (fields : List (String × Value)) : List (String × Value) :=
  cls.arrange (fields.foldl (fun kept (n, x) => writeField kept n x) [])

theorem Class.lookup_transcribed (cls : Class) (fields : List (String × Value)) (name : String) :
    (cls.transcribed fields).lookup name = fields.reverse.lookup name := by
  rw [transcribed, lookup_arrange, lookup_foldl_writeField, List.lookup_nil, Option.or_none]

theorem Class.transcribed_nil (cls : Class) : cls.transcribed [] = [] := by
  simp [transcribed, arrange]

/-- What the fields of a record hold that is made anew: the item under the one name, under the other
initial names what the record that is copied is read to have there, and nothing else. -/
structure Class.Remade (m : Interpretation) (cls : Class) (shared : List (String × Value))
    (v : Value) (name : String) (item : Value) (fields : List (String × Value)) : Prop where
  initial : name ∈ cls.initial
  set : LeavesSetting shared name → fields.lookup name = some item
  carried : ∀ field ∈ cls.initial, field ≠ name → ∃ x, (v.read m field).result = .ok x ∧
    (LeavesSetting shared field → fields.lookup field = some x)
  bare : ∀ other, other ∉ cls.initial → fields.lookup other = none

variable (h : cls.Spares shared name)
include h

theorem Class.create_record (hlayout : cls.layout = .record) {given : List (Value × Value)}
    (hcreate : (cls.create m shared identity ⟨[], given⟩).result = .ok w) :
    w = .object cls shared identity [] := by
  cases hshape : cls.shape with
  | some shape =>
      simp only [create, h.unmade hlayout "__new__" (by decide), hlayout, hshape] at hcreate
      obtain ⟨items, _, hmade⟩ := Act.result_bind_eq_ok_iff.mp hcreate
      exact (Except.ok.inj hmade).symm
  | none =>
      simp only [create, h.unmade hlayout "__new__" (by decide), hlayout, hshape] at hcreate
      split at hcreate
      · cases hcreate
      · exact (Except.ok.inj hcreate).symm

theorem Class.completed_eq_self (given : List (Value × Value)) :
    cls.completed ⟨[], given⟩ = ⟨[], given⟩ := by
  have hclass : "__class__" ∉ cls.initial := fun hmem =>
    h.declared "__class__" (by decide) (List.mem_of_mem_filter hmem)
  simp [Class.completed, hclass]

/-- A record is filled with what is given for its initial fields. -/
theorem Value.fields_of_fill (hlayout : cls.layout = .record) {given : List (Value × Value)}
    (hfill : ((Value.object cls shared identity []).fill m ⟨[], given⟩).result = .ok w) :
    ∃ operation items fields', takeGiven operation cls.selfName cls.initial ⟨[], given⟩ =
        .ok items ∧
      w = .object cls shared identity fields' ∧
      (∀ other, other ∉ cls.initial → fields'.lookup other = none) ∧
      ∀ field ∈ cls.initial, ∀ x, (Arguments.mk [] given).named? field = some x →
        LeavesSetting shared field → fields'.lookup field = some x := by
  simp only [fill, h.unmade hlayout "__init__" (by decide), hlayout,
    Class.completed_eq_self h, h.finished hlayout, Bool.false_eq_true, if_false] at hfill
  obtain ⟨items, htaken, hfill⟩ := Act.result_bind_eq_ok_iff.mp hfill
  obtain ⟨v, hset, hfill⟩ := Act.result_bind_eq_ok_iff.mp hfill
  obtain ⟨_, hnames, hgiven⟩ := takeGiven_eq_ok htaken
  have hdict : "__dict__" ∉ items.map Prod.fst := by
    rw [hnames]
    exact fun hmem => h.declared "__dict__" (by decide) (List.mem_of_mem_filter hmem)
  obtain ⟨fields', rfl, hothers, hheld⟩ := fields_of_setAll (by simp [hlayout])
    (h.unmade hlayout _ (by decide)) hdict hset
  have hw : w = .object cls shared identity fields' := (Except.ok.inj hfill).symm
  refine ⟨_, items, fields', htaken, hw, fun other hother => ?_, fun field hfield x hx hfree => ?_⟩
  · exact hothers other (hnames ▸ hother)
  · refine hheld field x hfree (fun given hmem => ?_) (.inl (hnames ▸ hfield))
    exact Option.some.inj ((hgiven field given hmem).symm.trans hx)

variable (hfields : ∀ hand ∈ handNames, fields.lookup hand = none)
include hfields

/-- A copy of a record is made by its class from what it hands on and what is given anew. -/
theorem Value.withField_record (hlayout : cls.layout = .record) (key : Value) :
    (Value.object cls shared identity fields).withField m key name item =
      (Value.object cls shared identity fields).handOn m cls name cls.fields >>= fun others =>
        cls.make m shared identity.copy ⟨[], (key, item) :: others⟩ := by
  have hnature : (Value.object cls shared identity fields).hasByNature "__dataclass_fields__" =
      true :=
    hasByNature_of_spares h hfields (by decide) (h.unread _ (by decide))
  simp only [withField, countsAs_of_spares h hfields, pure_bind, hlayout, decide_true,
    Bool.true_or, if_true, replaceField, hnature]
  simp only [refill, read_class h hfields, pure_bind, if_true]

/-- A copy of a record is a new record, which has what is given and what the record has in its other
initial fields. -/
theorem Value.remade_of_withField (hlayout : cls.layout = .record) {key : Value}
    (hkey : key.text? = some name)
    (hcopy : ((Value.object cls shared identity fields).withField m key name item).result = .ok w) :
    ∃ fields', w = .object cls shared identity.copy fields' ∧
      cls.Remade m shared (.object cls shared identity fields) name item fields' := by
  rw [withField_record h hfields hlayout] at hcopy
  obtain ⟨others, hothers, hcopy⟩ := Act.result_bind_eq_ok_iff.mp hcopy
  obtain ⟨created, hcreated, hfill⟩ := Act.result_bind_eq_ok_iff.mp hcopy
  obtain rfl := Class.create_record h hlayout hcreated
  have hadmits : cls.admits (.object cls shared identity.copy []) = true := by
    simp [Class.admits, isKind]
  rw [if_pos hadmits] at hfill
  obtain ⟨_, _, fields', htaken, rfl, hbare, hheld⟩ := fields_of_fill h hlayout hfill
  have hinitial : name ∈ cls.initial := mem_of_namedFault?_eq_none hkey (takeGiven_eq_ok htaken).1
  refine ⟨fields', rfl, hinitial, ?_, fun field hfield hne => ?_, hbare⟩
  · exact hheld name hinitial item (by rw [named?_cons hkey, if_pos rfl])
  · obtain ⟨hdeclared, hlate⟩ := List.mem_filter.mp hfield
    obtain ⟨x, hx, hfound⟩ := handOn_eq_ok hothers field hdeclared (by simpa using hlate) hne
    exact ⟨x, hx, hheld field hfield x (by rw [named?_cons hkey, if_neg hne, hfound])⟩

/-- A copy of a tuple with names has the same names, with the item under the one. -/
theorem Value.withField_namedTuple (hlayout : cls.layout = .namedTuple) (key : Value) :
    ((Value.object cls shared identity fields).withField m key name item).result = .ok w ↔
      name ∈ fields.map Prod.fst ∧
        w = .object cls shared identity.copy (renewed fields name item) := by
  have hkind : (Value.object cls shared identity fields).isKind (.basic .tuple) = true := by
    simp [isKind, tupleItems?, hlayout]
  have hunshared (hand : String) (hhand : hand ∈ exchangingNames) : shared.lookup hand = none :=
    h.unexchanged hlayout hand hhand
  have hnature (hand : String) (hhand : hand ∈ exchangingNames) :
      (Value.object cls shared identity fields).hasByNature hand = true :=
    hasByNature_of_spares h hfields
      ((by decide : ∀ hand ∈ exchangingNames, hand ∈ handNames) hand hhand) (hunshared hand hhand)
  have hdescribed : shared.lookup "__dataclass_fields__" = none := h.unread _ (by decide)
  have hoffer : ∃ offer, (Value.object cls shared identity fields).read? m "_replace" =
      pure (some offer) := by
    obtain ⟨offer, hattr⟩ := Option.isSome_iff_exists.mp (offers_replace hlayout)
    have hkept (item : Value) (hitem : shared.lookup "_replace" = some item) :
        item.isBinding = false := absurd hitem (by simp [hunshared "_replace" (by decide)])
    exact ⟨offer, by rw [read?, read_of_attr? h hkept hattr]; rfl⟩
  obtain ⟨offer, hoffer⟩ := hoffer
  have hreplace := hnature "_replace" (by decide)
  have hmake := hnature "_make" (by decide)
  have hiter := hunshared "__iter__" (by decide)
  have hlen := hunshared "__len__" (by decide)
  simp only [withField, countsAs_of_spares h hfields, hlayout, reduceCtorEq, decide_false, shared?,
    hdescribed, Option.isSome_none, Bool.or_self, Bool.false_eq_true, if_false, isA, hkind, if_true,
    hoffer, replaceByOffer, hreplace, replaceItem, hmake, hiter, ownLength?, consult, hlen,
    pure_bind,
    Option.isSome_some, zip_renewed]
  split
  · next hknown =>
      rw [Act.result_pure, Except.ok.injEq, eq_comm]
      exact (and_iff_right (List.contains_iff_mem.mp hknown)).symm
  · next hunknown =>
      constructor
      · intro hcopy
        obtain ⟨_, _, hfail⟩ := Act.result_bind_eq_ok_iff.mp hcopy
        cases hfail
      · exact fun hcopy => absurd (List.contains_iff_mem.mpr hcopy.1) hunknown

/-- Objects of a class that adds attributes only offer no way to copy them but the usual one. -/
theorem Value.read?_of_plain (hlayout : cls.layout = .plain)
    (hsupply : shared.lookup "__getattr__" = none) {hand : String}
    (hhand : hand = "_replace" ∨ hand = "__setstate__") (hshared : shared.lookup hand = none) :
    (Value.object cls shared identity fields).read? m hand = pure none := by
  have hmem : hand ∈ handNames := by rcases hhand with rfl | rfl <;> decide
  have hkept (item : Value) (hitem : shared.lookup hand = some item) : item.isBinding = false :=
    absurd hitem (by simp [hshared])
  rw [read?, read_of_unbound h hsupply hkept,
    attr?_of_plain hlayout hhand hshared (hfields hand hmem)]
  rfl

/-- Such an object is copied by a new object that takes its fields over. -/
theorem Value.copy_eq_takeOver (hlayout : cls.layout = .plain) :
    (Value.object cls shared identity fields).copy m =
      (Value.object cls shared identity.copy []).takeOver m
        (if fields.isEmpty then .null else namesTo fields) := by
  have hunshared (hand : String) (hhand : hand ∈ copyingNames) : shared.lookup hand = none :=
    h.uncopied hlayout hand hhand
  have hnature (hand : String) (hhand : hand ∈ copyingNames) :
      (Value.object cls shared identity fields).hasByNature hand = true :=
    hasByNature_of_spares h hfields
      ((by decide : ∀ hand ∈ copyingNames, hand ∈ handNames) hand hhand) (hunshared hand hhand)
  have hconsult (hand : String) (hhand : hand ∈ copyingNames) (items : List Value) :
      (Value.object cls shared identity fields).consult m hand items = pure none := by
    have hnone : (Value.object cls shared identity fields).shared? hand = none :=
      hunshared hand hhand
    exact consult_of_shared_none hnone m items
  simp only [copy, shared?, hunshared "__copy__" (by decide), copyByRecipe,
    hnature "__reduce_ex__" (by decide), hnature "__reduce__" (by decide), if_true, pure_bind,
    rebuild, checkNewArguments, hconsult "__getnewargs_ex__" (by decide),
    hconsult "__getnewargs__" (by decide),
    ownState, hnature "__getstate__" (by decide), ownFields, hunshared "__new__" (by decide)]
  rfl

/-- Where nothing stands in for what an object does not have, its copy takes its fields over. -/
theorem Value.copy_of_plain (hlayout : cls.layout = .plain)
    (hsupply : shared.lookup "__getattr__" = none) :
    (Value.object cls shared identity fields).copy m =
      pure (.object cls shared identity.copy (cls.transcribed fields)) := by
  have hdict : shared.lookup "__dict__" = none := h.uncopied hlayout _ (by decide)
  have hsetter : (Value.object cls shared identity.copy []).read? m "__setstate__" = pure none :=
    read?_of_plain h (fun _ _ => rfl) hlayout hsupply (.inr rfl) (h.uncopied hlayout _ (by decide))
  rw [copy_eq_takeOver h hfields hlayout]
  cases fields with
  | nil => rw [Class.transcribed_nil]; rfl
  | cons field rest =>
      exact (takeOver_mapping hsetter hdict _).trans (by rw [fieldsOf_namesTo]; rfl)

/-- A copy has the fields of the object or none, if what stands in for `__setstate__` took them. -/
theorem Value.eq_of_copy (hlayout : cls.layout = .plain)
    (hcopy : ((Value.object cls shared identity fields).copy m).result = .ok w) :
    ∃ fields', w = .object cls shared identity.copy fields' ∧
      (fields' = [] ∨ fields' = cls.transcribed fields) := by
  have hdict : shared.lookup "__dict__" = none := h.uncopied hlayout _ (by decide)
  rw [copy_eq_takeOver h hfields hlayout] at hcopy
  cases fields with
  | nil => exact ⟨[], (Except.ok.inj hcopy).symm, .inl rfl⟩
  | cons field rest =>
      rw [List.isEmpty_cons, if_neg Bool.false_ne_true] at hcopy
      obtain ⟨setter, hsetter, htaken⟩ := Act.result_bind_eq_ok_iff.mp hcopy
      cases setter with
      | none =>
          refine ⟨_, ?_, .inr rfl⟩
          simp only [namesTo, hdict, addEntries, List.isEmpty_nil, if_true, pure_bind,
            fieldsOf_namesTo] at htaken
          exact (Except.ok.inj htaken).symm
      | some setter =>
          obtain ⟨_, _, htaken⟩ := Act.result_bind_eq_ok_iff.mp htaken
          obtain ⟨_, _, htaken⟩ := Act.result_bind_eq_ok_iff.mp htaken
          exact ⟨[], (Except.ok.inj htaken).symm, .inl rfl⟩

/-- Any other object is copied and then given the item. -/
theorem Value.withField_eq_copy (hlayout : cls.layout = .plain) (key : Value) :
    (Value.object cls shared identity fields).withField m key name item =
      (Value.object cls shared identity fields).copy m >>= fun copy => copy.set m name item := by
  have hdescribed : shared.lookup "__dataclass_fields__" = none := h.unread _ (by decide)
  -- Only a tuple is asked for an operation that replaces its items.
  obtain ⟨isTuple, htuple, hcopier⟩ : ∃ isTuple,
      (Value.object cls shared identity fields).isA m (.basic .tuple) = pure isTuple ∧
        (isTuple = true →
          (Value.object cls shared identity fields).read? m "_replace" = pure none) := by
    refine ⟨cls.shape.isSome, ?_, fun hshape => ?_⟩
    · cases hshape : cls.shape <;>
        simp [isA, isKind, tupleItems?, hlayout, hshape, read?_class h hfields, isBelow]
    · obtain ⟨hreplace, hsupply⟩ := h.unreplaced hlayout hshape
      exact read?_of_plain h hfields hlayout hsupply (.inl rfl) hreplace
  have hmapping : (Value.object cls shared identity fields).isA m (.basic .mapping) =
      pure false := by
    simp [isA, isKind, read?_class h hfields, isBelow]
  simp only [withField, countsAs_of_spares h hfields, pure_bind, hlayout, shared?, hdescribed,
    reduceCtorEq, decide_false, Option.isSome_none, Bool.or_self, Bool.false_eq_true, if_false,
    htuple, hmapping, isMapping_of_spares h hfields]
  cases isTuple with
  | false => rfl
  | true => simp [hcopier rfl]

/-- A copy of any other object has the fields of the object or none, and then the item is set on
it. -/
theorem Value.set_of_withField (hlayout : cls.layout = .plain) {key : Value}
    (hcopy : ((Value.object cls shared identity fields).withField m key name item).result = .ok w) :
    ∃ fields', (fields' = [] ∨ fields' = cls.transcribed fields) ∧
      ((Value.object cls shared identity.copy fields').setDirectly m name item).result = .ok w := by
  rw [withField_eq_copy h hfields hlayout] at hcopy
  obtain ⟨copy, hcopied, hset⟩ := Act.result_bind_eq_ok_iff.mp hcopy
  obtain ⟨fields', rfl, hfields'⟩ := eq_of_copy h hfields hlayout hcopied
  rw [set_eq_setDirectly (h.uncopied hlayout _ (by decide))] at hset
  exact ⟨fields', hfields', hset⟩

/-- Where nothing stands in for what an object does not have, the item is set on a copy with all of
its fields. -/
theorem Value.withField_plain (hlayout : cls.layout = .plain)
    (hsupply : shared.lookup "__getattr__" = none) (key : Value) :
    (Value.object cls shared identity fields).withField m key name item =
      (Value.object cls shared identity.copy (cls.transcribed fields)).setDirectly m name item := by
  rw [withField_eq_copy h hfields hlayout, copy_of_plain h hfields hlayout hsupply, pure_bind,
    set_eq_setDirectly (h.uncopied hlayout _ (by decide))]

end Objects

end StateRules
