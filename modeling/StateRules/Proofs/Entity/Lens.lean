import StateRules.Proofs.Entity.Counterparts
import StateRules.Proofs.Entity.SelfEquality
import StateRules.Proofs.Table.Run

/-!
Accessors as lenses.

On an entity whose parts are kept for its copies (`Value.IsKept`), the accessor for a field obeys
the laws of a lens (`Accessor.IsLensOn`): a state that was written is read back, of two states that
are written one after the other the second counts, what is there under other names stays, and
writing the state that was read makes a copy that is read to be the same and, as far as objects of
its kind are compared by their parts, equals the entity. A copy is of the class of the entity,
except that a read-only mapping is copied as a plain one, and it is such an entity again. So the
laws hold of all copies that are made in a row (`field_accessor_is_lens`).

A class may bring operations of its own for any of that, and a name may stand for something other
than a field. Then the laws need not hold (`own_operations_break_laws`).
-/

namespace StateRules

/-- Whether a copy has what an entity has, apart from the state that is kept under a name: a mapping
under every key, in the same order, and an object under every name that it shows. -/
inductive Value.AgreesBesides (m : Interpretation) (name : String) : Value → Value → Prop where
  | mapping {kind kind' : MappingKind} {entries entries' : List (Value × Value)} :
      entries'.map Prod.fst = entries.map Prod.fst →
        (∀ key : Value, key.text? ≠ some name → entryOf? entries' key = entryOf? entries key) →
          AgreesBesides m name (.mapping kind entries) (.mapping kind' entries')
  | object {cls : Class} {shared fields fields' : List (String × Value)}
      {identity identity' : Identity} :
      (∀ other, cls.Shows shared fields other → other ≠ name →
        (Value.object cls shared identity' fields').read m other =
          (Value.object cls shared identity fields).read m other) →
        AgreesBesides m name (.object cls shared identity fields)
          (.object cls shared identity' fields')

/-- Whether an entity is a mapping, or an object that leaves its state alone and keeps its other
parts for its copies. -/
inductive Value.IsKept (name : String) : Value → Prop where
  | mapping (kind : MappingKind) (entries : List (Value × Value)) :
      IsKept name (.mapping kind entries)
  | object {cls : Class} {shared fields : List (String × Value)} {identity : Identity} :
      cls.Keeps shared fields name → IsKept name (.object cls shared identity fields)

/-- What an entity is copied as: a read-only mapping as a plain one, and anything else as it is. -/
def Value.copiedAs : Value → Value
  | .mapping .readOnly entries => .mapping .plain entries
  | v => v

/-- Whether an entity is compared with its copies by its parts, each of which equals itself: a
mapping, or a record or a tuple with names whose class has no say in comparing. What a record has in
its fields may have to be read first. -/
def Value.IsComparable (m : Interpretation) (v : Value) : Prop :=
  match v with
  | .mapping _ entries => hasDistinctKeys entries = true ∧ wholeEntries entries = true
  | .object cls shared _ fields =>
      shared.lookup "__eq__" = none ∧
        match cls.layout with
        | .plain => False
        | .namedTuple => ∀ field ∈ fields, field.2.isWhole = true
        | .record => (fields.map Prod.fst = cls.fields ∨ m.RecognizesWhole) ∧
            ∀ field ∈ cls.fields, ∀ item, (v.read m field).result = .ok item → item.isWhole = true
  | _ => False

section Equality

variable {m : Interpretation} {cls : Class} {shared fields fields' : List (String × Value)}
  {identity identity' : Identity} {name : String}

/-- Of two objects of a class that has no say in comparing them, the one on the left is asked, and
its parts decide. -/
theorem Value.judge_of_class (heq : shared.lookup "__eq__" = none)
    {parts : Bool → Act (Option Bool)} (hparts : parts true = pure (some true)) :
    (Value.object cls shared identity fields).judge m true (.object cls shared identity' fields')
      parts = pure true := by
  have hleads : (Value.object cls shared identity fields).leads true
      (.object cls shared identity' fields') = true := by
    unfold leads
    dsimp only
    split
    · rfl
    · rfl
  have hverdict : (Value.object cls shared identity fields).hasVerdict = false := by
    simp [hasVerdict, shared?, heq]
  have hown : (Value.object cls shared identity fields).ownVerdict? m
      (.object cls shared identity' fields') = pure none := by
    simp [ownVerdict?, verdict?, shared?, heq]
  simp [judge, hleads, hown, hverdict, hparts]

theorem Value.equals_of_namedTuple (hlayout : cls.layout = .namedTuple)
    (heq : shared.lookup "__eq__" = none) (hwhole : ∀ field ∈ fields, field.2.isWhole = true) :
    (Value.object cls shared identity fields).equals m (.object cls shared identity' fields) =
      pure true := by
  have hitems : (Value.object cls shared identity' fields).tupleItems? =
      some (fields.map Prod.snd) := by
    simp [tupleItems?, hlayout]
  rw [equals, equalsFrom]
  refine judge_of_class heq ?_
  simp [hlayout, hitems, equalFields_self m true hwhole]

theorem Act.mapM_eq_pure {α β : Type} {f : α → Act β} {g : α → β} {xs : List α}
    (h : ∀ x ∈ xs, f x = pure (g x)) : xs.mapM f = pure (xs.map g) := by
  induction xs with
  | nil => rfl
  | cons x rest ih =>
      obtain ⟨hx, hrest⟩ := List.forall_mem_cons.mp h
      rw [List.mapM_cons, hx, pure_bind, ih hrest]
      rfl

/-- A record that has exactly the fields of its class, in their order, is open. -/
theorem Class.Keeps.isOpen_iff (h : cls.Keeps shared fields name) (hlayout : cls.layout = .record) :
    (Value.object cls shared identity fields).isOpen = true ↔ fields.map Prod.fst = cls.fields := by
  have hreader : shared.lookup "__getattribute__" = none := h.spared.unread _ (by decide)
  have hclass : shared.lookup "__class__" = none := h.spared.unread _ (by decide)
  simp only [Value.isOpen, hreader, hclass, Option.isNone_none, Bool.and_true, Bool.and_eq_true,
    beq_iff_eq, and_iff_left_iff_imp, List.all_eq_true]
  intro hnames field hfield
  have hmem : field.1 ∈ cls.fields := hnames ▸ List.mem_map_of_mem hfield
  split
  · next item hitem => simp [(h.free hlayout field.1 hmem).2 item hitem]
  · rfl

/-- Two records of a class that are read to have the same in every field are equal. -/
theorem Value.equals_of_record (hlayout : cls.layout = .record)
    (hkeeps : cls.Keeps shared fields name) (hkeeps' : cls.Keeps shared fields' name)
    (heq : shared.lookup "__eq__" = none) (item : String → Value)
    (hread : ∀ field ∈ cls.fields,
      (Value.object cls shared identity fields).read m field = pure (item field))
    (hread' : ∀ field ∈ cls.fields,
      (Value.object cls shared identity' fields').read m field = pure (item field))
    (hwhole : ∀ field ∈ cls.fields, (item field).isWhole = true)
    (hopen : fields.map Prod.fst = cls.fields ∨ m.RecognizesWhole) :
    (Value.object cls shared identity fields).equals m (.object cls shared identity' fields') =
      pure true := by
  have hclass : (Value.object cls shared identity fields).sharesClass m
      (.object cls shared identity' fields') = pure true := by
    simp [sharesClass, read_class hkeeps.spared hkeeps.hands,
      read_class hkeeps'.spared hkeeps'.hands,
      same_refl]
  have hitems := Act.mapM_eq_pure hread
  have hitems' := Act.mapM_eq_pure hread'
  rw [equals, equalsFrom]
  refine judge_of_class heq ?_
  simp only [hlayout, if_true, beq_self_eq_true, Bool.and_true, hkeeps.isOpen_iff hlayout]
  split
  · next hnames =>
      have hown : ∀ field ∈ fields, item field.1 = field.2 := by
        intro field hfield
        have hmem : field.1 ∈ cls.fields := hnames ▸ List.mem_map_of_mem hfield
        have hlookup := lookup_of_mem (hnames ▸ hkeeps.declared) hfield
        have hpure : (Value.object cls shared identity fields).read m field.1 = pure field.2 :=
          read_of_lookup (hkeeps.free hlayout field.1 hmem).1 hlookup
        exact pure_inj ((hread field.1 hmem).symm.trans hpure)
      have hothers : cls.fields.map item = fields.map Prod.snd := by
        rw [← hnames, List.map_map]
        exact List.map_congr_left hown
      have hparts : equalFields m fields true (fields.map Prod.snd) = pure true :=
        equalFields_self m true fun field hfield =>
          hown field hfield ▸ hwhole field.1 (hnames ▸ List.mem_map_of_mem hfield)
      simp [hclass, hitems', hothers, hparts]
  · next hnames =>
      have hparts : resembleAll m (cls.fields.map item) (cls.fields.map item) = pure true :=
        resembleAll_self (hopen.resolve_left hnames) (by simpa using hwhole)
      simp [recordVerdict?, hclass, hitems, hitems', hparts]

/-- A tuple with names equals the copy in which the item that was read is given anew. -/
theorem Class.Succeeds.equals_of_namedTuple {state : Value}
    (h : cls.Succeeds m shared fields name state fields') (hlayout : cls.layout = .namedTuple)
    (hkeeps : cls.Keeps shared fields name) (heq : shared.lookup "__eq__" = none)
    (hread : ((Value.object cls shared identity fields).read m name).result = .ok state)
    (hwhole : ∀ field ∈ fields, field.2.isWhole = true) :
    (Value.object cls shared identity fields).equals m (.object cls shared identity' fields') =
      pure true := by
  have hset := h.set
  rw [h.names hlayout, lookup_renewed, Option.map_eq_some_iff] at hset
  obtain ⟨old, hold, -⟩ := hset
  have hsame : old = state := by
    rw [Value.read_of_lookup hkeeps.spared hold] at hread
    exact Except.ok.inj hread
  have hnames : fields' = fields := by
    rw [h.names hlayout]
    exact renewed_self (hkeeps.single (by simp [hlayout])) (hsame ▸ hold)
  rw [hnames]
  exact Value.equals_of_namedTuple hlayout heq hwhole

/-- A record equals the copy in which what was read in a field is given anew. -/
theorem Class.Succeeds.equals_of_record {state : Value}
    (h : cls.Succeeds m shared fields name state fields') (hlayout : cls.layout = .record)
    (hkeeps : cls.Keeps shared fields name) (hkeeps' : cls.Keeps shared fields' name)
    (heq : shared.lookup "__eq__" = none)
    (hread : ((Value.object cls shared identity fields).read m name).result = .ok state)
    (hwhole : ∀ field ∈ cls.fields, ∀ item,
      ((Value.object cls shared identity fields).read m field).result = .ok item →
        item.isWhole = true)
    (hopen : fields.map Prod.fst = cls.fields ∨ m.RecognizesWhole) :
    (Value.object cls shared identity fields).equals m (.object cls shared identity' fields') =
      pure true := by
  have hboth : ∀ field ∈ cls.fields, ∃ x,
      (Value.object cls shared identity fields).read m field = pure x ∧
        fields'.lookup field = some x := by
    intro field hfield
    by_cases hname : field = name
    · subst hname
      exact ⟨state, hkeeps.read_eq_pure hlayout hfield hread identity, h.set⟩
    · obtain ⟨x, hx, hlookup⟩ := h.carried hlayout field hfield hname
      exact ⟨x, hx identity, hlookup⟩
  refine Value.equals_of_record hlayout hkeeps hkeeps' heq
    (fun field => (fields'.lookup field).getD .null) (fun field hfield => ?_)
    (fun field hfield => ?_) (fun field hfield => ?_) hopen
  · obtain ⟨x, hx, hlookup⟩ := hboth field hfield
    rw [hx, hlookup, Option.getD_some]
  · obtain ⟨x, _, hlookup⟩ := hboth field hfield
    rw [Value.read_of_lookup (hkeeps.free hlayout field hfield).1 hlookup, hlookup,
      Option.getD_some]
  · obtain ⟨x, hx, hlookup⟩ := hboth field hfield
    rw [hlookup, Option.getD_some]
    exact hwhole field hfield x (congrArg Act.result hx)

/-- A mapping equals the mapping with the same entries that it is copied as. -/
theorem Value.equals_of_mapping {kind kind' : MappingKind} {entries : List (Value × Value)}
    (hkind : kind' = if kind = .ordered then .ordered else .plain)
    (hkeys : hasDistinctKeys entries = true) (hwhole : wholeEntries entries = true) :
    (Value.mapping kind entries).equals m (.mapping kind' entries) = pure true := by
  have hparts := equalEntries_self m entries entries (fun _ hentry => hentry) hkeys hwhole
  have horder (kind kind' : MappingKind) : sameOrder kind kind' entries entries = true := by
    simp [sameOrder, sameItems_refl]
  rw [equals, equalsFrom]
  cases kind <;> obtain rfl := hkind <;>
    simp [judge, leads, ownVerdict?, verdict?, shared?, hasVerdict, MappingKind.precedence,
      claimedFields?, hparts, horder]

end Equality

namespace Accessor

/-- Whether a copy is read to have what an entity has, its state included. -/
structure ReadsAlike (m : Interpretation) (accessor : Accessor) (name : String) (v copy : Value) :
    Prop where
  state : (accessor.get m copy).result = (accessor.get m v).result
  others : v.AgreesBesides m name copy

/-- The laws of a lens, for an accessor that reads and writes the state that an entity keeps under a
name. -/
structure IsLensOn (m : Interpretation) (accessor : Accessor) (name : String) (v : Value) :
    Prop where
  returns : ∀ state, ∃ copy, (accessor.set m v state).result = .ok copy
  get_set : ∀ {state copy}, (accessor.set m v state).result = .ok copy →
    (accessor.get m copy).result = .ok state
  set_set : ∀ {state copy state' copy' direct}, (accessor.set m v state).result = .ok copy →
    (accessor.set m copy state').result = .ok copy' →
      (accessor.set m v state').result = .ok direct →
      accessor.ReadsAlike m name direct copy'
  others : ∀ {state copy}, (accessor.set m v state).result = .ok copy → v.AgreesBesides m name copy
  set_get : ∀ {state copy}, (accessor.get m v).result = .ok state →
    (accessor.set m v state).result = .ok copy →
      accessor.ReadsAlike m name v copy ∧ (v.IsComparable m → v.equals m copy = pure true)
  type : ∀ {state copy}, (accessor.set m v state).result = .ok copy → copy.type = v.copiedAs.type

/-- Whether an entity that keeps its state under a name has one, and can be copied with another. -/
structure IsReady (m : Interpretation) (accessor : Accessor) (name : String) (v : Value) :
    Prop where
  kept : v.IsKept name
  readable : ∃ state, (accessor.get m v).result = .ok state
  writable : ∃ state copy, (accessor.set m v state).result = .ok copy

variable {m : Interpretation} {attr : Value} {name : String} {v state state' copy : Value}
  {cls : Class} {shared fields : List (String × Value)} {identity : Identity}

/-- A copy of an entity is ready for being copied in turn, and it has the state that it was
given. -/
theorem IsReady.after (hattr : attr.text? = some name) (h : IsReady m (field attr name) name v)
    (hset : ((field attr name).set m v state).result = .ok copy) :
    IsReady m (field attr name) name copy ∧ ((field attr name).get m copy).result = .ok state := by
  obtain ⟨hkept, -, -⟩ := h
  cases hkept with
  | mapping kind entries =>
      obtain rfl := Except.ok.inj hset
      have hentry := entryOf?_writeEntry entries attr state
      have hget : ((field attr name).get m (.mapping (if kind = .ordered then .ordered else .plain)
          (writeEntry entries attr state))).result = .ok state :=
        Act.result_ofOption_eq_ok_iff.mpr hentry
      exact ⟨⟨.mapping _ _, ⟨_, hget⟩, ⟨state, _, rfl⟩⟩, hget⟩
  | @object cls shared fields identity hkeeps =>
      obtain ⟨fields', rfl, hkeeps', hsucceeds⟩ := Value.succeeds_of_withField hattr hkeeps hset
      have hget : ((field attr name).get m (.object cls shared identity.copy fields')).result =
          .ok state :=
        congrArg Act.result (readField_of_lookup hkeeps'.spared hkeeps'.hands attr hsucceeds.set)
      have hnames : cls.layout = .namedTuple → fields'.map Prod.fst = fields.map Prod.fst := by
        intro hlayout
        rw [hsucceeds.names hlayout, map_fst_renewed]
      have hread : cls.layout = .record → ∀ field ∈ cls.fields, field ≠ name →
          ∃ x, ((Value.object cls shared identity.copy fields').read m field).result = .ok x := by
        intro hlayout field hfield hne
        obtain ⟨x, _, hlookup⟩ := hsucceeds.carried hlayout field hfield hne
        have hspares : cls.Spares shared field := (hkeeps.free hlayout field hfield).1
        exact ⟨x, congrArg Act.result (Value.read_of_lookup hspares hlookup)⟩
      have hwritable : ∃ w, ((field attr name).set m (.object cls shared identity.copy fields')
          state).result = .ok w := Value.exists_withField hattr hkeeps hkeeps' hnames hread hset
      exact ⟨⟨.object hkeeps', ⟨state, hget⟩, ⟨state, hwritable⟩⟩, hget⟩

/-- An entity that can be copied with one state can be copied with any. -/
theorem IsReady.returns (hattr : attr.text? = some name) (h : IsReady m (field attr name) name v)
    (state : Value) : ∃ copy, ((field attr name).set m v state).result = .ok copy := by
  obtain ⟨hkept, -, item, copy, hset⟩ := h
  cases hkept with
  | mapping kind entries => exact ⟨_, rfl⟩
  | object hkeeps =>
      exact Value.exists_withField hattr hkeeps hkeeps (fun _ => rfl)
        (fun hlayout field hfield hne =>
          Value.exists_read_of_withField hattr hkeeps hlayout hset hfield hne)
        hset

theorem IsReady.others (hattr : attr.text? = some name) (h : IsReady m (field attr name) name v)
    (hset : ((field attr name).set m v state).result = .ok copy) : v.AgreesBesides m name copy := by
  obtain ⟨hkept, ⟨old, hget⟩, -⟩ := h
  cases hkept with
  | mapping kind entries =>
      obtain rfl := Except.ok.inj hset
      have hold : entryOf? entries attr = some old := Act.result_ofOption_eq_ok_iff.mp hget
      exact .mapping (map_fst_writeEntry hold) fun key hkey =>
        entryOf?_writeEntry_of_ne hattr hkey entries state
  | object hkeeps =>
      obtain ⟨fields', rfl, _, hsucceeds⟩ := Value.succeeds_of_withField hattr hkeeps hset
      exact .object fun other hshows hne => hsucceeds.read_eq hkeeps _ hshows hne

theorem IsReady.type (hattr : attr.text? = some name) (h : IsReady m (field attr name) name v)
    (hset : ((field attr name).set m v state).result = .ok copy) :
    copy.type = v.copiedAs.type := by
  obtain ⟨hkept, -, -⟩ := h
  cases hkept with
  | mapping kind entries =>
      obtain rfl := Except.ok.inj hset
      cases kind <;> rfl
  | object hkeeps =>
      obtain ⟨_, rfl, _⟩ := Value.succeeds_of_withField hattr hkeeps hset
      rfl

theorem IsReady.set_set (hattr : attr.text? = some name) (h : IsReady m (field attr name) name v)
    {copy' direct : Value} (hset : ((field attr name).set m v state).result = .ok copy)
    (hset' : ((field attr name).set m copy state').result = .ok copy')
    (hdirect : ((field attr name).set m v state').result = .ok direct) :
    (field attr name).ReadsAlike m name direct copy' := by
  obtain ⟨hready, _⟩ := h.after hattr hset
  refine ⟨(hready.after hattr hset').2.trans (h.after hattr hdirect).2.symm, ?_⟩
  obtain ⟨hkept, -, -⟩ := h
  cases hkept with
  | mapping kind entries =>
      obtain rfl := Except.ok.inj hset
      obtain rfl := Except.ok.inj hset'
      obtain rfl := Except.ok.inj hdirect
      rw [writeEntry_writeEntry]
      exact .mapping rfl fun _ _ => rfl
  | object hkeeps =>
      obtain ⟨fields₁, rfl, hkeeps₁, hfirst⟩ := Value.succeeds_of_withField hattr hkeeps hset
      obtain ⟨fields₂, rfl, _, hsecond⟩ := Value.succeeds_of_withField hattr hkeeps₁ hset'
      obtain ⟨fields', rfl, _, honce⟩ := Value.succeeds_of_withField hattr hkeeps hdirect
      refine .object fun other hshows hne => ?_
      have hdict : other ≠ "__dict__" := fun heq => hshows.apart (heq ▸ by decide)
      exact Value.read_congr hkeeps.spared hkeeps.unsupplied hdict hshows.unbound
        (hfirst.lookup_eq hsecond honce hkeeps other).symm

/-- A state that an ordinary object is read to have is what reading its field gives. -/
theorem result_readField (h : cls.Spares shared name)
    (hfields : ∀ hand ∈ handNames, fields.lookup hand = none)
    (hget : ((field attr name).get m (.object cls shared identity fields)).result = .ok state) :
    ((Value.object cls shared identity fields).read m name).result = .ok state := by
  have hmapping : (Value.object cls shared identity fields).isMapping m = pure false :=
    Value.isMapping_of_spares h hfields
  have hget : (readField attr name m (.object cls shared identity fields)).result = .ok state :=
    hget
  simp only [readField, hmapping, pure_bind, Bool.false_eq_true, if_false] at hget
  obtain ⟨there, _, hget⟩ := Act.result_bind_eq_ok_iff.mp hget
  split at hget
  · exact hget
  · cases hget

/-- Writing the state that was read makes a copy that equals the entity, if these can be
compared. -/
theorem IsReady.equals (hattr : attr.text? = some name) (h : IsReady m (field attr name) name v)
    (hget : ((field attr name).get m v).result = .ok state)
    (hset : ((field attr name).set m v state).result = .ok copy) (hcomparable : v.IsComparable m) :
    v.equals m copy = pure true := by
  obtain ⟨hkept, -, -⟩ := h
  cases hkept with
  | mapping kind entries =>
      obtain rfl := Except.ok.inj hset
      have hold : entryOf? entries attr = some state := Act.result_ofOption_eq_ok_iff.mp hget
      rw [writeEntry_of_entryOf? hold]
      exact Value.equals_of_mapping rfl hcomparable.1 hcomparable.2
  | @object cls shared fields identity hkeeps =>
      have hread := result_readField hkeeps.spared hkeeps.hands hget
      obtain ⟨fields', rfl, hkeeps', hsucceeds⟩ := Value.succeeds_of_withField hattr hkeeps hset
      obtain ⟨heq, hparts⟩ := hcomparable
      cases hlayout : cls.layout with
      | plain => simp [hlayout] at hparts
      | namedTuple =>
          have hwhole : ∀ field ∈ fields, field.2.isWhole = true := by simpa [hlayout] using hparts
          exact hsucceeds.equals_of_namedTuple hlayout hkeeps heq hread hwhole
      | record =>
          obtain ⟨hopen, hwhole⟩ : (fields.map Prod.fst = cls.fields ∨ m.RecognizesWhole) ∧
              ∀ field ∈ cls.fields, ∀ item,
                ((Value.object cls shared identity fields).read m field).result = .ok item →
                  item.isWhole = true := by
            simpa [hlayout] using hparts
          exact hsucceeds.equals_of_record hlayout hkeeps hkeeps' heq hread hwhole hopen

/-- An entity that is ready obeys the laws of a lens. -/
theorem IsReady.isLensOn (hattr : attr.text? = some name) (h : IsReady m (field attr name) name v) :
    (field attr name).IsLensOn m name v where
  returns := h.returns hattr
  get_set hset := (h.after hattr hset).2
  set_set hset hset' hdirect := h.set_set hattr hset hset' hdirect
  others hset := h.others hattr hset
  set_get hget hset := by
    have hstate := (h.after hattr hset).2
    exact ⟨⟨hstate.trans hget.symm, h.others hattr hset⟩, h.equals hattr hget hset⟩
  type hset := h.type hattr hset

theorem IsReady.of_isCopy (hattr : attr.text? = some name) {entity : Value}
    (h : IsReady m (field attr name) name entity) (hv : IsCopy m (field attr name) entity v) :
    IsReady m (field attr name) name v := by
  induction hv with
  | self => exact h
  | set _ hset ih => exact (ih.after hattr hset).1

/-- The accessor for a field is a lens on every entity that keeps its parts for its copies, has a
state and can be copied with another, and on all copies of it that are made by the accessor. -/
theorem field_accessor_is_lens {accessor : Accessor} {entity : Value}
    (haccessor : (ofField m attr).result = .ok accessor) (hattr : attr.text? = some name)
    (hentity : entity.IsKept name) (hget : (accessor.get m entity).result = .ok state)
    (hset : (accessor.set m entity state').result = .ok copy) :
    ∀ v, IsCopy m accessor entity v → accessor.IsLensOn m name v := by
  obtain ⟨other, hother, rfl⟩ := ofField_eq_ok haccessor
  obtain rfl : name = other := Option.some.inj (hattr.symm.trans hother)
  have hready : IsReady m (field attr name) name entity :=
    ⟨hentity, ⟨state, hget⟩, ⟨state', copy, hset⟩⟩
  exact fun v hv => (hready.of_isCopy hattr hv).isLensOn hattr

/-- A crate of some size, whose class says that it is new until it is something else. -/
def crate : Value :=
  .object ⟨"Crate", "Crate", .plain, [], [], [], "", none, false, false, true⟩
    [("state", .text "new")]
    ⟨1, 0⟩ [("size", .integer 1)]

theorem isKept_crate : crate.IsKept "state" := by
  have hunshared : ∀ hand ∈ handNames, [("state", Value.text "new")].lookup hand = none :=
    lookup_of_apart ["state"] rfl (by decide)
  have hkept (item : Value) (hitem : [("state", Value.text "new")].lookup "state" = some item) :
      Layout.plain ≠ .namedTuple ∧ item.governsSetting = false := by
    obtain rfl := Option.some.inj hitem
    exact ⟨by decide, rfl⟩
  exact .object ⟨Class.spares_of_unshared (by decide) (by simp) hunshared (by simp) hkept, rfl,
    lookup_of_apart ["size"] rfl (by decide), by simp, by simp, by simp, by simp⟩

/-- The laws hold of a crate that was sent, which has come by a state of its own. -/
theorem field_accessor_is_lens_crate :
    ∃ copy, (standard.set .exhausted crate (.text "sent")).result = .ok copy ∧
      standard.IsLensOn .exhausted "state" copy := by
  have hset : (standard.set .exhausted crate (.text "sent")).result = .ok _ := rfl
  have haccessor : (ofField .exhausted (.text "state")).result = .ok standard := rfl
  have hattr : (Value.text "state").text? = some "state" := rfl
  have hget : (standard.get .exhausted crate).result = .ok (.text "new") := rfl
  refine ⟨_, hset, ?_⟩
  exact field_accessor_is_lens haccessor hattr isKept_crate hget hset _ (.set .self hset)

/-- The laws need not hold where a class brings an operation of its own, as that of a loan, which
gives something else for a copy of it, or where all fields are given anew at once, as those of a
crate, which loses the ones that it had. -/
theorem own_operations_break_laws :
    (∃ accessor copy, (ofField losing (.text "entity")).result = .ok accessor ∧
      (accessor.get losing loan).result = .ok (.text "new") ∧
      (accessor.set losing loan (.text "paid")).result = .ok copy ∧
      (accessor.get losing copy).result = .ok (.text "lost")) ∧
    ∃ accessor copy, (ofField .exhausted (.text "__dict__")).result = .ok accessor ∧
      (accessor.get .exhausted crate).result = .ok (namesTo [("size", .integer 1)]) ∧
      (accessor.set .exhausted crate (.mapping .plain [])).result = .ok copy ∧
      (crate.read .exhausted "size").result = .ok (.integer 1) ∧
      (copy.read .exhausted "size").result = .error (.noAttribute "Crate" "size") := by
  refine ⟨⟨_, _, rfl, rfl, rfl, rfl⟩, _, _, rfl, rfl, rfl, rfl, rfl⟩

end Accessor

end StateRules
