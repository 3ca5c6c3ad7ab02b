import StateRules.Proofs.Entity.ReadBack
import StateRules.Proofs.Entity.Renewal

/-!
What an entity and a copy with another state have in common.

A copy of a mapping has the same keys in the same places, and what it has under any key but the one
of the state is as it was (`entryOf?_writeEntry_of_ne`). A copy of an object holds the new state in
its field and is read to have the same as the object in all others (`Class.Succeeds.read_eq`);
making a copy of a copy comes to the same as making one at once (`Class.Succeeds.lookup_eq`).
-/

namespace StateRules

section Mappings

variable {key item other : Value} {name : String} {entries : List (Value × Value)}

/-- A member that counts as a text does not count as a number. -/
theorem Member.integer?_of_text? {m : Member} (h : m.text? = some name) : m.integer? = none := by
  obtain ⟨⟨_, nature, _⟩, _, payload⟩ := m
  cases nature <;> cases payload <;> first | rfl | cases h

theorem Value.scalar?_eq_text_iff {v : Value} :
    v.scalar? = some (.text name) ↔ v.text? = some name := by
  cases v with
  | member m =>
      cases hs : m.text? with
      | none => cases hn : m.integer? <;> simp [scalar?, text?, hs, hn]
      | some s => simp [scalar?, text?, hs, Member.integer?_of_text? hs]
  | object cls shared identity fields =>
      cases hlayout : cls.layout <;> simp [scalar?, text?, hlayout]
  | _ => simp [scalar?, text?]

/-- A value that counts as a text is the same as whatever counts as that text. -/
theorem Value.same_of_text? (hkey : key.text? = some name) :
    key.same other = decide (other.text? = some name) := by
  have hsame : key.same other = key.sameScalar other := by
    cases key with
    | text s => simp [same]
    | member m => simp [same]
    | _ => cases hkey
  have hscalar : key.scalar? = some (.text name) := scalar?_eq_text_iff.mpr hkey
  rw [hsame, sameScalar, hscalar, Bool.eq_iff_iff, decide_eq_true_eq, ← scalar?_eq_text_iff]
  cases other.scalar? with
  | none => simp
  | some scalar => simpa using eq_comm

/-- Only what counts as a text is the same as a value that counts as the text. -/
theorem Value.text?_of_same (hkey : key.text? = some name) (h : other.same key = true) :
    other.text? = some name := by
  have hscalar : key.scalar? = some (.text name) := scalar?_eq_text_iff.mpr hkey
  have htuple : key.tupleItems? = none := by
    cases key with
    | object _ _ _ _ => cases hkey
    | tuple _ => cases hkey
    | _ => rfl
  rw [← scalar?_eq_text_iff]
  cases other with
  | list _ | mapping _ _ | token _ | declaration _ =>
      cases key with
      | text _ => simp [same] at h
      | member _ => simp [same] at h
      | _ => cases hkey
  | tuple _ => simp [same, htuple] at h
  | object cls shared identity fields =>
      cases hlayout : cls.layout with
      | plain => simp [same, hlayout, hscalar] at h
      | namedTuple => simp [same, hlayout, htuple] at h
      | record =>
          cases key with
          | text _ => simp [same, hlayout] at h
          | member _ => simp [same, hlayout] at h
          | _ => cases hkey
  | _ =>
      simp only [same, sameScalar, hscalar] at h
      split at h
      · next hown hother =>
          obtain rfl := Option.some.inj hother
          rw [hown, of_decide_eq_true h]
      · cases h

/-- Where a mapping has something under a key, writing there changes neither the keys nor their
order. -/
theorem map_fst_writeEntry {old : Value} (h : entryOf? entries key = some old) :
    (writeEntry entries key item).map Prod.fst = entries.map Prod.fst := by
  induction entries with
  | nil => cases h
  | cons entry rest ih =>
      obtain ⟨own, kept⟩ := entry
      rw [writeEntry]
      cases hsame : own.same key with
      | true => simp
      | false =>
          have hrest : entryOf? rest key = some old := by simpa [entryOf?, hsame] using h
          simpa using ih hrest

/-- Of two items written under a key, the second counts. -/
theorem writeEntry_writeEntry (entries : List (Value × Value)) (key first second : Value) :
    writeEntry (writeEntry entries key first) key second = writeEntry entries key second := by
  induction entries with
  | nil => simp [writeEntry, key.same_refl]
  | cons entry rest ih =>
      obtain ⟨own, kept⟩ := entry
      cases hsame : own.same key <;> simp [writeEntry, hsame, ih]

/-- Writing what is there changes nothing. -/
theorem writeEntry_of_entryOf? (h : entryOf? entries key = some item) :
    writeEntry entries key item = entries := by
  induction entries with
  | nil => cases h
  | cons entry rest ih =>
      obtain ⟨own, kept⟩ := entry
      cases hsame : own.same key with
      | true =>
          have hkept : kept = item := by simpa [entryOf?, hsame] using h
          simp [writeEntry, hsame, hkept]
      | false =>
          have hrest : entryOf? rest key = some item := by simpa [entryOf?, hsame] using h
          simp [writeEntry, hsame, ih hrest]

/-- Writing under a text leaves alone what a mapping has under anything but that text. -/
theorem entryOf?_writeEntry_of_ne (hkey : key.text? = some name) (hother : other.text? ≠ some name)
    (entries : List (Value × Value)) (item : Value) :
    entryOf? (writeEntry entries key item) other = entryOf? entries other := by
  have hapart {own : Value} (hown : own.text? = some name) : own.same other = false := by
    simpa [Value.same_of_text? hown] using hother
  induction entries with
  | nil => simp [writeEntry, entryOf?, hapart hkey]
  | cons entry rest ih =>
      obtain ⟨own, kept⟩ := entry
      rw [writeEntry]
      cases hsame : own.same key with
      | true =>
          have hown : own.same other = false := hapart (Value.text?_of_same hkey hsame)
          simp [entryOf?, hown]
      | false =>
          cases hown : own.same other with
          | true => simp [entryOf?, hown]
          | false => simpa [entryOf?, hown] using ih

end Mappings

section Fields

variable {cls : Class} {fields : List (String × Value)} {name : String} {item : Value}

theorem nodup_writeField (h : (fields.map Prod.fst).Nodup) :
    ((writeField fields name item).map Prod.fst).Nodup := by
  have hnames : (writeField fields name item).map Prod.fst =
      if name ∈ fields.map Prod.fst then fields.map Prod.fst
      else fields.map Prod.fst ++ [name] := by
    clear h
    induction fields with
    | nil => rfl
    | cons field rest ih =>
        obtain ⟨own, old⟩ := field
        rw [writeField]
        by_cases hown : own = name
        · simp [hown]
        · have hne : name ≠ own := Ne.symm hown
          by_cases hmem : name ∈ rest.map Prod.fst <;> simp_all
  rw [hnames]
  split
  · exact h
  · next hmem =>
      refine List.nodup_append.mpr ⟨h, by simp, ?_⟩
      rintro other hother _ hname rfl
      exact hmem (List.mem_singleton.mp hname ▸ hother)

theorem nodup_foldl_writeField (given : List (String × Value)) (h : (fields.map Prod.fst).Nodup) :
    ((given.foldl (fun kept (n, x) => writeField kept n x) fields).map Prod.fst).Nodup := by
  induction given generalizing fields with
  | nil => exact h
  | cons field rest ih => exact ih (nodup_writeField h)

theorem Class.nodup_arrange (hcls : cls.fields.Nodup) (h : (fields.map Prod.fst).Nodup) :
    ((cls.arrange fields).map Prod.fst).Nodup := by
  have hfirst : (cls.fields.filterMap fun name =>
      (fields.lookup name).map fun item => (name, item)).map Prod.fst =
        cls.fields.filter fun name => (fields.lookup name).isSome := by
    induction cls.fields with
    | nil => rfl
    | cons own rest ih => cases hitem : fields.lookup own <;> simp [hitem, ih]
  have hrest : (fields.filter fun field => !cls.fields.contains field.1).map Prod.fst =
      (fields.map Prod.fst).filter fun name => !cls.fields.contains name := by
    rw [List.filter_map]
    rfl
  rw [arrange, List.map_append, hfirst, hrest]
  refine List.nodup_append.mpr ⟨hcls.filter _, h.filter _, ?_⟩
  rintro own hown _ hother rfl
  have hmem : own ∈ cls.fields := List.mem_of_mem_filter hown
  simp [hmem] at hother

theorem lookup_of_mem (h : (fields.map Prod.fst).Nodup) (hmem : (name, item) ∈ fields) :
    fields.lookup name = some item := by
  induction fields with
  | nil => cases hmem
  | cons field rest ih =>
      obtain ⟨own, old⟩ := field
      obtain ⟨hown, hrest⟩ := List.nodup_cons.mp h
      rw [lookup_cons_field]
      rcases List.mem_cons.mp hmem with heq | hmem
      · obtain ⟨rfl, rfl⟩ := Prod.mk.inj heq
        exact if_pos rfl
      · have hne : name ≠ own := fun heq => hown (List.mem_map.mpr ⟨_, hmem, heq⟩)
        rw [if_neg hne, ih hrest hmem]

/-- Giving anew what is there changes nothing. -/
theorem renewed_self (h : (fields.map Prod.fst).Nodup) (hitem : fields.lookup name = some item) :
    renewed fields name item = fields := by
  have hfield (field : String × Value) (hmem : field ∈ fields) :
      (field.1, if field.1 = name then item else field.2) = field := by
    obtain ⟨own, old⟩ := field
    by_cases hown : own = name
    · have hold := lookup_of_mem h hmem
      rw [hown, hitem] at hold
      simp [hown, Option.some.inj hold]
    · simp [hown]
  exact (List.map_congr_left hfield).trans (List.map_id fields)

end Fields

section Objects

variable {m : Interpretation} {cls : Class}
  {shared fields fields₁ fields₂ fields' : List (String × Value)}
  {identity : Identity} {name : String} {item item' w : Value}

theorem pure_inj {a b : Value} (h : (pure a : Act Value) = pure b) : a = b :=
  Except.ok.inj (congrArg Act.result h)

/-- What the fields of a copy hold, in which an item is given anew under a name: a record has what
was read on the record that was copied, any other object has what the object had. -/
structure Class.Succeeds (m : Interpretation) (cls : Class) (shared fields : List (String × Value))
    (name : String) (item : Value) (fields' : List (String × Value)) : Prop where
  set : fields'.lookup name = some item
  names : cls.layout = .namedTuple → fields' = renewed fields name item
  others : cls.layout ≠ .record → ∀ other, other ≠ name → fields'.lookup other = fields.lookup other
  carried : cls.layout = .record → ∀ field ∈ cls.fields, field ≠ name →
    ∃ x, (∀ identity, (Value.object cls shared identity fields).read m field = pure x) ∧
      fields'.lookup field = some x
  bare : cls.layout = .record → ∀ other, other ∉ cls.fields → fields'.lookup other = none

/-- Whether an object is read to have under a name what its copies are read to have: neither it nor
its class uses the name for anything else, and a record declares it or has nothing there itself. -/
structure Class.Shows (cls : Class) (shared fields : List (String × Value)) (name : String) :
    Prop where
  apart : name ∉ handNames
  unbound : ∀ item, shared.lookup name = some item → item.isBinding = false
  declared : cls.layout = .record → name ∈ cls.fields ∨ fields.lookup name = none

theorem Class.Keeps.read_eq_pure (h : cls.Keeps shared fields name) (hlayout : cls.layout = .record)
    {field : String} (hfield : field ∈ cls.fields) {x : Value}
    (hread : ((Value.object cls shared identity fields).read m field).result = .ok x)
    (identity' : Identity) : (Value.object cls shared identity' fields).read m field = pure x := by
  obtain ⟨hspares, hunbound⟩ := h.free hlayout field hfield
  have hattr : (Value.object cls shared identity fields).attr? field = some x := by
    rw [Value.read_of_unbound hspares h.unsupplied hunbound] at hread
    exact Act.result_ofOption_eq_ok_iff.mp hread
  have hdict : field ≠ "__dict__" := hspares.ne_of_mem (by decide)
  rw [Value.read_of_unbound hspares h.unsupplied hunbound, Value.attr?_congr hdict rfl, hattr]
  rfl

/-- A record that is made anew succeeds the one that it is a copy of. -/
theorem Class.Remade.succeeds (hkeeps : cls.Keeps shared fields name)
    (hlayout : cls.layout = .record)
    (h : cls.Remade m shared (.object cls shared identity fields) name item fields') :
    cls.Succeeds m shared fields name item fields' where
  set := h.set hkeeps.spared.leavesSetting
  names htuple := by simp [hlayout] at htuple
  others hnot := absurd hlayout hnot
  carried _ field hfield hne := by
    obtain ⟨x, hx, hheld⟩ := h.carried field (hkeeps.mem_initial hlayout hfield) hne
    have hlookup := hheld (hkeeps.free hlayout field hfield).1.leavesSetting
    exact ⟨x, hkeeps.read_eq_pure hlayout hfield hx, hlookup⟩
  bare _ other hother := h.bare other fun hmem => hother (List.mem_of_mem_filter hmem)

/-- A tuple with names is succeeded by its items with one of them given anew. -/
theorem Class.succeeds_renewed (hkeeps : cls.Keeps shared fields name)
    (hlayout : cls.layout = .namedTuple) (hmem : name ∈ fields.map Prod.fst) :
    cls.Succeeds m shared fields name item (renewed fields name item) where
  set := by
    obtain ⟨⟨own, old⟩, hfield, rfl⟩ := List.mem_map.mp hmem
    have hold := lookup_of_mem (hkeeps.single (by simp [hlayout])) hfield
    rw [lookup_renewed, hold, Option.map_some, if_pos rfl]
  names _ := rfl
  others _ other hne := by simp [lookup_renewed, hne]
  carried hrecord := by simp [hlayout] at hrecord
  bare hrecord := by simp [hlayout] at hrecord

/-- Any other object is succeeded by its fields with an item set in one of them. -/
theorem Class.succeeds_transcribed (hkeeps : cls.Keeps shared fields name)
    (hlayout : cls.layout = .plain) :
    cls.Succeeds m shared fields name item
      (cls.arrange (writeField (cls.transcribed fields) name item)) where
  set := (cls.setsField_arrange shared _ name item).set hkeeps.spared.leavesSetting
  names htuple := by simp [hlayout] at htuple
  others _ other hne := by
    have hsingle := hkeeps.single (by simp [hlayout])
    rw [(cls.setsField_arrange shared _ name item).others other hne, lookup_transcribed,
      lookup_reverse_of_nodup hsingle]
  carried hrecord := by simp [hlayout] at hrecord
  bare hrecord := by simp [hlayout] at hrecord

/-- What succeeds an object is kept in turn. -/
theorem Class.Succeeds.keeps (h : cls.Succeeds m shared fields name item fields')
    (hkeeps : cls.Keeps shared fields name)
    (hsingle : cls.layout ≠ .record → (fields'.map Prod.fst).Nodup) :
    cls.Keeps shared fields' name where
  spared := hkeeps.spared
  unsupplied := hkeeps.unsupplied
  hands hand hhand := by
    have hne : hand ≠ name := Ne.symm (hkeeps.spared.ne_of_mem hhand)
    by_cases hlayout : cls.layout = .record
    · exact h.bare hlayout hand (hkeeps.spared.declared hand hhand)
    · rw [h.others hlayout hand hne, hkeeps.hands hand hhand]
  declared := hkeeps.declared
  single := hsingle
  initial := hkeeps.initial
  free := hkeeps.free

theorem map_fst_renewed (fields : List (String × Value)) (name : String) (item : Value) :
    (renewed fields name item).map Prod.fst = fields.map Prod.fst := by
  simp [renewed, Function.comp_def]

/-- However an object is copied, the copy succeeds it, and its parts are kept as well. -/
theorem Value.succeeds_of_withField {key : Value} (hkey : key.text? = some name)
    (hkeeps : cls.Keeps shared fields name)
    (hcopy : ((Value.object cls shared identity fields).withField m key name item).result = .ok w) :
    ∃ fields', w = .object cls shared identity.copy fields' ∧ cls.Keeps shared fields' name ∧
      cls.Succeeds m shared fields name item fields' := by
  cases hlayout : cls.layout with
  | record =>
      obtain ⟨fields', rfl, hremade⟩ :=
        remade_of_withField hkeeps.spared hkeeps.hands hlayout hkey hcopy
      have hsucceeds := hremade.succeeds hkeeps hlayout
      exact ⟨fields', rfl, hsucceeds.keeps hkeeps fun hnot => absurd hlayout hnot, hsucceeds⟩
  | namedTuple =>
      obtain ⟨hmem, rfl⟩ := (withField_namedTuple hkeeps.spared hkeeps.hands hlayout key).mp hcopy
      have hsucceeds : cls.Succeeds m shared fields name item (renewed fields name item) :=
        Class.succeeds_renewed hkeeps hlayout hmem
      have hsingle (hnot : cls.layout ≠ .record) :
          ((renewed fields name item).map Prod.fst).Nodup := by
        rw [map_fst_renewed]
        exact hkeeps.single hnot
      exact ⟨_, rfl, hsucceeds.keeps hkeeps hsingle, hsucceeds⟩
  | plain =>
      rw [withField_plain hkeeps.spared hkeeps.hands hlayout hkeeps.unsupplied] at hcopy
      obtain ⟨_, rfl⟩ := (result_setDirectly_eq_ok_iff hkeeps.spared (by simp [hlayout])).mp hcopy
      have hsucceeds : cls.Succeeds m shared fields name item _ :=
        Class.succeeds_transcribed hkeeps hlayout
      have htranscribed : ((cls.transcribed fields).map Prod.fst).Nodup :=
        Class.nodup_arrange hkeeps.declared (nodup_foldl_writeField fields (by simp))
      have hsingle : ((cls.arrange (writeField (cls.transcribed fields) name item)).map
          Prod.fst).Nodup :=
        Class.nodup_arrange hkeeps.declared (nodup_writeField htranscribed)
      exact ⟨_, rfl, hsucceeds.keeps hkeeps fun _ => hsingle, hsucceeds⟩

namespace Class.Succeeds

/-- Copying a copy comes to the same as copying at once, as far as the last item goes. -/
theorem lookup_eq (hfirst : cls.Succeeds m shared fields name item fields₁)
    (hsecond : cls.Succeeds m shared fields₁ name item' fields₂)
    (hdirect : cls.Succeeds m shared fields name item' fields')
    (hkeeps : cls.Keeps shared fields name)
    (other : String) : fields'.lookup other = fields₂.lookup other := by
  by_cases hname : other = name
  · rw [hname, hdirect.set, hsecond.set]
  by_cases hlayout : cls.layout = .record
  · by_cases hfield : other ∈ cls.fields
    · obtain ⟨x, hread, hlookup⟩ := hfirst.carried hlayout other hfield hname
      obtain ⟨y, hread₁, hlookup₂⟩ := hsecond.carried hlayout other hfield hname
      obtain ⟨z, hread', hlookup'⟩ := hdirect.carried hlayout other hfield hname
      have hcopied : (Value.object cls shared .none fields₁).read m other = pure x :=
        Value.read_of_lookup (hkeeps.free hlayout other hfield).1 hlookup
      have hsame : y = x := pure_inj ((hread₁ .none).symm.trans hcopied)
      have hsame' : z = x := pure_inj ((hread' .none).symm.trans (hread .none))
      rw [hlookup', hlookup₂, hsame, hsame']
    · rw [hdirect.bare hlayout other hfield, hsecond.bare hlayout other hfield]
  · rw [hdirect.others hlayout other hname, hsecond.others hlayout other hname,
      hfirst.others hlayout other hname]

/-- A copy is read to have under any other name what the object has there. -/
theorem read_eq (h : cls.Succeeds m shared fields name item fields')
    (hkeeps : cls.Keeps shared fields name)
    (identity' : Identity) {other : String} (hshows : cls.Shows shared fields other)
    (hne : other ≠ name) :
    (Value.object cls shared identity' fields').read m other =
      (Value.object cls shared identity fields).read m other := by
  have hdict : other ≠ "__dict__" := fun heq => hshows.apart (heq ▸ by decide)
  by_cases hlayout : cls.layout = .record
  · by_cases hfield : other ∈ cls.fields
    · obtain ⟨x, hread, hlookup⟩ := h.carried hlayout other hfield hne
      rw [hread, Value.read_of_lookup (hkeeps.free hlayout other hfield).1 hlookup]
    · have hnone : fields.lookup other = none := (hshows.declared hlayout).resolve_left hfield
      exact Value.read_congr hkeeps.spared hkeeps.unsupplied hdict hshows.unbound
        ((h.bare hlayout other hfield).trans hnone.symm)
  · exact Value.read_congr hkeeps.spared hkeeps.unsupplied hdict hshows.unbound
      (h.others hlayout other hne)

end Class.Succeeds

end Objects

end StateRules
