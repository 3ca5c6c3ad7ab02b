import StateRules.Proofs.Journal
import StateRules.Guard

/-!
Values that equal themselves.

A part of a value is not compared with itself if it is one and the same object, or one and the same
undefined number. Any other part is, and it may contain something that does not equal itself: a
mapping with one key in two places, or a token that is written by an undefined number. A value
without such parts is whole (`Value.isWhole`). No class has a say in comparing it with itself, and
it is found to be equal to itself (`Value.equalsFrom_self`), as are any two lists of whole values
that are the same (`equalFields_self`, `Value.resembleAll_self`).
-/

namespace StateRules

/-- Whether the keys of a mapping differ from each other, whichever of two is compared with the
other. -/
def hasDistinctKeys : List (Value × Value) → Bool
  | [] => true
  | (key, _) :: rest =>
      (rest.all fun other => !key.same other.1 && !other.1.same key) && hasDistinctKeys rest

mutual

/-- Whether nothing that a value is made of differs from itself. -/
def Value.isWhole (v : Value) : Bool :=
  match v with
  | .list items => wholeItems items
  | .tuple items => wholeItems items
  | .mapping _ entries => hasDistinctKeys entries && wholeEntries entries
  | .token shown => !shown.isUndefinedNumber
  | .declaration d => d.isWhole
  | _ => true
termination_by structural v

def wholeItems : List Value → Bool
  | [] => true
  | item :: rest => item.isWhole && wholeItems rest
termination_by structural x => x

def wholeEntries : List (Value × Value) → Bool
  | [] => true
  | (_, item) :: rest => item.isWhole && wholeEntries rest
termination_by structural x => x

def Declaration.isWhole (d : Declaration) : Bool :=
  match d with
  | .simple source destination event => source.isWhole && destination.isWhole && event.isWhole
  | .sourceBlock source destination event entries =>
      source.isWhole && destination.isWhole && event.isWhole && wholeItems entries
  | .toEntry destination event => destination.isWhole && event.isWhole
  | .eventBlock event entries guard => event.isWhole && wholeItems entries && guard.isWhole
termination_by structural d

end

variable {m : Interpretation} {onLeft : Bool}

/-- A mapping finds its own entry under each of its keys. -/
theorem find?_of_hasDistinctKeys {α : Type} {looks : List α} {key : α → Value} {a : α}
    {entries : List (Value × Value)} (hkeys : looks.map key = entries.map Prod.fst)
    (h : hasDistinctKeys entries = true) (ha : a ∈ looks) :
    looks.find? (fun look => (key a).same (key look)) = some a ∧
      looks.find? (fun look => (key look).same (key a)) = some a := by
  induction looks generalizing entries with
  | nil => cases ha
  | cons first rest ih =>
      cases entries with
      | nil => cases hkeys
      | cons entry others =>
          obtain ⟨own, item⟩ := entry
          obtain ⟨hown, hothers⟩ := List.cons.inj hkeys
          obtain ⟨hdiffer, hrest⟩ := Bool.and_eq_true_iff.mp h
          rcases List.mem_cons.mp ha with rfl | ha
          · simp [(key a).same_refl]
          · have hmem : key a ∈ others.map Prod.fst := hothers ▸ List.mem_map_of_mem ha
            obtain ⟨other, hother, hkey⟩ := List.mem_map.mp hmem
            have hapart := List.all_eq_true.mp hdiffer other hother
            have hown : own = key first := hown.symm
            rw [hkey, hown] at hapart
            simp only [Bool.and_eq_true, Bool.not_eq_true'] at hapart
            obtain ⟨hforth, hback⟩ := ih hothers hrest ha
            simp [hapart.1, hapart.2, hforth, hback]

namespace Value

theorem judge_self {a : Value} {parts : Bool → Act (Option Bool)}
    (hown : a.ownVerdict? m a = pure none)
    (hverdict : a.hasVerdict = false) (hparts : ∀ asked, parts asked = pure (some true)) :
    a.judge m onLeft a parts = pure true := by
  simp [judge, hown, hverdict, hparts]

/-- A value that is no object is not asked whether it equals itself. -/
theorem ownVerdict?_self {a : Value} (h : ∀ name, a.shared? name = none) :
    a.ownVerdict? m a = pure none := by
  have hverdict : a.verdict? m a = pure none := by rw [verdict?, h]
  cases a with
  | mapping kind entries => cases kind <;> rfl
  | object cls shared identity fields =>
      rw [ownVerdict?, hverdict]
      · rfl
      · intro entries heq
        cases heq
  | _ => rfl

theorem alike_self {a : Value} {equals next : Act Bool}
    (h : a.identical a = false → equals = pure true) : alike a a equals next = next := by
  unfold alike
  cases hidentical : a.identical a with
  | true => rfl
  | false => simp [h hidentical]

theorem isUndefinedNumber_eq_false {a : Value} (h : a.identical a = false) :
    a.isUndefinedNumber = false := by
  cases a with
  | float x => simpa [identical, isUndefinedNumber] using h
  | _ => rfl

/-- Two whole values that are the same are found to be equal, or they are one and the same. -/
theorem resembles_of_equals {a : Value}
    (h : a.identical a = false → a.equals m a = pure true) : a.resembles m a = pure true := by
  unfold resembles
  cases hidentical : a.identical a with
  | true => rfl
  | false => simpa using h hidentical

end Value

theorem map_fst_entryLooks (entries : List (Value × Value)) :
    (entryLooks m entries).map Prod.fst = entries.map Prod.fst := by
  induction entries with
  | nil => rfl
  | cons entry rest ih =>
      obtain ⟨key, item⟩ := entry
      simp [entryLooks, ih]

theorem mem_entryLooks {entries : List (Value × Value)} {key item : Value}
    (h : (key, item) ∈ entries) :
    (key, item, item.equalsFrom m false) ∈ entryLooks m entries := by
  induction entries with
  | nil => cases h
  | cons entry rest ih =>
      obtain ⟨own, other⟩ := entry
      rcases List.mem_cons.mp h with heq | hmem
      · obtain ⟨rfl, rfl⟩ := Prod.mk.inj heq
        exact List.mem_cons_self
      · exact List.mem_cons_of_mem _ (ih hmem)

mutual

/-- A whole value that may have to be compared with itself is found to equal itself. -/
theorem Value.equalsFrom_self (m : Interpretation) (a : Value) (onLeft : Bool)
    (hidentical : a.identical a = false) (hwhole : a.isWhole = true) :
    a.equalsFrom m onLeft a = pure true := by
  have hnumber : a.isUndefinedNumber = false := Value.isUndefinedNumber_eq_false hidentical
  match a with
  | .list items =>
      rw [Value.equalsFrom]
      refine Value.judge_self (Value.ownVerdict?_self fun _ => rfl) rfl fun asked => ?_
      have hitems := equalItems_self m items asked (by simpa [Value.isWhole] using hwhole)
      simp [hitems]
  | .tuple items =>
      rw [Value.equalsFrom]
      refine Value.judge_self (Value.ownVerdict?_self fun _ => rfl) rfl fun asked => ?_
      have hitems := equalItems_self m items asked (by simpa [Value.isWhole] using hwhole)
      simp [Value.tupleItems?, hitems]
  | .mapping kind entries =>
      rw [Value.equalsFrom]
      refine Value.judge_self (Value.ownVerdict?_self fun _ => rfl) rfl fun asked => ?_
      obtain ⟨hkeys, hitems⟩ : hasDistinctKeys entries = true ∧ wholeEntries entries = true := by
        simpa [Value.isWhole] using hwhole
      have hequal := equalEntries_self m entries entries (fun _ hentry => hentry) hkeys hitems
      have hcovered := coveredBy_self m entries entries (fun _ hentry => hentry) hkeys hitems
      have horder : sameOrder kind kind entries entries = true := by
        simp [sameOrder, sameItems_refl]
      cases asked <;> simp [hequal, hcovered, horder]
  | .token shown =>
      rw [Value.equalsFrom]
      refine Value.judge_self (Value.ownVerdict?_self fun _ => rfl) rfl fun asked => ?_
      have hshown : shown.equal shown = true :=
        Value.equal_self_iff.mpr (by simpa [Value.isWhole] using hwhole)
      simp [hshown]
  | .object _ _ identity _ => simp [Value.identical] at hidentical
  | .declaration d =>
      rw [Value.equalsFrom]
      refine Value.judge_self (Value.ownVerdict?_self fun _ => rfl) rfl fun asked => ?_
      have hparts := d.equalsFrom_self m asked (by simpa [Value.isWhole] using hwhole)
      simp [hparts]
  | .null | .boolean _ | .integer _ | .float _ | .text _ | .bytes _ | .any | .unset | .member _
  | .basicType _ | .function _ _ | .placeholder _ | .renderable _ _ | .feature _ _ _
  | .classType _ _ =>
      have hequal := Value.equal_self_iff.mpr hnumber
      simp only [Value.equalsFrom]
      refine Value.judge_self (Value.ownVerdict?_self fun _ => rfl) rfl fun asked => ?_
      rw [hequal]

theorem equalItems_self (m : Interpretation) (items : List Value) (onLeft : Bool)
    (h : wholeItems items = true) : equalItems m items onLeft items = pure true := by
  match items with
  | [] => rfl
  | item :: rest =>
      obtain ⟨hitem, hrest⟩ : item.isWhole = true ∧ wholeItems rest = true := by
        simpa [wholeItems] using h
      rw [equalItems, Value.alike_self fun hne => item.equalsFrom_self m onLeft hne hitem]
      exact equalItems_self m rest onLeft hrest

theorem equalEntries_self (m : Interpretation) (entries all : List (Value × Value))
    (hmem : ∀ entry ∈ entries, entry ∈ all) (hkeys : hasDistinctKeys all = true)
    (h : wholeEntries entries = true) : equalEntries m entries all = pure true := by
  match entries with
  | [] => rfl
  | (key, item) :: rest =>
      obtain ⟨hitem, hrest⟩ : item.isWhole = true ∧ wholeEntries rest = true := by
        simpa [wholeEntries] using h
      obtain ⟨hfirst, hothers⟩ := List.forall_mem_cons.mp hmem
      have hfound := (find?_of_hasDistinctKeys rfl hkeys hfirst).1
      rw [equalEntries, hfound]
      dsimp only
      rw [Value.alike_self fun hne => item.equalsFrom_self m true hne hitem]
      exact equalEntries_self m rest all hothers hkeys hrest

theorem coveredBy_self (m : Interpretation) (entries all : List (Value × Value))
    (hmem : ∀ entry ∈ entries, entry ∈ all) (hkeys : hasDistinctKeys all = true)
    (h : wholeEntries entries = true) : coveredBy (entryLooks m all) entries = pure true := by
  match entries with
  | [] => rfl
  | (key, item) :: rest =>
      obtain ⟨hitem, hrest⟩ : item.isWhole = true ∧ wholeEntries rest = true := by
        simpa [wholeEntries] using h
      obtain ⟨hfirst, hothers⟩ := List.forall_mem_cons.mp hmem
      have hfound := (find?_of_hasDistinctKeys (map_fst_entryLooks (m := m) all) hkeys
        (mem_entryLooks hfirst)).2
      rw [coveredBy, hfound]
      dsimp only
      rw [Value.alike_self fun hne => item.equalsFrom_self m false hne hitem]
      exact coveredBy_self m rest all hothers hkeys hrest

theorem Declaration.equalsFrom_self (m : Interpretation) (d : Declaration) (onLeft : Bool)
    (h : d.isWhole = true) : d.equalsFrom m onLeft d = pure true := by
  match d with
  | .simple source destination event =>
      obtain ⟨⟨hsource, hdestination⟩, hevent⟩ :
          (source.isWhole = true ∧ destination.isWhole = true) ∧ event.isWhole = true := by
        simpa [Declaration.isWhole] using h
      rw [Declaration.equalsFrom,
        Value.alike_self fun hne => source.equalsFrom_self m onLeft hne hsource,
        Value.alike_self fun hne => destination.equalsFrom_self m onLeft hne hdestination,
        Value.alike_self fun hne => event.equalsFrom_self m onLeft hne hevent]
  | .sourceBlock source destination event entries =>
      obtain ⟨⟨⟨hsource, hdestination⟩, hevent⟩, hentries⟩ :
          ((source.isWhole = true ∧ destination.isWhole = true) ∧ event.isWhole = true) ∧
            wholeItems entries = true := by
        simpa [Declaration.isWhole] using h
      rw [Declaration.equalsFrom,
        Value.alike_self fun hne => source.equalsFrom_self m onLeft hne hsource,
        Value.alike_self fun hne => destination.equalsFrom_self m onLeft hne hdestination,
        Value.alike_self fun hne => event.equalsFrom_self m onLeft hne hevent]
      exact equalItems_self m entries onLeft hentries
  | .toEntry destination event =>
      obtain ⟨hdestination, hevent⟩ : destination.isWhole = true ∧ event.isWhole = true := by
        simpa [Declaration.isWhole] using h
      rw [Declaration.equalsFrom,
        Value.alike_self fun hne => destination.equalsFrom_self m onLeft hne hdestination,
        Value.alike_self fun hne => event.equalsFrom_self m onLeft hne hevent]
  | .eventBlock event entries guard =>
      obtain ⟨⟨hevent, hentries⟩, hguard⟩ :
          (event.isWhole = true ∧ wholeItems entries = true) ∧ guard.isWhole = true := by
        simpa [Declaration.isWhole] using h
      rw [Declaration.equalsFrom,
        Value.alike_self fun hne => event.equalsFrom_self m onLeft hne hevent,
        equalItems_self m entries onLeft hentries, pure_bind, if_pos rfl,
        Value.alike_self fun hne => guard.equalsFrom_self m onLeft hne hguard]

end

/-- Fields are found to equal their own items. -/
theorem equalFields_self (m : Interpretation) {fields : List (String × Value)} (onLeft : Bool)
    (h : ∀ field ∈ fields, field.2.isWhole = true) :
    equalFields m fields onLeft (fields.map Prod.snd) = pure true := by
  induction fields with
  | nil => rfl
  | cons field rest ih =>
      obtain ⟨name, item⟩ := field
      obtain ⟨hitem, hrest⟩ := List.forall_mem_cons.mp h
      rw [List.map_cons, equalFields]
      dsimp only
      rw [Value.alike_self fun hne => item.equalsFrom_self m onLeft hne hitem]
      exact ih hrest

/-- Whether a whole value that is read is found to be the same as itself, as it is wherever calls
mean what scripts say (`Interpretation.recognizesWhole_upTo`). -/
def Interpretation.RecognizesWhole (m : Interpretation) : Prop :=
  ∀ v : Value, v.isWhole = true → m.resembles v v = pure true

theorem Interpretation.recognizesWhole_upTo (scripts : Scripts) (depth : Nat) :
    (upTo scripts (depth + 1)).RecognizesWhole := fun v hwhole =>
  Value.resembles_of_equals fun hne => v.equalsFrom_self _ true hne hwhole

/-- Values that were read agree with themselves, one by one. -/
theorem Value.resembleAll_self (hm : m.RecognizesWhole) {items : List Value}
    (h : ∀ item ∈ items, item.isWhole = true) : resembleAll m items items = pure true := by
  induction items with
  | nil => rfl
  | cons item rest ih =>
      obtain ⟨hitem, hrest⟩ := List.forall_mem_cons.mp h
      rw [resembleAll, hm item hitem, ite_self, pure_bind]
      simpa using ih hrest

end StateRules
