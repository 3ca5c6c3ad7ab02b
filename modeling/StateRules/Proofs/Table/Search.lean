import StateRules.Proofs.Journal
import StateRules.Transit

/-!
What a search comes upon, and what becomes of an entity then.

Comparing two values may answer yes, answer no or fail. A rule is passed over when it
answers no; the search ends with the first rule that does not. So nothing is found exactly
when every rule answers no, and a rule is found exactly when it is the first that does not
answer no and answers yes (`Table.result_search_eq_ok_some_iff`).

A move needs a state that can be read, a rule, a next state and a copy. The record of the
move has to be writable too, as it is written before the copy is made.

Any value may be a state or an event, one whose `==` or `repr` raises among them. Nothing is taken
for granted of these here or behind this: a comparison that fails ends the search, or the entering
of a rule, with its fault, and a state that cannot be written ends the move, the refusal or the
declaration in which it is to be recorded or rendered. Where a statement depends on it, it says so
in one of three ways. `Rule.Declines` and `Rule.Applies` are of comparisons that have answered; `∃
record` is of a record that can be written; and `ComparesWell` is of a kind of values on which `==`
answers, is symmetric and is transitive.
-/

namespace StateRules

/-- Whether comparing two values says that they are equal. -/
def Value.Equals (m : Interpretation) (a b : Value) : Prop := (a.equals m b).result = .ok true

/-- Whether comparing two values says that they are not equal. -/
def Value.Differs (m : Interpretation) (a b : Value) : Prop :=
  (a.equals m b).result = .ok false

/-- Whether something is the first of some items that is not passed over. -/
def IsFirst {α : Type} (passed : α → Prop) (items : List α) (a : α) : Prop :=
  ∃ before after, items = before ++ a :: after ∧ ∀ other ∈ before, passed other

namespace IsFirst

variable {α β : Type}

theorem mem {passed : α → Prop} {items : List α} {a : α} (h : IsFirst passed items a) :
    a ∈ items := by
  obtain ⟨before, after, rfl, _⟩ := h
  exact List.mem_append_right before List.mem_cons_self

theorem imp {passed passed' : α → Prop} (h : ∀ a, passed a → passed' a) {items : List α} {a : α}
    (ha : IsFirst passed items a) : IsFirst passed' items a := by
  obtain ⟨before, after, hitems, hbefore⟩ := ha
  exact ⟨before, after, hitems, fun other hother => h other (hbefore other hother)⟩

theorem cons_iff {passed : α → Prop} {item : α} {rest : List α} {a : α} :
    IsFirst passed (item :: rest) a ↔ item = a ∨ passed item ∧ IsFirst passed rest a := by
  constructor
  · rintro ⟨before, after, hitems, hbefore⟩
    cases before with
    | nil =>
        obtain ⟨rfl, _⟩ := List.cons.inj hitems
        exact .inl rfl
    | cons first before =>
        obtain ⟨rfl, hrest⟩ := List.cons.inj hitems
        exact .inr ⟨hbefore _ List.mem_cons_self, before, after, hrest,
          fun other h => hbefore other (List.mem_cons_of_mem _ h)⟩
  · rintro (rfl | ⟨hitem, before, after, rfl, hbefore⟩)
    · exact ⟨[], rest, rfl, by simp⟩
    · refine ⟨item :: before, after, rfl, ?_⟩
      intro other hother
      rcases List.mem_cons.mp hother with rfl | hmem
      · exact hitem
      · exact hbefore other hmem

theorem exists_of_not_forall {passed : α → Prop} {items : List α}
    (h : ¬∀ a ∈ items, passed a) : ∃ a, IsFirst passed items a ∧ ¬passed a := by
  induction items with
  | nil => exact absurd (by simp) h
  | cons item rest ih =>
      by_cases hitem : passed item
      · have hrest : ¬∀ a ∈ rest, passed a := fun hrest =>
          h (List.forall_mem_cons.mpr ⟨hitem, hrest⟩)
        obtain ⟨a, ha, hnot⟩ := ih hrest
        exact ⟨a, cons_iff.mpr (.inr ⟨hitem, ha⟩), hnot⟩
      · exact ⟨item, cons_iff.mpr (.inl rfl), hitem⟩

theorem iff_getElem? {passed : α → Prop} {items : List α} {a : α} :
    IsFirst passed items a ↔
      ∃ j : Nat, items[j]? = some a ∧
        ∀ i < j, ∀ other, items[i]? = some other → passed other := by
  induction items with
  | nil =>
      constructor
      · rintro ⟨before, after, hitems, _⟩
        simp at hitems
      · rintro ⟨j, hj, _⟩
        simp at hj
  | cons item rest ih =>
      rw [cons_iff, ih]
      constructor
      · rintro (rfl | ⟨hitem, j, hj, hbefore⟩)
        · exact ⟨0, rfl, fun i hi => absurd hi (Nat.not_lt_zero i)⟩
        · refine ⟨j + 1, hj, ?_⟩
          intro i hi other hother
          cases i with
          | zero => exact Option.some.inj hother ▸ hitem
          | succ i => exact hbefore i (Nat.lt_of_succ_lt_succ hi) other hother
      · rintro ⟨j, hj, hbefore⟩
        cases j with
        | zero => exact .inl (Option.some.inj hj)
        | succ j =>
            refine .inr ⟨hbefore 0 (Nat.succ_pos j) item rfl, j, hj, ?_⟩
            intro i hi other hother
            exact hbefore (i + 1) (Nat.succ_lt_succ hi) other hother

/-- The first of what some items stand for is the first of what the first item stands for
that is not passed over as a whole. -/
theorem flatMap_iff {passed : β → Prop} {f : α → List β} {items : List α} {b : β} :
    IsFirst passed (items.flatMap f) b ↔
      ∃ a, IsFirst (fun other => ∀ x ∈ f other, passed x) items a ∧ IsFirst passed (f a) b := by
  induction items with
  | nil =>
      constructor
      · intro h
        exact absurd h.mem (by simp)
      · rintro ⟨a, ha, _⟩
        exact absurd ha.mem (by simp)
  | cons item rest ih =>
      rw [List.flatMap_cons]
      constructor
      · rintro ⟨before, after, hitems, hbefore⟩
        rcases List.append_eq_append_iff.mp hitems with ⟨more, rfl, hrest⟩ | ⟨more, hitem, hrest⟩
        · obtain ⟨a, ha, hb⟩ := ih.mp
            ⟨more, after, hrest, fun other h => hbefore other (List.mem_append_right _ h)⟩
          exact ⟨a, cons_iff.mpr (.inr ⟨fun x hx => hbefore x (List.mem_append_left _ hx), ha⟩),
            hb⟩
        · cases more with
          | nil =>
              obtain ⟨a, ha, hb⟩ := ih.mp ⟨[], after, hrest.symm, by simp⟩
              refine ⟨a, cons_iff.mpr (.inr ⟨?_, ha⟩), hb⟩
              intro x hx
              exact hbefore x (by simpa [hitem] using hx)
          | cons first more =>
              obtain ⟨rfl, _⟩ := List.cons.inj hrest
              exact ⟨item, cons_iff.mpr (.inl rfl), before, more, hitem, hbefore⟩
      · rintro ⟨a, ha, hb⟩
        rcases cons_iff.mp ha with rfl | ⟨hitem, ha⟩
        · obtain ⟨before, after, hfa, hbefore⟩ := hb
          exact ⟨before, after ++ rest.flatMap f, by simp [hfa], hbefore⟩
        · obtain ⟨before, after, hrest, hbefore⟩ := ih.mpr ⟨a, ha, hb⟩
          refine ⟨f item ++ before, after, by simp [hrest], ?_⟩
          intro other hother
          rcases List.mem_append.mp hother with h | h
          · exact hitem other h
          · exact hbefore other h

theorem map_iff {passed : β → Prop} {f : α → β} {items : List α} {b : β} :
    IsFirst passed (items.map f) b ↔
      ∃ a, IsFirst (fun other => passed (f other)) items a ∧ f a = b := by
  induction items with
  | nil =>
      constructor
      · intro h
        exact absurd h.mem (by simp)
      · rintro ⟨a, ha, _⟩
        exact absurd ha.mem (by simp)
  | cons item rest ih =>
      rw [List.map_cons, cons_iff, ih]
      constructor
      · rintro (rfl | ⟨hitem, a, ha, rfl⟩)
        · exact ⟨item, cons_iff.mpr (.inl rfl), rfl⟩
        · exact ⟨a, cons_iff.mpr (.inr ⟨hitem, ha⟩), rfl⟩
      · rintro ⟨a, ha, rfl⟩
        rcases cons_iff.mp ha with rfl | ⟨hitem, ha⟩
        · exact .inl rfl
        · exact .inr ⟨hitem, a, ha, rfl⟩

end IsFirst

namespace Rule

/-- Whether a rule says that it does not apply to a state and an event. -/
def Declines (m : Interpretation) (state event : Value) (rule : Rule) : Prop :=
  (rule.applies m state event).result = .ok false

/-- Whether a rule says that it applies to a state and an event. -/
def Applies (m : Interpretation) (state event : Value) (rule : Rule) : Prop :=
  (rule.applies m state event).result = .ok true

theorem applies_iff {m : Interpretation} {state event : Value} {rule : Rule} :
    rule.Applies m state event ↔
      rule.source.Equals m state ∧ rule.event.Equals m event := by
  rw [Applies, applies, Act.result_bind_eq_ok_iff]
  constructor
  · rintro ⟨covered, hcovered, hrest⟩
    cases covered with
    | true => exact ⟨hcovered, hrest⟩
    | false => cases hrest
  · rintro ⟨hsource, hevent⟩
    exact ⟨true, hsource, hevent⟩

/-- The events are only compared when the states are equal. -/
theorem declines_iff {m : Interpretation} {state event : Value} {rule : Rule} :
    rule.Declines m state event ↔
      rule.source.Differs m state ∨
        rule.source.Equals m state ∧ rule.event.Differs m event := by
  rw [Declines, applies, Act.result_bind_eq_ok_iff]
  constructor
  · rintro ⟨covered, hcovered, hrest⟩
    cases covered with
    | true => exact .inr ⟨hcovered, hrest⟩
    | false => exact .inl hcovered
  · rintro (hsource | ⟨hsource, hevent⟩)
    · exact ⟨false, hsource, rfl⟩
    · exact ⟨true, hsource, hevent⟩

end Rule

namespace Table

theorem result_searchFrom_eq_ok_none_iff {m : Interpretation} {state event : Value} {i : Nat}
    {rules : List Rule} :
    (searchFrom m state event i rules).result = .ok none ↔
      ∀ rule ∈ rules, rule.Declines m state event := by
  induction rules generalizing i with
  | nil => simp [searchFrom]
  | cons rule rest ih =>
      rw [searchFrom, Act.result_bind_eq_ok_iff, List.forall_mem_cons, ← ih (i := i + 1)]
      constructor
      · rintro ⟨applies, happlies, hrest⟩
        cases applies with
        | true => cases hrest
        | false => exact ⟨happlies, hrest⟩
      · rintro ⟨hrule, hrest⟩
        exact ⟨false, hrule, hrest⟩

theorem result_searchFrom_eq_ok_some_iff {m : Interpretation} {state event : Value} {i k : Nat}
    {rules : List Rule} :
    (searchFrom m state event i rules).result = .ok (some k) ↔
      ∃ before rule after, rules = before ++ rule :: after ∧ k = i + before.length ∧
        (∀ other ∈ before, other.Declines m state event) ∧ rule.Applies m state event := by
  induction rules generalizing i with
  | nil => simp [searchFrom]
  | cons first rest ih =>
      rw [searchFrom, Act.result_bind_eq_ok_iff]
      constructor
      · rintro ⟨applies, happlies, hrest⟩
        cases applies with
        | true =>
            obtain rfl : i = k := by simpa using hrest
            exact ⟨[], first, rest, rfl, rfl, by simp, happlies⟩
        | false =>
            obtain ⟨before, rule, after, rfl, rfl, hbefore, hrule⟩ := ih.mp hrest
            refine ⟨first :: before, rule, after, rfl, ?_, ?_, hrule⟩
            · rw [List.length_cons]
              omega
            · exact List.forall_mem_cons.mpr ⟨happlies, hbefore⟩
      · rintro ⟨before, rule, after, hrules, hk, hbefore, hrule⟩
        cases before with
        | nil =>
            obtain ⟨rfl, rfl⟩ := List.cons.inj hrules
            subst hk
            exact ⟨true, hrule, rfl⟩
        | cons other before =>
            obtain ⟨rfl, rfl⟩ := List.cons.inj hrules
            obtain ⟨hother, hbefore⟩ := List.forall_mem_cons.mp hbefore
            refine ⟨false, hother, ih.mpr ⟨before, rule, after, rfl, ?_, hbefore, hrule⟩⟩
            rw [hk, List.length_cons]
            omega

theorem result_search_eq_ok_none_iff {m : Interpretation} {table : Table}
    {state event : Value} :
    (table.search m state event).result = .ok none ↔
      ∀ rule ∈ table.rules, rule.Declines m state event := by
  rw [search, searchIndex, ← result_searchFrom_eq_ok_none_iff (i := 0),
    Act.result_bind_eq_ok_iff]
  constructor
  · rintro ⟨found, hfound, hrule⟩
    cases found with
    | none => exact hfound
    | some k =>
        obtain ⟨before, rule, after, hrules, rfl, _⟩ :=
          result_searchFrom_eq_ok_some_iff.mp hfound
        rw [hrules] at hrule
        simp at hrule
  · intro h
    exact ⟨none, h, rfl⟩

/-- A rule is found when it is the first that does not decline, and applies. -/
theorem result_search_eq_ok_some_iff {m : Interpretation} {table : Table}
    {state event : Value} {rule : Rule} :
    (table.search m state event).result = .ok (some rule) ↔
      IsFirst (Rule.Declines m state event) table.rules rule ∧
        rule.Applies m state event := by
  rw [search, searchIndex, Act.result_bind_eq_ok_iff]
  constructor
  · rintro ⟨found, hfound, hrule⟩
    cases found with
    | none => cases hrule
    | some k =>
        obtain ⟨before, other, after, hrules, rfl, hbefore, hother⟩ :=
          result_searchFrom_eq_ok_some_iff.mp hfound
        obtain rfl : other = rule := by simpa [hrules] using hrule
        exact ⟨⟨before, after, hrules, hbefore⟩, hother⟩
  · rintro ⟨⟨before, after, hrules, hbefore⟩, happlies⟩
    refine ⟨some before.length, ?_, ?_⟩
    · exact result_searchFrom_eq_ok_some_iff.mpr
        ⟨before, rule, after, hrules, (Nat.zero_add _).symm, hbefore, happlies⟩
    · simp [hrules]

/-- A search gets to an end where every comparison that it could ask for answers. -/
theorem result_search_of_answers {m : Interpretation} {table : Table} {state event : Value}
    (h : ∀ rule ∈ table.rules, rule.Declines m state event ∨ rule.Applies m state event) :
    ∃ found, (table.search m state event).result = .ok found := by
  by_cases hall : ∀ rule ∈ table.rules, rule.Declines m state event
  · exact ⟨none, result_search_eq_ok_none_iff.mpr hall⟩
  · obtain ⟨rule, hfirst, hrule⟩ := IsFirst.exists_of_not_forall hall
    have happlies := (h rule hfirst.mem).resolve_left hrule
    exact ⟨some rule, result_search_eq_ok_some_iff.mpr ⟨hfirst, happlies⟩⟩

end Table

/-- Whether a value is what a target gives for an entity: a literal state is given as it is, and a
guard gives what it returns when it is called with the entity alone. -/
def Target.Gives (m : Interpretation) (target : Target) (entity next : Value) : Prop :=
  match target with
  | .literal state => next = state
  | .guarded guard _ => (m.call guard (.ofList [entity])).result = .ok next

theorem Target.result_resolve_eq_ok_iff {m : Interpretation} {target : Target}
    {entity next : Value} :
    (target.resolve m entity).result = .ok next ↔ target.Gives m entity next := by
  cases target with
  | literal state => exact ⟨fun h => (Except.ok.inj h).symm, congrArg Except.ok ∘ Eq.symm⟩
  | guarded guard declared => exact Iff.rfl

/-- Puts an entity from a state into the next. -/
def settle (m : Interpretation) (accessor : Accessor) (entity event state next : Value) :
    Act Outcome := do
  let record ← moveRecord m state event next
  Act.emit record
  let copy ← accessor.set m entity next
  pure (.moved copy)

section Transit

variable {m : Interpretation} {accessor : Accessor} {table : Table}
  {entity state event : Value}

/-- An entity gets to the next state if the record of the move can be written and the state set. -/
theorem result_settle_eq_ok_moved_iff {next copy : Value} :
    (settle m accessor entity event state next).result = .ok (.moved copy) ↔
      (∃ record, (moveRecord m state event next).result = .ok record) ∧
        (accessor.set m entity next).result = .ok copy := by
  rw [settle, Act.result_bind_eq_ok_iff]
  constructor
  · rintro ⟨record, hrecord, hrest⟩
    obtain ⟨_, hrest⟩ := Act.result_seq_eq_ok_iff.mp hrest
    obtain ⟨other, hcopy, hmoved⟩ := Act.result_bind_eq_ok_iff.mp hrest
    obtain rfl : other = copy := by simpa using hmoved
    exact ⟨⟨record, hrecord⟩, hcopy⟩
  · rintro ⟨⟨record, hrecord⟩, hcopy⟩
    refine ⟨record, hrecord, Act.result_seq_eq_ok_iff.mpr ⟨rfl, ?_⟩⟩
    exact Act.result_bind_eq_ok_iff.mpr ⟨copy, hcopy, rfl⟩

/-- An entity may not move when nothing is found for its state. -/
theorem result_transit_eq_ok_notAllowed_iff
    (hstate : (accessor.get m entity).result = .ok state) :
    (transit m accessor table entity event).result = .ok .notAllowed ↔
      (table.search m state event).result = .ok none ∧
        ∃ record, (refusalRecord m state event).result = .ok record := by
  rw [transit, Act.result_bind_of_ok hstate, Act.result_bind_eq_ok_iff]
  constructor
  · rintro ⟨found, hfound, hrest⟩
    cases found with
    | none =>
        obtain ⟨record, hrecord, _⟩ := Act.result_bind_eq_ok_iff.mp hrest
        exact ⟨hfound, record, hrecord⟩
    | some rule =>
        obtain ⟨_, _, hrest⟩ := Act.result_bind_eq_ok_iff.mp hrest
        obtain ⟨_, _, hrest⟩ := Act.result_bind_eq_ok_iff.mp hrest
        obtain ⟨_, _, hrest⟩ := Act.result_bind_eq_ok_iff.mp hrest
        obtain ⟨_, _, hmoved⟩ := Act.result_bind_eq_ok_iff.mp hrest
        cases hmoved
  · rintro ⟨hfound, record, hrecord⟩
    refine ⟨none, hfound, ?_⟩
    exact Act.result_bind_eq_ok_iff.mpr ⟨record, hrecord, rfl⟩

/-- An entity moves along the rule that is found for its state. -/
theorem result_transit_eq_ok_moved_iff
    (hstate : (accessor.get m entity).result = .ok state) {copy : Value} :
    (transit m accessor table entity event).result = .ok (.moved copy) ↔
      ∃ rule next, (table.search m state event).result = .ok (some rule) ∧
        rule.target.Gives m entity next ∧
        (∃ record, (moveRecord m state event next).result = .ok record) ∧
        (accessor.set m entity next).result = .ok copy := by
  simp only [← Target.result_resolve_eq_ok_iff]
  rw [transit, Act.result_bind_of_ok hstate, Act.result_bind_eq_ok_iff]
  constructor
  · rintro ⟨found, hfound, hrest⟩
    cases found with
    | none =>
        obtain ⟨_, _, hrefused⟩ := Act.result_bind_eq_ok_iff.mp hrest
        cases hrefused
    | some rule =>
        obtain ⟨next, hnext, hsettled⟩ := Act.result_bind_eq_ok_iff.mp hrest
        exact ⟨rule, next, hfound, hnext, result_settle_eq_ok_moved_iff.mp hsettled⟩
  · rintro ⟨rule, next, hfound, hnext, hsettled⟩
    refine ⟨some rule, hfound, ?_⟩
    exact Act.result_bind_eq_ok_iff.mpr ⟨next, hnext, result_settle_eq_ok_moved_iff.mpr hsettled⟩

end Transit

end StateRules
