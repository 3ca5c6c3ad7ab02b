import StateRules.Proofs.Table.Refusal
import StateRules.Proofs.Table.Search

/-!
What the catalogs of a table hold.

Going through values in order and keeping each one that nothing kept so far is the same as
gives what is seen first (`FirstSeen`). There is at most one such outcome, and none if a
comparison that is needed on the way gives no answer.

The states of a table are what is seen first among the states that its rules mention, and its
events what is seen first among theirs (`Table.Cataloged`). A table grows with catalogs that
trail behind the rules only where a comparison fails, and then what its rules mention has no
such outcome any more, now or later. So every reachable table is cataloged exactly if what its
rules mention can be told apart (`Table.cataloged_or_not_isComparable`).
-/

namespace StateRules

/-- Whether comparing two values says that they are the same. -/
def Value.Same (m : Interpretation) (a b : Value) : Prop := (a.resembles m b).result = .ok true

/-- Whether comparing two values says that they are not the same. -/
def Value.Apart (m : Interpretation) (a b : Value) : Prop :=
  (a.resembles m b).result = .ok false

/-- What is kept after going through some values, when there is something already. A value is
left out if the first of what is kept that is not apart from it is the same. -/
inductive FirstSeenAfter (m : Interpretation) : List Value → List Value → List Value → Prop where
  | done (known : List Value) : FirstSeenAfter m known [] known
  | again {known rest kept : List Value} {v k : Value} :
      IsFirst (fun other => other.Apart m v) known k → k.Same m v →
        FirstSeenAfter m known rest kept → FirstSeenAfter m known (v :: rest) kept
  | new {known rest kept : List Value} {v : Value} :
      (∀ k ∈ known, k.Apart m v) →
        FirstSeenAfter m (known ++ [v]) rest kept → FirstSeenAfter m known (v :: rest) kept

/-- What is kept after going through some values from the start. -/
def FirstSeen (m : Interpretation) (seen kept : List Value) : Prop :=
  FirstSeenAfter m [] seen kept

/-- Whether a value is in a catalog, or one that is the same. -/
def IsRepresented (m : Interpretation) (catalog : List Value) (v : Value) : Prop :=
  ∃ k ∈ catalog, k = v ∨ k.Same m v

variable {m : Interpretation}

theorem result_isKnown_eq_ok_false_iff {known : List Value} {v : Value} :
    (isKnown m known v).result = .ok false ↔ ∀ k ∈ known, k.Apart m v := by
  induction known with
  | nil => simp [isKnown]
  | cons k rest ih =>
      rw [isKnown, Act.result_bind_eq_ok_iff, List.forall_mem_cons, ← ih]
      constructor
      · rintro ⟨alike, halike, hrest⟩
        cases alike with
        | true => cases hrest
        | false => exact ⟨halike, hrest⟩
      · rintro ⟨hapart, hrest⟩
        exact ⟨false, hapart, hrest⟩

theorem result_isKnown_eq_ok_true_iff {known : List Value} {v : Value} :
    (isKnown m known v).result = .ok true ↔
      ∃ k, IsFirst (fun other => other.Apart m v) known k ∧ k.Same m v := by
  induction known with
  | nil =>
      constructor
      · intro h
        cases h
      · rintro ⟨k, hfirst, _⟩
        cases hfirst.mem
  | cons k rest ih =>
      rw [isKnown, Act.result_bind_eq_ok_iff]
      constructor
      · rintro ⟨alike, halike, hrest⟩
        cases alike with
        | true => exact ⟨k, IsFirst.cons_iff.mpr (.inl rfl), halike⟩
        | false =>
            obtain ⟨other, hfirst, hsame⟩ := ih.mp hrest
            exact ⟨other, IsFirst.cons_iff.mpr (.inr ⟨halike, hfirst⟩), hsame⟩
      · rintro ⟨other, hfirst, hsame⟩
        rcases IsFirst.cons_iff.mp hfirst with rfl | ⟨hapart, hrest⟩
        · exact ⟨true, hsame, rfl⟩
        · exact ⟨false, hapart, ih.mpr ⟨other, hrest, hsame⟩⟩

/-- Entering values in a catalog keeps what is seen first, if it gets through. -/
theorem firstSeenAfter_iff {known vs kept : List Value} :
    FirstSeenAfter m known vs kept ↔
      (enterAll m known vs).2.result = .ok () ∧ (enterAll m known vs).1 = kept := by
  constructor
  · intro h
    induction h with
    | done known => exact ⟨rfl, rfl⟩
    | again hfirst hsame _ ih =>
        have hknown := result_isKnown_eq_ok_true_iff.mpr ⟨_, hfirst, hsame⟩
        obtain ⟨hcatalog, hresult⟩ := enterAll_cons_of_ok hknown _
        rw [hcatalog, hresult]
        exact ih
    | new hapart _ ih =>
        have hknown := result_isKnown_eq_ok_false_iff.mpr hapart
        obtain ⟨hcatalog, hresult⟩ := enterAll_cons_of_ok hknown _
        rw [hcatalog, hresult]
        exact ih
  · rintro ⟨hresult, hkept⟩
    induction vs generalizing known with
    | nil =>
        obtain rfl : known = kept := hkept
        exact .done known
    | cons v rest ih =>
        cases hknown : (isKnown m known v).result with
        | error fault => cases hresult.symm.trans (enterAll_cons_of_error hknown rest).2
        | ok isThere =>
            obtain ⟨hcatalog, hresult'⟩ := enterAll_cons_of_ok hknown rest
            rw [hcatalog] at hkept
            rw [hresult'] at hresult
            have hrest := ih hresult hkept
            cases isThere with
            | true =>
                obtain ⟨k, hfirst, hsame⟩ := result_isKnown_eq_ok_true_iff.mp hknown
                exact .again hfirst hsame hrest
            | false => exact .new (result_isKnown_eq_ok_false_iff.mp hknown) hrest

namespace FirstSeenAfter

theorem unique {known vs kept kept' : List Value} (h : FirstSeenAfter m known vs kept)
    (h' : FirstSeenAfter m known vs kept') : kept = kept' :=
  (firstSeenAfter_iff.mp h).2.symm.trans (firstSeenAfter_iff.mp h').2

theorem append_iff {known vs ws kept : List Value} :
    FirstSeenAfter m known (vs ++ ws) kept ↔
      ∃ mid, FirstSeenAfter m known vs mid ∧ FirstSeenAfter m mid ws kept := by
  constructor
  · intro h
    induction vs generalizing known with
    | nil => exact ⟨known, .done known, h⟩
    | cons v rest ih =>
        cases h with
        | again hfirst hsame hrest =>
            obtain ⟨mid, hvs, hws⟩ := ih hrest
            exact ⟨mid, .again hfirst hsame hvs, hws⟩
        | new hapart hrest =>
            obtain ⟨mid, hvs, hws⟩ := ih hrest
            exact ⟨mid, .new hapart hvs, hws⟩
  · rintro ⟨mid, hvs, hws⟩
    induction hvs with
    | done _ => exact hws
    | again hfirst hsame _ ih => exact .again hfirst hsame (ih hws)
    | new hapart _ ih => exact .new hapart (ih hws)

theorem subset {known vs kept : List Value} (h : FirstSeenAfter m known vs kept) :
    known ⊆ kept := by
  induction h with
  | done _ => exact List.Subset.refl _
  | again _ _ _ ih => exact ih
  | new _ _ ih => exact List.Subset.trans (List.subset_append_left _ _) ih

/-- No two values that are kept are the same. -/
theorem pairwise {known vs kept : List Value} (h : FirstSeenAfter m known vs kept)
    (hknown : known.Pairwise (Value.Apart m)) : kept.Pairwise (Value.Apart m) := by
  induction h with
  | done _ => exact hknown
  | again _ _ _ ih => exact ih hknown
  | @new known _ _ v hapart _ ih =>
      apply ih
      rw [List.pairwise_append]
      refine ⟨hknown, List.pairwise_singleton _ v, ?_⟩
      intro k hk w hw
      exact List.mem_singleton.mp hw ▸ hapart k hk

/-- Every value that was gone through is kept, or one that is the same. -/
theorem represents {known vs kept : List Value} (h : FirstSeenAfter m known vs kept) :
    ∀ v ∈ vs, ∃ k ∈ kept, k = v ∨ k.Same m v := by
  induction h with
  | done _ => simp
  | @again _ _ _ v k hfirst hsame hrest ih =>
      exact List.forall_mem_cons.mpr ⟨⟨k, hrest.subset hfirst.mem, .inr hsame⟩, ih⟩
  | @new known _ _ v _ hrest ih =>
      have hmem : v ∈ known ++ [v] := List.mem_append_right known (List.mem_singleton.mpr rfl)
      exact List.forall_mem_cons.mpr ⟨⟨v, hrest.subset hmem, .inl rfl⟩, ih⟩

/-- Nothing is kept only if there was nothing to go through. -/
theorem eq_nil_iff {vs kept : List Value} (h : FirstSeenAfter m [] vs kept) :
    kept = [] ↔ vs = [] := by
  constructor
  · rintro rfl
    cases vs with
    | nil => rfl
    | cons v rest =>
        obtain ⟨k, hk, _⟩ := h.represents v List.mem_cons_self
        cases hk
  · rintro rfl
    cases h
    rfl

end FirstSeenAfter

namespace Table

/-- The states that the rules of a table mention, in the order they are met: of each rule its
source, and behind it the state that it names as its destination. -/
def mentionedStates (table : Table) : List Value := table.rules.flatMap Rule.states

/-- The events of the rules of a table. -/
def mentionedEvents (table : Table) : List Value := table.rules.map Rule.event

/-- Whether the catalogs of a table hold what is seen first among what its rules mention. -/
structure Cataloged (m : Interpretation) (table : Table) : Prop where
  states : FirstSeen m table.mentionedStates table.states
  events : FirstSeen m table.mentionedEvents table.events

/-- Whether what the rules of a table mention can be told apart: going through it, every
comparison that is made gives an answer. -/
structure IsComparable (m : Interpretation) (table : Table) : Prop where
  states : ∃ kept, FirstSeen m table.mentionedStates kept
  events : ∃ kept, FirstSeen m table.mentionedEvents kept

theorem Cataloged.isComparable {table : Table} (h : table.Cataloged m) : table.IsComparable m :=
  ⟨⟨_, h.states⟩, ⟨_, h.events⟩⟩

theorem IsComparable.of_rules_eq {table table' : Table} (h : table.IsComparable m)
    (hrules : table'.rules = table.rules) : table'.IsComparable m := by
  constructor
  · rw [mentionedStates, hrules]
    exact h.states
  · rw [mentionedEvents, hrules]
    exact h.events

theorem mentionedStates_enter (m : Interpretation) (table : Table) (rule : Rule) :
    (table.enter m rule).1.mentionedStates = table.mentionedStates ++ rule.states := by
  simp [mentionedStates, rules_enter]

theorem mentionedEvents_enter (m : Interpretation) (table : Table) (rule : Rule) :
    (table.enter m rule).1.mentionedEvents = table.mentionedEvents ++ [rule.event] := by
  simp [mentionedEvents, rules_enter]

/-- More rules do not help to tell apart what could not be told apart before. -/
theorem isComparable_of_enter {table : Table} {rule : Rule}
    (h : (table.enter m rule).1.IsComparable m) : table.IsComparable m := by
  obtain ⟨kept, hstates⟩ := h.states
  obtain ⟨kept', hevents⟩ := h.events
  rw [mentionedStates_enter] at hstates
  rw [mentionedEvents_enter] at hevents
  obtain ⟨states, hstates, _⟩ := FirstSeenAfter.append_iff.mp hstates
  obtain ⟨events, hevents, _⟩ := FirstSeenAfter.append_iff.mp hevents
  exact ⟨⟨states, hstates⟩, ⟨events, hevents⟩⟩

/-- A cataloged table stays cataloged when a rule enters, as long as everything can be told
apart. -/
theorem Cataloged.enter {table : Table} {rule : Rule} (h : table.Cataloged m)
    (hcomparable : (table.enter m rule).1.IsComparable m) :
    (table.enter m rule).1.Cataloged m := by
  obtain ⟨kept, hstates⟩ := hcomparable.states
  obtain ⟨kept', hevents⟩ := hcomparable.events
  rw [mentionedStates_enter] at hstates
  rw [mentionedEvents_enter] at hevents
  obtain ⟨states, hbefore, hafter⟩ := FirstSeenAfter.append_iff.mp hstates
  obtain rfl := hbefore.unique h.states
  obtain ⟨events, hbefore', hafter'⟩ := FirstSeenAfter.append_iff.mp hevents
  obtain rfl := hbefore'.unique h.events
  obtain ⟨hok, hgrown⟩ := firstSeenAfter_iff.mp hafter
  obtain ⟨_, hgrown'⟩ := firstSeenAfter_iff.mp hafter'
  constructor
  · rw [mentionedStates_enter, states_enter, hgrown]
    exact hstates
  · rw [mentionedEvents_enter, events_enter_of_ok hok, hgrown']
    exact hevents

/-- Every reachable table is cataloged, or its rules mention what cannot be told apart. -/
theorem Reachable.cataloged_or_not_isComparable {table : Table} (h : table.Reachable m) :
    table.Cataloged m ∨ ¬table.IsComparable m := by
  refine h.induction (P := fun table => table.Cataloged m ∨ ¬table.IsComparable m)
    (Q := fun _ => True) ?_ ?_ (fun _ _ _ _ _ _ _ _ _ => trivial)
  · exact .inl ⟨.done [], .done []⟩
  · intro table rule htable _
    by_cases hcomparable : (table.enter m rule).1.IsComparable m
    · rcases htable with hcataloged | hnot
      · exact .inl (hcataloged.enter hcomparable)
      · exact absurd (isComparable_of_enter hcomparable) hnot
    · exact .inr hcomparable

theorem Reachable.cataloged_iff_isComparable {table : Table} (h : table.Reachable m) :
    table.Cataloged m ↔ table.IsComparable m := by
  constructor
  · exact Cataloged.isComparable
  · intro hcomparable
    rcases h.cataloged_or_not_isComparable with hcataloged | hnot
    · exact hcataloged
    · exact absurd hcomparable hnot

theorem Cataloged.represents {table : Table} (h : table.Cataloged m) {rule : Rule}
    (hrule : rule ∈ table.rules) :
    (∀ v ∈ rule.states, ∃ k ∈ table.states, k = v ∨ k.Same m v) ∧
      ∃ k ∈ table.events, k = rule.event ∨ k.Same m rule.event := by
  constructor
  · intro v hv
    exact h.states.represents v (List.mem_flatMap.mpr ⟨rule, hrule, hv⟩)
  · exact h.events.represents rule.event (List.mem_map.mpr ⟨rule, hrule, rfl⟩)

/-- Rules that get into a table with full catalogs leave the catalogs full. -/
theorem Cataloged.takeRules {table : Table} (h : table.Cataloged m) {rules : List Rule}
    (hok : (table.takeRules m rules).act.result = .ok ()) :
    (table.takeRules m rules).table.Cataloged m := by
  induction rules generalizing table with
  | nil => exact h
  | cons rule rest ih =>
      rw [Table.takeRules] at hok ⊢
      obtain ⟨hrule, hrest⟩ := Extension.result_andThen_eq_ok_iff.mp hok
      rw [Extension.andThen_of_ok hrule]
      have hroom := result_takeRule_eq_ok_iff_hasRoom.mp hrule
      have hstates := firstSeenAfter_iff.mpr ⟨hroom.states, rfl⟩
      have hevent := firstSeenAfter_iff.mpr
        ⟨result_enterAll_singleton_eq_ok_iff.mpr hroom.event, rfl⟩
      have hcomparable : (table.enter m rule).1.IsComparable m := by
        constructor
        · rw [mentionedStates_enter]
          exact ⟨_, FirstSeenAfter.append_iff.mpr ⟨_, h.states, hstates⟩⟩
        · rw [mentionedEvents_enter]
          exact ⟨_, FirstSeenAfter.append_iff.mpr ⟨_, h.events, hevent⟩⟩
      exact ih (h.enter hcomparable) hrest

theorem Cataloged.takeStep {table : Table} (h : table.Cataloged m) {step : Step}
    (hok : (table.takeStep m step).act.result = .ok ()) :
    (table.takeStep m step).table.Cataloged m := by
  unfold Table.takeStep at hok ⊢
  split
  · exact h
  · next hsome =>
      rw [if_neg hsome] at hok
      exact h.takeRules hok

theorem Cataloged.takeSteps {table : Table} (h : table.Cataloged m) {steps : List Step}
    (hok : (table.takeSteps m steps).act.result = .ok ()) :
    (table.takeSteps m steps).table.Cataloged m := by
  induction steps generalizing table with
  | nil => exact h
  | cons step rest ih =>
      rw [Table.takeSteps] at hok ⊢
      obtain ⟨hstep, hrest⟩ := Extension.result_andThen_eq_ok_iff.mp hok
      rw [Extension.andThen_of_ok hstep]
      exact ih (h.takeStep hstep) hrest

theorem Cataloged.mem_mentionedStates {table : Table} (h : table.Cataloged m) {k : Value}
    (hk : k ∈ table.states) : k ∈ table.mentionedStates := by
  rw [← (firstSeenAfter_iff.mp h.states).2] at hk
  exact (mem_enterAll k hk).resolve_left List.not_mem_nil

theorem Cataloged.mem_mentionedEvents {table : Table} (h : table.Cataloged m) {k : Value}
    (hk : k ∈ table.events) : k ∈ table.mentionedEvents := by
  rw [← (firstSeenAfter_iff.mp h.events).2] at hk
  exact (mem_enterAll k hk).resolve_left List.not_mem_nil

/-- The catalogs of a table that is built hold what is seen first among what its rules mention. -/
theorem cataloged_of_build {declarations : List Value} {table : Table}
    (h : (build m declarations).result = .ok table) : table.Cataloged m := by
  obtain ⟨_, hok, rfl⟩ := build_eq_ok_iff.mp h
  have hempty : Table.empty.Cataloged m := ⟨.done [], .done []⟩
  exact hempty.takeSteps hok

theorem Cataloged.eq_nil_iff {table : Table} (h : table.Cataloged m) :
    (table.states = [] ↔ table.rules = []) ∧ (table.events = [] ↔ table.rules = []) := by
  constructor
  · rw [h.states.eq_nil_iff, mentionedStates]
    cases table.rules <;> simp [Rule.states]
  · rw [h.events.eq_nil_iff, mentionedEvents, List.map_eq_nil_iff]

end Table

/-- The catalogs of a reachable table hold what is seen first among what its rules mention
exactly if that can be told apart. Then the rules decide what the catalogs are, no two values
in one of them are the same, whatever a rule mentions is represented, and rules and catalogs
are empty together. -/
theorem catalogs_are_first_seen_iff {m : Interpretation} {table : Table}
    (h : table.Reachable m) :
    (table.Cataloged m ↔ table.IsComparable m) ∧
      (table.IsComparable m →
        (∀ table' : Table, table'.Reachable m → table'.rules = table.rules →
          table'.states = table.states ∧ table'.events = table.events) ∧
        table.states.Pairwise (Value.Apart m) ∧ table.events.Pairwise (Value.Apart m) ∧
        (∀ rule ∈ table.rules,
          (∀ v ∈ rule.states, ∃ k ∈ table.states, k = v ∨ k.Same m v) ∧
          ∃ k ∈ table.events, k = rule.event ∨ k.Same m rule.event) ∧
        (table.states = [] ↔ table.rules = []) ∧ (table.events = [] ↔ table.rules = [])) := by
  refine ⟨h.cataloged_iff_isComparable, fun hcomparable => ?_⟩
  have hcataloged := h.cataloged_iff_isComparable.mpr hcomparable
  refine ⟨?_, hcataloged.states.pairwise .nil, hcataloged.events.pairwise .nil,
    fun _ => hcataloged.represents, hcataloged.eq_nil_iff⟩
  intro table' h' hrules
  have hcataloged' := h'.cataloged_iff_isComparable.mpr (hcomparable.of_rules_eq hrules)
  constructor
  · have hstates := hcataloged'.states
    rw [Table.mentionedStates, hrules] at hstates
    exact hstates.unique hcataloged.states
  · have hevents := hcataloged'.events
    rw [Table.mentionedEvents, hrules] at hevents
    exact hevents.unique hcataloged.events

/-- Two rooms with the same number, one of them written in another way. -/
def roomDeclarations : List Value :=
  [.declaration (.simple (.integer 1) (.text "hall") (.text "leave")),
    .declaration (.simple .any (.boolean true) (.text "back")),
    .declaration (.simple (.text "hall") (.text "yard") (.text "leave"))]

/-- The two are the same, so they count as one. -/
theorem catalogs_are_first_seen_rooms :
    ∃ table, (build .exhausted roomDeclarations).result = .ok table ∧
      table.Cataloged .exhausted ∧ table.rules.length = 4 ∧
      table.states = [.integer 1, .text "hall", .text "yard"] ∧
      table.events = [.text "leave", .text "back"] := by
  have hbuild : (build .exhausted roomDeclarations).result = .ok _ := rfl
  obtain ⟨hiff, _⟩ := catalogs_are_first_seen_iff (Table.Reachable.build hbuild)
  refine ⟨_, hbuild, hiff.mpr ⟨?_, ?_⟩, rfl, rfl, rfl⟩
  · exact ⟨_, firstSeenAfter_iff.mpr ⟨rfl, rfl⟩⟩
  · exact ⟨_, firstSeenAfter_iff.mpr ⟨rfl, rfl⟩⟩

/-- The catalogs may fall behind the rules where states cannot be compared. A step between two
drafts without titles leaves its rule behind, with a catalog of states that lacks one of them and a
catalog of events without any. -/
theorem catalogs_are_incomplete_of_incomparable :
    (¬∀ (m : Interpretation) (table : Table), table.Reachable m → table.Cataloged m) ∧
      ¬∀ (m : Interpretation) (table : Table), table.Reachable m →
        (table.events = [] ↔ table.rules = []) := by
  let leap : Value := .declaration (.simple (draft 0 "x") (draft 1 "y") (.text "go"))
  have hreachable : (Table.empty.add .exhausted leap).table.Reachable .exhausted :=
    .add leap .empty
  have hnot : ¬((Table.empty.add .exhausted leap).table.events = [] ↔
      (Table.empty.add .exhausted leap).table.rules = []) := by
    intro h
    cases h.mp rfl
  constructor
  · intro hall
    exact hnot (hall _ _ hreachable).eq_nil_iff.2
  · intro hall
    exact hnot (hall _ _ hreachable)

end StateRules
