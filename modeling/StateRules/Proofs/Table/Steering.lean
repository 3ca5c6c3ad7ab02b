import StateRules.Proofs.Table.Course
import StateRules.Proofs.Table.Wildcard

/-!
What is declared beside a guard does not steer.

The state that may be declared beside a guard documents a possible outcome. It is cataloged like
any other state, so steps for `any` that come behind it lead from it too, and the rules that they
stand for are others, in other places and from other representatives. All that an entity sees of
this is whether its own state is covered, and with it the declared states that it is equal to.

Two rows of steps that are alike but for declared states grow tables that agree on what a search
leads to, for any state that is unequal to those (`Table.Agree.takeSteps`). Where no step for `any`
comes behind the first difference, not even the places of the rules are others
(`Table.bare_takeSteps_behind`).
-/

namespace StateRules

/-- A rule without what is declared beside its guard. -/
def Rule.bare (rule : Rule) : Rule := {rule with target := rule.lead}

/-- Whether two targets are the same but for what is declared beside their guard, where what may
differ is left out or of the given kind. -/
inductive Target.Redocuments (X : Value → Prop) : Target → Target → Prop where
  | same (target : Target) : Redocuments X target target
  | declared {guard declared declared' : Value} :
      (declared.isUnset = true ∨ X declared) → (declared'.isUnset = true ∨ X declared') →
        Redocuments X (.guarded guard declared) (.guarded guard declared')

structure Step.Redocuments (X : Value → Prop) (step step' : Step) : Prop where
  source : step.source = step'.source
  event : step.event = step'.event
  target : step.target.Redocuments X step'.target

/-- Whether two entries of a guarded block are the same but for their destination, where what may
differ is left out or of the given kind. -/
inductive Value.RedocumentsEntry (X : Value → Prop) : Value → Value → Prop where
  | same (entry : Value) : RedocumentsEntry X entry entry
  | declared {source destination destination' event : Value} :
      (destination.isUnset = true ∨ X destination) →
        (destination'.isUnset = true ∨ X destination') →
          RedocumentsEntry X (.declaration (.simple source destination event))
            (.declaration (.simple source destination' event))

/-- Whether two declarations are the same but for what the entries of a guarded block declare. -/
inductive Value.Redocuments (X : Value → Prop) : Value → Value → Prop where
  | same (declaration : Value) : Redocuments X declaration declaration
  | guarded {event guard : Value} {entries entries' : List Value} :
      guard.isNull = false → List.Forall₂ (RedocumentsEntry X) entries entries' →
        Redocuments X (.declaration (.eventBlock event entries guard))
          (.declaration (.eventBlock event entries' guard))

variable {m : Interpretation} {P X : Value → Prop} {state event : Value}

theorem Target.Redocuments.bare_eq {target target' : Target} (h : target.Redocuments X target') :
    target.bare = target'.bare := by
  cases h <;> rfl

theorem not_isCovered_declared (hX : ∀ v, X v → ¬v.Equals m state) {guard declared : Value}
    (h : declared.isUnset = true ∨ X declared) :
    ¬IsCovered m (Target.guarded guard declared).named state := by
  rintro ⟨v, hv, hequals⟩
  cases hunset : declared.isUnset with
  | true => simp [Target.named, hunset] at hv
  | false =>
      obtain rfl : v = declared := by simpa [Target.named, hunset] using hv
      rcases h with hunset' | hmem
      · cases hunset.symm.trans hunset'
      · exact hX v hmem hequals

/-- A state that is unequal to what may be declared otherwise is covered by what one target names
if it is by what the other names. -/
theorem Target.Redocuments.isCovered_iff {target target' : Target}
    (h : target.Redocuments X target') (hX : ∀ v, X v → ¬v.Equals m state) :
    IsCovered m target.named state ↔ IsCovered m target'.named state := by
  cases h with
  | same => exact Iff.rfl
  | declared hone hother =>
      exact iff_of_false (not_isCovered_declared hX hone) (not_isCovered_declared hX hother)

theorem Step.Redocuments.refl (steps : List Step) :
    List.Forall₂ (Step.Redocuments X) steps steps :=
  List.forall₂_same.mpr fun _ _ => ⟨rfl, rfl, .same _⟩

theorem Value.RedocumentsEntry.steps {event guard entry entry' : Value}
    (hguard : guard.isNull = false) (h : entry.RedocumentsEntry X entry') :
    List.Forall₂ (Step.Redocuments X) (Value.fromEntrySteps event guard entry)
      (Value.fromEntrySteps event guard entry') := by
  cases h with
  | same => exact Step.Redocuments.refl _
  | declared hone hother =>
      refine .cons ⟨rfl, rfl, ?_⟩ .nil
      simp only [entryTarget, hguard, Bool.false_eq_true, if_false]
      exact .declared hone hother

/-- What two declarations read as is the same but for declared states, if they are. -/
theorem Value.Redocuments.steps {declaration declaration' : Value}
    (h : declaration.Redocuments X declaration') :
    List.Forall₂ (Step.Redocuments X) declaration.steps declaration'.steps := by
  cases h with
  | same => exact Step.Redocuments.refl _
  | guarded hguard hentries =>
      exact List.rel_flatMap hentries fun _ _ hentry => hentry.steps hguard

namespace Table

/-- Two tables agree on what a search for a state and an event leads to, and will go on to do so
whatever steps they take: their catalogs cover the state alike, and neither or both are empty. -/
structure Agree (m : Interpretation) (P : Value → Prop) (state event : Value)
    (table table' : Table) : Prop where
  kind : ∀ k ∈ table.states, P k
  kind' : ∀ k ∈ table'.states, P k
  empty : table.states = [] ↔ table'.states = []
  covered : IsCovered m table.states state ↔ IsCovered m table'.states state
  lead : table.lead m state event = table'.lead m state event

namespace Agree

variable {table table' : Table} {step step' : Step}

theorem refl_empty : Agree m P state event Table.empty Table.empty :=
  ⟨by simp [Table.empty], by simp [Table.empty], Iff.rfl, Iff.rfl, rfl⟩

/-- Steps that are the same but for declared states have sources that cover a state alike. -/
theorem sources (h : Agree m P state event table table') (hstep : step.Redocuments X step') :
    (step.sources table.states = [] ↔ step'.sources table'.states = []) ∧
      (IsCovered m (step.sources table.states) state ↔
        IsCovered m (step'.sources table'.states) state) := by
  rw [Step.sources_eq_nil_iff, Step.sources_eq_nil_iff, h.empty, hstep.source]
  refine ⟨Iff.rfl, ?_⟩
  unfold Step.sources
  rw [hstep.source]
  split
  · exact h.covered
  · exact Iff.rfl

/-- The rules of such steps lead to the same. -/
theorem lead_rules (hm : ComparesWell m P) (hstate : P state)
    (h : Agree m P state event table table') (hstep : step.Redocuments X step')
    (hsources : ∀ k ∈ step.sources table.states, P k)
    (hsources' : ∀ k ∈ step'.sources table'.states, P k) :
    firstAmong Rule.lead m state event (step.rules table.states) =
      firstAmong Rule.lead m state event (step'.rules table'.states) := by
  obtain ⟨_, hcovers⟩ := h.sources hstep
  rw [Step.rules_eq_map_sources, Step.rules_eq_map_sources]
  by_cases hcovered : IsCovered m (step.sources table.states) state
  · have hlead (k : Value) : Rule.lead ⟨k, step.event, step.target⟩ = step.target.bare := rfl
    have hlead' (k : Value) : Rule.lead ⟨k, step'.event, step'.target⟩ = step.target.bare :=
      hstep.target.bare_eq.symm
    rw [firstAmong_of_isCovered hm hstate hsources hcovered _ _ hlead,
      firstAmong_of_isCovered hm hstate hsources' (hcovers.mp hcovered) _ _ hlead', hstep.event]
  · rw [firstAmong_of_not_isCovered hm hstate hsources hcovered,
      firstAmong_of_not_isCovered hm hstate hsources' (hcovers.not.mp hcovered)]

theorem takeStep (hm : ComparesWell m P) (hstate : P state) (hX : ∀ v, X v → ¬v.Equals m state)
    (h : Agree m P state event table table') (hstep : step.Redocuments X step')
    (hok : (table.takeStep m step).act.result = .ok ())
    (hok' : (table'.takeStep m step').act.result = .ok ())
    (hmentioned : ∀ v ∈ (step.rules table.states).flatMap Rule.states, P v)
    (hmentioned' : ∀ v ∈ (step'.rules table'.states).flatMap Rule.states, P v) :
    Agree m P state event (table.takeStep m step).table (table'.takeStep m step').table := by
  obtain ⟨hnone, hcovers⟩ := h.sources hstep
  have hlead := h.lead_rules hm hstate hstep (Step.forall_sources hmentioned)
    (Step.forall_sources hmentioned')
  constructor
  · exact forall_states_takeStep h.kind hok hmentioned
  · exact forall_states_takeStep h.kind' hok' hmentioned'
  · rw [states_takeStep_eq_nil_iff hok, states_takeStep_eq_nil_iff hok', h.empty, hstep.source]
  · rw [isCovered_takeStep_iff hm hok h.kind hmentioned hstate,
      isCovered_takeStep_iff hm hok' h.kind' hmentioned' hstate, h.covered, hcovers, Ne, hnone,
      hstep.target.isCovered_iff hX]
  · rw [lead_eq_firstAmong, lead_eq_firstAmong, rules_takeStep_of_ok hok,
      rules_takeStep_of_ok hok', firstAmong_append, firstAmong_append, ← lead_eq_firstAmong table,
      ← lead_eq_firstAmong table', h.lead, hlead]

/-- Rows of steps that are the same but for declared states lead tables that agree to tables that
agree, on every state that is unequal to what may be declared otherwise. -/
theorem takeSteps (hm : ComparesWell m P) (hstate : P state) (hX : ∀ v, X v → ¬v.Equals m state)
    {steps steps' : List Step} (hsteps : List.Forall₂ (Step.Redocuments X) steps steps')
    (h : Agree m P state event table table')
    (hok : (table.takeSteps m steps).act.result = .ok ())
    (hok' : (table'.takeSteps m steps').act.result = .ok ())
    (hmentioned : ∀ v ∈ (table.takeSteps m steps).table.mentionedStates, P v)
    (hmentioned' : ∀ v ∈ (table'.takeSteps m steps').table.mentionedStates, P v) :
    Agree m P state event (table.takeSteps m steps).table (table'.takeSteps m steps').table := by
  induction hsteps generalizing table table' with
  | nil => exact h
  | cons hstep _ ih =>
      rw [Table.takeSteps] at hok hok' hmentioned hmentioned' ⊢
      rw [Table.takeSteps]
      obtain ⟨hfirst, hrest⟩ := Extension.result_andThen_eq_ok_iff.mp hok
      obtain ⟨hfirst', hrest'⟩ := Extension.result_andThen_eq_ok_iff.mp hok'
      rw [Extension.andThen_of_ok hfirst] at hmentioned ⊢
      rw [Extension.andThen_of_ok hfirst'] at hmentioned' ⊢
      refine ih (h.takeStep hm hstate hX hstep hfirst hfirst' ?_ ?_) hrest hrest' hmentioned
        hmentioned'
      · exact mentioned_of_takeSteps hfirst hrest hmentioned
      · exact mentioned_of_takeSteps hfirst' hrest' hmentioned'

end Agree

/-- Searching does not look at what is declared beside guards. -/
theorem searchFrom_bare (i : Nat) (rules : List Rule) :
    searchFrom m state event i (rules.map Rule.bare) = searchFrom m state event i rules := by
  induction rules generalizing i with
  | nil => rfl
  | cons rule rest ih =>
      rw [List.map_cons, searchFrom, searchFrom, ih]
      rfl

theorem searchIndex_congr {table table' : Table}
    (h : table.rules.map Rule.bare = table'.rules.map Rule.bare) (state event : Value) :
    table.searchIndex m state event = table'.searchIndex m state event := by
  rw [searchIndex, searchIndex, ← searchFrom_bare, h, searchFrom_bare]

theorem getElem?_lead (rules : List Rule) (i : Nat) :
    rules[i]?.map Rule.lead = (rules.map Rule.bare)[i]?.map Rule.target := by
  rw [List.getElem?_map, Option.map_map]
  rfl

/-- Tables whose rules are the same but for declared states take every entity the same way. -/
theorem transit_congr {table table' : Table}
    (h : table.rules.map Rule.bare = table'.rules.map Rule.bare) (accessor : Accessor)
    (entity event : Value) :
    transit m accessor table entity event = transit m accessor table' entity event := by
  rw [transit_eq_follow, transit_eq_follow]
  refine congrArg _ (funext fun state => ?_)
  rw [search, search, bind_assoc, bind_assoc, searchIndex_congr h]
  refine congrArg _ (funext fun found => ?_)
  rw [pure_bind, pure_bind]
  cases found with
  | none => rfl
  | some i => rw [Option.bind_some, Option.bind_some, getElem?_lead, getElem?_lead, h]

section Bare

variable {table table' : Table} {step step' : Step} {steps steps' : List Step}

theorem bare_takeStep (hstep : step.Redocuments X step')
    (hsources : step.sources table.states = step'.sources table'.states)
    (h : table.rules.map Rule.bare = table'.rules.map Rule.bare)
    (hok : (table.takeStep m step).act.result = .ok ())
    (hok' : (table'.takeStep m step').act.result = .ok ()) :
    (table.takeStep m step).table.rules.map Rule.bare =
      (table'.takeStep m step').table.rules.map Rule.bare := by
  rw [rules_takeStep_of_ok hok, rules_takeStep_of_ok hok', List.map_append, List.map_append, h,
    Step.rules_eq_map_sources, Step.rules_eq_map_sources, hsources, List.map_map, List.map_map]
  refine congrArg _ (List.map_congr_left fun source _ => ?_)
  simp only [Function.comp_apply, Rule.bare, Rule.lead, hstep.event, hstep.target.bare_eq]

/-- Steps that lead from a state of their own stand for rules that are the same but for declared
states, whatever is known by then. -/
theorem bare_takeSteps (hsteps : List.Forall₂ (Step.Redocuments X) steps steps')
    (hown : ∀ step ∈ steps, step.source.isAny = false)
    (h : table.rules.map Rule.bare = table'.rules.map Rule.bare)
    (hok : (table.takeSteps m steps).act.result = .ok ())
    (hok' : (table'.takeSteps m steps').act.result = .ok ()) :
    (table.takeSteps m steps).table.rules.map Rule.bare =
      (table'.takeSteps m steps').table.rules.map Rule.bare := by
  induction hsteps generalizing table table' with
  | nil => exact h
  | @cons step step' _ _ hstep _ ih =>
      obtain ⟨hfirst, hrest⟩ := List.forall_mem_cons.mp hown
      have hsources : step.sources table.states = step'.sources table'.states := by
        simp only [Step.sources, ← hstep.source, hfirst, Bool.false_eq_true, if_false]
      rw [takeSteps] at hok hok' ⊢
      rw [takeSteps]
      obtain ⟨hok, hmore⟩ := Extension.result_andThen_eq_ok_iff.mp hok
      obtain ⟨hok', hmore'⟩ := Extension.result_andThen_eq_ok_iff.mp hok'
      rw [Extension.andThen_of_ok hok, Extension.andThen_of_ok hok']
      exact ih hrest (bare_takeStep hstep hsources h hok hok') hmore hmore'

/-- The same for steps that come behind the same ones, the first of them for `any` or not: what is
known by then is the same. -/
theorem bare_takeSteps_behind {before : List Step} (hstep : step.Redocuments X step')
    (hsteps : List.Forall₂ (Step.Redocuments X) steps steps')
    (hown : ∀ step ∈ steps, step.source.isAny = false)
    (hok : (table.takeSteps m (before ++ step :: steps)).act.result = .ok ())
    (hok' : (table.takeSteps m (before ++ step' :: steps')).act.result = .ok ()) :
    (table.takeSteps m (before ++ step :: steps)).table.rules.map Rule.bare =
      (table.takeSteps m (before ++ step' :: steps')).table.rules.map Rule.bare := by
  rw [takeSteps_append] at hok hok' ⊢
  rw [takeSteps_append]
  obtain ⟨hbefore, hmore⟩ := Extension.result_andThen_eq_ok_iff.mp hok
  obtain ⟨_, hmore'⟩ := Extension.result_andThen_eq_ok_iff.mp hok'
  rw [Extension.andThen_of_ok hbefore, Extension.andThen_of_ok hbefore]
  rw [takeSteps] at hmore hmore' ⊢
  rw [takeSteps]
  obtain ⟨hfirst, hrest⟩ := Extension.result_andThen_eq_ok_iff.mp hmore
  obtain ⟨hfirst', hrest'⟩ := Extension.result_andThen_eq_ok_iff.mp hmore'
  rw [Extension.andThen_of_ok hfirst, Extension.andThen_of_ok hfirst']
  have hsources : step.sources (table.takeSteps m before).table.states =
      step'.sources (table.takeSteps m before).table.states := by
    simp only [Step.sources, hstep.source]
  exact bare_takeSteps hsteps hown (bare_takeStep hstep hsources rfl hfirst hfirst') hrest hrest'

end Bare

end Table

/-- What is declared beside guards does not steer. Let two rows of declarations that are built be
the same but for states declared beside guards. Then an entity takes the same course by both tables
if its state is unequal to every state that is declared otherwise, as long as comparing makes sense
for its state and those that the rules mention. If no step for `any` comes behind the first that
differs, this holds for every entity and without that, whatever values there are (see
`StateRules.Proofs.Table.Search`): the search asks the same, finds a rule in the same place, and all
that happens is the same. -/
theorem declared_states_do_not_steer {m : Interpretation} {X : Value → Prop}
    {declarations declarations' : List Value} {table table' : Table}
    (h : List.Forall₂ (Value.Redocuments X) declarations declarations')
    (hbuild : (build m declarations).result = .ok table)
    (hbuild' : (build m declarations').result = .ok table') :
    (∀ P : Value → Prop, ComparesWell m P → (∀ v ∈ table.mentionedStates, P v) →
      (∀ v ∈ table'.mentionedStates, P v) →
        ∀ (accessor : Accessor) (entity event state : Value),
          (accessor.get m entity).result = .ok state → P state →
            (∀ v, X v → ¬v.Equals m state) →
              SameCourse m accessor table table' entity event state) ∧
    ∀ (before : List Step) (step step' : Step) (after after' : List Step),
      declarations.flatMap Value.steps = before ++ step :: after →
      declarations'.flatMap Value.steps = before ++ step' :: after' →
      (∀ other ∈ after, other.source.isAny = false) →
        ∀ event : Value,
          (∀ state, table.searchIndex m state event = table'.searchIndex m state event) ∧
          ∀ (accessor : Accessor) (entity : Value),
            transit m accessor table entity event = transit m accessor table' entity event := by
  obtain ⟨_, hok, rfl⟩ := build_eq_ok_iff.mp hbuild
  obtain ⟨_, hok', rfl⟩ := build_eq_ok_iff.mp hbuild'
  have hsteps : List.Forall₂ (Step.Redocuments X) (declarations.flatMap Value.steps)
      (declarations'.flatMap Value.steps) :=
    List.rel_flatMap h fun _ _ hdeclaration => hdeclaration.steps
  constructor
  · intro P hm hmentioned hmentioned' accessor entity event state hget hstate hX
    have hempty : Table.Agree m P state event Table.empty Table.empty := .refl_empty
    have hagree := hempty.takeSteps hm hstate hX hsteps hok hok' hmentioned hmentioned'
    exact SameCourse.of_lead_eq hget hagree.lead
  · intro before step step' after after' hrow hrow' hown event
    rw [hrow] at hok hsteps ⊢
    rw [hrow'] at hok' hsteps ⊢
    have hbehind := List.forall₂_drop before.length hsteps
    rw [List.drop_left, List.drop_left] at hbehind
    obtain ⟨hstep, hafter⟩ := List.forall₂_cons.mp hbehind
    have hbare := Table.bare_takeSteps_behind hstep hafter hown hok hok'
    exact ⟨fun state => Table.searchIndex_congr hbare state event,
      fun accessor entity => Table.transit_congr hbare accessor entity event⟩

/-- An order that is checked when it is new and may then be dropped, with or without a state that
the check is said to lead to. -/
def checkedThenDropped (declared : Value) : List Value :=
  [.declaration (.eventBlock (.text "check")
      [.declaration (.simple (.text "new") declared .null)] orderGuard),
    .declaration (.simple .any (.text "void") (.text "drop"))]

/-- An order that may be dropped when it is new and is then checked in whatever state. -/
def droppedThenChecked (declared : Value) : List Value :=
  [.declaration (.simple (.text "new") (.text "void") (.text "drop")),
    .declaration (.eventBlock (.text "check") [.declaration (.simple .any declared .null)]
      orderGuard)]

/-- With a state declared beside the check there is one more rule for dropping an order, and a new
order is dropped all the same. Where checking comes last, it makes no difference to any order. -/
theorem declared_states_do_not_steer_orders :
    (∃ table table', (build .exhausted (checkedThenDropped (.text "paid"))).result = .ok table ∧
      (build .exhausted (checkedThenDropped .unset)).result = .ok table' ∧
      table.rules.length = 3 ∧ table'.rules.length = 2 ∧
      SameCourse .exhausted .whole table table' (.text "new") (.text "drop") (.text "new")) ∧
    ∃ table table', (build .exhausted (droppedThenChecked (.text "sent"))).result = .ok table ∧
      (build .exhausted (droppedThenChecked .unset)).result = .ok table' ∧
      ∀ entity : Value, transit .exhausted .whole table entity (.text "check") =
        transit .exhausted .whole table' entity (.text "check") := by
  have hredocuments (source declared : Value) : Value.Redocuments (· = declared)
      (.declaration (.eventBlock (.text "check") [.declaration (.simple source declared .null)]
        orderGuard))
      (.declaration (.eventBlock (.text "check") [.declaration (.simple source .unset .null)]
        orderGuard)) :=
    .guarded rfl (.cons (.declared (.inr rfl) (.inl rfl)) .nil)
  constructor
  · have hbuild : (build .exhausted (checkedThenDropped (.text "paid"))).result = .ok _ := rfl
    have hbuild' : (build .exhausted (checkedThenDropped .unset)).result = .ok _ := rfl
    obtain ⟨hcourse, _⟩ := declared_states_do_not_steer
      (.cons (hredocuments _ _) (.cons (.same _) .nil)) hbuild hbuild'
    refine ⟨_, _, hbuild, hbuild', rfl, rfl, ?_⟩
    refine hcourse _ comparesWell_of_isAtom ?_ ?_ .whole _ _ (.text "new") rfl ⟨rfl, rfl⟩ ?_
    · decide
    · decide
    · rintro _ rfl hequals
      cases hequals
  · have hbuild : (build .exhausted (droppedThenChecked (.text "sent"))).result = .ok _ := rfl
    have hbuild' : (build .exhausted (droppedThenChecked .unset)).result = .ok _ := rfl
    obtain ⟨_, hsame⟩ := declared_states_do_not_steer
      (.cons (.same _) (.cons (hredocuments _ _) .nil)) hbuild hbuild'
    refine ⟨_, _, hbuild, hbuild', fun entity => ?_⟩
    exact (hsame [⟨.text "new", .text "drop", .literal (.text "void")⟩] _ _ [] [] rfl rfl
      (by simp) (.text "check")).2 .whole entity

end StateRules
