import StateRules.Proofs.Declaration.Acceptance
import StateRules.Proofs.Table.Catalog

/-!
Tables whose states cannot be told apart.

All that growing a table and searching it ask of states is whether one equals another, whether it is
the same as another, and whether it is a marker or a function. So where two steps are the same but
for states that cannot be told apart in these respects (`Indistinguishable`), they take tables that
correspond to one another, rule by rule and state by state, to tables that do
(`Table.Corresponds.takeSteps`), and a search comes upon the same place in both
(`Indistinguishable.result_searchFrom_iff`). One lemma for each stage says what it keeps.

Rules are recorded when they enter, for which their states have to be written. Whether they can be
is no matter of comparing, so it is asked for on both sides (`WrittenAlike`).
-/

namespace StateRules

/-- Whether values that a relation holds of cannot be told apart by comparing them, nor by what
kind of value they are. -/
structure Indistinguishable (m : Interpretation) (R : Value → Value → Prop) : Prop where
  equals : ∀ {x x' y y'}, R x x' → R y y' → ∀ answer,
    (x.equals m y).result = .ok answer ↔ (x'.equals m y').result = .ok answer
  resembles : ∀ {x x' y y'}, R x x' → R y y' → ∀ answer,
    (x.resembles m y).result = .ok answer ↔ (x'.resembles m y').result = .ok answer
  any : ∀ {x x'}, R x x' → x.isAny = x'.isAny
  unset : ∀ {x x'}, R x x' → x.isUnset = x'.isUnset
  function : ∀ {x x'}, R x x' → x.isFunction = x'.isFunction

section Relations

variable (R : Value → Value → Prop)

/-- Whether two sources correspond: both are `any`, or the states do. -/
def StartsAlike (source source' : Value) : Prop :=
  R source source' ∨ source = .any ∧ source' = .any

/-- Whether two destinations correspond: both are left out, or the states do. -/
def EndsAlike (destination destination' : Value) : Prop :=
  R destination destination' ∨ destination = .unset ∧ destination' = .unset

/-- Whether two targets correspond: they are literal and their states do, or they have the same
guard and what is declared beside it does. -/
inductive Target.Corresponds : Target → Target → Prop where
  | literal {state state' : Value} : R state state' → Corresponds (.literal state) (.literal state')
  | guarded {guard declared declared' : Value} : EndsAlike R declared declared' →
      Corresponds (.guarded guard declared) (.guarded guard declared')

structure Step.Corresponds (step step' : Step) : Prop where
  source : StartsAlike R step.source step'.source
  event : step.event = step'.event
  target : step.target.Corresponds R step'.target

structure Rule.Corresponds (rule rule' : Rule) : Prop where
  source : R rule.source rule'.source
  event : rule.event = rule'.event
  target : rule.target.Corresponds R rule'.target

/-- Whether two tables correspond, rule by rule and state by state, and know the same events. -/
structure Table.Corresponds (table table' : Table) : Prop where
  rules : List.Forall₂ (Rule.Corresponds R) table.rules table'.rules
  states : List.Forall₂ R table.states table'.states
  events : table.events = table'.events

/-- Whether both or neither of two extensions get through, and lead to tables that correspond if
they do. -/
structure Extension.Corresponds (one two : Extension) : Prop where
  ok_iff : one.act.result = .ok () ↔ two.act.result = .ok ()
  table : one.act.result = .ok () → one.table.Corresponds R two.table

end Relations

variable {m : Interpretation} {R S : Value → Value → Prop}

section Weaken

variable (h : ∀ x x', R x x' → S x x')
include h

theorem EndsAlike.imp {destination destination' : Value}
    (hends : EndsAlike R destination destination') : EndsAlike S destination destination' :=
  hends.imp_left (h _ _)

theorem Target.Corresponds.imp {target target' : Target} (htarget : target.Corresponds R target') :
    target.Corresponds S target' := by
  cases htarget with
  | literal hstate => exact .literal (h _ _ hstate)
  | guarded hdeclared => exact .guarded (hdeclared.imp h)

theorem Rule.Corresponds.imp {rule rule' : Rule} (hrule : rule.Corresponds R rule') :
    rule.Corresponds S rule' :=
  ⟨h _ _ hrule.source, hrule.event, hrule.target.imp h⟩

theorem Table.Corresponds.imp {table table' : Table} (htable : table.Corresponds R table') :
    table.Corresponds S table' :=
  ⟨htable.rules.imp fun _ _ hrule => hrule.imp h, htable.states.imp h, htable.events⟩

end Weaken

theorem Extension.Corresponds.andThen {one two : Extension} {next next' : Table → Extension}
    (h : one.Corresponds R two)
    (hnext : ∀ table table', table.Corresponds R table' →
      (next table).Corresponds R (next' table')) :
    (one.andThen next).Corresponds R (two.andThen next') := by
  constructor
  · rw [Extension.result_andThen_eq_ok_iff, Extension.result_andThen_eq_ok_iff, ← h.ok_iff]
    exact and_congr_right fun hone => (hnext _ _ (h.table hone)).ok_iff
  · intro hok
    obtain ⟨hone, hrest⟩ := Extension.ok_of_andThen hok
    rw [Extension.andThen_of_ok hone, Extension.andThen_of_ok (h.ok_iff.mp hone)]
    exact (hnext _ _ (h.table hone)).table hrest

theorem isEmpty_eq_of_forall₂ {α β : Type} {R : α → β → Prop} {xs : List α} {ys : List β}
    (h : List.Forall₂ R xs ys) : xs.isEmpty = ys.isEmpty := by
  cases h <;> rfl

namespace Indistinguishable

variable (h : Indistinguishable m R)
include h

theorem result_isKnown_iff {known known' : List Value} (hknown : List.Forall₂ R known known')
    {v v' : Value} (hv : R v v') (answer : Bool) :
    (isKnown m known v).result = .ok answer ↔ (isKnown m known' v').result = .ok answer := by
  induction hknown with
  | nil => exact Iff.rfl
  | cons hk _ ih =>
      rw [isKnown, isKnown, Act.result_bind_eq_ok_iff, Act.result_bind_eq_ok_iff]
      refine exists_congr fun alike => and_congr (h.resembles hk hv alike) ?_
      cases alike with
      | true => exact Iff.rfl
      | false => exact ih

/-- Entering states that correspond into catalogs that correspond gets through alike, and leads to
catalogs that correspond. -/
theorem enterAll {known known' : List Value} (hknown : List.Forall₂ R known known')
    {vs vs' : List Value} (hvs : List.Forall₂ R vs vs') :
    ((enterAll m known vs).2.result = .ok () ↔ (enterAll m known' vs').2.result = .ok ()) ∧
      ((enterAll m known vs).2.result = .ok () →
        List.Forall₂ R (enterAll m known vs).1 (enterAll m known' vs').1) := by
  induction hvs generalizing known known' with
  | nil => exact ⟨Iff.rfl, fun _ => hknown⟩
  | @cons v v' rest rest' hv _ ih =>
      cases hfound : (isKnown m known v).result with
      | error fault =>
          -- Where a comparison gives no answer, its counterpart gives none either.
          have hstops := (enterAll_cons_of_error hfound rest).2
          cases hfound' : (isKnown m known' v').result with
          | error fault' =>
              rw [hstops, (enterAll_cons_of_error hfound' rest').2]
              simp
          | ok isThere =>
              cases hfound.symm.trans ((h.result_isKnown_iff hknown hv isThere).mpr hfound')
      | ok isThere =>
          have hfound' := (h.result_isKnown_iff hknown hv isThere).mp hfound
          obtain ⟨hcatalog, hresult⟩ := enterAll_cons_of_ok hfound rest
          obtain ⟨hcatalog', hresult'⟩ := enterAll_cons_of_ok hfound' rest'
          rw [hcatalog, hresult, hcatalog', hresult']
          apply ih
          cases isThere with
          | true => exact hknown
          | false => exact List.rel_append hknown (.cons hv .nil)

theorem result_applies_iff {rule rule' : Rule} (hrule : rule.Corresponds R rule')
    {state state' : Value} (hstate : R state state') (event : Value) (answer : Bool) :
    (rule.applies m state event).result = .ok answer ↔
      (rule'.applies m state' event).result = .ok answer := by
  rw [Rule.applies, Rule.applies, Act.result_bind_eq_ok_iff, Act.result_bind_eq_ok_iff,
    hrule.event]
  refine exists_congr fun covered => and_congr (h.equals hrule.source hstate covered) ?_
  cases covered <;> exact Iff.rfl

/-- In tables that correspond, a search for states that correspond comes upon the same place. -/
theorem result_searchFrom_iff {rules rules' : List Rule}
    (hrules : List.Forall₂ (Rule.Corresponds R) rules rules') {state state' : Value}
    (hstate : R state state') (event : Value) (i : Nat) (found : Option Nat) :
    (Table.searchFrom m state event i rules).result = .ok found ↔
      (Table.searchFrom m state' event i rules').result = .ok found := by
  induction hrules generalizing i with
  | nil => exact Iff.rfl
  | cons hrule _ ih =>
      rw [Table.searchFrom, Table.searchFrom, Act.result_bind_eq_ok_iff,
        Act.result_bind_eq_ok_iff]
      refine exists_congr fun applies => ?_
      refine and_congr (h.result_applies_iff hrule hstate event applies) ?_
      cases applies with
      | true => exact Iff.rfl
      | false => exact ih (i + 1)

theorem named {target target' : Target} (htarget : target.Corresponds R target') :
    List.Forall₂ R target.named target'.named := by
  cases htarget with
  | literal hstate => exact .cons hstate .nil
  | @guarded guard declared declared' hdeclared =>
      obtain hstate | ⟨rfl, rfl⟩ := hdeclared
      · unfold Target.named
        dsimp only
        rw [← h.unset hstate]
        split
        · exact .nil
        · exact .cons hstate .nil
      · exact .nil

theorem isAny_eq {source source' : Value} (hsource : StartsAlike R source source') :
    source.isAny = source'.isAny := by
  obtain hstate | ⟨rfl, rfl⟩ := hsource
  · exact h.any hstate
  · rfl

/-- The rules of two steps that correspond do, where the states that are known do. -/
theorem rules {step step' : Step} (hstep : step.Corresponds R step') {known known' : List Value}
    (hknown : List.Forall₂ R known known') :
    List.Forall₂ (Rule.Corresponds R) (step.rules known) (step'.rules known') := by
  unfold Step.rules
  rw [← h.isAny_eq hstep.source]
  split
  · rw [List.forall₂_map_left_iff, List.forall₂_map_right_iff]
    exact hknown.imp fun _ _ hk => ⟨hk, hstep.event, hstep.target⟩
  · next hany =>
      obtain hsource | ⟨hsource, _⟩ := hstep.source
      · exact .cons ⟨hsource, hstep.event, hstep.target⟩ .nil
      · rw [hsource] at hany
        exact absurd rfl hany

end Indistinguishable

theorem Rule.exists_writeRecord_iff {rule : Rule} :
    (∃ record, (rule.writeRecord m).result = .ok record) ↔
      rule.source.IsWritable m ∧ (∃ shown, (rule.event.writeDisplay m).result = .ok shown) ∧
        rule.destination.IsWritable m := by
  simp only [writeRecord, Act.result_bind_eq_ok_iff, Act.result_pure]
  constructor
  · rintro ⟨_, source, hsource, shown, hshown, destination, hdestination, _⟩
    exact ⟨⟨source, hsource⟩, ⟨shown, hshown⟩, destination, hdestination⟩
  · rintro ⟨⟨source, hsource⟩, ⟨shown, hshown⟩, destination, hdestination⟩
    exact ⟨_, source, hsource, shown, hshown, destination, hdestination, rfl⟩

/-- Two states correspond and can both be written. -/
def WrittenAlike (m : Interpretation) (R : Value → Value → Prop) (x x' : Value) : Prop :=
  R x x' ∧ x.IsWritable m ∧ x'.IsWritable m

theorem Indistinguishable.writtenAlike (h : Indistinguishable m R) :
    Indistinguishable m (WrittenAlike m R) where
  equals hx hy := h.equals hx.1 hy.1
  resembles hx hy := h.resembles hx.1 hy.1
  any hx := h.any hx.1
  unset hx := h.unset hx.1
  function hx := h.function hx.1

/-- The records of rules that correspond can be written alike, if their states can. -/
theorem Rule.Corresponds.exists_writeRecord_iff {rule rule' : Rule}
    (h : rule.Corresponds (WrittenAlike m R) rule') :
    (∃ record, (rule.writeRecord m).result = .ok record) ↔
      ∃ record, (rule'.writeRecord m).result = .ok record := by
  obtain ⟨_, hwritten, hwritten'⟩ := h.source
  have hdestination : rule.destination.IsWritable m ↔ rule'.destination.IsWritable m := by
    obtain ⟨source, event, target⟩ := rule
    obtain ⟨source', event', target'⟩ := rule'
    -- The record of a guarded rule names the guard, which is the same in both.
    cases h.target with
    | literal hstate => exact iff_of_true hstate.2.1 hstate.2.2
    | guarded _ => exact Iff.rfl
  rw [Rule.exists_writeRecord_iff, Rule.exists_writeRecord_iff, h.event, hdestination]
  simp only [hwritten, hwritten']

namespace Table.Corresponds

variable {table table' : Table}

theorem empty : Table.empty.Corresponds R Table.empty := ⟨.nil, .nil, rfl⟩

theorem hasRoom_iff (hR : Indistinguishable m R) (h : table.Corresponds (WrittenAlike m R) table')
    {rule rule' : Rule} (hrule : rule.Corresponds (WrittenAlike m R) rule') :
    table.HasRoom m rule ↔ table'.HasRoom m rule' := by
  have hnamed := hR.writtenAlike.named hrule.target
  obtain ⟨hstates, _⟩ := hR.writtenAlike.enterAll h.states (.cons hrule.source hnamed)
  have hrecord := hrule.exists_writeRecord_iff
  constructor
  · rintro ⟨hok, hevent, hwritten⟩
    rw [h.events, hrule.event] at hevent
    exact ⟨hstates.mp hok, hevent, hrecord.mp hwritten⟩
  · rintro ⟨hok, hevent, hwritten⟩
    rw [← h.events, ← hrule.event] at hevent
    exact ⟨hstates.mpr hok, hevent, hrecord.mpr hwritten⟩

theorem takeRule (hR : Indistinguishable m R) (h : table.Corresponds (WrittenAlike m R) table')
    {rule rule' : Rule} (hrule : rule.Corresponds (WrittenAlike m R) rule') :
    (table.takeRule m rule).Corresponds (WrittenAlike m R) (table'.takeRule m rule') := by
  have hroom_iff := h.hasRoom_iff hR hrule
  constructor
  · rw [result_takeRule_eq_ok_iff_hasRoom, result_takeRule_eq_ok_iff_hasRoom, hroom_iff]
  · intro hok
    have hroom := result_takeRule_eq_ok_iff_hasRoom.mp hok
    have hroom' := hroom_iff.mp hroom
    have hnamed := hR.writtenAlike.named hrule.target
    obtain ⟨_, hstates⟩ := hR.writtenAlike.enterAll h.states (.cons hrule.source hnamed)
    constructor
    · rw [rules_takeRule, rules_takeRule]
      exact List.rel_append h.rules (.cons hrule .nil)
    · show List.Forall₂ _ (table.enter m rule).1.states (table'.enter m rule').1.states
      rw [states_enter, states_enter]
      exact hstates hroom.states
    · show (table.enter m rule).1.events = (table'.enter m rule').1.events
      rw [events_enter_of_ok hroom.states, events_enter_of_ok hroom'.states, h.events,
        hrule.event]

theorem takeRules (hR : Indistinguishable m R) (h : table.Corresponds (WrittenAlike m R) table')
    {rules rules' : List Rule}
    (hrules : List.Forall₂ (Rule.Corresponds (WrittenAlike m R)) rules rules') :
    (table.takeRules m rules).Corresponds (WrittenAlike m R) (table'.takeRules m rules') := by
  induction hrules generalizing table table' with
  | nil => exact ⟨Iff.rfl, fun _ => h⟩
  | cons hrule _ ih =>
      rw [Table.takeRules, Table.takeRules]
      exact (h.takeRule hR hrule).andThen fun _ _ hnext => ih hnext

theorem takeStep (hR : Indistinguishable m R) (h : table.Corresponds (WrittenAlike m R) table')
    {step step' : Step} (hstep : step.Corresponds (WrittenAlike m R) step') :
    (table.takeStep m step).Corresponds (WrittenAlike m R) (table'.takeStep m step') := by
  have hany := hR.writtenAlike.isAny_eq hstep.source
  have hempty := isEmpty_eq_of_forall₂ h.states
  unfold Table.takeStep
  rw [← hany, ← hempty]
  split
  · refine ⟨?_, fun _ => h⟩
    rw [Step.writeWarning, Step.writeWarning, hstep.event]
  · exact h.takeRules hR (hR.writtenAlike.rules hstep h.states)

/-- Of two rows of steps that correspond both or neither get into tables that correspond, and lead
to tables that do. -/
theorem takeSteps (hR : Indistinguishable m R) (h : table.Corresponds (WrittenAlike m R) table')
    {steps steps' : List Step}
    (hsteps : List.Forall₂ (Step.Corresponds (WrittenAlike m R)) steps steps') :
    (table.takeSteps m steps).Corresponds (WrittenAlike m R) (table'.takeSteps m steps') := by
  induction hsteps generalizing table table' with
  | nil => exact ⟨Iff.rfl, fun _ => h⟩
  | cons hstep _ ih =>
      rw [Table.takeSteps, Table.takeSteps]
      exact (h.takeStep hR hstep).andThen fun _ _ hnext => ih hnext

end Table.Corresponds

end StateRules
