import StateRules.Proofs.Table.Conservation
import StateRules.Proofs.Table.Correspondence
import StateRules.Proofs.Table.Course
import StateRules.Proofs.Table.Legibility
import StateRules.Proofs.Table.Run

/-!
Declarations that commute.

Two declarations that have sources of their own and never decide for the same state and event can
change places. What changes with them is more than the order of their rules: of states that are
equal a catalog keeps the one that it meets first, so later steps for `any` may lead from other
representatives, in another order, and the places of all later rules may be others.

None of this is seen in a decision. Two tables whose rules mention the same values know states that
cover the same (`Table.Alike.isCovered_iff`), so a step for `any` has a rule for a state in one of
them if it has one in the other, and its rules have the same target (`Table.Alike.takeStep`). The
other table also has room for them: comparing answers for all values at hand, and what is mentioned
in a table that is built can be written wherever it stands (`Table.IsLegible`).

All this is about values for which comparing makes sense, the event that is asked for included. One
that equals the events of both declarations is decided by whichever comes first
(`exchange_shows_on_intransitive_event`).
-/

namespace StateRules

variable {m : Interpretation} {P Q : Value → Prop}

theorem exists_isKnown (hm : ComparesWell m P) {known : List Value} (hknown : ∀ k ∈ known, P k)
    {v : Value} (hv : P v) : ∃ isThere, (isKnown m known v).result = .ok isThere := by
  induction known with
  | nil => exact ⟨false, rfl⟩
  | cons k rest ih =>
      obtain ⟨hk, hrest⟩ := List.forall_mem_cons.mp hknown
      have hanswer : ∃ answer, (k.resembles m v).result = .ok answer := by
        unfold Value.resembles
        split
        · exact ⟨true, rfl⟩
        · exact hm.answers hk hv
      obtain ⟨answer, hanswer⟩ := hanswer
      rw [isKnown, Act.result_bind_of_ok hanswer]
      cases answer with
      | true => exact ⟨true, rfl⟩
      | false => exact ih hrest

/-- Where comparing makes sense, values of the kind are entered without a stop. -/
theorem result_enterAll_of_comparesWell (hm : ComparesWell m P) {known vs : List Value}
    (hknown : ∀ k ∈ known, P k) (hvs : ∀ v ∈ vs, P v) :
    (enterAll m known vs).2.result = .ok () := by
  induction vs generalizing known with
  | nil => rfl
  | cons v rest ih =>
      obtain ⟨hv, hrest⟩ := List.forall_mem_cons.mp hvs
      obtain ⟨isThere, hthere⟩ := exists_isKnown hm hknown hv
      rw [(enterAll_cons_of_ok hthere rest).2]
      refine ih ?_ hrest
      cases isThere with
      | true => exact hknown
      | false => exact List.forall_mem_append.mpr ⟨hknown, List.forall_mem_singleton.mpr hv⟩

/-- Whether what a rule mentions is of kinds for which comparing makes sense, and its record can be
written. -/
structure Rule.Fits (m : Interpretation) (P Q : Value → Prop) (rule : Rule) : Prop where
  states : ∀ v ∈ rule.states, P v
  event : Q rule.event
  record : ∃ record, (rule.writeRecord m).result = .ok record

/-- For a state and an event of these kinds a rule either declines or applies. -/
theorem Rule.declines_or_applies (hm : ComparesWell m P) (hn : ComparesWell m Q) {rule : Rule}
    (hsource : P rule.source) (hrule : Q rule.event) {state event : Value} (hstate : P state)
    (hevent : Q event) : rule.Declines m state event ∨ rule.Applies m state event := by
  rw [declines_iff, applies_iff]
  by_cases hcovers : rule.source.Equals m state
  · by_cases hfits : rule.event.Equals m event
    · exact .inr ⟨hcovers, hfits⟩
    · exact .inl (.inr ⟨hcovers, hn.differs_of_not_equals hrule hevent hfits⟩)
  · exact .inl (.inl (hm.differs_of_not_equals hsource hstate hcovers))

namespace Table

/-- Rules that fit get into a table whose catalogs are of these kinds. -/
theorem result_takeRules_of_fits (hm : ComparesWell m P) (hn : ComparesWell m Q) {table : Table}
    (hstates : ∀ k ∈ table.states, P k) (hevents : ∀ k ∈ table.events, Q k) {rules : List Rule}
    (hrules : ∀ rule ∈ rules, rule.Fits m P Q) :
    (table.takeRules m rules).act.result = .ok () := by
  induction rules generalizing table with
  | nil => rfl
  | cons rule rest ih =>
      obtain ⟨hrule, hrest⟩ := List.forall_mem_cons.mp hrules
      have hroom : table.HasRoom m rule :=
        ⟨result_enterAll_of_comparesWell hm hstates hrule.states,
          exists_isKnown hn hevents hrule.event, hrule.record⟩
      rw [takeRules, Extension.result_andThen_eq_ok_iff]
      refine ⟨result_takeRule_eq_ok_iff_hasRoom.mpr hroom, ih ?_ ?_ hrest⟩
      · exact forall_states_enter hstates hrule.states
      · exact forall_events_enter hevents hrule.event

theorem exists_record_of_takeRules {table : Table} {rules : List Rule}
    (h : (table.takeRules m rules).act.result = .ok ()) :
    ∀ rule ∈ rules, ∃ record, (rule.writeRecord m).result = .ok record := by
  induction rules generalizing table with
  | nil =>
      intro rule hrule
      cases hrule
  | cons rule rest ih =>
      obtain ⟨hrule, hrest⟩ := Extension.result_andThen_eq_ok_iff.mp h
      exact List.forall_mem_cons.mpr
        ⟨(result_takeRule_eq_ok_iff_hasRoom.mp hrule).record, ih hrest⟩

theorem exists_record_of_takeStep {table : Table} {step : Step}
    (h : (table.takeStep m step).act.result = .ok ()) :
    ∀ rule ∈ step.rules table.states, ∃ record, (rule.writeRecord m).result = .ok record := by
  unfold takeStep at h
  split at h
  · next hnone =>
      simp only [Bool.and_eq_true, List.isEmpty_iff] at hnone
      simp [Step.rules, hnone.1, hnone.2]
  · exact exists_record_of_takeRules h

theorem Grows.mentionedStates {table grown : Table} (h : table.Grows grown) {v : Value}
    (hv : v ∈ table.mentionedStates) : v ∈ grown.mentionedStates := by
  obtain ⟨rule, hrule, hmem⟩ := List.mem_flatMap.mp hv
  exact List.mem_flatMap.mpr ⟨rule, h.rules.subset hrule, hmem⟩

theorem Grows.mentionedEvents {table grown : Table} (h : table.Grows grown) {v : Value}
    (hv : v ∈ table.mentionedEvents) : v ∈ grown.mentionedEvents := by
  obtain ⟨rule, hrule, rfl⟩ := List.mem_map.mp hv
  exact List.mem_map_of_mem (h.rules.subset hrule)

/-- Once a step is in, what was mentioned is, and what the step mentions if it stands for a rule.
What is known by then has been mentioned before. -/
theorem Cataloged.mem_mentionedStates_takeStep_iff {table : Table} (h : table.Cataloged m)
    {step : Step} (hok : (table.takeStep m step).act.result = .ok ()) {v : Value} :
    v ∈ (table.takeStep m step).table.mentionedStates ↔
      v ∈ table.mentionedStates ∨ (step.source.isAny = false ∧ v = step.source) ∨
        (step.sources table.states ≠ [] ∧ v ∈ step.target.named) := by
  have hsources : ∀ k ∈ step.sources table.states,
      k ∈ table.mentionedStates ∨ step.source.isAny = false ∧ k = step.source := by
    intro k hk
    unfold Step.sources at hk
    split at hk
    · exact .inl (h.mem_mentionedStates hk)
    · next hown => exact .inr ⟨eq_false_of_ne_true hown, List.mem_singleton.mp hk⟩
  rw [mentionedStates, rules_takeStep_of_ok hok, List.flatMap_append, List.mem_append,
    Step.rules_eq_map_sources]
  refine or_congr_right' fun hnew => ?_
  constructor
  · intro hv
    obtain ⟨rule, hrule, hmention⟩ := List.mem_flatMap.mp hv
    obtain ⟨source, hsource, rfl⟩ := List.mem_map.mp hrule
    rcases List.mem_cons.mp hmention with rfl | hnamed
    · exact .inl ((hsources _ hsource).resolve_left hnew)
    · exact .inr ⟨List.ne_nil_of_mem hsource, hnamed⟩
  · rintro (⟨hown, rfl⟩ | ⟨hsome, hnamed⟩)
    · have hsource : step.source ∈ step.sources table.states := by simp [Step.sources, hown]
      exact List.mem_flatMap.mpr ⟨_, List.mem_map_of_mem hsource, List.mem_cons_self⟩
    · obtain ⟨source, hsource⟩ := List.exists_mem_of_ne_nil _ hsome
      exact List.mem_flatMap.mpr
        ⟨_, List.mem_map_of_mem hsource, List.mem_cons_of_mem _ hnamed⟩

theorem mem_mentionedEvents_takeStep_iff {table : Table} {step : Step}
    (hok : (table.takeStep m step).act.result = .ok ()) {v : Value} :
    v ∈ (table.takeStep m step).table.mentionedEvents ↔
      v ∈ table.mentionedEvents ∨ (step.sources table.states ≠ [] ∧ v = step.event) := by
  rw [mentionedEvents, rules_takeStep_of_ok hok, List.map_append, List.mem_append,
    Step.rules_eq_map_sources, List.map_map]
  refine or_congr_right ?_
  constructor
  · intro hv
    obtain ⟨source, hsource, rfl⟩ := List.mem_map.mp hv
    exact ⟨List.ne_nil_of_mem hsource, rfl⟩
  · rintro ⟨hsome, rfl⟩
    obtain ⟨source, hsource⟩ := List.exists_mem_of_ne_nil _ hsome
    exact List.mem_map_of_mem hsource

/-- Two tables with full catalogs are alike if their rules mention the same values, in whatever
order and however often, and what applies first for a state and an event has the same target. -/
structure Alike (m : Interpretation) (P Q : Value → Prop) (table table' : Table) : Prop where
  cataloged : table.Cataloged m
  cataloged' : table'.Cataloged m
  states : ∀ v, v ∈ table.mentionedStates ↔ v ∈ table'.mentionedStates
  events : ∀ v, v ∈ table.mentionedEvents ↔ v ∈ table'.mentionedEvents
  choice : ∀ state event, P state → Q event →
    firstAmong Rule.target m state event table.rules =
      firstAmong Rule.target m state event table'.rules

namespace Alike

variable {table table' : Table}

theorem refl (h : table.Cataloged m) : Alike m P Q table table :=
  ⟨h, h, fun _ => Iff.rfl, fun _ => Iff.rfl, fun _ _ _ _ => rfl⟩

theorem symm (h : Alike m P Q table table') : Alike m P Q table' table :=
  ⟨h.cataloged', h.cataloged, fun v => (h.states v).symm, fun v => (h.events v).symm,
    fun state event hstate hevent => (h.choice state event hstate hevent).symm⟩

theorem states_eq_nil_iff (h : Alike m P Q table table') :
    table.states = [] ↔ table'.states = [] := by
  rw [h.cataloged.states.eq_nil_iff, h.cataloged'.states.eq_nil_iff, List.eq_nil_iff_forall_not_mem,
    List.eq_nil_iff_forall_not_mem]
  exact forall_congr' fun v => not_congr (h.states v)

/-- The catalogs may hold other representatives, but they cover the same states. -/
theorem isCovered_iff (hm : ComparesWell m P) (h : Alike m P Q table table')
    (hmentioned : ∀ v ∈ table.mentionedStates, P v) {state : Value} (hstate : P state) :
    IsCovered m table.states state ↔ IsCovered m table'.states state := by
  have hmentioned' : ∀ v ∈ table'.mentionedStates, P v := fun v hv =>
    hmentioned v ((h.states v).mpr hv)
  rw [h.cataloged.states.isCovered_iff hm (by simp) hmentioned hstate,
    h.cataloged'.states.isCovered_iff hm (by simp) hmentioned' hstate]
  exact or_congr_right (exists_congr fun v => and_congr_left' (h.states v))

/-- A step has sources in one table if it has in the other, and they cover the same states. -/
theorem sources (hm : ComparesWell m P) (h : Alike m P Q table table')
    (hmentioned : ∀ v ∈ table.mentionedStates, P v) (step : Step) :
    (step.sources table.states = [] ↔ step.sources table'.states = []) ∧
      ∀ state, P state → (IsCovered m (step.sources table.states) state ↔
        IsCovered m (step.sources table'.states) state) := by
  rw [Step.sources_eq_nil_iff, Step.sources_eq_nil_iff, h.states_eq_nil_iff]
  refine ⟨Iff.rfl, fun state hstate => ?_⟩
  unfold Step.sources
  split
  · exact h.isCovered_iff hm hmentioned hstate
  · exact Iff.rfl

/-- The sources of a step in the other table are mentioned in this one once the step is in. -/
theorem mem_mentionedStates_of_sources (h : Alike m P Q table table') {step : Step}
    (hok : (table.takeStep m step).act.result = .ok ()) {source : Value}
    (hsource : source ∈ step.sources table'.states) :
    source ∈ (table.takeStep m step).table.mentionedStates := by
  rw [h.cataloged.mem_mentionedStates_takeStep_iff hok]
  unfold Step.sources at hsource
  split at hsource
  · exact .inl ((h.states source).mpr (h.cataloged'.mem_mentionedStates hsource))
  · next hown => exact .inr (.inl ⟨eq_false_of_ne_true hown, List.mem_singleton.mp hsource⟩)

variable {step : Step}

/-- A step that gets into one of two tables that are alike gets into the other. -/
theorem result_takeStep (hm : ComparesWell m P) (hn : ComparesWell m Q)
    (h : Alike m P Q table table') (hok : (table.takeStep m step).act.result = .ok ())
    (hstates : ∀ v ∈ (table.takeStep m step).table.mentionedStates, P v)
    (hevents : ∀ v ∈ (table.takeStep m step).table.mentionedEvents, Q v)
    (hwritable : ∀ v ∈ (table.takeStep m step).table.mentionedStates, v.IsWritable m) :
    (table'.takeStep m step).act.result = .ok () := by
  have hmentions {v : Value} := h.cataloged.mem_mentionedStates_takeStep_iff hok (v := v)
  have hcues {v : Value} := mem_mentionedEvents_takeStep_iff hok (v := v)
  have hmentioned : ∀ v ∈ table.mentionedStates, P v := fun v hv =>
    hstates v (hmentions.mpr (.inl hv))
  have hknown : ∀ k ∈ table'.states, P k := fun k hk =>
    hmentioned k ((h.states k).mpr (h.cataloged'.mem_mentionedStates hk))
  have hmet : ∀ k ∈ table'.events, Q k := fun k hk =>
    hevents k (hcues.mpr (.inl ((h.events k).mpr (h.cataloged'.mem_mentionedEvents hk))))
  unfold Table.takeStep
  split
  · next hnone =>
      -- The step stands for no rule in either table, and its warning has been written once.
      simp only [Bool.and_eq_true, List.isEmpty_iff, ← h.states_eq_nil_iff] at hnone
      have hwarned : table.AdmitsStep m step := result_takeStep_eq_ok_iff.mp hok
      simp only [AdmitsStep, hnone.1, hnone.2, List.isEmpty_nil, Bool.and_self, if_true] at hwarned
      obtain ⟨record, hrecord⟩ := hwarned
      exact Act.result_bind_eq_ok_iff.mpr ⟨record, hrecord, rfl⟩
  · apply result_takeRules_of_fits hm hn hknown hmet
    rw [Step.rules_eq_map_sources, List.forall_mem_map]
    intro source hsource
    -- The step stands for some rule in the first table, whose record names the event and the
    -- destination.
    have hsome : step.sources table.states ≠ [] :=
      (h.sources hm hmentioned step).1.not.mpr (List.ne_nil_of_mem hsource)
    obtain ⟨first, hfirst⟩ := List.exists_mem_of_ne_nil _ hsome
    have hrule : (⟨first, step.event, step.target⟩ : Rule) ∈ step.rules table.states := by
      rw [Step.rules_eq_map_sources]
      exact List.mem_map_of_mem hfirst
    obtain ⟨_, hevent, hdestination⟩ :=
      Rule.exists_writeRecord_iff.mp (exists_record_of_takeStep hok _ hrule)
    have hmem := h.mem_mentionedStates_of_sources hok hsource
    have hnamed : ∀ v ∈ step.target.named, P v := fun v hv =>
      hstates v (hmentions.mpr (.inr (.inr ⟨hsome, hv⟩)))
    exact ⟨List.forall_mem_cons.mpr ⟨hstates source hmem, hnamed⟩,
      hevents _ (hcues.mpr (.inr ⟨hsome, rfl⟩)),
      Rule.exists_writeRecord_iff.mpr ⟨hwritable source hmem, hevent, hdestination⟩⟩

/-- A step takes tables that are alike to tables that are alike. -/
theorem takeStep (hm : ComparesWell m P) (h : Alike m P Q table table')
    (hok : (table.takeStep m step).act.result = .ok ())
    (hok' : (table'.takeStep m step).act.result = .ok ())
    (hstates : ∀ v ∈ (table.takeStep m step).table.mentionedStates, P v) :
    Alike m P Q (table.takeStep m step).table (table'.takeStep m step).table := by
  have hmentioned : ∀ v ∈ table.mentionedStates, P v := fun v hv =>
    hstates v ((h.cataloged.mem_mentionedStates_takeStep_iff hok).mpr (.inl hv))
  have hsources : ∀ k ∈ step.sources table.states, P k := fun k hk =>
    hstates k ((refl (P := P) (Q := Q) h.cataloged).mem_mentionedStates_of_sources hok hk)
  have hsources' : ∀ k ∈ step.sources table'.states, P k := fun k hk =>
    hstates k (h.mem_mentionedStates_of_sources hok hk)
  obtain ⟨hnone, hcovers⟩ := h.sources hm hmentioned step
  refine ⟨h.cataloged.takeStep hok, h.cataloged'.takeStep hok', fun v => ?_, fun v => ?_, ?_⟩
  · rw [h.cataloged.mem_mentionedStates_takeStep_iff hok,
      h.cataloged'.mem_mentionedStates_takeStep_iff hok', h.states, Ne, hnone]
  · rw [mem_mentionedEvents_takeStep_iff hok, mem_mentionedEvents_takeStep_iff hok', h.events, Ne,
      hnone]
  · intro state event hstate hevent
    have htarget (k : Value) : Rule.target ⟨k, step.event, step.target⟩ = step.target := rfl
    have hrules : firstAmong Rule.target m state event (step.rules table.states) =
        firstAmong Rule.target m state event (step.rules table'.states) := by
      rw [Step.rules_eq_map_sources, Step.rules_eq_map_sources]
      by_cases hcovered : IsCovered m (step.sources table.states) state
      · have hcovered' := (hcovers state hstate).mp hcovered
        rw [firstAmong_of_isCovered hm hstate hsources hcovered _ _ htarget,
          firstAmong_of_isCovered hm hstate hsources' hcovered' _ _ htarget]
      · have hcovered' := (hcovers state hstate).not.mp hcovered
        rw [firstAmong_of_not_isCovered hm hstate hsources hcovered,
          firstAmong_of_not_isCovered hm hstate hsources' hcovered']
    rw [rules_takeStep_of_ok hok, rules_takeStep_of_ok hok', firstAmong_append, firstAmong_append,
      h.choice state event hstate hevent, hrules]

/-- Steps that get into one of two tables that are alike get into the other, and take them to tables
that are alike. -/
theorem takeSteps (hm : ComparesWell m P) (hn : ComparesWell m Q) {steps : List Step}
    (h : Alike m P Q table table') (hok : (table.takeSteps m steps).act.result = .ok ())
    (hstates : ∀ v ∈ (table.takeSteps m steps).table.mentionedStates, P v)
    (hevents : ∀ v ∈ (table.takeSteps m steps).table.mentionedEvents, Q v)
    (hwritable : ∀ v ∈ (table.takeSteps m steps).table.mentionedStates, v.IsWritable m) :
    (table'.takeSteps m steps).act.result = .ok () ∧
      Alike m P Q (table.takeSteps m steps).table (table'.takeSteps m steps).table := by
  induction steps generalizing table table' with
  | nil => exact ⟨rfl, h⟩
  | cons step rest ih =>
      rw [Table.takeSteps] at hok hstates hevents hwritable ⊢
      rw [Table.takeSteps]
      obtain ⟨hfirst, hrest⟩ := Extension.result_andThen_eq_ok_iff.mp hok
      rw [Extension.andThen_of_ok hfirst] at hstates hevents hwritable ⊢
      have hgrows := grows_takeSteps m (table.takeStep m step).table rest
      have hstates₁ := fun v hv => hstates v (hgrows.mentionedStates hv)
      have hevents₁ := fun v hv => hevents v (hgrows.mentionedEvents hv)
      have hwritable₁ := fun v hv => hwritable v (hgrows.mentionedStates hv)
      have hfirst' := h.result_takeStep hm hn hfirst hstates₁ hevents₁ hwritable₁
      have halike := h.takeStep hm hfirst hfirst' hstates₁
      rw [Extension.andThen_of_ok hfirst', Act.result_bind_of_ok hfirst']
      exact ih halike hrest hstates hevents hwritable

end Alike

section Swap

variable {α : Type} {give : Rule → α} {state event : Value}

theorem firstAmong_of_declines {rules : List Rule}
    (h : ∀ rule ∈ rules, rule.Declines m state event) :
    firstAmong give m state event rules = .ok none := by
  induction rules with
  | nil => rfl
  | cons rule rest ih =>
      obtain ⟨hrule, hrest⟩ := List.forall_mem_cons.mp h
      have hdeclines : (rule.applies m state event).result = .ok false := hrule
      rw [firstAmong, hdeclines]
      exact ih hrest

/-- Rules that all decline can stand before others or behind them. -/
theorem firstAmong_append_comm_of_declines {one other : List Rule}
    (h : ∀ rule ∈ one, rule.Declines m state event) :
    firstAmong give m state event (one ++ other) =
      firstAmong give m state event (other ++ one) := by
  rw [firstAmong_append, firstAmong_append, firstAmong_of_declines h]
  cases firstAmong give m state event other with
  | error fault => rfl
  | ok found => cases found <;> rfl

/-- Rules of which never two apply, one from either side, can change sides. -/
theorem firstAmong_append_comm {one other : List Rule}
    (hanswers : ∀ rule ∈ one ++ other, rule.Declines m state event ∨ rule.Applies m state event)
    (hapart : ∀ rule ∈ one, ∀ rule' ∈ other,
      ¬(rule.Applies m state event ∧ rule'.Applies m state event)) :
    firstAmong give m state event (one ++ other) =
      firstAmong give m state event (other ++ one) := by
  by_cases hone : ∀ rule ∈ one, rule.Declines m state event
  · exact firstAmong_append_comm_of_declines hone
  · obtain ⟨rule, hfirst, hrule⟩ := IsFirst.exists_of_not_forall hone
    have happlies : rule.Applies m state event :=
      (hanswers rule (List.mem_append_left other hfirst.mem)).resolve_left hrule
    have hother : ∀ rule' ∈ other, rule'.Declines m state event := by
      intro rule' hrule'
      apply (hanswers rule' (List.mem_append_right one hrule')).resolve_right
      intro happlies'
      exact hapart rule hfirst.mem rule' hrule' ⟨happlies, happlies'⟩
    exact (firstAmong_append_comm_of_declines hother).symm

/-- Rules that never decide for the same state and event can enter a table in either order. -/
theorem alike_of_swap (hm : ComparesWell m P) (hn : ComparesWell m Q) {table : Table}
    (hcataloged : table.Cataloged m) {one other : List Rule}
    (hok : (table.takeRules m (one ++ other)).act.result = .ok ())
    (hstates : ∀ v ∈ (table.takeRules m (one ++ other)).table.mentionedStates, P v)
    (hevents : ∀ v ∈ (table.takeRules m (one ++ other)).table.mentionedEvents, Q v)
    (hapart : ∀ rule ∈ one, ∀ rule' ∈ other,
      ¬(rule.source.Equals m rule'.source ∧ rule.event.Equals m rule'.event)) :
    (table.takeRules m (other ++ one)).act.result = .ok () ∧
      Alike m P Q (table.takeRules m (one ++ other)).table
        (table.takeRules m (other ++ one)).table := by
  have hrules := rules_takeRules_of_ok hok
  have hkind : ∀ rule ∈ table.rules ++ (one ++ other),
      (∀ v ∈ rule.states, P v) ∧ Q rule.event := by
    rw [← hrules]
    exact fun rule hrule =>
      ⟨fun v hv => hstates v (List.mem_flatMap.mpr ⟨rule, hrule, hv⟩),
        hevents _ (List.mem_map_of_mem hrule)⟩
  have hfits : ∀ rule ∈ one ++ other, rule.Fits m P Q := fun rule hrule =>
    ⟨(hkind rule (List.mem_append_right _ hrule)).1, (hkind rule (List.mem_append_right _ hrule)).2,
      exists_record_of_takeRules hok rule hrule⟩
  have hknown : ∀ k ∈ table.states, P k := by
    intro k hk
    obtain ⟨rule, hrule, hmem⟩ := List.mem_flatMap.mp (hcataloged.mem_mentionedStates hk)
    exact (hkind rule (List.mem_append_left _ hrule)).1 k hmem
  have hmet : ∀ k ∈ table.events, Q k := by
    intro k hk
    obtain ⟨rule, hrule, rfl⟩ := List.mem_map.mp (hcataloged.mem_mentionedEvents hk)
    exact (hkind rule (List.mem_append_left _ hrule)).2
  have hok' : (table.takeRules m (other ++ one)).act.result = .ok () := by
    apply result_takeRules_of_fits hm hn hknown hmet
    exact fun rule hrule => hfits rule (by rwa [List.mem_append, or_comm, ← List.mem_append])
  have hrules' := rules_takeRules_of_ok hok'
  have hsame (rule : Rule) : rule ∈ (table.takeRules m (one ++ other)).table.rules ↔
      rule ∈ (table.takeRules m (other ++ one)).table.rules := by
    simp only [hrules, hrules', List.mem_append, or_comm]
  refine ⟨hok', hcataloged.takeRules hok, hcataloged.takeRules hok', fun v => ?_, fun v => ?_, ?_⟩
  · simp only [mentionedStates, List.mem_flatMap, hsame]
  · simp only [mentionedEvents, List.mem_map, hsame]
  · intro state event hstate hevent
    rw [hrules, hrules', firstAmong_append, firstAmong_append _ (other ++ one)]
    rw [firstAmong_append_comm]
    · intro rule hrule
      have hrule := hfits rule hrule
      exact Rule.declines_or_applies hm hn (hrule.states _ List.mem_cons_self) hrule.event hstate
        hevent
    · rintro rule hrule rule' hrule' ⟨happlies, happlies'⟩
      have hfits₁ := hfits rule (List.mem_append_left _ hrule)
      have hfits₂ := hfits rule' (List.mem_append_right _ hrule')
      have hsource₁ := hfits₁.states _ List.mem_cons_self
      have hsource₂ := hfits₂.states _ List.mem_cons_self
      obtain ⟨hcovers, hcue⟩ := Rule.applies_iff.mp happlies
      obtain ⟨hcovers', hcue'⟩ := Rule.applies_iff.mp happlies'
      -- Both sources equal the state and both events the event, so they equal one another.
      apply hapart rule hrule rule' hrule'
      constructor
      · exact hm.trans hsource₁ hstate hsource₂ hcovers (hm.symm hsource₂ hstate hcovers')
      · exact hn.trans hfits₁.event hevent hfits₂.event hcue (hn.symm hfits₂.event hevent hcue')

end Swap

/-- Steps with sources of their own that never decide for the same state and event can be taken in
either order, whatever steps come behind them. -/
theorem alike_of_exchange (hm : ComparesWell m P) (hn : ComparesWell m Q) {table : Table}
    (hcataloged : table.Cataloged m) {one other after : List Step}
    (hone : ∀ step ∈ one, step.source.isAny = false)
    (hother : ∀ step ∈ other, step.source.isAny = false)
    (hapart : ∀ step ∈ one, ∀ step' ∈ other,
      ¬(step.source.Equals m step'.source ∧ step.event.Equals m step'.event))
    (hok : (table.takeSteps m ((one ++ other) ++ after)).act.result = .ok ())
    (hstates : ∀ v ∈ (table.takeSteps m ((one ++ other) ++ after)).table.mentionedStates, P v)
    (hevents : ∀ v ∈ (table.takeSteps m ((one ++ other) ++ after)).table.mentionedEvents, Q v)
    (hwritable : ∀ v ∈ (table.takeSteps m ((one ++ other) ++ after)).table.mentionedStates,
      v.IsWritable m) :
    (table.takeSteps m ((other ++ one) ++ after)).act.result = .ok () ∧
      Alike m P Q (table.takeSteps m ((one ++ other) ++ after)).table
        (table.takeSteps m ((other ++ one) ++ after)).table := by
  have hagrees : (table.takeSteps m (one ++ other)).Agrees
      (table.takeRules m (one.map Step.rule ++ other.map Step.rule)) := by
    rw [← List.map_append]
    exact takeSteps_agrees_takeRules (List.forall_mem_append.mpr ⟨hone, hother⟩)
  have hagrees' : (table.takeSteps m (other ++ one)).Agrees
      (table.takeRules m (other.map Step.rule ++ one.map Step.rule)) := by
    rw [← List.map_append]
    exact takeSteps_agrees_takeRules (List.forall_mem_append.mpr ⟨hother, hone⟩)
  obtain ⟨hfirst, _⟩ := Extension.result_andThen_eq_ok_iff.mp (takeSteps_append m table _ _ ▸ hok)
  have hgoes := takeSteps_append_agrees hfirst after
  rw [hgoes.result] at hok
  rw [hgoes.table] at hstates hevents hwritable ⊢
  have hgrows := grows_takeSteps m (table.takeSteps m (one ++ other)).table after
  have hstates₁ := fun v hv => hstates v (hgrows.mentionedStates hv)
  have hevents₁ := fun v hv => hevents v (hgrows.mentionedEvents hv)
  rw [hagrees.table] at hstates₁ hevents₁
  obtain ⟨hfirst', halike⟩ := alike_of_swap hm hn hcataloged (hagrees.result ▸ hfirst) hstates₁
    hevents₁ (List.forall_mem_map.mpr fun step hstep =>
      List.forall_mem_map.mpr fun step' hstep' => hapart step hstep step' hstep')
  rw [← hagrees'.result] at hfirst'
  rw [← hagrees.table, ← hagrees'.table] at halike
  have hgoes' := takeSteps_append_agrees hfirst' after
  rw [hgoes'.result, hgoes'.table]
  exact halike.takeSteps hm hn hok hstates hevents hwritable

end Table

/-- Whether the steps of two declarations never lead from equal sources on equal events. -/
def Independent (m : Interpretation) (one other : Value) : Prop :=
  ∀ step ∈ one.steps, ∀ step' ∈ other.steps,
    ¬(step.source.Equals m step'.source ∧ step.event.Equals m step'.event)

theorem independent_of_events {m : Interpretation} {source destination event : Value}
    {source' destination' event' : Value} (h : ¬event.Equals m event') :
    Independent m (.declaration (.simple source destination event))
      (.declaration (.simple source' destination' event')) := by
  intro step hstep step' hstep'
  obtain rfl := List.mem_singleton.mp hstep
  obtain rfl := List.mem_singleton.mp hstep'
  exact fun hequal => h hequal.2

/-- Whether two tables decide alike for a state and an event: neither finds a rule, or both find one
with the same target. -/
def Table.DecideAlike (m : Interpretation) (table table' : Table) (state event : Value) : Prop :=
  ∃ target : Option Target,
    (table.search m state event).result.map (Option.map Rule.target) = .ok target ∧
      (table'.search m state event).result.map (Option.map Rule.target) = .ok target

/-- Whether each of some values is in a catalog, or one that is the same. -/
def Represents (m : Interpretation) (catalog vs : List Value) : Prop :=
  ∀ v ∈ vs, IsRepresented m catalog v

namespace Table.Alike

variable {table table' : Table} (h : Alike m P Q table table')
include h

theorem decideAlike (hm : ComparesWell m P) (hn : ComparesWell m Q)
    (hstates : ∀ v ∈ table.mentionedStates, P v) (hevents : ∀ v ∈ table.mentionedEvents, Q v)
    {state event : Value} (hstate : P state) (hevent : Q event) :
    table.DecideAlike m table' state event := by
  have hanswers : ∀ rule ∈ table.rules,
      rule.Declines m state event ∨ rule.Applies m state event := by
    intro rule hrule
    have hsource := hstates _ (List.mem_flatMap.mpr ⟨rule, hrule, List.mem_cons_self⟩)
    exact Rule.declines_or_applies hm hn hsource (hevents _ (List.mem_map_of_mem hrule)) hstate
      hevent
  obtain ⟨found, hfound⟩ := result_search_of_answers hanswers
  refine ⟨found.map Rule.target, by rw [hfound]; rfl, ?_⟩
  rw [result_search_map, ← h.choice state event hstate hevent, ← result_search_map, hfound]
  rfl

theorem representsStates : Represents m table'.states table.states := by
  intro v hv
  have hmentioned := (h.states v).mp (h.cataloged.mem_mentionedStates hv)
  exact h.cataloged'.states.represents v hmentioned

theorem representsEvents : Represents m table'.events table.events := by
  intro v hv
  have hmentioned := (h.events v).mp (h.cataloged.mem_mentionedEvents hv)
  exact h.cataloged'.events.represents v hmentioned

end Table.Alike

/-- Tables that decide alike lead to the same. -/
theorem Table.DecideAlike.lead_eq {table table' : Table} {state event : Value}
    (h : table.DecideAlike m table' state event) :
    table.lead m state event = table'.lead m state event := by
  obtain ⟨target, hone, hother⟩ := h
  have hlead (other : Table) : other.lead m state event =
      ((other.search m state event).result.map (Option.map Rule.target)).map
        (Option.map Target.bare) := by
    rw [lead]
    cases (other.search m state event).result with
    | error fault => rfl
    | ok found => cases found <;> rfl
  rw [hlead, hlead, hone, hother]

/-- Independent declarations commute. Let two declarations with sources of their own never lead from
equal states on equal events, and let them stand next to one another among declarations that are
built, where comparing makes sense for the states and the events that the rules mention. Then the
declarations are also built with the two in the other order. The two tables decide alike for all
states and events of these kinds, so that an entity takes the same course by both, and each of their
catalogs represents that of the other. The kinds leave out values whose `==` raises or is not
symmetric and transitive; a `repr` that raises ends a move alike by both tables (see
`StateRules.Proofs.Table.Search`). -/
theorem independent_declarations_commute {m : Interpretation} {P Q : Value → Prop}
    (hm : ComparesWell m P) (hn : ComparesWell m Q) {before after : List Value}
    {one other : Value} {table : Table}
    (hone : ∀ step ∈ one.steps, step.source.isAny = false)
    (hother : ∀ step ∈ other.steps, step.source.isAny = false)
    (hindependent : Independent m one other)
    (hbuild : (build m (before ++ [one, other] ++ after)).result = .ok table)
    (hstates : ∀ v ∈ table.mentionedStates, P v) (hevents : ∀ v ∈ table.mentionedEvents, Q v) :
    ∃ table', (build m (before ++ [other, one] ++ after)).result = .ok table' ∧
      (∀ state event, P state → Q event →
        table.DecideAlike m table' state event ∧
          ∀ (accessor : Accessor) (entity : Value), (accessor.get m entity).result = .ok state →
            SameCourse m accessor table table' entity event state) ∧
      Represents m table'.states table.states ∧ Represents m table.states table'.states ∧
      Represents m table'.events table.events ∧ Represents m table.events table'.events := by
  have hlegible := (Table.Reachable.build hbuild).isLegible.mentionedStates
  obtain ⟨haccepted, hok, htable⟩ := build_eq_ok_iff.mp hbuild
  have hsteps : (before ++ [one, other] ++ after).flatMap Value.steps =
      before.flatMap Value.steps ++
        ((one.steps ++ other.steps) ++ after.flatMap Value.steps) := by simp
  have hsteps' : (before ++ [other, one] ++ after).flatMap Value.steps =
      before.flatMap Value.steps ++
        ((other.steps ++ one.steps) ++ after.flatMap Value.steps) := by simp
  rw [hsteps] at hok htable
  obtain ⟨hbefore, _⟩ :=
    Extension.result_andThen_eq_ok_iff.mp (Table.takeSteps_append m _ _ _ ▸ hok)
  have hagrees := Table.takeSteps_append_agrees hbefore
    ((one.steps ++ other.steps) ++ after.flatMap Value.steps)
  have hagrees' := Table.takeSteps_append_agrees hbefore
    ((other.steps ++ one.steps) ++ after.flatMap Value.steps)
  rw [hagrees.result] at hok
  rw [hagrees.table] at htable
  subst htable
  have hempty : Table.empty.Cataloged m := ⟨.done [], .done []⟩
  obtain ⟨hok', halike⟩ := Table.alike_of_exchange hm hn (hempty.takeSteps hbefore) hone hother
    hindependent hok hstates hevents hlegible
  rw [← hagrees'.result, ← hsteps'] at hok'
  rw [← hagrees'.table, ← hsteps'] at halike
  have haccepted' : ∀ declaration ∈ before ++ [other, one] ++ after, declaration.Accepted m := by
    intro declaration hmem
    apply haccepted declaration
    simpa [or_comm, or_left_comm] using hmem
  refine ⟨_, build_eq_ok_iff.mpr ⟨haccepted', hok', rfl⟩, fun state event hstate hevent => ?_,
    halike.representsStates, halike.symm.representsStates, halike.representsEvents,
    halike.symm.representsEvents⟩
  have hdecide := halike.decideAlike hm hn hstates hevents hstate hevent
  exact ⟨hdecide, fun accessor entity hget => SameCourse.of_lead_eq hget hdecide.lead_eq⟩

/-- Leaving a room and knocking at one, where the rooms have the same number, written in two
ways. -/
def leaving : Value := .declaration (.simple (.integer 1) (.text "hall") (.text "leave"))

def knocking : Value := .declaration (.simple (.boolean true) (.text "yard") (.text "knock"))

/-- Closing whatever is known by then. -/
def closing : Value := .declaration (.simple .any (.text "void") (.text "close"))

/-- In either order the room is known once, by the number that comes first, and closing it leads to
the same. -/
theorem independent_declarations_commute_rooms :
    ∃ table table', (build .exhausted ([] ++ [leaving, knocking] ++ [closing])).result = .ok table ∧
      (build .exhausted ([] ++ [knocking, leaving] ++ [closing])).result = .ok table' ∧
      table.states = [.integer 1, .text "hall", .text "yard", .text "void"] ∧
      table'.states = [.boolean true, .text "yard", .text "hall", .text "void"] ∧
      Represents .exhausted table'.states table.states ∧
      table.DecideAlike .exhausted table' (.boolean true) (.text "close") := by
  have hbuild : (build .exhausted ([] ++ [leaving, knocking] ++ [closing])).result = .ok _ := rfl
  have hindependent : Independent .exhausted leaving knocking := by
    refine independent_of_events fun hevents => ?_
    cases hevents
  obtain ⟨table', hbuild', hdecide, hstates, _⟩ := independent_declarations_commute
    comparesWell_of_isAtom comparesWell_of_isAtom (by decide) (by decide) hindependent hbuild
    (by decide) (by decide)
  have hcatalog : (build .exhausted ([] ++ [knocking, leaving] ++ [closing])).result.map
      Table.states = .ok [.boolean true, .text "yard", .text "hall", .text "void"] := rfl
  rw [hbuild'] at hcatalog
  obtain ⟨hsame, _⟩ := hdecide (.boolean true) (.text "close") ⟨rfl, rfl⟩ ⟨rfl, rfl⟩
  exact ⟨_, table', hbuild, hbuild', rfl, Except.ok.inj hcatalog, hstates, hsame⟩

/-- It takes more than states for which comparing makes sense. An event that equals the events of
both declarations, which differ from one another, is decided by the one that comes first. -/
theorem exchange_shows_on_intransitive_event :
    ¬∀ (m : Interpretation) (P : Value → Prop) (before after : List Value) (one other : Value)
        (table table' : Table) (state event : Value), ComparesWell m P →
      (∀ step ∈ one.steps, step.source.isAny = false) →
        (∀ step ∈ other.steps, step.source.isAny = false) → Independent m one other →
          (build m (before ++ [one, other] ++ after)).result = .ok table →
            (build m (before ++ [other, one] ++ after)).result = .ok table' →
              (∀ v ∈ table.mentionedStates, P v) → P state →
                table.DecideAlike m table' state event := by
  intro hall
  let paying : Value := .declaration (.simple (.text "new") (.text "paid") (.text "pay"))
  let dropping : Value := .declaration (.simple (.text "new") (.text "void") (.text "drop"))
  have hindependent : Independent agreeing paying dropping := by
    refine independent_of_events fun hevents => ?_
    cases hevents
  obtain ⟨target, hone, hother⟩ := hall agreeing _ [] [] paying dropping _ _ (.text "new") joker
    comparesWell_of_isAtom (by decide) (by decide) hindependent rfl rfl (by decide) ⟨rfl, rfl⟩
  have hone : .ok (some (.literal (.text "paid"))) = Except.ok (ε := Fault) target := hone
  have hother : .ok (some (.literal (.text "void"))) = Except.ok (ε := Fault) target := hother
  simpa using hone.trans hother.symm

end StateRules
