import StateRules.Proofs.Entity.SelfEquality
import StateRules.Proofs.Table.Containment
import StateRules.Proofs.Table.Legibility
import StateRules.Proofs.Table.Rebuild

/-!
What a table recalls of rules that have been entered.

What a rule mentions is known once the rule has got in, and stays known. A table recalls such a rule
(`Table.Recalls`): entering it again adds the rule and nothing else (`Table.enter_of_recalls`). A
rule that came to a stop comes to the same stop again, and adds as little (`Table.enter_again`).

So the catalogs are at rest after steps have been taken once (`Table.rests_takeSteps_again`). A step
for `any` stands for more rules the second time, as more states are known by then. A table that
recalls one of them recalls the others, since they differ in their sources only
(`Table.recalls_of_source`).

It takes for this that the values at hand are the same as themselves (`Rule.IsSelfSame`), as whole
ones are. A catalog takes an object for the same as itself whatever its class says, but values have
no identity here: one that is looked for is found where it stands only if comparing it with itself
tells so.
-/

namespace StateRules

variable {m : Interpretation}

theorem Value.same_self_of_isWhole {v : Value} (h : v.isWhole = true) : v.Same m v := by
  rw [Same, resembles_of_equals fun hne => v.equalsFrom_self m true hne h]
  rfl

/-- Whether a catalog has a value, as far as comparing the value with it tells. -/
def IsIn (m : Interpretation) (known : List Value) (v : Value) : Prop :=
  (isKnown m known v).result = .ok true

namespace IsIn

variable {known grown vs : List Value} {v : Value}

theorem mono (h : IsIn m known v) (hgrown : known <+: grown) : IsIn m grown v := by
  obtain ⟨k, ⟨before, after, rfl, hbefore⟩, hsame⟩ := result_isKnown_eq_ok_true_iff.mp h
  obtain ⟨more, rfl⟩ := hgrown
  exact result_isKnown_eq_ok_true_iff.mpr ⟨k, ⟨before, after ++ more, by simp, hbefore⟩, hsame⟩

/-- A value that nothing before it is the same as is found where it stands. -/
theorem of_apart {before after : List Value} (hbefore : ∀ k ∈ before, k.Apart m v)
    (hself : v.Same m v) : IsIn m (before ++ v :: after) v :=
  result_isKnown_eq_ok_true_iff.mpr ⟨v, ⟨before, after, rfl, hbefore⟩, hself⟩

theorem of_mem (hapart : known.Pairwise (Value.Apart m)) (hmem : v ∈ known)
    (hself : v.Same m v) : IsIn m known v := by
  obtain ⟨before, after, rfl⟩ := List.append_of_mem hmem
  have hbefore := (List.pairwise_append.mp hapart).2.2
  exact of_apart (fun k hk => hbefore k hk v List.mem_cons_self) hself

/-- A value is in a catalog from when it has been entered on. -/
theorem of_entered {isThere : Bool} (h : (isKnown m known v).result = .ok isThere)
    (hself : v.Same m v) : IsIn m (if isThere then known else known ++ [v]) v := by
  cases isThere with
  | true => exact h
  | false => exact of_apart (result_isKnown_eq_ok_false_iff.mp h) hself

end IsIn

section Catalog

variable {known vs : List Value}

theorem enterAll_of_isIn (h : ∀ v ∈ vs, IsIn m known v) :
    (enterAll m known vs).1 = known ∧ (enterAll m known vs).2.result = .ok () := by
  induction vs with
  | nil => exact ⟨rfl, rfl⟩
  | cons v rest ih =>
      obtain ⟨hv, hrest⟩ := List.forall_mem_cons.mp h
      obtain ⟨hknown, hresult⟩ := enterAll_cons_of_ok hv rest
      rw [hknown, hresult]
      exact ih hrest

theorem isIn_of_enterAll (hself : ∀ v ∈ vs, v.Same m v)
    (h : (enterAll m known vs).2.result = .ok ()) :
    ∀ v ∈ vs, IsIn m (enterAll m known vs).1 v := by
  induction vs generalizing known with
  | nil => simp
  | cons v rest ih =>
      obtain ⟨hv, hrest⟩ := List.forall_mem_cons.mp hself
      cases hfound : (isKnown m known v).result with
      | error fault => cases h.symm.trans (enterAll_cons_of_error hfound rest).2
      | ok isThere =>
          obtain ⟨hknown, hresult⟩ := enterAll_cons_of_ok hfound rest
          rw [hresult] at h
          rw [hknown]
          have hin := (IsIn.of_entered hfound hv).mono (prefix_enterAll m _ rest)
          exact List.forall_mem_cons.mpr ⟨hin, ih hrest h⟩

/-- Entering values a second time adds nothing and comes to the same. -/
theorem enterAll_again (hself : ∀ v ∈ vs, v.Same m v) :
    (enterAll m (enterAll m known vs).1 vs).1 = (enterAll m known vs).1 ∧
      (enterAll m (enterAll m known vs).1 vs).2.result = (enterAll m known vs).2.result := by
  induction vs generalizing known with
  | nil => exact ⟨rfl, rfl⟩
  | cons v rest ih =>
      obtain ⟨hv, hrest⟩ := List.forall_mem_cons.mp hself
      cases hfound : (isKnown m known v).result with
      | error fault =>
          rw [(enterAll_cons_of_error hfound rest).1]
          exact ⟨(enterAll_cons_of_error hfound rest).1, rfl⟩
      | ok isThere =>
          obtain ⟨hknown, hresult⟩ := enterAll_cons_of_ok hfound rest
          have hin := (IsIn.of_entered hfound hv).mono (prefix_enterAll m _ rest)
          obtain ⟨hknown', hresult'⟩ := enterAll_cons_of_ok hin rest
          rw [hknown, hresult, hknown', hresult']
          exact ih hrest

theorem pairwise_enterAll (h : known.Pairwise (Value.Apart m)) :
    (enterAll m known vs).1.Pairwise (Value.Apart m) := by
  induction vs generalizing known with
  | nil => exact h
  | cons v rest ih =>
      cases hfound : (isKnown m known v).result with
      | error fault => rwa [(enterAll_cons_of_error hfound rest).1]
      | ok isThere =>
          rw [(enterAll_cons_of_ok hfound rest).1]
          cases isThere with
          | true => exact ih h
          | false =>
              refine ih (List.pairwise_append.mpr ⟨h, List.pairwise_singleton _ v, ?_⟩)
              intro k hk w hw
              exact List.mem_singleton.mp hw ▸ result_isKnown_eq_ok_false_iff.mp hfound k hk

end Catalog

/-- Whether all that a rule mentions is the same as itself. -/
structure Rule.IsSelfSame (m : Interpretation) (rule : Rule) : Prop where
  states : ∀ v ∈ rule.states, v.Same m v
  event : rule.event.Same m rule.event

/-- What a rule mentions is the same as itself if it is whole. -/
theorem Rule.Within.isSelfSame {rule : Rule} (h : rule.Within fun v => v.isWhole = true) :
    rule.IsSelfSame m :=
  ⟨fun v hv => Value.same_self_of_isWhole (h.states v hv), Value.same_self_of_isWhole h.event⟩

namespace Table

/-- Whether two tables have the same catalogs. -/
structure SharesCatalogs (table other : Table) : Prop where
  states : other.states = table.states
  events : other.events = table.events

theorem SharesCatalogs.refl (table : Table) : table.SharesCatalogs table := ⟨rfl, rfl⟩

theorem SharesCatalogs.trans {one two three : Table} (h : one.SharesCatalogs two)
    (h' : two.SharesCatalogs three) : one.SharesCatalogs three :=
  ⟨h'.states.trans h.states, h'.events.trans h.events⟩

/-- Whether a table knows all that a rule mentions, and the record of the rule can be written. -/
structure Recalls (m : Interpretation) (table : Table) (rule : Rule) : Prop where
  states : ∀ v ∈ rule.states, IsIn m table.states v
  event : IsIn m table.events rule.event
  record : ∃ record, (rule.writeRecord m).result = .ok record

/-- Whether an extension adds nothing to the catalogs of a table, and how it ends. -/
structure Rests (table : Table) (extension : Extension) (result : Except Fault Unit) : Prop where
  catalogs : table.SharesCatalogs extension.table
  result : extension.act.result = result

variable {table grown : Table} {rule : Rule} {rules : List Rule}

theorem Rests.andThen {first : Extension} {next : Table → Extension}
    {result : Except Fault Unit} (h : table.Rests first (.ok ()))
    (hnext : first.table.Rests (next first.table) result) :
    table.Rests (first.andThen next) result := by
  rw [Extension.andThen_of_ok h.result]
  exact ⟨h.catalogs.trans hnext.catalogs, (Act.result_bind_of_ok h.result _).trans hnext.result⟩

theorem Rests.andThen_of_error {first : Extension} {fault : Fault}
    (h : table.Rests first (.error fault)) (next : Table → Extension) :
    table.Rests (first.andThen next) (.error fault) := by
  rwa [Extension.andThen_of_error h.result]

theorem Recalls.mono (h : table.Recalls m rule) (hstates : table.states <+: grown.states)
    (hevents : table.events <+: grown.events) : grown.Recalls m rule :=
  ⟨fun v hv => (h.states v hv).mono hstates, h.event.mono hevents, h.record⟩

theorem Recalls.of_sharesCatalogs (h : table.Recalls m rule)
    (hcatalogs : table.SharesCatalogs grown) : grown.Recalls m rule :=
  h.mono (hcatalogs.states ▸ List.prefix_refl _) (hcatalogs.events ▸ List.prefix_refl _)

theorem enter_of_recalls (h : table.Recalls m rule) :
    table.SharesCatalogs (table.enter m rule).1 ∧ (table.enter m rule).2.result = .ok () := by
  obtain ⟨hstates, hok⟩ := enterAll_of_isIn h.states
  obtain ⟨hevents, hok'⟩ := enterAll_of_isIn (List.forall_mem_singleton.mpr h.event)
  refine ⟨⟨?_, ?_⟩, ?_⟩
  · rw [states_enter, hstates]
  · rw [events_enter_of_ok hok, hevents]
  · rw [result_enter, Act.result_bind_of_ok hok, hok']

/-- A rule that a table recalls gets in, and nothing gets in with it. -/
theorem rests_takeRule_of_recalls (h : table.Recalls m rule) :
    table.Rests (table.takeRule m rule) (.ok ()) := by
  obtain ⟨hcatalogs, hok⟩ := enter_of_recalls h
  exact ⟨hcatalogs, (result_takeRule_eq_ok_iff m table rule).mpr ⟨hok, h.record⟩⟩

theorem rests_takeRules_of_recalls (h : ∀ rule ∈ rules, table.Recalls m rule) :
    table.Rests (table.takeRules m rules) (.ok ()) := by
  induction rules generalizing table with
  | nil => exact ⟨.refl table, rfl⟩
  | cons rule rest ih =>
      obtain ⟨hrule, hrest⟩ := List.forall_mem_cons.mp h
      have hfirst := rests_takeRule_of_recalls hrule
      exact hfirst.andThen (ih fun other hother =>
        (hrest other hother).of_sharesCatalogs hfirst.catalogs)

/-- A table recalls the rules that got in. -/
theorem recalls_of_takeRule (hself : rule.IsSelfSame m)
    (h : (table.takeRule m rule).act.result = .ok ()) :
    (table.takeRule m rule).table.Recalls m rule := by
  have hroom := result_takeRule_eq_ok_iff_hasRoom.mp h
  have hevent := isIn_of_enterAll (List.forall_mem_singleton.mpr hself.event)
    (result_enterAll_singleton_eq_ok_iff.mpr hroom.event)
  refine ⟨?_, ?_, hroom.record⟩
  · show ∀ v ∈ rule.states, IsIn m (table.enter m rule).1.states v
    rw [states_enter]
    exact isIn_of_enterAll hself.states hroom.states
  · show IsIn m (table.enter m rule).1.events rule.event
    rw [events_enter_of_ok hroom.states]
    exact List.forall_mem_singleton.mp hevent

theorem grows_takeRules (m : Interpretation) (table : Table) (rules : List Rule) :
    table.Grows (table.takeRules m rules).table :=
  takeRules_keeps (P := table.Grows) (Q := fun _ => True)
    (fun other rule h _ => h.trans (grows_enter m other rule)) (.refl table)
    (fun _ _ => trivial)

theorem grows_takeStep (m : Interpretation) (table : Table) (step : Step) :
    table.Grows (table.takeStep m step).table := by
  unfold takeStep
  split
  · exact .refl table
  · exact grows_takeRules m table _

theorem recalls_of_takeRules (hself : ∀ rule ∈ rules, rule.IsSelfSame m)
    (h : (table.takeRules m rules).act.result = .ok ()) :
    ∀ rule ∈ rules, (table.takeRules m rules).table.Recalls m rule := by
  induction rules generalizing table with
  | nil => simp
  | cons rule rest ih =>
      obtain ⟨hrule, hrest⟩ := List.forall_mem_cons.mp hself
      rw [takeRules] at h ⊢
      obtain ⟨hfirst, hothers⟩ := Extension.result_andThen_eq_ok_iff.mp h
      rw [Extension.andThen_of_ok hfirst]
      have hgrows := grows_takeRules m (table.takeRule m rule).table rest
      exact List.forall_mem_cons.mpr
        ⟨(recalls_of_takeRule hrule hfirst).mono hgrows.states hgrows.events, ih hrest hothers⟩

/-- No event is entered unless the states are. -/
theorem events_enter_of_error {fault : Fault}
    (h : (enterAll m table.states rule.states).2.result = .error fault) :
    (table.enter m rule).1.events = table.events := by
  unfold enter
  dsimp only
  split
  · rfl
  · next hok => cases h.symm.trans hok

/-- Entering a rule a second time comes to the same, and adds nothing to the catalogs. -/
theorem enter_again (hself : rule.IsSelfSame m)
    (hcatalogs : (table.enter m rule).1.SharesCatalogs grown) :
    grown.SharesCatalogs (grown.enter m rule).1 ∧
      (grown.enter m rule).2.result = (table.enter m rule).2.result := by
  have hknown : grown.states = (enterAll m table.states rule.states).1 := by
    rw [hcatalogs.states, states_enter]
  have hagain := @enterAll_again m table.states rule.states hself.states
  rw [← hknown] at hagain
  obtain ⟨hstates, hresult⟩ := hagain
  cases hfirst : (enterAll m table.states rule.states).2.result with
  | error fault =>
      rw [hfirst] at hresult
      refine ⟨⟨by rw [states_enter, hstates], events_enter_of_error hresult⟩, ?_⟩
      rw [result_enter, result_enter, Act.bind_of_error hresult, Act.bind_of_error hfirst]
  | ok _ =>
      rw [hfirst] at hresult
      have hevent := @enterAll_again m table.events [rule.event]
        (List.forall_mem_singleton.mpr hself.event)
      rw [← events_enter_of_ok hfirst, ← hcatalogs.events] at hevent
      refine ⟨⟨by rw [states_enter, hstates], by rw [events_enter_of_ok hresult, hevent.1]⟩, ?_⟩
      rw [result_enter, result_enter, Act.result_bind_of_ok hresult,
        Act.result_bind_of_ok hfirst, hevent.2]

theorem rests_takeRule_again (hself : rule.IsSelfSame m)
    (hcatalogs : (table.takeRule m rule).table.SharesCatalogs grown) :
    grown.Rests (grown.takeRule m rule) (table.takeRule m rule).act.result := by
  obtain ⟨hcatalogs', hresult⟩ := enter_again hself hcatalogs
  refine ⟨hcatalogs', ?_⟩
  show ((grown.enter m rule).2 >>= fun _ => rule.writeRecord m >>= Act.emit).result =
    ((table.enter m rule).2 >>= fun _ => rule.writeRecord m >>= Act.emit).result
  cases hfirst : (table.enter m rule).2.result with
  | error fault =>
      rw [Act.bind_of_error hfirst, Act.bind_of_error (hresult.trans hfirst)]
  | ok _ => rw [Act.result_bind_of_ok hfirst, Act.result_bind_of_ok (hresult.trans hfirst)]

/-- Rules that are to be entered a second time come to the same, be it a stop. They add nothing to
the catalogs, and of the rules those that got in the first time. -/
theorem rests_takeRules_again (hself : ∀ rule ∈ rules, rule.IsSelfSame m)
    (hcatalogs : (table.takeRules m rules).table.SharesCatalogs grown) :
    grown.Rests (grown.takeRules m rules) (table.takeRules m rules).act.result ∧
      ∃ more, (table.takeRules m rules).table.rules = table.rules ++ more ∧
        (grown.takeRules m rules).table.rules = grown.rules ++ more := by
  induction rules generalizing table grown with
  | nil => exact ⟨⟨.refl grown, rfl⟩, [], by simp [takeRules], by simp [takeRules]⟩
  | cons rule rest ih =>
      obtain ⟨hrule, hrest⟩ := List.forall_mem_cons.mp hself
      rw [takeRules] at hcatalogs ⊢
      rw [takeRules]
      cases hfirst : (table.takeRule m rule).act.result with
      | error fault =>
          -- The rule was put in before it came to a stop, and so it is the second time.
          rw [Extension.andThen_of_error hfirst] at hcatalogs ⊢
          have hagain := rests_takeRule_again hrule hcatalogs
          rw [hfirst] at hagain ⊢
          rw [Extension.andThen_of_error hagain.result]
          exact ⟨hagain, [rule], rules_takeRule m table rule, rules_takeRule m grown rule⟩
      | ok _ =>
          rw [Extension.andThen_of_ok hfirst] at hcatalogs
          have hgrows := grows_takeRules m (table.takeRule m rule).table rest
          have hrecalls := ((recalls_of_takeRule hrule hfirst).mono hgrows.states
            hgrows.events).of_sharesCatalogs hcatalogs
          have hagain := rests_takeRule_of_recalls hrecalls
          obtain ⟨hothers, more, hmore, hmore'⟩ := ih hrest (hcatalogs.trans hagain.catalogs)
          rw [(Extension.andThen_agrees_of_ok hfirst _).result,
            (Extension.andThen_agrees_of_ok hfirst _).table,
            (Extension.andThen_agrees_of_ok hagain.result _).table]
          refine ⟨hagain.andThen hothers, rule :: more, ?_, ?_⟩
          · rw [hmore, rules_takeRule, List.append_assoc, List.singleton_append]
          · rw [hmore', rules_takeRule, List.append_assoc, List.singleton_append]

/-- Whether known states can serve as sources again: no two of them are the same, each is the same
as itself, and all can be written. -/
structure AreSources (m : Interpretation) (known : List Value) : Prop where
  apart : known.Pairwise (Value.Apart m)
  self : ∀ k ∈ known, k.Same m k
  written : ∀ k ∈ known, k.IsWritable m

/-- A table that recalls one rule of a step recalls those from all states that are known. -/
theorem recalls_of_source {step : Step} {source k : Value} (hknown : AreSources m table.states)
    (h : table.Recalls m ⟨source, step.event, step.target⟩) (hk : k ∈ table.states) :
    table.Recalls m ⟨k, step.event, step.target⟩ := by
  refine ⟨List.forall_mem_cons.mpr ⟨?_, (List.forall_mem_cons.mp h.states).2⟩, h.event, ?_⟩
  · exact .of_mem hknown.apart hk (hknown.self k hk)
  · obtain ⟨_, hrecord⟩ := h.record
    obtain ⟨_, _, hrest⟩ := Act.result_bind_eq_ok_iff.mp hrecord
    obtain ⟨event, hevent, hrest⟩ := Act.result_bind_eq_ok_iff.mp hrest
    obtain ⟨destination, hdestination, _⟩ := Act.result_bind_eq_ok_iff.mp hrest
    obtain ⟨label, hlabel⟩ := hknown.written k hk
    exact ⟨_, Act.result_bind_eq_ok_iff.mpr ⟨label, hlabel, Act.result_bind_eq_ok_iff.mpr
      ⟨event, hevent, Act.result_bind_eq_ok_iff.mpr ⟨destination, hdestination, rfl⟩⟩⟩⟩

theorem takeStep_of_sources {step : Step}
    (h : step.source.isAny = true → table.states ≠ []) :
    table.takeStep m step = table.takeRules m (step.rules table.states) := by
  have hnot : ¬(step.source.isAny && table.states.isEmpty) = true := by
    simpa using h
  rw [takeStep, if_neg hnot]

theorem rules_isSelfSame {step : Step} {known : List Value} (hself : step.rule.IsSelfSame m)
    (hknown : ∀ k ∈ known, k.Same m k) : ∀ rule ∈ step.rules known, rule.IsSelfSame m := by
  refine Step.forall_rules (fun _ k hk => ?_) fun _ => hself
  have hnamed := (List.forall_mem_cons.mp hself.states).2
  exact ⟨List.forall_mem_cons.mpr ⟨hknown k hk, hnamed⟩, hself.event⟩

/-- A step that got in is recalled from all states that are known by now. -/
theorem recalls_of_takeStep {step : Step} (hself : step.rule.IsSelfSame m)
    (hsources : step.source.isAny = true → table.states ≠ [])
    (hselves : ∀ k ∈ table.states, k.Same m k)
    (hok : (table.takeStep m step).act.result = .ok ())
    (hgrows : (table.takeStep m step).table.states <+: grown.states)
    (hgrows' : (table.takeStep m step).table.events <+: grown.events)
    (hknown : AreSources m grown.states) :
    ∀ rule ∈ step.rules grown.states, grown.Recalls m rule := by
  rw [takeStep_of_sources hsources] at hok hgrows hgrows'
  have hrecalls := recalls_of_takeRules (rules_isSelfSame hself hselves) hok
  intro rule hrule
  cases hany : step.source.isAny with
  | false =>
      have hrule' : rule ∈ step.rules table.states := by
        simpa [Step.rules, hany] using hrule
      exact (hrecalls rule hrule').mono hgrows hgrows'
  | true =>
      -- The rule from one state that was known tells of those from all others.
      obtain ⟨source, rest, hstates⟩ := List.exists_cons_of_ne_nil (hsources hany)
      have hfirst : (⟨source, step.event, step.target⟩ : Rule) ∈ step.rules table.states := by
        simp [Step.rules, hany, hstates]
      simp only [Step.rules, hany, if_true, List.mem_map] at hrule
      obtain ⟨k, hk, rfl⟩ := hrule
      exact recalls_of_source hknown ((hrecalls _ hfirst).mono hgrows hgrows') hk

/-- What a step stands for when more states are known begins with what it stood for before. -/
theorem rules_mono {known more : List Value} (step : Step) (h : known <+: more) :
    step.rules known <+: step.rules more := by
  unfold Step.rules
  split
  · exact h.map _
  · exact List.prefix_refl _

/-- A step that came to a stop comes to the same stop again. -/
theorem rests_takeStep_of_error {step : Step} {fault : Fault} (hself : step.rule.IsSelfSame m)
    (hsources : step.source.isAny = true → table.states ≠ [])
    (hselves : ∀ k ∈ table.states, k.Same m k)
    (hfault : (table.takeStep m step).act.result = .error fault)
    (hcatalogs : (table.takeStep m step).table.SharesCatalogs grown) :
    grown.Rests (grown.takeStep m step) (.error fault) := by
  rw [takeStep_of_sources hsources] at hfault hcatalogs
  have hknown : table.states <+: grown.states :=
    hcatalogs.states ▸ (grows_takeRules m table _).states
  rw [takeStep_of_sources fun hany hnil => hsources hany (List.prefix_nil.mp (hnil ▸ hknown))]
  obtain ⟨more, hmore⟩ := rules_mono step hknown
  obtain ⟨hagain, _⟩ := rests_takeRules_again (rules_isSelfSame hself hselves) hcatalogs
  rw [hfault] at hagain
  rw [← hmore, takeRules_append]
  exact hagain.andThen_of_error _

/-- Steps that are taken a second time add nothing to the catalogs and come to the same, be it a
stop. Those for `any` need a state that was known the first time. -/
theorem rests_takeSteps_again {steps : List Step} (hself : ∀ step ∈ steps, step.rule.IsSelfSame m)
    (hsources : ∀ step ∈ steps, step.source.isAny = true → table.states ≠ [])
    (hcatalogs : (table.takeSteps m steps).table.SharesCatalogs grown)
    (hknown : AreSources m grown.states) :
    grown.Rests (grown.takeSteps m steps) (table.takeSteps m steps).act.result := by
  induction steps generalizing table grown with
  | nil => exact ⟨.refl grown, rfl⟩
  | cons step rest ih =>
      obtain ⟨hstep, hrest⟩ := List.forall_mem_cons.mp hself
      obtain ⟨hsource, hothers⟩ := List.forall_mem_cons.mp hsources
      have hselves : ∀ k ∈ table.states, k.Same m k := by
        have hbegins := (grows_takeSteps m table (step :: rest)).states
        rw [← hcatalogs.states] at hbegins
        exact fun k hk => hknown.self k (hbegins.subset hk)
      rw [takeSteps] at hcatalogs ⊢
      rw [takeSteps]
      cases hfirst : (table.takeStep m step).act.result with
      | error fault =>
          rw [Extension.andThen_of_error hfirst] at hcatalogs ⊢
          rw [hfirst]
          exact (rests_takeStep_of_error hstep hsource hselves hfirst hcatalogs).andThen_of_error _
      | ok _ =>
          rw [Extension.andThen_of_ok hfirst] at hcatalogs
          rw [(Extension.andThen_agrees_of_ok hfirst _).result]
          -- What the other steps made known is known from the beginning now. The step may stand for
          -- more rules because of that, and all of them are recalled.
          have hgrows := grows_takeSteps m (table.takeStep m step).table rest
          have hrecalls := recalls_of_takeStep hstep hsource hselves hfirst
            (hcatalogs.states ▸ hgrows.states) (hcatalogs.events ▸ hgrows.events) hknown
          have hbefore := (grows_takeStep m table step).states
          have hagain : grown.Rests (grown.takeStep m step) (.ok ()) := by
            rw [takeStep_of_sources]
            · exact rests_takeRules_of_recalls hrecalls
            · intro hany hnil
              have hnone := hcatalogs.states ▸ hbefore.trans hgrows.states
              exact hsource hany (List.prefix_nil.mp (hnil ▸ hnone))
          refine hagain.andThen (ih hrest ?_ (hcatalogs.trans hagain.catalogs) ?_)
          · intro other hother hany hnil
            exact hothers other hother hany (List.prefix_nil.mp (hnil ▸ hbefore))
          · exact hagain.catalogs.states.symm ▸ hknown

end Table

end StateRules
