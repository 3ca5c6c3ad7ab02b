import StateRules.Proofs.Table.Catalog
import StateRules.Proofs.Table.Precedence

/-!
Which states a catalog covers.

Of states that are equal a catalog keeps the one that came first. Which one that is, and where it
stands, depends on the order in which the states came. Whether the catalog covers a state, that is,
whether something in it equals the state, does not: it covers what it covered before and what came
in (`FirstSeenAfter.isCovered_iff`). This takes that comparing makes sense for the states at hand
(`ComparesWell`); a state may still be unequal to itself.

So when a step gets into a table, all that counts for what is known by then is what was covered,
whether anything was known at all, and what the step itself mentions
(`Table.isCovered_takeStep_iff`, `Table.states_takeStep_eq_nil_iff`).
-/

namespace StateRules

/-- Whether comparing makes sense for the values of a kind: it gives an answer for any two of
them, which is the same the other way round and is passed on, and what is one and the same equals
the same values. -/
structure ComparesWell (m : Interpretation) (P : Value → Prop) : Prop where
  answers : ∀ {a b}, P a → P b → ∃ answer, (a.equals m b).result = .ok answer
  symm : ∀ {a b}, P a → P b → a.Equals m b → b.Equals m a
  trans : ∀ {a b c}, P a → P b → P c → a.Equals m b → b.Equals m c → a.Equals m c
  identical : ∀ {a b c}, P a → P b → P c → a.identical b = true → b.Equals m c → a.Equals m c

/-- Whether one of some values equals a state. -/
def IsCovered (m : Interpretation) (known : List Value) (state : Value) : Prop :=
  ∃ k ∈ known, k.Equals m state

variable {m : Interpretation} {P : Value → Prop}

theorem not_isCovered_nil {state : Value} : ¬IsCovered m [] state := by
  rintro ⟨k, hk, _⟩
  cases hk

theorem isCovered_cons_iff {v state : Value} {known : List Value} :
    IsCovered m (v :: known) state ↔ v.Equals m state ∨ IsCovered m known state := by
  simp only [IsCovered, List.mem_cons, exists_eq_or_imp]

theorem isCovered_append_iff {known more : List Value} {state : Value} :
    IsCovered m (known ++ more) state ↔ IsCovered m known state ∨ IsCovered m more state := by
  constructor
  · rintro ⟨k, hk, hequals⟩
    rcases List.mem_append.mp hk with hmem | hmem
    · exact .inl ⟨k, hmem, hequals⟩
    · exact .inr ⟨k, hmem, hequals⟩
  · rintro (⟨k, hk, hequals⟩ | ⟨k, hk, hequals⟩)
    · exact ⟨k, List.mem_append_left _ hk, hequals⟩
    · exact ⟨k, List.mem_append_right _ hk, hequals⟩

theorem Value.same_iff {a b : Value} :
    a.Same m b ↔ a.identical b = true ∨ a.Equals m b := by
  rw [Same, resembles]
  cases hidentical : a.identical b with
  | true => simp
  | false => simp [Equals]

namespace ComparesWell

theorem differs_of_not_equals (h : ComparesWell m P) {a b : Value} (ha : P a) (hb : P b)
    (hnot : ¬a.Equals m b) : a.Differs m b := by
  obtain ⟨answer, hanswer⟩ := h.answers ha hb
  cases answer with
  | true => exact absurd hanswer hnot
  | false => exact hanswer

/-- What is the same as a value equals what the value equals. -/
theorem equals_of_same (h : ComparesWell m P) {k v state : Value} (hk : P k) (hv : P v)
    (hstate : P state) (hsame : k.Same m v) (hequals : v.Equals m state) : k.Equals m state := by
  rcases Value.same_iff.mp hsame with hidentical | hkv
  · exact h.identical hk hv hstate hidentical hequals
  · exact h.trans hk hv hstate hkv hequals

end ComparesWell

theorem Value.sameScalar_iff {a b : Value} :
    a.sameScalar b = true ↔ ∃ x, a.scalar? = some x ∧ b.scalar? = some x := by
  unfold sameScalar
  cases ha : a.scalar? <;> cases hb : b.scalar? <;> simp [eq_comm]

/-- Values without parts are compared by what they are, unless one is no number. -/
theorem Value.result_equals_of_isAtom {a b : Value} (ha : a.isAtom = true)
    (hnumber : a.isUndefinedNumber = false) (hb : b.isAtom = true) :
    (a.equals m b).result = .ok (a.sameScalar b) := by
  have hsame : a.same b = a.sameScalar b := by
    cases a with
    | list _ | tuple _ | mapping _ _ | token _ | renderable _ _ | object _ _ _ _
    | declaration _ => cases ha
    | _ => rfl
  rw [equals_of_isAtom m ha hb, equal, hnumber, hsame]
  rfl

/-- Comparing makes sense for all values without parts but undefined numbers. -/
theorem comparesWell_of_isAtom :
    ComparesWell m fun v => v.isAtom = true ∧ v.isUndefinedNumber = false where
  answers := by
    rintro a b ⟨ha, hnumber⟩ ⟨hb, _⟩
    exact ⟨_, Value.result_equals_of_isAtom ha hnumber hb⟩
  symm := by
    rintro a b ⟨ha, hnumber⟩ ⟨hb, hnumber'⟩ h
    rw [Value.Equals, Value.result_equals_of_isAtom ha hnumber hb, Except.ok.injEq] at h
    rw [Value.Equals, Value.result_equals_of_isAtom hb hnumber' ha, Except.ok.injEq]
    obtain ⟨x, hx, hx'⟩ := Value.sameScalar_iff.mp h
    exact Value.sameScalar_iff.mpr ⟨x, hx', hx⟩
  trans := by
    rintro a b c ⟨ha, hnumber⟩ ⟨hb, hnumber'⟩ ⟨hc, _⟩ h h'
    rw [Value.Equals, Value.result_equals_of_isAtom ha hnumber hb, Except.ok.injEq] at h
    rw [Value.Equals, Value.result_equals_of_isAtom hb hnumber' hc, Except.ok.injEq] at h'
    rw [Value.Equals, Value.result_equals_of_isAtom ha hnumber hc, Except.ok.injEq]
    obtain ⟨x, hax, hbx⟩ := Value.sameScalar_iff.mp h
    obtain ⟨y, hby, hcy⟩ := Value.sameScalar_iff.mp h'
    obtain rfl : x = y := Option.some.inj (hbx.symm.trans hby)
    exact Value.sameScalar_iff.mpr ⟨x, hax, hcy⟩
  identical := by
    rintro a b c ⟨ha, hnumber⟩ _ _ hidentical _
    cases a with
    | object _ _ _ _ => cases ha
    | float x =>
        -- One undefined number is the same as itself, but it is left out.
        have hnumber : x.isUndefined = false := hnumber
        cases b with
        | float y => simp [Value.identical, hnumber] at hidentical
        | _ => cases hidentical
    | _ => cases hidentical

/-- What is kept of some values covers what these cover. -/
theorem FirstSeenAfter.isCovered_iff (h : ComparesWell m P) {known vs kept : List Value}
    (hseen : FirstSeenAfter m known vs kept) (hknown : ∀ k ∈ known, P k) (hvs : ∀ v ∈ vs, P v)
    {state : Value} (hstate : P state) :
    IsCovered m kept state ↔ IsCovered m known state ∨ IsCovered m vs state := by
  induction hseen with
  | done known => simp [not_isCovered_nil]
  | @again known rest kept v k hfirst hsame _ ih =>
      obtain ⟨hv, hrest⟩ := List.forall_mem_cons.mp hvs
      -- What the value that is left out covers is covered by what stands for it.
      have hleft : v.Equals m state → IsCovered m known state := fun hequals =>
        ⟨k, hfirst.mem, h.equals_of_same (hknown k hfirst.mem) hv hstate hsame hequals⟩
      rw [ih hknown hrest, isCovered_cons_iff, ← or_assoc, or_iff_left_of_imp hleft]
  | @new known rest kept v _ _ ih =>
      obtain ⟨hv, hrest⟩ := List.forall_mem_cons.mp hvs
      have hknown' : ∀ k ∈ known ++ [v], P k :=
        List.forall_mem_append.mpr ⟨hknown, List.forall_mem_singleton.mpr hv⟩
      rw [ih hknown' hrest, isCovered_append_iff, isCovered_cons_iff,
        or_iff_left not_isCovered_nil, isCovered_cons_iff, or_assoc]

theorem FirstSeenAfter.eq_nil_iff_and {known vs kept : List Value}
    (hseen : FirstSeenAfter m known vs kept) : kept = [] ↔ known = [] ∧ vs = [] := by
  constructor
  · rintro rfl
    obtain rfl := List.subset_nil.mp hseen.subset
    exact ⟨rfl, hseen.eq_nil_iff.mp rfl⟩
  · rintro ⟨rfl, rfl⟩
    exact hseen.eq_nil_iff.mpr rfl

theorem Step.sources_eq_nil_iff {step : Step} {known : List Value} :
    step.sources known = [] ↔ step.source.isAny = true ∧ known = [] := by
  unfold sources
  cases step.source.isAny <;> simp

/-- The rules of a step mention its sources and, if there is one, what its target names. -/
theorem Step.isCovered_mentioned_iff {step : Step} {known : List Value} {state : Value} :
    IsCovered m ((step.rules known).flatMap Rule.states) state ↔
      IsCovered m (step.sources known) state ∨
        step.sources known ≠ [] ∧ IsCovered m step.target.named state := by
  rw [rules_eq_map_sources]
  constructor
  · rintro ⟨v, hv, hequals⟩
    obtain ⟨rule, hrule, hmention⟩ := List.mem_flatMap.mp hv
    obtain ⟨source, hsource, rfl⟩ := List.mem_map.mp hrule
    rcases List.mem_cons.mp hmention with rfl | hnamed
    · exact .inl ⟨_, hsource, hequals⟩
    · exact .inr ⟨List.ne_nil_of_mem hsource, v, hnamed, hequals⟩
  · rintro (⟨source, hsource, hequals⟩ | ⟨hsome, v, hnamed, hequals⟩)
    · exact ⟨source, List.mem_flatMap.mpr
        ⟨_, List.mem_map_of_mem hsource, List.mem_cons_self⟩, hequals⟩
    · obtain ⟨source, hsource⟩ := List.exists_mem_of_ne_nil _ hsome
      exact ⟨v, List.mem_flatMap.mpr
        ⟨_, List.mem_map_of_mem hsource, List.mem_cons_of_mem _ hnamed⟩, hequals⟩

/-- The sources of a step are of a kind if what its rules mention is. -/
theorem Step.forall_sources {step : Step} {known : List Value}
    (h : ∀ v ∈ (step.rules known).flatMap Rule.states, P v) :
    ∀ source ∈ step.sources known, P source := by
  intro source hsource
  rw [Step.rules_eq_map_sources] at h
  exact h source (List.mem_flatMap.mpr ⟨_, List.mem_map_of_mem hsource, List.mem_cons_self⟩)

namespace Table

theorem firstSeenAfter_takeRule {table : Table} {rule : Rule}
    (h : (table.takeRule m rule).act.result = .ok ()) :
    FirstSeenAfter m table.states rule.states (table.takeRule m rule).table.states := by
  have hroom := result_takeRule_eq_ok_iff_hasRoom.mp h
  exact firstSeenAfter_iff.mpr ⟨hroom.states, (states_enter m table rule).symm⟩

/-- When rules get in, what is known then is what is seen first, going on from what was known. -/
theorem firstSeenAfter_takeRules {table : Table} {rules : List Rule}
    (h : (table.takeRules m rules).act.result = .ok ()) :
    FirstSeenAfter m table.states (rules.flatMap Rule.states)
      (table.takeRules m rules).table.states := by
  induction rules generalizing table with
  | nil => exact .done _
  | cons rule rest ih =>
      rw [takeRules] at h ⊢
      obtain ⟨hrule, hrest⟩ := Extension.result_andThen_eq_ok_iff.mp h
      rw [Extension.andThen_of_ok hrule, List.flatMap_cons]
      exact FirstSeenAfter.append_iff.mpr ⟨_, firstSeenAfter_takeRule hrule, ih hrest⟩

theorem firstSeenAfter_takeStep {table : Table} {step : Step}
    (h : (table.takeStep m step).act.result = .ok ()) :
    FirstSeenAfter m table.states ((step.rules table.states).flatMap Rule.states)
      (table.takeStep m step).table.states := by
  unfold takeStep at h ⊢
  split
  · next hnone =>
      simp only [Bool.and_eq_true, List.isEmpty_iff] at hnone
      simp only [Step.rules, hnone.1, hnone.2, if_true, List.map_nil, List.flatMap_nil]
      exact .done _
  · next hsome =>
      rw [if_neg hsome] at h
      exact firstSeenAfter_takeRules h

/-- Once a step is in, what was covered is, and what the step mentions if it stands for a rule. -/
theorem isCovered_takeStep_iff (h : ComparesWell m P) {table : Table} {step : Step}
    (hok : (table.takeStep m step).act.result = .ok ()) (hknown : ∀ k ∈ table.states, P k)
    (hmentioned : ∀ v ∈ (step.rules table.states).flatMap Rule.states, P v) {state : Value}
    (hstate : P state) :
    IsCovered m (table.takeStep m step).table.states state ↔
      IsCovered m table.states state ∨ IsCovered m (step.sources table.states) state ∨
        step.sources table.states ≠ [] ∧ IsCovered m step.target.named state := by
  rw [(firstSeenAfter_takeStep hok).isCovered_iff h hknown hmentioned hstate,
    Step.isCovered_mentioned_iff]

/-- Once a step is in, nothing is known only if it is for `any` and nothing was known before. -/
theorem states_takeStep_eq_nil_iff {table : Table} {step : Step}
    (hok : (table.takeStep m step).act.result = .ok ()) :
    (table.takeStep m step).table.states = [] ↔
      table.states = [] ∧ step.source.isAny = true := by
  rw [(firstSeenAfter_takeStep hok).eq_nil_iff_and, List.flatMap_eq_nil_iff]
  refine and_congr_right fun hnone => ?_
  rw [Step.rules_eq_map_sources, List.forall_mem_map]
  constructor
  · intro hnothing
    have hsources : step.sources table.states = [] :=
      List.eq_nil_iff_forall_not_mem.mpr fun source hmem =>
        absurd (hnothing source hmem) (List.cons_ne_nil _ _)
    exact (Step.sources_eq_nil_iff.mp hsources).1
  · intro hany
    rw [Step.sources_eq_nil_iff.mpr ⟨hany, hnone⟩]
    simp

/-- Once a step is in, what is known is of a kind if what was known is, and what the step
mentions. -/
theorem forall_states_takeStep {table : Table} {step : Step} (hknown : ∀ k ∈ table.states, P k)
    (hok : (table.takeStep m step).act.result = .ok ())
    (hmentioned : ∀ v ∈ (step.rules table.states).flatMap Rule.states, P v) :
    ∀ k ∈ (table.takeStep m step).table.states, P k := by
  intro k hk
  rw [← (firstSeenAfter_iff.mp (firstSeenAfter_takeStep hok)).2] at hk
  exact forall_enterAll hknown hmentioned k hk

/-- What the first of several steps mentions is mentioned once all of them are in. -/
theorem mentioned_of_takeSteps {table : Table} {step : Step} {rest : List Step}
    (hok : (table.takeStep m step).act.result = .ok ())
    (hrest : ((table.takeStep m step).table.takeSteps m rest).act.result = .ok ())
    (h : ∀ v ∈ ((table.takeStep m step).table.takeSteps m rest).table.mentionedStates, P v) :
    ∀ v ∈ (step.rules table.states).flatMap Rule.states, P v := by
  intro v hv
  refine h v ?_
  rw [mentionedStates, rules_takeSteps_of_ok hrest, rules_takeStep_of_ok hok,
    List.flatMap_append, List.flatMap_append]
  exact List.mem_append_left _ (List.mem_append_right _ hv)

end Table

end StateRules
