import StateRules.Proofs.Table.Recall

/-!
What a declaration does when it is added once more.

Its rules come in behind those that are there. Where they are rules that the table has already, they
decide nothing: whatever they cover is covered by the earlier ones, and what the earlier ones
decline they decline as well (`Table.result_searchIndex_of_subset`).

A declaration without `any` has the same rules each time. One with a step for `any` need not. The
first time fewer states may have been known, as what the declaration itself leads to has become
known only then, and the second time it brings in the rules from these. By then the catalogs are at
rest, and from tables with the same catalogs the same steps lead on in the same way, whatever rules
there are (`Table.takeSteps_behind`). So the third time nothing comes in that did not the second
time (`repeated_declarations_settle`).

What is looked for has to be found where it stands, so it has to be the same as itself. A value is
unless it has, somewhere in it, a mapping with one key in two places or a token that is written by
an undefined number. Of values without these nothing is to be supposed
(`repeated_whole_declarations_settle`).
-/

namespace StateRules

variable {m : Interpretation}

namespace Table

/-- A table with some rules put before its own. -/
def behind (earlier : List Rule) (table : Table) : Table :=
  {table with rules := earlier ++ table.rules}

end Table

/-- An extension with some rules put before those of its table. -/
def Extension.behind (earlier : List Rule) (extension : Extension) : Extension :=
  ⟨extension.table.behind earlier, extension.act⟩

theorem Extension.behind_andThen {earlier : List Rule} {next : Table → Extension}
    (hnext : ∀ table : Table, next (table.behind earlier) = (next table).behind earlier)
    (first : Extension) :
    (first.behind earlier).andThen next = (first.andThen next).behind earlier := by
  cases h : first.act.result with
  | error fault =>
      have hbehind : (first.behind earlier).act.result = .error fault := h
      rw [andThen_of_error h, andThen_of_error hbehind]
  | ok _ =>
      have hbehind : (first.behind earlier).act.result = .ok () := h
      have hnext : next (first.behind earlier).table = (next first.table).behind earlier :=
        hnext first.table
      rw [andThen_of_ok h, andThen_of_ok hbehind, hnext]
      rfl

namespace Table

variable {table other : Table} {earlier : List Rule}

theorem takeRule_behind (table : Table) (rule : Rule) :
    (table.behind earlier).takeRule m rule = (table.takeRule m rule).behind earlier := by
  simp only [takeRule, enter, behind, Extension.behind]
  split <;> simp

theorem takeRules_behind (table : Table) (rules : List Rule) :
    (table.behind earlier).takeRules m rules = (table.takeRules m rules).behind earlier := by
  induction rules generalizing table with
  | nil => rfl
  | cons rule rest ih =>
      rw [takeRules, takeRules, takeRule_behind]
      exact Extension.behind_andThen ih _

theorem takeStep_behind (table : Table) (step : Step) :
    (table.behind earlier).takeStep m step = (table.takeStep m step).behind earlier := by
  have hstates : (table.behind earlier).states = table.states := rfl
  rw [takeStep, takeStep, hstates]
  split
  · rfl
  · exact takeRules_behind table _

/-- How steps lead on does not depend on the rules that are there. -/
theorem takeSteps_behind (table : Table) (steps : List Step) :
    (table.behind earlier).takeSteps m steps = (table.takeSteps m steps).behind earlier := by
  induction steps generalizing table with
  | nil => rfl
  | cons step rest ih =>
      rw [takeSteps, takeSteps, takeStep_behind]
      exact Extension.behind_andThen ih _

/-- From tables with the same catalogs, the same steps lead to the same catalogs, come to the same
and bring in the same rules. -/
theorem takeSteps_of_sharesCatalogs (h : table.SharesCatalogs other) (steps : List Step) :
    (table.takeSteps m steps).table.SharesCatalogs (other.takeSteps m steps).table ∧
      (other.takeSteps m steps).act = (table.takeSteps m steps).act ∧
      ∃ more, (table.takeSteps m steps).table.rules = table.rules ++ more ∧
        (other.takeSteps m steps).table.rules = other.rules ++ more := by
  obtain ⟨rules, states, events⟩ := table
  obtain ⟨rules', states', events'⟩ := other
  obtain ⟨rfl, rfl⟩ := h
  have hbehind (rules : List Rule) :
      (⟨rules, states', events'⟩ : Table) = (⟨[], states', events'⟩ : Table).behind rules := by
    simp [behind]
  rw [hbehind rules, hbehind rules', takeSteps_behind, takeSteps_behind]
  refine ⟨⟨rfl, rfl⟩, rfl, ((⟨[], states', events'⟩ : Table).takeSteps m steps).table.rules, ?_⟩
  simp [Extension.behind, behind]

/-- Rules that are there already change nothing about what a search comes to. -/
theorem result_searchIndex_of_subset {more : List Rule} (hrules : other.rules = table.rules ++ more)
    (hmore : more ⊆ table.rules) (state event : Value) :
    (other.searchIndex m state event).result = (table.searchIndex m state event).result := by
  rw [searchIndex, searchIndex, hrules]
  by_cases hnone : (searchFrom m state event 0 table.rules).result = .ok none
  · have hdeclines := result_searchFrom_eq_ok_none_iff.mp hnone
    rw [hnone, result_searchFrom_eq_ok_none_iff]
    intro rule hrule
    rcases List.mem_append.mp hrule with hmem | hmem
    · exact hdeclines rule hmem
    · exact hdeclines rule (hmore hmem)
  · rw [searchFrom_append hnone]

/-- Whether adding a value leaves the catalogs of a table as they are, and what every search comes
to. -/
structure Absorbs (m : Interpretation) (table : Table) (v : Value) : Prop where
  catalogs : table.SharesCatalogs (table.add m v).table
  decisions : ∀ state event, ((table.add m v).table.searchIndex m state event).result =
    (table.searchIndex m state event).result

/-- No two states that a reachable table knows are the same. -/
theorem Reachable.pairwise_states (h : table.Reachable m) :
    table.states.Pairwise (Value.Apart m) := by
  refine h.induction (P := fun table => table.states.Pairwise (Value.Apart m))
    (Q := fun _ => True) .nil ?_ (fun _ _ _ _ _ _ _ _ _ => trivial)
  intro table rule hapart _
  rw [states_enter]
  exact pairwise_enterAll hapart

/-- The states that are known after a step are the same as themselves, if those before it are and
those that it mentions. -/
theorem same_self_of_takeSteps {steps : List Step} (hself : ∀ step ∈ steps, step.rule.IsSelfSame m)
    (hknown : ∀ k ∈ table.states, k.Same m k) :
    ∀ k ∈ (table.takeSteps m steps).table.states, k.Same m k := by
  refine takeSteps_keeps (P := fun table => ∀ k ∈ table.states, k.Same m k)
    (Q := Rule.IsSelfSame m) ?_ ?_ hknown
  · exact fun _ _ htable hrule => forall_states_enter htable hrule.states
  · exact fun table htable step hstep => rules_isSelfSame (hself step hstep) htable

/-- The states that are known after a declaration was added can be sources when it is added
again. -/
theorem areSources_add {declaration : Value} (hreachable : table.Reachable m)
    (hself : ∀ step ∈ declaration.steps, step.rule.IsSelfSame m)
    (hknown : ∀ k ∈ table.states, k.Same m k) :
    AreSources m (table.add m declaration).table.states := by
  have hgrown := hreachable.add declaration
  refine ⟨hgrown.pairwise_states, ?_, hgrown.isLegible.states⟩
  cases hcheck : (declaration.check m).result with
  | error fault => rwa [(add_agrees_of_refused hcheck table).table]
  | ok steps =>
      rw [(add_agrees_of_accepted hcheck table).table, ← Value.steps_of_check hcheck]
      exact same_self_of_takeSteps hself hknown

section Again

variable {declaration : Value} {steps : List Step}

/-- A value that is refused leaves every table as it is. -/
theorem absorbs_of_refused {fault : Fault} (h : (declaration.check m).result = .error fault)
    (table : Table) : table.Absorbs m declaration := by
  have hsame := (add_agrees_of_refused h table).table
  constructor
  · rw [hsame]
    exact .refl table
  · intro state event
    rw [hsame]

/-- A table absorbs a declaration that adds nothing to its catalogs, and of the rules those that it
has. -/
theorem absorbs_of_subset (h : (declaration.check m).result = .ok steps) {more : List Rule}
    (hcatalogs : table.SharesCatalogs (table.takeSteps m steps).table)
    (hrules : (table.takeSteps m steps).table.rules = table.rules ++ more)
    (hmore : more ⊆ table.rules) : table.Absorbs m declaration := by
  have hadd := (add_agrees_of_accepted h table).table
  constructor
  · rwa [hadd]
  · rw [hadd]
    exact result_searchIndex_of_subset hrules hmore

variable (h : (declaration.check m).result = .ok steps)
  (hself : ∀ step ∈ steps, step.rule.IsSelfSame m)
include h hself

/-- A declaration without `any` is absorbed once it was added. -/
theorem absorbs_again_of_own (hown : ∀ step ∈ steps, step.source.isAny = false) :
    (table.add m declaration).table.Absorbs m declaration ∧
      ((table.add m declaration).table.add m declaration).act.result =
        (table.add m declaration).act.result := by
  have hfirst := add_agrees_of_accepted h table
  have hrules (table : Table) : (table.takeSteps m steps).Agrees _ :=
    takeSteps_agrees_takeRules hown
  have hselves : ∀ rule ∈ steps.map Step.rule, rule.IsSelfSame m := List.forall_mem_map.mpr hself
  rw [hfirst.table, hfirst.result, (hrules table).table, (hrules table).result]
  obtain ⟨hrests, more, hmore, hmore'⟩ :=
    rests_takeRules_again hselves (.refl (table.takeRules m (steps.map Step.rule)).table)
  constructor
  · refine absorbs_of_subset h ?_ ((congrArg Table.rules (hrules _).table).trans hmore') ?_
    · rw [(hrules _).table]
      exact hrests.catalogs
    · rw [hmore]
      exact List.subset_append_right table.rules more
  · rw [(add_agrees_of_accepted h _).result, (hrules _).result]
    exact hrests.result

/-- Where some state is known, the catalogs are at rest after a declaration was added once, and it
is absorbed once it was added twice. -/
theorem absorbs_third_of_known (hnonempty : table.states ≠ [])
    (hknown : AreSources m (table.add m declaration).table.states) :
    let once := table.add m declaration
    let twice := once.table.add m declaration
    once.table.Rests twice once.act.result ∧ twice.table.Absorbs m declaration ∧
      (twice.table.add m declaration).act.result = twice.act.result := by
  intro once twice
  have hfirst := add_agrees_of_accepted h table
  have hagain := add_agrees_of_accepted h once.table
  have hthird := add_agrees_of_accepted h twice.table
  have hrests : once.table.Rests twice once.act.result := by
    have hcatalogs : (table.takeSteps m steps).table.SharesCatalogs once.table :=
      hfirst.table ▸ .refl _
    have htaken := rests_takeSteps_again hself (fun _ _ _ => hnonempty) hcatalogs hknown
    have hresult := htaken.result.trans hfirst.result.symm
    exact ⟨hagain.table ▸ htaken.catalogs, hagain.result.trans hresult⟩
  -- The second and the third time begin from the same catalogs.
  obtain ⟨hshares, hact, more, hmore, hmore'⟩ := takeSteps_of_sharesCatalogs hrests.catalogs steps
  rw [← hagain.table] at hshares hmore
  refine ⟨hrests, absorbs_of_subset h hshares hmore' ?_, ?_⟩
  · rw [hmore]
    exact List.subset_append_right once.table.rules more
  · rw [hthird.result, hagain.result, hact]

end Again

/-- A value whose steps have no `any` for a source is absorbed once it was added, whether it is
accepted or refused. -/
theorem absorbs_again {declaration : Value}
    (hself : ∀ step ∈ declaration.steps, step.rule.IsSelfSame m)
    (hown : ∀ step ∈ declaration.steps, step.source.isAny = false) :
    (table.add m declaration).table.Absorbs m declaration ∧
      ((table.add m declaration).table.add m declaration).act.result =
        (table.add m declaration).act.result := by
  cases hcheck : (declaration.check m).result with
  | error fault =>
      have hresult (table : Table) : (table.add m declaration).act.result = .error fault :=
        (add_agrees_of_refused hcheck table).result
      exact ⟨absorbs_of_refused hcheck _, (hresult _).trans (hresult table).symm⟩
  | ok steps =>
      obtain rfl := Value.steps_of_check hcheck
      exact absorbs_again_of_own hcheck hself hown

/-- Where some state is known, a value leaves the catalogs as they are when it is added for the
second time, and is absorbed from then on, whether it is accepted or refused. -/
theorem absorbs_third {declaration : Value} (hreachable : table.Reachable m)
    (hself : ∀ step ∈ declaration.steps, step.rule.IsSelfSame m)
    (hknown : ∀ k ∈ table.states, k.Same m k) (hnonempty : table.states ≠ []) :
    let once := table.add m declaration
    let twice := once.table.add m declaration
    once.table.SharesCatalogs twice.table ∧ twice.act.result = once.act.result ∧
      twice.table.Absorbs m declaration ∧
        (twice.table.add m declaration).act.result = once.act.result := by
  intro once twice
  cases hcheck : (declaration.check m).result with
  | error fault =>
      have hresult (table : Table) : (table.add m declaration).act.result = .error fault :=
        (add_agrees_of_refused hcheck table).result
      have habsorbs := absorbs_of_refused hcheck
      exact ⟨(habsorbs once.table).catalogs, (hresult _).trans (hresult table).symm,
        habsorbs twice.table, (hresult _).trans (hresult table).symm⟩
  | ok steps =>
      obtain rfl := Value.steps_of_check hcheck
      obtain ⟨hrests, habsorbs, hthird⟩ := absorbs_third_of_known hcheck hself hnonempty
        (areSources_add hreachable hself hknown)
      exact ⟨hrests.catalogs, hrests.result, habsorbs, hthird.trans hrests.result⟩

end Table

theorem wholeItems_iff {items : List Value} :
    wholeItems items = true ↔ ∀ item ∈ items, item.isWhole = true := by
  induction items with
  | nil => simp [wholeItems]
  | cons item rest ih => rw [wholeItems, Bool.and_eq_true, ih, List.forall_mem_cons]

theorem Value.entryWithin_of_isWhole {entry : Value} (h : entry.isWhole = true) :
    entry.EntryWithin fun v => v.isWhole = true := by
  unfold EntryWithin
  split
  all_goals simp_all [isWhole, Declaration.isWhole]

/-- The steps of a whole value mention whole values only. -/
theorem Value.steps_within_of_isWhole {declaration : Value} (h : declaration.isWhole = true) :
    ∀ step ∈ declaration.steps, step.Within fun v => v.isWhole = true := by
  cases declaration with
  | declaration d =>
      apply Declaration.Within.steps
      rw [isWhole] at h
      cases d with
      | simple source destination event =>
          simp only [Declaration.isWhole, Bool.and_eq_true] at h
          exact ⟨h.1.1, h.1.2, h.2⟩
      | sourceBlock source destination event entries =>
          simp only [Declaration.isWhole, Bool.and_eq_true, wholeItems_iff] at h
          exact ⟨h.1.1.1, fun entry hentry => entryWithin_of_isWhole (h.2 entry hentry)⟩
      | toEntry destination event => trivial
      | eventBlock event entries guard =>
          simp only [Declaration.isWhole, Bool.and_eq_true, wholeItems_iff] at h
          exact ⟨h.1.1, h.2, fun entry hentry => entryWithin_of_isWhole (h.1.2 entry hentry)⟩
  | _ =>
      intro step hstep
      cases hstep

/-- Adding a value again and again to a reachable table settles, where what it mentions and what is
known is the same as itself. Without sources that are `any`, the second time leaves the catalogs and
every search as they are. With such sources, as long as some state is known, it leaves the catalogs
as they are, and the third time leaves every search as it is as well. Each time comes to what the
first one did. -/
theorem repeated_declarations_settle {m : Interpretation} {table : Table} {declaration : Value}
    (hreachable : table.Reachable m) (hself : ∀ step ∈ declaration.steps, step.rule.IsSelfSame m)
    (hknown : ∀ k ∈ table.states, k.Same m k) :
    let once := table.add m declaration
    let twice := once.table.add m declaration
    let thrice := twice.table.add m declaration
    ((∀ step ∈ declaration.steps, step.source.isAny = false) →
      once.table.Absorbs m declaration ∧ twice.act.result = once.act.result) ∧
    (table.states ≠ [] →
      once.table.SharesCatalogs twice.table ∧ twice.act.result = once.act.result ∧
        twice.table.Absorbs m declaration ∧ thrice.act.result = once.act.result) :=
  ⟨Table.absorbs_again hself, Table.absorbs_third hreachable hself hknown⟩

/-- The table of one payment. -/
def firstPayment : Table :=
  (Table.empty.add .exhausted
    (.declaration (.simple (.text "new") (.text "paid") (.text "pay")))).table

/-- A block by which an order can be dropped, or closed, whatever state it is in. -/
def endingBlock : Value :=
  .declaration (.sourceBlock .any .unset .null
    [.declaration (.toEntry (.text "void") (.text "drop")),
      .declaration (.toEntry (.text "closed") (.text "close"))])

/-- A closed order can be dropped only after the block was added twice, and with that it settles. -/
theorem repeated_declarations_settle_ending :
    ∃ once twice, (firstPayment.add .exhausted endingBlock).table = once ∧
      (once.add .exhausted endingBlock).table = twice ∧
      (once.searchIndex .exhausted (.text "closed") (.text "drop")).result = .ok none ∧
      (twice.searchIndex .exhausted (.text "closed") (.text "drop")).result = .ok (some 9) ∧
      once.SharesCatalogs twice ∧ twice.Absorbs .exhausted endingBlock := by
  have hreachable : firstPayment.Reachable .exhausted := .add _ .empty
  have hwhole : endingBlock.isWhole = true := rfl
  have hself : ∀ step ∈ endingBlock.steps, step.rule.IsSelfSame .exhausted := fun step hstep =>
    Rule.Within.isSelfSame (Value.steps_within_of_isWhole hwhole step hstep)
  have hknown : ∀ k ∈ firstPayment.states, k.Same .exhausted k := by
    have hwhole : ∀ k ∈ firstPayment.states, k.isWhole = true := by decide
    exact fun k hk => Value.same_self_of_isWhole (hwhole k hk)
  obtain ⟨_, hsettles⟩ := repeated_declarations_settle hreachable hself hknown
  obtain ⟨hshares, _, habsorbs, _⟩ := hsettles (List.cons_ne_nil _ _)
  exact ⟨_, _, rfl, rfl, rfl, rfl, hshares, habsorbs⟩

/-- Adding a whole value again and again to a table of whole states settles in the same way: nothing
in them differs from itself, so nothing has to be known of how they compare. -/
theorem repeated_whole_declarations_settle {m : Interpretation} {table : Table}
    {declaration : Value}
    (hreachable : table.Reachable m) (hwhole : declaration.isWhole = true)
    (hknown : ∀ k ∈ table.states, k.isWhole = true) :
    let once := table.add m declaration
    let twice := once.table.add m declaration
    let thrice := twice.table.add m declaration
    ((∀ step ∈ declaration.steps, step.source.isAny = false) →
      once.table.Absorbs m declaration ∧ twice.act.result = once.act.result) ∧
    (table.states ≠ [] →
      once.table.SharesCatalogs twice.table ∧ twice.act.result = once.act.result ∧
        twice.table.Absorbs m declaration ∧ thrice.act.result = once.act.result) := by
  have hself : ∀ step ∈ declaration.steps, step.rule.IsSelfSame m := fun step hstep =>
    Rule.Within.isSelfSame (Value.steps_within_of_isWhole hwhole step hstep)
  have hsame : ∀ k ∈ table.states, k.Same m k := fun k hk =>
    Value.same_self_of_isWhole (hknown k hk)
  exact ⟨Table.absorbs_again hself, Table.absorbs_third hreachable hself hsame⟩

end StateRules
