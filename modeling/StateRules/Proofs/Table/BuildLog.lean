import StateRules.Proofs.Declaration.Silence
import StateRules.Proofs.Table.Conservation
import StateRules.Proofs.Table.Grouping
import StateRules.Proofs.Table.Refusal

/-!
What the log says of a build.

A rule is recorded once it is in, and a step for `any` that stands for no rule is warned of. Once a
rule is in, some state is known, so no such step comes behind a rule: all warnings come first. Then
there is one record for each rule of the table, in order, and a finished table is summed up last
(`Table.Replays`).

The check of a declaration leaves no records. So a declaration that it refuses is not in the log at
all. One that is accepted may still come to a stop while its rules are entered, and by then the
rules that got in are recorded: the log stays what it was before exactly if not even the first of
them got in (`Table.Begins`, `build_log_replays_table_iff`).

All this is about the records of the compiler. Whatever else is in the log comes of the operations
that classes bring, which are taken to leave none of these, as they do where scripts say what they
mean (`Interpretation.isSilent_upTo`).
-/

namespace StateRules

/-- Whether a record is the one of a rule. -/
def Rule.IsRecordedBy (m : Interpretation) (rule : Rule) (record : Record) : Prop :=
  (rule.writeRecord m).result = .ok record

/-- Whether a record is the warning of a step. -/
def Step.IsWarnedBy (m : Interpretation) (step : Step) (record : Record) : Prop :=
  (step.writeWarning m).result = .ok record

/-- Whether a step stands for no rule as it is for `any` and no state is known. -/
def Step.isIdle (step : Step) (known : List Value) : Bool := step.source.isAny && known.isEmpty

/-- The steps of some declarations that stand for no rule when it is their turn. -/
def idleSteps (m : Interpretation) (table : Table) (steps : List Step) : List Step :=
  ((table.phases m steps).filter fun phase => phase.1.isIdle phase.2).map Prod.fst

/-- Whether some records replay how a table came of some declarations: first a warning for each step
that stood for no rule, and then a record for each rule of the table, in order. -/
def Table.Replays (m : Interpretation) (declarations : List Value) (table : Table)
    (records : List Record) : Prop :=
  ∃ warnings entries, records = warnings ++ entries ∧
    List.Forall₂ (Step.IsWarnedBy m) (idleSteps m .empty (declarations.flatMap Value.steps))
      warnings ∧
    List.Forall₂ (Rule.IsRecordedBy m) table.rules entries

/-- Whether taking a step gets as far as to a record: its first rule gets in, or it stands for none
and can be warned of. -/
def Table.BeginsStep (m : Interpretation) (table : Table) (step : Step) : Prop :=
  if step.isIdle table.states then ∃ record, step.IsWarnedBy m record
  else ∃ rule ∈ (step.rules table.states).head?, table.HasRoom m rule

/-- Whether taking steps gets as far as to a record. -/
def Table.Begins (m : Interpretation) (table : Table) (steps : List Step) : Prop :=
  ∃ step ∈ steps.head?, table.BeginsStep m step

variable {m : Interpretation} {part : Component}

section Silence

variable (hm : m.IsSilent part)
include hm

theorem isSilent_isKnown (known : List Value) (v : Value) :
    (isKnown m known v).IsSilent part := by
  induction known with
  | nil => exact .pure _
  | cons k rest ih =>
      exact (Value.isSilent_resembles hm k v).bind fun _ => .ite (.pure _) ih

theorem isSilent_enterAll (known vs : List Value) : (enterAll m known vs).2.IsSilent part := by
  induction vs generalizing known with
  | nil => exact .pure _
  | cons v rest ih =>
      have hknown := isSilent_isKnown hm known v
      unfold enterAll
      dsimp only
      split
      · exact hknown
      · exact hknown.bind fun _ => ih _

theorem Table.isSilent_enter (table : Table) (rule : Rule) :
    (table.enter m rule).2.IsSilent part := by
  have hstates := isSilent_enterAll hm table.states rule.states
  unfold enter
  dsimp only
  split
  · exact hstates
  · exact hstates.bind fun _ => isSilent_enterAll hm _ _

theorem Rule.isSilent_writeRecord (rule : Rule) : (rule.writeRecord m).IsSilent part :=
  (Value.isSilent_writeLabel hm rule.source).bind fun _ =>
    (Value.isSilent_writeDisplay hm rule.event).bind fun _ =>
      (Value.isSilent_writeLabel hm rule.destination).bind fun _ => .pure _

theorem Step.isSilent_writeWarning (step : Step) : (step.writeWarning m).IsSilent part :=
  (Value.isSilent_write hm step.event).bind fun _ => .pure _

end Silence

theorem Rule.IsRecordedBy.kind {rule : Rule} {record : Record} (h : rule.IsRecordedBy m record) :
    record.level = .debug ∧ record.component = .compiler := by
  obtain ⟨_, _, hrest⟩ := Act.result_bind_eq_ok_iff.mp h
  obtain ⟨_, _, hrest⟩ := Act.result_bind_eq_ok_iff.mp hrest
  obtain ⟨_, _, hrecord⟩ := Act.result_bind_eq_ok_iff.mp hrest
  obtain rfl := Except.ok.inj hrecord
  exact ⟨rfl, rfl⟩

theorem Step.IsWarnedBy.kind {step : Step} {record : Record} (h : step.IsWarnedBy m record) :
    record.level = .warning ∧ record.component = .compiler := by
  obtain ⟨_, _, hrecord⟩ := Act.result_bind_eq_ok_iff.mp h
  obtain rfl := Except.ok.inj hrecord
  exact ⟨rfl, rfl⟩

/-- What is written in silence and then emitted is the one record there is. -/
theorem Act.recordsOf_bind_emit_of_ok {act : Act Record} (hact : act.IsSilent part)
    {record : Record} (h : act.result = .ok record) (hpart : record.component = part) :
    (act >>= Act.emit).recordsOf part = [record] := by
  rw [hact.recordsOf_bind h, recordsOf_emit hpart]

/-- Emitting never fails, so what fails before it leaves nothing. -/
theorem Act.recordsOf_bind_emit_of_error {act : Act Record} (hact : act.IsSilent part)
    {fault : Fault} (h : (act >>= Act.emit).result = .error fault) :
    (act >>= Act.emit).recordsOf part = [] := by
  rcases result_bind_eq_error_iff.mp h with hfault | ⟨_, _, hemit⟩
  · rw [recordsOf_bind_of_error hfault]
    exact hact
  · cases hemit

namespace Extension

theorem recordsOf_andThen_of_ok {first : Extension} (h : first.act.result = .ok ())
    (next : Table → Extension) :
    (first.andThen next).act.recordsOf part =
      first.act.recordsOf part ++ (next first.table).act.recordsOf part := by
  rw [andThen_of_ok h, Act.recordsOf_bind_of_ok h]

theorem recordsOf_andThen_of_error {first : Extension} {fault : Fault}
    (h : first.act.result = .error fault) (next : Table → Extension) :
    (first.andThen next).act.recordsOf part = first.act.recordsOf part := by
  rw [andThen_of_error h]

/-- What holds of the records of both holds of those of the two in a row. -/
theorem forall_recordsOf_andThen {P : Record → Prop} {first : Extension}
    {next : Table → Extension} (hfirst : ∀ record ∈ first.act.recordsOf part, P record)
    (hnext : ∀ record ∈ (next first.table).act.recordsOf part, P record) :
    ∀ record ∈ (first.andThen next).act.recordsOf part, P record := by
  cases h : first.act.result with
  | error fault => rwa [recordsOf_andThen_of_error h]
  | ok _ =>
      rw [recordsOf_andThen_of_ok h]
      exact List.forall_mem_append.mpr ⟨hfirst, hnext⟩

end Extension

namespace Table

variable {table : Table}

theorem act_takeRule (m : Interpretation) (table : Table) (rule : Rule) :
    (table.takeRule m rule).act =
      ((table.enter m rule).2 >>= fun _ => rule.writeRecord m) >>= Act.emit :=
  (bind_assoc _ _ _).symm

/-- An idle step stands for no rule. -/
theorem rules_of_isIdle {step : Step} {known : List Value} (h : step.isIdle known = true) :
    step.rules known = [] := by
  simp only [Step.isIdle, Bool.and_eq_true, List.isEmpty_iff] at h
  simp [Step.rules, h.1, h.2]

theorem rules_ne_nil_of_not_isIdle {step : Step} {known : List Value}
    (h : step.isIdle known = false) : step.rules known ≠ [] := by
  unfold Step.rules
  cases hany : step.source.isAny with
  | true => simpa [Step.isIdle, hany] using h
  | false => simp

theorem takeStep_of_isIdle {step : Step} (h : step.isIdle table.states = true) :
    table.takeStep m step = ⟨table, step.writeWarning m >>= Act.emit⟩ := if_pos h

theorem takeStep_of_not_isIdle {step : Step} (h : step.isIdle table.states = false) :
    table.takeStep m step = table.takeRules m (step.rules table.states) := by
  unfold takeStep
  exact if_neg (by simpa [Step.isIdle] using h)

/-- Once a rule is in, some state is known. -/
theorem states_takeRule_ne_nil {rule : Rule} (h : (table.takeRule m rule).act.result = .ok ()) :
    (table.takeRule m rule).table.states ≠ [] := by
  have hroom := (result_takeRule_eq_ok_iff_hasRoom.mp h).states
  show (table.enter m rule).1.states ≠ []
  rw [states_enter, Rule.states]
  rw [Rule.states] at hroom
  cases hknown : (isKnown m table.states rule.source).result with
  | error fault =>
      rw [(enterAll_cons_of_error hknown _).2] at hroom
      cases hroom
  | ok isThere =>
      rw [(enterAll_cons_of_ok hknown _).1]
      intro hnil
      have hgrown := prefix_enterAll m (if isThere then table.states
        else table.states ++ [rule.source]) rule.target.named
      rw [hnil, List.prefix_nil] at hgrown
      cases isThere with
      | true =>
          rw [if_pos rfl] at hgrown
          rw [hgrown] at hknown
          cases hknown
      | false => simp at hgrown

theorem states_takeRules_ne_nil {rules : List Rule} (hrules : rules ≠ [])
    (h : (table.takeRules m rules).act.result = .ok ()) :
    (table.takeRules m rules).table.states ≠ [] := by
  cases rules with
  | nil => exact absurd rfl hrules
  | cons rule rest =>
      obtain ⟨hrule, _⟩ := Extension.result_andThen_eq_ok_iff.mp h
      rw [takeRules, Extension.andThen_of_ok hrule]
      refine takeRules_keeps (P := fun other => other.states ≠ []) (Q := fun _ => True) ?_
        (states_takeRule_ne_nil hrule) fun _ _ => trivial
      intro other rule hother _ hnil
      have hgrown := (grows_enter m other rule).states
      rw [hnil, List.prefix_nil] at hgrown
      exact hother hgrown

/-- The idle steps are the first, if it is idle, and those of the rest, which come upon the table
that it leads to. -/
theorem idleSteps_cons (m : Interpretation) (table : Table) (step : Step) (rest : List Step) :
    idleSteps m table (step :: rest) =
      (if step.isIdle table.states then [step] else []) ++
        idleSteps m (table.takeStep m step).table rest := by
  rw [idleSteps, phases, List.filter_cons]
  split <;> rfl

section Silent

variable (hm : m.IsSilent .compiler)
include hm

theorem isSilent_note (table : Table) (rule : Rule) :
    ((table.enter m rule).2 >>= fun _ => rule.writeRecord m).IsSilent .compiler :=
  (table.isSilent_enter hm rule).bind fun _ => rule.isSilent_writeRecord hm

/-- A rule that gets in leaves its record, and one that does not leaves none. -/
theorem recordsOf_takeRule_of_ok {rule : Rule}
    (h : (table.takeRule m rule).act.result = .ok ()) :
    ∃ record, rule.IsRecordedBy m record ∧
      (table.takeRule m rule).act.recordsOf .compiler = [record] := by
  obtain ⟨henter, record, hrecord⟩ := (result_takeRule_eq_ok_iff m table rule).mp h
  refine ⟨record, hrecord, ?_⟩
  rw [act_takeRule]
  refine Act.recordsOf_bind_emit_of_ok (isSilent_note hm table rule) ?_
    (Rule.IsRecordedBy.kind hrecord).2
  rw [Act.result_bind_of_ok henter]
  exact hrecord

theorem recordsOf_takeRule_of_error {rule : Rule} {fault : Fault}
    (h : (table.takeRule m rule).act.result = .error fault) :
    (table.takeRule m rule).act.recordsOf .compiler = [] := by
  rw [act_takeRule] at h ⊢
  exact Act.recordsOf_bind_emit_of_error (isSilent_note hm table rule) h

theorem recordsOf_takeRules_of_ok {rules : List Rule}
    (h : (table.takeRules m rules).act.result = .ok ()) :
    List.Forall₂ (Rule.IsRecordedBy m) rules
      ((table.takeRules m rules).act.recordsOf .compiler) := by
  induction rules generalizing table with
  | nil => exact .nil
  | cons rule rest ih =>
      obtain ⟨hrule, hrest⟩ := Extension.result_andThen_eq_ok_iff.mp h
      obtain ⟨record, hrecord, hrecords⟩ := recordsOf_takeRule_of_ok hm hrule
      rw [takeRules, Extension.recordsOf_andThen_of_ok hrule, hrecords, List.singleton_append]
      exact .cons hrecord (ih hrest)

theorem recordsOf_takeStep_of_isIdle {step : Step} (hidle : step.isIdle table.states = true)
    (h : (table.takeStep m step).act.result = .ok ()) :
    ∃ record, step.IsWarnedBy m record ∧
      (table.takeStep m step).act.recordsOf .compiler = [record] := by
  rw [takeStep_of_isIdle hidle] at h ⊢
  obtain ⟨record, hrecord, _⟩ := Act.result_bind_eq_ok_iff.mp h
  exact ⟨record, hrecord, Act.recordsOf_bind_emit_of_ok (step.isSilent_writeWarning hm) hrecord
    (Step.IsWarnedBy.kind hrecord).2⟩

/-- Steps that get in leave the warnings of those that are idle, then the records of their rules.
No step is idle where some state is known. -/
theorem recordsOf_takeSteps_of_ok {steps : List Step}
    (h : (table.takeSteps m steps).act.result = .ok ()) :
    ∃ warnings entries,
      (table.takeSteps m steps).act.recordsOf .compiler = warnings ++ entries ∧
      List.Forall₂ (Step.IsWarnedBy m) (idleSteps m table steps) warnings ∧
      List.Forall₂ (Rule.IsRecordedBy m)
        ((table.phases m steps).flatMap fun phase => phase.1.rules phase.2) entries ∧
      (table.states ≠ [] → warnings = []) := by
  induction steps generalizing table with
  | nil => exact ⟨[], [], rfl, .nil, .nil, fun _ => rfl⟩
  | cons step rest ih =>
      obtain ⟨hstep, hrest⟩ := Extension.result_andThen_eq_ok_iff.mp h
      obtain ⟨warnings, entries, hrecords, hwarnings, hentries, hnone⟩ := ih hrest
      rw [takeSteps, Extension.recordsOf_andThen_of_ok hstep, hrecords]
      cases hidle : step.isIdle table.states with
      | true =>
          -- The table is as before, so the warning joins those of the steps behind it.
          obtain ⟨warning, hwarning, hfirst⟩ := recordsOf_takeStep_of_isIdle hm hidle hstep
          refine ⟨warning :: warnings, entries, ?_, ?_, ?_, ?_⟩
          · rw [hfirst, List.singleton_append, List.cons_append]
          · rw [idleSteps_cons, if_pos hidle]
            exact .cons hwarning hwarnings
          · rw [phases, List.flatMap_cons, rules_of_isIdle hidle, List.nil_append]
            exact hentries
          · intro hstates
            simp [Step.isIdle, hstates] at hidle
      | false =>
          -- From here on some state is known, so nothing behind the step is idle.
          have hstep' := takeStep_of_not_isIdle (m := m) hidle
          have hrules := hstep' ▸ hstep
          have hknown : (table.takeStep m step).table.states ≠ [] :=
            hstep' ▸ states_takeRules_ne_nil (rules_ne_nil_of_not_isIdle hidle) hrules
          obtain rfl := hnone hknown
          have hfirst : List.Forall₂ (Rule.IsRecordedBy m) (step.rules table.states)
              ((table.takeStep m step).act.recordsOf .compiler) :=
            hstep' ▸ recordsOf_takeRules_of_ok hm hrules
          refine ⟨[], _ ++ entries, rfl, ?_, ?_, fun _ => rfl⟩
          · rw [idleSteps_cons, if_neg (by simp [hidle])]
            exact hwarnings
          · rw [phases, List.flatMap_cons]
            exact List.rel_append hfirst hentries

/-- The first rule that does not get in ends it, so there are no records just when the first of
all does not. -/
theorem recordsOf_takeRules_eq_nil_iff (rules : List Rule) :
    (table.takeRules m rules).act.recordsOf .compiler = [] ↔
      ¬∃ rule ∈ rules.head?, table.HasRoom m rule := by
  cases rules with
  | nil => simp [takeRules, Act.recordsOf, Act.pure_def]
  | cons rule rest =>
      simp only [List.head?_cons, Option.mem_some_iff, exists_eq_left',
        ← result_takeRule_eq_ok_iff_hasRoom]
      rw [takeRules]
      cases hrule : (table.takeRule m rule).act.result with
      | error fault =>
          rw [Extension.recordsOf_andThen_of_error hrule, recordsOf_takeRule_of_error hm hrule]
          simp
      | ok _ =>
          obtain ⟨record, _, hrecord⟩ := recordsOf_takeRule_of_ok hm hrule
          rw [Extension.recordsOf_andThen_of_ok hrule, hrecord]
          simp

theorem recordsOf_takeStep_eq_nil_iff (step : Step) :
    (table.takeStep m step).act.recordsOf .compiler = [] ↔ ¬table.BeginsStep m step := by
  unfold BeginsStep
  cases hidle : step.isIdle table.states with
  | false =>
      rw [takeStep_of_not_isIdle hidle, if_neg Bool.false_ne_true]
      exact recordsOf_takeRules_eq_nil_iff hm _
  | true =>
      have hsilent := step.isSilent_writeWarning hm
      rw [takeStep_of_isIdle hidle, if_pos rfl]
      cases hwarning : (step.writeWarning m).result with
      | error fault =>
          have hfault : (step.writeWarning m >>= Act.emit).result = .error fault :=
            Act.result_bind_eq_error_iff.mpr (.inl hwarning)
          rw [Act.recordsOf_bind_emit_of_error hsilent hfault]
          simp [Step.IsWarnedBy, hwarning]
      | ok record =>
          rw [Act.recordsOf_bind_emit_of_ok hsilent hwarning (Step.IsWarnedBy.kind hwarning).2]
          simp [Step.IsWarnedBy, hwarning]

theorem recordsOf_takeStep_ne_nil_of_ok {step : Step}
    (h : (table.takeStep m step).act.result = .ok ()) :
    (table.takeStep m step).act.recordsOf .compiler ≠ [] := by
  cases hidle : step.isIdle table.states with
  | true =>
      obtain ⟨record, _, hrecord⟩ := recordsOf_takeStep_of_isIdle hm hidle h
      simp [hrecord]
  | false =>
      rw [takeStep_of_not_isIdle hidle] at h ⊢
      intro hnone
      have hrules := recordsOf_takeRules_of_ok hm h
      rw [hnone, List.forall₂_nil_right_iff] at hrules
      exact rules_ne_nil_of_not_isIdle hidle hrules

/-- A step that gets in leaves some record. So it is the first step that decides whether there
are any. -/
theorem recordsOf_takeSteps_eq_nil_iff (steps : List Step) :
    (table.takeSteps m steps).act.recordsOf .compiler = [] ↔ ¬table.Begins m steps := by
  cases steps with
  | nil => simp [takeSteps, Begins, Act.recordsOf, Act.pure_def]
  | cons step rest =>
      simp only [Begins, List.head?_cons, Option.mem_some_iff, exists_eq_left']
      rw [← recordsOf_takeStep_eq_nil_iff hm, takeSteps]
      cases hstep : (table.takeStep m step).act.result with
      | error fault => rw [Extension.recordsOf_andThen_of_error hstep]
      | ok _ =>
          have hsome := recordsOf_takeStep_ne_nil_of_ok hm hstep
          simp [Extension.recordsOf_andThen_of_ok hstep, hsome]

theorem level_ne_info_takeRules (rules : List Rule) :
    ∀ record ∈ (table.takeRules m rules).act.recordsOf .compiler, record.level ≠ .info := by
  induction rules generalizing table with
  | nil => exact List.forall_mem_nil _
  | cons rule rest ih =>
      refine Extension.forall_recordsOf_andThen ?_ ih
      cases hrule : (table.takeRule m rule).act.result with
      | error fault => simp [recordsOf_takeRule_of_error hm hrule]
      | ok _ =>
          obtain ⟨record, hrecord, hrecords⟩ := recordsOf_takeRule_of_ok hm hrule
          rw [hrecords]
          simp [hrecord.kind]

/-- Rules are recorded and steps are warned of, so nothing is summed up while steps are taken. -/
theorem level_ne_info_takeSteps (steps : List Step) :
    ∀ record ∈ (table.takeSteps m steps).act.recordsOf .compiler, record.level ≠ .info := by
  induction steps generalizing table with
  | nil => exact List.forall_mem_nil _
  | cons step rest ih =>
      refine Extension.forall_recordsOf_andThen ?_ ih
      cases hidle : step.isIdle table.states with
      | false =>
          rw [takeStep_of_not_isIdle hidle]
          exact level_ne_info_takeRules hm _
      | true =>
          cases hstep : (table.takeStep m step).act.result with
          | error fault =>
              rw [takeStep_of_isIdle hidle] at hstep ⊢
              simp [Act.recordsOf_bind_emit_of_error (step.isSilent_writeWarning hm) hstep]
          | ok _ =>
              obtain ⟨record, hwarning, hrecords⟩ := recordsOf_takeStep_of_isIdle hm hidle hstep
              rw [hrecords]
              simp [hwarning.kind]

/-- The check of a declaration leaves no records, so all there are come of its steps. -/
theorem recordsOf_add_of_accepted {declaration : Value} (h : declaration.Accepted m)
    (table : Table) :
    (table.add m declaration).act.recordsOf .compiler =
      (table.takeSteps m declaration.steps).act.recordsOf .compiler := by
  have hcheck := h.check
  simp only [add, hcheck]
  exact (declaration.isSilent_check hm).recordsOf_bind hcheck _

theorem recordsOf_add_of_not_accepted {declaration : Value} (h : ¬declaration.Accepted m)
    (table : Table) : (table.add m declaration).act.recordsOf .compiler = [] := by
  cases hcheck : (declaration.check m).result with
  | ok steps => exact absurd ⟨steps, hcheck⟩ h
  | error fault =>
      simp only [add, hcheck]
      exact declaration.isSilent_check hm

theorem recordsOf_extend_of_accepted {declarations : List Value}
    (h : ∀ declaration ∈ declarations, declaration.Accepted m) (table : Table) :
    (table.extend m declarations).act.recordsOf .compiler =
      (table.takeSteps m (declarations.flatMap Value.steps)).act.recordsOf .compiler := by
  refine (extend_agreesOn_of_accepted h ?_ table).records
  intro declaration _ record hrecord
  have hnone := declaration.isSilent_check hm
  rw [Act.IsSilent, Act.recordsOf, List.filter_eq_nil_iff] at hnone
  simpa using hnone record hrecord

/-- The log of declarations that got in replays the table that they lead to. -/
theorem replays_of_extend_ok {declarations : List Value}
    (h : (Table.empty.extend m declarations).act.result = .ok ()) :
    Table.Replays m declarations (Table.empty.extend m declarations).table
      ((Table.empty.extend m declarations).act.recordsOf .compiler) := by
  have haccepted := accepted_of_extend_ok h
  have hagrees := extend_agrees_of_accepted haccepted .empty
  have hsteps := hagrees.result.symm.trans h
  obtain ⟨warnings, entries, hrecords, hwarnings, hentries, _⟩ :=
    recordsOf_takeSteps_of_ok hm hsteps
  refine ⟨warnings, entries, ?_, hwarnings, ?_⟩
  · rw [recordsOf_extend_of_accepted hm haccepted, hrecords]
  · rw [hagrees.table, rules_takeSteps_of_ok hsteps]
    exact hentries

/-- A declaration leaves nothing in the log exactly if it is not accepted, or if not even its
first rule gets in. -/
theorem recordsOf_add_eq_nil_iff (table : Table) (declaration : Value) :
    (table.add m declaration).act.recordsOf .compiler = [] ↔
      (declaration.Accepted m → ¬table.Begins m declaration.steps) := by
  by_cases h : declaration.Accepted m
  · rw [recordsOf_add_of_accepted hm h, recordsOf_takeSteps_eq_nil_iff hm]
    exact (imp_iff_right h).symm
  · exact iff_of_true (recordsOf_add_of_not_accepted hm h table) fun haccepted => absurd haccepted h

theorem level_ne_info_add (table : Table) (declaration : Value) :
    ∀ record ∈ (table.add m declaration).act.recordsOf .compiler, record.level ≠ .info := by
  by_cases h : declaration.Accepted m
  · rw [recordsOf_add_of_accepted hm h]
    exact level_ne_info_takeSteps hm _
  · simp [recordsOf_add_of_not_accepted hm h table]

end Silent

/-- Extending by several values fails at the first that cannot be added whole. What is in the log
by then came of those before it and of this one. -/
theorem exists_failing_of_extend_error (part : Component) {declarations : List Value}
    {fault : Fault}
    (h : (table.extend m declarations).act.result = .error fault) :
    ∃ before declaration after, declarations = before ++ declaration :: after ∧
      (table.extend m before).act.result = .ok () ∧
      ((table.extend m before).table.add m declaration).act.result = .error fault ∧
      (table.extend m declarations).act.recordsOf part =
        (table.extend m before).act.recordsOf part ++
          ((table.extend m before).table.add m declaration).act.recordsOf part := by
  induction declarations generalizing table with
  | nil => cases h
  | cons first rest ih =>
      cases hfirst : (table.add m first).act.result with
      | error other =>
          rw [extend, Extension.andThen_of_error hfirst, hfirst] at h
          cases h
          refine ⟨[], first, rest, rfl, rfl, hfirst, ?_⟩
          exact Extension.recordsOf_andThen_of_error hfirst _
      | ok _ =>
          rw [extend, (Extension.andThen_agrees_of_ok hfirst _).result] at h
          obtain ⟨before, declaration, after, rfl, hbefore, hfault, hrecords⟩ := ih h
          refine ⟨first :: before, declaration, after, rfl, ?_, ?_, ?_⟩
          · exact Extension.result_andThen_eq_ok_iff.mpr ⟨hfirst, hbefore⟩
          · rwa [extend, Extension.andThen_of_ok hfirst]
          · simp only [extend, Extension.andThen_of_ok hfirst, Act.recordsOf_bind_of_ok hfirst,
              hrecords, List.append_assoc]

end Table

/-- The compiler's log of a build. One that succeeds replays its table (`Table.Replays`), that is to
say first the steps for `any` that stood for no rule and then every rule in order, and the table is
summed up last by how many rules, states and events it has. One that fails does so at a certain
declaration. The log then replays the table that those before it lead to, with nothing to sum it up,
and has nothing of this declaration exactly if it was refused by its check, or else not even its
first rule got in. -/
theorem build_log_replays_table_iff {m : Interpretation} (hm : m.IsSilent .compiler)
    (declarations : List Value) :
    (∀ table, (build m declarations).result = .ok table →
      ∃ records, table.Replays m declarations records ∧
        (build m declarations).recordsOf .compiler = records ++
          [⟨.info, .compiler,
            "Rule table built — " ++ toString table.rules.length ++ " rules, " ++
              toString table.states.length ++ " states, " ++
                toString table.events.length ++ " events"⟩]) ∧
    ∀ fault, (build m declarations).result = .error fault →
      ∃ before declaration after, declarations = before ++ declaration :: after ∧
        let reached := Table.empty.extend m before
        reached.act.result = .ok () ∧
        (reached.table.add m declaration).act.result = .error fault ∧
        ∃ records others, reached.table.Replays m before records ∧
          (build m declarations).recordsOf .compiler = records ++ others ∧
          (others = [] ↔
            (declaration.Accepted m → ¬reached.table.Begins m declaration.steps)) ∧
          ∀ record ∈ records ++ others, record.level ≠ .info := by
  constructor
  · intro table htable
    obtain ⟨hextend, rfl⟩ := Extension.result_finish_eq_ok_iff.mp htable
    refine ⟨_, Table.replays_of_extend_ok hm hextend, ?_⟩
    rw [build, Extension.finish, Act.recordsOf_bind_of_ok hextend]
    rfl
  · intro fault hfault
    have hextend : (Table.empty.extend m declarations).act.result = .error fault := by
      rw [build, Extension.result_finish] at hfault
      cases hresult : (Table.empty.extend m declarations).act.result with
      | ok _ => simp [hresult, Except.map] at hfault
      | error other => simpa [hresult, Except.map] using hfault
    obtain ⟨before, declaration, after, heq, hbefore, hadd, hrecords⟩ :=
      Table.exists_failing_of_extend_error .compiler hextend
    refine ⟨before, declaration, after, heq, hbefore, hadd, _, _,
      Table.replays_of_extend_ok hm hbefore, ?_, Table.recordsOf_add_eq_nil_iff hm _ _,
      List.forall_mem_append.mpr ⟨?_, Table.level_ne_info_add hm _ _⟩⟩
    · rw [build, Extension.finish, Act.recordsOf_bind_of_error hextend, hrecords]
    · rw [Table.recordsOf_extend_of_accepted hm (Table.accepted_of_extend_ok hbefore)]
      exact Table.level_ne_info_takeSteps hm _

/-- Orders that can be dropped: once before any state is known, and once after. -/
def earlyDrops : List Value :=
  [.declaration (.simple .any (.text "void") (.text "drop")),
    .declaration (.simple (.text "new") (.text "paid") (.text "pay")),
    .declaration (.simple .any (.text "void") (.text "drop"))]

/-- The first way to drop an order is warned of, and the second one stands for a rule for each
state. Of the attempts to declare an order only what stands before the first mistake is in the
log. -/
theorem build_log_replays_table_earlyDrops :
    (∃ table records, (build .exhausted earlyDrops).result = .ok table ∧
      table.Replays .exhausted earlyDrops records ∧
      (build .exhausted earlyDrops).recordsOf .compiler = records ++
        [⟨.info, .compiler, "Rule table built — 3 rules, 3 states, 2 events"⟩] ∧
      records.map Record.text =
        ["ANY rule for event 'drop' declared before any state — expands to nothing",
          "Rule: 'new' --pay--> 'paid'", "Rule: 'new' --drop--> 'void'",
          "Rule: 'paid' --drop--> 'void'"]) ∧
    ∃ before declaration after records others,
      orderAttempts = before ++ declaration :: after ∧
        (Table.empty.extend .exhausted before).table.Replays .exhausted before records ∧
        (build .exhausted orderAttempts).recordsOf .compiler = records ++ others ∧
        (records ++ others).map Record.text = ["Rule: 'new' --pay--> 'paid'"] := by
  have hsilent := Interpretation.isSilent_exhausted .compiler
  constructor
  · obtain ⟨records, hreplays, hlog⟩ :=
      (build_log_replays_table_iff hsilent earlyDrops).1 _ rfl
    refine ⟨_, records, rfl, hreplays, hlog, ?_⟩
    have hrecords := congrArg List.dropLast hlog
    rw [List.dropLast_concat] at hrecords
    exact hrecords ▸ rfl
  · obtain ⟨before, declaration, after, heq, _, _, records, others, hreplays, hlog, _⟩ :=
      (build_log_replays_table_iff hsilent orderAttempts).2 _ rfl
    exact ⟨before, declaration, after, records, others, heq, hreplays, hlog, hlog ▸ rfl⟩

/-- A block that leads to two drafts without a title. -/
def draftedOrders : Value :=
  .declaration (.sourceBlock (.text "x") .unset .null
    [.declaration (.toEntry (.text "y") (.text "go")),
      .declaration (.toEntry (draft 0 "x") (.text "go")),
      .declaration (.toEntry (draft 1 "y") (.text "go"))])

/-- A declaration at which building fails may leave records. The block is accepted and then comes to
a stop, at the second draft, which cannot be compared with the first. By then two rules are in the
log. -/
theorem failing_declaration_leaves_records :
    ¬∀ (m : Interpretation) (declarations : List Value) (fault : Fault), m.IsSilent .compiler →
      (build m declarations).result = .error fault →
      ∃ before declaration after, declarations = before ++ declaration :: after ∧
        ((Table.empty.extend m before).table.add m declaration).act.result = .error fault ∧
        (build m declarations).recordsOf .compiler =
          (Table.empty.extend m before).act.recordsOf .compiler := by
  intro hall
  obtain ⟨before, declaration, after, heq, _, hlog⟩ :=
    hall .exhausted [draftedOrders] _ (Interpretation.isSilent_exhausted _) rfl
  obtain rfl : before = [] := by
    cases before with
    | nil => rfl
    | cons first rest => simp at heq
  cases hlog

end StateRules
