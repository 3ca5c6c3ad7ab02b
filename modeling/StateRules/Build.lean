import StateRules.Declaration.Check
import StateRules.Table
import StateRules.Value.Supply

/-!
Building a table from declarations, with the records that this leaves: `add`, `extend` and `build`
of a `RuleTableBuilder`.

Each declaration is checked as a whole before the table grows, so a refused one
changes nothing. What is accepted may still come to a stop while its rules are entered,
at a state that cannot be compared with one that is known; the table then keeps what
got in. Extending a table ends with the first declaration of either kind and keeps what
came before it.

`Table.appendAll` and `Table.appendRecords` say what a table and its records come to where
values are compared and written by what they are made of (`takeSteps_of_settled`).
-/

namespace StateRules

/-- The record of a rule that entered a table. -/
def Rule.record (rule : Rule) : Record :=
  ⟨.debug, .compiler,
    "Rule: " ++ rule.source.label ++ " --" ++ rule.event.display ++ "--> " ++
      rule.destination.label⟩

/-- The record of a step that stands for no rule, because no state is known. -/
def Step.warning (step : Step) : Record :=
  ⟨.warning, .compiler,
    "ANY rule for event " ++ step.event.written ++
      " declared before any state — expands to nothing"⟩

/-- The records of a step taken when the given states are known. -/
def Step.records (step : Step) (known : List Value) : List Record :=
  if step.source.isAny && known.isEmpty then [step.warning]
  else (step.rules known).map Rule.record

/-- The record of a rule that entered a table, with the operations that classes bring for
writing. -/
def Rule.writeRecord (m : Interpretation) (rule : Rule) : Act Record := do
  let source ← rule.source.writeLabel m
  let event ← rule.event.writeDisplay m
  let destination ← rule.destination.writeLabel m
  pure ⟨.debug, .compiler, "Rule: " ++ source ++ " --" ++ event ++ "--> " ++ destination⟩

/-- The record of a step that stands for no rule, with the operations that classes bring
for writing. -/
def Step.writeWarning (m : Interpretation) (step : Step) : Act Record := do
  let event ← step.event.write m
  pure ⟨.warning, .compiler,
    "ANY rule for event " ++ event ++ " declared before any state — expands to nothing"⟩

/-- Where no class has a say, the record of a rule names what the rule is made of. -/
theorem Rule.writeRecord_of_settled {m : Interpretation} {P : Value → Prop} (hm : Settled m P)
    (rule : Rule) (h : rule.Within P) : rule.writeRecord m = pure rule.record := by
  simp [writeRecord, record, hm.writeLabel h.source, hm.writeDisplay h.event,
    hm.writeLabel h.destination]

theorem Step.writeWarning_of_settled {m : Interpretation} {P : Value → Prop} (hm : Settled m P)
    (step : Step) (h : step.Within P) : step.writeWarning m = pure step.warning := by
  have hevent : P step.event := h.event
  simp [writeWarning, warning, hm.write hevent]

/-- What became of an attempt to extend a table: the table as far as it got, and what the
attempt came to. -/
structure Extension where
  table : Table
  act : Act Unit

/-- One extension followed by another, which is not made if the first one failed. -/
def Extension.andThen (first : Extension) (next : Table → Extension) : Extension :=
  match first.act.result with
  | .error _ => first
  | .ok _ =>
      let others := next first.table
      ⟨others.table, first.act >>= fun _ => others.act⟩

namespace Extension

theorem andThen_of_error {first : Extension} {fault : Fault} (h : first.act.result = .error fault)
    (next : Table → Extension) : first.andThen next = first := by
  simp [andThen, h]

theorem andThen_of_ok {first : Extension} (h : first.act.result = .ok ())
    (next : Table → Extension) :
    first.andThen next =
      ⟨(next first.table).table, first.act >>= fun _ => (next first.table).act⟩ := by
  simp [andThen, h]

/-- When two extensions in a row get through, each of them does. -/
theorem ok_of_andThen {first : Extension} {next : Table → Extension}
    (h : (first.andThen next).act.result = .ok ()) :
    first.act.result = .ok () ∧ (next first.table).act.result = .ok () := by
  cases hfirst : first.act.result with
  | error fault => simp [andThen_of_error hfirst, hfirst] at h
  | ok _ => simpa [andThen_of_ok hfirst, Act.bind_of_ok hfirst] using h

theorem andThen_assoc (first : Extension) (second third : Table → Extension) :
    (first.andThen second).andThen third =
      first.andThen fun table => (second table).andThen third := by
  cases hfirst : first.act.result with
  | error fault => simp [andThen, hfirst]
  | ok _ =>
      cases hsecond : (second first.table).act.result with
      | error fault => simp [andThen, hfirst, hsecond, Act.bind_of_ok hfirst]
      | ok _ =>
          simp only [andThen, hfirst, hsecond, Act.bind_of_ok hfirst, Act.bind_of_ok hsecond]
          simp [Act.bind_of_ok]

end Extension

namespace Table

/-- The records of taking several steps in order. -/
def appendRecords (table : Table) : List Step → List Record
  | [] => []
  | step :: rest => step.records table.states ++ (table.append step).appendRecords rest

/-- The table with one more rule, which is recorded once it is in. -/
def takeRule (m : Interpretation) (table : Table) (rule : Rule) : Extension :=
  let (table, act) := table.enter m rule
  ⟨table, act >>= fun _ => rule.writeRecord m >>= Act.emit⟩

/-- The table with several more rules. -/
def takeRules (m : Interpretation) (table : Table) : List Rule → Extension
  | [] => ⟨table, pure ()⟩
  | rule :: rest => (table.takeRule m rule).andThen fun table => table.takeRules m rest

/-- `_append`: the table with the rules that a step stands for. -/
def takeStep (m : Interpretation) (table : Table) (step : Step) : Extension :=
  if step.source.isAny && table.states.isEmpty then
    ⟨table, step.writeWarning m >>= Act.emit⟩
  else table.takeRules m (step.rules table.states)

/-- The table with several steps taken in order. -/
def takeSteps (m : Interpretation) (table : Table) : List Step → Extension
  | [] => ⟨table, pure ()⟩
  | step :: rest => (table.takeStep m step).andThen fun table => table.takeSteps m rest

/-- Where no class has a say, taking a rule is pushing it and recording it. -/
theorem takeRule_of_settled {m : Interpretation} {P : Value → Prop} (hm : Settled m P)
    {table : Table} (htable : table.Within P) {rule : Rule} (hrule : rule.Within P) :
    table.takeRule m rule = ⟨table.push rule, Act.emit rule.record⟩ := by
  simp [takeRule, enter_of_settled hm htable hrule, rule.writeRecord_of_settled hm hrule]

theorem takeRules_of_settled {m : Interpretation} {P : Value → Prop} (hm : Settled m P)
    {table : Table} (htable : table.Within P) {rules : List Rule}
    (hrules : ∀ rule ∈ rules, rule.Within P) :
    table.takeRules m rules =
      ⟨rules.foldl push table, ⟨rules.map Rule.record, [], .ok ()⟩⟩ := by
  induction rules generalizing table with
  | nil => rfl
  | cons rule rest ih =>
      have hrule := hrules rule List.mem_cons_self
      have hrest := ih (htable.push hrule) fun rule h => hrules rule (List.mem_cons_of_mem _ h)
      rw [takeRules, takeRule_of_settled hm htable hrule, Extension.andThen_of_ok rfl, hrest]
      rfl

theorem takeStep_of_settled {m : Interpretation} {P : Value → Prop} (hm : Settled m P)
    {table : Table} (htable : table.Within P) {step : Step} (hstep : step.Within P) :
    table.takeStep m step =
      ⟨table.append step, ⟨step.records table.states, [], .ok ()⟩⟩ := by
  unfold takeStep Step.records
  split
  · next h =>
      have hrules : step.rules table.states = [] := by
        simp only [Bool.and_eq_true, List.isEmpty_iff] at h
        simp [Step.rules, h.1, h.2]
      simp [append, hrules, step.writeWarning_of_settled hm hstep, Act.emit]
  · exact takeRules_of_settled hm htable (hstep.rules htable.states)

/-- Where no class has a say, taking steps is appending them and recording what enters. -/
theorem takeSteps_of_settled {m : Interpretation} {P : Value → Prop} (hm : Settled m P)
    {table : Table} (htable : table.Within P) {steps : List Step}
    (hsteps : ∀ step ∈ steps, step.Within P) :
    table.takeSteps m steps =
      ⟨table.appendAll steps, ⟨table.appendRecords steps, [], .ok ()⟩⟩ := by
  induction steps generalizing table with
  | nil => rfl
  | cons step rest ih =>
      have hstep := hsteps step List.mem_cons_self
      have hrest := ih (htable.append hstep) fun step h => hsteps step (List.mem_cons_of_mem _ h)
      rw [takeSteps, takeStep_of_settled hm htable hstep, Extension.andThen_of_ok rfl, hrest]
      rfl

/-- `RuleTableBuilder.add`: the table with one more declaration. -/
def add (m : Interpretation) (table : Table) (declaration : Value) : Extension :=
  let checked := declaration.check m
  match checked.result with
  | .error fault => ⟨table, ⟨checked.records, checked.calls, .error fault⟩⟩
  | .ok steps =>
      let extension := table.takeSteps m steps
      ⟨extension.table, checked >>= fun _ => extension.act⟩

/-- `RuleTableBuilder.extend`: the table with several more declarations, up to the first that is
refused. -/
def extend (m : Interpretation) (table : Table) : List Value → Extension
  | [] => ⟨table, pure ()⟩
  | declaration :: rest => (table.add m declaration).andThen fun table => table.extend m rest

/-- Extending by two lists in turn is extending by their concatenation, unless the
first is refused; then nothing of the second is looked at. -/
theorem extend_append (m : Interpretation) (table : Table) (first second : List Value) :
    table.extend m (first ++ second) =
      (table.extend m first).andThen fun table => table.extend m second := by
  induction first generalizing table with
  | nil => rfl
  | cons declaration rest ih =>
      simp only [List.cons_append, extend, Extension.andThen_assoc]
      congr 1
      funext table
      exact ih table

/-- The table with more declarations that are handed out by their number, up to the first
that is refused. -/
def extendFrom (m : Interpretation) (next : Nat → Act (Option Value)) (table : Table) :
    Nat → Nat → Extension
  | 0, _ => ⟨table, Act.fail .tooDeep⟩
  | limit + 1, i =>
      let handed := next i
      match handed.result with
      | .error fault => ⟨table, ⟨handed.records, handed.calls, .error fault⟩⟩
      | .ok none => ⟨table, handed >>= fun _ => pure ()⟩
      | .ok (some declaration) =>
          (⟨table, handed >>= fun _ => pure ()⟩ : Extension).andThen fun table =>
            (table.add m declaration).andThen fun table => table.extendFrom m next limit (i + 1)

/-- The table with the declarations that a value is taken apart into. -/
def extendBy (m : Interpretation) (table : Table) (declarations : Value) : Extension :=
  let supply := declarations.supply m
  match supply.result with
  | .error fault => ⟨table, ⟨supply.records, supply.calls, .error fault⟩⟩
  | .ok source =>
      (⟨table, supply >>= fun _ => pure ()⟩ : Extension).andThen fun table =>
        match source with
        | .atHand items => table.extend m items
        | .byNumber next => table.extendFrom m next supplyLimit 0

/-- The record of a finished table. -/
def record (table : Table) : Record :=
  ⟨.info, .compiler,
    "Rule table built — " ++ toString table.rules.length ++ " rules, " ++
      toString table.states.length ++ " states, " ++ toString table.events.length ++ " events"⟩

end Table

/-- `RuleTableBuilder.build`: what an extension comes to as a finished table, or the first
refusal. -/
def Extension.finish (extension : Extension) : Act Table := do
  extension.act
  Act.emit extension.table.record
  pure extension.table

/-- `build`: the table of some declarations, or the first refusal. -/
def build (m : Interpretation) (declarations : List Value) : Act Table :=
  (Table.empty.extend m declarations).finish

/-- The table of the declarations that a value is taken apart into. -/
def buildFrom (m : Interpretation) (declarations : Value) : Act Table :=
  (Table.empty.extendBy m declarations).finish

/-- Declarations at hand are built as they are. -/
theorem buildFrom_of_supply {m : Interpretation} {declarations : Value} {items : List Value}
    (h : declarations.supply m = pure (.atHand items)) :
    buildFrom m declarations = build m items := by
  cases hact : (Table.empty.extend m items).act.result <;>
    simp [buildFrom, build, Table.extendBy, h, Extension.andThen, Act.pure_def, Extension.finish,
      Act.bind_of_ok]

end StateRules
