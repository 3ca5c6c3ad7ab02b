import StateRules.Proofs.Declaration.Plain
import StateRules.Proofs.Table.Refusal

/-!
What can go wrong while declarations are added to a table.

Adding a value checks it, which asks what `Value.questions` lists. If it is accepted, its rules
are entered one by one: their states and their event are compared with those that are known, each
up to the first that it resembles, and a record is written. All these comparisons and records are
questions too, and there are no others. So declarations only fail with refusals exactly where
the first of their questions that has no answer, if there is one, comes back with a refusal
(`failures_are_refusals_iff_answered`). A question has no answer where a value brings an
operation that fails, or a rendition in an event block that cannot be cut into lines.

Plain declarations answer everything, whatever is wrong with them.
-/

namespace StateRules

/-- Whether a fault is of one of the kinds that declarations are refused with. -/
def Fault.IsRefusal (fault : Fault) : Prop :=
  fault.kind = .invalidDeclaration ∨ fault.kind = .unsupportedSyntax

/-- What is asked to find out whether a catalog knows a value. -/
def knownQuestions (m : Interpretation) (v : Value) : List Value → List Question
  | [] => []
  | k :: rest =>
      [.same k v] ++ if (k.resembles m v).resultD false then [] else knownQuestions m v rest

/-- What is asked to enter values in a catalog. -/
def enterQuestions (m : Interpretation) (known : List Value) : List Value → List Question
  | [] => []
  | v :: rest =>
      knownQuestions m v known ++
        enterQuestions m (if (isKnown m known v).resultD false then known else known ++ [v]) rest

namespace Table

/-- What is asked to take a rule. -/
def ruleQuestions (m : Interpretation) (table : Table) (rule : Rule) : List Question :=
  (enterQuestions m table.states rule.states ++ enterQuestions m table.events [rule.event]) ++
    [.record rule]

/-- What is asked to take rules in turn. -/
def rulesQuestions (m : Interpretation) (table : Table) : List Rule → List Question
  | [] => []
  | rule :: rest =>
      table.ruleQuestions m rule ++ (table.takeRule m rule).table.rulesQuestions m rest

/-- What is asked to take a step. -/
def stepQuestions (m : Interpretation) (table : Table) (step : Step) : List Question :=
  if step.source.isAny && table.states.isEmpty then [.warning step]
  else table.rulesQuestions m (step.rules table.states)

/-- What is asked to take steps in turn. -/
def stepsQuestions (m : Interpretation) (table : Table) : List Step → List Question
  | [] => []
  | step :: rest =>
      table.stepQuestions m step ++ (table.takeStep m step).table.stepsQuestions m rest

/-- What is asked to add a value. Only if it is accepted are there steps to take. -/
def addQuestions (m : Interpretation) (table : Table) (v : Value) : List Question :=
  v.questions m ++ if v.isAccepted m then table.stepsQuestions m v.steps else []

/-- What is asked to add values in turn, up to the first that is refused. -/
def extendQuestions (m : Interpretation) (table : Table) : List Value → List Question
  | [] => []
  | v :: rest =>
      table.addQuestions m v ++
        if v.isAccepted m then (table.add m v).table.extendQuestions m rest else []

end Table

variable {m : Interpretation}

theorem Refuses.isRefusal {text : String} {outdated : Prop} {fault : Fault}
    (h : Refuses text outdated fault) : fault.IsRefusal := by
  by_cases houtdated : outdated
  · obtain ⟨reason, suggestion, rfl⟩ := h.unsupported houtdated
    exact .inr rfl
  · obtain ⟨reason, rfl⟩ := h.invalid houtdated
    exact .inl rfl

/-- What a computation puts is up to what it comes to. -/
theorem Act.Puts.of_result_eq {α : Type} {questions : List Question}
    {Q : Except Fault α → Prop} {act other : Act α} (h : other.Puts m questions Q)
    (heq : act.result = other.result) : act.Puts m questions Q := by
  constructor
  · intro fault hfault
    rw [heq]
    exact h.fails fault hfault
  · intro hall
    rw [heq]
    exact h.comes hall

theorem puts_isKnown (known : List Value) (v : Value) :
    (isKnown m known v).Puts m (knownQuestions m v known) Succeeds := by
  induction known with
  | nil => exact .of_result ⟨false, rfl⟩
  | cons k rest ih =>
      have hsame : (k.resembles m v).Puts m [.same k v] Succeeds := .of_put rfl
      apply hsame.bind
      intro found hfound
      rw [Act.resultD_of_ok hfound]
      cases found with
      | true => exact .of_result ⟨true, rfl⟩
      | false => exact ih

/-- Entering a value goes on with the rest once it is clear whether the value is known. -/
theorem result_enterAll_cons (m : Interpretation) (known : List Value) (v : Value)
    (rest : List Value) :
    (enterAll m known (v :: rest)).2.result =
      (isKnown m known v >>= fun isThere =>
        (enterAll m (if isThere then known else known ++ [v]) rest).2).result := by
  cases h : (isKnown m known v).result with
  | error fault => rw [(enterAll_cons_of_error h rest).2, Act.bind_of_error h]
  | ok isThere => rw [(enterAll_cons_of_ok h rest).2, Act.result_bind_of_ok h]

theorem puts_enterAll (known vs : List Value) :
    (enterAll m known vs).2.Puts m (enterQuestions m known vs) Succeeds := by
  induction vs generalizing known with
  | nil => exact .of_result ⟨(), rfl⟩
  | cons v rest ih =>
      apply Act.Puts.of_result_eq _ (result_enterAll_cons m known v rest)
      apply (puts_isKnown known v).bind
      intro isThere hfound
      rw [Act.resultD_of_ok hfound]
      exact ih _

theorem Extension.result_andThen (first : Extension) (next : Table → Extension) :
    (first.andThen next).act.result = (first.act >>= fun _ => (next first.table).act).result := by
  cases h : first.act.result with
  | error fault => rw [andThen_of_error h, h, Act.bind_of_error h]
  | ok _ => rw [andThen_of_ok h]

namespace Table

variable {table : Table}

theorem result_enter (m : Interpretation) (table : Table) (rule : Rule) :
    (table.enter m rule).2.result =
      ((enterAll m table.states rule.states).2 >>= fun _ =>
        (enterAll m table.events [rule.event]).2).result := by
  unfold enter
  cases h : (enterAll m table.states rule.states).2.result with
  | error fault => simp [h, Act.bind_of_error h]
  | ok _ => simp [h]

theorem puts_takeRule (table : Table) (rule : Rule) :
    (table.takeRule m rule).act.Puts m (table.ruleQuestions m rule) Succeeds := by
  have hstates := puts_enterAll (m := m) table.states rule.states
  have hevent := puts_enterAll (m := m) table.events [rule.event]
  have henter := (hstates.bind fun _ _ => hevent).of_result_eq (result_enter m table rule)
  apply henter.bind
  intro _ _
  have hrecord : (rule.writeRecord m).Puts m [.record rule] Succeeds := .of_put rfl
  apply hrecord.bind_result
  intro record _
  exact ⟨(), rfl⟩

theorem puts_takeRules (table : Table) (rules : List Rule) :
    (table.takeRules m rules).act.Puts m (table.rulesQuestions m rules) Succeeds := by
  induction rules generalizing table with
  | nil => exact .of_result ⟨(), rfl⟩
  | cons rule rest ih =>
      apply Act.Puts.of_result_eq _ (Extension.result_andThen _ _)
      exact (table.puts_takeRule rule).bind fun _ _ => ih _

theorem puts_takeStep (table : Table) (step : Step) :
    (table.takeStep m step).act.Puts m (table.stepQuestions m step) Succeeds := by
  unfold takeStep stepQuestions
  split
  · have hwarning : (step.writeWarning m).Puts m [.warning step] Succeeds := .of_put rfl
    apply hwarning.bind_result
    intro record _
    exact ⟨(), rfl⟩
  · exact table.puts_takeRules _

theorem puts_takeSteps (table : Table) (steps : List Step) :
    (table.takeSteps m steps).act.Puts m (table.stepsQuestions m steps) Succeeds := by
  induction steps generalizing table with
  | nil => exact .of_result ⟨(), rfl⟩
  | cons step rest ih =>
      apply Act.Puts.of_result_eq _ (Extension.result_andThen _ _)
      exact (table.puts_takeStep step).bind fun _ _ => ih _

end Table

/-- The check of a value either accepts it or fails with a refusal, if it is told all it asks. -/
theorem Value.puts_check_refusal (v : Value) :
    (v.check m).Puts m (v.questions m) (Decided (v.isAccepted m = true) Fault.IsRefusal) := by
  constructor
  · exact v.puts_check.fails
  · intro hall
    have hdecided := v.puts_check.comes hall
    rw [isAccepted_iff]
    refine ⟨id, fun hrejected => ?_⟩
    have hsound : ¬v.IsSound m := fun hsound => hrejected (hdecided.accepts hsound)
    obtain ⟨fault, hfault, _, _, hrefuses⟩ := hdecided.refuses hsound
    exact ⟨fault, hfault, hrefuses.isRefusal⟩

namespace Table

variable {table : Table}

theorem result_add (m : Interpretation) (table : Table) (v : Value) :
    (table.add m v).act.result =
      (v.check m >>= fun _ => (table.takeSteps m v.steps).act).result := by
  cases h : (v.check m).result with
  | error fault =>
      rw [(add_agrees_of_refused h table).result, Act.bind_of_error h]
      rfl
  | ok steps =>
      rw [(add_agrees_of_accepted h table).result, Act.result_bind_of_ok h, Value.steps_of_check h]

theorem puts_add (table : Table) (v : Value) :
    (table.add m v).act.Puts m (table.addQuestions m v)
      (Decided (v.isAccepted m = true) Fault.IsRefusal) := by
  apply Act.Puts.of_result_eq _ (result_add m table v)
  have htaken : (table.takeSteps m v.steps).act.Puts m (table.stepsQuestions m v.steps)
      (Decided True Fault.IsRefusal) :=
    (table.puts_takeSteps v.steps).imp fun _ h => ⟨fun _ => h, fun hnot => (hnot trivial).elim⟩
  have hboth := v.puts_check_refusal.bind_decided fun _ _ _ => htaken
  simpa [addQuestions] using hboth

theorem puts_extend (table : Table) (declarations : List Value) :
    (table.extend m declarations).act.Puts m (table.extendQuestions m declarations)
      (Decided (∀ v ∈ declarations, v.isAccepted m = true) Fault.IsRefusal) := by
  induction declarations generalizing table with
  | nil => exact .of_result ⟨fun _ => ⟨(), rfl⟩, fun hnot => absurd (by simp) hnot⟩
  | cons v rest ih =>
      rw [List.forall_mem_cons]
      apply Act.Puts.of_result_eq _ (Extension.result_andThen _ _)
      exact (table.puts_add v).bind_decided fun _ _ _ => ih _

/-- A table of atoms stays one when plain values are added. -/
theorem Within.add {v : Value} (hv : v.isPlain = true)
    (htable : table.Within fun v => v.isAtom = true) :
    (table.add m v).table.Within fun v => v.isAtom = true := by
  cases h : (v.check m).result with
  | error fault => rwa [(add_agrees_of_refused h table).table]
  | ok steps =>
      have hsteps := v.steps_within_of_isPlain hv
      rw [(add_agrees_of_accepted h table).table, ← Value.steps_of_check h,
        takeSteps_of_settled (settled_isAtom m) htable hsteps]
      -- Atoms go by what they are, so all steps get in and add nothing but what they mention.
      generalize v.steps = steps at hsteps
      induction steps generalizing table with
      | nil => exact htable
      | cons step rest ih =>
          obtain ⟨hstep, hrest⟩ := List.forall_mem_cons.mp hsteps
          exact ih (htable.append hstep) hrest

theorem answers_add {v : Value} (hv : v.isPlain = true)
    (htable : table.Within fun v => v.isAtom = true) :
    (askAll m (table.addQuestions m v)).result = .ok () := by
  have hsteps := v.steps_within_of_isPlain hv
  have htaken := takeSteps_of_settled (settled_isAtom m) htable hsteps
  apply answers_append (Value.answers_of_isPlain hv)
  apply answers_ite
  apply (table.puts_takeSteps v.steps).answered (a := ())
  rw [htaken]

theorem answers_extend {declarations : List Value}
    (hplain : ∀ v ∈ declarations, v.isPlain = true)
    (htable : table.Within fun v => v.isAtom = true) :
    (askAll m (table.extendQuestions m declarations)).result = .ok () := by
  induction declarations generalizing table with
  | nil => rfl
  | cons v rest ih =>
      obtain ⟨hv, hrest⟩ := List.forall_mem_cons.mp hplain
      apply answers_append (answers_add hv htable)
      exact answers_ite (ih hrest (htable.add hv))

end Table

/-- A computation that is answered all that it asks is decided. -/
theorem Decided.accepted_or_refused {α : Type} {sound : Prop} {R : Fault → Prop}
    {result : Except Fault α} (h : Decided sound R result) :
    sound ∧ Succeeds result ∨ ¬sound ∧ ∃ fault, result = .error fault ∧ R fault := by
  by_cases hsound : sound
  · exact .inl ⟨hsound, h.accepts hsound⟩
  · exact .inr ⟨hsound, h.refuses hsound⟩

theorem Decided.refusal_of_error {α : Type} {sound : Prop} {R : Fault → Prop} (fault : Fault)
    (h : Decided sound R (.error fault : Except Fault α)) : R fault := by
  by_cases hsound : sound
  · obtain ⟨a, ha⟩ := h.accepts hsound
    cases ha
  · obtain ⟨other, hother, hR⟩ := h.refuses hsound
    cases hother
    exact hR

theorem failsOnly_finish_iff {P : Fault → Prop} {extension : Extension} :
    extension.finish.FailsOnly P ↔ extension.act.FailsOnly P := by
  unfold Act.FailsOnly
  rw [Extension.result_finish]
  cases extension.act.result <;> simp [Except.map]

/-- Adding a value, extending a table and building one fail with refusals only, exactly where
the first of the questions that has no answer, if there is one, comes back with a refusal. Where
all have an answer, the values are either all accepted and get in, or one of them is refused.
Plain values answer whatever a table of atoms asks. -/
theorem failures_are_refusals_iff_answered (m : Interpretation) (table : Table)
    (declarations : List Value) :
    (∀ v, (table.add m v).act.FailsOnly Fault.IsRefusal ↔
      (askAll m (table.addQuestions m v)).FailsOnly Fault.IsRefusal) ∧
    ((table.extend m declarations).act.FailsOnly Fault.IsRefusal ↔
      (askAll m (table.extendQuestions m declarations)).FailsOnly Fault.IsRefusal) ∧
    ((build m declarations).FailsOnly Fault.IsRefusal ↔
      (askAll m (Table.empty.extendQuestions m declarations)).FailsOnly Fault.IsRefusal) ∧
    ((askAll m (table.extendQuestions m declarations)).result = .ok () →
      (∀ v ∈ declarations, v.isAccepted m = true) ∧
          Succeeds (table.extend m declarations).act.result ∨
        ∃ fault, (table.extend m declarations).act.result = .error fault ∧ fault.IsRefusal) ∧
    ((∀ v ∈ declarations, v.isPlain = true) → table.Within (fun v => v.isAtom = true) →
      (askAll m (table.extendQuestions m declarations)).result = .ok ()) := by
  have hextend (table : Table) : (table.extend m declarations).act.FailsOnly Fault.IsRefusal ↔
      (askAll m (table.extendQuestions m declarations)).FailsOnly Fault.IsRefusal :=
    (table.puts_extend declarations).failsOnly_iff fun fault => Decided.refusal_of_error fault
  refine ⟨fun v => ?_, hextend table, ?_, fun hall => ?_, Table.answers_extend⟩
  · exact (table.puts_add v).failsOnly_iff fun fault => Decided.refusal_of_error fault
  · rw [build, failsOnly_finish_iff]
    exact hextend .empty
  · rcases ((table.puts_extend declarations).comes hall).accepted_or_refused with h | ⟨_, h⟩
    · exact .inl h
    · exact .inr h

/-- A payment, and a dispatch whose entries are all out of place: an entry of another kind of
block, something with a rendition of its own, a block of the same kind and no declaration. -/
def misplacedEntries : List Value :=
  [.declaration (.simple (.text "new") (.text "paid") (.text "pay")),
    .declaration (.eventBlock (.text "send")
      [.declaration (.toEntry (.text "sent") .null), .renderable ⟨0, 0⟩ (.text "see below"),
        .declaration (.eventBlock .null [] (.integer 3)), .any] .null)]

/-- However much is out of place, the declarations fail with a refusal and nothing else. -/
theorem failures_are_refusals_misplacedEntries :
    (∀ v ∈ misplacedEntries, v.isPlain = true) ∧
      (build .exhausted misplacedEntries).FailsOnly Fault.IsRefusal ∧
      ∃ fault, (Table.empty.extend .exhausted misplacedEntries).act.result = .error fault ∧
        fault.IsRefusal := by
  have hplain : ∀ v ∈ misplacedEntries, v.isPlain = true := by decide
  obtain ⟨_, _, hbuild, hdecided, hanswers⟩ :=
    failures_are_refusals_iff_answered .exhausted .empty misplacedEntries
  have hall := hanswers hplain (Table.within_empty _)
  refine ⟨hplain, hbuild.mpr fun fault hfault => ?_, ?_⟩
  · cases hall.symm.trans hfault
  · obtain ⟨_, a, ha⟩ | hrefused := hdecided hall
    · cases ha
    · exact hrefused

/-- Building may fail without a refusal. A source block quotes a note whose rendition is a number
and refuses it, as it belongs in no block. An event block cannot cut the number into lines. -/
theorem failure_is_no_refusal_of_nontext_rendition :
    ¬∀ (m : Interpretation) (declarations : List Value) (fault : Fault),
      (build m declarations).result = .error fault → fault.IsRefusal := by
  intro hall
  let note : Value := .renderable ⟨0, 0⟩ (.integer 5)
  have hfault := hall .exhausted [.declaration (.eventBlock (.text "go") [note] .null)]
    (.noAttribute "int" "splitlines") rfl
  rcases hfault with hkind | hkind
  · cases hkind
  · cases hkind

end StateRules
