import StateRules.Build
import StateRules.Proofs.Declaration.Reading

/-!
How a table grows, and which tables there can be.

A rule is in the table before anything about it can fail, so whatever becomes of entering a
rule, the rules are those from before with this one behind them (`Table.rules_takeRule`).
Entering several ends with the first that fails. When none does, the rules that were to be
entered are all there (`Table.rules_takeSteps_of_ok`).

A table is reachable when it comes of the empty one by adding values, accepted or not.
`Table.Reachable.induction` is the one induction over all this: what entering one rule keeps,
every reachable table has.
-/

namespace StateRules

/-- Two extensions come to the same: the same table, and the same fault if there is one. What
they record and call on the way may differ. -/
structure Extension.Agrees (one two : Extension) : Prop where
  table : one.table = two.table
  result : one.act.result = two.act.result

namespace Extension

theorem Agrees.refl (extension : Extension) : extension.Agrees extension := ⟨rfl, rfl⟩

theorem Agrees.symm {one two : Extension} (h : one.Agrees two) : two.Agrees one :=
  ⟨h.table.symm, h.result.symm⟩

theorem Agrees.trans {one two three : Extension} (h : one.Agrees two) (h' : two.Agrees three) :
    one.Agrees three :=
  ⟨h.table.trans h'.table, h.result.trans h'.result⟩

/-- What two extensions in a row come to depends on what each of them comes to. -/
theorem Agrees.andThen {one two : Extension} (h : one.Agrees two) {next next' : Table → Extension}
    (hnext : ∀ table, (next table).Agrees (next' table)) :
    (one.andThen next).Agrees (two.andThen next') := by
  cases hone : one.act.result with
  | error fault =>
      have htwo : two.act.result = .error fault := h.result ▸ hone
      rw [andThen_of_error hone, andThen_of_error htwo]
      exact h
  | ok _ =>
      have htwo : two.act.result = .ok () := h.result ▸ hone
      rw [andThen_of_ok hone, andThen_of_ok htwo, h.table]
      constructor
      · exact (hnext two.table).table
      · rw [Act.result_bind_of_ok hone, Act.result_bind_of_ok htwo]
        exact (hnext two.table).result

/-- After an extension that gets through, only its table matters. -/
theorem andThen_agrees_of_ok {first : Extension} (h : first.act.result = .ok ())
    (next : Table → Extension) : (first.andThen next).Agrees (next first.table) := by
  rw [andThen_of_ok h]
  exact ⟨rfl, Act.result_bind_of_ok h _⟩

theorem andThen_done_agrees (first : Extension) :
    (first.andThen fun table => ⟨table, pure ()⟩).Agrees first := by
  cases h : first.act.result with
  | error fault =>
      rw [andThen_of_error h]
      exact .refl first
  | ok _ =>
      refine (andThen_agrees_of_ok h _).trans ⟨rfl, ?_⟩
      rw [h]
      rfl

theorem result_andThen_eq_ok_iff {first : Extension} {next : Table → Extension} :
    (first.andThen next).act.result = .ok () ↔
      first.act.result = .ok () ∧ (next first.table).act.result = .ok () := by
  constructor
  · exact ok_of_andThen
  · rintro ⟨hfirst, hnext⟩
    rw [(andThen_agrees_of_ok hfirst next).result, hnext]

/-- What the first extension has, and the second one keeps, is there in the end. -/
theorem andThen_keeps {P : Table → Prop} {first : Extension} {next : Table → Extension}
    (hfirst : P first.table) (hnext : P (next first.table).table) :
    P (first.andThen next).table := by
  cases h : first.act.result with
  | error fault => rwa [andThen_of_error h]
  | ok _ => rwa [andThen_of_ok h]

theorem result_finish (extension : Extension) :
    extension.finish.result = extension.act.result.map fun _ => extension.table := by
  cases h : extension.act.result with
  | error fault => simp [finish, Act.bind_of_error h, Except.map]
  | ok _ =>
      rw [finish, Act.result_bind_of_ok h]
      rfl

theorem result_finish_eq_ok_iff {extension : Extension} {table : Table} :
    extension.finish.result = .ok table ↔
      extension.act.result = .ok () ∧ extension.table = table := by
  rw [result_finish]
  cases extension.act.result <;> simp [Except.map]

theorem Agrees.finish {one two : Extension} (h : one.Agrees two) :
    one.finish.result = two.finish.result := by
  rw [result_finish, result_finish, h.result, h.table]

end Extension

theorem enterAll_cons_of_error {m : Interpretation} {known : List Value} {v : Value}
    {fault : Fault} (h : (isKnown m known v).result = .error fault) (rest : List Value) :
    (enterAll m known (v :: rest)).1 = known ∧
      (enterAll m known (v :: rest)).2.result = .error fault := by
  simp only [enterAll]
  split
  · next other hother =>
      cases h.symm.trans hother
      exact ⟨rfl, rfl⟩
  · next hok => cases h.symm.trans hok

theorem enterAll_cons_of_ok {m : Interpretation} {known : List Value} {v : Value}
    {isThere : Bool} (h : (isKnown m known v).result = .ok isThere) (rest : List Value) :
    let next := enterAll m (if isThere then known else known ++ [v]) rest
    (enterAll m known (v :: rest)).1 = next.1 ∧
      (enterAll m known (v :: rest)).2.result = next.2.result := by
  intro next
  simp only [enterAll]
  split
  · next hfault => cases h.symm.trans hfault
  · next found hfound =>
      cases h.symm.trans hfound
      exact ⟨rfl, Act.result_bind_of_ok h _⟩

/-- Nothing comes into a catalog but what is entered. -/
theorem mem_enterAll {m : Interpretation} {known vs : List Value} :
    ∀ k ∈ (enterAll m known vs).1, k ∈ known ∨ k ∈ vs := by
  induction vs generalizing known with
  | nil =>
      intro k hk
      exact .inl hk
  | cons v rest ih =>
      intro k hk
      cases hknown : (isKnown m known v).result with
      | error fault =>
          rw [(enterAll_cons_of_error hknown rest).1] at hk
          exact .inl hk
      | ok isThere =>
          rw [(enterAll_cons_of_ok hknown rest).1] at hk
          rcases ih k hk with hmem | hmem
          · cases isThere with
            | true => exact .inl hmem
            | false =>
                rcases List.mem_append.mp hmem with hmem | hmem
                · exact .inl hmem
                · exact .inr (List.mem_singleton.mp hmem ▸ List.mem_cons_self)
          · exact .inr (List.mem_cons_of_mem v hmem)

/-- What holds of all that is known and of all that enters holds of all that is known then. -/
theorem forall_enterAll {m : Interpretation} {P : Value → Prop} {known vs : List Value}
    (hknown : ∀ k ∈ known, P k) (hvs : ∀ v ∈ vs, P v) : ∀ k ∈ (enterAll m known vs).1, P k := by
  intro k hk
  rcases mem_enterAll k hk with hmem | hmem
  · exact hknown k hmem
  · exact hvs k hmem

/-- The rule of a step that has a source of its own. -/
def Step.rule (step : Step) : Rule := ⟨step.source, step.event, step.target⟩

namespace Table

/-- Whatever becomes of entering a rule, it is in the table. -/
theorem rules_enter (m : Interpretation) (table : Table) (rule : Rule) :
    (table.enter m rule).1.rules = table.rules ++ [rule] := by
  unfold enter
  dsimp only
  split <;> rfl

theorem states_enter (m : Interpretation) (table : Table) (rule : Rule) :
    (table.enter m rule).1.states = (enterAll m table.states rule.states).1 := by
  unfold enter
  dsimp only
  split <;> rfl

/-- The events are entered once the states are. -/
theorem events_enter_of_ok {m : Interpretation} {table : Table} {rule : Rule}
    (h : (enterAll m table.states rule.states).2.result = .ok ()) :
    (table.enter m rule).1.events = (enterAll m table.events [rule.event]).1 := by
  unfold enter
  dsimp only
  split
  · next fault hfault => cases h.symm.trans hfault
  · rfl

theorem forall_rules_enter {m : Interpretation} {table : Table} {P : Rule → Prop}
    (h : ∀ other ∈ table.rules, P other) {rule : Rule} (hrule : P rule) :
    ∀ other ∈ (table.enter m rule).1.rules, P other := by
  rw [rules_enter]
  exact List.forall_mem_append.mpr ⟨h, List.forall_mem_singleton.mpr hrule⟩

theorem forall_states_enter {m : Interpretation} {table : Table} {P : Value → Prop}
    (h : ∀ k ∈ table.states, P k) {rule : Rule} (hrule : ∀ v ∈ rule.states, P v) :
    ∀ k ∈ (table.enter m rule).1.states, P k := by
  rw [states_enter]
  exact forall_enterAll h hrule

theorem forall_events_enter {m : Interpretation} {table : Table} {P : Value → Prop}
    (h : ∀ k ∈ table.events, P k) {rule : Rule} (hrule : P rule.event) :
    ∀ k ∈ (table.enter m rule).1.events, P k := by
  unfold enter
  dsimp only
  split
  · exact h
  · exact forall_enterAll h (List.forall_mem_singleton.mpr hrule)

theorem rules_takeRule (m : Interpretation) (table : Table) (rule : Rule) :
    (table.takeRule m rule).table.rules = table.rules ++ [rule] :=
  rules_enter m table rule

theorem result_takeRule_eq_ok_iff (m : Interpretation) (table : Table) (rule : Rule) :
    (table.takeRule m rule).act.result = .ok () ↔
      (table.enter m rule).2.result = .ok () ∧
        ∃ record, (rule.writeRecord m).result = .ok record := by
  show ((table.enter m rule).2 >>= fun _ => rule.writeRecord m >>= Act.emit).result = .ok () ↔ _
  rw [Act.result_seq_eq_ok_iff, Act.result_bind_eq_ok_iff]
  simp

theorem takeSteps_append (m : Interpretation) (table : Table) (first second : List Step) :
    table.takeSteps m (first ++ second) =
      (table.takeSteps m first).andThen fun table => table.takeSteps m second := by
  induction first generalizing table with
  | nil => rfl
  | cons step rest ih =>
      simp only [List.cons_append, takeSteps, Extension.andThen_assoc]
      congr 1
      funext table
      exact ih table

/-- Steps that get in lead to a table from which further steps go on. -/
theorem takeSteps_append_agrees {m : Interpretation} {table : Table} {first : List Step}
    (h : (table.takeSteps m first).act.result = .ok ()) (second : List Step) :
    (table.takeSteps m (first ++ second)).Agrees
      ((table.takeSteps m first).table.takeSteps m second) := by
  rw [takeSteps_append]
  exact Extension.andThen_agrees_of_ok h _

theorem rules_takeRules_of_ok {m : Interpretation} {table : Table} {rules : List Rule}
    (h : (table.takeRules m rules).act.result = .ok ()) :
    (table.takeRules m rules).table.rules = table.rules ++ rules := by
  induction rules generalizing table with
  | nil => simp [takeRules]
  | cons rule rest ih =>
      rw [takeRules] at h ⊢
      obtain ⟨hrule, hrest⟩ := Extension.result_andThen_eq_ok_iff.mp h
      rw [Extension.andThen_of_ok hrule]
      rw [ih hrest, rules_takeRule, List.append_assoc, List.singleton_append]

theorem rules_takeStep_of_ok {m : Interpretation} {table : Table} {step : Step}
    (h : (table.takeStep m step).act.result = .ok ()) :
    (table.takeStep m step).table.rules = table.rules ++ step.rules table.states := by
  unfold takeStep at h ⊢
  split
  · next hnone =>
      simp only [Bool.and_eq_true, List.isEmpty_iff] at hnone
      simp [Step.rules, hnone.1, hnone.2]
  · next hsome =>
      rw [if_neg hsome] at h
      exact rules_takeRules_of_ok h

/-- Steps that have sources of their own come to the rules that they are, in turn. -/
theorem takeSteps_agrees_takeRules {m : Interpretation} {table : Table} {steps : List Step}
    (h : ∀ step ∈ steps, step.source.isAny = false) :
    (table.takeSteps m steps).Agrees (table.takeRules m (steps.map Step.rule)) := by
  induction steps generalizing table with
  | nil => exact .refl _
  | cons step rest ih =>
      obtain ⟨hfirst, hrest⟩ := List.forall_mem_cons.mp h
      have hstep : table.takeStep m step = table.takeRules m [step.rule] := by
        simp [takeStep, Step.rules, Step.rule, hfirst]
      rw [takeSteps, List.map_cons, takeRules, hstep]
      exact (Extension.andThen_done_agrees _).andThen fun table => ih hrest

/-- Each step with the states that are known just before it. -/
def phases (m : Interpretation) (table : Table) : List Step → List (Step × List Value)
  | [] => []
  | step :: rest => (step, table.states) :: (table.takeStep m step).table.phases m rest

/-- When steps get in, the rules of each phase stand in order behind those that were there. -/
theorem rules_takeSteps_of_ok {m : Interpretation} {table : Table} {steps : List Step}
    (h : (table.takeSteps m steps).act.result = .ok ()) :
    (table.takeSteps m steps).table.rules =
      table.rules ++ (table.phases m steps).flatMap fun phase => phase.1.rules phase.2 := by
  induction steps generalizing table with
  | nil => simp [takeSteps, phases]
  | cons step rest ih =>
      rw [takeSteps] at h ⊢
      obtain ⟨hstep, hrest⟩ := Extension.result_andThen_eq_ok_iff.mp h
      rw [Extension.andThen_of_ok hstep]
      rw [ih hrest, rules_takeStep_of_ok hstep, phases, List.flatMap_cons, List.append_assoc]

/-- The states of a phase are those of the table that all steps before it have led to. -/
theorem getElem?_phases_of_ok {m : Interpretation} {table : Table} {steps : List Step}
    (h : (table.takeSteps m steps).act.result = .ok ()) (j : Nat) :
    (table.phases m steps)[j]? =
      steps[j]?.map fun step => (step, (table.takeSteps m (steps.take j)).table.states) := by
  induction steps generalizing table j with
  | nil => simp [phases]
  | cons step rest ih =>
      rw [takeSteps] at h
      obtain ⟨hstep, hrest⟩ := Extension.result_andThen_eq_ok_iff.mp h
      cases j with
      | zero => rfl
      | succ j =>
          rw [phases, List.getElem?_cons_succ, List.getElem?_cons_succ, ih hrest,
            List.take_succ_cons, takeSteps, Extension.andThen_of_ok hstep]

/-- Adding a value that its check refuses comes to the refusal and nothing else. -/
theorem add_agrees_of_refused {m : Interpretation} {declaration : Value} {fault : Fault}
    (h : (declaration.check m).result = .error fault) (table : Table) :
    (table.add m declaration).Agrees ⟨table, Act.fail fault⟩ := by
  simp only [add, h]
  exact ⟨rfl, rfl⟩

/-- Adding a value that its check accepts comes to what taking its steps does. -/
theorem add_agrees_of_accepted {m : Interpretation} {declaration : Value} {steps : List Step}
    (h : (declaration.check m).result = .ok steps) (table : Table) :
    (table.add m declaration).Agrees (table.takeSteps m steps) := by
  simp only [add, h]
  exact ⟨rfl, Act.result_bind_of_ok h _⟩

theorem extend_agrees_of_accepted {m : Interpretation} {declarations : List Value}
    (h : ∀ declaration ∈ declarations, declaration.Accepted m) (table : Table) :
    (table.extend m declarations).Agrees
      (table.takeSteps m (declarations.flatMap Value.steps)) := by
  induction declarations generalizing table with
  | nil => exact .refl _
  | cons declaration rest ih =>
      obtain ⟨hfirst, hrest⟩ := List.forall_mem_cons.mp h
      rw [extend, List.flatMap_cons, takeSteps_append]
      exact (add_agrees_of_accepted hfirst.check table).andThen (ih hrest)

theorem accepted_of_extend_ok {m : Interpretation} {table : Table} {declarations : List Value}
    (h : (table.extend m declarations).act.result = .ok ()) :
    ∀ declaration ∈ declarations, declaration.Accepted m := by
  induction declarations generalizing table with
  | nil => simp
  | cons declaration rest ih =>
      obtain ⟨hadd, hrest⟩ := Extension.result_andThen_eq_ok_iff.mp h
      refine List.forall_mem_cons.mpr ⟨?_, ih hrest⟩
      cases hcheck : (declaration.check m).result with
      | error fault =>
          rw [(add_agrees_of_refused hcheck table).result] at hadd
          cases hadd
      | ok steps => exact ⟨steps, hcheck⟩

/-- A table that comes of the empty one by adding values, accepted or not. -/
inductive Reachable (m : Interpretation) : Table → Prop where
  | empty : Reachable m Table.empty
  | add {table : Table} (declaration : Value) :
      Reachable m table → Reachable m (table.add m declaration).table

theorem Reachable.extend {m : Interpretation} {table : Table} (h : table.Reachable m)
    (declarations : List Value) : (table.extend m declarations).table.Reachable m := by
  induction declarations generalizing table with
  | nil => exact h
  | cons declaration rest ih =>
      exact Extension.andThen_keeps (h.add declaration) (ih (h.add declaration))

theorem Reachable.extendFrom {m : Interpretation} {next : Nat → Act (Option Value)}
    {table : Table} (h : table.Reachable m) (limit i : Nat) :
    (table.extendFrom m next limit i).table.Reachable m := by
  induction limit generalizing table i with
  | zero => exact h
  | succ limit ih =>
      unfold Table.extendFrom
      dsimp only
      split
      · exact h
      · exact h
      · next declaration _ =>
          refine Extension.andThen_keeps (P := Reachable m) h ?_
          exact Extension.andThen_keeps (h.add declaration) (ih (h.add declaration) (i + 1))

/-- Declarations may come as any value that can be taken apart, which may fail on the way. -/
theorem Reachable.extendBy {m : Interpretation} {table : Table} (h : table.Reachable m)
    (declarations : Value) : (table.extendBy m declarations).table.Reachable m := by
  unfold Table.extendBy
  dsimp only
  split
  · exact h
  · next source _ =>
      refine Extension.andThen_keeps (P := Reachable m) h ?_
      cases source with
      | atHand items => exact h.extend items
      | byNumber next => exact h.extendFrom supplyLimit 0

theorem Reachable.build {m : Interpretation} {declarations : List Value} {table : Table}
    (h : (build m declarations).result = .ok table) : table.Reachable m :=
  (Extension.result_finish_eq_ok_iff.mp h).2 ▸ Reachable.empty.extend declarations

/-- What entering any rule of a kind keeps, entering several of them keeps. -/
theorem takeRules_keeps {m : Interpretation} {P : Table → Prop} {Q : Rule → Prop}
    (hrule : ∀ table rule, P table → Q rule → P (table.enter m rule).1) {table : Table}
    (h : P table) {rules : List Rule} (hrules : ∀ rule ∈ rules, Q rule) :
    P (table.takeRules m rules).table := by
  induction rules generalizing table with
  | nil => exact h
  | cons rule rest ih =>
      have hfirst := hrule table rule h (hrules rule List.mem_cons_self)
      exact Extension.andThen_keeps (P := P) hfirst
        (ih hfirst fun rule hmem => hrules rule (List.mem_cons_of_mem _ hmem))

/-- The same for steps, where the rules are of the kind as long as the states known before
the step are as the table says. -/
theorem takeSteps_keeps {m : Interpretation} {P : Table → Prop} {Q : Rule → Prop}
    (hrule : ∀ table rule, P table → Q rule → P (table.enter m rule).1) {steps : List Step}
    (hstep : ∀ table, P table → ∀ step ∈ steps, ∀ rule ∈ step.rules table.states, Q rule)
    {table : Table} (h : P table) : P (table.takeSteps m steps).table := by
  induction steps generalizing table with
  | nil => exact h
  | cons step rest ih =>
      have hfirst : P (table.takeStep m step).table := by
        unfold takeStep
        split
        · exact h
        · exact takeRules_keeps hrule h (hstep table h step List.mem_cons_self)
      exact Extension.andThen_keeps (P := P) hfirst
        (ih (fun table h step hmem => hstep table h step (List.mem_cons_of_mem _ hmem)) hfirst)

/-- What the empty table has, and entering a rule keeps, every reachable table has. The rules
that are entered are those of the steps of accepted declarations. -/
theorem Reachable.induction {m : Interpretation} {P : Table → Prop} {Q : Rule → Prop}
    (hempty : P Table.empty)
    (hrule : ∀ table rule, P table → Q rule → P (table.enter m rule).1)
    (hstep : ∀ table, P table → ∀ (declaration : Value) (steps : List Step),
      (declaration.check m).result = .ok steps →
        ∀ step ∈ steps, ∀ rule ∈ step.rules table.states, Q rule)
    {table : Table} (h : table.Reachable m) : P table := by
  induction h with
  | empty => exact hempty
  | @add table declaration _ ih =>
      cases hcheck : (declaration.check m).result with
      | error fault =>
          rw [(add_agrees_of_refused hcheck table).table]
          exact ih
      | ok steps =>
          rw [(add_agrees_of_accepted hcheck table).table]
          exact takeSteps_keeps hrule
            (fun table h => hstep table h declaration steps hcheck) ih

/-- The states that a reachable table knows are all proper. -/
theorem Reachable.proper {m : Interpretation} {table : Table} (h : table.Reachable m) :
    ∀ k ∈ table.states, k.isAny = false := by
  refine h.induction (P := fun table => ∀ k ∈ table.states, k.isAny = false)
    (Q := fun rule => ∀ v ∈ rule.states, v.isAny = false) ?_ ?_ ?_
  · simp [Table.empty]
  · exact fun _ _ htable hrule => forall_states_enter htable hrule
  · intro table htable declaration steps hcheck step hstep
    have htarget := Value.proper_of_check hcheck step hstep
    refine Step.forall_rules (fun _ k hk => ?_) fun hsource => ?_
    · exact List.forall_mem_cons.mpr ⟨htable k hk, htarget⟩
    · exact List.forall_mem_cons.mpr ⟨hsource, htarget⟩

end Table

/-- Declarations are built into a table exactly if all of them are accepted and what they read as
gets in. The table is the one that this leads to. -/
theorem build_eq_ok_iff {m : Interpretation} {declarations : List Value} {table : Table} :
    (build m declarations).result = .ok table ↔
      (∀ declaration ∈ declarations, declaration.Accepted m) ∧
        (Table.empty.takeSteps m (declarations.flatMap Value.steps)).act.result = .ok () ∧
        (Table.empty.takeSteps m (declarations.flatMap Value.steps)).table = table := by
  rw [build, Extension.result_finish_eq_ok_iff]
  constructor
  · rintro ⟨hextend, htable⟩
    have haccepted := Table.accepted_of_extend_ok hextend
    have hagrees := Table.extend_agrees_of_accepted haccepted Table.empty
    exact ⟨haccepted, hagrees.result ▸ hextend, hagrees.table ▸ htable⟩
  · rintro ⟨haccepted, hsteps, htable⟩
    have hagrees := Table.extend_agrees_of_accepted haccepted Table.empty
    exact ⟨hagrees.result.trans hsteps, hagrees.table.trans htable⟩

end StateRules
