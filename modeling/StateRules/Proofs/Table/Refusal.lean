import StateRules.Guard
import StateRules.Proofs.Table.Growth

/-!
What a refusal leaves behind.

Whether a value is refused, and with which fault, is up to its check, which sees the value
alone (`Value.refusal?`). Adding a value is whole when it fails just as the check does, and a
failure leaves the table as it was (`Table.AddsWhole`).

A rule stands in the table before what it mentions is compared with the catalogs and before
its record is written. Both can fail where a class has a say, so an accepted value can still
stop halfway. Adding is whole exactly where that does not happen: where the table has room for
every rule of the value, in turn (`Table.Admits`, `addsWhole_iff_admits`). For values that no
class has a say in, every table has (`Table.admits_of_settled`).
-/

namespace StateRules

/-- The fault that a value is refused with, if it is refused. -/
def Value.refusal? (m : Interpretation) (declaration : Value) : Option Fault :=
  match (declaration.check m).result with
  | .ok _ => none
  | .error fault => some fault

/-- Whether a value is not refused. -/
def Value.isAccepted (m : Interpretation) (declaration : Value) : Bool :=
  (declaration.refusal? m).isNone

theorem Value.refusal?_eq_some_iff {m : Interpretation} {declaration : Value} {fault : Fault} :
    declaration.refusal? m = some fault ↔ (declaration.check m).result = .error fault := by
  unfold refusal?
  cases (declaration.check m).result <;> simp

theorem Value.refusal?_eq_none_iff {m : Interpretation} {declaration : Value} :
    declaration.refusal? m = none ↔ declaration.Accepted m := by
  unfold refusal? Accepted
  cases (declaration.check m).result <;> simp

theorem Value.isAccepted_iff {m : Interpretation} {declaration : Value} :
    declaration.isAccepted m = true ↔ declaration.Accepted m := by
  rw [isAccepted, Option.isNone_iff_eq_none, refusal?_eq_none_iff]

namespace Table

/-- Whether a rule gets into a table without a stop: its states can be compared with those
known, its event with the events known, and its record can be written. -/
structure HasRoom (m : Interpretation) (table : Table) (rule : Rule) : Prop where
  states : (enterAll m table.states rule.states).2.result = .ok ()
  event : ∃ known, (isKnown m table.events rule.event).result = .ok known
  record : ∃ record, (rule.writeRecord m).result = .ok record

/-- Whether rules get into a table in turn, each without a stop. -/
def HasRoomForAll (m : Interpretation) (table : Table) : List Rule → Prop
  | [] => True
  | rule :: rest => table.HasRoom m rule ∧ (table.enter m rule).1.HasRoomForAll m rest

/-- Whether a step is taken without a stop. One that stands for no rule only has a warning to
write. -/
def AdmitsStep (m : Interpretation) (table : Table) (step : Step) : Prop :=
  if step.source.isAny && table.states.isEmpty then
    ∃ record, (step.writeWarning m).result = .ok record
  else table.HasRoomForAll m (step.rules table.states)

/-- Whether steps are taken in turn, each without a stop. -/
def AdmitsSteps (m : Interpretation) (table : Table) : List Step → Prop
  | [] => True
  | step :: rest => table.AdmitsStep m step ∧ (table.takeStep m step).table.AdmitsSteps m rest

/-- Whether a table takes all that a value stands for, if the value is accepted. -/
def Admits (m : Interpretation) (table : Table) (declaration : Value) : Prop :=
  declaration.Accepted m → table.AdmitsSteps m declaration.steps

/-- Whether adding a value fails just as its check does, and then leaves the table as it
was. -/
structure AddsWhole (m : Interpretation) (table : Table) (declaration : Value) : Prop where
  refused : ∀ fault, (table.add m declaration).act.result = .error fault ↔
    declaration.refusal? m = some fault
  unchanged : ∀ fault, (table.add m declaration).act.result = .error fault →
    (table.add m declaration).table = table

/-- The table after adding values in turn, where a failure is caught and the next value is
added to what is left. -/
def addEach (m : Interpretation) (table : Table) : List Value → Table
  | [] => table
  | declaration :: rest => (table.add m declaration).table.addEach m rest

/-- Whether values added in turn are all admitted, each by the table that is there by then. -/
def AdmitsEach (m : Interpretation) (table : Table) : List Value → Prop
  | [] => True
  | declaration :: rest =>
      table.Admits m declaration ∧ (table.add m declaration).table.AdmitsEach m rest

variable {m : Interpretation} {table : Table}

theorem result_enterAll_singleton_eq_ok_iff {known : List Value} {v : Value} :
    (enterAll m known [v]).2.result = .ok () ↔
      ∃ isThere, (isKnown m known v).result = .ok isThere := by
  cases h : (isKnown m known v).result with
  | error fault =>
      rw [(enterAll_cons_of_error h []).2]
      simp
  | ok isThere =>
      rw [(enterAll_cons_of_ok h []).2]
      simp [enterAll]

theorem result_takeRule_eq_ok_iff_hasRoom {rule : Rule} :
    (table.takeRule m rule).act.result = .ok () ↔ table.HasRoom m rule := by
  rw [result_takeRule_eq_ok_iff]
  have henter : (table.enter m rule).2.result = .ok () ↔
      (enterAll m table.states rule.states).2.result = .ok () ∧
        ∃ isThere, (isKnown m table.events rule.event).result = .ok isThere := by
    unfold enter
    cases hstates : (enterAll m table.states rule.states).2.result with
    | error fault => simp [hstates]
    | ok _ =>
        simp only [hstates, Act.result_bind_of_ok hstates, result_enterAll_singleton_eq_ok_iff,
          true_and]
  rw [henter]
  exact ⟨fun ⟨⟨hstates, hevent⟩, hrecord⟩ => ⟨hstates, hevent, hrecord⟩,
    fun h => ⟨⟨h.states, h.event⟩, h.record⟩⟩

theorem result_takeRules_eq_ok_iff {rules : List Rule} :
    (table.takeRules m rules).act.result = .ok () ↔ table.HasRoomForAll m rules := by
  induction rules generalizing table with
  | nil => simp [takeRules, HasRoomForAll]
  | cons rule rest ih =>
      rw [takeRules, Extension.result_andThen_eq_ok_iff, result_takeRule_eq_ok_iff_hasRoom, ih]
      rfl

theorem result_takeStep_eq_ok_iff {step : Step} :
    (table.takeStep m step).act.result = .ok () ↔ table.AdmitsStep m step := by
  unfold takeStep AdmitsStep
  split
  · rw [Act.result_bind_eq_ok_iff]
    simp
  · exact result_takeRules_eq_ok_iff

theorem result_takeSteps_eq_ok_iff {steps : List Step} :
    (table.takeSteps m steps).act.result = .ok () ↔ table.AdmitsSteps m steps := by
  induction steps generalizing table with
  | nil => simp [takeSteps, AdmitsSteps]
  | cons step rest ih =>
      rw [takeSteps, Extension.result_andThen_eq_ok_iff, result_takeStep_eq_ok_iff, ih]
      rfl

theorem result_add_eq_ok_iff {declaration : Value} :
    (table.add m declaration).act.result = .ok () ↔
      declaration.Accepted m ∧ table.AdmitsSteps m declaration.steps := by
  cases hcheck : (declaration.check m).result with
  | error fault =>
      rw [(add_agrees_of_refused hcheck table).result]
      simp [Value.Accepted, hcheck]
  | ok steps =>
      rw [(add_agrees_of_accepted hcheck table).result, result_takeSteps_eq_ok_iff,
        Value.steps_of_check hcheck]
      exact ⟨fun h => ⟨⟨steps, hcheck⟩, h⟩, fun h => h.2⟩

/-- Where no class has a say, a table admits every value. -/
theorem admits_of_settled {P : Value → Prop} (hm : Settled m P) (htable : table.Within P)
    {declaration : Value} (hsteps : ∀ step ∈ declaration.steps, step.Within P) :
    table.Admits m declaration := by
  intro _
  rw [← result_takeSteps_eq_ok_iff, takeSteps_of_settled hm htable hsteps]

/-- Adding is whole exactly where the table admits the value. -/
theorem addsWhole_iff_admits {declaration : Value} :
    table.AddsWhole m declaration ↔ table.Admits m declaration := by
  cases hcheck : (declaration.check m).result with
  | error fault =>
      have hadd := add_agrees_of_refused hcheck table
      refine iff_of_true ⟨fun other => ?_, fun _ _ => hadd.table⟩ ?_
      · rw [hadd.result, Act.result_fail, Value.refusal?_eq_some_iff, hcheck, Except.error.injEq,
          Except.error.injEq]
      · rintro ⟨steps, hsteps⟩
        cases hcheck.symm.trans hsteps
  | ok steps =>
      have haccepted : declaration.Accepted m := ⟨steps, hcheck⟩
      have hnone := Value.refusal?_eq_none_iff.mpr haccepted
      constructor
      · intro h _
        refine (result_add_eq_ok_iff.mp ?_).2
        cases hadd : (table.add m declaration).act.result with
        | ok _ => rfl
        | error fault => cases hnone.symm.trans ((h.refused fault).mp hadd)
      · intro h
        have hadd := result_add_eq_ok_iff.mpr ⟨haccepted, h haccepted⟩
        constructor
        · intro fault
          simp [hadd, hnone]
        · intro fault hfault
          cases hadd.symm.trans hfault

/-- The same for a run: every call is whole exactly where every value is admitted. -/
theorem forall_addsWhole_iff_admitsEach {declarations : List Value} :
    (∀ before declaration after, declarations = before ++ declaration :: after →
        (table.addEach m before).AddsWhole m declaration) ↔
      table.AdmitsEach m declarations := by
  induction declarations generalizing table with
  | nil => simp [AdmitsEach]
  | cons declaration rest ih =>
      rw [AdmitsEach, ← addsWhole_iff_admits, ← ih]
      constructor
      · intro h
        refine ⟨h [] declaration rest rfl, ?_⟩
        rintro before other after rfl
        exact h (declaration :: before) other after rfl
      · rintro ⟨hfirst, hrest⟩ before other after hsplit
        cases before with
        | nil =>
            obtain ⟨rfl, rfl⟩ := List.cons.inj hsplit
            exact hfirst
        | cons _ before =>
            obtain ⟨rfl, rfl⟩ := List.cons.inj hsplit
            exact hrest before other after rfl

/-- What adding an admitted value comes to: nothing but the refusal, if it is refused, and else
all that it stands for. -/
theorem add_of_admits {declaration : Value} (h : table.Admits m declaration) :
    (declaration.isAccepted m = true ∧ declaration.refusal? m = none ∧
        (table.add m declaration).act.result = .ok ()) ∨
      ∃ fault, declaration.isAccepted m = false ∧ declaration.refusal? m = some fault ∧
        (table.add m declaration).act.result = .error fault ∧
        (table.add m declaration).table = table := by
  have hwhole := addsWhole_iff_admits.mpr h
  cases hrefusal : declaration.refusal? m with
  | none =>
      have haccepted := Value.refusal?_eq_none_iff.mp hrefusal
      refine .inl ⟨Value.isAccepted_iff.mpr haccepted, rfl, ?_⟩
      exact result_add_eq_ok_iff.mpr ⟨haccepted, h haccepted⟩
  | some fault =>
      have hadd := (hwhole.refused fault).mpr hrefusal
      refine .inr ⟨fault, ?_, rfl, hadd, hwhole.unchanged fault hadd⟩
      simp [Value.isAccepted, hrefusal]

/-- Adding values in turn and catching what is refused leads to the same table as extending by
the accepted ones, which gets through. -/
theorem extend_filter_of_admitsEach {declarations : List Value}
    (h : table.AdmitsEach m declarations) :
    (table.extend m (declarations.filter (Value.isAccepted m))).act.result = .ok () ∧
      (table.extend m (declarations.filter (Value.isAccepted m))).table =
        table.addEach m declarations := by
  induction declarations generalizing table with
  | nil => exact ⟨rfl, rfl⟩
  | cons declaration rest ih =>
      obtain ⟨hfirst, hrest⟩ := h
      obtain ⟨haccepted, _, hadd⟩ | ⟨fault, hrefused, _, _, htable⟩ := add_of_admits hfirst
      · rw [List.filter_cons_of_pos haccepted, extend, addEach]
        have hagrees := Extension.andThen_agrees_of_ok hadd fun table =>
          table.extend m (rest.filter (Value.isAccepted m))
        rw [hagrees.result, hagrees.table]
        exact ih hrest
      · rw [List.filter_cons_of_neg (by simp [hrefused]), addEach, htable]
        rw [htable] at hrest
        exact ih hrest

/-- Extending by values in turn fails with the first refusal there is, and leaves what the
values before it lead to. -/
theorem extend_of_admitsEach {declarations : List Value}
    (h : table.AdmitsEach m declarations) :
    (∀ fault, (table.extend m declarations).act.result = .error fault ↔
        declarations.findSome? (Value.refusal? m) = some fault) ∧
      (table.extend m declarations).table =
        table.addEach m (declarations.takeWhile (Value.isAccepted m)) := by
  induction declarations generalizing table with
  | nil => exact ⟨by simp [extend], rfl⟩
  | cons declaration rest ih =>
      obtain ⟨hfirst, hrest⟩ := h
      rw [extend, List.findSome?_cons, List.takeWhile_cons]
      obtain ⟨haccepted, hnone, hadd⟩ | ⟨fault, hrefused, hsome, hadd, htable⟩ :=
        add_of_admits hfirst
      · have hagrees := Extension.andThen_agrees_of_ok hadd fun table => table.extend m rest
        rw [hagrees.result, hagrees.table, hnone, if_pos haccepted, addEach]
        exact ih hrest
      · rw [Extension.andThen_of_error hadd, hadd, hsome, htable, hrefused]
        exact ⟨fun other => by simp, rfl⟩

end Table

/-- Adding a value fails just as its own check does, and then changes nothing, exactly where the
table admits the value. Over a run of values whose failures are caught this means that each is
admitted when its turn comes.

In such a run, extending by the values fails just when one of them is refused, with the refusal
of the first such, and leaves what those before it lead to. The table that the whole run leads
to is the one that is built from the accepted values alone. -/
theorem adding_is_whole_iff_admitted (m : Interpretation) :
    (∀ (table : Table) (declaration : Value),
      table.AddsWhole m declaration ↔ table.Admits m declaration) ∧
    ∀ (table : Table) (declarations : List Value),
      ((∀ before declaration after, declarations = before ++ declaration :: after →
          (table.addEach m before).AddsWhole m declaration) ↔
        table.AdmitsEach m declarations) ∧
      (table.AdmitsEach m declarations →
        (∀ fault, (table.extend m declarations).act.result = .error fault ↔
          declarations.findSome? (Value.refusal? m) = some fault) ∧
        (table.extend m declarations).table =
          table.addEach m (declarations.takeWhile (Value.isAccepted m))) ∧
      (Table.empty.AdmitsEach m declarations →
        (build m (declarations.filter (Value.isAccepted m))).result =
          .ok (Table.empty.addEach m declarations) ∧
        ∀ fault, (build m declarations).result = .error fault ↔
          declarations.findSome? (Value.refusal? m) = some fault) := by
  refine ⟨fun _ _ => Table.addsWhole_iff_admits, fun table declarations => ?_⟩
  refine ⟨Table.forall_addsWhole_iff_admitsEach, Table.extend_of_admitsEach, fun h => ⟨?_, ?_⟩⟩
  · exact Extension.result_finish_eq_ok_iff.mpr (Table.extend_filter_of_admitsEach h)
  · intro fault
    rw [← (Table.extend_of_admitsEach h).1 fault, build, Extension.result_finish]
    cases (Table.empty.extend m declarations).act.result <;> simp [Except.map]

/-- Attempts to declare an order: what leads nowhere and what is no declaration are refused. -/
def orderAttempts : List Value :=
  [.declaration (.simple (.text "new") (.text "paid") (.text "pay")),
    .declaration (.simple (.text "paid") .unset (.text "send")),
    .declaration (.simple .any (.text "void") (.text "drop")),
    .null]

/-- The attempts lead to the table of the first and the third, and cannot be built as they
are. -/
theorem adding_is_whole_orderAttempts :
    (build .exhausted (orderAttempts.filter (Value.isAccepted .exhausted))).result =
        .ok (Table.empty.addEach .exhausted orderAttempts) ∧
      (build .exhausted orderAttempts).result =
        .error (.declaration (.invalid "from_() requires a `to` destination"
          (some "from_('paid', event='send')"))) := by
  have hadmits : Table.empty.AdmitsEach .exhausted orderAttempts := by
    refine ⟨fun _ => ?_, fun h => ?_, fun _ => ?_, fun _ => trivial, trivial⟩
    · exact Table.result_takeSteps_eq_ok_iff.mp rfl
    · obtain ⟨_, hsteps⟩ := h
      cases hsteps
    · exact Table.result_takeSteps_eq_ok_iff.mp rfl
  obtain ⟨_, hruns⟩ := adding_is_whole_iff_admitted .exhausted
  obtain ⟨hbuild, hfault⟩ := (hruns .empty orderAttempts).2.2 hadmits
  exact ⟨hbuild, (hfault _).mpr rfl⟩

/-- A draft with an author and, unless it is left out, a title: a record whose title is set
later on. -/
def draft (n : Nat) (author : String) : Value :=
  .object ⟨"Draft", "Draft", .record, ["author", "title"], ["title"], [], "Draft", none, false,
    false, true⟩ [] ⟨n, 0⟩ [("author", .text author)]

/-- Adding need not be whole, nor the same for every table, where states cannot be compared. A step
from one draft without a title to another fails although its check finds no fault, and its rule is
in the table for all that. A step from one of them gets in or not depending on whether the other is
known. -/
theorem adding_is_not_whole_of_incomparable :
    (¬∀ (m : Interpretation) (table : Table) (declaration : Value) (fault : Fault),
      table.Reachable m → (table.add m declaration).act.result = .error fault →
        (table.add m declaration).table = table) ∧
    ¬∀ (m : Interpretation) (table table' : Table) (declaration : Value),
      table.Reachable m → table'.Reachable m →
        (table.add m declaration).act.result = (table'.add m declaration).act.result := by
  let leap : Value := .declaration (.simple (draft 0 "x") (draft 1 "y") (.text "go"))
  let start : Value := .declaration (.simple (draft 1 "y") (.text "done") (.text "go"))
  constructor
  · intro hall
    have htable := hall .exhausted .empty leap (.noAttribute "Draft" "title") .empty rfl
    cases htable
  · intro hall
    have hresult := hall .exhausted .empty (Table.empty.add .exhausted leap).table start .empty
      (.add leap .empty)
    cases hresult

end StateRules
