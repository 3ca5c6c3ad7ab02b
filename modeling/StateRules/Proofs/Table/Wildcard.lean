import StateRules.Guard
import StateRules.Proofs.Declaration.Spelling
import StateRules.Proofs.Table.Growth

/-!
What a declaration for `any` is short for.

A step for `any` stands for a rule from each state that is known when its turn comes. Its rules
enter one by one, and so do those of the steps from these states that it is short for, so the two
lead to the same table or come to the same stop (`Table.takeSteps_any_agrees`). The states that the
rules bring in while they enter are none of its sources.

To spell a declaration for `any` out, its sources have to be written into declarations, and
these have to be accepted. A state that does not go by a text cannot stand there, although it
gets to be known well enough as the source of a block. Wherever a declaration for `any` gets in,
it can be spelled out exactly if every state known by then goes by a text
(`any_is_short_iff_named`).
-/

namespace StateRules

/-- Whether two rows of declarations behind the same ones come to the same, whatever comes
after them: the same table or the same fault. -/
def Interchangeable (m : Interpretation) (before one other : List Value) : Prop :=
  ∀ after, (build m (before ++ one ++ after)).result = (build m (before ++ other ++ after)).result

variable {m : Interpretation}

namespace Table

variable {table : Table}

/-- A step for `any` comes to steps from the states that are known before it. Where none is, it
comes to nothing if its warning can be written. -/
theorem takeSteps_any_agrees {event : Value} {target : Target}
    (hproper : ∀ k ∈ table.states, k.isAny = false)
    (hwarned : table.states = [] →
      ∃ record, (Step.writeWarning m ⟨.any, event, target⟩).result = .ok record) :
    (table.takeSteps m [⟨.any, event, target⟩]).Agrees
      (table.takeSteps m (table.states.map fun k => ⟨k, event, target⟩)) := by
  refine (Extension.andThen_done_agrees _).trans ?_
  cases hstates : table.states with
  | nil =>
      obtain ⟨record, hrecord⟩ := hwarned hstates
      constructor
      · simp [takeStep, hstates, Value.isAny, takeSteps]
      · simp [takeStep, hstates, Value.isAny, takeSteps, Act.result_bind_of_ok hrecord]
  | cons first rest =>
      rw [hstates] at hproper
      have hrules : table.takeStep m ⟨.any, event, target⟩ =
          table.takeRules m ((first :: rest).map fun k => ⟨k, event, target⟩) := by
        simp [takeStep, Step.rules, hstates, Value.isAny]
      rw [hrules]
      have hown : ∀ step ∈ (first :: rest).map fun k => (⟨k, event, target⟩ : Step),
          step.source.isAny = false := List.forall_mem_map.mpr hproper
      have hagrees : (table.takeSteps m _).Agrees _ := takeSteps_agrees_takeRules hown
      rw [List.map_map] at hagrees
      exact hagrees.symm

/-- Where no state is known, a step for `any` leaves the table as it is, whatever becomes of
its warning. -/
theorem table_takeSteps_any_of_nil {event : Value} {target : Target}
    (hstates : table.states = []) :
    (table.takeSteps m [⟨.any, event, target⟩]).table = table := by
  refine (Extension.andThen_done_agrees _).table.trans ?_
  simp [takeStep, hstates, Value.isAny]

theorem warned_of_takeSteps_any {event : Value} {target : Target}
    (h : (table.takeSteps m [⟨.any, event, target⟩]).act.result = .ok ())
    (hstates : table.states = []) :
    ∃ record, (Step.writeWarning m ⟨.any, event, target⟩).result = .ok record := by
  have hstep := (Extension.andThen_done_agrees (table.takeStep m ⟨.any, event, target⟩)).result
  have hwarning := hstep.symm.trans h
  simp only [takeStep, hstates, Value.isAny, List.isEmpty_nil, Bool.and_self, if_true] at hwarning
  obtain ⟨record, hrecord, _⟩ := Act.result_bind_eq_ok_iff.mp hwarning
  exact ⟨record, hrecord⟩

end Table

/-- Behind declarations that are built, others go on from the table of these. -/
theorem build_append_of_ok {before : List Value} {table : Table}
    (h : (build m before).result = .ok table) (between after : List Value) :
    (build m (before ++ between ++ after)).result =
      ((table.extend m between).andThen fun table => table.extend m after).finish.result := by
  obtain ⟨hextend, rfl⟩ := Extension.result_finish_eq_ok_iff.mp h
  rw [build, List.append_assoc, Table.extend_append]
  refine ((Extension.andThen_agrees_of_ok hextend _).trans ?_).finish
  rw [Table.extend_append]
  exact .refl _

theorem build_append_eq_ok_iff {before : List Value} {table : Table}
    (h : (build m before).result = .ok table) (between : List Value) :
    (∃ grown, (build m (before ++ between)).result = .ok grown) ↔
      (table.extend m between).act.result = .ok () := by
  have hbuild := build_append_of_ok h between []
  rw [List.append_nil] at hbuild
  rw [hbuild.trans (Extension.andThen_done_agrees _).finish, Extension.result_finish]
  cases (table.extend m between).act.result <;> simp [Except.map]

/-- Accepted declarations whose steps come to the same are interchangeable. -/
theorem interchangeable_of_agrees {before one other : List Value} {table : Table}
    (h : (build m before).result = .ok table) (hone : ∀ d ∈ one, d.Accepted m)
    (hother : ∀ d ∈ other, d.Accepted m)
    (hagrees : (table.takeSteps m (one.flatMap Value.steps)).Agrees
      (table.takeSteps m (other.flatMap Value.steps))) :
    Interchangeable m before one other := by
  intro after
  have hextend : (table.extend m one).Agrees (table.extend m other) :=
    ((Table.extend_agrees_of_accepted hone table).trans hagrees).trans
      (Table.extend_agrees_of_accepted hother table).symm
  rw [build_append_of_ok h, build_append_of_ok h]
  exact (hextend.andThen fun table => .refl (table.extend m after)).finish

/-- What it takes to spell out a declaration for `any` in a table: that the states that are
known go by texts, or if there is none, that the warning can be written. -/
structure Table.SpellsOut (m : Interpretation) (table : Table) (step : Step) : Prop where
  named : ∀ k ∈ table.states, k.IsNamed m
  warned : table.states = [] → ∃ record, (step.writeWarning m).result = .ok record

/-- Whether declarations that are made from some sources are, made from `any`, short for the
same made from the states that are known, behind declarations that lead to a table. -/
structure IsShort (m : Interpretation) (before : List Value) (table : Table) (event : Value)
    (target : Target) (spell : List Value → List Value) : Prop where
  /-- An accepted declaration for `any` comes to what it is short for, stops included. -/
  same : (∀ d ∈ spell [.any], d.Accepted m) → table.SpellsOut m ⟨.any, event, target⟩ →
    Interchangeable m before (spell [.any]) (spell table.states)
  /-- Where it gets in, this takes no less than that the states go by texts. -/
  named_iff : (∃ grown, (build m (before ++ spell [.any])).result = .ok grown) →
    (Interchangeable m before (spell [.any]) (spell table.states) ↔
      ∀ k ∈ table.states, k.IsNamed m)
  /-- Where no state is known, an accepted declaration for `any` brings nothing in. -/
  nothing : (∀ d ∈ spell [.any], d.Accepted m) → table.states = [] →
    (table.extend m (spell [.any])).table = table

/-- Declarations are short for others if they read as the steps for their sources, and are
accepted, once they are for `any`, just when their sources go by texts. -/
theorem isShort_of_steps {before : List Value} {table : Table} {event : Value} {target : Target}
    {spell : List Value → List Value} (h : (build m before).result = .ok table)
    (hsteps : ∀ sources,
      (spell sources).flatMap Value.steps = sources.map fun k => ⟨k, event, target⟩)
    (haccepted : (∀ d ∈ spell [.any], d.Accepted m) → ∀ sources,
      (∀ d ∈ spell sources, d.Accepted m) ↔ ∀ k ∈ sources, k.IsNamed m) :
    IsShort m before table event target spell := by
  have hany : (spell [.any]).flatMap Value.steps = [⟨.any, event, target⟩] := hsteps [.any]
  have hsame (hshort : ∀ d ∈ spell [.any], d.Accepted m)
      (hspells : table.SpellsOut m ⟨.any, event, target⟩) :
      Interchangeable m before (spell [.any]) (spell table.states) := by
    have hlong := (haccepted hshort table.states).mpr hspells.named
    refine interchangeable_of_agrees h hshort hlong ?_
    rw [hany, hsteps]
    exact Table.takeSteps_any_agrees (Table.Reachable.build h).proper hspells.warned
  refine ⟨hsame, fun hgrown => ?_, fun hshort hstates => ?_⟩
  · have hin := (build_append_eq_ok_iff h (spell [.any])).mp hgrown
    have hshort := Table.accepted_of_extend_ok hin
    constructor
    · intro hinter
      have hbuild := hinter []
      rw [List.append_nil, List.append_nil] at hbuild
      rw [hbuild] at hgrown
      have hlong := (build_append_eq_ok_iff h (spell table.states)).mp hgrown
      exact (haccepted hshort table.states).mp (Table.accepted_of_extend_ok hlong)
    · intro hnamed
      rw [(Table.extend_agrees_of_accepted hshort table).result, hany] at hin
      exact hsame hshort ⟨hnamed, Table.warned_of_takeSteps_any hin⟩
  · rw [(Table.extend_agrees_of_accepted hshort table).table, hany]
    exact Table.table_takeSteps_any_of_nil hstates

theorem isShort_simpleFrom {before : List Value} {table : Table}
    (h : (build m before).result = .ok table) (destination event : Value) :
    IsShort m before table event (.literal destination) (simpleFrom destination event) :=
  isShort_of_steps h (steps_simpleFrom destination event)
    fun hany _ => accepted_simpleFrom_iff hany

theorem isShort_eventFrom {before : List Value} {table : Table}
    (h : (build m before).result = .ok table) (destination event guard : Value) :
    IsShort m before table event (entryTarget guard destination)
      (eventFrom destination event guard) :=
  isShort_of_steps h (steps_eventFrom destination event guard)
    fun hany _ => accepted_eventFrom_iff hany

/-- Behind declarations that are built, a declaration for `any` is short for the same from each
state that is known by then: a simple one for simple declarations in a row, an entry of an event
block for entries of that block. Wherever it gets in, this is so exactly if these states go by
texts. -/
theorem any_is_short_iff_named {before : List Value} {table : Table}
    (h : (build m before).result = .ok table) :
    (∀ destination event : Value,
      IsShort m before table event (.literal destination) (simpleFrom destination event)) ∧
    ∀ destination event guard : Value,
      IsShort m before table event (entryTarget guard destination)
        (eventFrom destination event guard) :=
  ⟨isShort_simpleFrom h, isShort_eventFrom h⟩

/-- A guard that is good for any order. -/
def orderGuard : Value := .function ⟨"check", "<function check>"⟩ (.text "check")

/-- Dropping an order in any state known by then is dropping a new one and dropping a paid one,
whether it leads to one state or wherever a guard says. -/
theorem any_is_short_iff_named_order :
    let before := simpleFrom (.text "paid") (.text "pay") [.text "new"]
    let known : List Value := [.text "new", .text "paid"]
    Interchangeable .exhausted before (simpleFrom (.text "void") (.text "drop") [.any])
        (simpleFrom (.text "void") (.text "drop") known) ∧
      Interchangeable .exhausted before
        (eventFrom .unset (.text "drop") orderGuard [.any])
        (eventFrom .unset (.text "drop") orderGuard known) := by
  intro before known
  have hbuild : (build .exhausted before).result = .ok _ := rfl
  have hnamed : ∀ k ∈ known, k.IsNamed .exhausted := by
    refine List.forall_mem_cons.mpr ⟨⟨_, _, rfl, rfl⟩, ?_⟩
    exact List.forall_mem_singleton.mpr ⟨_, _, rfl, rfl⟩
  obtain ⟨hsimple, hevent⟩ := any_is_short_iff_named hbuild
  constructor
  · exact ((hsimple (.text "void") (.text "drop")).named_iff ⟨_, rfl⟩).mpr hnamed
  · exact ((hevent .unset (.text "drop") orderGuard).named_iff ⟨_, rfl⟩).mpr hnamed

/-- A stage of a process that can be called, as its class has it, and that goes by a number. -/
def stage : Value :=
  .object ⟨"Stage", "Stage", .plain, [], [], [], "Stage", none, false, false, true⟩
    [("__call__", .function ⟨"run", "<function run>"⟩ .unset)] ⟨0, 0⟩
    [("__qualname__", .integer 5)]

theorem not_isNamed_stage : ¬stage.IsNamed .exhausted := by
  rintro ⟨name, text, hname, htext⟩
  obtain rfl : .integer 5 = name := Except.ok.inj hname
  cases htext

/-- A block that starts from the stage, which has it written as it is. -/
def stageBlock : Value :=
  .declaration (.sourceBlock stage .unset .null
    [.declaration (.toEntry (.text "done") (.text "go"))])

theorem build_stageBlock : (build .exhausted [stageBlock]).result =
    .ok ⟨[⟨stage, .text "go", .literal (.text "done")⟩], [stage, .text "done"], [.text "go"]⟩ :=
  rfl

/-- A declaration for `any` cannot be spelled out where a known state does not go by a text. The
stage is written well enough as the source of a block, and is known from then on, but a simple
declaration from it cannot be rendered. -/
theorem any_is_not_short_of_unnamed :
    (¬∀ (m : Interpretation) (before : List Value) (table : Table) (destination event : Value),
      (build m before).result = .ok table →
        (∀ d ∈ simpleFrom destination event [.any], d.Accepted m) →
          Interchangeable m before (simpleFrom destination event [.any])
            (simpleFrom destination event table.states)) ∧
    ¬∀ (m : Interpretation) (before : List Value) (table : Table)
        (destination event guard : Value), guard.isNull = false →
      (build m before).result = .ok table →
        (∀ d ∈ eventFrom destination event guard [.any], d.Accepted m) →
          Interchangeable m before (eventFrom destination event guard [.any])
            (eventFrom destination event guard table.states) := by
  have hnot : ¬∀ k ∈ [stage, .text "done"], k.IsNamed .exhausted :=
    fun hnamed => not_isNamed_stage (hnamed stage List.mem_cons_self)
  constructor
  · intro hall
    have haccepted : ∀ d ∈ simpleFrom (.text "halt") (.text "stop") [.any],
        d.Accepted .exhausted := List.forall_mem_singleton.mpr ⟨_, rfl⟩
    have hshort := isShort_simpleFrom build_stageBlock (.text "halt") (.text "stop")
    exact hnot ((hshort.named_iff ⟨_, rfl⟩).mp (hall _ _ _ _ _ build_stageBlock haccepted))
  · intro hall
    have haccepted : ∀ d ∈ eventFrom .unset (.text "stop") orderGuard [.any],
        d.Accepted .exhausted := List.forall_mem_singleton.mpr ⟨_, rfl⟩
    have hshort := isShort_eventFrom build_stageBlock .unset (.text "stop") orderGuard
    exact hnot ((hshort.named_iff ⟨_, rfl⟩).mp (hall _ _ _ _ _ _ rfl build_stageBlock haccepted))

end StateRules
