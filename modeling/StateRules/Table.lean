import StateRules.Rule

/-!
Rule tables: rules in order, with the catalogs of the states and events that they mention. A
`RuleTableBuilder` is such a table while it grows, a `RuleTable` one that is finished. A table grows
by one rule at a time, and each rule enters what it mentions into the catalogs unless the same is
there already. The first rule that covers a state and an event decides.

Classes may bring operations for comparing, which may fail; `Table.enter` and `Table.search` take
them into account. A rule that fails to enter what it mentions is in the table by then, and so are
those of its states that came first, but nothing behind it. `Table.push` and `Table.append` say the
same for values that are compared by what they are made of; where no class has a say, the two come
to the same (`enter_of_settled`).
-/

namespace StateRules

/-- A catalog with a value entered into it, unless the same value is there. -/
def observe (known : List Value) (v : Value) : List Value :=
  if known.any fun k => k.same v then known else known ++ [v]

/-- Whether a catalog knows a value, with the operations that classes bring for
comparing. -/
def isKnown (m : Interpretation) (known : List Value) (v : Value) : Act Bool :=
  match known with
  | [] => pure false
  | k :: rest => do if ← k.resembles m v then pure true else isKnown m rest v

/-- A catalog with several values entered one after the other (`_observe_state`), up to the first
that cannot be compared with what is there. -/
def enterAll (m : Interpretation) (known : List Value) : List Value → List Value × Act Unit
  | [] => (known, pure ())
  | v :: rest =>
      let found := isKnown m known v
      match found.result with
      | .error fault => (known, ⟨found.records, found.calls, .error fault⟩)
      | .ok isThere =>
          let (known, act) := enterAll m (if isThere then known else known ++ [v]) rest
          (known, found >>= fun _ => act)

/-- Where no class has a say, a catalog knows what it holds the same of. -/
theorem isKnown_of_settled {m : Interpretation} {P : Value → Prop} (hm : Settled m P)
    {known : List Value} (hknown : ∀ k ∈ known, P k) {v : Value} (hv : P v) :
    isKnown m known v = pure (known.any fun k => k.same v) := by
  induction known with
  | nil => rfl
  | cons k rest ih =>
      have hrest := ih fun k hk => hknown k (List.mem_cons_of_mem _ hk)
      rw [isKnown, hm.resembles (hknown k List.mem_cons_self) hv, pure_bind, hrest]
      cases hk : k.same v <;> simp [hk]

/-- A catalog of one kind stays of that kind when a value of the kind is entered. -/
theorem forall_mem_observe {P : Value → Prop} {known : List Value} (hknown : ∀ k ∈ known, P k)
    {v : Value} (hv : P v) : ∀ k ∈ observe known v, P k := by
  intro k hk
  unfold observe at hk
  split at hk
  · exact hknown k hk
  · rcases List.mem_append.mp hk with h | h
    · exact hknown k h
    · exact List.mem_singleton.mp h ▸ hv

/-- The same holds for several values in turn. -/
theorem forall_mem_foldl_observe {P : Value → Prop} {known vs : List Value}
    (hknown : ∀ k ∈ known, P k) (hvs : ∀ v ∈ vs, P v) :
    ∀ k ∈ vs.foldl observe known, P k := by
  induction vs generalizing known with
  | nil => exact hknown
  | cons v rest ih =>
      exact ih (forall_mem_observe hknown (hvs v List.mem_cons_self))
        fun v hv => hvs v (List.mem_cons_of_mem _ hv)

/-- Where no class has a say, entering values in a catalog is observing them in turn. -/
theorem enterAll_of_settled {m : Interpretation} {P : Value → Prop} (hm : Settled m P)
    {known vs : List Value} (hknown : ∀ k ∈ known, P k) (hvs : ∀ v ∈ vs, P v) :
    enterAll m known vs = (vs.foldl observe known, pure ()) := by
  induction vs generalizing known with
  | nil => rfl
  | cons v rest ih =>
      have hv := hvs v List.mem_cons_self
      have hrest := ih (forall_mem_observe hknown hv)
        fun v hv => hvs v (List.mem_cons_of_mem _ hv)
      unfold observe at hrest
      simp only [enterAll, isKnown_of_settled hm hknown hv, Act.pure_def] at hrest ⊢
      rw [hrest]
      rfl

/-- A table of rules and its catalogs: a `RuleTable`, or a `RuleTableBuilder` as far as it has
got. -/
structure Table where
  rules : List Rule
  states : List Value
  events : List Value

namespace Table

/-- The table without rules. -/
def empty : Table := ⟨[], [], []⟩

instance : Inhabited Table := ⟨empty⟩

/-- The rules of a table as they are listed. -/
def transitions (table : Table) : List Transition := table.rules.map Rule.transition

/-- The table with one more rule at its end. -/
def push (table : Table) (rule : Rule) : Table where
  rules := table.rules ++ [rule]
  states := rule.states.foldl observe table.states
  events := observe table.events rule.event

/-- The table with one more rule at its end, as far as the rule gets with entering what it mentions.
This is what `_append` does for one source. -/
def enter (m : Interpretation) (table : Table) (rule : Rule) : Table × Act Unit :=
  let (states, act) := enterAll m table.states rule.states
  let grown : Table := {table with rules := table.rules ++ [rule], states := states}
  match act.result with
  | .error _ => (grown, act)
  | .ok _ =>
      let (events, act') := enterAll m table.events [rule.event]
      ({grown with events := events}, act >>= fun _ => act')

/-- The table with the rules that a step stands for. The sources of an `any` step
are the states known before it, none of those that it brings in itself. -/
def append (table : Table) (step : Step) : Table :=
  (step.rules table.states).foldl push table

/-- The table with several steps taken in order. -/
def appendAll (table : Table) (steps : List Step) : Table := steps.foldl append table

/-- The place of the first rule that covers a state and an event, counted from a number
on, with the operations that classes bring for comparing. -/
def searchFrom (m : Interpretation) (state event : Value) : Nat → List Rule → Act (Option Nat)
  | _, [] => pure none
  | i, rule :: rest => do
      if ← rule.applies m state event then pure (some i) else searchFrom m state event (i + 1) rest

/-- The place of the first rule that covers a state and an event. -/
def searchIndex (m : Interpretation) (table : Table) (state event : Value) : Act (Option Nat) :=
  searchFrom m state event 0 table.rules

/-- `RuleTable.match`: the first rule that covers a state and an event. -/
def search (m : Interpretation) (table : Table) (state event : Value) : Act (Option Rule) := do
  let found ← table.searchIndex m state event
  pure (found.bind fun i => table.rules[i]?)

/-- Whether everything that a table mentions is of one kind. -/
structure Within (P : Value → Prop) (table : Table) : Prop where
  rules : ∀ rule ∈ table.rules, rule.Within P
  states : ∀ v ∈ table.states, P v
  events : ∀ v ∈ table.events, P v

theorem within_empty (P : Value → Prop) : empty.Within P :=
  ⟨by simp [empty], by simp [empty], by simp [empty]⟩

/-- A table of one kind stays of that kind when a rule of the kind is added. -/
theorem Within.push {P : Value → Prop} {table : Table} (htable : table.Within P) {rule : Rule}
    (hrule : rule.Within P) : (table.push rule).Within P where
  rules := by
    intro other hother
    rcases List.mem_append.mp hother with h | h
    · exact htable.rules other h
    · exact List.mem_singleton.mp h ▸ hrule
  states := forall_mem_foldl_observe htable.states hrule.states
  events := forall_mem_observe htable.events hrule.event

/-- The same holds for the rules of a step. -/
theorem Within.append {P : Value → Prop} {table : Table} (htable : table.Within P) {step : Step}
    (hstep : step.Within P) : (table.append step).Within P := by
  unfold Table.append
  have hrules := hstep.rules htable.states
  generalize step.rules table.states = rules at hrules
  induction rules generalizing table with
  | nil => exact htable
  | cons rule rest ih =>
      exact ih (htable.push (hrules rule List.mem_cons_self))
        fun rule h => hrules rule (List.mem_cons_of_mem _ h)

/-- Where no class has a say, a rule enters a table with all that it mentions. -/
theorem enter_of_settled {m : Interpretation} {P : Value → Prop} (hm : Settled m P)
    {table : Table} (htable : table.Within P) {rule : Rule} (hrule : rule.Within P) :
    table.enter m rule = (table.push rule, pure ()) := by
  have hevents : ∀ v ∈ [rule.event], P v := fun v hv => List.mem_singleton.mp hv ▸ hrule.event
  simp only [enter, enterAll_of_settled hm htable.states hrule.states, Act.pure_def,
    enterAll_of_settled hm htable.events hevents]
  rfl

end Table

end StateRules
