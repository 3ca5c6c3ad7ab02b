import StateRules.Proofs.Declaration.Advice
import StateRules.Proofs.Table.Course
import StateRules.Proofs.Table.Language
import StateRules.Proofs.Table.Run

/-!
What becomes of a table where advice is taken.

The event block that is advised for a function passes every check, and once it is in, entities
go wherever the function says, in each state and on each event that its rules cover and no rule
from before does (`advised_guard_gets_in_iff`). Its rules get in exactly if the table has room for
them: entering them takes comparisons, which may fail where a class has a say, and then adding the
block fails although there is nothing to object to in it.

The event block that is advised for a nested block passes every check as well. It stands for
what the nested block lists, and so for all that the refused block does exactly if nothing is
listed outside that nested block (`advised_block_keeps_all_iff`).

Where all is answered that is asked of them, the declarations that are refused with advice are just
those of these two kinds (`Declaration.unsupported_iff`).
-/

namespace StateRules

variable {m : Interpretation} {state cue : Value}

theorem IsFirst.behind {α : Type} {passed : α → Prop} {before items : List α} {a : α}
    (hbefore : ∀ other ∈ before, passed other) (h : IsFirst passed items a) :
    IsFirst passed (before ++ items) a := by
  obtain ⟨front, after, rfl, hfront⟩ := h
  refine ⟨before ++ front, after, by simp, ?_⟩
  rintro other hother
  rcases List.mem_append.mp hother with hmem | hmem
  · exact hbefore other hmem
  · exact hfront other hmem

/-- The rules of a step all lead where the step does. -/
theorem Step.target_of_mem_rules {step : Step} {known : List Value} {rule : Rule}
    (h : rule ∈ step.rules known) : rule.target = step.target :=
  Step.forall_rules (P := fun rule => rule.target = step.target) (fun _ _ _ => rfl) (fun _ => rfl)
    rule h

namespace Table

variable {table grown : Table}

/-- Where no rule from before applies, the rules behind them decide. -/
theorem lead_of_behind {step : Step} {known : List Value}
    (hrules : grown.rules = table.rules ++ step.rules known)
    (hbefore : ∀ rule ∈ table.rules, rule.Declines m state cue) {rule : Rule}
    (hfirst : IsFirst (Rule.Declines m state cue) (step.rules known) rule)
    (happlies : rule.Applies m state cue) :
    grown.lead m state cue = .ok (some step.target.bare) := by
  have hfound : (grown.search m state cue).result = .ok (some rule) := by
    rw [result_search_eq_ok_some_iff, hrules]
    exact ⟨hfirst.behind hbefore, happlies⟩
  rw [lead, hfound, ← Step.target_of_mem_rules hfirst.mem]
  rfl

theorem admitsSteps_singleton_iff {step : Step} :
    table.AdmitsSteps m [step] ↔ table.AdmitsStep m step := and_iff_left trivial

/-- Where no class has a say, a table admits a step. -/
theorem admitsStep_of_settled {P : Value → Prop} (hm : Settled m P) (htable : table.Within P)
    {step : Step} (hstep : step.Within P) : table.AdmitsStep m step := by
  rw [← result_takeStep_eq_ok_iff, takeStep_of_settled hm htable hstep]

/-- What adding a value comes to whose steps are one step. -/
theorem rules_add_of_single {d : Declaration} {step : Step} (hsteps : d.steps = [step])
    (h : (table.add m (.declaration d)).act.result = .ok ()) :
    (table.add m (.declaration d)).table.rules = table.rules ++ step.rules table.states := by
  obtain ⟨haccepted, hadmits⟩ := result_add_eq_ok_iff.mp h
  rw [(add_agrees_of_accepted haccepted.check table).table]
  have htaken := result_takeSteps_eq_ok_iff.mpr hadmits
  rw [rules_takeSteps_of_ok htaken]
  simp [Value.steps, hsteps, phases]

end Table

/-- Whether an event block with a function as its guard does what it is advised for once it is
added to a table: it adds rules for this function alone, one from the source or, for `any`, one
from each state known, and an entity in a state and on an event that one of them covers, and no
rule from before, follows what the function gives for it. -/
structure Table.HandsOver (m : Interpretation) (table : Table) (source event function : Value) :
    Prop where
  rules : (table.add m (.declaration (.withGuard source event function))).table.rules =
    table.rules ++
      (⟨source, event, .guarded function (.placeholder .newState)⟩ : Step).rules table.states
  followed : ∀ (accessor : Accessor) (entity state cue : Value) (rule : Rule),
    (accessor.get m entity).result = .ok state →
      (∀ other ∈ table.rules, other.Declines m state cue) →
      IsFirst (Rule.Declines m state cue)
        ((⟨source, event, .guarded function (.placeholder .newState)⟩ : Step).rules table.states)
        rule →
      rule.Applies m state cue →
      Follows m accessor (table.add m (.declaration (.withGuard source event function))).table
        entity cue state (some (.guarded function .unset))

theorem Table.handsOver_of_ok {table : Table} {source event function : Value}
    (hfunction : function.isFunction = true) (hevent : (event.isEvent m).result = .ok true)
    (h : (table.add m (.declaration (.withGuard source event function))).act.result = .ok ()) :
    table.HandsOver m source event function := by
  have hrules := rules_add_of_single (Declaration.steps_withGuard hfunction hevent) h
  refine ⟨hrules, fun accessor entity state cue rule hstate hbefore hfirst happlies => ?_⟩
  exact follows_of_lead hstate (lead_of_behind hrules hbefore hfirst happlies)

/-- A declaration that leads to a function, the first kind of `Declaration.unsupported_iff`, is
refused with advice, which is the event block with the function as its guard; the event is there, so
it is never left blank. There is nothing to object to in that block as soon as it can be rendered.
It gets into a table exactly if the table admits its one step, as any does where no class has a say.
Then it adds rules for the function alone, and these lead every entity that no rule from before does
by what the function gives. -/
theorem advised_guard_gets_in_iff (m : Interpretation) (d : Declaration)
    (source event function : Value) (hfunction : function.isFunction = true)
    (hevent : (event.isEvent m).result = .ok true)
    (hleads : d.LeadsToFunction m source event function) :
    (d.check m).result =
      (d.redirect m (function.isFunctionFor m) .functionDestination
        (.withGuard source event function)).result ∧
    Declaration.withGuard source event function =
      .eventBlock event [.declaration (.simple source (.placeholder .newState) .null)] function ∧
    ((Value.declaration (.withGuard source event function)).Accepted m ↔
      (Declaration.withGuard source event function).Renders m) ∧
    ∀ table : Table,
      ((table.add m (.declaration (.withGuard source event function))).act.result = .ok () ↔
        (Declaration.withGuard source event function).Renders m ∧
          table.AdmitsStep m ⟨source, event, .guarded function (.placeholder .newState)⟩) ∧
      (∀ P : Value → Prop, Settled m P → table.Within P → P source → P event → P function →
        P (.placeholder .newState) →
          table.AdmitsStep m ⟨source, event, .guarded function (.placeholder .newState)⟩) ∧
      ((table.add m (.declaration (.withGuard source event function))).act.result = .ok () →
        table.HandsOver m source event function) := by
  have haccepted : (Value.declaration (.withGuard source event function)).Accepted m ↔
      (Declaration.withGuard source event function).Renders m :=
    Declaration.accepted_withGuard_iff hfunction hevent
  refine ⟨hleads.result_check hfunction hevent, Declaration.withGuard_of_isEvent hevent,
    haccepted, fun table => ⟨?_, ?_, Table.handsOver_of_ok hfunction hevent⟩⟩
  · rw [Table.result_add_eq_ok_iff, haccepted, Value.steps,
      Declaration.steps_withGuard hfunction hevent, Table.admitsSteps_singleton_iff]
  · intro P hm htable hsource hevent hfunction hplaceholder
    refine Table.admitsStep_of_settled hm htable ⟨hsource, hevent, hfunction, ?_⟩
    exact List.forall_mem_singleton.mpr hplaceholder

/-- New orders can be paid. -/
def paidOrders : Table :=
  ⟨[⟨.text "new", .text "pay", .literal (.text "paid")⟩], [.text "new", .text "paid"],
    [.text "pay"]⟩

/-- A function may not be the destination of orders that are dropped in whatever state they are. As
a guard it may, and then it decides for paid ones as for new ones: a paid order that is dropped ends
up in the state that the function gives, and is held. -/
theorem advised_guard_gets_in_paidOrders :
    ((Declaration.simple .any orderGuard (.text "drop")).check holding).result =
      .error (.declaration (.unsupported Objection.functionDestination.reason
        "from_(ANY, to=check, event='drop')"
        (stacked ["event('drop', [", "    from_(ANY, to=your_new_state),",
          "], guard=check)"]))) ∧
    (paidOrders.add holding (.declaration (.withGuard .any (.text "drop") orderGuard))).act.result =
      .ok () ∧
    (transit holding .standard
      (paidOrders.add holding (.declaration (.withGuard .any (.text "drop") orderGuard))).table
      (order 0 "paid") (.text "drop")).result = .ok (.moved (order 1 "held")) := by
  obtain ⟨hcheck, _, _, htables⟩ := advised_guard_gets_in_iff holding _ .any (.text "drop")
    orderGuard rfl rfl .simple
  obtain ⟨hadds, _, hhands⟩ := htables paidOrders
  have hadd := hadds.mpr ⟨⟨_, rfl⟩, Table.result_takeStep_eq_ok_iff.mp rfl⟩
  refine ⟨hcheck.trans rfl, hadd, ?_⟩
  have hfollowed := (hhands hadd).followed .standard (order 0 "paid") (.text "paid")
    (.text "drop") ⟨.text "paid", .text "drop", .guarded orderGuard (.placeholder .newState)⟩ rfl
    (List.forall_mem_singleton.mpr rfl)
    (IsFirst.cons_iff.mpr (.inr ⟨rfl, IsFirst.cons_iff.mpr (.inl rfl)⟩)) rfl
  exact (congrArg Act.result hfollowed).trans rfl

/-- What is advised for a function need not get in where states cannot be compared. A table that
knows one draft without a title has no room for the advice for a function that is to decide about
another. -/
theorem advised_guard_stays_out_of_incomparable :
    ¬∀ (m : Interpretation) (table : Table) (d : Declaration) (source event function : Value)
      (rendered suggestion : String), table.Reachable m → function.isFunction = true →
        (event.isEvent m).result = .ok true → d.LeadsToFunction m source event function →
        (table.add m (.declaration d)).act.result =
          .error (.declaration (.unsupported Objection.functionDestination.reason rendered
            suggestion)) →
          (table.add m (.declaration (.withGuard source event function))).act.result =
            .ok () := by
  intro hall
  let start : Value := .declaration (.simple (draft 0 "x") (.text "done") (.text "go"))
  have hadd := hall .exhausted (Table.empty.add .exhausted start).table _ (draft 1 "y")
    (.text "go") orderGuard _ _ (.add start .empty) rfl rfl .simple rfl
  cases hadd

/-- An event block of sound entries and nested blocks, of the second kind of
`Declaration.unsupported_iff`, is refused with advice at the first nested block. What is advised has
the event and the guard of the block and one simple entry for each transition that this nested block
lists. There is nothing to object to in it as soon as it can be rendered, and it gets into a table
exactly if the table admits its steps. It has an entry for every transition that the whole block
lists exactly if the nested block is the first of the entries and nothing behind it lists any. -/
theorem advised_block_keeps_all_iff (m : Interpretation) (event guard : Value)
    (entries : List Value) (hevent : (event.isEvent m).result = .ok true)
    (hguard : guard.isNull = true ∨ guard.isCallable = true)
    (hentries : ∀ entry ∈ entries, Value.IsSoundFromEntry guard entry ∨ entry.IsNestedBlock)
    (hnested : ∃ entry ∈ entries, entry.IsNestedBlock) :
    ∃ before nested after, entries = before ++ nested :: after ∧
      (∀ entry ∈ before, Value.IsSoundFromEntry guard entry) ∧ nested.IsNestedBlock ∧
      ((Declaration.eventBlock event entries guard).check m).result =
        ((Declaration.eventBlock event entries guard).redirect m (pure ()) .nestedBlock
          (.spread event guard [nested])).result ∧
      ((Value.declaration (.spread event guard [nested])).Accepted m ↔
        (Declaration.spread event guard [nested]).Renders m) ∧
      (∀ table : Table,
        (table.add m (.declaration (.spread event guard [nested]))).act.result = .ok () ↔
          (Declaration.spread event guard [nested]).Renders m ∧
            table.AdmitsSteps m (Declaration.spread event guard [nested]).steps) ∧
      (Declaration.spread event guard [nested] = .spread event guard entries ↔
        before = [] ∧ ∀ entry ∈ after, entry.listed = []) := by
  have hunsound : ¬∀ entry ∈ entries, Value.IsSoundFromEntry guard entry := by
    intro hall
    obtain ⟨entry, hentry, hblock⟩ := hnested
    exact hblock.not_isSoundFromEntry (hall entry hentry)
  obtain ⟨nested, hfirst, hnot⟩ := IsFirst.exists_of_not_forall hunsound
  have hblock : nested.IsNestedBlock := (hentries nested hfirst.mem).resolve_left hnot
  have haccepted := Declaration.accepted_spread_iff hevent hguard hblock
  obtain ⟨before, after, rfl, hbefore⟩ := hfirst
  refine ⟨before, nested, after, rfl, hbefore, hblock, ?_, haccepted, fun table => ?_,
    Declaration.spread_nested_eq_iff hbefore⟩
  · exact Declaration.result_check_of_nested hevent hguard hblock ⟨before, after, rfl, hbefore⟩
  · rw [Table.result_add_eq_ok_iff, haccepted]
    rfl

/-- Two ways to settle late orders, as a block inside the block of their event. -/
def latePayments : Value :=
  .declaration (.sourceBlock (.text "late") .unset .null
    [.declaration (.toEntry (.text "paid") .null), .declaration (.toEntry (.text "void") .null)])

theorem isNestedBlock_latePayments : latePayments.IsNestedBlock := by
  refine ⟨_, _, _, [.text "paid", .text "void"], rfl, ?_⟩
  exact List.forall_mem_cons.mpr ⟨⟨rfl, rfl, rfl⟩, List.forall_mem_singleton.mpr ⟨rfl, rfl, rfl⟩⟩

/-- The nested block is all that the event block has, so the advice keeps both ways, and it gets
in. -/
theorem advised_block_keeps_all_latePayments :
    ((Declaration.eventBlock (.text "pay") [latePayments] .null).check .exhausted).result =
      .error (.declaration (.unsupported Objection.nestedBlock.reason
        (stacked ["event('pay', [", "    from_('late', [", "        to('paid'),",
          "        to('void'),", "    ]),", "])"])
        (stacked ["event('pay', [", "    from_('late', to='paid'),",
          "    from_('late', to='void'),", "])"]))) ∧
    (Table.empty.add .exhausted
      (.declaration (.spread (.text "pay") .null [latePayments]))).act.result = .ok () := by
  have hblock := isNestedBlock_latePayments
  obtain ⟨before, nested, after, hentries, _, _, hcheck, _, hadds, _⟩ :=
    advised_block_keeps_all_iff .exhausted (.text "pay") .null [latePayments] rfl (.inl rfl)
      (List.forall_mem_singleton.mpr (.inr hblock)) ⟨_, List.mem_singleton_self _, hblock⟩
  obtain ⟨rfl, hafter⟩ : before = [] ∧ latePayments :: [] = nested :: after := by
    cases before with
    | nil => exact ⟨rfl, hentries⟩
    | cons _ rest => simp at hentries
  obtain ⟨rfl, rfl⟩ := List.cons.inj hafter
  refine ⟨hcheck.trans rfl, (hadds .empty).mpr ⟨⟨_, rfl⟩, ?_⟩⟩
  exact Table.result_takeSteps_eq_ok_iff.mp rfl

/-- What is advised for a nested block may lose what stands beside it. New orders can be paid as
well as late ones, but the advice for the nested payment leaves the new ones out. -/
theorem advised_block_loses_plain_entries :
    ¬∀ (m : Interpretation) (event guard : Value) (entries : List Value)
      (rendered suggestion : String), (event.isEvent m).result = .ok true →
        guard.isNull = true ∨ guard.isCallable = true →
        (∀ entry ∈ entries, Value.IsSoundFromEntry guard entry ∨ entry.IsNestedBlock) →
        ((Declaration.eventBlock event entries guard).check m).result =
          .error (.declaration (.unsupported Objection.nestedBlock.reason rendered suggestion)) →
          ((Declaration.spread event guard entries).render m).result = .ok suggestion := by
  intro hall
  let entries : List Value := [.declaration (.simple (.text "new") (.text "paid") .null),
    .declaration (.sourceBlock (.text "late") .unset .null
      [.declaration (.toEntry (.text "paid") .null)])]
  have hentries : ∀ entry ∈ entries, Value.IsSoundFromEntry .null entry ∨ entry.IsNestedBlock := by
    refine List.forall_mem_cons.mpr ⟨.inl ⟨_, _, rfl, fun _ => rfl, rfl, rfl⟩, ?_⟩
    refine List.forall_mem_singleton.mpr (.inr ⟨_, _, _, [.text "paid"], rfl, ?_⟩)
    exact List.forall_mem_singleton.mpr ⟨rfl, rfl, rfl⟩
  have hadvised := hall .exhausted (.text "pay") .null entries nestedPaymentText
    (stacked ["event('pay', [", "    from_('late', to='paid'),", "])"]) rfl (.inl rfl) hentries rfl
  have hwhole : ((Declaration.spread (.text "pay") .null entries).render .exhausted).result =
      .ok (stacked ["event('pay', [", "    from_('new', to='paid'),",
        "    from_('late', to='paid'),",
        "])"]) := rfl
  exact absurd (Except.ok.inj (hwhole.symm.trans hadvised)) (by decide)

end StateRules
