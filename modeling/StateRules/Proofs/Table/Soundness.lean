import StateRules.Proofs.Declaration.Acceptance
import StateRules.Proofs.Table.Wildcard
import StateRules.Proofs.Table.Precedence

/-!
What can be in a table.

Whatever is added to a table, accepted or not, only sound rules get in (`Rule.IsSound`). The
destinations of rules come in by four ways and are checked on each of them, while the sources of
a step for `any` are states that are known already. So the marker `any` never stands in a table,
and what can be called stands there as a source, as a guard or as a type or a member of an
enumeration, but not as a function that a rule leads to.

It follows that an entity never moves to a function unless a guard gave it
(`reachable_tables_are_sound`).
-/

namespace StateRules

variable {m : Interpretation}

/-- Whether a value is a text that is not empty. An object may give itself out to be a text; it
is not empty if it counts as true. -/
structure Value.IsName (m : Interpretation) (v : Value) : Prop where
  isText : (v.isA m (.basic .text)).result = .ok true
  counts : (v.holds m).result = .ok true
  nonempty : ∀ s, v.text? = some s → s ≠ ""

/-- Whether a target leads to a state that is proper and known in advance, or else to what
something that can be called gives. -/
def Target.IsSound : Target → Prop
  | .literal state => state.IsDestination
  | .guarded guard declared =>
      guard.isNull = false ∧ guard.isCallable = true ∧
        (declared.isUnset = true ∨ declared.IsDestination)

structure Rule.IsSound (m : Interpretation) (rule : Rule) : Prop where
  source : rule.source.isAny = false
  event : rule.event.IsName m
  target : rule.target.IsSound

structure Table.IsSound (m : Interpretation) (table : Table) : Prop where
  rules : ∀ rule ∈ table.rules, rule.IsSound m
  states : ∀ k ∈ table.states, k.isAny = false

theorem Value.truth_of_text? {v : Value} {s : String} (h : v.text? = some s) :
    v.truth = !s.isEmpty := by
  cases v with
  | text t =>
      obtain rfl : t = s := Option.some.inj h
      exact truth_text t
  | member k =>
      have htext : k.text? = some s := h
      have hinteger : k.integer? = none := by
        obtain ⟨⟨_, nature, _⟩, _, payload⟩ := k
        cases nature <;> cases payload <;> simp_all [Member.text?, Member.integer?]
      have hempty : s.toList.isEmpty = s.isEmpty := by rw [Bool.eq_iff_iff]; simp
      simp [truth, integer?, items?, tupleItems?, text?, htext, hinteger, hempty]
  | _ => cases h

theorem Value.holds_of_text? {v : Value} {s : String} (h : v.text? = some s) :
    v.holds m = pure (!s.isEmpty) := by
  have hshared : ∀ operation, v.shared? operation = none := by
    cases v with
    | text _ | member _ => exact fun _ => rfl
    | _ => cases h
  rw [holds_of_shared_none m (hshared _) (hshared _), truth_of_text? h]

/-- What is accepted as an event is a text that is not empty. -/
theorem Value.isName_of_isEvent {event : Value} (h : (event.isEvent m).result = .ok true) :
    event.IsName m := by
  obtain ⟨isText, hisText, hholds⟩ := Act.result_bind_eq_ok_iff.mp h
  cases isText with
  | false => cases hholds
  | true =>
      refine ⟨hisText, hholds, ?_⟩
      rintro s hs rfl
      have hempty : (event.holds m).result = .ok false := by rw [holds_of_text? hs]; rfl
      cases hempty.symm.trans hholds

theorem Target.IsSound.named_proper {target : Target} (h : target.IsSound) :
    ∀ v ∈ target.named, v.isAny = false := by
  cases target with
  | literal state => exact List.forall_mem_singleton.mpr h.proper
  | guarded guard declared =>
      obtain ⟨_, _, hunset | hdeclared⟩ := h
      · simp [named, hunset]
      · cases hunset : declared.isUnset with
        | true => simp [named, hunset]
        | false => simp [named, hunset, hdeclared.proper]

theorem isSound_entryTarget {guard destination : Value}
    (hguard : guard.isNull = true ∨ guard.isCallable = true)
    (hdestination : destination.IsDestination) : (entryTarget guard destination).IsSound := by
  unfold entryTarget
  split
  · exact hdestination
  · next hnull =>
      exact ⟨eq_false_of_ne_true hnull, hguard.resolve_left hnull, .inr hdestination⟩

/-- The steps of a sound declaration have events that are texts and targets that are sound. -/
theorem Declaration.IsSound.steps {d : Declaration} (h : d.IsSound m) :
    ∀ step ∈ d.steps, step.event.IsName m ∧ step.target.IsSound := by
  cases d with
  | simple source destination event =>
      obtain ⟨_, hevent, hdestination⟩ := h
      exact List.forall_mem_singleton.mpr ⟨Value.isName_of_isEvent hevent, hdestination⟩
  | sourceBlock source destination event entries =>
      obtain ⟨_, _, hentries⟩ := h
      intro step hstep
      obtain ⟨entry, hentry, hstep⟩ := List.mem_flatMap.mp hstep
      obtain ⟨destination, event, rfl, hevent, hdestination⟩ := hentries entry hentry
      obtain rfl := List.mem_singleton.mp hstep
      exact ⟨Value.isName_of_isEvent hevent, hdestination⟩
  | toEntry destination event => exact h.elim
  | eventBlock event entries guard =>
      obtain ⟨hevent, hguard, hentries⟩ := h
      intro step hstep
      obtain ⟨entry, hentry, hstep⟩ := List.mem_flatMap.mp hstep
      obtain ⟨source, destination, rfl, _, hdestination⟩ := hentries entry hentry
      obtain rfl := List.mem_singleton.mp hstep
      exact ⟨Value.isName_of_isEvent hevent, isSound_entryTarget hguard hdestination⟩

theorem Value.Accepted.sound_steps {v : Value} (h : v.Accepted m) :
    ∀ step ∈ v.steps, step.event.IsName m ∧ step.target.IsSound := by
  obtain ⟨_, hsound⟩ := Value.accepted_iff.mp h
  cases v with
  | declaration d => exact hsound.steps
  | _ => exact hsound.elim

namespace Table

theorem isSound_empty : Table.empty.IsSound m := ⟨by simp [empty], by simp [empty]⟩

/-- A sound table stays sound when a sound rule enters, whatever becomes of that. -/
theorem IsSound.enter {table : Table} (h : table.IsSound m) {rule : Rule}
    (hrule : rule.IsSound m) : (table.enter m rule).1.IsSound m where
  rules := forall_rules_enter h.rules hrule
  states := by
    refine forall_states_enter h.states (List.forall_mem_cons.mpr ⟨hrule.source, ?_⟩)
    exact hrule.target.named_proper

/-- The rules of a sound step are sound: those of a step for `any` have sources that are known,
and what is known is proper. -/
theorem IsSound.rules_of_step {table : Table} (h : table.IsSound m) {step : Step}
    (hevent : step.event.IsName m) (htarget : step.target.IsSound) :
    ∀ rule ∈ step.rules table.states, rule.IsSound m := by
  refine Step.forall_rules (fun _ k hk => ?_) fun hsource => ?_
  · exact ⟨h.states k hk, hevent, htarget⟩
  · exact ⟨hsource, hevent, htarget⟩

theorem Reachable.isSound {table : Table} (h : table.Reachable m) : table.IsSound m := by
  refine h.induction (P := IsSound m) (Q := Rule.IsSound m) isSound_empty
    (fun _ _ htable hrule => htable.enter hrule) ?_
  intro table htable declaration steps hcheck step hstep
  obtain rfl := Value.steps_of_check hcheck
  have haccepted : declaration.Accepted m := ⟨_, hcheck⟩
  obtain ⟨hevent, htarget⟩ := haccepted.sound_steps step hstep
  exact htable.rules_of_step hevent htarget

/-- Where the rules of a table are sound, an entity moves to a state that is proper and known in
advance, or to whatever the guard of a rule gives for it. -/
theorem IsSound.moved {table : Table} (h : table.IsSound m) {accessor : Accessor}
    {entity event copy : Value}
    (hmoved : (transit m accessor table entity event).result = .ok (.moved copy)) :
    ∃ next, (accessor.set m entity next).result = .ok copy ∧
      (next.IsDestination ∨ ∃ rule ∈ table.rules, ∃ guard, rule.guard? = some guard ∧
        (m.call guard (.ofList [entity])).result = .ok next) := by
  obtain ⟨state, hstate, _⟩ := Act.result_bind_eq_ok_iff.mp hmoved
  obtain ⟨rule, next, hfound, hnext, _, hcopy⟩ :=
    (result_transit_eq_ok_moved_iff hstate).mp hmoved
  obtain ⟨hfirst, _⟩ := result_search_eq_ok_some_iff.mp hfound
  have hsound := (h.rules rule hfirst.mem).target
  refine ⟨next, hcopy, ?_⟩
  cases htarget : rule.target with
  | literal destination =>
      rw [htarget] at hnext hsound
      obtain rfl : next = destination := hnext
      exact .inl hsound
  | guarded guard declared =>
      rw [htarget] at hnext
      exact .inr ⟨rule, hfirst.mem, guard, by rw [Rule.guard?, htarget], hnext⟩

end Table

/-- In every table that can be reached, and so in every table that is built, no rule leads from
`any` and no known state is `any`; the events are texts that are not empty; a rule leads to a
state that is neither `any` nor a function, or where a guard says that can be called. So no
entity ever moves to `any` or to a function that a rule names: if it moves to one, a guard gave
it. -/
theorem reachable_tables_are_sound {m : Interpretation} {table : Table}
    (h : table.Reachable m) :
    table.IsSound m ∧
      ∀ (accessor : Accessor) (entity event copy : Value),
        (transit m accessor table entity event).result = .ok (.moved copy) →
          ∃ next, (accessor.set m entity next).result = .ok copy ∧
            (next.IsDestination ∨ ∃ rule ∈ table.rules, ∃ guard, rule.guard? = some guard ∧
              (m.call guard (.ofList [entity])).result = .ok next) :=
  ⟨h.isSound, fun _ _ _ _ hmoved => h.isSound.moved hmoved⟩

/-- Orders for which a move to a function is refused, and which may then be checked in any state
known by that time. -/
def orderChecks : Table :=
  let orders := (Table.empty.extend .exhausted orderDeclarations).table
  let refused := (orders.add .exhausted
    (.declaration (.simple (.text "sent") orderGuard (.text "check")))).table
  (refused.add .exhausted (.declaration (.eventBlock (.text "check")
    [.declaration (.simple .any (.text "sent") .null)] orderGuard))).table

/-- The four states known by then are the sources of four checks; neither the wildcard nor the
guard has become a state. -/
theorem reachable_tables_are_sound_orders :
    orderChecks.Reachable .exhausted ∧ orderChecks.IsSound .exhausted ∧
      orderChecks.rules.length = 8 ∧
      orderChecks.states = [.text "new", .text "paid", .text "void", .text "sent"] := by
  have hreachable : orderChecks.Reachable .exhausted :=
    .add _ (.add _ (Table.Reachable.empty.extend orderDeclarations))
  obtain ⟨hsound, _⟩ := reachable_tables_are_sound hreachable
  exact ⟨hreachable, hsound, rfl, rfl⟩

end StateRules
