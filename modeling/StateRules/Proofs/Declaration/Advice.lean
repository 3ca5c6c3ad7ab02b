import StateRules.Proofs.Declaration.Verdict

/-!
What a refusal advises to write instead.

A function as a destination is refused wherever it stands: in a simple declaration, in an entry of
a source block, or in an entry of an event block without a guard. The advice depends only on where
the declaration leads to it from and on which event (`Declaration.LeadsToFunction`): it is the
event block with the function as its guard, and there is nothing to object to in that, as what was
checked before the function is all that it needs (`Declaration.accepted_withGuard_iff`).

A source block in an event block is refused at the first place where there is one. The advice
spreads that block out into an event block of its own, in which there is nothing to object to
either (`Declaration.accepted_spread_iff`). Whatever else the event block lists is not in it, so
the advice says what the event block did exactly if that is nothing
(`Declaration.spread_nested_eq_iff`).

Rendering is all that is left to fail, of the declaration that is refused or of the one to write
instead. Where neither does, the refusal quotes the one and suggests the other. There is no third
way to be refused as no longer supported (`Declaration.unsupported_iff`).
-/

namespace StateRules

/-- The way that a declaration is refused with advice: both it and the declaration to write
instead have to be rendered, and in between something else may have to be asked. -/
def Declaration.redirect {α : Type} (m : Interpretation) (d : Declaration) (asked : Act α)
    (objection : Objection) (replacement : Declaration) : Act (List Step) := do
  let rendered ← d.render m
  let _ ← asked
  objection.advise m rendered replacement

/-- Whether the first that is to object to in a declaration is that it leads, from a source and
on an event, to a function. -/
inductive Declaration.LeadsToFunction (m : Interpretation) (source event function : Value) :
    Declaration → Prop where
  | simple : LeadsToFunction m source event function (.simple source function event)
  | sourceBlock {entries : List Value} :
      IsFirst (Value.IsSoundToEntry m) entries (.declaration (.toEntry function event)) →
        LeadsToFunction m source event function (.sourceBlock source .unset .null entries)
  | eventBlock {entries : List Value} :
      IsFirst (Value.IsSoundFromEntry .null) entries
          (.declaration (.simple source function .null)) →
        LeadsToFunction m source event function (.eventBlock event entries .null)

/-- Whether an entry of an event block is a source block that leads to given destinations only,
each without an event of its own. -/
def Value.IsNestedBlock (entry : Value) : Prop :=
  ∃ (source destination event : Value) (targets : List Value),
    entry = .declaration (.sourceBlock source destination event
      (targets.map fun target => .declaration (.toEntry target .null))) ∧
    ∀ target ∈ targets, target.isUnset = false ∧ target.IsDestination

/-- The transition that an entry of a source block lists: where it leads from and to. -/
def Value.listedFrom (source : Value) : Value → List (Value × Value)
  | .declaration (.toEntry destination _) => [(source, destination)]
  | _ => []

/-- The transitions that an entry of an event block lists, in order. -/
def Value.listed : Value → List (Value × Value)
  | .declaration (.simple source destination _) => [(source, destination)]
  | .declaration (.sourceBlock source _ _ entries) => entries.flatMap (Value.listedFrom source)
  | _ => []

/-- The event block with one simple entry for each transition that the entries of another one
list. -/
def Declaration.spread (event guard : Value) (entries : List Value) : Declaration :=
  .eventBlock event
    ((entries.flatMap Value.listed).map fun (source, destination) =>
      .declaration (.simple source destination .null)) guard

variable {m : Interpretation}

/-- The shapes that are no longer supported are these: what leads to a function, and an event block
whose first entry that is not sound is a source block. -/
theorem Declaration.isOutdated_iff {d : Declaration} :
    d.IsOutdated m ↔
      (∃ source event function, function.isFunction = true ∧
        (event.isEvent m).result = .ok true ∧ d.LeadsToFunction m source event function) ∨
      ∃ event guard entries source destination ownEvent inner,
        d = .eventBlock event entries guard ∧ (event.isEvent m).result = .ok true ∧
          (guard.isNull = true ∨ guard.isCallable = true) ∧
          IsFirst (Value.IsSoundFromEntry guard) entries
            (.declaration (.sourceBlock source destination ownEvent inner)) := by
  constructor
  · intro h
    cases d with
    | simple source destination event =>
        obtain ⟨hevent, hfunction⟩ := h
        exact .inl ⟨source, event, destination, hfunction, hevent, .simple⟩
    | sourceBlock source destination ownEvent entries =>
        obtain ⟨hunset, hnull, _, hfirst, function, event, rfl, hevent, hfunction⟩ := h
        obtain rfl := Value.isUnset_iff.mp hunset
        obtain rfl := Value.isNull_iff.mp hnull
        exact .inl ⟨source, event, function, hfunction, hevent, .sourceBlock hfirst⟩
    | toEntry destination event => exact h.elim
    | eventBlock event entries guard =>
        obtain ⟨hevent, hguard, entry, hfirst, houtdated⟩ := h
        rcases houtdated with ⟨source, function, rfl, hnull, hfunction⟩ | ⟨_, _, _, _, rfl⟩
        · obtain rfl := Value.isNull_iff.mp hnull
          exact .inl ⟨source, event, function, hfunction, hevent, .eventBlock hfirst⟩
        · exact .inr ⟨_, _, _, _, _, _, _, rfl, hevent, hguard, hfirst⟩
  · rintro (⟨source, event, function, hfunction, hevent, h⟩ |
      ⟨_, _, _, _, _, _, _, rfl, hevent, hguard, hfirst⟩)
    · cases h with
      | simple => exact ⟨hevent, hfunction⟩
      | sourceBlock hfirst =>
          exact ⟨rfl, rfl, _, hfirst, _, _, rfl, hevent, hfunction⟩
      | eventBlock hfirst =>
          exact ⟨hevent, .inl rfl, _, hfirst, .inl ⟨_, _, rfl, rfl, hfunction⟩⟩
    · exact ⟨hevent, hguard, _, hfirst, .inr ⟨_, _, _, _, rfl⟩⟩

/-- Where all is answered that its check asks, a declaration is refused as no longer supported
exactly if it leads to a function or is an event block with a source block in it, as the first that
is to object to. -/
theorem Declaration.unsupported_iff {d : Declaration}
    (hanswered : (askAll m ((Value.declaration d).questions m)).result = .ok ()) :
    (∃ reason text suggestion,
      (d.check m).result = .error (.declaration (.unsupported reason text suggestion))) ↔
      (∃ source event function, function.isFunction = true ∧
        (event.isEvent m).result = .ok true ∧ d.LeadsToFunction m source event function) ∨
      ∃ event guard entries source destination ownEvent inner,
        d = .eventBlock event entries guard ∧ (event.isEvent m).result = .ok true ∧
          (guard.isNull = true ∨ guard.isCallable = true) ∧
          IsFirst (Value.IsSoundFromEntry guard) entries
            (.declaration (.sourceBlock source destination ownEvent inner)) := by
  rw [← isOutdated_iff]
  have hdecided := d.puts_check.comes hanswered
  by_cases hsound : d.IsSound m
  · obtain ⟨steps, hsteps⟩ := hdecided.accepts hsound
    rw [hsteps]
    refine iff_of_false (by simp) fun houtdated => ?_
    exact houtdated.not_isSound hsound
  · obtain ⟨fault, hfault, text, _, hrefuses⟩ := hdecided.refuses hsound
    rw [hfault]
    constructor
    · rintro ⟨reason, other, suggestion, heq⟩
      by_contra hcurrent
      obtain ⟨invalid, rfl⟩ := hrefuses.invalid hcurrent
      cases heq
    · intro houtdated
      obtain ⟨reason, suggestion, rfl⟩ := hrefuses.unsupported houtdated
      exact ⟨reason, text, suggestion, rfl⟩

theorem Value.IsNestedBlock.not_isSoundFromEntry {guard entry : Value} (h : entry.IsNestedBlock) :
    ¬Value.IsSoundFromEntry guard entry := by
  obtain ⟨_, _, _, _, rfl, _⟩ := h
  rintro ⟨_, _, heq, _⟩
  cases heq

/-- Advice fails alike wherever it is given. -/
theorem Objection.failsAlike_advise {α β : Type} (objection : Objection) (rendered : String)
    (replacement : Declaration) :
    (objection.advise m rendered replacement : Act α).FailsAlike
      (objection.advise m rendered replacement : Act β) :=
  .after _ fun _ _ => ⟨_, rfl, rfl⟩

/-- Of some items that are taken in turn, the first that fails decides. -/
theorem Act.FailsAlike.mapM {α β γ : Type} {f : α → Act β} {passed : α → Prop} {items : List α}
    {a : α} {two : Act γ} (hpassed : ∀ other, passed other → ∃ b, (f other).result = .ok b)
    (ha : IsFirst passed items a) (h : (f a).FailsAlike two) : (items.mapM f).FailsAlike two := by
  induction items with
  | nil => exact absurd ha.mem (by simp)
  | cons item rest ih =>
      rw [List.mapM_cons]
      rcases IsFirst.cons_iff.mp ha with rfl | ⟨hitem, ha⟩
      · exact h.bind _
      · obtain ⟨b, hb⟩ := hpassed item hitem
        exact .of_ok hb ((ih ha).bind _)

section Function

variable {source event function : Value} (hfunction : function.isFunction = true)
include hfunction

/-- A function is asked what it is and then refused with advice. -/
theorem failsAlike_checkKnown (rendered : String) :
    (checkKnown m rendered source event function).FailsAlike
      (function.isFunctionFor m >>= fun _ =>
        (Objection.functionDestination.advise m rendered
          (Declaration.withGuard source event function) : Act (List Step))) := by
  refine .after _ fun computed hcomputed => ?_
  rw [Value.eq_isFunction_of_ok hcomputed, hfunction]
  exact Objection.functionDestination.failsAlike_advise rendered _

/-- A declaration that leads to a function is refused with the advice to make it a guard. -/
theorem Declaration.LeadsToFunction.result_check {d : Declaration}
    (h : d.LeadsToFunction m source event function)
    (hevent : (event.isEvent m).result = .ok true) :
    (d.check m).result =
      (d.redirect m (function.isFunctionFor m) .functionDestination
        (.withGuard source event function)).result := by
  have hunset : function.isUnset = false := by
    cases hunset : function.isUnset with
    | false => rfl
    | true => cases (Value.isFunction_of_isUnset hunset).symm.trans hfunction
  apply Act.FailsAlike.result_eq
  cases h with
  | simple =>
      refine .after _ fun rendered _ => ?_
      simp only [checkSimple, hunset, Bool.false_eq_true, if_false, pure_bind, bind_assoc]
      have hpassed := (checkEvent_eq_ok_iff m rendered event).mpr hevent
      exact .of_ok hpassed ((failsAlike_checkKnown hfunction rendered).bind _)
  | sourceBlock hfirst =>
      refine .after _ fun rendered _ => ?_
      have hpassed := (checkEvent_eq_ok_iff m rendered event).mpr hevent
      refine .mapM (fun _ hsound => exists_checkToEntry_iff.mpr hsound) hfirst ?_
      exact .of_ok hpassed ((failsAlike_checkKnown hfunction rendered).bind _)
  | eventBlock hfirst =>
      refine .after _ fun rendered _ => ?_
      have hpassed := (checkEvent_eq_ok_iff m rendered event).mpr hevent
      refine .of_ok hpassed ?_
      refine .mapM (fun _ hsound => exists_checkFromEntry_iff.mpr hsound) hfirst ?_
      simp only [checkFromEntry, checkSimpleEntry, Value.isNull, hunset, Bool.not_true,
        Bool.false_eq_true, if_false, if_true]
      exact (failsAlike_checkKnown hfunction rendered).bind _

omit hfunction in
/-- The event of a function that is refused is there, so it is never left blank. -/
theorem Declaration.withGuard_of_isEvent (hevent : (event.isEvent m).result = .ok true) :
    Declaration.withGuard source event function =
      .eventBlock event [.declaration (.simple source (.placeholder .newState) .null)]
        function := by
  rw [withGuard, Value.isNull_of_isEvent hevent]
  rfl

theorem Value.isCallable_of_isFunction : function.isCallable = true := by
  cases function with
  | function _ _ => rfl
  | object cls shared identity fields => exact hfunction
  | _ => cases hfunction

theorem Value.isNull_of_isFunction : function.isNull = false := by
  cases function with
  | null => cases hfunction
  | _ => rfl

/-- There is nothing to object to in the event block that is advised for a function. -/
theorem Declaration.accepted_withGuard_iff (hevent : (event.isEvent m).result = .ok true) :
    (Value.declaration (.withGuard source event function)).Accepted m ↔
      (Declaration.withGuard source event function).Renders m := by
  rw [accepted_iff, withGuard_of_isEvent hevent]
  refine and_iff_left ⟨hevent, .inr (Value.isCallable_of_isFunction hfunction), ?_⟩
  rw [List.forall_mem_singleton]
  refine ⟨source, .placeholder .newState, rfl, fun hnull => ?_, rfl, rfl⟩
  cases (Value.isNull_of_isFunction hfunction).symm.trans hnull

/-- It stands for the one step along which the function decides. -/
theorem Declaration.steps_withGuard (hevent : (event.isEvent m).result = .ok true) :
    (Declaration.withGuard source event function).steps =
      [⟨source, event, .guarded function (.placeholder .newState)⟩] := by
  rw [withGuard_of_isEvent hevent]
  simp [steps, Value.fromEntrySteps, entryTarget, Value.isNull_of_isFunction hfunction]

end Function

section Nested

variable {event guard source : Value} {targets : List Value}

theorem Declaration.flattened_eq_spread (destination ownEvent : Value) :
    Declaration.flattened event guard source targets =
      .spread event guard [.declaration (.sourceBlock source destination ownEvent
        (targets.map fun target => .declaration (.toEntry target .null)))] := by
  simp [flattened, spread, Value.listed, List.flatMap_map, Value.listedFrom,
    ← List.map_eq_flatMap]

theorem mapM_namedDestination (targets : List Value) :
    (targets.map fun target => Value.declaration (.toEntry target .null)).mapM
      (Value.namedDestination m) = pure targets := by
  induction targets with
  | nil => rfl
  | cons target rest ih =>
      rw [List.map_cons, List.mapM_cons, Value.namedDestination_toEntry, ih]
      rfl

/-- A nested block is refused with the advice to spread it out. -/
theorem Value.IsNestedBlock.failsAlike_check {entry : Value} (h : entry.IsNestedBlock)
    (rendered : String) :
    (checkFromEntry m rendered event guard entry).FailsAlike
      (Objection.nestedBlock.advise m rendered (.spread event guard [entry]) :
        Act (List Step)) := by
  obtain ⟨source, destination, ownEvent, targets, rfl, _⟩ := h
  rw [← Declaration.flattened_eq_spread]
  simp only [checkFromEntry, mapM_namedDestination, pure_bind]
  exact Objection.nestedBlock.failsAlike_advise rendered _

section Head

variable (hevent : (event.isEvent m).result = .ok true)
  (hguard : guard.isNull = true ∨ guard.isCallable = true)
include hevent hguard

/-- An event block whose first entry that is not sound is a nested block is refused with the
advice to spread that block out. -/
theorem Declaration.result_check_of_nested {entries : List Value} {entry : Value}
    (h : entry.IsNestedBlock) (hfirst : IsFirst (Value.IsSoundFromEntry guard) entries entry) :
    ((Declaration.eventBlock event entries guard).check m).result =
      ((Declaration.eventBlock event entries guard).redirect m (pure ()) .nestedBlock
        (.spread event guard [entry])).result := by
  apply Act.FailsAlike.result_eq
  refine .after _ fun rendered _ => ?_
  refine .of_ok ((checkEvent_eq_ok_iff m rendered event).mpr hevent) ?_
  refine .of_ok ((checkGuard_eq_ok_iff rendered guard).mpr hguard) ?_
  refine .mapM (fun _ hsound => exists_checkFromEntry_iff.mpr hsound) hfirst ?_
  exact h.failsAlike_check rendered

/-- There is nothing to object to in the event block that is advised for a nested block. -/
theorem Declaration.accepted_spread_iff {entry : Value} (h : entry.IsNestedBlock) :
    (Value.declaration (.spread event guard [entry])).Accepted m ↔
      (Declaration.spread event guard [entry]).Renders m := by
  obtain ⟨source, destination, ownEvent, targets, rfl, htargets⟩ := h
  rw [accepted_iff, ← flattened_eq_spread]
  refine and_iff_left ⟨hevent, hguard, ?_⟩
  rw [List.forall_mem_map]
  intro target htarget
  obtain ⟨hgiven, hdestination⟩ := htargets target htarget
  exact ⟨source, target, rfl, fun _ => hgiven, hdestination⟩

end Head

/-- A sound entry lists the one transition that it is. -/
theorem Value.IsSoundFromEntry.listed_ne_nil {entry : Value}
    (h : Value.IsSoundFromEntry guard entry) : entry.listed ≠ [] := by
  obtain ⟨source, destination, rfl, _⟩ := h
  exact List.cons_ne_nil _ _

/-- Two event blocks are spread out alike when they list the same. -/
theorem Declaration.spread_eq_spread_iff {entries others : List Value} :
    Declaration.spread event guard entries = .spread event guard others ↔
      entries.flatMap Value.listed = others.flatMap Value.listed := by
  constructor
  · intro h
    injection h with _ hentries _
    refine List.map_injective_iff.mpr ?_ hentries
    rintro ⟨source, destination⟩ ⟨source', destination'⟩ heq
    injection heq with heq
    injection heq with hsource hdestination _
    rw [hsource, hdestination]
  · intro h
    rw [spread, spread, h]

/-- The advice for a nested block keeps all that an event block lists exactly if the nested block
is the first of its entries and nothing behind it lists anything. -/
theorem Declaration.spread_nested_eq_iff {before after : List Value} {entry : Value}
    (hbefore : ∀ other ∈ before, Value.IsSoundFromEntry guard other) :
    Declaration.spread event guard [entry] = .spread event guard (before ++ entry :: after) ↔
      before = [] ∧ ∀ other ∈ after, other.listed = [] := by
  rw [spread_eq_spread_iff, List.flatMap_singleton, List.flatMap_append, List.flatMap_cons]
  constructor
  · intro h
    have hlength := congrArg List.length h
    simp only [List.length_append] at hlength
    have hnone : (before.flatMap Value.listed) = [] := List.length_eq_zero_iff.mp (by omega)
    have hrest : (after.flatMap Value.listed) = [] := List.length_eq_zero_iff.mp (by omega)
    refine ⟨?_, List.flatMap_eq_nil_iff.mp hrest⟩
    refine List.eq_nil_iff_forall_not_mem.mpr fun other hother => ?_
    exact (hbefore other hother).listed_ne_nil (List.flatMap_eq_nil_iff.mp hnone other hother)
  · rintro ⟨rfl, hafter⟩
    rw [List.flatMap_eq_nil_iff.mpr hafter]
    simp

end Nested

end StateRules
