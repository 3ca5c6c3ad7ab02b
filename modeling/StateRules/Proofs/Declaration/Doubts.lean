import StateRules.Proofs.Declaration.Questions
import StateRules.Proofs.Table.Search

/-!
What the check of a declaration asks once it has the text, and what it then decides.

The check looks for the first objection: it goes through the parts in order and through the
entries of a block up to the first that is not sound. On the way it asks each event whether it
is one. Where it objects, it may ask for more: a bad event is written, a function that stands as
a destination is asked what it gives itself out to be, and a shape that is no longer supported
is answered with the text of another declaration, which takes all that a text takes.

When all this is answered, the check accepts the sound declarations and refuses the others.
The refusal quotes the declaration, and it is of the unsupported kind exactly where the first
objection is to a function or to a nested block (`Value.puts_check`).
-/

namespace StateRules

/-- Whether a value can be an event, as far as it answers. -/
def Value.isFit (m : Interpretation) (event : Value) : Bool := (event.isEvent m).resultD false

/-- `Value.IsDestination`, as a check. -/
def Value.isDestination (destination : Value) : Bool :=
  !destination.isFunction && !destination.isAny

/-- `Value.IsSoundToEntry`, as a check. -/
def Value.isSoundToEntry (m : Interpretation) : Value → Bool
  | .declaration (.toEntry destination event) => event.isFit m && destination.isDestination
  | _ => false

/-- `Value.IsSoundFromEntry`, as a check. -/
def Value.isSoundFromEntry (guard : Value) : Value → Bool
  | .declaration (.simple _ destination ownEvent) =>
      ownEvent.isNull && ((!guard.isNull || !destination.isUnset) && destination.isDestination)
  | _ => false

/-- What is asked of an event. -/
def eventQuestions (m : Interpretation) (event : Value) : List Question :=
  [.event event] ++ if event.isFit m then [] else [.written event]

/-- What is asked of a destination to tell whether it is a function. -/
def kindQuestions (destination : Value) : List Question :=
  if destination.isFunction then [.kind destination, .kind destination] else []

/-- What is asked of a destination, which may be a function that has to be the guard of an event
block instead. -/
def destinationQuestions (source event destination : Value) : List Question :=
  kindQuestions destination ++
    if destination.isFunction then
      (Declaration.withGuard source event destination).textQuestions
    else []

/-- What is asked of an event and a destination. -/
def arrivalQuestions (m : Interpretation) (source event destination : Value) : List Question :=
  eventQuestions m event ++
    if event.isFit m then destinationQuestions source event destination else []

/-- What is asked of an entry of a source block. -/
def toEntryQuestions (m : Interpretation) (source : Value) : Value → List Question
  | .declaration (.toEntry destination event) => arrivalQuestions m source event destination
  | other => [.kind other]

/-- What is asked of an entry of an event block. A nested block is to be replaced by entries
with the destinations that its own entries name. -/
def fromEntryQuestions (m : Interpretation) (event guard : Value) : Value → List Question
  | .declaration (.simple source destination ownEvent) =>
      if !ownEvent.isNull then []
      else if !guard.isNull then kindQuestions destination
      else if destination.isUnset then []
      else destinationQuestions source event destination
  | .declaration (.sourceBlock source _ _ entries) =>
      entries.map .destination ++
        (Declaration.flattened event guard source (entries.map fun entry =>
          (entry.namedDestination m).resultD (.placeholder .newState))).textQuestions
  | other => [.kind other]

/-- What is asked of entries, up to the first that is not sound. -/
def questionsUpTo (sound : Value → Bool) (questions : Value → List Question) :
    List Value → List Question
  | [] => []
  | entry :: rest =>
      questions entry ++ if sound entry then questionsUpTo sound questions rest else []

/-- Whether what is to object to in an entry of a source block is that it leads to a function. -/
def Value.IsComputedToEntry (m : Interpretation) (entry : Value) : Prop :=
  ∃ destination event, entry = .declaration (.toEntry destination event) ∧
    (event.isEvent m).result = .ok true ∧ destination.isFunction = true

/-- Whether what is to object to in an entry of an event block is that it leads to a function
where there is no guard, or that it is a block. -/
def Value.IsOutdatedFromEntry (guard entry : Value) : Prop :=
  (∃ source destination, entry = .declaration (.simple source destination .null) ∧
    guard.isNull = true ∧ destination.isFunction = true) ∨
  ∃ source destination event entries,
    entry = .declaration (.sourceBlock source destination event entries)

/-- A refusal of a declaration with a certain text, which is of the unsupported kind or not. -/
structure Refuses (rendered : String) (outdated : Prop) (fault : Fault) : Prop where
  unsupported : outdated →
    ∃ reason suggestion, fault = .declaration (.unsupported reason rendered suggestion)
  invalid : ¬outdated → ∃ reason, fault = .declaration (.invalid reason (some rendered))

variable {m : Interpretation}

theorem Value.isFit_iff {event : Value} :
    event.isFit m = true ↔ (event.isEvent m).result = .ok true := by
  unfold isFit Act.resultD
  cases (event.isEvent m).result <;> simp

theorem Value.isDestination_iff {destination : Value} :
    destination.isDestination = true ↔ destination.IsDestination := by
  simp only [isDestination, Bool.and_eq_true, Bool.not_eq_true']
  exact ⟨fun h => ⟨h.1, h.2⟩, fun h => ⟨h.known, h.proper⟩⟩

theorem Value.isFunction_of_isUnset {v : Value} (h : v.isUnset = true) : v.isFunction = false := by
  cases v with
  | unset => rfl
  | _ => cases h

theorem isSoundFromEntry_simple_iff {guard source destination ownEvent : Value} :
    Value.IsSoundFromEntry guard (.declaration (.simple source destination ownEvent)) ↔
      ownEvent.isNull = true ∧ (guard.isNull = true → destination.isUnset = false) ∧
        destination.IsDestination := by
  rw [Value.isNull_iff]
  constructor
  · rintro ⟨_, _, heq, h⟩
    cases heq
    exact ⟨rfl, h⟩
  · rintro ⟨rfl, h⟩
    exact ⟨source, destination, rfl, h⟩

theorem isOutdatedFromEntry_simple_iff {guard source destination ownEvent : Value} :
    Value.IsOutdatedFromEntry guard (.declaration (.simple source destination ownEvent)) ↔
      ownEvent.isNull = true ∧ guard.isNull = true ∧ destination.isFunction = true := by
  rw [Value.isNull_iff]
  constructor
  · rintro (⟨_, _, heq, h⟩ | ⟨_, _, _, _, heq⟩)
    · cases heq
      exact ⟨rfl, h⟩
    · cases heq
  · rintro ⟨rfl, h⟩
    exact .inl ⟨source, destination, rfl, h⟩

theorem isSoundToEntry_toEntry_iff {destination event : Value} :
    (Value.declaration (.toEntry destination event)).IsSoundToEntry m ↔
      (event.isEvent m).result = .ok true ∧ destination.IsDestination := by
  constructor
  · rintro ⟨_, _, heq, h⟩
    cases heq
    exact h
  · intro h
    exact ⟨destination, event, rfl, h⟩

theorem isComputedToEntry_toEntry_iff {destination event : Value} :
    (Value.declaration (.toEntry destination event)).IsComputedToEntry m ↔
      (event.isEvent m).result = .ok true ∧ destination.isFunction = true := by
  constructor
  · rintro ⟨_, _, heq, h⟩
    cases heq
    exact h
  · intro h
    exact ⟨destination, event, rfl, h⟩

theorem Value.isSoundToEntry_iff {entry : Value} :
    entry.isSoundToEntry m = true ↔ entry.IsSoundToEntry m := by
  unfold isSoundToEntry
  split
  · rw [Bool.and_eq_true, isFit_iff, isDestination_iff, isSoundToEntry_toEntry_iff]
  · next hother =>
      refine iff_of_false (by decide) ?_
      rintro ⟨destination, event, rfl, _⟩
      exact hother destination event rfl

theorem Value.isSoundFromEntry_iff {guard entry : Value} :
    isSoundFromEntry guard entry = true ↔ IsSoundFromEntry guard entry := by
  unfold isSoundFromEntry
  split
  · next source destination ownEvent =>
      have hgiven : (!guard.isNull || !destination.isUnset) = true ↔
          (guard.isNull = true → destination.isUnset = false) := by
        cases guard.isNull <;> simp
      rw [Bool.and_eq_true, Bool.and_eq_true, isDestination_iff, hgiven,
        isSoundFromEntry_simple_iff]
  · next hother =>
      refine iff_of_false (by decide) ?_
      rintro ⟨source, destination, rfl, _⟩
      exact hother source destination .null rfl

theorem Refuses.of_iff {rendered : String} {outdated outdated' : Prop} {fault : Fault}
    (h : Refuses rendered outdated fault) (hiff : outdated ↔ outdated') :
    Refuses rendered outdated' fault :=
  propext hiff ▸ h

theorem Refuses.of_invalid {rendered : String} {outdated : Prop} (h : ¬outdated)
    (objection : Objection) :
    Refuses rendered outdated (.declaration (.invalid objection.reason (some rendered))) where
  unsupported := fun houtdated => absurd houtdated h
  invalid := fun _ => ⟨objection.reason, rfl⟩

/-- An objection that needs no more questions. -/
theorem Objection.decided_refuse {α : Type} {sound outdated : Prop} (hsound : ¬sound)
    (houtdated : ¬outdated) (objection : Objection) (rendered : String) :
    Decided sound (Refuses rendered outdated)
      (objection.refuse rendered : Act α).result where
  accepts := fun h => absurd h hsound
  refuses := fun _ => ⟨_, rfl, .of_invalid houtdated objection⟩

/-- An objection with a piece of advice, which takes what the text of the advice takes. -/
theorem Objection.puts_advise {α : Type} {sound outdated : Prop} (hsound : ¬sound)
    (houtdated : outdated) (objection : Objection) (rendered : String)
    (replacement : Declaration) :
    (objection.advise m rendered replacement : Act α).Puts m replacement.textQuestions
      (Decided sound (Refuses rendered outdated)) := by
  apply (replacement.puts_render m).bind_result
  intro suggestion _
  refine ⟨fun h => absurd h hsound, fun _ => ⟨_, rfl, ?_⟩⟩
  exact ⟨fun _ => ⟨_, suggestion, rfl⟩, fun h => absurd houtdated h⟩

/-- An objection to an event comes before any that is to an outdated shape. -/
theorem puts_checkEvent {behind : Prop} (rendered : String) (event : Value) :
    (checkEvent m rendered event).Puts m (eventQuestions m event)
      (Decided (event.isFit m = true) (Refuses rendered (event.isFit m = true ∧ behind))) := by
  have hask : (event.isEvent m).Puts m [.event event] Succeeds := .of_put rfl
  apply hask.bind
  intro fit hfit
  have hknown : event.isFit m = fit := Act.resultD_of_ok hfit false
  rw [hknown]
  cases fit with
  | true => exact .of_result ⟨fun _ => ⟨(), rfl⟩, fun h => absurd rfl h⟩
  | false =>
      have hwrite : (event.write m).Puts m [.written event] Succeeds := .of_put rfl
      apply hwrite.bind_result
      intro shown _
      exact (Objection.badEvent shown).decided_refuse (by decide) (by simp) rendered

theorem Value.puts_isFunctionFor (destination : Value) :
    (destination.isFunctionFor m).Puts m (kindQuestions destination)
      fun result => result = .ok destination.isFunction := by
  unfold isFunctionFor kindQuestions
  have hkind : (destination.countsAs m false).Puts m [.kind destination] Succeeds := .of_put rfl
  cases destination.isFunction with
  | true =>
      apply hkind.bind
      intro _ _
      apply hkind.bind_result
      intro _ _
      rfl
  | false => exact .of_result rfl

/-- What an object answers when it is asked what it is comes to what it is. -/
theorem Value.eq_isFunction_of_ok {destination : Value} {computed : Bool}
    (h : (destination.isFunctionFor m).result = .ok computed) :
    computed = destination.isFunction := by
  have hask := destination.puts_isFunctionFor (m := m)
  have hresult := hask.comes (hask.answered h)
  exact Except.ok.inj (h.symm.trans hresult)

theorem puts_checkKnown (rendered : String) (source event destination : Value) :
    (checkKnown m rendered source event destination).Puts m
      (destinationQuestions source event destination)
      (Decided ((!destination.isFunction) = true)
        (Refuses rendered (destination.isFunction = true))) := by
  have hask := destination.puts_isFunctionFor (m := m)
  apply (hask.imp fun _ h => ⟨_, h⟩).bind
  intro computed hcomputed
  obtain rfl := Value.eq_isFunction_of_ok hcomputed
  cases hfunction : destination.isFunction with
  | true => exact Objection.functionDestination.puts_advise (by decide) rfl rendered _
  | false => exact .of_result ⟨fun _ => ⟨(), rfl⟩, fun h => absurd rfl h⟩

theorem decided_checkState {α : Type} {outdated : Prop} (houtdated : ¬outdated)
    (rendered : String) (destination : Value) (a : α) :
    Decided ((!destination.isAny) = true) (Refuses rendered outdated)
      (checkState rendered destination >>= fun _ => pure a).result := by
  cases h : destination.isAny with
  | true =>
      simp only [checkState, h, if_true]
      exact Objection.anyDestination.decided_refuse (by decide) houtdated rendered
  | false =>
      simp only [checkState, h]
      exact ⟨fun _ => ⟨a, rfl⟩, fun h => absurd rfl h⟩

theorem Decided.congr {α : Type} {sound sound' : Prop} {R R' : Fault → Prop}
    {result : Except Fault α} (h : Decided sound R result) (hsound : sound ↔ sound')
    (hR : ∀ fault, ¬sound → R fault → R' fault) : Decided sound' R' result where
  accepts := fun hs => h.accepts (hsound.mpr hs)
  refuses := fun hs => by
    have hnot := mt hsound.mp hs
    obtain ⟨fault, hfault, hrefused⟩ := h.refuses hnot
    exact ⟨fault, hfault, hR fault hnot hrefused⟩

/-- A destination on its own: whether it is a state that is known in advance. -/
theorem puts_checkDestination {α : Type} (rendered : String)
    (source event destination : Value) (a : α) :
    (checkKnown m rendered source event destination >>= fun _ =>
        checkState rendered destination >>= fun _ => pure a).Puts m
      (destinationQuestions source event destination)
      (Decided destination.IsDestination
        (Refuses rendered (destination.isFunction = true))) := by
  have hknown := puts_checkKnown (m := m) rendered source event destination
  have hboth := hknown.bind_decided_result fun hfunction _ _ =>
    decided_checkState (by simpa using hfunction) rendered destination a
  apply hboth.imp
  intro result h
  apply h.congr _ fun _ _ h => h
  rw [← Value.isDestination_iff, Value.isDestination, Bool.and_eq_true]

/-- An event with a destination. -/
theorem puts_checkArrival {α : Type} (rendered : String) (source event destination : Value)
    (a : α) :
    (checkEvent m rendered event >>= fun _ =>
        checkKnown m rendered source event destination >>= fun _ =>
          checkState rendered destination >>= fun _ => pure a).Puts m
      (arrivalQuestions m source event destination)
      (Decided ((event.isEvent m).result = .ok true ∧ destination.IsDestination)
        (Refuses rendered
          ((event.isEvent m).result = .ok true ∧ destination.isFunction = true))) := by
  rw [← Value.isFit_iff]
  apply (puts_checkEvent rendered event).bind_decided
  intro hfit _ _
  have hdestination := puts_checkDestination (m := m) rendered source event destination a
  simpa [hfit] using hdestination

/-- An entry that does not belong in a block is asked what it is before it is objected to. -/
theorem Value.puts_foreign {α : Type} {sound outdated : Prop} (hsound : ¬sound)
    (houtdated : ¬outdated) (objection : Objection) (rendered : String) (v : Value) :
    (v.countsAs m false >>= fun _ => (objection.refuse rendered : Act α)).Puts m [.kind v]
      (Decided sound (Refuses rendered outdated)) := by
  have hkind : (v.countsAs m false).Puts m [.kind v] Succeeds := .of_put rfl
  apply hkind.bind_result
  intro _ _
  exact objection.decided_refuse hsound houtdated rendered

theorem puts_checkToEntry (rendered : String) (source entry : Value) :
    (checkToEntry m rendered source entry).Puts m (toEntryQuestions m source entry)
      (Decided (entry.IsSoundToEntry m) (Refuses rendered (entry.IsComputedToEntry m))) := by
  unfold checkToEntry
  split
  · next destination event =>
      rw [isSoundToEntry_toEntry_iff, isComputedToEntry_toEntry_iff]
      exact puts_checkArrival rendered source event destination _
  · next hother =>
      have hquestions : toEntryQuestions m source entry = [.kind entry] := by
        unfold toEntryQuestions
        split
        · exact absurd rfl (hother _ _)
        · rfl
      rw [hquestions]
      apply entry.puts_foreign
      · rintro ⟨destination, event, rfl, _⟩
        exact hother destination event rfl
      · rintro ⟨destination, event, rfl, _⟩
        exact hother destination event rfl

theorem puts_checkSimpleEntry (rendered : String)
    (event guard source destination ownEvent : Value) :
    (checkSimpleEntry m rendered event guard source destination ownEvent).Puts m
      (fromEntryQuestions m event guard (.declaration (.simple source destination ownEvent)))
      (Decided
        (Value.IsSoundFromEntry guard (.declaration (.simple source destination ownEvent)))
        (Refuses rendered
          (Value.IsOutdatedFromEntry guard
            (.declaration (.simple source destination ownEvent))))) := by
  rw [isSoundFromEntry_simple_iff, isOutdatedFromEntry_simple_iff]
  simp only [checkSimpleEntry, fromEntryQuestions]
  cases hown : ownEvent.isNull with
  | false =>
      apply Act.Puts.of_result
      exact Objection.entryEvent.decided_refuse (by simp) (by simp) rendered
  | true =>
      cases hguard : guard.isNull with
      | true =>
          cases hunset : destination.isUnset with
          | true =>
              have hfunction := Value.isFunction_of_isUnset hunset
              apply Act.Puts.of_result
              exact Objection.entryNoDestination.decided_refuse (by simp) (by simp [hfunction])
                rendered
          | false =>
              have hdestination := puts_checkDestination (m := m) rendered source event
                destination (⟨source, event, .literal destination⟩ : Step)
              simpa using hdestination
      | false =>
          have hask := destination.puts_isFunctionFor (m := m)
          apply (hask.imp fun _ h => ⟨_, h⟩).bind_result
          intro computed hcomputed
          obtain rfl := Value.eq_isFunction_of_ok hcomputed
          cases hfunction : destination.isFunction with
          | true =>
              have hdestination : ¬destination.IsDestination := by
                intro h
                cases h.known.symm.trans hfunction
              exact Objection.guardedFunction.decided_refuse (by simp [hdestination]) (by simp)
                rendered
          | false =>
              have hproper : (!destination.isAny) = true ↔ destination.IsDestination := by
                simp [← Value.isDestination_iff, Value.isDestination, hfunction]
              refine (decided_checkState ?_ rendered destination _).congr ?_ fun _ _ h => h
              · simp
              · simpa using hproper

/-- What a nested block is to be replaced by is known once each of its entries has told the
destination that it names. -/
theorem destinations_of_ok {entries destinations : List Value}
    (h : (entries.mapM (Value.namedDestination m)).result = .ok destinations) :
    entries.map (fun entry =>
      (entry.namedDestination m).resultD (.placeholder .newState)) = destinations := by
  rw [Act.result_mapM_eq_ok_iff] at h
  induction h with
  | nil => rfl
  | cons hentry _ ih => rw [List.map_cons, Act.resultD_of_ok hentry, ih]

theorem puts_destinations (entries : List Value) :
    (entries.mapM (Value.namedDestination m)).Puts m (entries.map .destination) Succeeds := by
  induction entries with
  | nil => exact .of_result ⟨[], rfl⟩
  | cons entry rest ih =>
      have hentry : (entry.namedDestination m).Puts m [.destination entry] Succeeds := .of_put rfl
      rw [List.mapM_cons]
      exact hentry.bind fun destination _ => ih.bind_pure _

theorem puts_checkFromEntry (rendered : String) (event guard entry : Value) :
    (checkFromEntry m rendered event guard entry).Puts m (fromEntryQuestions m event guard entry)
      (Decided (Value.IsSoundFromEntry guard entry)
        (Refuses rendered (Value.IsOutdatedFromEntry guard entry))) := by
  unfold checkFromEntry
  split
  · next source destination ownEvent =>
      exact puts_checkSimpleEntry rendered event guard source destination ownEvent
  · next source destination ownEvent entries =>
      apply (puts_destinations entries).bind
      intro destinations hdestinations
      rw [destinations_of_ok hdestinations]
      apply Objection.nestedBlock.puts_advise
      · rintro ⟨_, _, heq, _⟩
        cases heq
      · exact .inr ⟨_, _, _, _, rfl⟩
  · next hsimple hblock =>
      have hquestions : fromEntryQuestions m event guard entry = [.kind entry] := by
        unfold fromEntryQuestions
        split
        · exact absurd rfl (hsimple _ _ _)
        · exact absurd rfl (hblock _ _ _ _)
        · rfl
      rw [hquestions]
      apply entry.puts_foreign
      · rintro ⟨source, destination, rfl, _⟩
        exact hsimple source destination .null rfl
      · rintro (⟨source, destination, rfl, _⟩ | ⟨source, destination, ownEvent, entries, rfl⟩)
        · exact hsimple source destination .null rfl
        · exact hblock source destination ownEvent entries rfl

/-- Of some entries that are checked in turn, the first that is not sound decides. -/
theorem puts_entries {check : Value → Act Step} {questions : Value → List Question}
    {sound : Value → Bool} {R : Value → Fault → Prop}
    (h : ∀ entry, (check entry).Puts m (questions entry) (Decided (sound entry = true) (R entry)))
    (entries : List Value) :
    (entries.mapM check).Puts m (questionsUpTo sound questions entries)
      (Decided (∀ entry ∈ entries, sound entry = true) fun fault =>
        ∃ entry, IsFirst (fun other => sound other = true) entries entry ∧
          ¬sound entry = true ∧ R entry fault) := by
  induction entries with
  | nil => exact .of_result ⟨fun _ => ⟨[], rfl⟩, fun hnot => absurd (by simp) hnot⟩
  | cons entry rest ih =>
      have hentry : (check entry).Puts m (questions entry)
          (Decided (sound entry = true) fun fault =>
            ∃ other, IsFirst (fun other => sound other = true) (entry :: rest) other ∧
              ¬sound other = true ∧ R other fault) := by
        apply (h entry).imp
        intro result hdecided
        apply hdecided.congr Iff.rfl
        intro fault hnot hR
        exact ⟨entry, IsFirst.cons_iff.mpr (.inl rfl), hnot, hR⟩
      -- A sound entry hands over to the rest, whose first that is not sound is that of the block.
      rw [List.mapM_cons, List.forall_mem_cons]
      apply hentry.bind_decided
      intro hsound step _
      apply Act.Puts.bind_pure_decided
      apply ih.imp
      intro result hdecided
      apply hdecided.congr Iff.rfl
      rintro fault _ ⟨other, hfirst, hnot, hR⟩
      exact ⟨other, IsFirst.cons_iff.mpr (.inr ⟨hsound, hfirst⟩), hnot, hR⟩

end StateRules
