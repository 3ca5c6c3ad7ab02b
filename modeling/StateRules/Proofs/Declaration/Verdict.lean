import StateRules.Proofs.Declaration.Doubts
import StateRules.Proofs.Table.Search

/-!
What the check of a declaration asks and decides as a whole.

The check asks for the text to quote and then has its doubts, part by part. When all is
answered, it accepts the sound declarations and refuses the others. The refusal quotes the
declaration, and it is of the unsupported kind exactly where the first that is to object to is
a function as a destination or a nested block (`Value.puts_check`). In a block this is up to
the first entry that is not sound, whatever comes behind it.
-/

namespace StateRules

/-- What is asked of a declaration once its text is known. -/
def Declaration.doubts (m : Interpretation) : Declaration → List Question
  | .simple source destination event =>
      if destination.isUnset then [] else arrivalQuestions m source event destination
  | .sourceBlock source destination event entries =>
      if !destination.isUnset || !event.isNull then []
      else questionsUpTo (Value.isSoundToEntry m) (toEntryQuestions m source) entries
  | .toEntry _ _ => []
  | .eventBlock event entries guard =>
      eventQuestions m event ++
        if event.isFit m then
          if guard.isNull || guard.isCallable then
            questionsUpTo (Value.isSoundFromEntry guard) (fromEntryQuestions m event guard)
              entries
          else []
        else []

/-- Whether the first that is to object to in a declaration is a shape that is no longer
supported. -/
def Declaration.IsOutdated (m : Interpretation) : Declaration → Prop
  | .simple _ destination event =>
      (event.isEvent m).result = .ok true ∧ destination.isFunction = true
  | .sourceBlock _ destination event entries =>
      destination.isUnset = true ∧ event.isNull = true ∧
        ∃ entry, IsFirst (Value.IsSoundToEntry m) entries entry ∧ entry.IsComputedToEntry m
  | .toEntry _ _ => False
  | .eventBlock event entries guard =>
      (event.isEvent m).result = .ok true ∧ (guard.isNull = true ∨ guard.isCallable = true) ∧
        ∃ entry, IsFirst (Value.IsSoundFromEntry guard) entries entry ∧
          Value.IsOutdatedFromEntry guard entry

variable {m : Interpretation}

/-- The first entry that is not sound is the only one. -/
theorem IsFirst.eq_of_not {α : Type} {passed : α → Prop} {items : List α} {a b : α}
    (ha : IsFirst passed items a) (hb : IsFirst passed items b) (hna : ¬passed a)
    (hnb : ¬passed b) : a = b := by
  induction items with
  | nil => exact absurd ha.mem (by simp)
  | cons item rest ih =>
      rcases cons_iff.mp ha with rfl | ⟨hitem, ha⟩ <;> rcases cons_iff.mp hb with rfl | ⟨hitem', hb⟩
      · rfl
      · exact absurd hitem' hna
      · exact absurd hitem hnb
      · exact ih ha hb

/-- What the first entry that is not sound is refused for is what the block is refused for. -/
theorem Refuses.of_first {rendered : String} {sound outdated : Value → Prop}
    {entries : List Value} {entry : Value} {fault : Fault}
    (h : Refuses rendered (outdated entry) fault)
    (hsound : ∀ other, outdated other → ¬sound other)
    (hentry : IsFirst sound entries entry) (hnot : ¬sound entry) :
    Refuses rendered (∃ other, IsFirst sound entries other ∧ outdated other) fault := by
  apply h.of_iff
  constructor
  · intro houtdated
    exact ⟨entry, hentry, houtdated⟩
  · rintro ⟨other, hother, houtdated⟩
    exact hentry.eq_of_not hother hnot (hsound other houtdated) ▸ houtdated

theorem Value.not_isSoundToEntry_of_isComputed {entry : Value} (h : entry.IsComputedToEntry m) :
    ¬entry.IsSoundToEntry m := by
  obtain ⟨destination, event, rfl, _, hfunction⟩ := h
  intro hsound
  have hknown := (isSoundToEntry_toEntry_iff.mp hsound).2.known
  cases hknown.symm.trans hfunction

theorem Value.not_isSoundFromEntry_of_isOutdated {guard entry : Value}
    (h : IsOutdatedFromEntry guard entry) : ¬IsSoundFromEntry guard entry := by
  intro hsound
  obtain ⟨source, destination, rfl, _, hdestination⟩ := hsound
  have hfunction := (isOutdatedFromEntry_simple_iff.mp h).2.2
  cases hdestination.known.symm.trans hfunction

/-- What is outdated is not sound. -/
theorem Declaration.IsOutdated.not_isSound {d : Declaration} (h : d.IsOutdated m) :
    ¬d.IsSound m := by
  intro hsound
  cases d with
  | simple source destination event => cases hsound.2.2.known.symm.trans h.2
  | sourceBlock source destination event entries =>
      obtain ⟨_, _, entry, hfirst, hcomputed⟩ := h
      exact Value.not_isSoundToEntry_of_isComputed hcomputed (hsound.2.2 entry hfirst.mem)
  | toEntry destination event => exact hsound
  | eventBlock event entries guard =>
      obtain ⟨_, _, entry, hfirst, houtdated⟩ := h
      exact Value.not_isSoundFromEntry_of_isOutdated houtdated (hsound.2.2 entry hfirst.mem)

theorem puts_checkSimple (rendered : String) (source destination event : Value) :
    (checkSimple m rendered source destination event).Puts m
      ((Declaration.simple source destination event).doubts m)
      (Decided ((Declaration.simple source destination event).IsSound m)
        (Refuses rendered ((Declaration.simple source destination event).IsOutdated m))) := by
  simp only [checkSimple, Declaration.doubts, Declaration.IsSound, Declaration.IsOutdated]
  cases hunset : destination.isUnset with
  | true =>
      have hfunction := Value.isFunction_of_isUnset hunset
      apply Act.Puts.of_result
      exact Objection.noDestination.decided_refuse (by simp) (by simp [hfunction]) rendered
  | false =>
      have harrival := puts_checkArrival (m := m) rendered source event destination
        (⟨source, event, .literal destination⟩ : Step)
      simpa using harrival

theorem puts_checkSourceBlock (rendered : String) (source destination event : Value)
    (entries : List Value) :
    (do
      if !destination.isUnset || !event.isNull then Objection.ownDestination.refuse rendered
      entries.mapM (checkToEntry m rendered source)).Puts m
      ((Declaration.sourceBlock source destination event entries).doubts m)
      (Decided ((Declaration.sourceBlock source destination event entries).IsSound m)
        (Refuses rendered
          ((Declaration.sourceBlock source destination event entries).IsOutdated m))) := by
  simp only [Declaration.doubts, Declaration.IsSound, Declaration.IsOutdated]
  cases hunset : destination.isUnset with
  | false =>
      apply Act.Puts.of_result
      exact Objection.ownDestination.decided_refuse (by simp) (by simp) rendered
  | true =>
      cases hnull : event.isNull with
      | false =>
          apply Act.Puts.of_result
          exact Objection.ownDestination.decided_refuse (by simp) (by simp) rendered
      | true =>
          have hcheck (entry : Value) :
              (checkToEntry m rendered source entry).Puts m (toEntryQuestions m source entry)
                (Decided (entry.isSoundToEntry m = true)
                  (Refuses rendered (entry.IsComputedToEntry m))) := by
            rw [Value.isSoundToEntry_iff]
            exact puts_checkToEntry rendered source entry
          have hentries := puts_entries hcheck entries
          simp only [Value.isSoundToEntry_iff] at hentries
          apply hentries.imp
          intro result h
          apply h.congr (by simp)
          rintro fault _ ⟨entry, hfirst, hnot, hrefused⟩
          have hblock := hrefused.of_first
            (fun _ => Value.not_isSoundToEntry_of_isComputed) hfirst hnot
          simpa using hblock

theorem puts_checkEventBlock (rendered : String) (event guard : Value) (entries : List Value) :
    (do
      checkEvent m rendered event
      checkGuard rendered guard
      entries.mapM (checkFromEntry m rendered event guard)).Puts m
      ((Declaration.eventBlock event entries guard).doubts m)
      (Decided ((Declaration.eventBlock event entries guard).IsSound m)
        (Refuses rendered ((Declaration.eventBlock event entries guard).IsOutdated m))) := by
  simp only [Declaration.doubts, Declaration.IsSound, Declaration.IsOutdated, ← Value.isFit_iff]
  apply (puts_checkEvent rendered event).bind_decided
  intro hfit _ _
  simp only [hfit, true_and, ← Bool.or_eq_true]
  cases hguard : guard.isNull || guard.isCallable with
  | false =>
      obtain ⟨hnull, hcallable⟩ := Bool.or_eq_false_iff.mp hguard
      simp only [checkGuard, hnull, hcallable, Bool.false_eq_true, false_and]
      apply Act.Puts.of_result
      exact (Objection.guardNotCallable _).decided_refuse id id rendered
  | true =>
      have hpassed : checkGuard rendered guard = pure () := by
        cases hnull : guard.isNull <;> simp_all [checkGuard]
      have hcheck (entry : Value) :
          (checkFromEntry m rendered event guard entry).Puts m
            (fromEntryQuestions m event guard entry)
            (Decided (Value.isSoundFromEntry guard entry = true)
              (Refuses rendered (Value.IsOutdatedFromEntry guard entry))) := by
        rw [Value.isSoundFromEntry_iff]
        exact puts_checkFromEntry rendered event guard entry
      have hentries := puts_entries hcheck entries
      simp only [Value.isSoundFromEntry_iff] at hentries
      simp only [hpassed, pure_bind, true_and, if_true]
      apply hentries.imp
      intro result h
      apply h.congr Iff.rfl
      rintro fault _ ⟨entry, hfirst, hnot, hrefused⟩
      exact hrefused.of_first (fun _ => Value.not_isSoundFromEntry_of_isOutdated) hfirst hnot

/-- The text that a declaration is quoted by where it is refused: an entry that stands on its
own is not rendered, but written like any value that is no declaration. -/
def Declaration.quote (m : Interpretation) : Declaration → Act String
  | .toEntry destination event => (Value.declaration (.toEntry destination event)).write m
  | d => d.render m

/-- What is asked for the text that a declaration is quoted by. -/
def Declaration.quoteQuestions : Declaration → List Question
  | .toEntry destination event => [.written (.declaration (.toEntry destination event))]
  | d => d.textQuestions

/-- The check of a declaration puts what its text takes, then what its doubts are. It accepts
the sound and refuses the others for what they are. -/
theorem Declaration.puts_check (d : Declaration) :
    (d.check m).Puts m (d.quoteQuestions ++ d.doubts m)
      (Decided (d.IsSound m) fun fault =>
        ∃ text, (d.quote m).result = .ok text ∧ Refuses text (d.IsOutdated m) fault) := by
  have hquoted {text : String} (htext : (d.quote m).result = .ok text)
      {result : Except Fault (List Step)}
      (h : Decided (d.IsSound m) (Refuses text (d.IsOutdated m)) result) :
      Decided (d.IsSound m) (fun fault =>
        ∃ text, (d.quote m).result = .ok text ∧ Refuses text (d.IsOutdated m) fault) result :=
    h.congr Iff.rfl fun fault _ hrefused => ⟨text, htext, hrefused⟩
  cases d with
  | simple source destination event =>
      apply (puts_render m _).bind
      intro text htext
      have hsimple := puts_checkSimple (m := m) text source destination event
      exact (hsimple.bind_pure_decided fun step => [step]).imp fun _ h => hquoted htext h
  | sourceBlock source destination event entries =>
      apply (puts_render m _).bind
      intro text htext
      have hblock := puts_checkSourceBlock (m := m) text source destination event entries
      exact hblock.imp fun _ h => hquoted htext h
  | toEntry destination event =>
      have hwrite : ((Value.declaration (.toEntry destination event)).write m).Puts m
          [.written (.declaration (.toEntry destination event))] Succeeds := .of_put rfl
      apply hwrite.bind_result
      intro text htext
      apply hquoted htext
      exact (Objection.notDeclaration _).decided_refuse id id text
  | eventBlock event entries guard =>
      apply (puts_render m _).bind
      intro text htext
      have hblock := puts_checkEventBlock (m := m) text event guard entries
      exact hblock.imp fun _ h => hquoted htext h

/-- The text that a value is quoted by where it is refused. -/
def Value.quote (m : Interpretation) : Value → Act String
  | .declaration d => d.quote m
  | v => v.write m

/-- What is asked of a value that stands where a declaration should, once its text is known. -/
def Value.doubts (m : Interpretation) : Value → List Question
  | .declaration d => d.doubts m
  | v => [.kind v, .kind v]

/-- All that is asked of a value that stands where a declaration should. -/
def Value.questions (m : Interpretation) : Value → List Question
  | .declaration d => d.quoteQuestions ++ d.doubts m
  | v => [.kind v, .kind v, .written v]

/-- Whether the first that is to object to in a value is a shape that is no longer supported. -/
def Value.IsOutdated (m : Interpretation) : Value → Prop
  | .declaration d => d.IsOutdated m
  | _ => False

/-- What is no declaration is asked what it is, as often as there are kinds of declarations that
stand on their own, and is then written to be refused. -/
theorem Value.puts_notDeclaration (v : Value) :
    (do
      let _ ← v.countsAs m false
      let _ ← v.countsAs m false
      let shown ← v.write m
      (Objection.notDeclaration v.typeName).refuse shown : Act (List Step)).Puts m
      [.kind v, .kind v, .written v]
      (Decided False fun fault =>
        ∃ text, (v.write m).result = .ok text ∧ Refuses text False fault) := by
  have hkind : (v.countsAs m false).Puts m [.kind v] Succeeds := .of_put rfl
  have hwrite : (v.write m).Puts m [.written v] Succeeds := .of_put rfl
  apply hkind.bind
  intro _ _
  apply hkind.bind
  intro _ _
  apply hwrite.bind_result
  intro shown hshown
  have hrefused : Decided False (Refuses shown False)
      ((Objection.notDeclaration v.typeName).refuse shown : Act (List Step)).result :=
    Objection.decided_refuse not_false not_false _ shown
  exact hrefused.congr Iff.rfl fun fault _ h => ⟨shown, hshown, h⟩

/-- The check of a value puts its questions, and then it accepts what is sound and refuses the
rest for what it is. -/
theorem Value.puts_check (v : Value) :
    (v.check m).Puts m (v.questions m)
      (Decided (v.IsSound m) fun fault =>
        ∃ text, (v.quote m).result = .ok text ∧ Refuses text (v.IsOutdated m) fault) := by
  cases v with
  | declaration d => exact d.puts_check
  | _ => exact Value.puts_notDeclaration _

theorem Declaration.puts_quote (d : Declaration) :
    (d.quote m).Puts m d.quoteQuestions Succeeds := by
  cases d with
  | toEntry destination event => exact .of_put rfl
  | _ => exact puts_render m _

/-- Once the text of a value is known, only its doubts are left to ask. -/
theorem Value.result_askAll_questions {v : Value} {text : String}
    (h : (v.quote m).result = .ok text) :
    (askAll m (v.questions m)).result = (askAll m (v.doubts m)).result := by
  have hforeign (v : Value) (hwrite : (v.write m).result = .ok text) :
      (askAll m [.kind v, .kind v, .written v]).result =
        (askAll m [.kind v, .kind v]).result := by
    have hput : (v.write m).Puts m [.written v] Succeeds := .of_put rfl
    have hsplit := askAll_append m [.kind v, .kind v] [.written v]
    rw [List.cons_append, List.cons_append, List.nil_append] at hsplit
    rw [hsplit]
    cases hkind : (askAll m [.kind v, .kind v]).result with
    | error fault => rw [Act.bind_of_error hkind]
    | ok _ => rw [Act.result_bind_of_ok hkind, hput.answered hwrite]
  cases v with
  | declaration d =>
      rw [questions, doubts, askAll_append]
      exact Act.result_bind_of_ok (d.puts_quote.answered h) _
  | _ => exact hforeign _ h

end StateRules
