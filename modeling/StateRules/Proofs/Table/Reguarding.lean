import StateRules.Build
import StateRules.Proofs.Declaration.Reading

/-!
Other guards in the same places.

Declarations are built into a table without any of their guards being called. What building does
look at is whether there is a guard, whether it can be called, and what it goes by
(`Value.LooksLike`). So the declarations with other guards that look the same lead to the table with
those guards in the same places, by the same records and calls or to the same fault
(`build_reguard`), whatever the guards do when they are called.

`reguard` puts the guards that a function gives for the old ones into each layer that declarations
go through on their way to a table, and each layer has a lemma that it makes no difference there.
-/

namespace StateRules

/-- Whether two values cannot be told apart as guards without calling them. -/
structure Value.LooksLike (m : Interpretation) (guard guard' : Value) : Prop where
  isNull : guard'.isNull = guard.isNull
  isCallable : guard'.isCallable = guard.isCallable
  typeName : guard'.typeName = guard.typeName
  label : guard'.writeLabel m = guard.writeLabel m

section Layers

variable (f : Value → Value)

/-- A target with another guard, if it has one. -/
def Target.reguard : Target → Target
  | literal state => literal state
  | guarded guard declared => guarded (f guard) declared

def Step.reguard (step : Step) : Step := {step with target := step.target.reguard f}

def Rule.reguard (rule : Rule) : Rule := {rule with target := rule.target.reguard f}

def Table.reguard (table : Table) : Table := {table with rules := table.rules.map (Rule.reguard f)}

def Extension.reguard (extension : Extension) : Extension :=
  {extension with table := extension.table.reguard f}

mutual

/-- A declaration with other guards, also in the declarations that it has for entries. -/
def Declaration.reguard (d : Declaration) : Declaration :=
  match d with
  | .simple source destination event => .simple source destination event
  | .sourceBlock source destination event entries =>
      .sourceBlock source destination event (reguardAll entries)
  | .toEntry destination event => .toEntry destination event
  | .eventBlock event entries guard => .eventBlock event (reguardAll entries) (f guard)
termination_by structural d

def Value.reguard (v : Value) : Value :=
  match v with
  | .declaration d => .declaration d.reguard
  | v => v
termination_by structural v

def reguardAll (entries : List Value) : List Value :=
  match entries with
  | [] => []
  | entry :: rest => entry.reguard :: reguardAll rest
termination_by structural entries

end

end Layers

variable {m : Interpretation} {f : Value → Value}

theorem reguardAll_eq_map (entries : List Value) :
    reguardAll f entries = entries.map (Value.reguard f) := by
  induction entries with
  | nil => rfl
  | cons entry rest ih => rw [reguardAll, ih, List.map_cons]

/-- A value that is no declaration has no guard. -/
theorem Value.reguard_of_ne {v : Value} (h : ∀ d, v ≠ .declaration d) : v.reguard f = v := by
  cases v with
  | declaration d => exact absurd rfl (h d)
  | _ => rfl

section Rendering

variable (hf : ∀ guard, Value.LooksLike m guard (f guard))

include hf in
theorem writeMention_guard (guard : Value) :
    (f guard).writeMention m (!(f guard).isNull) = guard.writeMention m (!guard.isNull) := by
  rw [(hf guard).isNull, Value.writeMention, Value.writeMention, (hf guard).label]

mutual

theorem Declaration.render_reguard (hf : ∀ guard, Value.LooksLike m guard (f guard))
    (d : Declaration) : (d.reguard f).render m = d.render m := by
  match d with
  | .simple source destination event => rfl
  | .sourceBlock source destination event entries =>
      simp only [Declaration.reguard, Declaration.render, renderSourceEntries_reguard hf entries]
  | .toEntry destination event => rfl
  | .eventBlock event entries guard =>
      simp only [Declaration.reguard, Declaration.render, renderEventEntries_reguard hf _ entries,
        writeMention_guard hf guard]

theorem Value.renderEntry_reguard (hf : ∀ guard, Value.LooksLike m guard (f guard)) (v : Value) :
    (v.reguard f).renderEntry m = v.renderEntry m := by
  cases v with
  | declaration d =>
      simp only [Value.reguard, Value.renderEntry, Declaration.render_reguard hf d]
  | _ => rfl

theorem renderSourceEntries_reguard (hf : ∀ guard, Value.LooksLike m guard (f guard))
    (entries : List Value) :
    renderSourceEntries m (reguardAll f entries) = renderSourceEntries m entries := by
  match entries with
  | [] => rfl
  | entry :: rest =>
      simp only [reguardAll, renderSourceEntries, Value.renderEntry_reguard hf entry,
        renderSourceEntries_reguard hf rest]

theorem renderEventEntries_reguard (hf : ∀ guard, Value.LooksLike m guard (f guard))
    (lines : List String) (entries : List Value) :
    renderEventEntries m lines (reguardAll f entries) = renderEventEntries m lines entries := by
  match entries with
  | [] => rfl
  | entry :: rest =>
      simp only [reguardAll, renderEventEntries, Value.renderEntry_reguard hf entry,
        renderEventEntries_reguard hf _ rest]

end

end Rendering

section Checking

theorem mapM_reguardAll {check check' : Value → Act Step}
    (h : ∀ entry, check' (entry.reguard f) = Step.reguard f <$> check entry)
    (entries : List Value) :
    (reguardAll f entries).mapM check' = List.map (Step.reguard f) <$> entries.mapM check := by
  induction entries with
  | nil => rfl
  | cons entry rest ih =>
      simp only [reguardAll, List.mapM_cons, h, ih, map_eq_pure_bind, bind_assoc, pure_bind,
        List.map_cons]

theorem checkToEntry_reguard (rendered : String) (source entry : Value) :
    checkToEntry m rendered source (entry.reguard f) =
      Step.reguard f <$> checkToEntry m rendered source entry := by
  have hliteral : Step.reguard f <$> checkToEntry m rendered source entry =
      checkToEntry m rendered source entry := by
    refine Act.map_eq_self fun step hstep => ?_
    obtain ⟨destination, event, _, _, _, rfl⟩ :=
      (checkToEntry_eq_ok_iff m rendered source entry step).mp hstep
    rfl
  rw [hliteral]
  cases entry with
  | declaration d => cases d <;> rfl
  | _ => rfl

/-- Whatever its guard is, an entry is asked for its destination alone. -/
theorem namedDestination_reguard (entry : Value) :
    (entry.reguard f).namedDestination m = entry.namedDestination m := by
  cases entry with
  | declaration d => cases d <;> rfl
  | _ => rfl

theorem mapM_namedDestination_reguardAll (entries : List Value) :
    (reguardAll f entries).mapM (Value.namedDestination m) =
      entries.mapM (Value.namedDestination m) := by
  induction entries with
  | nil => rfl
  | cons entry rest ih =>
      rw [reguardAll, List.mapM_cons, List.mapM_cons, namedDestination_reguard, ih]

variable (hf : ∀ guard, Value.LooksLike m guard (f guard))
include hf

/-- What is advised instead of a nested block reads the same with another guard. -/
theorem render_flattened_guard (event guard source : Value) (destinations : List Value) :
    (Declaration.flattened event (f guard) source destinations).render m =
      (Declaration.flattened event guard source destinations).render m := by
  have hrender := Declaration.render_reguard hf (.flattened event guard source destinations)
  rw [Declaration.flattened, Declaration.reguard, reguardAll_eq_map, List.map_map] at hrender
  exact hrender

theorem checkSimpleEntry_reguard (rendered : String)
    (event guard source destination ownEvent : Value) :
    checkSimpleEntry m rendered event (f guard) source destination ownEvent =
      Step.reguard f <$> checkSimpleEntry m rendered event guard source destination ownEvent := by
  unfold checkSimpleEntry
  rw [(hf guard).isNull]
  cases ownEvent.isNull <;> cases guard.isNull <;> cases destination.isUnset <;>
    simp [apply_ite, Step.reguard, Target.reguard]

theorem checkFromEntry_reguard (rendered : String) (event guard entry : Value) :
    checkFromEntry m rendered event (f guard) (entry.reguard f) =
      Step.reguard f <$> checkFromEntry m rendered event guard entry := by
  -- Only a simple entry gets through, and only its step has the guard.
  by_cases hsimple : ∃ source destination ownEvent,
      entry = .declaration (.simple source destination ownEvent)
  · obtain ⟨source, destination, ownEvent, rfl⟩ := hsimple
    exact checkSimpleEntry_reguard hf rendered event guard source destination ownEvent
  · have hrefused : Step.reguard f <$> checkFromEntry m rendered event guard entry =
        checkFromEntry m rendered event guard entry := by
      refine Act.map_eq_self fun step hstep => ?_
      obtain ⟨source, destination, ownEvent, hentry, _⟩ :=
        (checkFromEntry_eq_ok_iff m rendered event guard entry step).mp hstep
      exact absurd ⟨source, destination, ownEvent, hentry⟩ hsimple
    rw [hrefused]
    cases entry with
    | declaration d =>
        cases d with
        | simple source destination ownEvent =>
            exact absurd ⟨source, destination, ownEvent, rfl⟩ hsimple
        | sourceBlock source _ _ entries =>
            simp only [Value.reguard, Declaration.reguard, checkFromEntry,
              mapM_namedDestination_reguardAll, Objection.advise, render_flattened_guard hf]
        | _ => rfl
    | _ => rfl

theorem checkGuard_reguard (rendered : String) (guard : Value) :
    checkGuard rendered (f guard) = checkGuard rendered guard := by
  rw [checkGuard, checkGuard, (hf guard).isNull, (hf guard).isCallable, (hf guard).typeName]

theorem Declaration.check_reguard (d : Declaration) :
    (d.reguard f).check m = List.map (Step.reguard f) <$> d.check m := by
  cases d with
  | simple source destination event =>
      refine (Act.map_eq_self fun steps hsteps => ?_).symm
      obtain ⟨_, _, _, _, rfl⟩ :=
        (check_simple_eq_ok_iff m source destination event steps).mp hsteps
      rfl
  | sourceBlock source destination event entries =>
      have hrender := render_reguard hf (.sourceBlock source destination event entries)
      rw [reguard] at hrender ⊢
      simp only [check, hrender, map_bind, mapM_reguardAll (checkToEntry_reguard _ source),
        apply_ite]
  | toEntry destination event =>
      simp only [reguard, check, map_bind]
      rfl
  | eventBlock event entries guard =>
      have hrender := render_reguard hf (.eventBlock event entries guard)
      rw [reguard] at hrender ⊢
      simp only [check, hrender, map_bind, checkGuard_reguard hf,
        mapM_reguardAll (checkFromEntry_reguard hf _ event guard)]

theorem Value.check_reguard (v : Value) :
    (v.reguard f).check m = List.map (Step.reguard f) <$> v.check m := by
  by_cases h : ∃ d, v = .declaration d
  · obtain ⟨d, rfl⟩ := h
    exact Declaration.check_reguard hf d
  · rw [Value.reguard_of_ne fun d hd => h ⟨d, hd⟩]
    refine (Act.map_eq_self fun steps hsteps => ?_).symm
    obtain ⟨d, hd, _⟩ := declaration_of_check hsteps
    exact absurd ⟨d, hd⟩ h

end Checking

@[simp]
theorem Rule.event_reguard (rule : Rule) : (rule.reguard f).event = rule.event := rfl

@[simp]
theorem Rule.states_reguard (rule : Rule) : (rule.reguard f).states = rule.states := by
  obtain ⟨source, event, target⟩ := rule
  cases target <;> rfl

theorem Step.rules_reguard (step : Step) (known : List Value) :
    (step.reguard f).rules known = (step.rules known).map (Rule.reguard f) := by
  rw [rules, rules, apply_ite (List.map (Rule.reguard f)), List.map_map]
  rfl

/-- What enters the catalogs with a rule has nothing to do with its guard. -/
theorem Table.enter_reguard (table : Table) (rule : Rule) :
    (table.reguard f).enter m (rule.reguard f) =
      ((table.enter m rule).1.reguard f, (table.enter m rule).2) := by
  cases h : (enterAll m table.states rule.states).2.result <;> simp [enter, reguard, h]

theorem Extension.reguard_andThen (first : Extension) {next next' : Table → Extension}
    (h : ∀ table, next' (table.reguard f) = (next table).reguard f) :
    (first.reguard f).andThen next' = (first.andThen next).reguard f := by
  cases hfirst : first.act.result with
  | error fault => rw [andThen_of_error hfirst, andThen_of_error (by exact hfirst)]
  | ok _ =>
      rw [andThen_of_ok hfirst, andThen_of_ok (by exact hfirst)]
      simp only [reguard, h]

section Taking

variable (hf : ∀ guard, Value.LooksLike m guard (f guard))
include hf

theorem Rule.writeRecord_reguard (rule : Rule) :
    (rule.reguard f).writeRecord m = rule.writeRecord m := by
  obtain ⟨source, event, target⟩ := rule
  cases target with
  | literal state => rfl
  | guarded guard declared =>
      simp only [writeRecord, reguard, Target.reguard, destination, (hf guard).label]

namespace Table

theorem takeRule_reguard (table : Table) (rule : Rule) :
    (table.reguard f).takeRule m (rule.reguard f) = (table.takeRule m rule).reguard f := by
  simp only [takeRule, enter_reguard, Rule.writeRecord_reguard hf, Extension.reguard]

theorem takeRules_reguard (table : Table) (rules : List Rule) :
    (table.reguard f).takeRules m (rules.map (Rule.reguard f)) =
      (table.takeRules m rules).reguard f := by
  induction rules generalizing table with
  | nil => rfl
  | cons rule rest ih =>
      rw [List.map_cons, takeRules, takeRules, takeRule_reguard hf]
      exact Extension.reguard_andThen _ ih

theorem takeStep_reguard (table : Table) (step : Step) :
    (table.reguard f).takeStep m (step.reguard f) = (table.takeStep m step).reguard f := by
  rw [takeStep, takeStep, apply_ite (Extension.reguard f), ← takeRules_reguard hf,
    ← Step.rules_reguard]
  rfl

theorem takeSteps_reguard (table : Table) (steps : List Step) :
    (table.reguard f).takeSteps m (steps.map (Step.reguard f)) =
      (table.takeSteps m steps).reguard f := by
  induction steps generalizing table with
  | nil => rfl
  | cons step rest ih =>
      rw [List.map_cons, takeSteps, takeSteps, takeStep_reguard hf]
      exact Extension.reguard_andThen _ ih

theorem add_reguard (table : Table) (declaration : Value) :
    (table.reguard f).add m (declaration.reguard f) = (table.add m declaration).reguard f := by
  cases hcheck : (declaration.check m).result with
  | error fault =>
      simp [add, Value.check_reguard hf, Act.map_of_error hcheck, hcheck, Extension.reguard]
  | ok steps =>
      simp [add, Value.check_reguard hf, Act.map_of_ok hcheck, hcheck, takeSteps_reguard hf,
        Extension.reguard, Act.bind_of_ok hcheck, Act.bind_of_ok]

theorem extend_reguard (table : Table) (declarations : List Value) :
    (table.reguard f).extend m (declarations.map (Value.reguard f)) =
      (table.extend m declarations).reguard f := by
  induction declarations generalizing table with
  | nil => rfl
  | cons declaration rest ih =>
      rw [List.map_cons, extend, extend, add_reguard hf]
      exact Extension.reguard_andThen _ ih

end Table

end Taking

theorem Extension.finish_reguard (extension : Extension) :
    (extension.reguard f).finish = Table.reguard f <$> extension.finish := by
  simp only [finish, map_bind, map_pure]
  simp [reguard, Table.reguard, Table.record]

/-- Declarations with other guards that look the same are built into the table with those guards. -/
theorem build_reguard (hf : ∀ guard, Value.LooksLike m guard (f guard))
    (declarations : List Value) :
    build m (declarations.map (Value.reguard f)) = Table.reguard f <$> build m declarations := by
  rw [build, build, ← Extension.finish_reguard, ← Table.extend_reguard hf]
  rfl

end StateRules
