import StateRules.Proofs.Table.Coverage

/-!
The course that an entity takes.

Once a search is over, nothing of a rule counts but its guard or, where there is none, its literal
destination: not its place, not the source it leads from, and not what is declared beside its guard
(`Rule.lead`, `follow`, `transit_eq_follow`). So two tables that lead to the same for the state of
an entity take it the same course (`SameCourse.of_lead_eq`).

What a table leads to is decided by its rules one after the other (`Table.result_search_map`). Rules
that differ in their sources alone, as those of a step do, decide as one: by whether their sources
cover the state, and whether the event fits (`Table.firstAmong_of_isCovered`).
-/

namespace StateRules

/-- A target without what is declared beside its guard. -/
def Target.bare : Target → Target
  | .literal state => .literal state
  | .guarded guard _ => .guarded guard .unset

/-- What a rule leads to, as far as that decides where an entity goes. -/
def Rule.lead (rule : Rule) : Target := rule.target.bare

/-- What a search for a state and an event leads to, or the fault that it ends with. -/
def Table.lead (m : Interpretation) (table : Table) (state event : Value) :
    Except Fault (Option Target) :=
  (table.search m state event).result.map (Option.map Rule.lead)

/-- What becomes of an entity once a search for its state is over. Where nothing was found it may
not move. A literal destination is its next state; a guard is called once, with the entity alone,
and what it gives is the next state as it is. -/
def follow (m : Interpretation) (accessor : Accessor) (entity event state : Value) :
    Option Target → Act Outcome
  | none => do
      let record ← refusalRecord m state event
      Act.emit record
      pure .notAllowed
  | some (.literal next) => settle m accessor entity event state next
  | some (.guarded guard _) => do
      let next ← m.call guard (.ofList [entity])
      settle m accessor entity event state next

/-- Whether an entity in a state does nothing by a table but to follow what a search led to. -/
def Follows (m : Interpretation) (accessor : Accessor) (table : Table)
    (entity event state : Value) (lead : Option Target) : Prop :=
  transit m accessor table entity event =
    accessor.get m entity >>= fun _ => table.search m state event >>= fun _ =>
      follow m accessor entity event state lead

/-- Whether an entity in a state takes the same course by two tables: both lead to the same for it,
or end the search with the same fault; it follows nothing else by either; and it comes to the
same. -/
structure SameCourse (m : Interpretation) (accessor : Accessor) (table table' : Table)
    (entity event state : Value) : Prop where
  lead : table.lead m state event = table'.lead m state event
  followed : ∀ lead, table.lead m state event = .ok lead →
    Follows m accessor table entity event state lead ∧
      Follows m accessor table' entity event state lead
  outcome : (transit m accessor table entity event).result =
    (transit m accessor table' entity event).result

variable {m : Interpretation} {state event : Value}

theorem Target.resolve_bare (target : Target) (entity : Value) :
    target.bare.resolve m entity = target.resolve m entity := by
  cases target <;> rfl

theorem follow_some {accessor : Accessor} {entity : Value} (target : Target) :
    follow m accessor entity event state (some target) =
      target.resolve m entity >>= settle m accessor entity event state := by
  cases target <;> rfl

theorem transit_eq_follow (accessor : Accessor) (table : Table) (entity : Value) :
    transit m accessor table entity event = (do
      let state ← accessor.get m entity
      let found ← table.search m state event
      follow m accessor entity event state (found.map Rule.lead)) := by
  rw [transit]
  refine congrArg _ (funext fun state => congrArg _ (funext fun found => ?_))
  cases found with
  | none => rfl
  | some rule =>
      rw [Option.map_some, follow_some, Rule.lead, Target.resolve_bare]
      rfl

section Course

variable {accessor : Accessor} {table table' : Table} {entity : Value}

theorem follows_of_lead (hstate : (accessor.get m entity).result = .ok state)
    {lead : Option Target} (h : table.lead m state event = .ok lead) :
    Follows m accessor table entity event state lead := by
  rw [Follows, transit_eq_follow]
  refine Act.bind_congr_of_ok hstate ?_
  rw [Table.lead] at h
  cases hfound : (table.search m state event).result with
  | error fault =>
      rw [hfound] at h
      cases h
  | ok found =>
      rw [hfound] at h
      obtain rfl : found.map Rule.lead = lead := Except.ok.inj h
      exact Act.bind_congr_of_ok hfound rfl

theorem result_transit_eq (hstate : (accessor.get m entity).result = .ok state) :
    (transit m accessor table entity event).result =
      (table.lead m state event).bind fun lead =>
        (follow m accessor entity event state lead).result := by
  rw [transit_eq_follow, Act.result_bind_of_ok hstate, Table.lead]
  cases hfound : (table.search m state event).result with
  | error fault =>
      rw [Act.bind_of_error hfound]
      rfl
  | ok found =>
      rw [Act.result_bind_of_ok hfound]
      rfl

/-- Where two tables lead to the same, an entity takes the same course by them. -/
theorem SameCourse.of_lead_eq (hstate : (accessor.get m entity).result = .ok state)
    (h : table.lead m state event = table'.lead m state event) :
    SameCourse m accessor table table' entity event state := by
  refine ⟨h, fun lead hlead => ?_, ?_⟩
  · exact ⟨follows_of_lead hstate hlead, follows_of_lead hstate (h ▸ hlead)⟩
  · rw [result_transit_eq hstate, result_transit_eq hstate, h]

end Course

theorem Rule.result_applies_of_equals {rule : Rule} (h : rule.source.Equals m state) :
    (rule.applies m state event).result = (rule.event.equals m event).result := by
  rw [applies, Act.result_bind_of_ok h]
  rfl

theorem Rule.result_applies_of_differs {rule : Rule} (h : rule.source.Differs m state) :
    (rule.applies m state event).result = .ok false := by
  rw [applies, Act.result_bind_of_ok h]
  rfl

namespace Table

variable {α : Type} {give : Rule → α}

/-- What the first of some rules that applies gives, or the fault of the first comparison that gives
no answer. -/
def firstAmong (give : Rule → α) (m : Interpretation) (state event : Value) :
    List Rule → Except Fault (Option α)
  | [] => .ok none
  | rule :: rest =>
      match (rule.applies m state event).result with
      | .error fault => .error fault
      | .ok true => .ok (some (give rule))
      | .ok false => firstAmong give m state event rest

theorem firstAmong_append (rules more : List Rule) :
    firstAmong give m state event (rules ++ more) =
      match firstAmong give m state event rules with
      | .ok none => firstAmong give m state event more
      | found => found := by
  induction rules with
  | nil => rfl
  | cons rule rest ih =>
      simp only [List.cons_append, firstAmong]
      cases (rule.applies m state event).result with
      | error fault => rfl
      | ok applies =>
          cases applies with
          | true => rfl
          | false => exact ih

theorem result_searchFrom_map (before rules : List Rule) :
    ((searchFrom m state event before.length rules).result.map fun found =>
        (found.bind fun i => (before ++ rules)[i]?).map give) =
      firstAmong give m state event rules := by
  induction rules generalizing before with
  | nil => rfl
  | cons rule rest ih =>
      rw [searchFrom, firstAmong]
      cases happlies : (rule.applies m state event).result with
      | error fault =>
          rw [Act.bind_of_error happlies]
          rfl
      | ok applies =>
          rw [Act.result_bind_of_ok happlies]
          cases applies with
          | true => simp [Except.map]
          | false =>
              -- The rule that is passed over joins those before the place that is searched from.
              have hrest := ih (before ++ [rule])
              rw [List.length_append, List.append_assoc] at hrest
              exact hrest

/-- What a search gives is what the first rule that applies gives. -/
theorem result_search_map (table : Table) :
    (table.search m state event).result.map (Option.map give) =
      firstAmong give m state event table.rules := by
  rw [← result_searchFrom_map [], search, searchIndex]
  cases hfound : (searchFrom m state event 0 table.rules).result with
  | error fault =>
      rw [Act.bind_of_error hfound]
      simp [Except.map]
  | ok found =>
      rw [Act.result_bind_of_ok hfound]
      simp [Except.map]

section Sources

variable {P : Value → Prop} (h : ComparesWell m P) (hstate : P state) {sources : List Value}
  (hsources : ∀ k ∈ sources, P k)
include h hstate hsources

/-- Rules from sources that do not cover a state give nothing. -/
theorem firstAmong_of_not_isCovered (hnot : ¬IsCovered m sources state) (trigger : Value)
    (target : Target) :
    firstAmong give m state event (sources.map fun k => ⟨k, trigger, target⟩) = .ok none := by
  induction sources with
  | nil => rfl
  | cons k rest ih =>
      obtain ⟨hk, hrest⟩ := List.forall_mem_cons.mp hsources
      obtain ⟨hfirst, hnot⟩ := not_or.mp (isCovered_cons_iff.not.mp hnot)
      have hdiffers := h.differs_of_not_equals hk hstate hfirst
      rw [List.map_cons, firstAmong, Rule.result_applies_of_differs hdiffers]
      exact ih hrest hnot

/-- Rules from sources that cover a state give what they have in common, if the event fits. -/
theorem firstAmong_of_isCovered (hcovered : IsCovered m sources state) (trigger : Value)
    (target : Target) {a : α} (hgive : ∀ k, give ⟨k, trigger, target⟩ = a) :
    firstAmong give m state event (sources.map fun k => ⟨k, trigger, target⟩) =
      (trigger.equals m event).result.map fun fits => if fits then some a else none := by
  induction sources with
  | nil => exact absurd hcovered not_isCovered_nil
  | cons k rest ih =>
      obtain ⟨hk, hrest⟩ := List.forall_mem_cons.mp hsources
      rw [List.map_cons, firstAmong]
      by_cases hfirst : k.Equals m state
      · rw [Rule.result_applies_of_equals hfirst]
        cases hfits : (trigger.equals m event).result with
        | error fault => rfl
        | ok fits =>
            cases fits with
            | true =>
                rw [hgive]
                rfl
            | false =>
                -- The other sources that equal the state fare no better with the event.
                by_cases hmore : IsCovered m rest state
                · rw [hfits] at ih
                  exact ih hrest hmore
                · exact firstAmong_of_not_isCovered h hstate hrest hmore trigger target
      · have hmore := (isCovered_cons_iff.mp hcovered).resolve_left hfirst
        have hdiffers := h.differs_of_not_equals hk hstate hfirst
        rw [Rule.result_applies_of_differs hdiffers]
        exact ih hrest hmore

end Sources

theorem lead_eq_firstAmong (table : Table) :
    table.lead m state event = firstAmong Rule.lead m state event table.rules :=
  result_search_map table

end Table

end StateRules
