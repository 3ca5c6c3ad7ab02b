import StateRules.Proofs.Machine.Laziness
import StateRules.Proofs.Machine.Sighting
import StateRules.Proofs.Table.Search

/-!
Asking beforehand.

What a machine says about a move should be what becomes of it (`Machine.Foretells`). Both go by the
same sighting of the entity, so they end with the same fault where there is none
(`Machine.foretells_iff_of_unseen`), and an entity that is not one of those that the machine moves
is neither read nor handed to a guard by either (`Machine.canTransitBy_of_foreign`,
`Machine.transitBy_of_foreign`).

The move has records to write besides. One that cannot be written gets in its way, and the question
knows nothing of records. Where none does (`Machine.IsClear`), and only there, the machine foretells
what becomes of the move.
-/

namespace StateRules

/-- What a machine says about a move, and what becomes of the move. -/
structure Machine.Foretells (m : Interpretation) (machine : Machine) (accessor : Accessor)
    (table : Table) (entity event : Value) (said : Except Fault Bool)
    (done : Except Fault Outcome) : Prop where
  refused : said = .ok false ↔ done = .ok .notAllowed
  raised : ∀ fault, said = .error fault ↔
    (machine.binding.admits m entity).result = .ok true ∧
      (accessor.get m entity).result = .error fault
  alike : ∀ fault, said = .error fault → done = .error fault
  /-- The first rule that covers the state leads on: to a copy in the state that it gives, or to the
  fault of making the copy, or to the fault that its guard ends with. -/
  promised : said = .ok true → ∃ state rule, (accessor.get m entity).result = .ok state ∧
    IsFirst (Rule.Declines m state event) table.rules rule ∧ rule.Applies m state event ∧
    ((∃ next, rule.target.Gives m entity next ∧
        done = (accessor.set m entity next).result.map .moved) ∨
      ∃ guard fault, rule.guard? = some guard ∧
        (m.call guard (.ofList [entity])).result = .error fault ∧ done = .error fault)

/-- Whether no record gets in the way of what has to be done about an entity that has been seen. The
record of a move stands before the copy, so it may fail as the copy does. -/
def Sighting.IsClear (m : Interpretation) (machine : Machine) (accessor : Accessor)
    (entity event : Value) : Sighting → Prop
  | foreign => ∃ name, machine.binding.name = .ok name
  | known state none => ∃ record, (refusalRecord m state event).result = .ok record
  | known state (some rule) => ∀ next, rule.target.Gives m entity next →
      (moveRecord m state event next >>= fun _ => accessor.set m entity next).result =
        (accessor.set m entity next).result

/-- Whether nothing gets in the way of what a machine says about a move: the entity cannot be read,
or it is seen and no record gets in the way. -/
def Machine.IsClear (m : Interpretation) (machine : Machine) (accessor : Accessor) (table : Table)
    (entity event : Value) : Prop :=
  ((machine.binding.admits m entity).result = .ok true ∧
      ∃ fault, (accessor.get m entity).result = .error fault) ∨
    ∃ seen, (machine.sight m accessor table entity event).result = .ok seen ∧
      seen.IsClear m machine accessor entity event

namespace Machine

variable {m : Interpretation} {machine : Machine} {accessor : Accessor} {table : Table}
  {entity event : Value}

/-- What is said goes by what is seen. -/
theorem result_canTransitBy_of_seen {seen : Sighting}
    (h : (machine.sight m accessor table entity event).result = .ok seen) :
    (machine.canTransitBy m (some accessor) (some table) entity event).result =
      .ok seen.isPromising := by
  rw [canTransitBy_eq, Act.result_bind_of_ok h]
  rfl

theorem result_transitBy_of_seen {seen : Sighting}
    (h : (machine.sight m accessor table entity event).result = .ok seen) :
    (machine.transitBy m (some accessor) (some table) entity event).result =
      (machine.proceed m accessor entity event seen).result := by
  rw [transitBy_eq]
  exact Act.result_bind_of_ok h _

theorem results_of_unseen {fault : Fault}
    (h : (machine.sight m accessor table entity event).result = .error fault) :
    (machine.canTransitBy m (some accessor) (some table) entity event).result = .error fault ∧
      (machine.transitBy m (some accessor) (some table) entity event).result = .error fault := by
  rw [canTransitBy_eq, transitBy_eq]
  exact ⟨Act.result_bind_eq_error_iff.mpr (.inl h), Act.result_bind_eq_error_iff.mpr (.inl h)⟩

/-- What cannot be said cannot be done either, for the same reason. -/
theorem result_transitBy_of_error {fault : Fault}
    (h : (machine.canTransitBy m (some accessor) (some table) entity event).result =
      .error fault) :
    (machine.transitBy m (some accessor) (some table) entity event).result = .error fault := by
  cases hsight : (machine.sight m accessor table entity event).result with
  | error other =>
      obtain ⟨hsaid, hdone⟩ := results_of_unseen hsight
      cases hsaid.symm.trans h
      exact hdone
  | ok seen => cases (result_canTransitBy_of_seen hsight).symm.trans h

/-- What has been done was said to be possible. -/
theorem result_canTransitBy_of_moved {copy : Value}
    (h : (machine.transitBy m (some accessor) (some table) entity event).result =
      .ok (.moved copy)) :
    (machine.canTransitBy m (some accessor) (some table) entity event).result = .ok true := by
  cases hsight : (machine.sight m accessor table entity event).result with
  | error fault => cases (results_of_unseen hsight).2.symm.trans h
  | ok seen =>
      rw [result_transitBy_of_seen hsight] at h
      rw [result_canTransitBy_of_seen hsight]
      match seen with
      | .foreign =>
          obtain ⟨_, _, hrefused⟩ := Act.result_bind_eq_ok_iff.mp h
          cases hrefused
      | .known state none =>
          obtain ⟨_, _, hrefused⟩ := Act.result_bind_eq_ok_iff.mp h
          cases hrefused
      | .known state (some rule) => rfl

section Foreign

variable (hadmits : (machine.binding.admits m entity).result = .ok false)
include hadmits

/-- Nothing is done about an entity of another type but to test its type. -/
theorem canTransitBy_of_foreign :
    machine.canTransitBy m (some accessor) (some table) entity event =
      machine.binding.admits m entity >>= fun _ => pure false :=
  Act.bind_congr_of_ok hadmits rfl

theorem transitBy_of_foreign :
    machine.transitBy m (some accessor) (some table) entity event =
      machine.binding.admits m entity >>= fun _ => machine.turnAway entity :=
  Act.bind_congr_of_ok hadmits rfl

end Foreign

theorem calls_turnAway (machine : Machine) (entity : Value) :
    (machine.turnAway entity).calls = [] := by
  unfold turnAway
  cases h : machine.refusal entity <;> rfl

theorem result_turnAway_eq_ok_iff :
    (machine.turnAway entity).result = .ok .notAllowed ↔
      ∃ name, machine.binding.name = .ok name := by
  unfold turnAway refusal
  cases h : machine.binding.name with
  | error fault => exact iff_of_false nofun nofun
  | ok name => exact iff_of_true rfl ⟨name, rfl⟩

/-- Whether nothing gets in the way is decided by what is seen. -/
theorem isClear_iff_of_seen {seen : Sighting}
    (h : (machine.sight m accessor table entity event).result = .ok seen) :
    machine.IsClear m accessor table entity event ↔
      seen.IsClear m machine accessor entity event := by
  constructor
  · rintro (⟨hadmits, fault, hread⟩ | ⟨other, hother, hclear⟩)
    · cases h.symm.trans (result_sight_of_unreadable hadmits hread)
    · cases h.symm.trans hother
      exact hclear
  · exact fun hclear => .inr ⟨seen, h, hclear⟩

/-- An entity that is seen can be read, if it is one of those that the machine moves. -/
theorem not_unreadable_of_seen {seen : Sighting}
    (h : (machine.sight m accessor table entity event).result = .ok seen) (fault : Fault) :
    ¬((machine.binding.admits m entity).result = .ok true ∧
      (accessor.get m entity).result = .error fault) := by
  rintro ⟨hadmits, hread⟩
  cases h.symm.trans (result_sight_of_unreadable hadmits hread)

section Course

variable {state next : Value} {rule : Rule}

theorem result_follow_none_eq_ok_iff (accessor : Accessor) (entity : Value) :
    (follow m accessor entity event state none).result = .ok .notAllowed ↔
      ∃ record, (refusalRecord m state event).result = .ok record := by
  rw [follow, Act.result_bind_eq_ok_iff]
  constructor
  · rintro ⟨record, hrecord, _⟩
    exact ⟨record, hrecord⟩
  · rintro ⟨record, hrecord⟩
    exact ⟨record, hrecord, rfl⟩

theorem result_settle :
    (settle m accessor entity event state next).result =
      (moveRecord m state event next >>= fun _ => accessor.set m entity next).result.map
        Outcome.moved := by
  rw [settle]
  cases hrecord : (moveRecord m state event next).result with
  | error fault =>
      rw [Act.bind_of_error hrecord, Act.bind_of_error hrecord]
      rfl
  | ok record =>
      rw [Act.result_bind_of_ok hrecord, Act.result_bind_of_ok hrecord]
      rw [Act.result_bind_of_ok (Act.result_emit record)]
      cases hcopy : (accessor.set m entity next).result with
      | error fault => rw [Act.bind_of_error hcopy]; rfl
      | ok copy => rw [Act.bind_of_ok hcopy]; rfl

theorem result_follow_some_ne_notAllowed (target : Target) :
    (follow m accessor entity event state (some target)).result ≠ .ok .notAllowed := by
  rw [follow_some]
  intro h
  obtain ⟨next, _, hsettled⟩ := Act.result_bind_eq_ok_iff.mp h
  rw [result_settle] at hsettled
  cases hcopy : (moveRecord m state event next >>= fun _ => accessor.set m entity next).result <;>
    rw [hcopy] at hsettled <;> cases hsettled

/-- A rule whose guard fails leads nowhere; a literal destination is always had. -/
theorem result_resolve_eq_error_iff {fault : Fault} :
    (rule.target.resolve m entity).result = .error fault ↔
      ∃ guard, rule.guard? = some guard ∧
        (m.call guard (.ofList [entity])).result = .error fault := by
  unfold Rule.guard?
  cases rule.target with
  | literal state => exact iff_of_false nofun nofun
  | guarded guard declared =>
      exact ⟨fun h => ⟨guard, rfl, h⟩, fun ⟨_, hguard, h⟩ => Option.some.inj hguard ▸ h⟩

/-- A rule leads to a copy or to a fault of its guard just where the record of the move does not get
in the way. -/
theorem leads_iff_isClear :
    ((∃ next, rule.target.Gives m entity next ∧
        (follow m accessor entity event state (some rule.target)).result =
          (accessor.set m entity next).result.map .moved) ∨
      ∃ guard fault, rule.guard? = some guard ∧
        (m.call guard (.ofList [entity])).result = .error fault ∧
        (follow m accessor entity event state (some rule.target)).result = .error fault) ↔
      (Sighting.known state (some rule)).IsClear m machine accessor entity event := by
  have hinj : Function.Injective (Except.map (ε := Fault) Outcome.moved) := by
    rintro (_ | _) (_ | _) ⟨⟩ <;> rfl
  rw [Sighting.IsClear, follow_some]
  simp only [← Target.result_resolve_eq_ok_iff]
  cases hnext : (rule.target.resolve m entity).result with
  | ok next =>
      rw [Act.result_bind_of_ok hnext, result_settle]
      constructor
      · rintro (⟨_, ⟨⟩, hdone⟩ | ⟨guard, fault, hguard, hcall, _⟩)
        · rintro _ ⟨⟩
          exact hinj hdone
        · cases hnext.symm.trans (result_resolve_eq_error_iff.mpr ⟨guard, hguard, hcall⟩)
      · intro hclear
        exact .inl ⟨next, rfl, congrArg (Except.map Outcome.moved) (hclear next rfl)⟩
  | error fault =>
      obtain ⟨guard, hguard, hcall⟩ := result_resolve_eq_error_iff.mp hnext
      rw [Act.bind_of_error hnext]
      exact iff_of_true (.inr ⟨guard, fault, hguard, hcall, rfl⟩) nofun

end Course

section Cases

variable {done : Except Fault Outcome}

theorem foretells_iff_of_unseen {fault : Fault}
    (h : (machine.sight m accessor table entity event).result = .error fault) :
    machine.Foretells m accessor table entity event (.error fault) (.error fault) ↔
      machine.IsClear m accessor table entity event := by
  constructor
  · intro hforetells
    obtain ⟨hadmits, hread⟩ := (hforetells.raised fault).mp rfl
    exact .inl ⟨hadmits, fault, hread⟩
  · rintro (⟨hadmits, other, hread⟩ | ⟨seen, hseen, _⟩)
    · cases h.symm.trans (result_sight_of_unreadable hadmits hread)
      refine ⟨⟨nofun, nofun⟩, fun other => ⟨?_, ?_⟩, ?_, nofun⟩
      · rintro ⟨⟩
        exact ⟨hadmits, hread⟩
      · rintro ⟨_, hother⟩
        cases hread.symm.trans hother
        rfl
      · rintro _ ⟨⟩
        rfl
    · cases h.symm.trans hseen

/-- Where a machine sees that there is no move, it foretells what becomes of it if that is a
refusal. -/
theorem foretells_iff_of_refused {seen : Sighting}
    (h : (machine.sight m accessor table entity event).result = .ok seen) :
    machine.Foretells m accessor table entity event (.ok false) done ↔ done = .ok .notAllowed := by
  refine ⟨fun hforetells => hforetells.refused.mp rfl, fun hdone => ?_⟩
  refine ⟨iff_of_true rfl hdone, fun fault => iff_of_false nofun (not_unreadable_of_seen h fault),
    nofun, nofun⟩

/-- Where a machine sees a rule, it foretells what becomes of the move if that is what the rule
leads to. -/
theorem foretells_iff_of_promised {state : Value} {rule : Rule}
    (h : (machine.sight m accessor table entity event).result = .ok (.known state (some rule)))
    (hdone : done ≠ .ok .notAllowed) :
    machine.Foretells m accessor table entity event (.ok true) done ↔
      (∃ next, rule.target.Gives m entity next ∧
          done = (accessor.set m entity next).result.map .moved) ∨
        ∃ guard fault, rule.guard? = some guard ∧
          (m.call guard (.ofList [entity])).result = .error fault ∧ done = .error fault := by
  obtain ⟨_, hread, hfound⟩ := result_sight_eq_ok_known_iff.mp h
  constructor
  · intro hforetells
    obtain ⟨other, first, hother, hfirst, happlies, hleads⟩ := hforetells.promised rfl
    cases hread.symm.trans hother
    cases hfound.symm.trans (Table.result_search_eq_ok_some_iff.mpr ⟨hfirst, happlies⟩)
    exact hleads
  · intro hleads
    obtain ⟨hfirst, happlies⟩ := Table.result_search_eq_ok_some_iff.mp hfound
    refine ⟨iff_of_false nofun hdone, fun fault =>
      iff_of_false nofun (not_unreadable_of_seen h fault),
      nofun, fun _ => ⟨state, rule, hread, hfirst, happlies, hleads⟩⟩

end Cases

/-- A machine foretells what becomes of a move exactly where nothing gets in the way. -/
theorem foretells_iff_isClear (accessor : Accessor) (table : Table) (entity event : Value) :
    machine.Foretells m accessor table entity event
        (machine.canTransitBy m (some accessor) (some table) entity event).result
        (machine.transitBy m (some accessor) (some table) entity event).result ↔
      machine.IsClear m accessor table entity event := by
  cases hsight : (machine.sight m accessor table entity event).result with
  | error fault =>
      obtain ⟨hsaid, hdone⟩ := results_of_unseen hsight
      rw [hsaid, hdone]
      exact foretells_iff_of_unseen hsight
  | ok seen =>
      rw [result_canTransitBy_of_seen hsight, result_transitBy_of_seen hsight,
        isClear_iff_of_seen hsight]
      match seen with
      | .foreign => exact (foretells_iff_of_refused hsight).trans result_turnAway_eq_ok_iff
      | .known state none =>
          exact (foretells_iff_of_refused hsight).trans
            (result_follow_none_eq_ok_iff accessor entity)
      | .known state (some rule) =>
          exact (foretells_iff_of_promised hsight (result_follow_some_ne_notAllowed _)).trans
            leads_iff_isClear

end Machine

/-- Let a machine that is initialised, or can be, be asked whether an entity can move, and let the
same machine be told to move it. What it says is what becomes of the move exactly where nothing gets
in the way: the entity cannot be read, or its type can be told, the search for its state gets to an
end, and what there is to record can be written.

At any rate the machine keeps the same by either. Where it cannot say anything, the move ends with
the same fault. Where the move is made, it was said to be possible. An entity of another type is
neither read nor handed to a guard: nothing is done about it but to test its type, and to turn it
away. -/
theorem verdicts_foretell_moves_iff_clear {m : Interpretation} {machine : Machine}
    {session : Session} {accessor : Accessor} {table : Table} {definitions : Nat}
    {prepared : Act Unit}
    (hprepare : machine.prepare m session = (.ready (some accessor) table definitions, prepared))
    (hprepared : prepared.result = .ok ()) (entity event : Value) :
    (machine.Foretells m accessor table entity event
        (machine.canTransit m entity event session).2.result
        (machine.transit m entity event session).2.result ↔
      machine.IsClear m accessor table entity event) ∧
    (machine.canTransit m entity event session).1 = .ready (some accessor) table definitions ∧
    (machine.transit m entity event session).1 = .ready (some accessor) table definitions ∧
    (∀ fault, (machine.canTransit m entity event session).2.result = .error fault →
      (machine.transit m entity event session).2.result = .error fault) ∧
    (∀ copy, (machine.transit m entity event session).2.result = .ok (.moved copy) →
      (machine.canTransit m entity event session).2.result = .ok true) ∧
    ((machine.binding.admits m entity).result = .ok false →
      (machine.canTransit m entity event session).2 =
          (prepared >>= fun _ => machine.binding.admits m entity >>= fun _ => pure false) ∧
        (machine.transit m entity event session).2 =
          (prepared >>= fun _ => machine.binding.admits m entity >>= fun _ =>
            machine.turnAway entity) ∧
        (machine.turnAway entity).calls = []) := by
  have hsaid := Machine.canTransit_of_prepare hprepare (fun _ => rfl) entity event
  have hdone := Machine.transit_of_prepare hprepare (fun _ => rfl) entity event
  rw [hsaid, hdone]
  simp only [Act.result_bind_of_ok hprepared]
  refine ⟨Machine.foretells_iff_isClear accessor table entity event, trivial, trivial,
    fun _ => Machine.result_transitBy_of_error, fun _ => Machine.result_canTransitBy_of_moved,
    fun hadmits => ⟨?_, ?_, machine.calls_turnAway entity⟩⟩
  · rw [Machine.canTransitBy_of_foreign hadmits]
  · rw [Machine.transitBy_of_foreign hadmits]

/-- The table of a desk where orders are paid. -/
def paymentTable : Table :=
  ⟨[⟨.text "new", .text "pay", .literal (.text "paid")⟩], [.text "new", .text "paid"],
    [.text "pay"]⟩

/-- A desk foretells what becomes of a new order. -/
theorem verdicts_foretell_moves_iff_clear_newOrder :
    (payDesk (some .standard)).Foretells .exhausted .standard paymentTable newOrder (.text "pay")
      ((payDesk (some .standard)).canTransit .exhausted newOrder (.text "pay") .fresh).2.result
      ((payDesk (some .standard)).transit .exhausted newOrder (.text "pay") .fresh).2.result := by
  have hprepare : (payDesk (some .standard)).prepare .exhausted .fresh =
      (.ready (some .standard) paymentTable 1, _) := rfl
  refine (verdicts_foretell_moves_iff_clear hprepare rfl newOrder (.text "pay")).1.mpr ?_
  refine .inr ⟨.known (.text "new") (some paymentTable.rules[0]), rfl, ?_⟩
  rintro next ⟨⟩
  rfl

/-- An order whose state is a draft that has no title yet. -/
def draftedOrder : Value := .mapping .plain [(.text "state", untitled)]

/-- A verdict need not foretell the move where the state cannot be written. A desk that says no for
an order whose state is a draft without a title fails when it is told to move it. -/
theorem verdict_foretells_nothing_of_unwritable :
    ¬∀ (m : Interpretation) (machine : Machine) (session : Session) (accessor : Accessor)
        (table : Table) (definitions : Nat) (prepared : Act Unit) (entity event : Value),
      machine.prepare m session = (.ready (some accessor) table definitions, prepared) →
        prepared.result = .ok () →
          machine.Foretells m accessor table entity event
            (machine.canTransit m entity event session).2.result
            (machine.transit m entity event session).2.result := by
  intro hall
  let m : Interpretation := .ofScripts fun _ => .entity
  have hforetells := hall m (payDesk (some .standard)) .fresh .standard paymentTable 1 _
    draftedOrder (.text "pay") rfl rfl
  have hfailed : ((payDesk (some .standard)).transit m draftedOrder (.text "pay")
      .fresh).2.result = .error (.noAttribute "Draft" "title") := rfl
  cases hfailed.symm.trans (hforetells.refused.mp rfl)

end StateRules
