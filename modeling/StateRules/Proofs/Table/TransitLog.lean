import StateRules.Proofs.Entity.Lens
import StateRules.Proofs.Machine.Scripts
import StateRules.Proofs.Table.Course
import StateRules.Proofs.Table.Run

/-!
What the log says of the moves of an entity.

A move is announced once its rule is found and the next state is known, and only then is that state
written into a copy (`Announced`). So the log tells the truth about an attempt to move an entity
exactly if the move is carried out where it is announced: the state can be written, and the copy is
in that state (`CarriesOut`). Then a move is in the log as it took place, a refusal is in the log as
one, and an attempt on which something failed has left nothing (`Tells`).

Over a run, the records of moves are those of the moves that took place, in order, exactly if each
of its steps carries out what it announces (`moves_are_logged_iff_carried_out`). For an entity whose
class leaves reading and copying as they are, that is so in every run as soon as some state can be
written into a copy of it (`Accessor.IsReady.carriesOut_run`).

All this is about the records of the resolver, of which neither the operations that classes bring
nor the accessor leave any. That is so for scripts and for the accessor of a field
(`Interpretation.isSilent_upTo`, `Accessor.isSilent_field`).
-/

namespace StateRules

/-- What a computation comes to as far as a part of the library goes: its records and its result. -/
def Act.trace {α : Type} (part : Component) (act : Act α) : List Record × Except Fault α :=
  (act.recordsOf part, act.result)

/-- Whether a record says that an entity moved. -/
def Record.isMove (record : Record) : Bool := "Transit: ".toList.isPrefixOf record.text.toList

/-- Whether a record announces that an entity in a state moves on an event along a rule to a next
state. -/
structure Announced (m : Interpretation) (accessor : Accessor) (table : Table)
    (entity event state : Value) (rule : Rule) (next : Value) (record : Record) : Prop where
  read : (accessor.get m entity).result = .ok state
  found : (table.search m state event).result = .ok (some rule)
  led : rule.target.Gives m entity next
  told : (moveRecord m state event next).result = .ok record

/-- Whether a copy of an entity is in a next state, which was written into it. -/
structure ArrivesIn (m : Interpretation) (accessor : Accessor) (entity next copy : Value) :
    Prop where
  written : (accessor.set m entity next).result = .ok copy
  holds : (accessor.get m copy).result = .ok next

/-- Whether a move that is announced is carried out. -/
def CarriesOut (m : Interpretation) (accessor : Accessor) (table : Table) (entity event : Value) :
    Prop :=
  ∀ state rule next record, Announced m accessor table entity event state rule next record →
    ∃ copy, ArrivesIn m accessor entity next copy

/-- Whether the records of an attempt to move an entity tell the truth about what became of it: a
move to a state that the copy is in, a refusal, or a failure, which leaves nothing. -/
inductive Tells (m : Interpretation) (accessor : Accessor) (table : Table) (entity event : Value) :
    List Record × Except Fault Outcome → Prop where
  | moved {state next copy : Value} {rule : Rule} {record : Record} :
      Announced m accessor table entity event state rule next record →
        ArrivesIn m accessor entity next copy →
          Tells m accessor table entity event ([record], .ok (.moved copy))
  | refused {state : Value} {record : Record} : (accessor.get m entity).result = .ok state →
      (refusalRecord m state event).result = .ok record →
        Tells m accessor table entity event ([record], .ok .notAllowed)
  | failed {fault : Fault} : Tells m accessor table entity event ([], .error fault)

/-- The records of the resolver that a run leaves. -/
def runLog (m : Interpretation) (accessor : Accessor) (table : Table) (entity : Value) :
    List Value → List Record
  | [] => []
  | event :: rest =>
      (transit m accessor table entity event).recordsOf .resolver ++
        runLog m accessor table (advance m accessor table entity event) rest

/-- The records of moves that a run leaves. -/
def moveLog (m : Interpretation) (accessor : Accessor) (table : Table) (entity : Value)
    (events : List Value) : List Record :=
  (runLog m accessor table entity events).filter Record.isMove

/-- Whether some records are those of the moves that took place in a run, in order. -/
inductive Chronicles (m : Interpretation) (accessor : Accessor) (table : Table) :
    Value → List Value → List Record → Prop where
  | done {entity : Value} : Chronicles m accessor table entity [] []
  | moved {entity event state next copy : Value} {rule : Rule} {record : Record}
      {rest : List Value} {records : List Record} :
      Announced m accessor table entity event state rule next record →
        ArrivesIn m accessor entity next copy → Chronicles m accessor table copy rest records →
          Chronicles m accessor table entity (event :: rest) (record :: records)
  | stayed {entity event : Value} {rest : List Value} {records : List Record} :
      (∀ copy, (transit m accessor table entity event).result ≠ .ok (.moved copy)) →
        Chronicles m accessor table entity rest records →
          Chronicles m accessor table entity (event :: rest) records

variable {m : Interpretation} {accessor : Accessor} {table : Table} {entity event : Value}

section Records

variable {state next : Value} {record : Record}

theorem text_of_moveRecord (h : (moveRecord m state event next).result = .ok record) :
    ∃ source cue target, record =
      ⟨.debug, .resolver, "Transit: " ++ source ++ " --" ++ cue ++ "--> " ++ target⟩ := by
  obtain ⟨source, _, hrest⟩ := Act.result_bind_eq_ok_iff.mp h
  obtain ⟨cue, _, hrest⟩ := Act.result_bind_eq_ok_iff.mp hrest
  obtain ⟨target, _, hrecord⟩ := Act.result_bind_eq_ok_iff.mp hrest
  exact ⟨source, cue, target, (Except.ok.inj hrecord).symm⟩

theorem text_of_refusalRecord (h : (refusalRecord m state event).result = .ok record) :
    ∃ source cue, record =
      ⟨.debug, .resolver, "Not allowed: " ++ source ++ " on " ++ cue⟩ := by
  obtain ⟨source, _, hrest⟩ := Act.result_bind_eq_ok_iff.mp h
  obtain ⟨cue, _, hrecord⟩ := Act.result_bind_eq_ok_iff.mp hrest
  exact ⟨source, cue, (Except.ok.inj hrecord).symm⟩

theorem isMove_of_moveRecord (h : (moveRecord m state event next).result = .ok record) :
    record.isMove = true := by
  obtain ⟨source, cue, target, rfl⟩ := text_of_moveRecord h
  simp [Record.isMove, String.toList_append]

theorem isMove_of_refusalRecord (h : (refusalRecord m state event).result = .ok record) :
    record.isMove = false := by
  obtain ⟨source, cue, rfl⟩ := text_of_refusalRecord h
  simp [Record.isMove, String.toList_append, List.isPrefixOf]

end Records

section Silence

variable {part : Component} (hm : m.IsSilent part)
include hm

theorem Rule.isSilent_applies (rule : Rule) (state event : Value) :
    (rule.applies m state event).IsSilent part :=
  (Value.isSilent_equalsFrom hm _ _ _).bind fun _ =>
    .ite (Value.isSilent_equalsFrom hm _ _ _) (.pure _)

theorem Table.isSilent_search (table : Table) (state event : Value) :
    (table.search m state event).IsSilent part := by
  have hfrom (rules : List Rule) (i : Nat) : (searchFrom m state event i rules).IsSilent part := by
    induction rules generalizing i with
    | nil => exact .pure _
    | cons rule rest ih =>
        exact (rule.isSilent_applies hm state event).bind fun _ => .ite (.pure _) (ih (i + 1))
  exact (hfrom _ _).bind fun _ => .pure _

theorem Target.isSilent_resolve (target : Target) (entity : Value) :
    (target.resolve m entity).IsSilent part := by
  cases target with
  | literal state => exact .pure _
  | guarded guard declared => exact hm.call _ _

theorem isSilent_moveRecord (state event next : Value) :
    (moveRecord m state event next).IsSilent part :=
  (Value.isSilent_writeLabel hm state).bind fun _ =>
    (Value.isSilent_writeDisplay hm event).bind fun _ =>
      (Value.isSilent_writeLabel hm next).bind fun _ => .pure _

theorem isSilent_refusalRecord (state event : Value) :
    (refusalRecord m state event).IsSilent part :=
  (Value.isSilent_writeLabel hm state).bind fun _ =>
    (Value.isSilent_write hm event).bind fun _ => .pure _

end Silence

/-- An attempt announces no more than one move. -/
theorem Announced.next_eq {state state' next next' : Value} {rule rule' : Rule}
    {record record' : Record} (h : Announced m accessor table entity event state rule next record)
    (h' : Announced m accessor table entity event state' rule' next' record') : next = next' := by
  obtain rfl : state = state' := Except.ok.inj (h.read.symm.trans h'.read)
  obtain rfl : rule = rule' := Option.some.inj (Except.ok.inj (h.found.symm.trans h'.found))
  have hled := Target.result_resolve_eq_ok_iff.mpr h.led
  have hled' := Target.result_resolve_eq_ok_iff.mpr h'.led
  exact Except.ok.inj (hled.symm.trans hled')

theorem Announced.carriesOut {state next copy : Value} {rule : Rule} {record : Record}
    (h : Announced m accessor table entity event state rule next record)
    (harrives : ArrivesIn m accessor entity next copy) :
    CarriesOut m accessor table entity event :=
  fun _ _ _ _ h' => ⟨copy, h.next_eq h' ▸ harrives⟩

/-- Records that tell the truth have one of a move just if the entity moved, one of another kind
just if it may not move, and none just if something failed. -/
theorem Tells.kinds {log : List Record} {result : Except Fault Outcome}
    (h : Tells m accessor table entity event (log, result)) :
    ((∃ record ∈ log, record.isMove = true) ↔ ∃ copy, result = .ok (.moved copy)) ∧
      ((∃ record ∈ log, record.isMove = false) ↔ result = .ok .notAllowed) ∧
      (log = [] ↔ ∃ fault, result = .error fault) := by
  cases h with
  | moved hannounced _ => simp [isMove_of_moveRecord hannounced.told]
  | refused _ hrecord => simp [isMove_of_refusalRecord hrecord]
  | failed => simp

namespace Act

variable {α β : Type} {part : Component}

theorem IsSilent.trace_bind_of_ok {first : Act α} (hfirst : first.IsSilent part) {a : α}
    (h : first.result = .ok a) (next : α → Act β) :
    (first >>= next).trace part = (next a).trace part :=
  Prod.ext (hfirst.recordsOf_bind h next) (result_bind_of_ok h next)

theorem IsSilent.trace_bind_of_error {first : Act α} (hfirst : first.IsSilent part)
    {fault : Fault} (h : first.result = .error fault) (next : α → Act β) :
    (first >>= next).trace part = ([], .error fault) := by
  rw [bind_of_error h]
  exact Prod.ext hfirst rfl

theorem trace_emit_bind {record : Record} (h : record.component = part) (next : Unit → Act β) :
    (emit record >>= next).trace part = (record :: (next ()).recordsOf part, (next ()).result) := by
  refine Prod.ext ?_ (result_bind_of_ok rfl next)
  show (emit record >>= next).recordsOf part = _
  rw [recordsOf_bind_of_ok rfl, recordsOf_emit h, List.singleton_append]

end Act

section Attempts

variable (hm : m.IsSilent .resolver) (haccessor : accessor.IsSilent .resolver m)
include hm haccessor

/-- What is announced is all that the log has, and then the copy is made. -/
theorem trace_transit_of_announced {state next : Value} {rule : Rule} {record : Record}
    (h : Announced m accessor table entity event state rule next record) :
    (transit m accessor table entity event).trace .resolver =
      ([record], (accessor.set m entity next).result.map Outcome.moved) := by
  have hrecord : record.component = .resolver := by
    obtain ⟨_, _, _, rfl⟩ := text_of_moveRecord h.told
    rfl
  rw [transit_eq_follow, (haccessor.get entity).trace_bind_of_ok h.read,
    (table.isSilent_search hm state event).trace_bind_of_ok h.found, Option.map_some, follow_some,
    Rule.lead, Target.resolve_bare,
    (rule.target.isSilent_resolve hm entity).trace_bind_of_ok
      (Target.result_resolve_eq_ok_iff.mpr h.led),
    settle, (isSilent_moveRecord hm state event next).trace_bind_of_ok h.told,
    Act.trace_emit_bind hrecord]
  refine Prod.ext (congrArg (List.cons record) ?_) ?_
  · exact (haccessor.set entity next).bind fun copy => .pure _
  · cases hset : (accessor.set m entity next).result with
    | error fault => exact Act.result_bind_eq_error_iff.mpr (.inl hset)
    | ok copy => exact Act.result_bind_of_ok hset _

omit haccessor in
/-- Where no rule is found, there is a refusal, unless its record cannot be written. -/
theorem tells_of_none {state : Value} (hread : (accessor.get m entity).result = .ok state) :
    Tells m accessor table entity event
      ((follow m accessor entity event state none).trace .resolver) := by
  have hsilent := isSilent_refusalRecord hm state event
  rw [follow]
  cases hrecord : (refusalRecord m state event).result with
  | error fault =>
      rw [hsilent.trace_bind_of_error hrecord]
      exact .failed
  | ok record =>
      have hpart : record.component = .resolver := by
        obtain ⟨_, _, rfl⟩ := text_of_refusalRecord hrecord
        rfl
      rw [hsilent.trace_bind_of_ok hrecord, Act.trace_emit_bind hpart]
      exact .refused hread hrecord

omit haccessor in
/-- Where a rule is found and no move is announced for all that, something failed before. -/
theorem tells_of_some {state : Value} {target : Target}
    (h : ¬∃ next record, target.Gives m entity next ∧
      (moveRecord m state event next).result = .ok record) :
    Tells m accessor table entity event
      ((follow m accessor entity event state (some target)).trace .resolver) := by
  have hresolve := target.isSilent_resolve hm entity
  rw [follow_some]
  cases hled : (target.resolve m entity).result with
  | error fault =>
      rw [hresolve.trace_bind_of_error hled]
      exact .failed
  | ok next =>
      rw [hresolve.trace_bind_of_ok hled, settle]
      cases hrecord : (moveRecord m state event next).result with
      | error fault =>
          rw [(isSilent_moveRecord hm state event next).trace_bind_of_error hrecord]
          exact .failed
      | ok record =>
          exact absurd ⟨next, record, Target.result_resolve_eq_ok_iff.mp hled, hrecord⟩ h

/-- Where no move is announced, there is a refusal or a failure. -/
theorem tells_of_not_announced
    (h : ¬∃ state rule next record,
      Announced m accessor table entity event state rule next record) :
    Tells m accessor table entity event
      ((transit m accessor table entity event).trace .resolver) := by
  rw [transit_eq_follow]
  cases hread : (accessor.get m entity).result with
  | error fault =>
      rw [(haccessor.get entity).trace_bind_of_error hread]
      exact .failed
  | ok state =>
      have hsearch := table.isSilent_search hm state event
      rw [(haccessor.get entity).trace_bind_of_ok hread]
      cases hfound : (table.search m state event).result with
      | error fault =>
          rw [hsearch.trace_bind_of_error hfound]
          exact .failed
      | ok found =>
          rw [hsearch.trace_bind_of_ok hfound]
          cases found with
          | none => exact tells_of_none hm hread
          | some rule =>
              refine tells_of_some hm fun ⟨next, record, hled, hrecord⟩ => h ?_
              rw [← Target.result_resolve_eq_ok_iff, Rule.lead, Target.resolve_bare,
                Target.result_resolve_eq_ok_iff] at hled
              exact ⟨state, rule, next, record, hread, hfound, hled, hrecord⟩

/-- An attempt is told of as it went exactly if a move that is announced is carried out. -/
theorem tells_iff_carriesOut :
    Tells m accessor table entity event
        ((transit m accessor table entity event).trace .resolver) ↔
      CarriesOut m accessor table entity event := by
  constructor
  · intro htells state rule next record h
    rw [trace_transit_of_announced hm haccessor h] at htells
    cases hset : (accessor.set m entity next).result with
    | error fault =>
        rw [hset] at htells
        cases htells
    | ok copy =>
        rw [hset] at htells
        cases htells with
        | moved h' harrives => exact h'.carriesOut harrives state rule next record h
  · intro hcarries
    by_cases h : ∃ state rule next record,
        Announced m accessor table entity event state rule next record
    · obtain ⟨state, rule, next, record, h⟩ := h
      obtain ⟨copy, harrives⟩ := hcarries state rule next record h
      rw [trace_transit_of_announced hm haccessor h, harrives.written]
      exact .moved h harrives
    · exact tells_of_not_announced hm haccessor h

end Attempts

section Runs

theorem advance_of_moved {copy : Value}
    (h : (transit m accessor table entity event).result = .ok (.moved copy)) :
    advance m accessor table entity event = copy := by
  rw [advance, h]

theorem advance_of_not_moved
    (h : ∀ copy, (transit m accessor table entity event).result ≠ .ok (.moved copy)) :
    advance m accessor table entity event = entity := by
  rcases advance_cases m accessor table entity event with ⟨copy, hmoved, _⟩ | ⟨_, hsame⟩
  · exact absurd hmoved (h copy)
  · exact hsame

/-- What holds of every step of a run holds of its first step and of those of the rest. -/
theorem forall_steps_cons {P : Value → Value → Prop} {rest : List Value} :
    (∀ before other after, event :: rest = before ++ other :: after →
        P (run m accessor table entity before) other) ↔
      P entity event ∧ ∀ before other after, rest = before ++ other :: after →
        P (run m accessor table (advance m accessor table entity event) before) other := by
  constructor
  · intro h
    exact ⟨h [] event rest rfl, fun before other after heq =>
      h (event :: before) other after (congrArg (List.cons event) heq)⟩
  · rintro ⟨hfirst, hrest⟩ before other after heq
    cases before with
    | nil =>
        obtain ⟨rfl, rfl⟩ := List.cons_eq_cons.mp heq
        exact hfirst
    | cons head before =>
        obtain ⟨rfl, rfl⟩ := List.cons_eq_cons.mp heq
        exact hrest before other after rfl

theorem moveLog_cons (rest : List Value) :
    moveLog m accessor table entity (event :: rest) =
      ((transit m accessor table entity event).recordsOf .resolver).filter Record.isMove ++
        moveLog m accessor table (advance m accessor table entity event) rest := by
  rw [moveLog, runLog, List.filter_append]
  rfl

variable (hm : m.IsSilent .resolver) (haccessor : accessor.IsSilent .resolver m)
include hm haccessor

/-- A move that is announced is in the log, whether or not it is carried out. -/
theorem moveLog_cons_of_announced {state next : Value} {rule : Rule} {record : Record}
    (h : Announced m accessor table entity event state rule next record) (rest : List Value) :
    moveLog m accessor table entity (event :: rest) =
      record :: moveLog m accessor table (advance m accessor table entity event) rest := by
  have hlog : (transit m accessor table entity event).recordsOf .resolver = [record] :=
    congrArg Prod.fst (trace_transit_of_announced hm haccessor h)
  rw [moveLog_cons, hlog, List.filter_cons_of_pos (isMove_of_moveRecord h.told)]
  rfl

theorem advance_of_arrives {state next copy : Value} {rule : Rule} {record : Record}
    (h : Announced m accessor table entity event state rule next record)
    (harrives : ArrivesIn m accessor entity next copy) :
    advance m accessor table entity event = copy := by
  apply advance_of_moved
  have hresult := congrArg Prod.snd (trace_transit_of_announced hm haccessor h)
  rw [harrives.written] at hresult
  exact hresult

theorem stays_of_not_announced
    (h : ¬∃ state rule next record,
      Announced m accessor table entity event state rule next record) (rest : List Value) :
    (∀ copy, (transit m accessor table entity event).result ≠ .ok (.moved copy)) ∧
      moveLog m accessor table entity (event :: rest) = moveLog m accessor table entity rest := by
  have hstays : (∀ copy, (transit m accessor table entity event).result ≠ .ok (.moved copy)) ∧
      ((transit m accessor table entity event).recordsOf .resolver).filter Record.isMove = [] := by
    have htells := tells_of_not_announced hm haccessor h
    rw [Act.trace] at htells
    generalize (transit m accessor table entity event).recordsOf .resolver = log at htells ⊢
    generalize (transit m accessor table entity event).result = result at htells ⊢
    cases htells with
    | @moved state next copy rule record hannounced _ =>
        exact absurd ⟨state, rule, next, record, hannounced⟩ h
    | refused _ hrecord => simp [isMove_of_refusalRecord hrecord]
    | failed => simp
  refine ⟨hstays.1, ?_⟩
  rw [moveLog_cons, hstays.2, List.nil_append, advance_of_not_moved hstays.1]

/-- Every move that took place is in the log. -/
theorem Chronicles.length_le {events : List Value} {records : List Record}
    (h : Chronicles m accessor table entity events records) :
    records.length ≤ (moveLog m accessor table entity events).length := by
  induction h with
  | done => exact Nat.le_refl 0
  | moved hannounced harrives _ ih =>
      rw [moveLog_cons_of_announced hm haccessor hannounced,
        advance_of_arrives hm haccessor hannounced harrives]
      exact Nat.succ_le_succ ih
  | stayed hstays _ ih =>
      rw [moveLog_cons, advance_of_not_moved hstays, List.length_append]
      exact Nat.le_add_left_of_le ih

/-- The log of a run is a chronicle of it exactly if each step carries out what it announces. -/
theorem chronicles_iff_carriesOut (entity : Value) (events : List Value) :
    Chronicles m accessor table entity events (moveLog m accessor table entity events) ↔
      ∀ before event after, events = before ++ event :: after →
        CarriesOut m accessor table (run m accessor table entity before) event := by
  induction events generalizing entity with
  | nil => exact iff_of_true .done fun before event after heq => by simp at heq
  | cons event rest ih =>
      rw [forall_steps_cons (P := CarriesOut m accessor table), ← ih]
      by_cases h : ∃ state rule next record,
          Announced m accessor table entity event state rule next record
      · obtain ⟨state, rule, next, record, h⟩ := h
        rw [moveLog_cons_of_announced hm haccessor h]
        constructor
        · intro hchronicle
          cases hchronicle with
          | moved h' harrives hrest =>
              rw [advance_of_arrives hm haccessor h' harrives] at hrest ⊢
              exact ⟨h'.carriesOut harrives, hrest⟩
          | stayed hstays hrest =>
              -- What is left of the run has no room for a move that did not take place.
              have hlength := hrest.length_le hm haccessor
              rw [advance_of_not_moved hstays, List.length_cons] at hlength
              omega
        · rintro ⟨hcarries, hrest⟩
          obtain ⟨copy, harrives⟩ := hcarries state rule next record h
          rw [advance_of_arrives hm haccessor h harrives] at hrest ⊢
          exact .moved h harrives hrest
      · obtain ⟨hstays, hlog⟩ := stays_of_not_announced hm haccessor h rest
        have hcarries : CarriesOut m accessor table entity event :=
          fun state rule next record hannounced => absurd ⟨state, rule, next, record, hannounced⟩ h
        rw [hlog, advance_of_not_moved hstays]
        constructor
        · intro hchronicle
          refine ⟨hcarries, ?_⟩
          generalize moveLog m accessor table entity rest = records at hchronicle ⊢
          cases hchronicle with
          | moved hannounced => exact absurd ⟨_, _, _, _, hannounced⟩ h
          | stayed _ hrest => exact hrest
        · rintro ⟨_, hrest⟩
          exact .stayed hstays hrest

end Runs

section Kept

variable {attr : Value} {name : String} (hattr : attr.text? = some name)
include hattr

theorem Accessor.IsReady.carriesOut (h : IsReady m (field attr name) name entity) :
    CarriesOut m (field attr name) table entity event := by
  intro state rule next record _
  obtain ⟨copy, hcopy⟩ := h.returns hattr next
  exact ⟨copy, hcopy, (h.after hattr hcopy).2⟩

theorem Accessor.IsReady.advance (h : IsReady m (field attr name) name entity) :
    IsReady m (field attr name) name
      (StateRules.advance m (field attr name) table entity event) := by
  rcases advance_cases m (field attr name) table entity event with
    ⟨copy, hmoved, hcopy⟩ | ⟨_, hsame⟩
  · obtain ⟨state, rule, next, hmove⟩ := exists_move hmoved
    rw [hcopy]
    exact (h.after hattr hmove.written).1
  · rwa [hsame]

/-- Where the class leaves reading and copying as they are, every step of a run carries out what it
announces. -/
theorem Accessor.IsReady.carriesOut_run (h : IsReady m (field attr name) name entity)
    (events : List Value) (event : Value) :
    CarriesOut m (field attr name) table (run m (field attr name) table entity events) event := by
  have hready : IsReady m (field attr name) name (run m (field attr name) table entity events) := by
    induction events using List.reverseRecOn with
    | nil => exact h
    | append_singleton events last ih =>
        rw [run_concat]
        exact ih.advance hattr
  exact hready.carriesOut hattr

end Kept

/-- The resolver's log of an attempt to move an entity tells the truth exactly if a move that it
announces is carried out, that is if the next state can be written and the copy is in it. A log that
tells the truth has the record of a move just if the entity moved, that of a refusal just if it may
not move, and none if something failed.

Over a run, the records of moves are those of the moves that took place, in order, exactly if each
step carries out what it announces. This is so wherever an entity can be copied with some state and
its class leaves reading and copying as they are. -/
theorem moves_are_logged_iff_carried_out {m : Interpretation} {accessor : Accessor}
    (hm : m.IsSilent .resolver) (haccessor : accessor.IsSilent .resolver m) (table : Table) :
    (∀ entity event,
      Tells m accessor table entity event
          ((transit m accessor table entity event).trace .resolver) ↔
        CarriesOut m accessor table entity event) ∧
    (∀ entity event log result, Tells m accessor table entity event (log, result) →
      ((∃ record ∈ log, record.isMove = true) ↔ ∃ copy, result = .ok (.moved copy)) ∧
      ((∃ record ∈ log, record.isMove = false) ↔ result = .ok .notAllowed) ∧
      (log = [] ↔ ∃ fault, result = .error fault)) ∧
    (∀ entity events,
      Chronicles m accessor table entity events (moveLog m accessor table entity events) ↔
        ∀ before event after, events = before ++ event :: after →
          CarriesOut m accessor table (run m accessor table entity before) event) ∧
    ∀ attr name, attr.text? = some name → accessor = .field attr name →
      ∀ entity, accessor.IsReady m name entity → ∀ events,
        Chronicles m accessor table entity events (moveLog m accessor table entity events) := by
  have hruns := @chronicles_iff_carriesOut m accessor table hm haccessor
  refine ⟨fun _ _ => tells_iff_carriesOut hm haccessor, fun _ _ _ _ => Tells.kinds, hruns, ?_⟩
  rintro attr name hattr rfl entity hready events
  exact (hruns entity events).mpr fun before event _ _ => hready.carriesOut_run hattr before event

/-- A new order is not checked, then it is paid, and then it is checked and held back. Its moves are
all in the log. -/
theorem moves_are_logged_orders :
    ∃ table, (build holding guardedOrders).result = .ok table ∧
      (moveLog holding .standard table (order 0 "new")
        [.text "check", .text "pay", .text "check"]).map Record.text =
          ["Transit: 'new' --pay--> 'paid'", "Transit: 'paid' --check--> 'held'"] ∧
      Chronicles holding .standard table (order 0 "new") [.text "check", .text "pay", .text "check"]
        (moveLog holding .standard table (order 0 "new")
          [.text "check", .text "pay", .text "check"]) := by
  have hm : holding.IsSilent .resolver := by
    refine Interpretation.isSilent_upTo (fun _ => ?_) 1
    intro m _
    exact .pure _
  have hbuild : (build holding guardedOrders).result = .ok _ := rfl
  obtain ⟨_, _, hruns, _⟩ := moves_are_logged_iff_carried_out hm (Accessor.isSilent_field hm _ _) _
  refine ⟨_, hbuild, rfl, (hruns _ _).mpr ?_⟩
  refine forall_steps_cons.mpr ⟨?_, forall_steps_cons.mpr ⟨?_, forall_steps_cons.mpr ⟨?_, ?_⟩⟩⟩
  · intro state rule next record h
    obtain rfl : .text "new" = state := Except.ok.inj h.read
    cases h.found
  · exact Announced.carriesOut ⟨rfl, rfl, rfl, rfl⟩ ⟨rfl, rfl⟩
  · exact Announced.carriesOut ⟨rfl, rfl, rfl, rfl⟩ ⟨rfl, rfl⟩
  · intro before event after heq
    simp at heq

/-- A new order of a class whose objects are given their state later on. -/
def lateOrder : Value :=
  .object ⟨"Order", "Order", .record, ["state"], ["state"], [], "Order", none, false, false, false⟩
    [] ⟨1, 0⟩ [("state", .text "new")]

/-- A move may be in the log although it fails. The state of a late order can be read but not be
given to a copy. -/
theorem failed_move_is_logged :
    (¬∀ (m : Interpretation) (accessor : Accessor) (declarations : List Value) (table : Table)
        (entity event state : Value), m.IsSilent .resolver → accessor.IsSilent .resolver m →
      (build m declarations).result = .ok table → (accessor.get m entity).result = .ok state →
        Tells m accessor table entity event
          ((transit m accessor table entity event).trace .resolver)) ∧
    ¬∀ (m : Interpretation) (accessor : Accessor) (declarations : List Value) (table : Table)
        (entity state : Value) (events : List Value), m.IsSilent .resolver →
      accessor.IsSilent .resolver m → (build m declarations).result = .ok table →
        (accessor.get m entity).result = .ok state →
          Chronicles m accessor table entity events (moveLog m accessor table entity events) := by
  let declarations : List Value :=
    [.declaration (.simple (.text "new") (.text "paid") (.text "pay"))]
  have hm := Interpretation.isSilent_exhausted .resolver
  have haccessor : Accessor.standard.IsSilent .resolver .exhausted := Accessor.isSilent_field hm _ _
  constructor
  · intro hall
    have htells := hall .exhausted .standard declarations _ lateOrder (.text "pay") (.text "new")
      hm haccessor rfl rfl
    cases htells
  · intro hall
    have hchronicle := hall .exhausted .standard declarations _ lateOrder (.text "new")
      [.text "pay"] hm haccessor rfl rfl
    have hcarries := (chronicles_iff_carriesOut hm haccessor _ _).mp hchronicle [] _ [] rfl
    obtain ⟨copy, harrives⟩ := hcarries _ _ _ _ ⟨rfl, rfl, rfl, rfl⟩
    cases harrives.written

end StateRules
