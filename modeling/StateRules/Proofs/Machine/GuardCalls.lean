import StateRules.Proofs.Machine.Laziness
import StateRules.Proofs.Machine.Sighting
import StateRules.Proofs.Table.Reguarding
import StateRules.Proofs.Table.Run

/-!
When guards are called.

A guard is called in one place: behind the search that found its rule, with the entity as it was
given (`Machine.transitBy_eq_consult`). What comes before that is the same act whatever the guards
of the table are (`Machine.sight_reguard`), and what comes behind it has nothing of the guard but
the value that it gave (`Machine.conclude`). Everything else that can be asked of a machine, its
initialisation included, is the same act with other guards or no act at all
(`Machine.preparation_reguard`, `Machine.canTransitBy_reguard`).

So each request of a run makes the calls of what comes before the guard, those of the guard if its
rule has one, and those of what comes behind it (`Machine.calls_respond`), and a run makes these in
turn.
-/

namespace StateRules

/-- A guard that is called, and the entity that it is called with. -/
structure Consultation where
  guard : Value
  entity : Value

/-- The calls that come of calling a guard, which are its own and those that it makes. -/
def Consultation.calls (m : Interpretation) (c : Consultation) : List Call :=
  (m.call c.guard (.ofList [c.entity])).calls

namespace Sighting

/-- The guard of the rule that was found, if it has one. -/
def guard? : Sighting → Option Value
  | foreign => none
  | known _ found => found.bind Rule.guard?

/-- A sighting by a table with other guards. -/
def reguard (f : Value → Value) : Sighting → Sighting
  | foreign => foreign
  | known state found => known state (found.map (Rule.reguard f))

/-- A sighting by a table that has lost its guards. -/
def unguarded (seen : Sighting) : Sighting := seen.reguard fun _ => .unset

variable {f : Value → Value}

theorem guard?_reguard (seen : Sighting) : (seen.reguard f).guard? = seen.guard?.map f := by
  match seen with
  | foreign => rfl
  | known _ none => rfl
  | known _ (some ⟨_, _, .literal _⟩) => rfl
  | known _ (some ⟨_, _, .guarded _ _⟩) => rfl

theorem guard?_eq_some_iff {seen : Sighting} {guard : Value} :
    seen.guard? = some guard ↔
      ∃ state rule, seen = known state (some rule) ∧ rule.guard? = some guard := by
  match seen with
  | foreign => exact iff_of_false nofun nofun
  | known _ none => exact iff_of_false nofun nofun
  | known state (some rule) =>
      refine ⟨fun h => ⟨state, rule, rfl, h⟩, ?_⟩
      rintro ⟨_, _, ⟨⟩, h⟩
      exact h

theorem unguarded_reguard (seen : Sighting) : (seen.reguard f).unguarded = seen.unguarded := by
  match seen with
  | foreign => rfl
  | known _ none => rfl
  | known _ (some ⟨_, _, .literal _⟩) => rfl
  | known _ (some ⟨_, _, .guarded _ _⟩) => rfl

theorem isPromising_reguard (seen : Sighting) :
    (seen.reguard f).isPromising = seen.isPromising := by
  cases seen with
  | foreign => rfl
  | known state found => exact Option.isSome_map

end Sighting

namespace Table

variable {m : Interpretation} {state event : Value} {f : Value → Value}

/-- Searching does not look at guards. -/
theorem searchFrom_reguard (i : Nat) (rules : List Rule) :
    searchFrom m state event i (rules.map (Rule.reguard f)) = searchFrom m state event i rules := by
  induction rules generalizing i with
  | nil => rfl
  | cons rule rest ih =>
      rw [List.map_cons, searchFrom, searchFrom, ih]
      rfl

theorem search_reguard (table : Table) :
    (table.reguard f).search m state event =
      Option.map (Rule.reguard f) <$> table.search m state event := by
  have hindex : (table.reguard f).searchIndex m state event = table.searchIndex m state event :=
    searchFrom_reguard 0 table.rules
  simp only [search, hindex, map_bind, map_pure]
  refine congrArg _ (funext fun found => congrArg pure ?_)
  cases found with
  | none => rfl
  | some i => exact List.getElem?_map

end Table

namespace Machine

/-- Calls the guard of the rule that was found, if it has one, with the entity. -/
def consult (m : Interpretation) (entity : Value) (seen : Sighting) : Act (Option Value) :=
  match seen.guard? with
  | none => pure none
  | some guard => some <$> m.call guard (.ofList [entity])

/-- Goes on with an entity once the guard that there may be has given a value, which is the next
state then, whatever it is. -/
def conclude (m : Interpretation) (machine : Machine) (accessor : Accessor) (entity event : Value)
    (seen : Sighting) (given : Option Value) : Act Outcome :=
  match seen with
  | .foreign => machine.turnAway entity
  | .known state none => follow m accessor entity event state none
  | .known state (some rule) =>
      settle m accessor entity event state (given.getD rule.destination)

variable {m : Interpretation} {machine : Machine} {entity event : Value} {f : Value → Value}

theorem proceed_eq_consult (accessor : Accessor) (seen : Sighting) :
    machine.proceed m accessor entity event seen =
      consult m entity seen >>= machine.conclude m accessor entity event seen.unguarded := by
  match seen with
  | .foreign => rfl
  | .known _ none => rfl
  | .known _ (some ⟨_, _, .literal _⟩) => rfl
  | .known state (some ⟨_, _, .guarded guard _⟩) =>
      show m.call guard _ >>= settle m accessor entity event state = some <$> m.call guard _ >>= _
      rw [map_eq_pure_bind, bind_assoc]
      rfl

/-- A guard is called between looking at an entity and going on with it, and by neither. -/
theorem transitBy_eq_consult (accessor : Option Accessor) (table : Table) :
    machine.transitBy m accessor (some table) entity event = (do
      let seen ← machine.sight m (accessor.getD .standard) table entity event
      let given ← consult m entity seen
      machine.conclude m (accessor.getD .standard) entity event seen.unguarded given) := by
  rw [transitBy_eq]
  exact congrArg _ (funext fun seen => proceed_eq_consult _ seen)

/-- Looking at an entity is the same act whatever the guards are. -/
theorem sight_reguard (accessor : Accessor) (table : Table) :
    machine.sight m accessor (table.reguard f) entity event =
      Sighting.reguard f <$> machine.sight m accessor table entity event := by
  simp only [sight, map_bind, table.search_reguard]
  refine congrArg _ (funext fun isAdmitted => ?_)
  cases isAdmitted with
  | false => rfl
  | true =>
      simp only [if_true, bind_map_left, map_bind, map_pure]
      rfl

/-- Asking whether an entity can move is the same act whatever the guards are. -/
theorem canTransitBy_reguard (accessor : Option Accessor) (table : Table) :
    machine.canTransitBy m accessor (some (table.reguard f)) entity event =
      machine.canTransitBy m accessor (some table) entity event := by
  cases accessor with
  | none => rfl
  | some accessor =>
      rw [canTransitBy_eq, canTransitBy_eq, sight_reguard, map_eq_pure_bind, bind_assoc]
      exact congrArg _ (funext fun seen => congrArg pure seen.isPromising_reguard)

/-- The initialisation of a machine is the same act with other guards that look the same. -/
theorem preparation_reguard (hf : ∀ guard, Value.LooksLike m guard (f guard))
    (declarations : List Value) :
    machine.preparation m (declarations.map (Value.reguard f)) =
      Prod.map id (Table.reguard f) <$> machine.preparation m declarations := by
  have hrecord (table : Table) : machine.record (table.reguard f) = machine.record table := by
    simp [record, Table.reguard]
  simp only [preparation, build_reguard hf, map_bind, map_pure, bind_map_left, hrecord]
  rfl

section Calls

variable (m : Interpretation) (machine : Machine) (accessor : Option Accessor) (table : Table)

/-- The guard that a request calls, and the entity that it calls it with. Only a move calls one, and
only if a rule was found for it that has one. -/
def consultation? : Request → Option Consultation
  | .transit entity event =>
      match (machine.sight m (accessor.getD .standard) table entity event).result with
      | .error _ => none
      | .ok seen => seen.guard?.map fun guard => ⟨guard, entity⟩
  | _ => none

/-- The calls that a request makes before any guard is called, by a table that has lost its
guards. -/
def callsBefore : Request → List Call
  | .transit entity event =>
      (machine.sight m (accessor.getD .standard) (table.reguard fun _ => .unset) entity event).calls
  | .canTransit entity event =>
      (machine.canTransitBy m accessor (some (table.reguard fun _ => .unset)) entity event).calls
  | _ => []

/-- The calls that a request makes once the guard that there may be has given a value. -/
def callsAfter : Request → List Call
  | .transit entity event =>
      match (machine.sight m (accessor.getD .standard) table entity event).result with
      | .error _ => []
      | .ok seen =>
          match (consult m entity seen).result with
          | .error _ => []
          | .ok given =>
              (machine.conclude m (accessor.getD .standard) entity event seen.unguarded given).calls
  | _ => []

variable {m machine accessor table}

theorem calls_consult (entity : Value) (seen : Sighting) :
    (consult m entity seen).calls =
      (seen.guard?.map fun guard => Consultation.mk guard entity).toList.flatMap
        (Consultation.calls m) := by
  unfold consult
  cases seen.guard? with
  | none => rfl
  | some guard => simp [Consultation.calls]

/-- A request makes the calls of what comes before a guard, those of the guard, and those of what
comes behind it. -/
theorem calls_respond (request : Request) :
    (machine.respond m accessor table request).calls =
      machine.callsBefore m accessor table request ++
        (machine.consultation? m accessor table request).toList.flatMap (Consultation.calls m) ++
        machine.callsAfter m accessor table request := by
  cases request with
  | canTransit entity event =>
      simp [respond, callsBefore, consultation?, callsAfter, canTransitBy_reguard]
  | transit entity event =>
      have hrespond : machine.respond m accessor table (.transit entity event) =
          Answer.outcome <$> machine.transitBy m accessor (some table) entity event :=
        (map_eq_pure_bind _ _).symm
      have hbefore : machine.callsBefore m accessor table (.transit entity event) =
          (machine.sight m (accessor.getD .standard) table entity event).calls := by
        rw [callsBefore, sight_reguard, Act.calls_map]
      rw [hrespond, Act.calls_map, transitBy_eq_consult, hbefore, consultation?, callsAfter]
      cases hsight :
          (machine.sight m (accessor.getD .standard) table entity event).result with
      | error fault => simp [Act.bind_of_error hsight]
      | ok seen =>
          rw [Act.bind_of_ok hsight]
          cases hgiven : (consult m entity seen).result with
          | error fault => simp [Act.bind_of_error hgiven, hgiven, calls_consult]
          | ok given => simp [Act.bind_of_ok hgiven, hgiven, calls_consult]
  | _ => rfl

/-- A run makes the calls of its initialisation first, and then those of its requests in turn. -/
theorem calls_serveAll {declarations : List Value}
    (hdeclarations : machine.declarations = pure (.list declarations))
    (hresult : (machine.preparation m declarations).result = .ok (accessor, table))
    (request : Request) (rest : List Request) :
    (machine.serveAll m (request :: rest) .fresh).2.flatMap Act.calls =
      (machine.preparation m declarations).calls ++
        (request :: rest).flatMap fun request =>
          machine.callsBefore m accessor table request ++
            (machine.consultation? m accessor table request).toList.flatMap
              (Consultation.calls m) ++
            machine.callsAfter m accessor table request := by
  rw [serveAll_of_ok hdeclarations rfl hresult]
  simp only [List.flatMap_cons, List.flatMap_map, Act.bind_of_ok hresult, calls_respond,
    List.append_assoc]

/-- Where nothing but guards makes any calls, requests make those of the guards that they call. -/
theorem flatMap_calls_of_quiet {requests : List Request}
    (hquiet : ∀ request ∈ requests, machine.callsBefore m accessor table request = [] ∧
      machine.callsAfter m accessor table request = []) :
    (requests.flatMap fun request =>
        machine.callsBefore m accessor table request ++
          (machine.consultation? m accessor table request).toList.flatMap (Consultation.calls m) ++
          machine.callsAfter m accessor table request) =
      (requests.filterMap (machine.consultation? m accessor table)).flatMap
        (Consultation.calls m) := by
  rw [List.filterMap_eq_flatMap_toList, List.flatMap_assoc]
  refine List.flatMap_congr fun request hrequest => ?_
  obtain ⟨hbefore, hafter⟩ := hquiet request hrequest
  simp [hbefore, hafter]

end Calls

/-- How a machine keeps to its guards by an accessor and a table that it has. -/
structure IsDisciplined (m : Interpretation) (machine : Machine) (accessor : Option Accessor)
    (table : Table) : Prop where
  /-- What is neither a move nor a question about one does nothing. -/
  lists : ∀ request, (∀ entity event, request ≠ .transit entity event ∧
    request ≠ .canTransit entity event) →
      ∃ answer, machine.respond m accessor table request = pure answer
  /-- A question about a move is the same act whatever the guards are. -/
  asks : ∀ f entity event, machine.canTransitBy m accessor (some (table.reguard f)) entity event =
    machine.canTransitBy m accessor (some table) entity event
  /-- So is what a move begins with. -/
  looks : ∀ f entity event,
    machine.sight m (accessor.getD .standard) (table.reguard f) entity event =
      Sighting.reguard f <$> machine.sight m (accessor.getD .standard) table entity event
  /-- The guard that is called then, if there is one, is called once and with the entity as it was
  given; nothing of the guard but what it gave reaches the rest. -/
  moves : ∀ entity event, machine.transitBy m accessor (some table) entity event = (do
    let seen ← machine.sight m (accessor.getD .standard) table entity event
    let given ← consult m entity seen
    machine.conclude m (accessor.getD .standard) entity event seen.unguarded given)
  /-- It is the guard of the first rule that covers the state of the entity and the event. -/
  called : ∀ request c, machine.consultation? m accessor table request = some c ↔
    ∃ event state rule, request = .transit c.entity event ∧
      (machine.binding.admits m c.entity).result = .ok true ∧
      ((accessor.getD .standard).get m c.entity).result = .ok state ∧
      IsFirst (Rule.Declines m state event) table.rules rule ∧ rule.Applies m state event ∧
      rule.guard? = some c.guard
  /-- A move that calls no guard is the same act whatever the guards are. -/
  idle : ∀ entity event, machine.consultation? m accessor table (.transit entity event) = none →
    ∀ f, machine.transitBy m accessor (some (table.reguard f)) entity event =
      machine.transitBy m accessor (some table) entity event
  /-- What a guard gives becomes the next state, whatever it is, in the catalog or not, exactly if
  the record of the move can be written, and the state set. -/
  unchecked : ∀ entity event guard next,
    machine.consultation? m accessor table (.transit entity event) = some ⟨guard, entity⟩ →
      (m.call guard (.ofList [entity])).result = .ok next →
        ∃ state, ((accessor.getD .standard).get m entity).result = .ok state ∧
          (machine.transitBy m accessor (some table) entity event).result =
            (settle m (accessor.getD .standard) entity event state next).result ∧
          ∀ copy, (machine.transitBy m accessor (some table) entity event).result =
              .ok (.moved copy) ↔
            (∃ record, (moveRecord m state event next).result = .ok record) ∧
              ((accessor.getD .standard).set m entity next).result = .ok copy

variable {accessor : Option Accessor} {table : Table}

theorem consultation?_eq_some_iff {request : Request} {c : Consultation} :
    machine.consultation? m accessor table request = some c ↔
      ∃ event state rule, request = .transit c.entity event ∧
        (machine.sight m (accessor.getD .standard) table c.entity event).result =
          .ok (.known state (some rule)) ∧ rule.guard? = some c.guard := by
  cases request with
  | transit entity event =>
      constructor
      · intro h
        rw [consultation?] at h
        cases hsight :
            (machine.sight m (accessor.getD .standard) table entity event).result with
        | error fault => simp [hsight] at h
        | ok seen =>
            simp only [hsight] at h
            obtain ⟨guard, hseen, rfl⟩ := Option.map_eq_some_iff.mp h
            obtain ⟨state, rule, rfl, hguard⟩ := Sighting.guard?_eq_some_iff.mp hseen
            exact ⟨event, state, rule, rfl, hsight, hguard⟩
      · rintro ⟨_, state, rule, ⟨⟩, hsight, hguard⟩
        simp [consultation?, hsight, Sighting.guard?, hguard]
  | _ =>
      refine iff_of_false nofun ?_
      rintro ⟨_, _, _, ⟨⟩, _⟩

/-- Where a move calls no guard, the guards of all the rules make no difference to it. -/
theorem transitBy_reguard_of_idle
    (h : machine.consultation? m accessor table (.transit entity event) = none)
    (f : Value → Value) :
    machine.transitBy m accessor (some (table.reguard f)) entity event =
      machine.transitBy m accessor (some table) entity event := by
  rw [transitBy_eq_consult, transitBy_eq_consult, sight_reguard, bind_map_left]
  cases hsight : (machine.sight m (accessor.getD .standard) table entity event).result with
  | error fault => rw [Act.bind_of_error hsight, Act.bind_of_error hsight]
  | ok seen =>
      have hseen : seen.guard? = none := by simpa [consultation?, hsight] using h
      refine Act.bind_congr_of_ok hsight ?_
      rw [consult, consult, seen.guard?_reguard, seen.unguarded_reguard, hseen]
      rfl

theorem isDisciplined (accessor : Option Accessor) (table : Table) :
    machine.IsDisciplined m accessor table := by
  refine ⟨fun request hrequest => ?_, fun _ _ _ => canTransitBy_reguard accessor table,
    fun _ _ _ => sight_reguard _ table, fun _ _ => transitBy_eq_consult accessor table,
    fun request c => ?_, fun entity event hnone f => ?_,
    fun entity event guard next hcall hnext => ?_⟩
  · cases request with
    | transit entity event => exact absurd rfl (hrequest entity event).1
    | canTransit entity event => exact absurd rfl (hrequest entity event).2
    | _ => exact ⟨_, rfl⟩
  · rw [consultation?_eq_some_iff]
    simp only [result_sight_eq_ok_known_iff, Table.result_search_eq_ok_some_iff, and_assoc]
  · exact transitBy_reguard_of_idle hnone f
  · obtain ⟨_, state, rule, hrequest, hsight, hguard⟩ := consultation?_eq_some_iff.mp hcall
    cases hrequest
    have hgiven : (consult m entity (.known state (some rule))).result = .ok (some next) := by
      have hseen : (Sighting.known state (some rule)).guard? = some guard := hguard
      rw [consult, hseen]
      exact Act.result_map_eq_ok_iff.mpr ⟨next, hnext, rfl⟩
    have hsettled : (machine.transitBy m accessor (some table) entity event).result =
        (settle m (accessor.getD .standard) entity event state next).result := by
      rw [transitBy_eq_consult, Act.result_bind_of_ok hsight, Act.result_bind_of_ok hgiven]
      rfl
    refine ⟨state, (result_sight_eq_ok_known_iff.mp hsight).2.1, hsettled, fun copy => ?_⟩
    rw [hsettled, result_settle_eq_ok_moved_iff]

end Machine

/-- Guards are called by moves alone, and a move calls at most the guard of the first rule that
covers the state of its entity and its event, once, with the entity as it was given; what the guard
gives becomes the next state unchecked, as soon as the record of the move can be written
(`Machine.IsDisciplined`). Without a machine a table is no different. States, events and what a
guard gives are any values (see `StateRules.Proofs.Table.Search`).

Building declarations and initialising a machine with them come to the same with other guards that
look the same. In a run of requests to a machine as it is defined, the calls are those of the
initialisation, and then for each request those of what comes before the guard, of the guard that is
called, if any, and of what comes behind it. Where nothing but guards makes any, they are the calls
of the guards in the order of the requests, and no others. -/
theorem guards_are_called_by_moves_alone {m : Interpretation} {machine : Machine}
    {declarations : List Value} (hdeclarations : machine.declarations = pure (.list declarations)) :
    (∀ accessor table, machine.IsDisciplined m accessor table) ∧
    (machine.binding = .anything → ∀ accessor table entity event,
      machine.transitBy m (some accessor) (some table) entity event =
        transit m accessor table entity event) ∧
    (∀ f : Value → Value, (∀ guard, Value.LooksLike m guard (f guard)) →
      build m (declarations.map (Value.reguard f)) = Table.reguard f <$> build m declarations ∧
        machine.preparation m (declarations.map (Value.reguard f)) =
          Prod.map id (Table.reguard f) <$> machine.preparation m declarations) ∧
    (∀ fault, (machine.preparation m declarations).result = .error fault → ∀ requests,
      (machine.serveAll m requests .fresh).2 = requests.map fun _ =>
        machine.preparation m declarations >>= fun _ => Act.fail fault) ∧
    ∀ accessor table, (machine.preparation m declarations).result = .ok (accessor, table) →
      ∀ request rest,
        (machine.serveAll m (request :: rest) .fresh).2.flatMap Act.calls =
          (machine.preparation m declarations).calls ++
            (request :: rest).flatMap (fun request =>
              machine.callsBefore m accessor table request ++
                (machine.consultation? m accessor table request).toList.flatMap
                  (Consultation.calls m) ++
                machine.callsAfter m accessor table request) ∧
        ((machine.preparation m declarations).calls = [] →
          (∀ other ∈ request :: rest, machine.callsBefore m accessor table other = [] ∧
            machine.callsAfter m accessor table other = []) →
          (machine.serveAll m (request :: rest) .fresh).2.flatMap Act.calls =
            ((request :: rest).filterMap (machine.consultation? m accessor table)).flatMap
              (Consultation.calls m)) := by
  refine ⟨Machine.isDisciplined, fun hanything accessor table entity event => ?_,
    fun f hf => ⟨build_reguard hf declarations, Machine.preparation_reguard hf declarations⟩,
    fun fault hfault requests => ?_, fun accessor table hresult request rest => ⟨?_, ?_⟩⟩
  · rw [Machine.transitBy, hanything]
    rfl
  · have hfresh : Session.fresh.isInitialized = false := rfl
    obtain ⟨kept, hserved, _⟩ := Machine.serveAll_of_error hdeclarations hfresh hfault requests
    rw [hserved]
  · exact Machine.calls_serveAll hdeclarations hresult request rest
  · intro hpreparation hquiet
    rw [Machine.calls_serveAll hdeclarations hresult, Machine.flatMap_calls_of_quiet hquiet,
      hpreparation, List.nil_append]

/-- Orders are inspected when they are paid, which is declared three times over. -/
def inspections : List Value :=
  [.declaration (.eventBlock (.text "pay")
      [.declaration (.simple (.text "new") (.text "paid") .null),
        .declaration (.simple (.text "new") .unset .null),
        .declaration (.simple .any .unset .null)] orderGuard),
    .declaration (.simple (.text "paid") (.text "sent") (.text "send"))]

def inspectionDesk : Machine :=
  ⟨"InspectionDesk", .anything, pure (some .standard), pure (.list inspections)⟩

def inspectionTable : Table where
  rules :=
    [⟨.text "new", .text "pay", .guarded orderGuard (.text "paid")⟩,
      ⟨.text "new", .text "pay", .guarded orderGuard .unset⟩,
      ⟨.text "new", .text "pay", .guarded orderGuard .unset⟩,
      ⟨.text "paid", .text "pay", .guarded orderGuard .unset⟩,
      ⟨.text "paid", .text "send", .literal (.text "sent")⟩]
  states := [.text "new", .text "paid", .text "sent"]
  events := [.text "pay", .text "send"]

/-- Another function that goes by the same name, in the place of each. -/
def impostor : Value → Value
  | .function f label => .function ⟨"impostor", f.shown⟩ label
  | v => v

/-- Of all that is asked of the desk only the payment calls the guard, and that once, with the new
order. The order is held then, which is no state that the desk has. -/
theorem guards_are_called_by_moves_alone_inspectionDesk :
    inspectionDesk.declarations = pure (.list inspections) ∧
      build holding (inspections.map (Value.reguard impostor)) =
        Table.reguard impostor <$> build holding inspections ∧
      (inspectionDesk.serveAll holding
        [.canTransit newOrder (.text "pay"), .listTransitions, .transit newOrder (.text "send"),
          .transit newOrder (.text "pay"), .transit (inState (.text "paid")) (.text "send")]
        .fresh).2.flatMap Act.calls = [⟨"check", newOrder⟩] ∧
      (inspectionDesk.transitBy holding (some .standard) (some inspectionTable) newOrder
        (.text "pay")).result = .ok (.moved (inState (.text "held"))) := by
  have hdeclarations : inspectionDesk.declarations = pure (.list inspections) := rfl
  have hbuild : (build holding inspections).result = .ok inspectionTable := rfl
  have hresult : (inspectionDesk.preparation holding inspections).result =
      .ok (some .standard, inspectionTable) :=
    Machine.result_preparation_eq_ok_iff.mpr ⟨rfl, hbuild⟩
  have himpostor (guard : Value) : guard.LooksLike holding (impostor guard) := by
    cases guard <;> exact ⟨rfl, rfl, rfl, rfl⟩
  obtain ⟨-, -, hbuilt, -, hruns⟩ := guards_are_called_by_moves_alone hdeclarations
  have hrun := (hruns _ _ hresult (.canTransit newOrder (.text "pay"))
    [.listTransitions, .transit newOrder (.text "send"), .transit newOrder (.text "pay"),
      .transit (inState (.text "paid")) (.text "send")]).2 rfl
  refine ⟨hdeclarations, (hbuilt impostor himpostor).1, (hrun ?_).trans rfl, rfl⟩
  simp only [List.forall_mem_cons]
  exact ⟨⟨rfl, rfl⟩, ⟨rfl, rfl⟩, ⟨rfl, rfl⟩, ⟨rfl, rfl⟩, ⟨rfl, rfl⟩, nofun⟩

/-- What a guard gives need not become the next state, although it can be set: where it cannot be
written, as a draft that has no title yet, the move fails. -/
theorem given_state_is_lost_of_unwritable :
    ¬∀ (m : Interpretation) (machine : Machine) (accessor : Accessor) (table : Table)
        (entity event guard next copy : Value),
      machine.consultation? m (some accessor) table (.transit entity event) = some ⟨guard, entity⟩ →
        (m.call guard (.ofList [entity])).result = .ok next →
          (accessor.set m entity next).result = .ok copy →
            (machine.transitBy m (some accessor) (some table) entity event).result =
              .ok (.moved copy) := by
  intro hall
  have hmoved := hall drafting inspectionDesk .standard inspectionTable newOrder (.text "pay")
    orderGuard untitled (inState untitled) rfl rfl rfl
  cases hmoved

end StateRules
