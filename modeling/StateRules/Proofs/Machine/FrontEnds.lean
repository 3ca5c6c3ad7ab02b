import StateRules.Proofs.Entity.Attachment
import StateRules.Proofs.Machine.Laziness

/-!
Three ways to move an entity by the same declarations.

An entity may be handed to the table of the declarations together with an accessor; it may be
handed to a machine that goes by the declarations; or it may move by itself, as an object of a
class that they are bound to. The machine builds its table when it is first used, the class when
it is bound, and each looks at the name of the field before the declarations, so both fail alike
(`refusedAlike_of_error`).

What is compared is a whole chain of moves, each going on with what the one before has left
(`chain`). Chains are the same if the moves are from each entity that they come by
(`chain_congr`), and what every copy keeps holds of all of these (`forall_mem_stations`). A
machine gives in to its initialisation once (`Machine.chain_fresh`). An object has to go on
offering the operation that is attached to its class, which ordinary objects do
(`Binding.isMover_of_moved`), but not all (`front_ends_disagree_of_own_copy`).
-/

namespace StateRules

/-- The entity to go on with: the copy if it moved, and the same if it may not move or something
failed. -/
def Act.goesOn (act : Act Outcome) (entity : Value) : Value :=
  match act.result with
  | .ok (.moved copy) => copy
  | _ => entity

/-- What the moves come to that an entity makes on some events, each going on with what the one
before has left. -/
def chain (move : Value → Value → Act Outcome) : Value → List Value → List (Act Outcome)
  | _, [] => []
  | entity, event :: rest =>
      let act := move entity event
      act :: chain move (act.goesOn entity) rest

/-- The entities that these moves start from. -/
def stations (move : Value → Value → Act Outcome) : Value → List Value → List Value
  | _, [] => []
  | entity, event :: rest => entity :: stations move ((move entity event).goesOn entity) rest

/-- What such moves come to on a machine. -/
def Machine.chain (m : Interpretation) (machine : Machine) :
    Session → Value → List Value → List (Act Outcome)
  | _, _, [] => []
  | session, entity, event :: rest =>
      let (kept, act) := machine.transit m entity event session
      act :: machine.chain m kept (act.goesOn entity) rest

/-- The machine of some declarations for entities of any kind that keep their state in a field. -/
def Machine.byField (m : Interpretation) (name : String) (attr : Value)
    (declarations : List Value) : Machine :=
  ⟨name, .anything, some <$> Accessor.ofField m attr, pure (.list declarations)⟩

section Chains

variable {m : Interpretation} {move move' : Value → Value → Act Outcome}

theorem chain_congr {entity : Value} {events : List Value}
    (h : ∀ e ∈ stations move entity events, ∀ event, move' e event = move e event) :
    chain move' entity events = chain move entity events := by
  induction events generalizing entity with
  | nil => rfl
  | cons event rest ih =>
      obtain ⟨hfirst, hrest⟩ := List.forall_mem_cons.mp h
      rw [chain, chain, hfirst event, ih hrest]

/-- What holds of an entity and of every copy that it moves to holds all along. -/
theorem forall_mem_stations {P : Value → Prop}
    (hmoved : ∀ {e event copy}, P e → (move e event).result = .ok (.moved copy) → P copy)
    {entity : Value} (hentity : P entity) (events : List Value) :
    ∀ e ∈ stations move entity events, P e := by
  induction events generalizing entity with
  | nil => exact fun _ h => absurd h List.not_mem_nil
  | cons event rest ih =>
      refine List.forall_mem_cons.mpr ⟨hentity, ih ?_⟩
      unfold Act.goesOn
      split
      · next copy hcopy => exact hmoved hentity hcopy
      · exact hentity

/-- Each act of a chain is a move from one of the stations. -/
theorem exists_station_of_mem_chain {entity : Value} {events : List Value} {act : Act Outcome}
    (h : act ∈ chain move entity events) :
    ∃ e ∈ stations move entity events, ∃ event ∈ events, act = move e event := by
  induction events generalizing entity with
  | nil => cases h
  | cons event rest ih =>
      rcases List.mem_cons.mp h with rfl | hrest
      · exact ⟨entity, List.mem_cons_self, event, List.mem_cons_self, rfl⟩
      · obtain ⟨e, he, cue, hcue, hact⟩ := ih hrest
        exact ⟨e, .tail _ he, cue, .tail _ hcue, hact⟩

end Chains

namespace Machine

variable {m : Interpretation} {name : String} {attr : Value} {declarations : List Value}
  {accessor : Accessor} {table : Table} {definitions : Nat}

/-- A machine that moves entities of any kind goes by its accessor and its table. -/
theorem transitBy_byField (entity event : Value) :
    (byField m name attr declarations).transitBy m (some accessor) (some table) entity event =
      StateRules.transit m accessor table entity event := rfl

theorem chain_ready (entity : Value) (events : List Value) :
    (byField m name attr declarations).chain m (.ready (some accessor) table definitions) entity
        events =
      StateRules.chain (StateRules.transit m accessor table) entity events := by
  induction events generalizing entity with
  | nil => rfl
  | cons event rest ih =>
      have hprepare : (byField m name attr declarations).prepare m
          (.ready (some accessor) table definitions) =
            (.ready (some accessor) table definitions, pure ()) := prepare_of_isInitialized rfl
      have htransit := transit_of_prepare hprepare (fun _ => rfl) entity event
      rw [pure_bind, transitBy_byField] at htransit
      simp only [chain, StateRules.chain, htransit, ih]

variable (haccessor : (Accessor.ofField m attr).result = .ok accessor)
  (hbuild : (build m declarations).result = .ok table)
include haccessor hbuild

theorem result_preparation_byField :
    ((byField m name attr declarations).preparation m declarations).result =
      .ok (some accessor, table) :=
  result_preparation_eq_ok_iff.mpr ⟨Act.result_map_eq_ok_iff.mpr ⟨accessor, haccessor, rfl⟩, hbuild⟩

theorem prepare_byField :
    (byField m name attr declarations).prepare m .fresh =
      (.ready (some accessor) table 1,
        (byField m name attr declarations).preparation m declarations >>= fun _ => pure ()) := by
  have hfresh : Session.fresh.isInitialized = false := rfl
  exact prepare_of_ok rfl hfresh (result_preparation_byField haccessor hbuild)

/-- The first move of a machine comes behind its initialisation; apart from that, all is as it is
by its table. -/
theorem chain_fresh (entity : Value) (events : List Value) :
    (byField m name attr declarations).chain m .fresh entity events =
      (StateRules.chain (StateRules.transit m accessor table) entity events).modifyHead fun act =>
        (byField m name attr declarations).preparation m declarations >>= fun _ => act := by
  cases events with
  | nil => rfl
  | cons event rest =>
      have hprepare : (byField m name attr declarations).prepare m .fresh = _ :=
        prepare_byField haccessor hbuild
      have htransit := transit_of_prepare hprepare (fun _ => rfl) entity event
      rw [bind_assoc] at htransit
      simp only [pure_bind, transitBy_byField] at htransit
      have hgoesOn (act : Act Outcome) :
          ((byField m name attr declarations).preparation m declarations >>= fun _ => act).goesOn
            entity = act.goesOn entity := by
        rw [Act.goesOn, Act.result_bind_of_ok (result_preparation_byField haccessor hbuild),
          Act.goesOn]
      simp only [chain, StateRules.chain, htransit, chain_ready, hgoesOn, List.modifyHead]

theorem results_chain_fresh (entity : Value) (events : List Value) :
    ((byField m name attr declarations).chain m .fresh entity events).map Act.result =
      (StateRules.chain (StateRules.transit m accessor table) entity events).map Act.result := by
  rw [chain_fresh haccessor hbuild]
  cases StateRules.chain (StateRules.transit m accessor table) entity events with
  | nil => rfl
  | cons act acts =>
      rw [List.modifyHead_cons, List.map_cons, List.map_cons,
        Act.result_bind_of_ok (result_preparation_byField haccessor hbuild)]

theorem result_list_fresh {α : Type} (operation : String) (listed : Table → α) :
    ((byField m name attr declarations).list m operation listed .fresh).2.result =
      .ok (listed table) := by
  rw [list_of_prepare (prepare_byField haccessor hbuild) (fun _ => rfl), bind_assoc,
    Act.result_bind_of_ok (result_preparation_byField haccessor hbuild)]
  rfl

end Machine

/-- Whether some declarations for a field are refused alike when they are bound to a class and
when a machine is used that goes by them. -/
structure RefusedAlike (m : Interpretation) (attr : Value) (declarations : List Value)
    (fault : Fault) : Prop where
  bound (cls : Class) : (Binding.bind m cls attr (.list declarations)).result = .error fault
  used (name : String) (requests : List Request) :
    (Machine.byField m name attr declarations).IsNeverReady m fault requests

/-- Whether entities move alike by some declarations for a field: by the table and the accessor,
by a machine, and by themselves. -/
structure MovedAlike (m : Interpretation) (attr : Value) (declarations : List Value)
    (accessor : Accessor) (table : Table) : Prop where
  bound (cls : Class) :
    (Binding.bind m cls attr (.list declarations)).result = .ok ⟨cls, accessor, table⟩
  /-- On a machine, the first move comes behind the initialisation, and apart from that all is as it
  is by the table. -/
  used (name : String) (entity : Value) (events : List Value) :
    (Machine.byField m name attr declarations).chain m .fresh entity events =
      (chain (transit m accessor table) entity events).modifyHead fun act =>
        (Machine.byField m name attr declarations).preparation m declarations >>= fun _ => act
  results (name : String) (entity : Value) (events : List Value) :
    ((Machine.byField m name attr declarations).chain m .fresh entity events).map Act.result =
      (chain (transit m accessor table) entity events).map Act.result
  /-- An entity goes by the table as long as it offers the operation that is attached to its
  class. -/
  offered (cls : Class) (entity : Value) (events : List Value) :
    (∀ e ∈ stations (transit m accessor table) entity events,
        Binding.offered m e = pure (Binding.mover ⟨cls, accessor, table⟩)) →
      chain ((⟨cls, accessor, table⟩ : Binding).move m) entity events =
        chain (transit m accessor table) entity events
  /-- An ordinary object offers it, and moves to ordinary objects of its class. -/
  kept (cls : Class) (spec : ClassSpec) (name : String) (entity : Value) (events : List Value) :
    attr.text? = some name → Binding.LeavesToMove ⟨cls, accessor, table⟩ name spec →
      Binding.IsMover ⟨cls, accessor, table⟩ spec entity →
        chain ((⟨cls, accessor, table⟩ : Binding).move m) entity events =
            chain (transit m accessor table) entity events ∧
          ∀ act ∈ chain (transit m accessor table) entity events, ∀ copy,
            act.result = .ok (.moved copy) → Binding.IsMover ⟨cls, accessor, table⟩ spec copy
  listed (name : String) (cls : Class) :
    ((Machine.byField m name attr declarations).listStates m .fresh).2.result =
        .ok (Binding.listStates ⟨cls, accessor, table⟩) ∧
      ((Machine.byField m name attr declarations).listEvents m .fresh).2.result =
        .ok (Binding.listEvents ⟨cls, accessor, table⟩) ∧
      ((Machine.byField m name attr declarations).listTransitions m .fresh).2.result =
        .ok (Binding.listTransitions ⟨cls, accessor, table⟩)

section FrontEnds

variable {m : Interpretation} {attr : Value} {declarations : List Value}

theorem Binding.bind_list (cls : Class) :
    bind m cls attr (.list declarations) = (do
      let accessor ← Accessor.ofField m attr
      let table ← build m declarations
      Act.emit (record ⟨cls, accessor, table⟩)
      pure ⟨cls, accessor, table⟩) := rfl

theorem refusedAlike_of_error {fault : Fault}
    (h : (Accessor.ofField m attr).result = .error fault ∨
      (∃ accessor, (Accessor.ofField m attr).result = .ok accessor) ∧
        (build m declarations).result = .error fault) :
    RefusedAlike m attr declarations fault := by
  refine ⟨fun cls => ?_, fun name requests => ?_⟩
  · rw [Binding.bind_list]
    simp only [Act.result_bind_eq_error_iff, Act.result_emit, Act.result_pure]
    simpa using h
  · apply Machine.isNeverReady_of_error rfl
    rw [Machine.result_preparation_eq_error_iff]
    rcases h with hfield | ⟨⟨accessor, hfield⟩, hbuild⟩
    · exact .inl (Act.result_map_eq_error_iff.mpr hfield)
    · exact .inr ⟨⟨some accessor, Act.result_map_eq_ok_iff.mpr ⟨accessor, hfield, rfl⟩⟩, hbuild⟩

theorem movedAlike_of_ok {accessor : Accessor} {table : Table}
    (haccessor : (Accessor.ofField m attr).result = .ok accessor)
    (hbuild : (build m declarations).result = .ok table) :
    MovedAlike m attr declarations accessor table := by
  refine ⟨fun cls => ?_, fun name => Machine.chain_fresh haccessor hbuild,
    fun name => Machine.results_chain_fresh haccessor hbuild, fun cls entity events hoffered => ?_,
    fun cls spec name entity events hattr hleaves hentity => ?_, fun name cls => ?_⟩
  · rw [Binding.bind_list, Act.result_bind_of_ok haccessor, Act.result_bind_of_ok hbuild]
    rfl
  · exact chain_congr fun e he event => Binding.move_of_offered (hoffered e he) event
  · obtain ⟨field, hfield, hnamed⟩ := Accessor.ofField_eq_ok haccessor
    obtain rfl : name = field := Option.some.inj (hattr.symm.trans hfield)
    have hstations : ∀ e ∈ stations (transit m accessor table) entity events,
        Binding.IsMover ⟨cls, accessor, table⟩ spec e :=
      forall_mem_stations
        (fun he hmoved => Binding.isMover_of_moved hleaves he hattr hnamed hmoved) hentity events
    refine ⟨chain_congr fun e he event => Binding.move_of_offered ?_ event,
      fun act hact copy hcopy => ?_⟩
    · exact Binding.offered_of_isMover hleaves (hstations e he)
    · obtain ⟨e, he, event, -, rfl⟩ := exists_station_of_mem_chain hact
      exact Binding.isMover_of_moved hleaves (hstations e he) hattr hnamed hcopy
  · exact ⟨Machine.result_list_fresh haccessor hbuild _ _,
      Machine.result_list_fresh haccessor hbuild _ _,
      Machine.result_list_fresh haccessor hbuild _ _⟩

end FrontEnds

/-- Three front ends, one machine. What is wrong with the name of the field, or else with the
declarations, is raised alike when they are bound to a class and by every use of a machine that
goes by them. If nothing is wrong, both go by the table that is built and the accessor for the
field: an entity moves on a machine as it does by these, and so it does by itself as long as it
offers the operation that is attached to its class. An ordinary object of the class, or of one
below it, goes on offering it, as every copy that it moves to is such an object again. -/
theorem front_ends_agree (m : Interpretation) (attr : Value) (declarations : List Value) :
    (∀ fault : Fault,
        ((Accessor.ofField m attr).result = .error fault ∨
          (∃ accessor, (Accessor.ofField m attr).result = .ok accessor) ∧
            (build m declarations).result = .error fault) →
          RefusedAlike m attr declarations fault) ∧
      ∀ (accessor : Accessor) (table : Table), (Accessor.ofField m attr).result = .ok accessor →
        (build m declarations).result = .ok table →
          MovedAlike m attr declarations accessor table :=
  ⟨fun _ hfault => refusedAlike_of_error hfault,
    fun _ _ haccessor hbuild => movedAlike_of_ok haccessor hbuild⟩

/-- A plain class with an `__init__` of its own. -/
def ticketClass : ClassSpec :=
  ⟨⟨"Ticket", "Ticket", .plain, [], [], [], "", none, false, false, true⟩,
    [⟨"Ticket", [("__init__", .function ⟨"fill", "<function fill>"⟩ (.text "fill"))], []⟩]⟩

/-- A ticket of a class to which rules are bound. -/
def ticket (binding : Binding) (copies : Nat) (state : String) : Value :=
  .object ticketClass.cls (binding.attach ticketClass).shared ⟨1, copies⟩ [("state", .text state)]

/-- For plain objects, an `__init__` is none of the names that count. -/
theorem spares_ticketClass : ticketClass.cls.Spares ticketClass.shared "state" where
  apart := by decide
  declared := by decide
  unread := lookup_of_apart ["__init__"] rfl (by decide)
  unmade hlayout := absurd hlayout (by decide)
  unexchanged hlayout := absurd hlayout (by decide)
  uncopied _ := lookup_of_apart ["__init__"] rfl (by decide)
  unreplaced _ hshape := absurd hshape (by decide)
  finished hlayout := absurd hlayout (by decide)
  kept item hitem := by cases hitem

theorem leavesToMove_ticketClass {binding : Binding} (h : binding.cls = ticketClass.cls) :
    binding.LeavesToMove "state" ticketClass where
  spared := spares_ticketClass
  apart := by decide
  undeclared := by decide
  inherited := ⟨[], _, [], rfl, by rw [h]; rfl, fun _ hlower => absurd hlower List.not_mem_nil⟩

theorem isMover_ticket (binding : Binding) (copies : Nat) (state : String) :
    binding.IsMover ticketClass (ticket binding copies state) :=
  .object (lookup_of_apart ["state"] rfl (by decide)) (lookup_of_apart ["state"] rfl (by decide))

/-- A ticket moves by itself as it does by the table that is bound to its class, whatever its class
does to fill new tickets. -/
theorem front_ends_agree_tickets :
    ∃ binding, (Binding.bind .exhausted ticketClass.cls (.text "state") (.list [payment])).result =
        .ok binding ∧
      (chain (binding.move .exhausted) (ticket binding 0 "new") [.text "pay", .text "pay"]).map
        Act.result = [.ok (.moved (ticket binding 1 "paid")), .ok .notAllowed] := by
  have haccessor : (Accessor.ofField .exhausted (.text "state")).result = .ok _ := rfl
  have hbuild : (build .exhausted [payment]).result = .ok _ := rfl
  obtain ⟨-, hagree⟩ := front_ends_agree .exhausted (.text "state") [payment]
  have hmoved := hagree _ _ haccessor hbuild
  refine ⟨_, hmoved.bound ticketClass.cls, ?_⟩
  obtain ⟨hchain, -⟩ := hmoved.kept ticketClass.cls ticketClass "state" _
    [.text "pay", .text "pay"] rfl (leavesToMove_ticketClass rfl) (isMover_ticket _ 0 "new")
  rw [hchain]
  rfl

/-- A class of objects that others stand in for when they are copied. -/
def proxyClass : ClassSpec :=
  ⟨⟨"Proxy", "Proxy", .plain, [], [], [], "", none, false, false, true⟩,
    [⟨"Proxy", [("__copy__", .function ⟨"swap", "<function swap>"⟩ (.text "swap"))], []⟩]⟩

def standIn (copies : Nat) (state : String) : Value :=
  .object ⟨"StandIn", "StandIn", .plain, [], [], [], "", none, false, false, true⟩ [] ⟨2, copies⟩
    [("state", .text state)]

/-- Calls that give what stands in. -/
def swapping : Interpretation := .upTo (fun _ => .give fun _ => pure (standIn 0 "new")) 1

def dispatch : Value := .declaration (.simple (.text "paid") (.text "sent") (.text "send"))

/-- An object may part ways with the table and the machine where its class copies it by an operation
of its own. What stands in for it when it is copied need not be of its class, and then does not
offer to move by itself. -/
theorem front_ends_disagree_of_own_copy :
    (¬∀ (m : Interpretation) (attr : Value) (declarations : List Value) (binding : Binding)
        (spec : ClassSpec) (identity : Identity) (fields : List (String × Value))
        (events : List Value),
      (Binding.bind m binding.cls attr (.list declarations)).result = .ok binding →
        (∀ attached ∈ Binding.attachedNames,
          attr.text? ≠ some attached ∧ attached ∉ spec.cls.fields) → binding.IsInherited spec →
          (chain (binding.move m) (.object spec.cls (binding.attach spec).shared identity fields)
              events).map Act.result =
            (chain (transit m binding.accessor binding.table)
              (.object spec.cls (binding.attach spec).shared identity fields)
              events).map Act.result) ∧
    ¬∀ (m : Interpretation) (attr : Value) (declarations : List Value) (binding : Binding)
        (spec : ClassSpec) (identity : Identity) (fields : List (String × Value))
        (event copy : Value),
      (Binding.bind m binding.cls attr (.list declarations)).result = .ok binding →
        (∀ attached ∈ Binding.attachedNames,
          attr.text? ≠ some attached ∧ attached ∉ spec.cls.fields) → binding.IsInherited spec →
          (binding.move m
              (.object spec.cls (binding.attach spec).shared identity fields) event).result =
            .ok (.moved copy) →
            ∃ identity' fields', copy =
              .object spec.cls (binding.attach spec).shared identity' fields' := by
  let table : Table :=
    ⟨[⟨.text "new", .text "pay", .literal (.text "paid")⟩,
      ⟨.text "paid", .text "send", .literal (.text "sent")⟩],
      [.text "new", .text "paid", .text "sent"], [.text "pay", .text "send"]⟩
  let binding : Binding := ⟨proxyClass.cls, .field (.text "state") "state", table⟩
  let proxy : Value :=
    .object proxyClass.cls (binding.attach proxyClass).shared ⟨1, 0⟩ [("state", .text "new")]
  have hbound : (Binding.bind swapping binding.cls (.text "state")
      (.list [payment, dispatch])).result = .ok binding := rfl
  have hapart : ∀ attached ∈ Binding.attachedNames,
      (Value.text "state").text? ≠ some attached ∧ attached ∉ proxyClass.cls.fields := by decide
  have hinherited : binding.IsInherited proxyClass :=
    ⟨[], _, [], rfl, rfl, fun _ hlower => absurd hlower List.not_mem_nil⟩
  refine ⟨fun hall => ?_, fun hall => ?_⟩
  · have hsame := hall swapping (.text "state") [payment, dispatch] binding proxyClass ⟨1, 0⟩
      [("state", .text "new")] [.text "pay", .text "send"] hbound hapart hinherited
    have hpaid : (transit swapping binding.accessor binding.table proxy (.text "pay")).result =
        .ok (.moved (standIn 0 "paid")) := rfl
    have hsent : (transit swapping binding.accessor binding.table (standIn 0 "paid")
        (.text "send")).result = .ok (.moved (standIn 1 "sent")) := rfl
    have hmoved : (binding.move swapping proxy (.text "pay")).result =
        .ok (.moved (standIn 0 "paid")) := rfl
    have hstuck : (binding.move swapping (standIn 0 "paid") (.text "send")).result =
        .error (.noAttribute "StandIn" "transit") := rfl
    have hnever : (chain (binding.move swapping) proxy [.text "pay", .text "send"]).map Act.result ≠
        (chain (transit swapping binding.accessor binding.table) proxy
          [.text "pay", .text "send"]).map Act.result := by
      simp [chain, Act.goesOn, hpaid, hsent, hmoved, hstuck]
    exact hnever hsame
  · have hmove : (binding.move swapping proxy (.text "pay")).result =
        .ok (.moved (standIn 0 "paid")) := rfl
    obtain ⟨identity, fields, hcopy⟩ := hall swapping (.text "state") [payment, dispatch] binding
      proxyClass ⟨1, 0⟩ [("state", .text "new")] (.text "pay") _ hbound hapart hinherited hmove
    injection hcopy with hcls
    exact absurd (congrArg Class.name hcls) (by decide)

end StateRules
