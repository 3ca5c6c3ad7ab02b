import StateRules.Guard
import StateRules.Machine
import StateRules.Proofs.Journal

/-!
When a machine is initialised does not show (`initialization_is_invisible`).

Whatever is asked of a machine goes through its table, and so through its initialisation. An
attempt to initialise it comes to the same act in each case (`Machine.preparation`): either the
machine is ready behind it (`Machine.prepare_of_ok`), or it has no table and counts as not
initialised, whether or not it has come by an accessor (`Machine.prepare_of_error`). A request is
that act followed by what the request comes to by what is at hand (`Machine.serve_of_prepare`),
so a request to a machine that is ready changes nothing, one to a fresh machine leaves it ready,
and one that cannot be prepared is not looked at.
-/

namespace StateRules

namespace Use

variable {α β : Type} {use : Use α} {next : α → Use β} {session kept last : Session} {act : Act α}
  {acts : α → Act β}

/-- A use that fails comes to the same whatever comes behind it. -/
theorem bind_of_error {fault : Fault} (h : use session = (kept, act))
    (hact : act.result = .error fault) : (use >>= next) session = (kept, act >>= acts) := by
  show Use.andThen use next session = _
  simp [andThen, h, hact, Act.bind_of_error hact]

theorem bind_of_ok {a : α} (h : use session = (kept, act)) (hact : act.result = .ok a)
    (hnext : next a kept = (last, acts a)) : (use >>= next) session = (last, act >>= acts) := by
  show Use.andThen use next session = _
  simp [andThen, h, hact, hnext, Act.bind_of_ok hact]

/-- A use that leaves alone what the one before it has left. -/
theorem bind_of_kept (h : use session = (kept, act))
    (hnext : ∀ a, act.result = .ok a → next a kept = (kept, acts a)) :
    (use >>= next) session = (kept, act >>= acts) := by
  cases hact : act.result with
  | error fault => exact bind_of_error h hact
  | ok a => exact bind_of_ok h hact (hnext a hact)

/-- An act by itself leaves alone what a machine keeps. -/
theorem lift_bind_of_error {fault : Fault} (hact : act.result = .error fault) :
    ((act : Use α) >>= next) session = (session, act >>= acts) :=
  bind_of_error rfl hact

theorem lift_bind_of_ok {a : α} (hact : act.result = .ok a)
    (hnext : next a session = (last, acts a)) :
    ((act : Use α) >>= next) session = (last, act >>= acts) :=
  bind_of_ok rfl hact hnext

theorem bind_pure_of_eq {γ : Type} {first : Act γ} {direct : Act α}
    (h : use session = (kept, first >>= fun _ => direct)) (f : α → β) :
    (use >>= fun a => pure (f a)) session =
      (kept, first >>= fun _ => direct >>= fun a => pure (f a)) := by
  rw [bind_of_kept h fun _ _ => rfl, bind_assoc]

theorem get_bind (next : Session → Use β) : (get >>= next) session = next session session := rfl

theorem modify_bind (f : Session → Session) (next : Unit → Use β) :
    (modify f >>= next) session = next () (f session) := rfl

end Use

/-- What can be asked of a machine. -/
inductive Request where
  | prepare
  | table
  | transit (entity event : Value)
  | canTransit (entity event : Value)
  | listStates
  | listEvents
  | listTransitions

/-- What a machine answers. -/
inductive Answer where
  | done
  | table (table : Option Table)
  | outcome (outcome : Outcome)
  | verdict (isPossible : Bool)
  | values (values : List Value)
  | transitions (transitions : List Transition)

/-- What a machine keeps that is initialised. -/
def Session.ready (accessor : Option Accessor) (table : Table) (definitions : Nat) : Session :=
  ⟨some table, accessor, true, definitions⟩

/-- Whether a machine keeps its table and its accessor if it is initialised, and no table if it is
not. -/
structure Session.IsWhole (m : Interpretation) (machine : Machine) (declarations : List Value)
    (session : Session) : Prop where
  ready : session.isInitialized = true → ∃ accessor table,
    machine.accessor.result = .ok accessor ∧ (build m declarations).result = .ok table ∧
      session = .ready accessor table 1
  unready : session.isInitialized = false → session.table = none

namespace Machine

/-- What a machine does about a request. -/
def serve (m : Interpretation) (machine : Machine) : Request → Use Answer
  | .prepare => do
      machine.prepare m
      pure .done
  | .table => do pure (.table (← machine.table m))
  | .transit entity event => do pure (.outcome (← machine.transit m entity event))
  | .canTransit entity event => do pure (.verdict (← machine.canTransit m entity event))
  | .listStates => do pure (.values (← machine.listStates m))
  | .listEvents => do pure (.values (← machine.listEvents m))
  | .listTransitions => do pure (.transitions (← machine.listTransitions m))

/-- What a machine keeps after several requests, and what each came to. One that fails does
not keep the machine from the next. -/
def serveAll (m : Interpretation) (machine : Machine) :
    List Request → Session → Session × List (Act Answer)
  | [], session => (session, [])
  | request :: rest, session =>
      let (kept, act) := machine.serve m request session
      let (kept, acts) := serveAll m machine rest kept
      (kept, act :: acts)

/-- What a request comes to by an accessor and a table that are at hand. -/
def respond (m : Interpretation) (machine : Machine) (accessor : Option Accessor) (table : Table) :
    Request → Act Answer
  | .prepare => pure .done
  | .table => pure (.table (some table))
  | .transit entity event => do
      pure (.outcome (← machine.transitBy m accessor (some table) entity event))
  | .canTransit entity event => do
      pure (.verdict (← machine.canTransitBy m accessor (some table) entity event))
  | .listStates => pure (.values table.states)
  | .listEvents => pure (.values table.events)
  | .listTransitions => pure (.transitions table.transitions)

variable {m : Interpretation} {machine : Machine} {session kept : Session} {act : Act Unit}
  {accessor : Option Accessor} {table : Table} {definitions : Nat}

theorem prepare_of_isInitialized (h : session.isInitialized = true) :
    machine.prepare m session = (session, pure ()) := by
  rw [prepare, Use.get_bind, if_pos h]
  rfl

/-- The table is asked for as part of every request but the one to initialise. -/
theorem table_of_prepare (h : machine.prepare m session = (kept, act)) :
    machine.table m session = (kept, act >>= fun _ => pure kept.table) := by
  rw [table, Use.get_bind]
  cases hinit : session.isInitialized with
  | false => exact Use.bind_of_kept h fun _ _ => rfl
  | true =>
      rw [prepare_of_isInitialized hinit] at h
      cases h
      rfl

/-- What the initialisation of a machine comes to whose declarations are at hand: its accessor and
their table. -/
def preparation (m : Interpretation) (machine : Machine) (declarations : List Value) :
    Act (Option Accessor × Table) := do
  let accessor ← machine.accessor
  let table ← build m declarations
  Act.emit (machine.record table)
  pure (accessor, table)

theorem define_eq :
    machine.define session =
      ({session with definitions := session.definitions + 1}, machine.declarations) := rfl

section Preparation

variable {declarations : List Value}

theorem result_preparation_eq_ok_iff :
    (machine.preparation m declarations).result = .ok (accessor, table) ↔
      machine.accessor.result = .ok accessor ∧ (build m declarations).result = .ok table := by
  simp only [preparation, Act.result_bind_eq_ok_iff, Act.result_emit, Act.result_pure]
  constructor
  · rintro ⟨_, haccessor, _, htable, _, _, hpair⟩
    obtain ⟨rfl, rfl⟩ := Prod.mk.inj (Except.ok.inj hpair)
    exact ⟨haccessor, htable⟩
  · rintro ⟨haccessor, htable⟩
    exact ⟨accessor, haccessor, table, htable, (), trivial, rfl⟩

theorem result_preparation_eq_error_iff {fault : Fault} :
    (machine.preparation m declarations).result = .error fault ↔
      machine.accessor.result = .error fault ∨
        (∃ accessor, machine.accessor.result = .ok accessor) ∧
          (build m declarations).result = .error fault := by
  simp only [preparation, Act.result_bind_eq_error_iff, Act.result_emit, Act.result_pure]
  simp

variable (hdeclarations : machine.declarations = pure (.list declarations))
include hdeclarations

/-- An initialisation as it is made, with declarations that have to be asked for. -/
theorem preparation_bind :
    (machine.preparation m declarations >>= fun _ => pure ()) = (do
      let _ ← machine.accessor
      let handed ← machine.declarations
      let table ← buildFrom m handed
      Act.emit (machine.record table)) := by
  have hbuild : buildFrom m (.list declarations) = build m declarations := buildFrom_of_supply rfl
  simp [preparation, hdeclarations, hbuild]

theorem prepare_of_ok (h : session.isInitialized = false)
    (hresult : (machine.preparation m declarations).result = .ok (accessor, table)) :
    machine.prepare m session =
      (.ready accessor table (session.definitions + 1),
        machine.preparation m declarations >>= fun _ => pure ()) := by
  have hbuild : buildFrom m (.list declarations) = build m declarations := buildFrom_of_supply rfl
  obtain ⟨haccessor, htable⟩ := result_preparation_eq_ok_iff.mp hresult
  rw [prepare, Use.get_bind, if_neg (by simp [h]), preparation_bind hdeclarations]
  refine Use.lift_bind_of_ok haccessor ?_
  rw [Use.modify_bind]
  refine Use.bind_of_ok define_eq (congrArg Act.result hdeclarations) ?_
  refine Use.lift_bind_of_ok (hbuild ▸ htable) ?_
  rw [Use.modify_bind]
  rfl

/-- A machine whose initialisation fails may have an accessor by then, but it has no table. -/
theorem prepare_of_error {fault : Fault} (h : session.isInitialized = false)
    (hresult : (machine.preparation m declarations).result = .error fault) :
    ∃ kept, machine.prepare m session =
        (kept, machine.preparation m declarations >>= fun _ => pure ()) ∧
      kept.isInitialized = false ∧ kept.table = session.table := by
  have hbuild : buildFrom m (.list declarations) = build m declarations := buildFrom_of_supply rfl
  rw [prepare, Use.get_bind, if_neg (by simp [h]), preparation_bind hdeclarations]
  rcases result_preparation_eq_error_iff.mp hresult with
    haccessor | ⟨⟨accessor, haccessor⟩, hfault⟩
  · exact ⟨session, Use.lift_bind_of_error haccessor, h, rfl⟩
  · let kept : Session :=
      {session with accessor := accessor, definitions := session.definitions + 1}
    refine ⟨kept, Use.lift_bind_of_ok haccessor ?_, h, rfl⟩
    rw [Use.modify_bind]
    refine Use.bind_of_ok define_eq (congrArg Act.result hdeclarations) ?_
    exact Use.lift_bind_of_error (hbuild ▸ hfault)

end Preparation

section Serving

variable (hprepare : machine.prepare m session = (kept, act))
  (hready : act.result = .ok () → kept = .ready accessor table definitions)
include hprepare hready

/-- What is done with the table of a machine is done with the table at hand, once the machine has
been prepared. -/
theorem table_bind {α : Type} {next : Option Table → Use α} {direct : Act α}
    (hnext : next (some table) (.ready accessor table definitions) =
      (.ready accessor table definitions, direct)) :
    (machine.table m >>= next) session = (kept, act >>= fun _ => direct) := by
  have hbind : (machine.table m >>= next) session =
      (kept, (act >>= fun _ => pure kept.table) >>= fun _ => direct) := by
    refine Use.bind_of_kept (table_of_prepare hprepare) fun found hfound => ?_
    obtain ⟨hact, hkept⟩ := Act.result_seq_eq_ok_iff.mp hfound
    obtain rfl := hready hact
    obtain rfl : some table = found := Except.ok.inj hkept
    exact hnext
  simpa using hbind

theorem list_of_prepare {α : Type} (operation : String) (listed : Table → α) :
    machine.list m operation listed session = (kept, act >>= fun _ => pure (listed table)) :=
  table_bind hprepare hready rfl

theorem transit_of_prepare (entity event : Value) :
    machine.transit m entity event session =
      (kept, act >>= fun _ => machine.transitBy m accessor (some table) entity event) :=
  table_bind hprepare hready rfl

theorem canTransit_of_prepare (entity event : Value) :
    machine.canTransit m entity event session =
      (kept, act >>= fun _ => machine.canTransitBy m accessor (some table) entity event) :=
  table_bind hprepare hready rfl

/-- A request comes to what it does by the table at hand, once the machine has been prepared. -/
theorem serve_of_prepare (request : Request) :
    machine.serve m request session =
      (kept, act >>= fun _ => machine.respond m accessor table request) := by
  cases request with
  | prepare => exact Use.bind_of_kept hprepare fun _ _ => rfl
  | table => exact table_bind hprepare hready rfl
  | transit entity event =>
      exact Use.bind_pure_of_eq (transit_of_prepare hprepare hready entity event) Answer.outcome
  | canTransit entity event =>
      exact Use.bind_pure_of_eq (canTransit_of_prepare hprepare hready entity event) Answer.verdict
  | listStates => exact Use.bind_pure_of_eq (list_of_prepare hprepare hready _ _) Answer.values
  | listEvents => exact Use.bind_pure_of_eq (list_of_prepare hprepare hready _ _) Answer.values
  | listTransitions =>
      exact Use.bind_pure_of_eq (list_of_prepare hprepare hready _ _) Answer.transitions

end Serving

theorem serve_ready (request : Request) :
    machine.serve m request (.ready accessor table definitions) =
      (.ready accessor table definitions, machine.respond m accessor table request) := by
  have hprepare : machine.prepare m (.ready accessor table definitions) =
      (.ready accessor table definitions, pure ()) := prepare_of_isInitialized rfl
  simpa using serve_of_prepare hprepare (fun _ => rfl) request

/-- A machine that is initialised stays as it is. -/
theorem serveAll_ready (requests : List Request) :
    machine.serveAll m requests (.ready accessor table definitions) =
      (.ready accessor table definitions, requests.map (machine.respond m accessor table)) := by
  induction requests with
  | nil => rfl
  | cons request rest ih => simp [serveAll, serve_ready, ih]

section Fresh

variable {declarations : List Value}
  (hdeclarations : machine.declarations = pure (.list declarations))
include hdeclarations

/-- The first request initialises a machine, whatever is requested. -/
theorem serveAll_of_ok (hfresh : session.isInitialized = false)
    (hresult : (machine.preparation m declarations).result = .ok (accessor, table))
    (request : Request) (rest : List Request) :
    machine.serveAll m (request :: rest) session =
      (.ready accessor table (session.definitions + 1),
        (machine.preparation m declarations >>= fun _ =>
            machine.respond m accessor table request) ::
          rest.map (machine.respond m accessor table)) := by
  have hprepare := prepare_of_ok hdeclarations hfresh hresult
  have hserve := serve_of_prepare hprepare (fun _ => rfl) request
  simp [serveAll, hserve, serveAll_ready]

/-- A machine that cannot be initialised makes an attempt on each request, whatever is requested. -/
theorem serveAll_of_error {fault : Fault} (hfresh : session.isInitialized = false)
    (hresult : (machine.preparation m declarations).result = .error fault)
    (requests : List Request) :
    ∃ kept, machine.serveAll m requests session =
        (kept, requests.map fun _ =>
          machine.preparation m declarations >>= fun _ => Act.fail fault) ∧
      kept.isInitialized = false ∧ kept.table = session.table := by
  induction requests generalizing session with
  | nil => exact ⟨session, rfl, hfresh, rfl⟩
  | cons request rest ih =>
      -- Behind a failed attempt the machine is as uninitialised as before, so the rest fails alike.
      obtain ⟨kept, hprepare, hkept, htable⟩ := prepare_of_error hdeclarations hfresh hresult
      obtain ⟨last, hlast, hinit, hsame⟩ := ih hkept
      have hattempt (next : Unit → Act Answer) :
          (machine.preparation m declarations >>= fun _ => pure ()) >>= next =
            machine.preparation m declarations >>= fun _ => Act.fail fault := by
        rw [bind_assoc, Act.bind_of_error hresult, Act.bind_of_error hresult]
      -- The request is never looked at, so any table and accessor will do for what it comes to.
      have hready : (machine.preparation m declarations >>= fun _ => pure ()).result = .ok () →
          kept = .ready none .empty 0 := by
        rw [Act.bind_of_error hresult]
        exact nofun
      refine ⟨last, ?_, hinit, hsame.trans htable⟩
      rw [serveAll, serve_of_prepare hprepare hready request, hattempt]
      simp only [hlast, List.map_cons]

end Fresh

/-- How a machine gets by that has an accessor and a table to come by: it does so with the first
request, and with none after that. -/
structure IsReadied (m : Interpretation) (machine : Machine) (declarations : List Value)
    (accessor : Option Accessor) (table : Table) : Prop where
  /-- What it keeps when it is initialised beforehand. -/
  prepared : (machine.prepare m .fresh).1 = .ready accessor table 1
  /-- What it keeps when it is not, whatever is requested and however often. -/
  kept (request : Request) (rest : List Request) :
    (machine.serveAll m (request :: rest) .fresh).1 = .ready accessor table 1
  /-- Once it is ready, all that a request takes is at hand. -/
  served (request : Request) : machine.serve m request (.ready accessor table 1) =
    (.ready accessor table 1, machine.respond m accessor table request)
  /-- Each request comes to what it comes to on the machine that was initialised beforehand. -/
  results (requests : List Request) :
    (machine.serveAll m requests .fresh).2.map Act.result =
      (machine.serveAll m requests (.ready accessor table 1)).2.map Act.result
  /-- The records of the initialisation come first, and once. The last of them says by what name the
  machine goes, and how many rules, states and events its table has. -/
  records (request : Request) (rest : List Request) :
    (machine.serveAll m (request :: rest) .fresh).2.flatMap Act.records =
      machine.accessor.records ++ (build m declarations).records ++
          [⟨.info, .machine,
            machine.name ++ " initialised — " ++ toString table.rules.length ++ " transitions, " ++
              toString table.states.length ++ " states, " ++
                toString table.events.length ++ " events"⟩] ++
        (machine.serveAll m (request :: rest) (.ready accessor table 1)).2.flatMap Act.records
  calls (request : Request) (rest : List Request) :
    (machine.serveAll m (request :: rest) .fresh).2.flatMap Act.calls =
      machine.accessor.calls ++ (build m declarations).calls ++
        (machine.serveAll m (request :: rest) (.ready accessor table 1)).2.flatMap Act.calls

/-- How a machine gets by whose initialisation fails. -/
structure IsNeverReady (m : Interpretation) (machine : Machine) (fault : Fault)
    (requests : List Request) : Prop where
  results : ∀ act ∈ (machine.serveAll m requests .fresh).2, act.result = .error fault
  isInitialized : (machine.serveAll m requests .fresh).1.isInitialized = false
  table : (machine.serveAll m requests .fresh).1.table = none

section Lazy

variable {declarations : List Value}

theorem preparation_of_ok (haccessor : machine.accessor.result = .ok accessor)
    (hbuild : (build m declarations).result = .ok table) :
    machine.preparation m declarations =
      ⟨machine.accessor.records ++ (build m declarations).records ++ [machine.record table],
        machine.accessor.calls ++ (build m declarations).calls, .ok (accessor, table)⟩ := by
  rw [preparation, Act.bind_of_ok haccessor, Act.bind_of_ok hbuild]
  simp [Act.emit, Functor.map, Act.andThen, Act.ofExcept]

variable (hdeclarations : machine.declarations = pure (.list declarations))
include hdeclarations

theorem isReadied_of_ok (haccessor : machine.accessor.result = .ok accessor)
    (hbuild : (build m declarations).result = .ok table) :
    machine.IsReadied m declarations accessor table := by
  have hpreparation := preparation_of_ok haccessor hbuild
  have hresult := congrArg Act.result hpreparation
  have hfresh : Session.fresh.isInitialized = false := rfl
  have hlazy := serveAll_of_ok hdeclarations hfresh hresult
  refine ⟨?_, fun request rest => ?_, serve_ready, fun requests => ?_, fun request rest => ?_,
    fun request rest => ?_⟩
  · rw [prepare_of_ok hdeclarations hfresh hresult]
    rfl
  · rw [hlazy]
    rfl
  · cases requests with
    | nil => rfl
    | cons request rest =>
        rw [hlazy, serveAll_ready, hpreparation]
        simp [Act.bind_of_ok]
  · rw [hlazy, serveAll_ready, hpreparation]
    simp [Act.bind_of_ok, record]
  · rw [hlazy, serveAll_ready, hpreparation]
    simp [Act.bind_of_ok]

theorem isNeverReady_of_error {fault : Fault}
    (hresult : (machine.preparation m declarations).result = .error fault)
    (requests : List Request) : machine.IsNeverReady m fault requests := by
  have hfresh : Session.fresh.isInitialized = false := rfl
  obtain ⟨kept, hserved, hkept, htable⟩ :=
    serveAll_of_error hdeclarations hfresh hresult requests
  refine ⟨fun act hact => ?_, by rw [hserved]; exact hkept, by rw [hserved]; exact htable⟩
  rw [hserved] at hact
  obtain ⟨request, -, rfl⟩ := List.mem_map.mp hact
  rw [Act.bind_of_error hresult]

/-- Whatever has been requested of a machine, it keeps the table and the accessor if it is
initialised, and no table if it is not. -/
theorem isWhole_serveAll (requests : List Request) :
    (machine.serveAll m requests .fresh).1.IsWhole m machine declarations := by
  have hfresh : Session.fresh.isInitialized = false := rfl
  cases hresult : (machine.preparation m declarations).result with
  | error fault =>
      have hnever := isNeverReady_of_error hdeclarations hresult requests
      exact ⟨fun h => absurd (h.symm.trans hnever.isInitialized) nofun, fun _ => hnever.table⟩
  | ok prepared =>
      obtain ⟨accessor, table⟩ := prepared
      obtain ⟨haccessor, hbuild⟩ := result_preparation_eq_ok_iff.mp hresult
      cases requests with
      | nil => exact ⟨fun h => absurd (h.symm.trans hfresh) nofun, fun _ => rfl⟩
      | cons request rest =>
          rw [serveAll_of_ok hdeclarations hfresh hresult]
          exact ⟨fun _ => ⟨accessor, table, haccessor, hbuild, rfl⟩, fun h => absurd h nofun⟩

end Lazy

end Machine

/-- When a machine is initialised does not show. Where its accessor and its table can be had, the
first request initialises it, be it for a move, for a list or for the initialisation itself; it
keeps that table and that accessor from then on, having been asked for its declarations once; and
each request comes to what it comes to on a machine that was initialised beforehand. Where they
cannot be had, every request comes to the fault that initialising the machine comes to, and the
machine has no table afterwards. At no point does a machine count as initialised that lacks the
table, or the accessor that it has been given. -/
theorem initialization_is_invisible {m : Interpretation} {machine : Machine}
    {declarations : List Value} (hdeclarations : machine.declarations = pure (.list declarations)) :
    (∀ (accessor : Option Accessor) (table : Table), machine.accessor.result = .ok accessor →
        (build m declarations).result = .ok table →
          machine.IsReadied m declarations accessor table) ∧
      (∀ fault : Fault,
        (machine.accessor.result = .error fault ∨
            (∃ accessor, machine.accessor.result = .ok accessor) ∧
              (build m declarations).result = .error fault) →
          ∀ requests, machine.IsNeverReady m fault requests) ∧
      ∀ requests, (machine.serveAll m requests .fresh).1.IsWhole m machine declarations := by
  refine ⟨fun accessor table haccessor hbuild => ?_, fun fault hfault requests => ?_,
    fun requests => ?_⟩
  · exact Machine.isReadied_of_ok hdeclarations haccessor hbuild
  · have hresult := Machine.result_preparation_eq_error_iff.mpr hfault
    exact Machine.isNeverReady_of_error hdeclarations hresult requests
  · exact Machine.isWhole_serveAll hdeclarations requests

def newOrder : Value := .mapping .plain [(.text "state", .text "new")]

def payment : Value := .declaration (.simple (.text "new") (.text "paid") (.text "pay"))

/-- A desk where orders are paid. -/
def payDesk (accessor : Option Accessor) : Machine :=
  ⟨"PayDesk", .anything, pure accessor, pure (.list [payment])⟩

/-- A desk is asked about an order before anyone has initialised it. -/
theorem initialization_is_invisible_payDesk :
    (payDesk (some .standard)).declarations = pure (.list [payment]) ∧
      ((payDesk (some .standard)).serveAll .exhausted
        [.canTransit newOrder (.text "pay"), .prepare] .fresh).2.map Act.result =
          [.ok (.verdict true), .ok .done] := by
  have hdeclarations : (payDesk (some .standard)).declarations = pure (.list [payment]) := rfl
  have hbuild : (build .exhausted [payment]).result = .ok _ := rfl
  obtain ⟨hreadied, -, -⟩ := initialization_is_invisible hdeclarations
  have hresults := (hreadied (some .standard) _ rfl hbuild).results
  refine ⟨hdeclarations, (hresults [.canTransit newOrder (.text "pay"), .prepare]).trans ?_⟩
  rw [Machine.serveAll_ready]
  rfl

/-- A machine that has been given no accessor is initialised without one, and cannot tell whether
a move is possible. -/
theorem initialized_machine_may_lack_accessor :
    (¬∀ (m : Interpretation) (machine : Machine) (declarations : List Value)
        (requests : List Request) (session : Session),
      machine.declarations = pure (.list declarations) →
        session = (machine.serveAll m requests .fresh).1 → session.isInitialized = true →
          session.table.isSome ∧ session.accessor.isSome) ∧
    ((payDesk none).canTransit .exhausted newOrder (.text "pay") .fresh).2.result =
      .error (.noAttribute "NoneType" "get") := by
  refine ⟨fun hall => ?_, rfl⟩
  obtain ⟨-, haccessor⟩ := hall .exhausted (payDesk none) [payment] [.prepare] _ rfl rfl rfl
  cases haccessor

end StateRules
