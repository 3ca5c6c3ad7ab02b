import Mathlib.Data.List.Induction
import StateRules.Proofs.Entity.ReadBack
import StateRules.Proofs.Table.Coverage
import StateRules.Proofs.Table.Wildcard

/-!
Runs of an entity.

A run takes an entity through some events in turn. An event on which it may not move, or on which
something fails, leaves it as it is. A move follows the rule that was found (`exists_move`): it
leads to a state that the catalog represents or to what the guard of the rule gives
(`Table.Cataloged.next_of_move`), and the rule stands for it in both catalogs
(`Table.Cataloged.grounds`).

That the entity is in the state that the move led to takes more than the table: the accessor has to
read back what it wrote (`Accessor.ReadsBack`). Then the state is at every point the one at the
start, or one that the catalog represents, or one that a guard gave in an earlier move
(`runs_stay_in_catalog`).
-/

namespace StateRules

/-- The entity as it is after an event: the copy if it moved, and the same if it may not move or
something failed. -/
def advance (m : Interpretation) (accessor : Accessor) (table : Table) (entity event : Value) :
    Value :=
  match (transit m accessor table entity event).result with
  | .ok (.moved copy) => copy
  | _ => entity

/-- The entity as it is after some events, one after the other. -/
def run (m : Interpretation) (accessor : Accessor) (table : Table) (entity : Value)
    (events : List Value) : Value :=
  events.foldl (advance m accessor table) entity

/-- Whether an entity in a state moves on an event along a rule to a next state, and its copy is
what that gives. -/
structure Move (m : Interpretation) (accessor : Accessor) (table : Table)
    (entity event state : Value) (rule : Rule) (next copy : Value) : Prop where
  read : (accessor.get m entity).result = .ok state
  found : (table.search m state event).result = .ok (some rule)
  led : rule.target.Gives m entity next
  written : (accessor.set m entity next).result = .ok copy

/-- Whether an entity moves on an event to what the guard of a rule gives for it. -/
def GuardGives (m : Interpretation) (accessor : Accessor) (table : Table)
    (entity event next : Value) : Prop :=
  ∃ state rule guard copy, Move m accessor table entity event state rule next copy ∧
    rule ∈ table.rules ∧ rule.guard? = some guard ∧
      (m.call guard (.ofList [entity])).result = .ok next

/-- Where the state of an entity comes from after some events: it has been the state from the start,
or the catalog represents it, or a guard of the table gave it in an earlier move of the run. -/
inductive Origin (m : Interpretation) (accessor : Accessor) (table : Table) (entity : Value) :
    List Value → Value → Prop where
  | start {events : List Value} {state : Value} : (accessor.get m entity).result = .ok state →
      Origin m accessor table entity events state
  | catalog {events : List Value} {state : Value} : IsRepresented m table.states state →
      Origin m accessor table entity events state
  | guarded (before after : List Value) {event state : Value} :
      GuardGives m accessor table (run m accessor table entity before) event state →
        Origin m accessor table entity (before ++ event :: after) state

/-- Whether a move from a state on an event has its grounds in the table: a rule applies whose
source and event are represented. Where comparing makes sense, the catalog of states has one that
equals the state, and the catalog of events one that equals the event. -/
structure Table.Grounds (m : Interpretation) (table : Table) (state event : Value) : Prop where
  rule : ∃ rule ∈ table.rules, rule.Applies m state event ∧
    IsRepresented m table.states rule.source ∧ IsRepresented m table.events rule.event
  state : ∀ P : Value → Prop, ComparesWell m P → (∀ v ∈ table.mentionedStates, P v) → P state →
    IsCovered m table.states state
  event : ∀ Q : Value → Prop, ComparesWell m Q → (∀ v ∈ table.mentionedEvents, Q v) → Q event →
    IsCovered m table.events event

/-- Whether a run has stayed inside the catalog of the table: the state that the entity is in has
its origin there, every move of the run had its grounds in the table, and where the table has no
guards the catalog represents the state once the entity has moved. -/
structure StaysInside (m : Interpretation) (accessor : Accessor) (table : Table) (entity : Value)
    (events : List Value) (state : Value) : Prop where
  read : (accessor.get m (run m accessor table entity events)).result = .ok state
  origin : Origin m accessor table entity events state
  moves : ∀ before event after copy, events = before ++ event :: after →
    (transit m accessor table (run m accessor table entity before) event).result =
      .ok (.moved copy) →
    ∃ current, (accessor.get m (run m accessor table entity before)).result = .ok current ∧
      table.Grounds m current event
  unguarded : (∀ rule ∈ table.rules, rule.guard? = none) →
    ∀ before event after copy, events = before ++ event :: after →
      (transit m accessor table (run m accessor table entity before) event).result =
        .ok (.moved copy) → IsRepresented m table.states state

variable {m : Interpretation} {accessor : Accessor} {table : Table}

theorem run_concat (entity : Value) (events : List Value) (event : Value) :
    run m accessor table entity (events ++ [event]) =
      advance m accessor table (run m accessor table entity events) event := by
  simp [run]

/-- An entity that has come through an event has moved, or it is as it was. -/
theorem advance_cases (m : Interpretation) (accessor : Accessor) (table : Table)
    (entity event : Value) :
    (∃ copy, (transit m accessor table entity event).result = .ok (.moved copy) ∧
        advance m accessor table entity event = copy) ∨
      (∀ copy, (transit m accessor table entity event).result ≠ .ok (.moved copy)) ∧
        advance m accessor table entity event = entity := by
  unfold advance
  split
  · next copy hmoved => exact .inl ⟨copy, hmoved, rfl⟩
  · next hnot => exact .inr ⟨fun copy hmoved => hnot copy hmoved, rfl⟩

theorem exists_move {entity event copy : Value}
    (h : (transit m accessor table entity event).result = .ok (.moved copy)) :
    ∃ state rule next, Move m accessor table entity event state rule next copy := by
  obtain ⟨state, hread, _⟩ := Act.result_bind_eq_ok_iff.mp h
  obtain ⟨rule, next, hfound, hled, _, hwritten⟩ := (result_transit_eq_ok_moved_iff hread).mp h
  exact ⟨state, rule, next, hread, hfound, hled, hwritten⟩

/-- What applies is represented, and what equals it is covered where comparing makes sense. -/
theorem Table.Cataloged.grounds (h : table.Cataloged m) {state event : Value} {rule : Rule}
    (hrule : rule ∈ table.rules) (happlies : rule.Applies m state event) :
    table.Grounds m state event := by
  obtain ⟨hsource, hcue⟩ := Rule.applies_iff.mp happlies
  have hmentioned : rule.source ∈ table.mentionedStates :=
    List.mem_flatMap.mpr ⟨rule, hrule, List.mem_cons_self⟩
  have htrigger : rule.event ∈ table.mentionedEvents := List.mem_map_of_mem hrule
  have hstates := h.states.represents rule.source hmentioned
  have hevents := h.events.represents rule.event htrigger
  have hcovered {catalog : List Value} {v other : Value} {P : Value → Prop} (hm : ComparesWell m P)
      (hkind : ∀ k ∈ catalog, P k) (hv : P v) (hother : P other) (hequals : v.Equals m other) :
      IsRepresented m catalog v → IsCovered m catalog other := by
    rintro ⟨k, hk, rfl | hsame⟩
    · exact ⟨_, hk, hequals⟩
    · exact ⟨k, hk, hm.equals_of_same (hkind k hk) hv hother hsame hequals⟩
  refine ⟨⟨rule, hrule, happlies, hstates, hevents⟩, fun P hm hkind hstate => ?_,
    fun Q hm hkind hevent => ?_⟩
  · exact hcovered hm (fun k hk => hkind k (h.mem_mentionedStates hk)) (hkind _ hmentioned) hstate
      hsource hstates
  · exact hcovered hm (fun k hk => hkind k (h.mem_mentionedEvents hk)) (hkind _ htrigger)
      hevent hcue
      hevents

/-- A move leads to a state that the catalog represents, or to what a guard gives. -/
theorem Table.Cataloged.next_of_move (h : table.Cataloged m) {entity event state next copy : Value}
    {rule : Rule} (hmove : Move m accessor table entity event state rule next copy) :
    IsRepresented m table.states next ∨
      rule.guard? ≠ none ∧ GuardGives m accessor table entity event next := by
  obtain ⟨hfirst, _⟩ := Table.result_search_eq_ok_some_iff.mp hmove.found
  have hled := hmove.led
  cases htarget : rule.target with
  | literal destination =>
      rw [htarget] at hled
      obtain rfl : next = destination := hled
      have hnamed : next ∈ rule.states :=
        List.mem_cons_of_mem _ (by rw [htarget]; exact List.mem_cons_self)
      exact .inl ((h.represents hfirst.mem).1 next hnamed)
  | guarded guard declared =>
      rw [htarget] at hled
      have hguard : rule.guard? = some guard := by rw [Rule.guard?, htarget]
      exact .inr ⟨by simp [hguard], state, rule, guard, copy, hmove, hfirst.mem, hguard, hled⟩

/-- An event of a run that goes on for one more event is that one, or an event of the run before. -/
theorem split_of_concat {α : Type} {events before after : List α} {event other : α}
    (h : events ++ [event] = before ++ other :: after) :
    (before = events ∧ other = event) ∨ ∃ rest, events = before ++ other :: rest := by
  rcases List.eq_nil_or_concat after with rfl | ⟨rest, last, rfl⟩
  · obtain ⟨hevents, hlast⟩ := List.append_inj' h rfl
    exact .inl ⟨hevents.symm, (List.cons.inj hlast).1.symm⟩
  · have hsplit : events ++ [event] = (before ++ other :: rest) ++ [last] := by simpa using h
    exact .inr ⟨rest, (List.append_inj' hsplit rfl).1⟩

theorem Origin.concat {entity state : Value} {events : List Value}
    (h : Origin m accessor table entity events state) (event : Value) :
    Origin m accessor table entity (events ++ [event]) state := by
  cases h with
  | start hread => exact .start hread
  | catalog hstate => exact .catalog hstate
  | guarded before after hgives =>
      rw [List.append_assoc, List.cons_append]
      exact .guarded before (after ++ [event]) hgives

namespace StaysInside

variable {entity state : Value} {events : List Value}

/-- Where a run has stayed inside, so has every move of it and of one more event. -/
theorem moves_concat (hcataloged : table.Cataloged m)
    (h : StaysInside m accessor table entity events state) (last : Value) :
    ∀ before event after copy, events ++ [last] = before ++ event :: after →
      (transit m accessor table (run m accessor table entity before) event).result =
        .ok (.moved copy) →
      ∃ current, (accessor.get m (run m accessor table entity before)).result = .ok current ∧
        table.Grounds m current event := by
  intro before event after copy hsplit hmoved
  rcases split_of_concat hsplit with ⟨rfl, rfl⟩ | ⟨rest, hevents⟩
  · obtain ⟨current, rule, next, hmove⟩ := exists_move hmoved
    obtain ⟨hfirst, happlies⟩ := Table.result_search_eq_ok_some_iff.mp hmove.found
    exact ⟨current, hmove.read, hcataloged.grounds hfirst.mem happlies⟩
  · exact h.moves before event rest copy hevents hmoved

/-- A run that goes on without a move is as it was. -/
theorem concat_of_not_moved (hcataloged : table.Cataloged m)
    (h : StaysInside m accessor table entity events state) {event : Value}
    (hnot : ∀ copy, (transit m accessor table (run m accessor table entity events) event).result ≠
      .ok (.moved copy))
    (hsame : advance m accessor table (run m accessor table entity events) event =
      run m accessor table entity events) :
    StaysInside m accessor table entity (events ++ [event]) state where
  read := by
    rw [run_concat, hsame]
    exact h.read
  origin := h.origin.concat event
  moves := h.moves_concat hcataloged event
  unguarded := by
    intro hguards before other after copy hsplit hmoved
    rcases split_of_concat hsplit with ⟨rfl, rfl⟩ | ⟨rest, hevents⟩
    · exact absurd hmoved (hnot copy)
    · exact h.unguarded hguards before other rest copy hevents hmoved

/-- A run that goes on with a move is inside if the state that the move led to is read. -/
theorem concat_of_move (hcataloged : table.Cataloged m)
    (h : StaysInside m accessor table entity events state) {event next copy : Value} {rule : Rule}
    (hmove : Move m accessor table (run m accessor table entity events) event state rule next copy)
    (hadvance : advance m accessor table (run m accessor table entity events) event = copy)
    (hread : (accessor.get m copy).result = .ok next) :
    StaysInside m accessor table entity (events ++ [event]) next where
  read := by
    rw [run_concat, hadvance]
    exact hread
  origin := by
    rcases hcataloged.next_of_move hmove with hknown | ⟨_, hgives⟩
    · exact .catalog hknown
    · exact .guarded events [] hgives
  moves := h.moves_concat hcataloged event
  unguarded := by
    intro hguards _ _ _ _ _ _
    obtain ⟨hfirst, _⟩ := Table.result_search_eq_ok_some_iff.mp hmove.found
    rcases hcataloged.next_of_move hmove with hknown | ⟨hguard, _⟩
    · exact hknown
    · exact absurd (hguards rule hfirst.mem) hguard

end StaysInside

/-- Runs stay inside on an entity on which the accessor reads back what it wrote. -/
theorem exists_staysInside (hcataloged : table.Cataloged m) {entity start : Value}
    (hreads : accessor.ReadsBack m entity) (hstart : (accessor.get m entity).result = .ok start)
    (events : List Value) :
    accessor.IsCopy m entity (run m accessor table entity events) ∧
      ∃ state, StaysInside m accessor table entity events state := by
  induction events using List.reverseRecOn with
  | nil =>
      refine ⟨.self, start, hstart, .start hstart, ?_, ?_⟩
      · intro before event after copy hsplit
        simp at hsplit
      · intro _ before event after copy hsplit
        simp at hsplit
  | append_singleton events event ih =>
      obtain ⟨hcopy, state, hinside⟩ := ih
      rcases advance_cases m accessor table (run m accessor table entity events) event with
        ⟨copy, hmoved, hadvance⟩ | ⟨hnot, hsame⟩
      · obtain ⟨current, rule, next, hmove⟩ := exists_move hmoved
        obtain rfl : state = current := Except.ok.inj (hinside.read.symm.trans hmove.read)
        refine ⟨?_, next, hinside.concat_of_move hcataloged hmove hadvance
          (hreads _ _ _ hcopy hmove.written)⟩
        rw [run_concat, hadvance]
        exact .set hcopy hmove.written
      · refine ⟨?_, state, hinside.concat_of_not_moved hcataloged hnot hsame⟩
        rw [run_concat, hsame]
        exact hcopy

/-- Runs stay inside the catalog. The accessor for a field reads back what it wrote on every
mapping, and on every record, tuple with names and plain object whose class spares the field
(`Class.Spares`). On an entity on which an accessor reads back what it wrote, any run by a table
that is built stays inside: at every point the state is the one at the start, or the catalog
represents it, or a guard of the table gave it in an earlier move; every move was on an event and
from a state that have their grounds in the table; and without guards the catalog represents every
state behind the first move. -/
theorem runs_stay_in_catalog {m : Interpretation} {declarations : List Value} {table : Table}
    (hbuild : (build m declarations).result = .ok table) :
    (∀ (attr : Value) (name : String) (accessor : Accessor) (entity : Value),
        (Accessor.ofField m attr).result = .ok accessor → attr.text? = some name →
          entity.IsOrdinary name → accessor.ReadsBack m entity) ∧
      ∀ (accessor : Accessor) (entity start : Value), accessor.ReadsBack m entity →
        (accessor.get m entity).result = .ok start → ∀ events : List Value,
          ∃ state, StaysInside m accessor table entity events state := by
  refine ⟨fun attr name accessor entity hfield hattr hentity => ?_,
    fun accessor entity start hreads hstart events => ?_⟩
  · obtain ⟨other, hother, rfl⟩ := Accessor.ofField_eq_ok hfield
    obtain rfl : name = other := Option.some.inj (hattr.symm.trans hother)
    exact Accessor.readsBack_field hattr hentity
  · exact (exists_staysInside (Table.cataloged_of_build hbuild) hreads hstart events).2

/-- Calls of guards that hold every order back. -/
def holding : Interpretation := .upTo (fun _ => .give fun _ => pure (.text "held")) 1

/-- An order is paid and then checked by a guard. -/
def guardedOrders : List Value :=
  [.declaration (.simple (.text "new") (.text "paid") (.text "pay")),
    .declaration (.eventBlock (.text "check")
      [.declaration (.simple (.text "paid") .unset .null)] orderGuard)]

/-- An order over some amount, a record. -/
def order (copies : Nat) (state : String) : Value :=
  .object ⟨"Order", "Order", .record, ["state", "total"], [], [], "Order", none, false, false,
    false⟩
    [] ⟨1, copies⟩ [("state", .text state), ("total", .integer 30)]

theorem isOrdinary_order (copies : Nat) (state : String) :
    (order copies state).IsOrdinary "state" := by
  refine .object (Class.spares_of_unshared (by decide) (by decide) (fun _ _ => rfl) (fun _ => rfl)
    fun item hitem => ?_) ?_
  · cases hitem
  · exact lookup_of_apart ["state", "total"] rfl (by decide)

/-- A new order is not checked. Once it is paid it is, and then it is in a state that only the guard
knows of. -/
theorem runs_stay_in_catalog_orders :
    ∃ table, (build holding guardedOrders).result = .ok table ∧
      table.states = [.text "new", .text "paid"] ∧
      run holding .standard table (order 0 "new") [.text "check", .text "pay", .text "check"] =
        order 2 "held" ∧
      StaysInside holding .standard table (order 0 "new")
        [.text "check", .text "pay", .text "check"] (.text "held") := by
  have hbuild : (build holding guardedOrders).result = .ok _ := rfl
  obtain ⟨hreads, hruns⟩ := runs_stay_in_catalog hbuild
  obtain ⟨state, hinside⟩ := hruns .standard (order 0 "new") (.text "new")
    (hreads (.text "state") "state" .standard _ rfl rfl (isOrdinary_order 0 "new")) rfl
    [.text "check", .text "pay", .text "check"]
  obtain rfl : .text "held" = state := Except.ok.inj hinside.read
  exact ⟨_, hbuild, rfl, rfl, hinside⟩

/-- Two pieces of fruit, which are the same for a plain mapping in whatever order they come. -/
def basket (kind : MappingKind) : Value :=
  .mapping kind [(.text "apple", .integer 1), (.text "pear", .integer 2)]

def repacked : Value := .mapping .ordered [(.text "pear", .integer 2), (.text "apple", .integer 1)]

def inState (state : Value) : Value := .mapping .plain [(.text "state", state)]

/-- Calls that agree to everything. -/
def agreeing : Interpretation := .upTo (fun _ => .give fun _ => pure (.boolean true)) 1

/-- An object that gives itself out to be a text and equals whatever it is asked about. -/
def joker : Value :=
  .object ⟨"Joker", "Joker", .plain, [], [], [], "", none, false, false, true⟩
    [("__class__", .basicType .text),
      ("__eq__", .function ⟨"agree", "<function agree>"⟩ (.text "agree"))] ⟨0, 0⟩ []

/-- Calls that lose what they should replace. -/
def losing : Interpretation :=
  .upTo (fun _ => .give fun _ => pure (.mapping .plain [(.text "entity", .text "lost")])) 1

/-- A loan, a tuple with a name whose class brings an operation of its own for replacing the
item. -/
def loan : Value :=
  .object ⟨"Loan", "Loan", .namedTuple, ["entity"], [], ["Item"], "Item", some ⟨"Item", ["entity"]⟩,
    false, false, true⟩ [("_replace", .function ⟨"swap", "<function swap>"⟩ (.text "swap"))] ⟨0, 0⟩
    [("entity", .text "new")]

/-- A run can leave the catalog. A basket that is packed in another order equals the plain basket
that a rule leads from, but not the ordered basket by which the catalog represents that one; an
event equals that of a rule, but not the event that represents it; and an object that brings an
operation of its own for being copied comes to a state that no rule leads to. -/
theorem runs_may_leave_catalog :
    (¬∀ (m : Interpretation) (declarations : List Value) (table : Table)
        (entity event state copy : Value), (build m declarations).result = .ok table →
      (Accessor.standard.get m entity).result = .ok state →
        (transit m .standard table entity event).result = .ok (.moved copy) →
          IsCovered m table.states state) ∧
    (¬∀ (m : Interpretation) (declarations : List Value) (table : Table)
        (entity event copy : Value), (build m declarations).result = .ok table →
      (transit m .standard table entity event).result = .ok (.moved copy) →
        IsCovered m table.events event) ∧
    ¬∀ (m : Interpretation) (declarations : List Value) (table : Table) (attr : Value)
        (accessor : Accessor) (entity event state copy : Value),
      (build m declarations).result = .ok table → (∀ rule ∈ table.rules, rule.guard? = none) →
        (Accessor.ofField m attr).result = .ok accessor →
          (transit m accessor table entity event).result = .ok (.moved copy) →
            (accessor.get m copy).result = .ok state → IsRepresented m table.states state := by
  refine ⟨fun hall => ?_, fun hall => ?_, fun hall => ?_⟩
  · let declarations : List Value :=
      [.declaration (.simple (basket .ordered) (.text "sold") (.text "sell")),
        .declaration (.simple (basket .plain) (.text "weighed") (.text "weigh"))]
    have hbuild : (build .exhausted declarations).result = .ok
        ⟨[⟨basket .ordered, .text "sell", .literal (.text "sold")⟩,
          ⟨basket .plain, .text "weigh", .literal (.text "weighed")⟩],
          [basket .ordered, .text "sold", .text "weighed"], [.text "sell", .text "weigh"]⟩ := rfl
    obtain ⟨k, hk, hequals⟩ := hall .exhausted declarations _ (inState repacked) (.text "weigh")
      repacked (inState (.text "weighed")) hbuild rfl rfl
    simp only [List.mem_cons, List.not_mem_nil, or_false] at hk
    rcases hk with rfl | rfl | rfl <;> cases hequals
  · let declarations : List Value :=
      [.declaration (.simple (.text "new") (.text "paid") (.text "pay")),
        .declaration (.simple (.text "paid") (.text "sent") joker)]
    have hbuild : (build agreeing declarations).result = .ok
        ⟨[⟨.text "new", .text "pay", .literal (.text "paid")⟩,
          ⟨.text "paid", joker, .literal (.text "sent")⟩],
          [.text "new", .text "paid", .text "sent"], [.text "pay"]⟩ := rfl
    obtain ⟨k, hk, hequals⟩ := hall agreeing declarations _ (inState (.text "paid")) (.text "drop")
      (inState (.text "sent")) hbuild rfl
    obtain rfl := List.mem_singleton.mp hk
    cases hequals
  · let declarations : List Value :=
      [.declaration (.simple (.text "new") (.text "paid") (.text "pay"))]
    have hbuild : (build losing declarations).result = .ok
        ⟨[⟨.text "new", .text "pay", .literal (.text "paid")⟩], [.text "new", .text "paid"],
          [.text "pay"]⟩ := rfl
    obtain ⟨k, hk, hsame⟩ :=
      hall losing declarations _ (.text "entity") (.field (.text "entity") "entity")
      loan (.text "pay") (.text "lost") (.mapping .plain [(.text "entity", .text "lost")]) hbuild
      (List.forall_mem_singleton.mpr rfl) rfl rfl rfl
    simp only [List.mem_cons, List.not_mem_nil, or_false] at hk
    rcases hsame with heq | hsame
    · rcases hk with rfl | rfl <;> simp at heq
    · rcases hk with rfl | rfl <;> cases hsame

end StateRules
