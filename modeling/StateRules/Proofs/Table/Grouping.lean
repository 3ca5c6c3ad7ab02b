import StateRules.Proofs.Declaration.Acceptance
import StateRules.Proofs.Table.Wildcard

/-!
What a block stands for.

A block groups declarations that have a source or an event in common, and does nothing else: it
reads as the steps of its parts in turn. So once block and parts are accepted, adding the block to
any table is adding the parts one after the other (`groups_iff_of_steps`), and a step for `any` sees
the states that the parts before it brought in. What the checks of the two write into the log may
differ, as the block is rendered once and the parts are rendered one by one; all other records are
the same.

It remains that block and parts are accepted together. The entries of an event block ask for
what the parts ask for. A source block asks less of its source than its parts do, which need a
text that the source goes by (`blocks_group_iff`).
-/

namespace StateRules

variable {m : Interpretation}

/-- Two extensions come to the same and leave the same records of a kind. -/
structure Extension.AgreesOn (p : Record → Bool) (one two : Extension) : Prop
    extends one.Agrees two where
  records : one.act.records.filter p = two.act.records.filter p

namespace Extension

variable {p : Record → Bool}

theorem AgreesOn.refl (extension : Extension) : extension.AgreesOn p extension :=
  ⟨.refl extension, rfl⟩

theorem AgreesOn.symm {one two : Extension} (h : one.AgreesOn p two) : two.AgreesOn p one :=
  ⟨h.toAgrees.symm, h.records.symm⟩

theorem AgreesOn.trans {one two three : Extension} (h : one.AgreesOn p two)
    (h' : two.AgreesOn p three) : one.AgreesOn p three :=
  ⟨h.toAgrees.trans h'.toAgrees, h.records.trans h'.records⟩

theorem AgreesOn.andThen {one two : Extension} (h : one.AgreesOn p two)
    {next next' : Table → Extension}
    (hnext : ∀ table, (next table).AgreesOn p (next' table)) :
    (one.andThen next).AgreesOn p (two.andThen next') := by
  refine ⟨h.toAgrees.andThen fun table => (hnext table).toAgrees, ?_⟩
  cases hone : one.act.result with
  | error fault =>
      have htwo : two.act.result = .error fault := h.result ▸ hone
      rw [andThen_of_error hone, andThen_of_error htwo]
      exact h.records
  | ok _ =>
      have htwo : two.act.result = .ok () := h.result ▸ hone
      rw [andThen_of_ok hone, andThen_of_ok htwo, Act.bind_of_ok hone, Act.bind_of_ok htwo,
        List.filter_append, List.filter_append, h.records, h.table, (hnext two.table).records]

end Extension

namespace Table

/-- Adding an accepted value leaves, besides what its check writes, the records of its steps. -/
theorem add_agreesOn_of_accepted {p : Record → Bool} {declaration : Value}
    (h : declaration.Accepted m)
    (hsilent : ∀ record ∈ (declaration.check m).records, p record = false) (table : Table) :
    (table.add m declaration).AgreesOn p (table.takeSteps m declaration.steps) := by
  refine ⟨add_agrees_of_accepted h.check table, ?_⟩
  have hnone : (declaration.check m).records.filter p = [] := by
    rw [List.filter_eq_nil_iff]
    intro record hrecord
    simp [hsilent record hrecord]
  simp only [add, h.check]
  rw [Act.bind_of_ok h.check, List.filter_append, hnone, List.nil_append]

theorem extend_agreesOn_of_accepted {p : Record → Bool} {declarations : List Value}
    (h : ∀ declaration ∈ declarations, declaration.Accepted m)
    (hsilent : ∀ declaration ∈ declarations,
      ∀ record ∈ (declaration.check m).records, p record = false) (table : Table) :
    (table.extend m declarations).AgreesOn p
      (table.takeSteps m (declarations.flatMap Value.steps)) := by
  induction declarations generalizing table with
  | nil => exact .refl _
  | cons declaration rest ih =>
      obtain ⟨hfirst, hrest⟩ := List.forall_mem_cons.mp h
      obtain ⟨hsilent, hsilents⟩ := List.forall_mem_cons.mp hsilent
      rw [extend, List.flatMap_cons, takeSteps_append]
      exact (add_agreesOn_of_accepted hfirst hsilent table).andThen (ih hrest hsilents)

end Table

/-- Whether a declaration stands for others in a row. It is accepted just when they are, and
then adding it to a table comes to adding them, with the same records as far as these are of a
kind that no check writes. -/
structure Groups (m : Interpretation) (block : Value) (parts : List Value) : Prop where
  accepted : block.Accepted m ↔ ∀ part ∈ parts, part.Accepted m
  effect : block.Accepted m → ∀ (table : Table) (p : Record → Bool),
    (∀ declaration ∈ block :: parts,
      ∀ record ∈ (declaration.check m).records, p record = false) →
    (table.add m block).AgreesOn p (table.extend m parts)

/-- What reads as the steps of its parts stands for them if it is accepted with them. -/
theorem groups_iff_of_steps {block : Value} {parts : List Value}
    (hsteps : block.steps = parts.flatMap Value.steps) :
    Groups m block parts ↔ (block.Accepted m ↔ ∀ part ∈ parts, part.Accepted m) := by
  refine ⟨Groups.accepted, fun haccepted => ⟨haccepted, fun hblock table p hsilent => ?_⟩⟩
  obtain ⟨hsilent, hsilents⟩ := List.forall_mem_cons.mp hsilent
  have hadd := Table.add_agreesOn_of_accepted hblock hsilent table
  have hextend := Table.extend_agreesOn_of_accepted (haccepted.mp hblock) hsilents table
  rw [hsteps] at hadd
  exact hadd.trans hextend.symm

/-- A source block that leads to some destinations, each on an event. -/
def sourceGroup (source : Value) (arrivals : List (Value × Value)) : Value :=
  .declaration (.sourceBlock source .unset .null
    (arrivals.map fun arrival => .declaration (.toEntry arrival.1 arrival.2)))

/-- The simple declarations that a source block groups. -/
def sourceParts (source : Value) (arrivals : List (Value × Value)) : List Value :=
  arrivals.map fun arrival => .declaration (.simple source arrival.1 arrival.2)

/-- An event block without a guard that leads from some sources to a destination each. -/
def eventGroup (event : Value) (moves : List (Value × Value)) : Value :=
  .declaration (.eventBlock event
    (moves.map fun move => .declaration (.simple move.1 move.2 .null)) .null)

/-- The simple declarations that an event block without a guard groups. -/
def eventParts (event : Value) (moves : List (Value × Value)) : List Value :=
  moves.map fun move => .declaration (.simple move.1 move.2 event)

/-- The event blocks of one entry each that an event block groups. -/
def blockParts (event guard : Value) (entries : List Value) : List Value :=
  entries.map fun entry => .declaration (.eventBlock event [entry] guard)

theorem steps_sourceGroup (source : Value) (arrivals : List (Value × Value)) :
    (sourceGroup source arrivals).steps = (sourceParts source arrivals).flatMap Value.steps := by
  show (arrivals.map _).flatMap (Value.toEntrySteps source) = (arrivals.map _).flatMap Value.steps
  rw [List.flatMap_map, List.flatMap_map]
  rfl

theorem steps_eventGroup (event : Value) (moves : List (Value × Value)) :
    (eventGroup event moves).steps = (eventParts event moves).flatMap Value.steps := by
  show (moves.map _).flatMap (Value.fromEntrySteps event .null) = (moves.map _).flatMap Value.steps
  rw [List.flatMap_map, List.flatMap_map]
  rfl

theorem steps_blockParts (event guard : Value) (entries : List Value) :
    (Value.declaration (.eventBlock event entries guard)).steps =
      (blockParts event guard entries).flatMap Value.steps := by
  show entries.flatMap (Value.fromEntrySteps event guard) = (entries.map _).flatMap Value.steps
  rw [List.flatMap_map]
  congr 1
  funext entry
  exact (List.flatMap_singleton _ _).symm

theorem accepted_sourceGroup_iff {source : Value} {arrivals : List (Value × Value)} :
    (sourceGroup source arrivals).Accepted m ↔
      source.IsWritable m ∧ ∀ arrival ∈ arrivals, IsArrival m arrival.1 arrival.2 := by
  rw [sourceGroup, Declaration.accepted_iff, renders_sourceBlock_iff, Declaration.IsSound,
    List.forall_mem_map, List.forall_mem_map]
  simp only [rendersInSource_declaration_iff, renders_toEntry_iff]
  constructor
  · rintro ⟨⟨hsource, hwritten⟩, _, _, hsound⟩
    refine ⟨hsource, fun arrival harrival => ?_⟩
    obtain ⟨hdestination, hlabel⟩ := hwritten arrival harrival
    obtain ⟨_, _, hentry, hevent, hproper⟩ := hsound arrival harrival
    cases hentry
    exact ⟨hdestination, hlabel (Value.isNull_of_isEvent hevent), hproper, hevent⟩
  · rintro ⟨hsource, harrivals⟩
    refine ⟨⟨hsource, fun arrival harrival => ?_⟩, rfl, rfl, fun arrival harrival => ?_⟩
    · exact ⟨(harrivals arrival harrival).written, fun _ => (harrivals arrival harrival).label⟩
    · exact ⟨_, _, rfl, (harrivals arrival harrival).event,
        (harrivals arrival harrival).destination⟩

/-- Without a guard, an entry asks for what a simple declaration asks for, but for the event. -/
theorem isFromEntry_iff_accepted {event source destination : Value}
    (hevent : (event.isEvent m).result = .ok true) (hlabel : event.IsWritable m) :
    (Value.declaration (.simple source destination .null)).RendersInEvent m ∧
        Value.IsSoundFromEntry .null (.declaration (.simple source destination .null)) ↔
      (Value.declaration (.simple source destination event)).Accepted m := by
  rw [rendersInEvent_declaration_iff, renders_simple_iff, accepted_simple_iff]
  constructor
  · rintro ⟨⟨hnamed, hwritten, _⟩, _, _, hentry, hgiven, hdestination⟩
    cases hentry
    have hunset := hgiven rfl
    exact ⟨hnamed, hunset, hwritten hunset, hlabel, hdestination, hevent⟩
  · rintro ⟨hnamed, hunset, harrival⟩
    exact ⟨⟨hnamed, fun _ => harrival.written, fun h => by cases h⟩, source, destination, rfl,
      fun _ => hunset, harrival.destination⟩

theorem groups_source_iff {source : Value} {arrivals : List (Value × Value)}
    (hgiven : ∀ arrival ∈ arrivals, arrival.1.isUnset = false) :
    Groups m (sourceGroup source arrivals) (sourceParts source arrivals) ↔
      ((∀ arrival ∈ arrivals, IsArrival m arrival.1 arrival.2) →
        (source.IsWritable m ↔ arrivals = [] ∨ source.IsNamed m)) := by
  have hparts : (∀ part ∈ sourceParts source arrivals, part.Accepted m) ↔
      (arrivals = [] ∨ source.IsNamed m) ∧
        ∀ arrival ∈ arrivals, IsArrival m arrival.1 arrival.2 := by
    simp only [sourceParts, List.forall_mem_map, accepted_simple_iff]
    cases arrivals with
    | nil => simp
    | cons first rest =>
        simp only [reduceCtorEq, false_or]
        constructor
        · intro h
          exact ⟨(h first List.mem_cons_self).1, fun arrival harrival => (h arrival harrival).2.2⟩
        · rintro ⟨hnamed, h⟩ arrival harrival
          exact ⟨hnamed, hgiven arrival harrival, h arrival harrival⟩
  rw [groups_iff_of_steps (steps_sourceGroup source arrivals), accepted_sourceGroup_iff, hparts,
    and_congr_left_iff]

theorem groups_event_iff {event : Value} (hevent : (event.isEvent m).result = .ok true)
    {moves : List (Value × Value)} :
    Groups m (eventGroup event moves) (eventParts event moves) ↔
      (moves = [] → event.IsWritable m) := by
  rw [groups_iff_of_steps (steps_eventGroup event moves), eventGroup, accepted_eventBlock_iff,
    List.forall_mem_map, eventParts, List.forall_mem_map]
  by_cases hlabel : event.IsWritable m
  · have hhead : event.HeadsBlock m .null := ⟨hlabel, ⟨none, rfl⟩, hevent, .inl rfl⟩
    simp only [isFromEntry_iff_accepted hevent hlabel, hhead, true_and, hlabel, implies_true]
  · -- what cannot be written heads no block, and stands in no simple declaration
    have hhead : ¬event.HeadsBlock m .null := fun hhead => hlabel hhead.label
    have hsimple : ∀ source destination,
        ¬(Value.declaration (.simple source destination event)).Accepted m := fun _ _ h =>
      hlabel (accepted_simple_iff.mp h).2.2.label
    cases moves with
    | nil => simp [hhead, hlabel]
    | cons first rest =>
        refine iff_of_true (iff_of_false (fun h => hhead h.1) fun h => ?_) (by simp)
        exact hsimple first.1 first.2 (h first List.mem_cons_self)

theorem groups_block {event guard : Value} {entries : List Value} (hsome : entries ≠ []) :
    Groups m (.declaration (.eventBlock event entries guard)) (blockParts event guard entries) := by
  rw [groups_iff_of_steps (steps_blockParts event guard entries), accepted_eventBlock_iff,
    blockParts, List.forall_mem_map]
  simp only [accepted_eventBlock_iff, List.forall_mem_singleton]
  constructor
  · rintro ⟨hhead, hentries⟩ entry hentry
    exact ⟨hhead, hentries entry hentry⟩
  · intro h
    obtain ⟨first, hfirst⟩ := List.exists_mem_of_ne_nil entries hsome
    exact ⟨(h first hfirst).1, fun entry hentry => (h entry hentry).2⟩

/-- Blocks only group. A block that leads from one source to some destinations stands for the
simple declarations from that source, exactly if the source can be written just where it goes
by a text; that counts only where there is nothing wrong with the entries, and without entries
the source only has to be written. A block of moves on one event stands for the simple
declarations on that event, unless it is empty and its event cannot be written. An event block
with entries of any kind, guarded or not, stands for the blocks of one entry each. -/
theorem blocks_group_iff (m : Interpretation) :
    (∀ (source : Value) (arrivals : List (Value × Value)),
      (∀ arrival ∈ arrivals, arrival.1.isUnset = false) →
        (Groups m (sourceGroup source arrivals) (sourceParts source arrivals) ↔
          ((∀ arrival ∈ arrivals, IsArrival m arrival.1 arrival.2) →
            (source.IsWritable m ↔ arrivals = [] ∨ source.IsNamed m)))) ∧
    (∀ (event : Value) (moves : List (Value × Value)), (event.isEvent m).result = .ok true →
      (Groups m (eventGroup event moves) (eventParts event moves) ↔
        (moves = [] → event.IsWritable m))) ∧
    ∀ (event guard : Value) (entries : List Value), entries ≠ [] →
      Groups m (.declaration (.eventBlock event entries guard)) (blockParts event guard entries) :=
  ⟨fun _ _ hgiven => groups_source_iff hgiven, fun _ _ hevent => groups_event_iff hevent,
    fun _ _ _ hsome => groups_block hsome⟩

/-- Ways for an order to end: void or, from anywhere known by then, gone. -/
def orderEnds : List (Value × Value) :=
  [(.text "void", .text "drop"), (.text "gone", .text "purge")]

/-- The ends of an order may be grouped by where they start, by their event or under a guard. -/
theorem blocks_group_orderEnds :
    Groups .exhausted (sourceGroup .any orderEnds) (sourceParts .any orderEnds) ∧
      Groups .exhausted (eventGroup (.text "end") orderEnds) (eventParts (.text "end") orderEnds) ∧
      Groups .exhausted
        (.declaration (.eventBlock (.text "check")
          [.declaration (.simple .any .unset .null), .null] orderGuard))
        (blockParts (.text "check") orderGuard
          [.declaration (.simple .any .unset .null), .null]) := by
  obtain ⟨hsource, hevent, hblock⟩ := blocks_group_iff .exhausted
  refine ⟨(hsource .any orderEnds ?_).mpr fun _ => ?_, (hevent (.text "end") orderEnds rfl).mpr ?_,
    hblock _ _ _ (List.cons_ne_nil _ _)⟩
  · simp [orderEnds, Value.isUnset]
  · have hnamed : Value.any.IsNamed .exhausted := ⟨_, _, rfl, rfl⟩
    exact iff_of_true hnamed.isWritable (.inr hnamed)
  · exact fun _ => Value.isWritable_of_text? rfl

/-- A block may be accepted although the simple declarations that it stands for are not. A stage
that goes by a number can start the block, but none of these. -/
theorem blocks_do_not_group_of_unnamed :
    ¬∀ (m : Interpretation) (source : Value) (arrivals : List (Value × Value)),
      (∀ arrival ∈ arrivals, arrival.1.isUnset = false) →
        ((sourceGroup source arrivals).Accepted m ↔
          ∀ part ∈ sourceParts source arrivals, part.Accepted m) := by
  intro hall
  have hgiven : ∀ arrival ∈ [((.text "done" : Value), (.text "go" : Value))],
      arrival.1.isUnset = false := by simp [Value.isUnset]
  have hblock : (sourceGroup stage [(.text "done", .text "go")]).Accepted .exhausted := ⟨_, rfl⟩
  have hparts := (hall .exhausted stage _ hgiven).mp hblock
  obtain ⟨hnamed, _⟩ := accepted_simple_iff.mp (hparts _ List.mem_cons_self)
  exact not_isNamed_stage hnamed

end StateRules
