import StateRules.Proofs.Declaration.Acceptance

/-!
The same declaration from other sources.

The check of a declaration asks nothing of a source, but to render the declaration the source
has to go by a text (`Value.IsNamed`). The marker `any` does. So where a declaration from `any`
is accepted, the same one from other sources is accepted exactly if these go by a text: one by
one as simple declarations (`accepted_simpleFrom_iff`), all together as the entries of an event
block (`accepted_eventFrom_iff`).
-/

namespace StateRules

/-- A simple declaration from each of some sources. -/
def simpleFrom (destination event : Value) (sources : List Value) : List Value :=
  sources.map fun source => .declaration (.simple source destination event)

/-- An event block with an entry from each of some sources. -/
def eventFrom (destination event guard : Value) (sources : List Value) : List Value :=
  [.declaration (.eventBlock event (simpleFrom destination .null sources) guard)]

theorem steps_simpleFrom (destination event : Value) (sources : List Value) :
    (simpleFrom destination event sources).flatMap Value.steps =
      sources.map fun source => ⟨source, event, .literal destination⟩ := by
  induction sources with
  | nil => rfl
  | cons source rest ih => simpa [simpleFrom, Value.steps, Declaration.steps] using ih

theorem steps_eventFrom (destination event guard : Value) (sources : List Value) :
    (eventFrom destination event guard sources).flatMap Value.steps =
      sources.map fun source => ⟨source, event, entryTarget guard destination⟩ := by
  simp only [eventFrom, List.flatMap_singleton, Value.steps, Declaration.steps]
  induction sources with
  | nil => rfl
  | cons source rest ih => simpa [simpleFrom, Value.fromEntrySteps] using ih

variable {m : Interpretation}

/-- Where a simple declaration from `any` is accepted, the same from other sources is if they
go by texts. -/
theorem accepted_simpleFrom_iff {destination event : Value}
    (h : ∀ d ∈ simpleFrom destination event [.any], d.Accepted m) {sources : List Value} :
    (∀ d ∈ simpleFrom destination event sources, d.Accepted m) ↔
      ∀ source ∈ sources, source.IsNamed m := by
  obtain ⟨_, hgiven, harrival⟩ := accepted_simple_iff.mp (List.forall_mem_singleton.mp h)
  rw [simpleFrom, List.forall_mem_map]
  refine forall₂_congr fun source _ => ?_
  constructor
  · intro haccepted
    exact (accepted_simple_iff.mp haccepted).1
  · intro hnamed
    exact accepted_simple_iff.mpr ⟨hnamed, hgiven, harrival⟩

/-- What an entry of an event block asks for besides its source: a destination that fits and
can be written. -/
structure Value.FitsEntry (m : Interpretation) (destination guard : Value) : Prop where
  mention : ∃ label, (destination.writeMention m (!destination.isUnset)).result = .ok label
  given : guard.isNull = true → destination.isUnset = false
  destination : destination.IsDestination

theorem fitsEntry_iff {source destination guard : Value} :
    source.IsNamed m ∧ destination.FitsEntry m guard ↔
      (Value.declaration (.simple source destination .null)).RendersInEvent m ∧
        Value.IsSoundFromEntry guard (.declaration (.simple source destination .null)) := by
  have hnone : ∃ label, (Value.null.writeMention m (!Value.null.isNull)).result = .ok label :=
    ⟨none, rfl⟩
  rw [rendersInEvent_declaration_iff, Declaration.Renders, exists_render_simple_iff]
  constructor
  · rintro ⟨hnamed, hmention, hgiven, hdestination⟩
    exact ⟨⟨hnamed, hmention, hnone⟩, source, destination, rfl, hgiven, hdestination⟩
  · rintro ⟨⟨hnamed, hmention, _⟩, _, _, ⟨⟩, hgiven, hdestination⟩
    exact ⟨hnamed, hmention, hgiven, hdestination⟩

theorem accepted_eventFrom_iff_fits {destination event guard : Value} {sources : List Value} :
    (∀ d ∈ eventFrom destination event guard sources, d.Accepted m) ↔
      event.HeadsBlock m guard ∧
        ∀ source ∈ sources, source.IsNamed m ∧ destination.FitsEntry m guard := by
  rw [eventFrom, List.forall_mem_singleton, accepted_eventBlock_iff, simpleFrom,
    List.forall_mem_map]
  simp only [fitsEntry_iff]

/-- Where an event block with an entry from `any` is accepted, the same with entries from other
sources is if they go by texts. -/
theorem accepted_eventFrom_iff {destination event guard : Value}
    (h : ∀ d ∈ eventFrom destination event guard [.any], d.Accepted m) {sources : List Value} :
    (∀ d ∈ eventFrom destination event guard sources, d.Accepted m) ↔
      ∀ source ∈ sources, source.IsNamed m := by
  obtain ⟨hhead, hany⟩ := accepted_eventFrom_iff_fits.mp h
  obtain ⟨_, hfits⟩ := List.forall_mem_singleton.mp hany
  rw [accepted_eventFrom_iff_fits]
  constructor
  · rintro ⟨_, hsources⟩ source hsource
    exact (hsources source hsource).1
  · intro hnamed
    exact ⟨hhead, fun source hsource => ⟨hnamed source hsource, hfits⟩⟩

end StateRules
