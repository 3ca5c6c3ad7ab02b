import StateRules.Proofs.Declaration.Reading

/-!
What it takes for a declaration to be accepted.

A declaration is rendered before anything is objected to, so it is accepted exactly if it can
be rendered and there is nothing to object to (`Value.accepted_iff`). The two have little to do
with each other. Whether it can be rendered is up to what its values come to as texts; whether
it is sound, to what they are. In particular a source is never asked about otherwise than by
writing it.

A block can be rendered when its head and each of its entries can, whatever stands beside them.
-/

namespace StateRules

variable {m : Interpretation}

/-- Whether what a value goes by is a text. -/
def Value.IsNamed (m : Interpretation) (v : Value) : Prop :=
  ∃ name text, (v.naming m).result = .ok name ∧ name.text? = some text

/-- Whether a value can be written the way a declaration names it. -/
def Value.IsWritable (m : Interpretation) (v : Value) : Prop :=
  ∃ label, (v.writeLabel m).result = .ok label

theorem Value.isWritable_of_text? {v : Value} {s : String} (h : v.text? = some s) :
    v.IsWritable m := by
  cases v with
  | text _ => exact ⟨_, rfl⟩
  | member _ => exact ⟨_, rfl⟩
  | _ => cases h

/-- What goes by a text can be written. The converse fails: what a value goes by may be
something else that can be written inside a text. -/
theorem Value.IsNamed.isWritable {v : Value} (h : v.IsNamed m) : v.IsWritable m := by
  obtain ⟨name, text, hname, htext⟩ := h
  obtain ⟨label, hlabel⟩ : ∃ label, (name.writeDisplay m).result = .ok label := by
    cases name with
    | text _ => exact ⟨_, rfl⟩
    | member _ => exact ⟨_, rfl⟩
    | _ => cases htext
  exact ⟨label, Act.result_bind_eq_ok_iff.mpr ⟨name, hname, hlabel⟩⟩

theorem exists_writeMention_iff {v : Value} {present : Bool} :
    (∃ label, (v.writeMention m present).result = .ok label) ↔
      (present = true → v.IsWritable m) := by
  cases present with
  | false => exact iff_of_true ⟨none, rfl⟩ (by simp)
  | true =>
      simp only [Value.writeMention, if_true, Act.result_map_eq_ok_iff, true_implies]
      constructor
      · rintro ⟨_, label, hlabel, _⟩
        exact ⟨label, hlabel⟩
      · rintro ⟨label, hlabel⟩
        exact ⟨some label, label, hlabel, rfl⟩

/-- Whether a declaration can be rendered. -/
def Declaration.Renders (m : Interpretation) (d : Declaration) : Prop :=
  ∃ text, (d.render m).result = .ok text

/-- Whether an entry can be rendered in a source block. -/
def Value.RendersInSource (m : Interpretation) (entry : Value) : Prop :=
  ∃ rendition text, (entry.renderEntry m).result = .ok rendition ∧
    (rendition.writeDisplay m).result = .ok text

/-- Whether an entry can be rendered in an event block. -/
def Value.RendersInEvent (m : Interpretation) (entry : Value) : Prop :=
  ∃ rendition lines, (entry.renderEntry m).result = .ok rendition ∧
    (rendition.linesOf m).result = .ok lines

theorem rendersInSource_declaration_iff {d : Declaration} :
    (Value.declaration d).RendersInSource m ↔ d.Renders m := by
  simp only [Value.RendersInSource, Value.renderEntry, Act.result_map_eq_ok_iff]
  constructor
  · rintro ⟨_, _, ⟨text, htext, _⟩, _⟩
    exact ⟨text, htext⟩
  · rintro ⟨text, htext⟩
    exact ⟨.text text, text, ⟨text, htext, rfl⟩, rfl⟩

theorem rendersInEvent_declaration_iff {d : Declaration} :
    (Value.declaration d).RendersInEvent m ↔ d.Renders m := by
  simp only [Value.RendersInEvent, Value.renderEntry, Act.result_map_eq_ok_iff]
  constructor
  · rintro ⟨_, _, ⟨text, htext, _⟩, _⟩
    exact ⟨text, htext⟩
  · rintro ⟨text, htext⟩
    exact ⟨.text text, Text.lines text, ⟨text, htext, rfl⟩, rfl⟩

/-- A simple declaration can be rendered when its source goes by a text and what else it
mentions can be written. -/
theorem exists_render_simple_iff {source destination event : Value} :
    (∃ text, ((Declaration.simple source destination event).render m).result = .ok text) ↔
      source.IsNamed m ∧
        (∃ label, (destination.writeMention m (!destination.isUnset)).result = .ok label) ∧
        ∃ label, (event.writeMention m (!event.isNull)).result = .ok label := by
  simp only [Declaration.render, renderSimple, Act.result_bind_eq_ok_iff,
    Act.result_ofOption_eq_ok_iff, Act.result_pure]
  constructor
  · rintro ⟨_, name, hname, goal, hgoal, cue, hcue, text, htext, _⟩
    exact ⟨⟨name, text, hname, htext⟩, ⟨goal, hgoal⟩, cue, hcue⟩
  · rintro ⟨⟨name, text, hname, htext⟩, ⟨goal, hgoal⟩, cue, hcue⟩
    exact ⟨_, name, hname, goal, hgoal, cue, hcue, text, htext, rfl⟩

theorem renders_simple_iff {source destination event : Value} :
    (Declaration.simple source destination event).Renders m ↔
      source.IsNamed m ∧ (destination.isUnset = false → destination.IsWritable m) ∧
        (event.isNull = false → event.IsWritable m) := by
  rw [Declaration.Renders, exists_render_simple_iff, exists_writeMention_iff,
    exists_writeMention_iff, Bool.not_eq_true', Bool.not_eq_true']

theorem renders_toEntry_iff {destination event : Value} :
    (Declaration.toEntry destination event).Renders m ↔
      destination.IsWritable m ∧ (event.isNull = false → event.IsWritable m) := by
  have hevent : (event.isNull = false → event.IsWritable m) ↔
      ∃ label, (event.writeMention m (!event.isNull)).result = .ok label := by
    rw [exists_writeMention_iff, Bool.not_eq_true']
  rw [hevent]
  simp only [Declaration.Renders, Declaration.render, Act.result_bind_eq_ok_iff, Act.result_pure]
  constructor
  · rintro ⟨_, label, hlabel, cue, hcue, _⟩
    exact ⟨⟨label, hlabel⟩, cue, hcue⟩
  · rintro ⟨⟨label, hlabel⟩, cue, hcue⟩
    exact ⟨_, label, hlabel, cue, hcue, rfl⟩

theorem exists_renderSourceEntries_iff {entries : List Value} :
    (∃ lines, (renderSourceEntries m entries).result = .ok lines) ↔
      ∀ entry ∈ entries, entry.RendersInSource m := by
  induction entries with
  | nil => exact iff_of_true ⟨[], rfl⟩ (by simp)
  | cons entry rest ih =>
      simp only [renderSourceEntries, Act.result_bind_eq_ok_iff, Act.result_pure,
        List.forall_mem_cons, ← ih]
      constructor
      · rintro ⟨_, rendition, hrendition, text, htext, lines, hlines, _⟩
        exact ⟨⟨rendition, text, hrendition, htext⟩, lines, hlines⟩
      · rintro ⟨⟨rendition, text, hrendition, htext⟩, lines, hlines⟩
        exact ⟨_, rendition, hrendition, text, htext, lines, hlines, rfl⟩

/-- The lines that are there already have no part in whether more can be added. -/
theorem exists_renderEventEntries_iff_forall {lines : List String} {entries : List Value} :
    (∃ out, (renderEventEntries m lines entries).result = .ok out) ↔
      ∀ entry ∈ entries, entry.RendersInEvent m := by
  induction entries generalizing lines with
  | nil => exact iff_of_true ⟨lines, rfl⟩ (by simp)
  | cons entry rest ih =>
      simp only [renderEventEntries, Act.result_bind_eq_ok_iff, List.forall_mem_cons]
      constructor
      · rintro ⟨out, rendition, hrendition, more, hmore, hout⟩
        exact ⟨⟨rendition, more, hrendition, hmore⟩, ih.mp ⟨out, hout⟩⟩
      · rintro ⟨⟨rendition, more, hrendition, hmore⟩, hrest⟩
        obtain ⟨out, hout⟩ := ih.mpr hrest
        exact ⟨out, rendition, hrendition, more, hmore, hout⟩

theorem renders_sourceBlock_iff {source destination event : Value} {entries : List Value} :
    (Declaration.sourceBlock source destination event entries).Renders m ↔
      source.IsWritable m ∧ ∀ entry ∈ entries, entry.RendersInSource m := by
  rw [← exists_renderSourceEntries_iff]
  simp only [Declaration.Renders, Declaration.render, Act.result_bind_eq_ok_iff, Act.result_pure]
  constructor
  · rintro ⟨_, label, hlabel, lines, hlines, _⟩
    exact ⟨⟨label, hlabel⟩, lines, hlines⟩
  · rintro ⟨⟨label, hlabel⟩, lines, hlines⟩
    exact ⟨_, label, hlabel, lines, hlines, rfl⟩

theorem renders_eventBlock_iff {event guard : Value} {entries : List Value} :
    (Declaration.eventBlock event entries guard).Renders m ↔
      event.IsWritable m ∧ (∀ entry ∈ entries, entry.RendersInEvent m) ∧
        (guard.isNull = false → guard.IsWritable m) := by
  have hguard : (guard.isNull = false → guard.IsWritable m) ↔
      ∃ label, (guard.writeMention m (!guard.isNull)).result = .ok label := by
    rw [exists_writeMention_iff, Bool.not_eq_true']
  rw [hguard]
  simp only [Declaration.Renders, Declaration.render, Act.result_bind_eq_ok_iff, Act.result_pure]
  constructor
  · rintro ⟨_, label, hlabel, lines, hlines, label', hlabel', _⟩
    exact ⟨⟨label, hlabel⟩, exists_renderEventEntries_iff_forall.mp ⟨lines, hlines⟩,
      label', hlabel'⟩
  · rintro ⟨⟨label, hlabel⟩, hentries, label', hlabel'⟩
    have hrender : ∃ out, (renderEventEntries m [eventLine label] entries).result = .ok out :=
      exists_renderEventEntries_iff_forall.mpr hentries
    obtain ⟨lines, hlines⟩ := hrender
    exact ⟨_, label, hlabel, lines, hlines, label', hlabel', rfl⟩

/-- Whether there is nothing to object to in an entry of a source block. -/
def Value.IsSoundToEntry (m : Interpretation) (entry : Value) : Prop :=
  ∃ destination event, entry = .declaration (.toEntry destination event) ∧
    (event.isEvent m).result = .ok true ∧ destination.IsDestination

/-- Whether there is nothing to object to in an entry of an event block with a guard or, where
that is `null`, without. -/
def Value.IsSoundFromEntry (guard entry : Value) : Prop :=
  ∃ source destination, entry = .declaration (.simple source destination .null) ∧
    (guard.isNull = true → destination.isUnset = false) ∧ destination.IsDestination

/-- Whether there is nothing to object to in a declaration. -/
def Declaration.IsSound (m : Interpretation) : Declaration → Prop
  | .simple _ destination event =>
      destination.isUnset = false ∧ (event.isEvent m).result = .ok true ∧
        destination.IsDestination
  | .sourceBlock _ destination event entries =>
      destination.isUnset = true ∧ event.isNull = true ∧
        ∀ entry ∈ entries, entry.IsSoundToEntry m
  | .toEntry _ _ => False
  | .eventBlock event entries guard =>
      (event.isEvent m).result = .ok true ∧ (guard.isNull = true ∨ guard.isCallable = true) ∧
        ∀ entry ∈ entries, Value.IsSoundFromEntry guard entry

theorem Value.isNull_iff {v : Value} : v.isNull = true ↔ v = .null := by
  cases v <;> simp [isNull]

theorem Value.isUnset_iff {v : Value} : v.isUnset = true ↔ v = .unset := by
  cases v <;> simp [isUnset]

theorem exists_forall₂_iff {α β : Type} {R : α → β → Prop} {xs : List α} :
    (∃ ys, List.Forall₂ R xs ys) ↔ ∀ x ∈ xs, ∃ y, R x y := by
  induction xs with
  | nil => exact iff_of_true ⟨[], .nil⟩ (by simp)
  | cons x rest ih =>
      rw [List.forall_mem_cons, ← ih]
      constructor
      · rintro ⟨_, hys⟩
        obtain ⟨y, ys, hy, hrest, rfl⟩ := List.forall₂_cons_left_iff.mp hys
        exact ⟨⟨y, hy⟩, ys, hrest⟩
      · rintro ⟨⟨y, hy⟩, ys, hrest⟩
        exact ⟨y :: ys, .cons hy hrest⟩

theorem exists_checkToEntry_iff {text : String} {source entry : Value} :
    (∃ step, (checkToEntry m text source entry).result = .ok step) ↔
      entry.IsSoundToEntry m := by
  simp only [checkToEntry_eq_ok_iff]
  constructor
  · rintro ⟨_, destination, event, hentry, hevent, hdestination, _⟩
    exact ⟨destination, event, hentry, hevent, hdestination⟩
  · rintro ⟨destination, event, hentry, hevent, hdestination⟩
    exact ⟨_, destination, event, hentry, hevent, hdestination, rfl⟩

theorem exists_checkFromEntry_iff {text : String} {event guard entry : Value} :
    (∃ step, (checkFromEntry m text event guard entry).result = .ok step) ↔
      Value.IsSoundFromEntry guard entry := by
  simp only [checkFromEntry_eq_ok_iff, Value.isNull_iff]
  constructor
  · rintro ⟨_, source, destination, _, hentry, rfl, hgiven, hdestination, _⟩
    exact ⟨source, destination, hentry, hgiven ∘ Value.isNull_iff.mp, hdestination⟩
  · rintro ⟨source, destination, hentry, hgiven, hdestination⟩
    exact ⟨_, source, destination, .null, hentry, rfl, hgiven ∘ Value.isNull_iff.mpr,
      hdestination, rfl⟩

theorem Declaration.accepted_iff {d : Declaration} :
    (Value.declaration d).Accepted m ↔ d.Renders m ∧ d.IsSound m := by
  show (∃ steps, (d.check m).result = .ok steps) ↔ _
  cases d with
  | simple source destination event =>
      simp only [check_simple_eq_ok_iff]
      constructor
      · rintro ⟨_, htext, hunset, hevent, hdestination, _⟩
        exact ⟨htext, hunset, hevent, hdestination⟩
      · rintro ⟨htext, hunset, hevent, hdestination⟩
        exact ⟨_, htext, hunset, hevent, hdestination, rfl⟩
  | sourceBlock source destination event entries =>
      simp only [check_sourceBlock_eq_ok_iff]
      constructor
      · rintro ⟨steps, text, htext, hunset, hnull, hentries⟩
        refine ⟨⟨text, htext⟩, hunset, hnull, fun entry hentry => ?_⟩
        exact exists_checkToEntry_iff.mp (exists_forall₂_iff.mp ⟨steps, hentries⟩ entry hentry)
      · rintro ⟨⟨text, htext⟩, hunset, hnull, hentries⟩
        obtain ⟨steps, hsteps⟩ := exists_forall₂_iff.mpr fun entry hentry =>
          exists_checkToEntry_iff.mpr (hentries entry hentry)
        exact ⟨steps, text, htext, hunset, hnull, hsteps⟩
  | toEntry destination event =>
      refine iff_of_false ?_ fun h => h.2
      rintro ⟨_, hsteps⟩
      obtain ⟨_, _, hrefuse⟩ := Act.result_bind_eq_ok_iff.mp hsteps
      cases hrefuse
  | eventBlock event entries guard =>
      simp only [check_eventBlock_eq_ok_iff]
      constructor
      · rintro ⟨steps, text, htext, hevent, hguard, hentries⟩
        refine ⟨⟨text, htext⟩, hevent, hguard, fun entry hentry => ?_⟩
        exact exists_checkFromEntry_iff.mp (exists_forall₂_iff.mp ⟨steps, hentries⟩ entry hentry)
      · rintro ⟨⟨text, htext⟩, hevent, hguard, hentries⟩
        obtain ⟨steps, hsteps⟩ := exists_forall₂_iff.mpr fun entry hentry =>
          exists_checkFromEntry_iff.mpr (hentries entry hentry)
        exact ⟨steps, text, htext, hevent, hguard, hsteps⟩

/-- Whether a value is a declaration that can be rendered. -/
def Value.Renders (m : Interpretation) : Value → Prop
  | .declaration d => d.Renders m
  | _ => False

/-- Whether a value is a declaration in which there is nothing to object to. -/
def Value.IsSound (m : Interpretation) : Value → Prop
  | .declaration d => d.IsSound m
  | _ => False

/-- A value is accepted exactly if it can be rendered and there is nothing to object to. -/
theorem Value.accepted_iff {v : Value} : v.Accepted m ↔ v.Renders m ∧ v.IsSound m := by
  cases v with
  | declaration d => exact Declaration.accepted_iff
  | _ =>
      refine iff_of_false ?_ fun h => h.1
      rintro ⟨_, hsteps⟩
      obtain ⟨_, hd, _⟩ := Value.declaration_of_check hsteps
      cases hd

/-- Whether a destination and an event make a step, from wherever it leads: they fit, and both
can be written. -/
structure IsArrival (m : Interpretation) (destination event : Value) : Prop where
  written : destination.IsWritable m
  label : event.IsWritable m
  destination : destination.IsDestination
  event : (event.isEvent m).result = .ok true

theorem Value.isNull_of_isEvent {event : Value} (h : (event.isEvent m).result = .ok true) :
    event.isNull = false := by
  cases event with
  | null => cases h
  | _ => rfl

theorem accepted_simple_iff {source destination event : Value} :
    (Value.declaration (.simple source destination event)).Accepted m ↔
      source.IsNamed m ∧ destination.isUnset = false ∧ IsArrival m destination event := by
  rw [Declaration.accepted_iff, renders_simple_iff, Declaration.IsSound]
  constructor
  · rintro ⟨⟨hnamed, hwritten, hlabel⟩, hunset, hevent, hdestination⟩
    have hlabel := hlabel (Value.isNull_of_isEvent hevent)
    exact ⟨hnamed, hunset, hwritten hunset, hlabel, hdestination, hevent⟩
  · rintro ⟨hnamed, hunset, harrival⟩
    exact ⟨⟨hnamed, fun _ => harrival.written, fun _ => harrival.label⟩, hunset, harrival.event,
      harrival.destination⟩

/-- What an event block asks for besides its entries: an event and a guard that fit, both of
which can be written. -/
structure Value.HeadsBlock (m : Interpretation) (event guard : Value) : Prop where
  label : ∃ label, (event.writeLabel m).result = .ok label
  mention : ∃ label, (guard.writeMention m (!guard.isNull)).result = .ok label
  event : (event.isEvent m).result = .ok true
  guard : guard.isNull = true ∨ guard.isCallable = true

/-- The head of an event block and its entries have no part in one another. -/
theorem accepted_eventBlock_iff {event guard : Value} {entries : List Value} :
    (Value.declaration (.eventBlock event entries guard)).Accepted m ↔
      event.HeadsBlock m guard ∧
        ∀ entry ∈ entries, entry.RendersInEvent m ∧ Value.IsSoundFromEntry guard entry := by
  rw [Declaration.accepted_iff, renders_eventBlock_iff, Declaration.IsSound]
  have hmention : (guard.isNull = false → guard.IsWritable m) ↔
      ∃ label, (guard.writeMention m (!guard.isNull)).result = .ok label := by
    rw [exists_writeMention_iff, Bool.not_eq_true']
  constructor
  · rintro ⟨⟨hlabel, hrenders, hwritten⟩, hevent, hguard, hsound⟩
    exact ⟨⟨hlabel, hmention.mp hwritten, hevent, hguard⟩,
      fun entry hentry => ⟨hrenders entry hentry, hsound entry hentry⟩⟩
  · rintro ⟨hhead, hentries⟩
    exact ⟨⟨hhead.label, fun entry hentry => (hentries entry hentry).1,
      hmention.mpr hhead.mention⟩, hhead.event, hhead.guard,
      fun entry hentry => (hentries entry hentry).2⟩

end StateRules
