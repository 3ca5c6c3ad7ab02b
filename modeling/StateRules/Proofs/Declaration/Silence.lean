import StateRules.Declaration.Check
import StateRules.Proofs.Value.Silence

/-!
Checking a declaration is silent.

A check emits no records: what it is refused for is in the fault alone. So where the operations that
classes bring leave no record of some part of the library, the check of a declaration leaves none
either, whether it gets through or not (`Value.isSilent_check`).
-/

namespace StateRules

variable {m : Interpretation} {part : Component}

namespace Value

theorem isSilent_rendition (hm : m.IsSilent part) (v : Value) : (v.rendition m).IsSilent part := by
  unfold rendition
  split
  · exact .pure _
  · refine (isSilent_read? hm _ _).bind fun renderer => ?_
    split
    · exact isSilent_shownAs hm _ _
    · exact isSilent_shownAs hm _ _
    · exact hm.call _ _

theorem isSilent_linesOf (hm : m.IsSilent part) (rendition : Value) :
    (rendition.linesOf m).IsSilent part := by
  unfold linesOf
  split
  · exact .pure _
  · refine (isSilent_read hm _ _).bind fun cutter => (hm.call _ _).bind fun cut => ?_
    exact (isSilent_items hm cut).bind fun pieces => .mapM (isSilent_writeDisplay hm) pieces

theorem isSilent_writeMention (hm : m.IsSilent part) (v : Value) (present : Bool) :
    (v.writeMention m present).IsSilent part :=
  .ite ((isSilent_writeLabel hm v).map _) (.pure _)

end Value

theorem isSilent_renderSimple (hm : m.IsSilent part) (source destination event : Value) :
    (renderSimple m source destination event).IsSilent part := by
  refine (Value.isSilent_naming hm source).bind fun name => ?_
  refine (Value.isSilent_writeMention hm destination _).bind fun destination => ?_
  refine (Value.isSilent_writeMention hm event _).bind fun event => ?_
  exact (Act.IsSilent.ofOption _ _).bind fun source => .pure _

mutual

theorem Declaration.isSilent_render (hm : m.IsSilent part) (d : Declaration) :
    (d.render m).IsSilent part := by
  match d with
  | .simple source destination event =>
      unfold Declaration.render
      exact isSilent_renderSimple hm source destination event
  | .sourceBlock source _ _ entries =>
      unfold Declaration.render
      exact (Value.isSilent_writeLabel hm source).bind fun label =>
        (isSilent_renderSourceEntries hm entries).bind fun lines => .pure _
  | .toEntry destination event =>
      unfold Declaration.render
      exact (Value.isSilent_writeLabel hm destination).bind fun label =>
        (Value.isSilent_writeMention hm event _).bind fun cue => .pure _
  | .eventBlock event entries guard =>
      unfold Declaration.render
      exact (Value.isSilent_writeLabel hm event).bind fun label =>
        (isSilent_renderEventEntries hm _ entries).bind fun lines =>
          (Value.isSilent_writeMention hm guard _).bind fun label => .pure _

theorem Value.isSilent_renderEntry (hm : m.IsSilent part) (v : Value) :
    (v.renderEntry m).IsSilent part := by
  unfold Value.renderEntry
  split
  · next d => exact (Declaration.isSilent_render hm d).map _
  · exact Value.isSilent_rendition hm v

theorem isSilent_renderSourceEntries (hm : m.IsSilent part) (entries : List Value) :
    (renderSourceEntries m entries).IsSilent part := by
  match entries with
  | [] => exact .pure _
  | entry :: rest =>
      unfold renderSourceEntries
      refine (Value.isSilent_renderEntry hm entry).bind fun rendition => ?_
      refine (Value.isSilent_writeDisplay hm rendition).bind fun text => ?_
      exact (isSilent_renderSourceEntries hm rest).bind fun others => .pure _

theorem isSilent_renderEventEntries (hm : m.IsSilent part) (lines : List String)
    (entries : List Value) : (renderEventEntries m lines entries).IsSilent part := by
  match entries with
  | [] => exact .pure _
  | entry :: rest =>
      unfold renderEventEntries
      refine (Value.isSilent_renderEntry hm entry).bind fun rendition => ?_
      refine (Value.isSilent_linesOf hm rendition).bind fun more => ?_
      exact isSilent_renderEventEntries hm _ rest

end

theorem Objection.isSilent_refuse {α : Type} (objection : Objection) (rendered : String) :
    (objection.refuse rendered : Act α).IsSilent part := .fail _

section Check

variable (hm : m.IsSilent part)
include hm

theorem Objection.isSilent_advise {α : Type} (objection : Objection) (rendered : String)
    (replacement : Declaration) :
    (objection.advise m rendered replacement : Act α).IsSilent part :=
  (replacement.isSilent_render hm).bind fun _ => .fail _

theorem Value.isSilent_isEvent (v : Value) : (v.isEvent m).IsSilent part :=
  (v.isSilent_isA hm _).bind fun _ => .ite (v.isSilent_holds hm) (.pure _)

theorem Value.isSilent_isFunctionFor (v : Value) : (v.isFunctionFor m).IsSilent part :=
  .ite ((v.isSilent_countsAs hm _).bind fun _ => (v.isSilent_countsAs hm _).bind fun _ => .pure _)
    (.pure _)

theorem Value.isSilent_namedDestination (entry : Value) :
    (entry.namedDestination m).IsSilent part :=
  (entry.isSilent_read? hm _).bind fun _ => .pure _

theorem isSilent_checkEvent (rendered : String) (event : Value) :
    (checkEvent m rendered event).IsSilent part := by
  refine (event.isSilent_isEvent hm).bind fun fit => .ite (.pure _) ?_
  exact (event.isSilent_write hm).bind fun shown => Objection.isSilent_refuse _ rendered

omit hm in
theorem isSilent_checkState (rendered : String) (destination : Value) :
    (checkState rendered destination).IsSilent part :=
  .ite (Objection.isSilent_refuse _ rendered) (.pure _)

theorem isSilent_checkKnown (rendered : String) (source event destination : Value) :
    (checkKnown m rendered source event destination).IsSilent part :=
  (destination.isSilent_isFunctionFor hm).bind fun _ =>
    .ite (Objection.isSilent_advise hm _ rendered _) (.pure _)

theorem isSilent_checkSimple (rendered : String) (source destination event : Value) :
    (checkSimple m rendered source destination event).IsSilent part := by
  have hrest : (do
      checkEvent m rendered event
      checkKnown m rendered source event destination
      checkState rendered destination
      pure ⟨source, event, .literal destination⟩ : Act Step).IsSilent part :=
    (isSilent_checkEvent hm rendered event).bind fun _ =>
      (isSilent_checkKnown hm rendered source event destination).bind fun _ =>
        (isSilent_checkState rendered destination).bind fun _ => .pure _
  exact .ite ((Objection.isSilent_refuse _ rendered).bind fun _ => hrest) hrest

theorem isSilent_checkToEntry (rendered : String) (source entry : Value) :
    (checkToEntry m rendered source entry).IsSilent part := by
  unfold checkToEntry
  split
  · exact (isSilent_checkEvent hm rendered _).bind fun _ =>
      (isSilent_checkKnown hm rendered source _ _).bind fun _ =>
        (isSilent_checkState rendered _).bind fun _ => .pure _
  · exact (Value.isSilent_countsAs hm _ _).bind fun _ => Objection.isSilent_refuse _ rendered

theorem isSilent_checkSimpleEntry (rendered : String)
    (event guard source destination ownEvent : Value) :
    (checkSimpleEntry m rendered event guard source destination ownEvent).IsSilent part := by
  unfold checkSimpleEntry
  extract_lets conclude literal behind
  have hconclude (u : Unit) : (conclude u).IsSilent part :=
    (isSilent_checkState rendered destination).bind fun _ => .pure _
  have hliteral (u : Unit) : (literal u).IsSilent part :=
    (isSilent_checkKnown hm rendered source event destination).bind hconclude
  have hrefuse {next : Unit → Act Step} (hnext : ∀ u, (next u).IsSilent part) (c : Bool)
      (objection : Objection) :
      (if c then objection.refuse rendered >>= next else next ()).IsSilent part :=
    .ite ((Objection.isSilent_refuse _ rendered).bind hnext) (hnext ())
  refine hrefuse (fun _ => ?_) _ _
  refine .ite (hrefuse hliteral _ _) ?_
  exact (Value.isSilent_isFunctionFor hm destination).bind fun computed =>
    hrefuse hconclude computed _

theorem isSilent_checkFromEntry (rendered : String) (event guard entry : Value) :
    (checkFromEntry m rendered event guard entry).IsSilent part := by
  unfold checkFromEntry
  split
  · exact isSilent_checkSimpleEntry hm rendered event guard _ _ _
  · exact (Act.IsSilent.mapM (Value.isSilent_namedDestination hm) _).bind fun destinations =>
      Objection.isSilent_advise hm _ rendered _
  · exact (Value.isSilent_countsAs hm _ _).bind fun _ => Objection.isSilent_refuse _ rendered

omit hm in
theorem isSilent_checkGuard (rendered : String) (guard : Value) :
    (checkGuard rendered guard).IsSilent part :=
  .ite (Objection.isSilent_refuse _ rendered) (.pure _)

theorem Declaration.isSilent_check (d : Declaration) : (d.check m).IsSilent part := by
  cases d with
  | simple source destination event =>
      exact (isSilent_render hm _).bind fun rendered =>
        (isSilent_checkSimple hm rendered source destination event).bind fun step => .pure _
  | sourceBlock source destination event entries =>
      refine (isSilent_render hm _).bind fun rendered => ?_
      have hentries := Act.IsSilent.mapM (isSilent_checkToEntry hm rendered source) entries
      exact .ite ((Objection.isSilent_refuse _ rendered).bind fun _ => hentries) hentries
  | toEntry destination event =>
      exact (Value.isSilent_write hm _).bind fun shown => Objection.isSilent_refuse _ shown
  | eventBlock event entries guard =>
      refine (isSilent_render hm _).bind fun rendered => ?_
      exact (isSilent_checkEvent hm rendered event).bind fun _ =>
        (isSilent_checkGuard rendered guard).bind fun _ =>
          .mapM (isSilent_checkFromEntry hm rendered event guard) entries

theorem Value.isSilent_check (v : Value) : (v.check m).IsSilent part := by
  unfold check
  split
  · next d => exact d.isSilent_check hm
  · exact (Value.isSilent_countsAs hm _ _).bind fun _ =>
      (Value.isSilent_countsAs hm _ _).bind fun _ =>
        (Value.isSilent_write hm _).bind fun shown => Objection.isSilent_refuse _ shown

end Check

end StateRules
