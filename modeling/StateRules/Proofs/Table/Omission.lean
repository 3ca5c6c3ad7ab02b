import StateRules.Proofs.Declaration.Unambiguity
import StateRules.Proofs.Table.Refusal

/-!
What the text of a refused declaration leaves out.

A refusal quotes the text of the declaration. What is accepted shows all that it is made of
(`Declaration.shown_eq_of_isSound`), and a text tells all that is shown. So two declarations with
the same text can meet with different fates only if one of them has something that is not shown, the
destination or the event of its own that a source block should not have. It is refused for that, and
the text that is quoted is one that gets in without it (`verdicts_go_by_text_iff`).
-/

namespace StateRules

variable {m : Interpretation}

/-- Whether a table takes a declaration. -/
def Table.Takes (m : Interpretation) (table : Table) (d : Declaration) : Prop :=
  (table.add m (.declaration d)).act.result = .ok ()

theorem shownEntries_of_forall {entries : List Value}
    (h : ∀ entry ∈ entries, entry.shownEntry = entry) : shownEntries entries = entries := by
  induction entries with
  | nil => rfl
  | cons entry rest ih =>
      obtain ⟨hentry, hrest⟩ := List.forall_mem_cons.mp h
      rw [shownEntries, hentry, ih hrest]

namespace Declaration

variable {d e : Declaration}

/-- Where there is nothing to object to, all is shown. -/
theorem shown_eq_of_isSound (h : d.IsSound m) : d.shown = d := by
  cases d with
  | simple source destination event => rfl
  | sourceBlock source destination event entries =>
      obtain ⟨hunset, hnull, hentries⟩ := h
      rw [shown, Value.isUnset_iff.mp hunset, Value.isNull_iff.mp hnull, shownEntries_of_forall]
      intro entry hentry
      obtain ⟨_, _, rfl, _⟩ := hentries entry hentry
      rfl
  | toEntry destination event => rfl
  | eventBlock event entries guard =>
      obtain ⟨_, _, hentries⟩ := h
      rw [shown, shownEntries_of_forall]
      intro entry hentry
      obtain ⟨_, _, rfl, _⟩ := hentries entry hentry
      rfl

theorem shown_eq_of_takes {table : Table} (h : table.Takes m d) : d.shown = d :=
  shown_eq_of_isSound (accepted_iff.mp (Table.result_add_eq_ok_iff.mp h).1).2

theorem guard_shown (d : Declaration) : d.shown.guard = d.guard := by
  cases d <;> rfl

/-- Textual declarations with the same text show the same, if guards that are mentioned alike are
the same. -/
theorem shown_eq_of_named (hd : d.isTextual = true) (he : e.isTextual = true)
    (hnamed : (d.guardMention m).result = (e.guardMention m).result → d.guard = e.guard)
    {text : String} (h : (d.render m).result = .ok text) (h' : (e.render m).result = .ok text) :
    d.shown = e.shown := by
  obtain ⟨hsame, mention, hmention, hmention'⟩ := shown_eq_of_render_eq hd he h h'
  refine eq_of_unguarded_eq hsame ?_
  rw [guard_shown, guard_shown]
  exact hnamed (hmention.trans hmention'.symm)

end Declaration

/-- Two textual declarations with the same text, whose guards are the same if they are mentioned
alike, are both taken or both refused exactly if both show all that they are made of, or neither
does, or what they show is refused as it is. -/
theorem verdicts_go_by_text_iff {m : Interpretation} {d e : Declaration} {text : String}
    (hd : d.isTextual = true) (he : e.isTextual = true)
    (hnamed : (d.guardMention m).result = (e.guardMention m).result → d.guard = e.guard)
    (h : (d.render m).result = .ok text) (h' : (e.render m).result = .ok text) (table : Table) :
    (table.Takes m d ↔ table.Takes m e) ↔
      ((d.shown = d ↔ e.shown = e) ∨ ¬table.Takes m d.shown) := by
  have hsame := Declaration.shown_eq_of_named hd he hnamed h h'
  have hrefused : d.shown ≠ d → ¬table.Takes m d := mt Declaration.shown_eq_of_takes
  have hrefused' : e.shown ≠ e → ¬table.Takes m e := mt Declaration.shown_eq_of_takes
  by_cases hshown : d.shown = d <;> by_cases hshown' : e.shown = e
  · have heq : d = e := hshown.symm.trans (hsame.trans hshown')
    rw [heq]
    exact iff_of_true Iff.rfl (.inl Iff.rfl)
  · rw [hshown, iff_false_right (hrefused' hshown')]
    exact ⟨.inr, fun h => h.resolve_left fun hboth => hshown' (hboth.mp rfl)⟩
  · have heq : d.shown = e := hsame.trans hshown'
    rw [heq, iff_false_left (hrefused hshown)]
    exact ⟨.inr, fun h => h.resolve_left fun hboth => hshown (heq.trans (hboth.mpr hshown'))⟩
  · exact iff_of_true (iff_of_false (hrefused hshown) (hrefused' hshown'))
      (.inl (iff_of_false hshown hshown'))

/-- A block by which an entry leads on. -/
def leading : Declaration :=
  .sourceBlock (.text "a") .unset .null [.declaration (.toEntry (.text "b") (.text "e"))]

/-- The same block with a destination of its own. -/
def misleading : Declaration :=
  .sourceBlock (.text "a") (.text "c") .null [.declaration (.toEntry (.text "b") (.text "e"))]

/-- An event block around another declaration. -/
def wrapping (d : Declaration) : Declaration := .eventBlock (.text "e") [.declaration d] .null

/-- The two blocks have the same text, and only one of them is taken. Within an event block, where
neither belongs, both are refused. -/
theorem verdicts_go_by_text_leading :
    (¬(Table.empty.Takes .exhausted leading ↔ Table.empty.Takes .exhausted misleading)) ∧
      (Table.empty.Takes .exhausted (wrapping leading) ↔
        Table.empty.Takes .exhausted (wrapping misleading)) := by
  constructor
  · rw [verdicts_go_by_text_iff (d := leading) (e := misleading) rfl rfl (fun _ => rfl) rfl rfl]
    rintro (hboth | hrefused)
    · cases hboth.mp rfl
    · exact hrefused rfl
  · rw [verdicts_go_by_text_iff (d := wrapping leading) (e := wrapping misleading) rfl rfl
      (fun _ => rfl) rfl rfl]
    refine .inr fun hok => ?_
    cases hok

/-- Of two declarations with the same text, one may be taken and the other not, so a refusal does
not always quote what is refused. -/
theorem verdicts_differ_on_same_text :
    ¬∀ (m : Interpretation) (table : Table) (d e : Declaration) (text : String),
      d.isTextual = true → e.isTextual = true →
        ((d.guardMention m).result = (e.guardMention m).result → d.guard = e.guard) →
          (d.render m).result = .ok text → (e.render m).result = .ok text →
            (table.Takes m d ↔ table.Takes m e) := by
  intro hall
  have halike := hall .exhausted .empty leading misleading _ rfl rfl (fun _ => rfl) rfl rfl
  cases halike.mp rfl

end StateRules
