import StateRules.Guard
import StateRules.Proofs.Declaration.Recovery

/-!
Declarations with the same text.

A textual declaration is rendered as its text with the guard mentioned in it, if the guard can be
mentioned at all (`Declaration.render_eq_ok_iff`). An event block begins like no other declaration,
and its text tells its event, its entries and how its guard is mentioned. So apart from what is not
shown, declarations with the same text are the same, up to guards of the same name
(`Declaration.shown_eq_of_render_eq`). Where all is shown, the text is the declaration
(`renderings_are_unambiguous`).
-/

namespace StateRules

open Text

theorem Value.isAtom_of_isTextual {v : Value} (h : v.isTextual = true) : v.isAtom = true := by
  cases v with
  | text _ | any | null | unset => rfl
  | _ => cases h

mutual

theorem Declaration.isRegular_of_isTextualEntry (d : Declaration) (h : d.isTextualEntry = true) :
    d.isRegular = true := by
  match d with
  | .simple source destination event =>
      simp only [Declaration.isTextualEntry, Bool.and_eq_true] at h
      simp [Declaration.isRegular, Value.isAtom_of_isTextual h.1.1,
        Value.isAtom_of_isTextual h.1.2, Value.isAtom_of_isTextual h.2]
  | .sourceBlock source destination event entries =>
      simp only [Declaration.isTextualEntry, Bool.and_eq_true] at h
      simp [Declaration.isRegular, Value.isAtom_of_isTextual h.1.1.1,
        Value.isAtom_of_isTextual h.1.1.2, Value.isAtom_of_isTextual h.1.2,
        regularEntries_of_textual entries h.2]
  | .toEntry destination event =>
      simp only [Declaration.isTextualEntry, Bool.and_eq_true] at h
      simp [Declaration.isRegular, Value.isAtom_of_isTextual h.1, Value.isAtom_of_isTextual h.2]

theorem Value.isRegularEntry_of_isTextualEntry (v : Value) (h : v.isTextualEntry = true) :
    v.isRegularEntry = true := by
  match v with
  | .declaration d => exact Declaration.isRegular_of_isTextualEntry d h

theorem regularEntries_of_textual (entries : List Value) (h : textualEntries entries = true) :
    regularEntries entries = true := by
  match entries with
  | [] => rfl
  | entry :: rest =>
      simp only [textualEntries, Bool.and_eq_true] at h
      simp [regularEntries, Value.isRegularEntry_of_isTextualEntry entry h.1,
        regularEntries_of_textual rest h.2]

end

namespace Declaration

/-- The guard of an event block. Other declarations have none. -/
def guard : Declaration → Value
  | .eventBlock _ _ guard => guard
  | _ => .null

/-- A declaration without its guard. -/
def unguarded : Declaration → Declaration
  | .eventBlock event entries _ => .eventBlock event entries .null
  | d => d

/-- How the guard of a declaration is mentioned, if there is one. -/
def guardMention (m : Interpretation) (d : Declaration) : Act (Option String) :=
  d.guard.writeMention m (!d.guard.isNull)

/-- The text of a declaration whose guard is mentioned in some way. -/
def textWith (d : Declaration) (guard : Option String) : String :=
  match d with
  | .eventBlock event entries _ =>
      stacked (eventBlockLines [eventLine event.label] entries ++ [closingLine guard])
  | d => d.text

variable {m : Interpretation} {d e : Declaration}

theorem textWith_unguarded (d : Declaration) (guard : Option String) :
    d.unguarded.textWith guard = d.textWith guard := by
  cases d <;> rfl

theorem eq_of_unguarded_eq (h : d.unguarded = e.unguarded) (hguard : d.guard = e.guard) :
    d = e := by
  cases d <;> cases e <;> simp_all [unguarded, guard]

/-- Whether a declaration may be an entry, and so has neither a guard nor a place for one. -/
structure IsBare (d : Declaration) : Prop where
  textual : d.isTextualEntry = true
  guard : d.guard = .null
  text : ∀ mention, d.textWith mention = d.text

/-- A textual declaration is an event block with textual entries, or it may be such an entry. -/
theorem isTextual_cases (h : d.isTextual = true) :
    (∃ event entries guard, d = .eventBlock event entries guard ∧ event.isTextual = true ∧
      textualEntries entries = true) ∨ d.IsBare := by
  cases d with
  | eventBlock event entries guard =>
      simp only [isTextual, Bool.and_eq_true] at h
      exact .inl ⟨event, entries, guard, rfl, h.1, h.2⟩
  | _ => exact .inr ⟨h, rfl, fun _ => rfl⟩

theorem IsBare.guardMention (h : d.IsBare) : (d.guardMention m).result = .ok none := by
  rw [Declaration.guardMention, h.guard]
  rfl

/-- A textual declaration is rendered if its guard can be mentioned. -/
theorem render_eq_ok_iff (h : d.isTextual = true) {text : String} :
    (d.render m).result = .ok text ↔
      ∃ mention, (d.guardMention m).result = .ok mention ∧ d.textWith mention = text := by
  rcases isTextual_cases h with ⟨event, entries, guard, rfl, hevent, hentries⟩ | hbare
  · have hregular := regularEntries_of_textual entries hentries
    simp only [render, Value.writeLabel_of_isAtom m (Value.isAtom_of_isTextual hevent), pure_bind,
      renderEventEntries_of_regular m _ entries hregular, Act.result_bind_eq_ok_iff,
      Act.result_pure, Except.ok.injEq]
    rfl
  · rw [render_of_isRegular m d (isRegular_of_isTextualEntry d hbare.textual)]
    simp [hbare.guardMention, hbare.text]

theorem exists_text_eq_cons (h : d.isTextualEntry = true) :
    ∃ c rest, d.text.toList = c :: rest ∧ c ≠ 'e' := by
  cases d with
  | simple source destination event =>
      rw [toList_simpleLine]
      exact ⟨'f', _, rfl, by decide⟩
  | sourceBlock source destination event entries =>
      rw [toList_text_sourceBlock]
      exact ⟨'f', _, rfl, by decide⟩
  | toEntry destination event =>
      rw [toList_toEntryLine]
      exact ⟨'t', _, rfl, by decide⟩
  | eventBlock event entries guard => cases h

/-- The closing of an event block behind its bracket. -/
def closingTail : Option String → List Char
  | none => [')']
  | some guard => ", guard=".toList ++ (guard.toList ++ [')'])

theorem toList_closingLine (mention : Option String) :
    (closingLine mention).toList = ']' :: closingTail mention := by
  cases mention with
  | none => rfl
  | some guard =>
      rw [closingLine, String.toList_append, String.toList_append, List.append_assoc]
      rfl

theorem closingTail_injective : Function.Injective closingTail := by
  intro mention other h
  cases mention with
  | none =>
      cases other with
      | none => rfl
      | some guard => cases (List.cons.inj h).1
  | some guard =>
      cases other with
      | none => cases (List.cons.inj h).1
      | some guard' =>
          have hguard := List.append_cancel_right (List.append_cancel_left h)
          rw [String.toList_injective hguard]

theorem toList_textWith_eventBlock {event : Value} {entries : List Value} (guard : Value)
    (h : textualEntries entries = true) (mention : Option String) :
    ((Declaration.eventBlock event entries guard).textWith mention).toList =
      "event(".toList ++ (event.label.toList ++ (", [".toList ++
        (laidEntries ['\n'] ('\n' :: indentStep) entries ++
          (['\n'] ++ (']' :: closingTail mention))))) := by
  rw [textWith, toList_text_eventBlock h, toList_closingLine]
  rfl

/-- An event block is not taken for another declaration. -/
theorem textWith_eventBlock_ne {event : Value} {entries : List Value} {guard : Value}
    (h : textualEntries entries = true) (hd : d.isTextualEntry = true) (mention : Option String) :
    (Declaration.eventBlock event entries guard).textWith mention ≠ d.text := by
  intro heq
  obtain ⟨c, rest, htext, hc⟩ := exists_text_eq_cons hd
  have hchars := congrArg String.toList heq
  rw [toList_textWith_eventBlock guard h, htext] at hchars
  exact hc (List.cons.inj hchars).1.symm

/-- Textual declarations with the same text show the same, and mention their guards in the same
way. -/
theorem shown_eq_of_render_eq (hd : d.isTextual = true) (he : e.isTextual = true) {text : String}
    (h : (d.render m).result = .ok text) (h' : (e.render m).result = .ok text) :
    d.shown.unguarded = e.shown.unguarded ∧
      ∃ mention, (d.guardMention m).result = .ok mention ∧
        (e.guardMention m).result = .ok mention := by
  obtain ⟨mention, hmention, htext⟩ := (render_eq_ok_iff hd).mp h
  obtain ⟨other, hother, htext'⟩ := (render_eq_ok_iff he).mp h'
  have heq := htext.trans htext'.symm
  rcases isTextual_cases hd with ⟨event, entries, guard, rfl, hevent, hentries⟩ | hbare <;>
    rcases isTextual_cases he with ⟨event', entries', guard', rfl, hevent', hentries'⟩ | hbare'
  · have hchars := congrArg String.toList heq
    rw [toList_textWith_eventBlock guard hentries, toList_textWith_eventBlock guard' hentries']
      at hchars
    obtain ⟨rfl, hbody⟩ :=
      Value.label_append_inj hevent hevent' (List.append_cancel_left hchars)
    obtain ⟨hshown, hclosing⟩ :=
      laidEntries_append_inj entries entries' hentries hentries' (List.append_cancel_left hbody)
    obtain rfl := closingTail_injective hclosing
    refine ⟨?_, mention, hmention, hother⟩
    rw [shown, shown, hshown]
    rfl
  · rw [hbare'.text] at heq
    exact absurd heq (textWith_eventBlock_ne hentries hbare'.textual mention)
  · rw [hbare.text] at heq
    exact absurd heq.symm (textWith_eventBlock_ne hentries' hbare.textual other)
  · rw [hbare.text, hbare'.text] at heq
    have hchars := congrArg (fun text => respaced ['\n'] text.toList ++ []) heq
    obtain ⟨hshown, _⟩ :=
      text_append_inj d e hbare.textual hbare'.textual hchars
    exact ⟨congrArg unguarded hshown, none, hbare.guardMention, hbare'.guardMention⟩

end Declaration

/-- Two textual declarations that show all that they are made of are rendered as the same text
exactly if they are the same up to their guards, and these are mentioned in the same way: not at
all, or by one name. -/
theorem renderings_are_unambiguous {m : Interpretation} {d e : Declaration}
    (hd : d.isTextual = true) (he : e.isTextual = true) (hshown : d.shown = d)
    (hshown' : e.shown = e) :
    (∃ text, (d.render m).result = .ok text ∧ (e.render m).result = .ok text) ↔
      d.unguarded = e.unguarded ∧
        ∃ mention, (d.guardMention m).result = .ok mention ∧
          (e.guardMention m).result = .ok mention := by
  constructor
  · rintro ⟨text, h, h'⟩
    have hboth := Declaration.shown_eq_of_render_eq hd he h h'
    rwa [hshown, hshown'] at hboth
  · rintro ⟨hsame, mention, hmention, hmention'⟩
    refine ⟨d.textWith mention, (Declaration.render_eq_ok_iff hd).mpr ⟨mention, hmention, rfl⟩,
      (Declaration.render_eq_ok_iff he).mpr ⟨mention, hmention', ?_⟩⟩
    rw [← Declaration.textWith_unguarded d, hsame, Declaration.textWith_unguarded]

/-- A review under a guard, of states whose names need escapes or look like the text around them. -/
def review (guard : Value) : Declaration :=
  .eventBlock (.text "go\n")
    [.declaration (.simple (.text "it's") (.text "\\") .null),
      .declaration (.sourceBlock (.text "a', to='b") .unset .null
        [.declaration (.toEntry (.text "\u2028") .null)])] guard

/-- Two reviews under guards of the same name have the same text. A state whose name looks like two
states is not taken for them. -/
theorem renderings_are_unambiguous_review :
    (∃ text,
      ((review (.function ⟨"f", "<f>"⟩ (.text "check"))).render .exhausted).result = .ok text ∧
      ((review (.function ⟨"g", "<g>"⟩ (.text "check"))).render .exhausted).result = .ok text) ∧
    ¬∃ text,
      ((Declaration.simple (.text "a', to='b") .unset .null).render .exhausted).result =
        .ok text ∧
      ((Declaration.simple (.text "a") (.text "b") .null).render .exhausted).result = .ok text := by
  constructor
  · exact (renderings_are_unambiguous rfl rfl rfl rfl).mpr ⟨rfl, some "check", rfl, rfl⟩
  · rw [renderings_are_unambiguous rfl rfl rfl rfl]
    rintro ⟨hsame, _⟩
    have hstate : "a', to='b" ≠ "a" := by decide
    exact hstate (Value.text.inj (Declaration.simple.inj hsame).1)

end StateRules
