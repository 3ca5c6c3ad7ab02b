import StateRules.Proofs.Declaration.Acceptance
import StateRules.Proofs.Declaration.Layout

/-!
What can be got back from the text of an entry.

A text is read from left to right, and what stands there tells what comes next. Labels are told
apart by how they begin, and end of themselves (`Value.label_append_inj`). Behind a label stands a
bracket, or a comma and the name of what is mentioned next. Behind the opening of a block, an
indentation begins an entry and a bracket the closing (`laidEntries_append_inj`). So a text tells
all of a declaration that is shown in it, whatever room there is in front of its lines
(`Declaration.text_append_inj`).

Not all of a declaration is: a source block does not show the destination and the event of its own
that it should not have (`Declaration.shown`).
-/

namespace StateRules

open Text

mutual

/-- A declaration with only what its text shows: source blocks show neither a destination nor an
event of their own. -/
def Declaration.shown (d : Declaration) : Declaration :=
  match d with
  | .simple source destination event => .simple source destination event
  | .sourceBlock source _ _ entries => .sourceBlock source .unset .null (shownEntries entries)
  | .toEntry destination event => .toEntry destination event
  | .eventBlock event entries guard => .eventBlock event (shownEntries entries) guard
termination_by structural d

def Value.shownEntry (v : Value) : Value :=
  match v with
  | .declaration d => .declaration d.shown
  | v => v
termination_by structural v

def shownEntries (entries : List Value) : List Value :=
  match entries with
  | [] => []
  | entry :: rest => entry.shownEntry :: shownEntries rest
termination_by structural entries

end

theorem exists_quoted_eq_cons (s : String) :
    ∃ mark rest, IsMark mark ∧ (quoted s).toList = mark :: rest := by
  rw [quoted, String.toList_ofList]
  exact ⟨_, _, isMark_quoteMark s.toList, rfl⟩

/-- A quoted text is not taken for a marker. -/
theorem quoted_append_ne {s : String} {c : Char} (hc : ¬IsMark c) (rest rest' : List Char) :
    (quoted s).toList ++ rest ≠ c :: rest' := by
  obtain ⟨mark, more, hmark, hquoted⟩ := exists_quoted_eq_cons s
  rw [hquoted]
  intro h
  exact hc ((List.cons.inj h).1 ▸ hmark)

theorem quoted_append_inj {s t : String} {rest rest' : List Char}
    (h : (quoted s).toList ++ rest = (quoted t).toList ++ rest') : s = t ∧ rest = rest' := by
  rw [quoted, quoted, String.toList_ofList, String.toList_ofList] at h
  obtain ⟨htext, hrest⟩ := quoteWith_append_inj h
  exact ⟨String.toList_injective htext, hrest⟩

/-- A label tells what it is of, and where it ends. -/
theorem Value.label_append_inj {v w : Value} (hv : v.isTextual = true) (hw : w.isTextual = true)
    {rest rest' : List Char} (h : v.label.toList ++ rest = w.label.toList ++ rest') :
    v = w ∧ rest = rest' := by
  have hA : ¬IsMark 'A' := by decide
  have hN : ¬IsMark 'N' := by decide
  have hdot : ¬IsMark '.' := by decide
  cases v with
  | text s =>
      cases w with
      | text t =>
          obtain ⟨rfl, hrest⟩ := quoted_append_inj h
          exact ⟨rfl, hrest⟩
      | any => exact absurd h (quoted_append_ne hA _ _)
      | null => exact absurd h (quoted_append_ne hN _ _)
      | unset => exact absurd h (quoted_append_ne hdot _ _)
      | _ => cases hw
  | any =>
      cases w with
      | text t => exact absurd h.symm (quoted_append_ne hA _ _)
      | any => exact ⟨rfl, List.append_cancel_left h⟩
      | null => cases h
      | unset => cases h
      | _ => cases hw
  | null =>
      cases w with
      | text t => exact absurd h.symm (quoted_append_ne hN _ _)
      | null => exact ⟨rfl, List.append_cancel_left h⟩
      | any => cases h
      | unset => cases h
      | _ => cases hw
  | unset =>
      cases w with
      | text t => exact absurd h.symm (quoted_append_ne hdot _ _)
      | unset => exact ⟨rfl, List.append_cancel_left h⟩
      | any => cases h
      | null => cases h
      | _ => cases hw
  | _ => cases hv

theorem eventTail_cases (event : Value) :
    event = .null ∧ eventTail event = [] ∨
      eventTail event = ',' :: ' ' :: 'e' :: "vent=".toList ++ event.label.toList := by
  unfold eventTail
  split
  · next hnull => exact .inl ⟨Value.isNull_iff.mp hnull, rfl⟩
  · exact .inr rfl

theorem destinationTail_cases (destination : Value) :
    destination = .unset ∧ destinationTail destination = [] ∨
      destinationTail destination =
        ',' :: ' ' :: 't' :: "o=".toList ++ destination.label.toList := by
  unfold destinationTail
  split
  · next hunset => exact .inl ⟨Value.isUnset_iff.mp hunset, rfl⟩
  · exact .inr rfl

theorem eventTail_append_inj {event event' : Value} (h : event.isTextual = true)
    (h' : event'.isTextual = true) {rest rest' : List Char}
    (heq : eventTail event ++ ')' :: rest = eventTail event' ++ ')' :: rest') :
    event = event' ∧ rest = rest' := by
  rcases eventTail_cases event with ⟨hnull, htail⟩ | htail <;>
    rcases eventTail_cases event' with ⟨hnull', htail'⟩ | htail' <;> rw [htail, htail'] at heq
  · exact ⟨hnull.trans hnull'.symm, (List.cons.inj heq).2⟩
  · cases (List.cons.inj heq).1
  · cases (List.cons.inj heq).1
  · rw [List.append_assoc, List.append_assoc] at heq
    obtain ⟨hevent, hrest⟩ := Value.label_append_inj h h' (List.append_cancel_left heq)
    exact ⟨hevent, (List.cons.inj hrest).2⟩

/-- The character that a mention of a destination begins with, behind its comma, stands in no other
place. -/
theorem eventTail_ne_of_head {event : Value} {c : Char} (hc : c ≠ 'e') (rest rest' : List Char) :
    eventTail event ++ ')' :: rest ≠ ',' :: ' ' :: c :: rest' := by
  intro h
  rcases eventTail_cases event with ⟨rfl, htail⟩ | htail
  · cases (List.cons.inj h).1
  · rw [htail] at h
    exact hc (List.cons.inj (List.cons.inj (List.cons.inj h).2).2).1.symm

/-- What is mentioned behind the source of a simple declaration. -/
theorem tails_append_inj {destination destination' event event' : Value}
    (hdestination : destination.isTextual = true) (hdestination' : destination'.isTextual = true)
    (hevent : event.isTextual = true) (hevent' : event'.isTextual = true) {rest rest' : List Char}
    (h : destinationTail destination ++ (eventTail event ++ ')' :: rest) =
      destinationTail destination' ++ (eventTail event' ++ ')' :: rest')) :
    destination = destination' ∧ event = event' ∧ rest = rest' := by
  have ht : 't' ≠ 'e' := by decide
  rcases destinationTail_cases destination with ⟨hunset, htail⟩ | htail <;>
    rcases destinationTail_cases destination' with ⟨hunset', htail'⟩ | htail' <;>
    rw [htail, htail'] at h
  · exact ⟨hunset.trans hunset'.symm, eventTail_append_inj hevent hevent' h⟩
  · exact absurd h (eventTail_ne_of_head ht _ _)
  · exact absurd h.symm (eventTail_ne_of_head ht _ _)
  · rw [List.append_assoc, List.append_assoc] at h
    obtain ⟨rfl, hrest⟩ :=
      Value.label_append_inj hdestination hdestination' (List.append_cancel_left h)
    exact ⟨rfl, eventTail_append_inj hevent hevent' hrest⟩

theorem tails_ne_opening {destination event : Value} (rest rest' : List Char) :
    destinationTail destination ++ (eventTail event ++ ')' :: rest) ≠ ", [".toList ++ rest' := by
  rcases destinationTail_cases destination with ⟨rfl, htail⟩ | htail <;> rw [htail]
  · exact eventTail_ne_of_head (by decide) _ _
  · intro h
    cases (List.cons.inj (List.cons.inj (List.cons.inj h).2).2).1

section Entries

variable {source destination event : Value} {e : Declaration} {gap rest rest' : List Char}

/-- How the text of a simple declaration goes on behind its head. -/
theorem respaced_text_simple (hsource : source.isTextual = true)
    (hdestination : destination.isTextual = true) (hevent : event.isTextual = true)
    (gap rest : List Char) :
    respaced gap (Declaration.text (.simple source destination event)).toList ++ rest =
      "from_(".toList ++ (source.label.toList ++
        (destinationTail destination ++ (eventTail event ++ ')' :: rest))) := by
  rw [respaced_of_open (isLineEnd_text_simple hsource hdestination hevent), toList_simpleLine]
  simp only [List.append_assoc, List.singleton_append]

theorem respaced_text_toEntry (hdestination : destination.isTextual = true)
    (hevent : event.isTextual = true) (gap rest : List Char) :
    respaced gap (Declaration.text (.toEntry destination event)).toList ++ rest =
      "to(".toList ++ (destination.label.toList ++ (eventTail event ++ ')' :: rest)) := by
  rw [respaced_of_open (isLineEnd_text_toEntry hdestination hevent), toList_toEntryLine]
  simp only [List.append_assoc, List.singleton_append]

/-- The text of a simple declaration is that of no other entry. -/
theorem Declaration.eq_simple_of_text (hsource : source.isTextual = true)
    (hdestination : destination.isTextual = true) (hevent : event.isTextual = true)
    (he : e.isTextualEntry = true)
    (h : respaced gap (Declaration.text (.simple source destination event)).toList ++ rest =
      respaced gap e.text.toList ++ rest') :
    e = .simple source destination event ∧ rest = rest' := by
  rw [respaced_text_simple hsource hdestination hevent] at h
  cases e with
  | simple source' destination' event' =>
      simp only [Declaration.isTextualEntry, Bool.and_eq_true] at he
      rw [respaced_text_simple he.1.1 he.1.2 he.2] at h
      obtain ⟨rfl, htails⟩ := Value.label_append_inj hsource he.1.1 (List.append_cancel_left h)
      obtain ⟨rfl, rfl, rfl⟩ := tails_append_inj hdestination he.1.2 hevent he.2 htails
      exact ⟨rfl, rfl⟩
  | sourceBlock source' destination' event' entries' =>
      simp only [Declaration.isTextualEntry, Bool.and_eq_true] at he
      rw [respaced_text_sourceBlock he.1.1.1] at h
      simp only [List.append_assoc] at h
      obtain ⟨rfl, htails⟩ := Value.label_append_inj hsource he.1.1.1 (List.append_cancel_left h)
      exact absurd htails (tails_ne_opening _ _)
  | toEntry destination' event' =>
      simp only [Declaration.isTextualEntry, Bool.and_eq_true] at he
      rw [respaced_text_toEntry he.1 he.2] at h
      cases (List.cons.inj h).1
  | eventBlock event' entries' guard' => cases he

/-- The text of an entry of a source block is that of no other entry. -/
theorem Declaration.eq_toEntry_of_text (hdestination : destination.isTextual = true)
    (hevent : event.isTextual = true) (he : e.isTextualEntry = true)
    (h : respaced gap (Declaration.text (.toEntry destination event)).toList ++ rest =
      respaced gap e.text.toList ++ rest') :
    e = .toEntry destination event ∧ rest = rest' := by
  rw [respaced_text_toEntry hdestination hevent] at h
  cases e with
  | simple source' destination' event' =>
      simp only [Declaration.isTextualEntry, Bool.and_eq_true] at he
      rw [respaced_text_simple he.1.1 he.1.2 he.2] at h
      cases (List.cons.inj h).1
  | sourceBlock source' destination' event' entries' =>
      simp only [Declaration.isTextualEntry, Bool.and_eq_true] at he
      rw [respaced_text_sourceBlock he.1.1.1] at h
      cases (List.cons.inj h).1
  | toEntry destination' event' =>
      simp only [Declaration.isTextualEntry, Bool.and_eq_true] at he
      rw [respaced_text_toEntry he.1 he.2] at h
      obtain ⟨rfl, htail⟩ := Value.label_append_inj hdestination he.1 (List.append_cancel_left h)
      obtain ⟨rfl, rfl⟩ := eventTail_append_inj hevent he.2 htail
      exact ⟨rfl, rfl⟩
  | eventBlock event' entries' guard' => cases he

end Entries

mutual

/-- The text of a textual entry tells what it shows, and where it ends. -/
theorem Declaration.text_append_inj (d e : Declaration) (hd : d.isTextualEntry = true)
    (he : e.isTextualEntry = true) {gap rest rest' : List Char}
    (h : respaced gap d.text.toList ++ rest = respaced gap e.text.toList ++ rest') :
    d.shown = e.shown ∧ rest = rest' := by
  match d with
  | .simple source destination event =>
      simp only [Declaration.isTextualEntry, Bool.and_eq_true] at hd
      obtain ⟨rfl, hrest⟩ := Declaration.eq_simple_of_text hd.1.1 hd.1.2 hd.2 he h
      exact ⟨rfl, hrest⟩
  | .toEntry destination event =>
      simp only [Declaration.isTextualEntry, Bool.and_eq_true] at hd
      obtain ⟨rfl, hrest⟩ := Declaration.eq_toEntry_of_text hd.1 hd.2 he h
      exact ⟨rfl, hrest⟩
  | .sourceBlock source destination event entries =>
      cases e with
      | simple source' destination' event' =>
          simp only [Declaration.isTextualEntry, Bool.and_eq_true] at he
          cases (Declaration.eq_simple_of_text he.1.1 he.1.2 he.2 hd h.symm).1
      | toEntry destination' event' =>
          simp only [Declaration.isTextualEntry, Bool.and_eq_true] at he
          cases (Declaration.eq_toEntry_of_text he.1 he.2 hd h.symm).1
      | sourceBlock source' destination' event' entries' =>
          simp only [Declaration.isTextualEntry, Bool.and_eq_true] at hd he
          rw [respaced_text_sourceBlock hd.1.1.1, respaced_text_sourceBlock he.1.1.1] at h
          simp only [List.append_assoc] at h
          obtain ⟨rfl, hbody⟩ :=
            Value.label_append_inj hd.1.1.1 he.1.1.1 (List.append_cancel_left h)
          -- The entries end where a bracket stands in place of an indentation.
          obtain ⟨hentries, hrest⟩ :=
            laidEntries_append_inj entries entries' hd.2 he.2 (List.append_cancel_left hbody)
          rw [Declaration.shown, Declaration.shown, hentries]
          exact ⟨rfl, (List.cons.inj hrest).2⟩
      | eventBlock event' entries' guard' => cases he

theorem Value.entryText_append_inj (v w : Value) (hv : v.isTextualEntry = true)
    (hw : w.isTextualEntry = true) {gap rest rest' : List Char}
    (h : respaced gap v.entryText.toList ++ rest = respaced gap w.entryText.toList ++ rest') :
    v.shownEntry = w.shownEntry ∧ rest = rest' := by
  match v with
  | .declaration d =>
      cases w with
      | declaration e =>
          obtain ⟨hshown, hrest⟩ := Declaration.text_append_inj d e hv hw h
          exact ⟨congrArg Value.declaration hshown, hrest⟩
      | _ => cases hw

/-- What stands in front of the closing of a block tells its entries. -/
theorem laidEntries_append_inj (entries others : List Value) (h : textualEntries entries = true)
    (h' : textualEntries others = true) {outer inner rest rest' : List Char}
    (heq : laidEntries outer inner entries ++ (outer ++ ']' :: rest) =
      laidEntries outer inner others ++ (outer ++ ']' :: rest')) :
    shownEntries entries = shownEntries others ∧ rest = rest' := by
  match entries with
  | [] =>
      cases others with
      | nil => exact ⟨rfl, (List.cons.inj (List.append_cancel_left heq)).2⟩
      | cons other others =>
          rw [laidEntries_cons, List.append_assoc] at heq
          cases (List.cons.inj (List.append_cancel_left heq)).1
  | entry :: more =>
      cases others with
      | nil =>
          rw [laidEntries_cons, List.append_assoc] at heq
          cases (List.cons.inj (List.append_cancel_left heq)).1
      | cons other others =>
          simp only [textualEntries, Bool.and_eq_true] at h h'
          simp only [laidEntries_cons, List.append_assoc, List.cons_append] at heq
          have hbody := List.append_cancel_left (List.append_cancel_left heq)
          obtain ⟨hentry, hmore⟩ :=
            Value.entryText_append_inj entry other h.1 h'.1 hbody
          obtain ⟨hentries, hrest⟩ :=
            laidEntries_append_inj more others h.2 h'.2 (List.cons.inj hmore).2
          rw [shownEntries, shownEntries, hentry, hentries]
          exact ⟨rfl, hrest⟩

end

end StateRules
