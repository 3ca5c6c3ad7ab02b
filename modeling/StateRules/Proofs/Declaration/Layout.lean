import StateRules.Declaration.Rendering
import StateRules.Proofs.Text.Quoted
import StateRules.Proofs.Text.Spacing

/-!
How the text of a declaration is laid out, character by character.

The declarations are those that are made of texts, or of nothing where something may be left out
(`Declaration.isTextual`). Their labels are quoted, so no line ends in them, and the lines of a text
are those that the layout has (`intercalate_cut`). An event block cuts the texts of its entries into
lines only to put them together again with more room in front. What comes of it is the same text
with something else in place of its line feeds (`respaced`), behind the entries that were there
before (`toList_stacked_eventBlockLines`). So the texts of blocks of both kinds are an opening, the
entries, each between an indentation and a comma, and a closing (`toList_text_sourceBlock`,
`toList_text_eventBlock`).
-/

namespace StateRules

open Text

theorem stacked_append {first second : List String} (hfirst : first ≠ []) (hsecond : second ≠ []) :
    stacked (first ++ second) = stacked first ++ "\n" ++ stacked second :=
  String.intercalate_append_of_ne_nil hfirst hsecond

/-- A line below others. -/
def onNextLine (line : String) : List Char := '\n' :: line.toList

theorem toList_stacked_cons (line : String) (rest : List String) :
    (stacked (line :: rest)).toList = line.toList ++ rest.flatMap onNextLine := by
  induction rest generalizing line with
  | nil => simp [stacked]
  | cons other rest ih =>
      have hrest := ih other
      rw [stacked] at hrest ⊢
      rw [String.intercalate_cons_cons, String.toList_append, String.toList_append, hrest]
      simp [onNextLine]

theorem closeLines_ne_nil {lines : List String} (h : lines ≠ []) : closeLines lines ≠ [] := by
  match lines with
  | [] => exact absurd rfl h
  | [_] => exact List.cons_ne_nil _ _
  | _ :: _ :: _ => exact List.cons_ne_nil _ _

theorem stacked_closeLines {lines : List String} (h : lines ≠ []) :
    stacked (closeLines lines) = stacked lines ++ "," := by
  match lines with
  | [] => exact absurd rfl h
  | [line] => rfl
  | line :: other :: rest =>
      have hrest := stacked_closeLines (List.cons_ne_nil other rest)
      have hne := closeLines_ne_nil (List.cons_ne_nil other rest)
      unfold stacked at hrest ⊢
      rw [closeLines, String.intercalate_cons_of_ne_nil hne, hrest, String.intercalate_cons_cons]
      · simp only [String.append_assoc]
      · exact List.cons_ne_nil _ _

/-- Whether a part of a declaration is a text, or one of the markers: for any state, or for what was
left out. -/
def Value.isTextual : Value → Bool
  | .text _ | .any | .null | .unset => true
  | _ => false

mutual

/-- Whether a declaration that may be an entry is made of texts, and so are its own entries. -/
def Declaration.isTextualEntry (d : Declaration) : Bool :=
  match d with
  | .simple source destination event =>
      source.isTextual && destination.isTextual && event.isTextual
  | .sourceBlock source destination event entries =>
      source.isTextual && destination.isTextual && event.isTextual && textualEntries entries
  | .toEntry destination event => destination.isTextual && event.isTextual
  | .eventBlock _ _ _ => false
termination_by structural d

def Value.isTextualEntry (v : Value) : Bool :=
  match v with
  | .declaration d => d.isTextualEntry
  | _ => false
termination_by structural v

def textualEntries (entries : List Value) : Bool :=
  match entries with
  | [] => true
  | entry :: rest => entry.isTextualEntry && textualEntries rest
termination_by structural entries

end

/-- Whether a declaration is made of texts. The guard of an event block may be anything. -/
def Declaration.isTextual (d : Declaration) : Bool :=
  match d with
  | .eventBlock event entries _ => event.isTextual && textualEntries entries
  | d => d.isTextualEntry

theorem Value.isLineEnd_label {v : Value} (h : v.isTextual = true) :
    ∀ c ∈ v.label.toList, isLineEnd c = false := by
  cases v with
  | text s => exact isLineEnd_of_mem_quoted s
  | any => exact isLineEnd_of_isOpen rfl
  | null => exact isLineEnd_of_isOpen rfl
  | unset => exact isLineEnd_of_isOpen rfl
  | _ => cases h

/-- How a destination is mentioned in a simple declaration, if it is. -/
def destinationTail (destination : Value) : List Char :=
  if destination.isUnset then [] else ", to=".toList ++ destination.label.toList

/-- How an event is mentioned, if it is. -/
def eventTail (event : Value) : List Char :=
  if event.isNull then [] else ", event=".toList ++ event.label.toList

theorem isLineEnd_destinationTail {destination : Value} (h : destination.isTextual = true) :
    ∀ c ∈ destinationTail destination, isLineEnd c = false := by
  unfold destinationTail
  split
  · simp
  · exact List.forall_mem_append.mpr ⟨isLineEnd_of_isOpen rfl, Value.isLineEnd_label h⟩

theorem isLineEnd_eventTail {event : Value} (h : event.isTextual = true) :
    ∀ c ∈ eventTail event, isLineEnd c = false := by
  unfold eventTail
  split
  · simp
  · exact List.forall_mem_append.mpr ⟨isLineEnd_of_isOpen rfl, Value.isLineEnd_label h⟩

theorem toList_simpleLine (source destination event : Value) :
    (Declaration.text (.simple source destination event)).toList =
      "from_(".toList ++ (source.label.toList ++
        (destinationTail destination ++ (eventTail event ++ [')']))) := by
  unfold destinationTail eventTail
  cases hdestination : destination.isUnset <;> cases hevent : event.isNull <;>
    simp [Declaration.text, simpleLine, mention, hdestination, hevent]

theorem toList_toEntryLine (destination event : Value) :
    (Declaration.text (.toEntry destination event)).toList =
      "to(".toList ++ (destination.label.toList ++ (eventTail event ++ [')'])) := by
  unfold eventTail
  cases hevent : event.isNull <;>
    simp [Declaration.text, toEntryLine, mention, hevent]

/-- The entries of a block, each behind a gap and an indentation and before a comma. Within an entry
another gap stands in place of the line feeds. -/
def laidEntries (outer inner : List Char) (entries : List Value) : List Char :=
  entries.flatMap fun entry =>
    outer ++ (indentStep ++ (respaced inner entry.entryText.toList ++ [',']))

theorem laidEntries_cons (outer inner : List Char) (entry : Value) (rest : List Value) :
    laidEntries outer inner (entry :: rest) =
      outer ++ (indentStep ++ (respaced inner entry.entryText.toList ++
        (',' :: laidEntries outer inner rest))) := by
  simp [laidEntries]

theorem flatMap_onNextLine_sourceBlockLines (entries : List Value) :
    (sourceBlockLines entries).flatMap onNextLine = laidEntries ['\n'] ['\n'] entries := by
  induction entries with
  | nil => rfl
  | cons entry rest ih =>
      rw [sourceBlockLines, List.flatMap_cons, ih, laidEntries_cons, respaced_self]
      simp [onNextLine, indentLine, indentStep]

theorem toList_stacked_sourceBlockLines (opening : String) (entries : List Value)
    (closing : String) :
    (stacked ([opening] ++ sourceBlockLines entries ++ [closing])).toList =
      opening.toList ++ (laidEntries ['\n'] ['\n'] entries ++ ('\n' :: closing.toList)) := by
  rw [List.append_assoc, List.singleton_append, toList_stacked_cons, List.flatMap_append,
    flatMap_onNextLine_sourceBlockLines, List.flatMap_singleton]
  rfl

theorem toList_text_sourceBlock (source destination event : Value) (entries : List Value) :
    (Declaration.text (.sourceBlock source destination event entries)).toList =
      "from_(".toList ++ (source.label.toList ++ (", [".toList ++
        (laidEntries ['\n'] ['\n'] entries ++ "\n])".toList))) := by
  rw [Declaration.text, toList_stacked_sourceBlockLines]
  simp [sourceLine]

theorem respaced_laidEntries (gap : List Char) (entries : List Value) :
    respaced gap (laidEntries ['\n'] ['\n'] entries) = laidEntries gap gap entries := by
  have hindent : ∀ c ∈ indentStep, isLineEnd c = false := isLineEnd_of_isOpen rfl
  induction entries with
  | nil => rfl
  | cons entry rest ih =>
      rw [laidEntries_cons, laidEntries_cons, respaced_self, List.singleton_append, respaced_feed,
        respaced_append, respaced_of_open hindent, respaced_append, ← ih]
      rfl

/-- With other gaps, the text of a source block has them before each entry and before its closing,
and its entries have them as well. -/
theorem respaced_text_sourceBlock {source : Value} (h : source.isTextual = true) (gap : List Char)
    (destination event : Value) (entries : List Value) :
    respaced gap (Declaration.text (.sourceBlock source destination event entries)).toList =
      "from_(".toList ++ (source.label.toList ++ (", [".toList ++
        (laidEntries gap gap entries ++ (gap ++ "])".toList)))) := by
  have hopening : ∀ c ∈ "from_(".toList, isLineEnd c = false := isLineEnd_of_isOpen rfl
  have hbracket : ∀ c ∈ ", [".toList, isLineEnd c = false := isLineEnd_of_isOpen rfl
  rw [toList_text_sourceBlock, respaced_append, respaced_of_open hopening, respaced_append,
    respaced_of_open (Value.isLineEnd_label h), respaced_append, respaced_of_open hbracket,
    respaced_append, respaced_laidEntries]
  rfl

theorem isLineEnd_text_simple {source destination event : Value} (hsource : source.isTextual = true)
    (hdestination : destination.isTextual = true) (hevent : event.isTextual = true) :
    ∀ c ∈ (Declaration.text (.simple source destination event)).toList,
      isLineEnd c = false := by
  rw [toList_simpleLine]
  exact List.forall_mem_append.mpr ⟨isLineEnd_of_isOpen rfl, List.forall_mem_append.mpr
    ⟨Value.isLineEnd_label hsource, List.forall_mem_append.mpr
      ⟨isLineEnd_destinationTail hdestination, List.forall_mem_append.mpr
        ⟨isLineEnd_eventTail hevent, isLineEnd_of_isOpen rfl⟩⟩⟩⟩

theorem isLineEnd_text_toEntry {destination event : Value}
    (hdestination : destination.isTextual = true) (hevent : event.isTextual = true) :
    ∀ c ∈ (Declaration.text (.toEntry destination event)).toList, isLineEnd c = false := by
  rw [toList_toEntryLine]
  exact List.forall_mem_append.mpr ⟨isLineEnd_of_isOpen rfl, List.forall_mem_append.mpr
    ⟨Value.isLineEnd_label hdestination, List.forall_mem_append.mpr
      ⟨isLineEnd_eventTail hevent, isLineEnd_of_isOpen rfl⟩⟩⟩

mutual

theorem Declaration.feedsOnly_text (d : Declaration) (h : d.isTextualEntry = true) :
    FeedsOnly d.text.toList := by
  match d with
  | .simple source destination event =>
      simp only [Declaration.isTextualEntry, Bool.and_eq_true] at h
      exact feedsOnly_of_open (isLineEnd_text_simple h.1.1 h.1.2 h.2)
  | .sourceBlock source destination event entries =>
      simp only [Declaration.isTextualEntry, Bool.and_eq_true] at h
      have hentries := feedsOnly_laidEntries entries h.2
      have hclosing : FeedsOnly "\n])".toList :=
        (feedsOnly_of_open (@isLineEnd_of_isOpen [']', ')'] rfl)).feed
      rw [toList_text_sourceBlock]
      exact (feedsOnly_of_open (isLineEnd_of_isOpen rfl)).append
        ((feedsOnly_of_open (Value.isLineEnd_label h.1.1.1)).append
          ((feedsOnly_of_open (isLineEnd_of_isOpen rfl)).append (hentries.append hclosing)))
  | .toEntry destination event =>
      simp only [Declaration.isTextualEntry, Bool.and_eq_true] at h
      exact feedsOnly_of_open (isLineEnd_text_toEntry h.1 h.2)

theorem Value.feedsOnly_entryText (v : Value) (h : v.isTextualEntry = true) :
    FeedsOnly v.entryText.toList := by
  match v with
  | .declaration d => exact Declaration.feedsOnly_text d h

theorem feedsOnly_laidEntries (entries : List Value) (h : textualEntries entries = true) :
    FeedsOnly (laidEntries ['\n'] ['\n'] entries) := by
  match entries with
  | [] => exact feedsOnly_of_open (by simp [laidEntries])
  | entry :: rest =>
      simp only [textualEntries, Bool.and_eq_true] at h
      have hentry := Value.feedsOnly_entryText entry h.1
      have hrest := feedsOnly_laidEntries rest h.2
      have hindent : FeedsOnly indentStep := feedsOnly_of_open (isLineEnd_of_isOpen rfl)
      have hcomma : FeedsOnly [','] := feedsOnly_of_open (isLineEnd_of_isOpen rfl)
      rw [laidEntries_cons, respaced_self]
      exact (hindent.append (hentry.append (hcomma.append hrest))).feed

end

/-- The text of a textual entry ends with a bracket. -/
theorem Declaration.exists_text_eq_append {d : Declaration} (h : d.isTextualEntry = true) :
    ∃ before, d.text.toList = before ++ [')'] := by
  cases d with
  | simple source destination event =>
      rw [toList_simpleLine]
      exact ⟨"from_(".toList ++ (source.label.toList ++
        (destinationTail destination ++ eventTail event)), by simp⟩
  | sourceBlock source destination event entries =>
      rw [toList_text_sourceBlock]
      exact ⟨"from_(".toList ++ (source.label.toList ++ (", [".toList ++
        (laidEntries ['\n'] ['\n'] entries ++ "\n]".toList))), by simp⟩
  | toEntry destination event =>
      rw [toList_toEntryLine]
      exact ⟨"to(".toList ++ (destination.label.toList ++ eventTail event), by simp⟩
  | eventBlock event entries guard => cases h

theorem Declaration.isLaidOut_text {d : Declaration} (h : d.isTextualEntry = true) :
    IsLaidOut d.text.toList := by
  obtain ⟨before, htext⟩ := Declaration.exists_text_eq_append h
  exact ⟨d.feedsOnly_text h, before, ')', htext, by decide⟩

/-- The lines of a laid out text, each behind an indentation, are the text with as much room in
front of each of its lines. -/
theorem toList_stacked_indented {text : String} (h : IsLaidOut text.toList) :
    (stacked ((Text.lines text).map indentLine)).toList =
      indentStep ++ respaced ('\n' :: indentStep) text.toList := by
  have hne : (cut text.toList).map Line.body ≠ [] := by
    obtain ⟨before, last, htext, _⟩ := h.closed
    intro hnil
    exact cut_ne_nil (by simp [htext]) (List.map_eq_nil_iff.mp hnil)
  have hlines : ((Text.lines text).map indentLine).map String.toList =
      ((cut text.toList).map Line.body).map (indentStep ++ ·) := by
    simp [Text.lines, indentLine, indentStep]
  rw [stacked, String.toList_intercalate, hlines, intercalate_map_append _ _ hne]
  exact congrArg (indentStep ++ ·) (intercalate_cut h)

/-- The lines of an event block, put together, are those that were there and its entries. -/
theorem toList_stacked_eventBlockLines {lines : List String} (hlines : lines ≠ [])
    {entries : List Value} (h : textualEntries entries = true) :
    eventBlockLines lines entries ≠ [] ∧
      (stacked (eventBlockLines lines entries)).toList =
        (stacked lines).toList ++ laidEntries ['\n'] ('\n' :: indentStep) entries := by
  induction entries generalizing lines with
  | nil =>
      rw [eventBlockLines]
      exact ⟨hlines, by simp [laidEntries]⟩
  | cons entry rest ih =>
      simp only [textualEntries, Bool.and_eq_true] at h
      cases entry with
      | declaration d =>
          have hlaid := Declaration.isLaidOut_text h.1
          have hne : (Text.lines d.text).map indentLine ≠ [] := by
            obtain ⟨before, last, htext, _⟩ := hlaid.closed
            simp [Text.lines, cut_ne_nil, htext]
          have hboth : lines ++ (Text.lines d.text).map indentLine ≠ [] :=
            List.append_ne_nil_of_left_ne_nil hlines _
          obtain ⟨hnonempty, hrest⟩ := ih (closeLines_ne_nil hboth) h.2
          refine ⟨hnonempty, ?_⟩
          show (stacked (eventBlockLines
            (closeLines (lines ++ (Text.lines d.text).map indentLine)) rest)).toList = _
          rw [hrest, stacked_closeLines hboth, stacked_append hlines hne, laidEntries_cons]
          simp [toList_stacked_indented hlaid, Value.entryText]
      | _ => cases h.1

theorem toList_text_eventBlock {event : Value} {entries : List Value}
    (h : textualEntries entries = true) (closing : String) :
    (stacked (eventBlockLines [eventLine event.label] entries ++ [closing])).toList =
      "event(".toList ++ (event.label.toList ++ (", [".toList ++
        (laidEntries ['\n'] ('\n' :: indentStep) entries ++ ('\n' :: closing.toList)))) := by
  obtain ⟨hne, hlines⟩ :=
    toList_stacked_eventBlockLines (List.cons_ne_nil (eventLine event.label) []) h
  rw [stacked_append hne (List.cons_ne_nil closing []), String.toList_append, String.toList_append,
    hlines]
  simp [stacked, eventLine]

end StateRules
