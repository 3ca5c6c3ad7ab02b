import Mathlib.Data.List.Forall2
import StateRules.Proofs.Declaration.Layout
import StateRules.Proofs.Journal
import StateRules.Proofs.Text.Joining

/-!
What an entry adds to the text of a block.

A block is laid out as it should be when between its opening line and its closing line stand the
lines of its entries, each one step to the right, with a comma behind the last line of each entry,
and an entry without text has a line of its own (`blockLayout`). Source blocks and event blocks come
to this each in its own way. A source block pushes only the first line of an entry to the right. An
event block has no line for an entry without text, whose comma comes to the line before.

So what an entry adds is compared with what it should add. It is the same if the text of the entry
suits the block (`Declaration.Suits`). If it does not, the difference comes early enough that
nothing behind it makes up for it (`Declaration.piece_append_ne`). A block is laid out as it should
be exactly if all its entries suit it (`Declaration.Comprises.eq_blockLayout_iff`).
-/

namespace StateRules

open Text

/-- The lines of a text, or an empty one if it has none. -/
def ownLines (text : String) : List String :=
  if text = "" then [""] else Text.lines text

/-- A line some steps to the right. -/
def setIn (depth : Nat) (line : String) : String :=
  String.ofList (List.replicate (4 * depth) ' ') ++ line

/-- The lines of an entry, some steps to the right, with a comma behind the last. -/
def entryLayout (depth : Nat) (text : String) : List String :=
  closeLines ((ownLines text).map (setIn depth))

/-- A block that is laid out as it should be, from its opening line, the texts of its entries and
its closing line. -/
def blockLayout (opening : String) (texts : List String) (closing : String) : String :=
  stacked ([opening] ++ texts.flatMap (entryLayout 1) ++ [closing])

theorem closeLines_append (first : List String) {second : List String} (h : second ≠ []) :
    closeLines (first ++ second) = first ++ closeLines second := by
  induction first with
  | nil => rfl
  | cons line rest ih =>
      have hne : rest ++ second ≠ [] := List.append_ne_nil_of_right_ne_nil _ h
      rw [List.cons_append, closeLines, ih, List.cons_append]
      exact hne

/-- What an entry should add to the text of a block. -/
def layoutPiece (text : String) : List Char := (entryLayout 1 text).flatMap onNextLine

/-- What an entry adds to the text of a source block. -/
def sourcePiece (text : String) : List Char := onNextLine (indentLine text ++ ",")

/-- What an entry adds to the text of an event block. -/
def eventPiece (text : String) : List Char := if text = "" then [','] else layoutPiece text

section Pieces

theorem toList_blockLayout (opening : String) (texts : List String) (closing : String) :
    (blockLayout opening texts closing).toList =
      opening.toList ++ (texts.flatMap layoutPiece ++ onNextLine closing) := by
  rw [blockLayout, List.append_assoc, List.singleton_append, toList_stacked_cons,
    List.flatMap_append, List.flatMap_assoc, List.flatMap_singleton]
  rfl

theorem toList_stacked_source (opening : String) (texts : List String) (closing : String) :
    (stacked ([opening] ++ texts.map (fun text => indentLine text ++ ",") ++ [closing])).toList =
      opening.toList ++ (texts.flatMap sourcePiece ++ onNextLine closing) := by
  rw [List.append_assoc, List.singleton_append, toList_stacked_cons, List.flatMap_append,
    List.flatMap_map, List.flatMap_singleton]
  rfl

/-- The entries of an event block, laid out behind the lines already there. -/
def stackEntries (lines texts : List String) : List String :=
  texts.foldl (fun lines text => closeLines (lines ++ (Text.lines text).map indentLine)) lines

theorem toList_stacked_closeLines {lines : List String} (h : lines ≠ []) (text : String) :
    (stacked (closeLines (lines ++ (Text.lines text).map indentLine))).toList =
      (stacked lines).toList ++ eventPiece text := by
  by_cases hempty : text = ""
  · subst hempty
    have hnone : (Text.lines "").map indentLine = [] := rfl
    rw [hnone, List.append_nil, stacked_closeLines h, String.toList_append, eventPiece, if_pos rfl]
    rfl
  · obtain ⟨line, rest, rfl⟩ := List.exists_cons_of_ne_nil h
    have hlines : (Text.lines text).map indentLine ≠ [] := by simpa using lines_ne_nil hempty
    have howns : ownLines text = Text.lines text := if_neg hempty
    rw [eventPiece, if_neg hempty, layoutPiece, entryLayout, howns, closeLines_append _ hlines,
      List.cons_append, toList_stacked_cons, toList_stacked_cons, List.flatMap_append,
      List.append_assoc]
    rfl

theorem toList_stacked_event {lines : List String} (h : lines ≠ []) (texts : List String)
    (closing : String) :
    (stacked (stackEntries lines texts ++ [closing])).toList =
      (stacked lines).toList ++ (texts.flatMap eventPiece ++ onNextLine closing) := by
  induction texts generalizing lines with
  | nil =>
      obtain ⟨line, rest, rfl⟩ := List.exists_cons_of_ne_nil h
      simp [stackEntries, toList_stacked_cons]
  | cons text texts ih =>
      have hne : closeLines (lines ++ (Text.lines text).map indentLine) ≠ [] :=
        closeLines_ne_nil (List.append_ne_nil_of_left_ne_nil h _)
      have hrest := ih hne
      rw [toList_stacked_closeLines h] at hrest
      rw [List.flatMap_cons, List.append_assoc, ← List.append_assoc]
      exact hrest

theorem layoutPiece_of_isOpen {text : String} (h : isOpen text.toList = true) :
    layoutPiece text = sourcePiece text := by
  have hlines : ownLines text = [text] := by
    unfold ownLines
    split
    · next hempty => rw [hempty]
    · next hne => exact lines_of_isOpen h hne
  rw [layoutPiece, entryLayout, hlines]
  exact List.flatMap_singleton onNextLine _

theorem exists_flatMap_onNextLine_closeLines (line : String) (rest : List String) :
    ∃ more, (closeLines (line :: rest)).flatMap onNextLine = onNextLine line ++ more := by
  cases rest with
  | nil => exact ⟨[','], by simp [closeLines, onNextLine]⟩
  | cons other rest => exact ⟨(closeLines (other :: rest)).flatMap onNextLine, rfl⟩

/-- A line that is pushed to the right begins with more blanks than it did. -/
theorem append_ne_indentStep_append {body more : List Char} (h : more.head? ≠ some ' ')
    (rest : List Char) : body ++ more ≠ indentStep ++ (body ++ rest) := by
  induction body with
  | nil =>
      rintro rfl
      exact h rfl
  | cons c body ih =>
      intro heq
      obtain ⟨rfl, htail⟩ := List.cons.inj heq
      exact ih htail

/-- A line as it stands below others, one step to the right. -/
theorem onNextLine_setIn_one (body : List Char) :
    onNextLine (setIn 1 (String.ofList body)) = '\n' :: (indentStep ++ body) := by
  simp [onNextLine, setIn, indentStep]

/-- What comes after a line begins with a line end, or with the comma if it is the last one. -/
theorem Text.IsCut.head?_ending_append_ne {line : Line} {lines : List Line}
    (h : IsCut (line :: lines)) (rest : List Char) :
    (line.ending ++ (lines.flatMap Line.whole ++ ',' :: rest)).head? ≠ some ' ' := by
  cases h with
  | last _ _ => simp
  | line _ hending _ =>
      rcases hending with rfl | ⟨c, rfl, hend, _⟩
      · simp
      · intro heq
        obtain rfl : c = ' ' := by simpa using heq
        cases hend

/-- Where a line ends within a text, going on with the next line as it is differs from what should
come next. -/
theorem Text.IsCut.indentStep_append_ne {lines : List Line} (h : IsCut lines)
    (hends : isOpen (lines.flatMap Line.whole) = false) (rest rest' : List Char) :
    '\n' :: (indentStep ++ (lines.flatMap Line.whole ++ ',' :: rest)) ≠
      (closeLines (lines.map fun line => setIn 1 (String.ofList line.body))).flatMap onNextLine ++
        rest' := by
  intro heq
  cases h with
  | none => cases hends
  | @last body hbody _ =>
      rw [List.flatMap_singleton, Line.whole, List.append_nil] at hends
      cases hends.symm.trans (isOpen_iff.mpr hbody)
  | @line body ending lines hbody hending hlines =>
      cases lines with
      | nil =>
          have hafter : ending ++ ',' :: rest = ',' :: rest' := by
            simpa [closeLines, onNextLine, setIn, indentStep, Line.whole] using heq
          rcases hending with rfl | ⟨c, rfl, hend, _⟩
          · cases (List.cons.inj hafter).1
          · obtain rfl := (List.cons.inj hafter).1
            cases hend
      | cons next more =>
          obtain ⟨added, hadded⟩ := exists_flatMap_onNextLine_closeLines
            (setIn 1 (String.ofList next.body))
            (more.map fun line => setIn 1 (String.ofList line.body))
          have hlayout : (closeLines ((⟨body, ending⟩ :: next :: more).map fun line =>
              setIn 1 (String.ofList line.body))).flatMap onNextLine =
                onNextLine (setIn 1 (String.ofList body)) ++
                  (onNextLine (setIn 1 (String.ofList next.body)) ++ added) := by
            rw [← hadded]
            rfl
          have hafter : ending ++ (next.body ++ (next.ending ++
              (more.flatMap Line.whole ++ ',' :: rest))) =
                '\n' :: (indentStep ++ (next.body ++ (added ++ rest'))) := by
            rw [hlayout, onNextLine_setIn_one, onNextLine_setIn_one] at heq
            simpa only [List.flatMap_cons, Line.whole, List.cons_append, List.append_assoc,
              List.cons.injEq, true_and, List.append_cancel_left_eq] using heq
          rcases hending with rfl | ⟨c, rfl, _, _⟩
          · cases (List.cons.inj hafter).1
          · have hnext := hlines.head?_ending_append_ne rest
            exact append_ne_indentStep_append hnext _ (List.cons.inj hafter).2

/-- Where a line of an entry ends, a source block goes on with the next line as it is. -/
theorem sourcePiece_append_ne {text : String} (h : isOpen text.toList = false)
    (rest rest' : List Char) : sourcePiece text ++ rest ≠ layoutPiece text ++ rest' := by
  have hne : text ≠ "" := by
    rintro rfl
    cases h
  have hlines : (ownLines text).map (setIn 1) =
      (cut text.toList).map fun line => setIn 1 (String.ofList line.body) := by
    rw [ownLines, if_neg hne, Text.lines, List.map_map]
    rfl
  have hpiece : sourcePiece text ++ rest =
      '\n' :: (indentStep ++ ((cut text.toList).flatMap Line.whole ++ ',' :: rest)) := by
    simp [sourcePiece, onNextLine, indentLine, indentStep, flatMap_whole_cut]
  rw [← flatMap_whole_cut text.toList] at h
  rw [hpiece, layoutPiece, entryLayout, hlines]
  exact (isCut_cut text.toList).indentStep_append_ne h rest rest'

end Pieces

variable {m : Interpretation}

/-- Whether an entry of a block is rendered as a text. -/
def Value.RendersAs (m : Interpretation) (entry : Value) (text : String) : Prop :=
  (entry.renderEntry m).result = .ok (.text text)

namespace Declaration

/-- What a block is rendered from: an opening line, a text for each of its entries, and a closing
line. -/
inductive Comprises (m : Interpretation) : Declaration → String → List String → String → Prop where
  | source {source destination event : Value} {entries : List Value} {label : String}
      {texts : List String} :
      (source.writeLabel m).result = .ok label → List.Forall₂ (Value.RendersAs m) entries texts →
        Comprises m (.sourceBlock source destination event entries) (sourceLine label) texts "])"
  | event {event guard : Value} {entries : List Value} {label : String} {texts : List String}
      {mention : Option String} :
      (event.writeLabel m).result = .ok label → List.Forall₂ (Value.RendersAs m) entries texts →
        (guard.writeMention m (!guard.isNull)).result = .ok mention →
          Comprises m (.eventBlock event entries guard) (eventLine label) texts
            (closingLine mention)

/-- Whether a block lays out an entry with a text as it should. A source block does so with a text
that has no line ends, an event block with one that is not empty. -/
def Suits (d : Declaration) (text : String) : Prop :=
  match d with
  | .eventBlock .. => text ≠ ""
  | _ => isOpen text.toList = true

/-- What an entry adds to the text of a block. -/
def piece (d : Declaration) (text : String) : List Char :=
  match d with
  | .eventBlock .. => eventPiece text
  | _ => sourcePiece text

variable {d : Declaration} {opening closing text : String} {texts : List String}

theorem piece_of_suits (h : d.Suits text) : d.piece text = layoutPiece text := by
  cases d with
  | eventBlock event entries guard => exact if_neg h
  | _ => exact (layoutPiece_of_isOpen h).symm

/-- No text behind it makes up for an entry that does not suit a block. -/
theorem piece_append_ne (h : ¬d.Suits text) (rest rest' : List Char) :
    d.piece text ++ rest ≠ layoutPiece text ++ rest' := by
  cases d with
  | eventBlock event entries guard =>
      obtain rfl : text = "" := not_not.mp h
      intro heq
      cases (List.cons.inj heq).1
  | _ => exact sourcePiece_append_ne (eq_false_of_ne_true h) rest rest'

/-- Entry by entry, a block adds what it should if all texts suit it, and only then. -/
theorem flatMap_piece_eq_iff (d : Declaration) (texts : List String) (rest : List Char) :
    texts.flatMap d.piece ++ rest = texts.flatMap layoutPiece ++ rest ↔
      ∀ text ∈ texts, d.Suits text := by
  induction texts with
  | nil => simp
  | cons text texts ih =>
      rw [List.flatMap_cons, List.flatMap_cons, List.append_assoc, List.append_assoc,
        List.forall_mem_cons]
      by_cases hsuits : d.Suits text
      · rw [piece_of_suits hsuits, List.append_cancel_left_eq, ih]
        exact ⟨fun h => ⟨hsuits, h⟩, fun h => h.2⟩
      · exact iff_of_false (piece_append_ne hsuits _ _) fun h => hsuits h.1

end Declaration

theorem result_renderSourceEntries {entries : List Value} {texts : List String}
    (h : List.Forall₂ (Value.RendersAs m) entries texts) :
    (renderSourceEntries m entries).result =
      .ok (texts.map fun text => indentLine text ++ ",") := by
  induction h with
  | nil => rfl
  | @cons entry text entries texts hentry _ ih =>
      have hdisplay : ((Value.text text).writeDisplay m).result = .ok text := rfl
      rw [renderSourceEntries, Act.result_bind_of_ok hentry, Act.result_bind_of_ok hdisplay,
        Act.result_bind_of_ok ih]
      rfl

theorem result_renderEventEntries {entries : List Value} {texts : List String}
    (h : List.Forall₂ (Value.RendersAs m) entries texts) (lines : List String) :
    (renderEventEntries m lines entries).result = .ok (stackEntries lines texts) := by
  induction h generalizing lines with
  | nil => rfl
  | @cons entry text entries texts hentry _ ih =>
      have hcut : ((Value.text text).linesOf m).result = .ok (Text.lines text) := rfl
      rw [renderEventEntries, Act.result_bind_of_ok hentry, Act.result_bind_of_ok hcut]
      exact ih _

namespace Declaration

variable {d : Declaration} {opening closing text : String} {texts : List String}

/-- A block is rendered from what it comprises, piece by piece. -/
theorem Comprises.render (h : d.Comprises m opening texts closing) :
    ∃ rendering, (d.render m).result = .ok rendering ∧
      rendering.toList =
        opening.toList ++ (texts.flatMap d.piece ++ onNextLine closing) := by
  cases h with
  | source hlabel hentries =>
      refine ⟨_, ?_, toList_stacked_source _ texts _⟩
      rw [Declaration.render, Act.result_bind_of_ok hlabel,
        Act.result_bind_of_ok (result_renderSourceEntries hentries)]
      rfl
  | event hlabel hentries hmention =>
      refine ⟨_, ?_, toList_stacked_event (List.cons_ne_nil _ []) texts _⟩
      rw [Declaration.render, Act.result_bind_of_ok hlabel,
        Act.result_bind_of_ok (result_renderEventEntries hentries _),
        Act.result_bind_of_ok hmention]
      rfl

/-- A block is laid out as it should be exactly if the texts of its entries suit it. -/
theorem Comprises.eq_blockLayout_iff (h : d.Comprises m opening texts closing) {rendering : String}
    (hrendering : (d.render m).result = .ok rendering) :
    rendering = blockLayout opening texts closing ↔ ∀ text ∈ texts, d.Suits text := by
  obtain ⟨shown, hshown, hchars⟩ := h.render
  obtain rfl : shown = rendering := Except.ok.inj (hshown.symm.trans hrendering)
  rw [← d.flatMap_piece_eq_iff texts (onNextLine closing), ← String.toList_inj,
    toList_blockLayout, hchars, List.append_cancel_left_eq]

end Declaration

end StateRules
