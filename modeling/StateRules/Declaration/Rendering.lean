import StateRules.Value.Copying
import StateRules.Value.Settled

/-!
The text of a declaration, laid out the way it is written down: a simple
declaration on one line, a block as an opening line, its entries one step to the
right with a comma each, and a closing line.

`Declaration.text` is that text as far as it depends on what the declaration is made of.
An entry may be a value that cannot be written, or bring a rendition that is no text or
cannot be had, and its class may have a say in all of this: `Declaration.render` is the
text with all that taken into account, or the first fault there is. For declarations
made of atoms the two are the same (`Declaration.render_of_isRegular`).

The two kinds of block lay out their entries each in its own way. A source block
puts an entry's text behind one indentation and a comma behind the text, line
breaks in it or not. An event block indents every line of an entry and puts the
comma behind the last line there is, which for an entry without lines is a line
that was there before.
-/

namespace StateRules

/-- A comma behind the last of some lines. -/
def closeLines : List String → List String
  | [] => []
  | [line] => [line ++ ","]
  | line :: rest => line :: closeLines rest

/-- A line one step to the right. -/
def indentLine (line : String) : String := "    " ++ line

/-- The lines of a rendition: those of a text, or those of bytes, each as it is
written. A rendition of any other kind has none by nature. -/
def Value.renditionLines? (rendition : Value) : Option (List String) :=
  match rendition.text? with
  | some s => some (Text.lines s)
  | none =>
      match rendition with
      | .bytes data => some ((Text.byteLines data).map Text.quotedBytes)
      | _ => none

/-- A label that is mentioned, unless there is none. -/
def mention (present : Bool) (label : String) : Option String :=
  if present then some label else none

/-- A simple declaration from its labels; what was left out is not mentioned. -/
def simpleLine (source : String) (destination event : Option String) : String :=
  "from_(" ++
    ", ".intercalate
      ([source] ++ (destination.map ("to=" ++ ·)).toList ++ (event.map ("event=" ++ ·)).toList) ++
    ")"

/-- An entry of a source block from its labels. -/
def toEntryLine (destination : String) (event : Option String) : String :=
  match event with
  | none => "to(" ++ destination ++ ")"
  | some event => "to(" ++ destination ++ ", event=" ++ event ++ ")"

/-- The opening line of a source block. -/
def sourceLine (source : String) : String := "from_(" ++ source ++ ", ["

/-- The opening line of an event block. -/
def eventLine (event : String) : String := "event(" ++ event ++ ", ["

/-- The closing line of an event block, which names the guard if there is one. -/
def closingLine : Option String → String
  | none => "])"
  | some guard => "], guard=" ++ guard ++ ")"

/-- Lines one below the other. -/
def stacked (lines : List String) : String := "\n".intercalate lines

mutual

/-- The text of a declaration. A source block shows neither a destination nor an
event of its own. -/
def Declaration.text (d : Declaration) : String :=
  match d with
  | .simple source destination event =>
      simpleLine source.label (mention (!destination.isUnset) destination.label)
        (mention (!event.isNull) event.label)
  | .sourceBlock source _ _ entries =>
      stacked ([sourceLine source.label] ++ sourceBlockLines entries ++ ["])"])
  | .toEntry destination event =>
      toEntryLine destination.label (mention (!event.isNull) event.label)
  | .eventBlock event entries guard =>
      stacked (eventBlockLines [eventLine event.label] entries ++
        [closingLine (mention (!guard.isNull) guard.label)])
termination_by structural d

/-- The text of an entry of a block: a declaration's text, a value's own
rendition, or the value as it is written. -/
def Value.entryText (v : Value) : String :=
  match v with
  | .declaration d => d.text
  | .renderable _ rendition => rendition.display
  | v => v.written
termination_by structural v

/-- The lines of an entry of an event block. -/
def Value.entryLines (v : Value) : List String :=
  match v with
  | .declaration d => Text.lines d.text
  | .renderable _ rendition => rendition.renditionLines?.getD []
  | v => Text.lines v.written
termination_by structural v

/-- The entries of a source block, laid out. -/
def sourceBlockLines (entries : List Value) : List String :=
  match entries with
  | [] => []
  | entry :: rest => (indentLine entry.entryText ++ ",") :: sourceBlockLines rest
termination_by structural entries

/-- The entries of an event block, laid out behind the lines already there. -/
def eventBlockLines (lines : List String) (entries : List Value) : List String :=
  match entries with
  | [] => lines
  | entry :: rest =>
      eventBlockLines (closeLines (lines ++ entry.entryLines.map indentLine)) rest
termination_by structural entries

end

namespace Value

/-- The rendition that a value brings, or else what it gives for its written form. -/
def rendition (m : Interpretation) (v : Value) : Act Value := do
  match v with
  | .renderable _ rendition => pure rendition
  | v =>
      match ← v.read? m "render" with
      | none | some .null => v.shownAs m "__repr__"
      | some renderer => m.call renderer .empty

/-- The lines that a rendition is laid out in. One without lines by nature is asked for
them. -/
def linesOf (m : Interpretation) (rendition : Value) : Act (List String) :=
  match rendition.renditionLines? with
  | some lines => pure lines
  | none => do
      let cutter ← rendition.read m "splitlines"
      let cut ← m.call cutter .empty
      let pieces ← cut.items m
      pieces.mapM (writeDisplay m)

/-- The label of something that need not be mentioned. -/
def writeMention (m : Interpretation) (v : Value) (present : Bool) : Act (Option String) :=
  if present then some <$> v.writeLabel m else pure none

end Value

/-- The text of a simple declaration. What its source goes by has to be a text in itself. -/
def renderSimple (m : Interpretation) (source destination event : Value) : Act String := do
  let source ← source.naming m
  let destination ← destination.writeMention m (!destination.isUnset)
  let event ← event.writeMention m (!event.isNull)
  let source ← Act.ofOption (.notJoined 0 source.formalName) source.text?
  pure (simpleLine source destination event)

mutual

/-- `FromDeclaration.render`, `ToDeclaration.render` and `EventDeclaration.render`: the text of a
declaration, if it can be rendered. -/
def Declaration.render (m : Interpretation) (d : Declaration) : Act String :=
  match d with
  | .simple source destination event => renderSimple m source destination event
  | .sourceBlock source _ _ entries => do
      let source ← source.writeLabel m
      let lines ← renderSourceEntries m entries
      pure (stacked ([sourceLine source] ++ lines ++ ["])"]))
  | .toEntry destination event => do
      let destination ← destination.writeLabel m
      let event ← event.writeMention m (!event.isNull)
      pure (toEntryLine destination event)
  | .eventBlock event entries guard => do
      let event ← event.writeLabel m
      let lines ← renderEventEntries m [eventLine event] entries
      let guard ← guard.writeMention m (!guard.isNull)
      pure (stacked (lines ++ [closingLine guard]))
termination_by structural d

/-- `_render`: what an entry of a block is rendered as. -/
def Value.renderEntry (m : Interpretation) (v : Value) : Act Value :=
  match v with
  | .declaration d => .text <$> d.render m
  | v => v.rendition m
termination_by structural v

/-- The entries of a source block, laid out, if they can be rendered. -/
def renderSourceEntries (m : Interpretation) (entries : List Value) : Act (List String) :=
  match entries with
  | [] => pure []
  | entry :: rest => do
      let rendition ← entry.renderEntry m
      let text ← rendition.writeDisplay m
      let others ← renderSourceEntries m rest
      pure ((indentLine text ++ ",") :: others)
termination_by structural entries

/-- The entries of an event block, laid out behind the lines already there, if they can be
rendered. -/
def renderEventEntries (m : Interpretation) (lines : List String) (entries : List Value) :
    Act (List String) :=
  match entries with
  | [] => pure lines
  | entry :: rest => do
      let rendition ← entry.renderEntry m
      let more ← rendition.linesOf m
      renderEventEntries m (closeLines (lines ++ more.map indentLine)) rest
termination_by structural entries

end

mutual

/-- Whether a declaration is made of atoms, and its entries of declarations like it. -/
def Declaration.isRegular (d : Declaration) : Bool :=
  match d with
  | .simple source destination event => source.isAtom && destination.isAtom && event.isAtom
  | .sourceBlock source destination event entries =>
      source.isAtom && destination.isAtom && event.isAtom && regularEntries entries
  | .toEntry destination event => destination.isAtom && event.isAtom
  | .eventBlock event entries guard => event.isAtom && regularEntries entries && guard.isAtom
termination_by structural d

/-- Whether an entry of a block is a regular declaration. -/
def Value.isRegularEntry (v : Value) : Bool :=
  match v with
  | .declaration d => d.isRegular
  | _ => false
termination_by structural v

/-- Whether the entries of a block are regular declarations. -/
def regularEntries (entries : List Value) : Bool :=
  match entries with
  | [] => true
  | entry :: rest => entry.isRegularEntry && regularEntries rest
termination_by structural entries

end

/-- An atom that need not be mentioned is mentioned by its label. -/
theorem Value.writeMention_of_isAtom (m : Interpretation) {v : Value} (h : v.isAtom = true)
    (present : Bool) : v.writeMention m present = pure (mention present v.label) := by
  cases present <;> simp [writeMention, mention, writeLabel_of_isAtom m h]

theorem renderSimple_of_isAtom (m : Interpretation) {source destination event : Value}
    (hsource : source.isAtom = true) (hdestination : destination.isAtom = true)
    (hevent : event.isAtom = true) :
    renderSimple m source destination event =
      pure (Declaration.text (.simple source destination event)) := by
  rw [renderSimple, Value.naming_of_isAtom m hsource, Value.writeMention_of_isAtom m hdestination,
    Value.writeMention_of_isAtom m hevent]
  rfl

mutual

/-- A regular declaration is rendered as its text. -/
theorem Declaration.render_of_isRegular (m : Interpretation) (d : Declaration)
    (h : d.isRegular = true) : d.render m = pure d.text := by
  match d with
  | .simple source destination event =>
      simp only [Declaration.isRegular, Bool.and_eq_true] at h
      exact renderSimple_of_isAtom m h.1.1 h.1.2 h.2
  | .sourceBlock source destination event entries =>
      simp only [Declaration.isRegular, Bool.and_eq_true] at h
      simp [Declaration.render, Declaration.text, Value.writeLabel_of_isAtom m h.1.1.1,
        renderSourceEntries_of_regular m entries h.2]
  | .toEntry destination event =>
      simp only [Declaration.isRegular, Bool.and_eq_true] at h
      simp [Declaration.render, Declaration.text, Value.writeLabel_of_isAtom m h.1,
        Value.writeMention_of_isAtom m h.2]
  | .eventBlock event entries guard =>
      simp only [Declaration.isRegular, Bool.and_eq_true] at h
      simp [Declaration.render, Declaration.text, Value.writeLabel_of_isAtom m h.1.1,
        renderEventEntries_of_regular m _ entries h.1.2, Value.writeMention_of_isAtom m h.2]

theorem Value.renderEntry_of_isRegularEntry (m : Interpretation) (v : Value)
    (h : v.isRegularEntry = true) :
    v.renderEntry m = pure (.text v.entryText) ∧ v.entryLines = Text.lines v.entryText := by
  match v with
  | .declaration d =>
      simp only [Value.isRegularEntry] at h
      simp [Value.renderEntry, Value.entryText, Value.entryLines,
        Declaration.render_of_isRegular m d h]

theorem renderSourceEntries_of_regular (m : Interpretation) (entries : List Value)
    (h : regularEntries entries = true) :
    renderSourceEntries m entries = pure (sourceBlockLines entries) := by
  match entries with
  | [] => rfl
  | entry :: rest =>
      simp only [regularEntries, Bool.and_eq_true] at h
      have hdisplay : (Value.text entry.entryText).writeDisplay m = pure entry.entryText :=
        Value.writeDisplay_of_isAtom m rfl
      simp [renderSourceEntries, sourceBlockLines, hdisplay,
        (Value.renderEntry_of_isRegularEntry m entry h.1).1,
        renderSourceEntries_of_regular m rest h.2]

theorem renderEventEntries_of_regular (m : Interpretation) (lines : List String)
    (entries : List Value) (h : regularEntries entries = true) :
    renderEventEntries m lines entries = pure (eventBlockLines lines entries) := by
  match entries with
  | [] => rfl
  | entry :: rest =>
      simp only [regularEntries, Bool.and_eq_true] at h
      obtain ⟨hentry, hlines⟩ := Value.renderEntry_of_isRegularEntry m entry h.1
      have hcut : (Value.text entry.entryText).linesOf m = pure entry.entryLines := by
        rw [hlines]
        rfl
      simp [renderEventEntries, eventBlockLines, hentry, hcut,
        renderEventEntries_of_regular m _ rest h.2]

end

end StateRules
