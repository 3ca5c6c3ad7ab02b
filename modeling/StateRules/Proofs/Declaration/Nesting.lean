import StateRules.Guard
import StateRules.Proofs.Declaration.Pieces

/-!
Blocks within blocks.

The lines of a block that is laid out as it should be are those of its opening line, of its entries
and of its closing line (`lines_blockLayout`). So where an entry is such a block itself, the lines
of its own entries are among those of the outer block, one step further to the right for each block
around them (`Declaration.Nests.lines`). Without the room in front of them and the comma behind
them, these are the lines of the entry again (`pared_entryLayout`).

`blocks_are_laid_out_iff_suited` says when a block is laid out as it should be, and what can be cut
out of it then. Neither kind of block always is (`blocks_are_not_laid_out_of_unsuited`).
-/

namespace StateRules

open Text

variable {m : Interpretation}

/-- Some lines without the comma behind the last. -/
def openLines : List String → List String
  | [] => []
  | [line] => [String.ofList line.toList.dropLast]
  | line :: rest => line :: openLines rest

/-- The lines of an entry without the room in front of them and the comma behind them. -/
def pared (depth : Nat) (lines : List String) : List String :=
  (openLines lines).map fun line => String.ofList (line.toList.drop (4 * depth))

section Cutting

theorem setIn_succ (depth : Nat) (line : String) :
    setIn (depth + 1) line = indentLine (setIn depth line) := by
  have hroom : List.replicate (4 * (depth + 1)) ' ' =
      indentStep ++ List.replicate (4 * depth) ' ' := by
    rw [Nat.mul_succ, Nat.add_comm, ← List.replicate_append_replicate]
    rfl
  apply String.toList_injective
  simp [setIn, indentLine, hroom, indentStep]

theorem closeLines_map_indentLine (lines : List String) :
    closeLines (lines.map indentLine) = (closeLines lines).map indentLine := by
  match lines with
  | [] => rfl
  | [line] => simp [closeLines, indentLine, String.append_assoc]
  | line :: other :: rest =>
      have ih := closeLines_map_indentLine (other :: rest)
      simpa [closeLines] using ih

/-- One step further to the right. -/
theorem map_indentLine_entryLayout (depth : Nat) (text : String) :
    (entryLayout depth text).map indentLine = entryLayout (depth + 1) text := by
  have hstep : setIn (depth + 1) = indentLine ∘ setIn depth := funext (setIn_succ depth)
  rw [entryLayout, entryLayout, ← closeLines_map_indentLine, List.map_map, hstep]

theorem openLines_closeLines (lines : List String) : openLines (closeLines lines) = lines := by
  match lines with
  | [] => rfl
  | [line] => simp [closeLines, openLines]
  | line :: other :: rest =>
      have ih := openLines_closeLines (other :: rest)
      obtain ⟨next, more, hmore⟩ :=
        List.exists_cons_of_ne_nil (closeLines_ne_nil (List.cons_ne_nil other rest))
      rw [hmore] at ih
      rw [closeLines, hmore, openLines, ih]
      all_goals simp

/-- The lines of an entry can be got back from where they stand. -/
theorem pared_entryLayout (depth : Nat) (text : String) :
    pared depth (entryLayout depth text) = ownLines text := by
  rw [pared, entryLayout, openLines_closeLines, List.map_map]
  conv_rhs => rw [← List.map_id (ownLines text)]
  apply List.map_congr_left
  intro line _
  simp [setIn]

theorem lines_stacked {texts : List String} (h : ∀ text ∈ texts, IsClosed text.toList) :
    Text.lines (stacked texts) = texts.flatMap Text.lines := by
  induction texts with
  | nil => rfl
  | cons text rest ih =>
      obtain ⟨htext, hrest⟩ := List.forall_mem_cons.mp h
      cases rest with
      | nil => simp [stacked]
      | cons other rest =>
          have hbelow : stacked (text :: other :: rest) =
              text ++ "\n" ++ stacked (other :: rest) := String.intercalate_cons_cons
          rw [hbelow, lines_append_feed htext, ih hrest]
          exact List.flatMap_cons.symm

theorem exists_of_mem_closeLines {lines : List String} {line : String}
    (h : line ∈ closeLines lines) : ∃ before ∈ lines, line = before ∨ line = before ++ "," := by
  match lines with
  | [last] => exact ⟨last, List.mem_singleton_self _, .inr (List.mem_singleton.mp h)⟩
  | first :: other :: rest =>
      rcases List.mem_cons.mp h with rfl | hrest
      · exact ⟨_, List.mem_cons_self, .inl rfl⟩
      · obtain ⟨before, hmem, heq⟩ := exists_of_mem_closeLines hrest
        exact ⟨before, List.mem_cons_of_mem _ hmem, heq⟩

theorem isOpen_of_mem_ownLines {text line : String} (h : line ∈ ownLines text) :
    isOpen line.toList = true := by
  unfold ownLines at h
  split at h
  · rw [List.mem_singleton.mp h]
    rfl
  · exact isOpen_of_mem_lines h

/-- A line of an entry is one line of the block, and not an empty one. -/
theorem isOpen_of_mem_entryLayout {text line : String} (h : line ∈ entryLayout 1 text) :
    isOpen line.toList = true ∧ line ≠ "" := by
  obtain ⟨before, hmem, heq⟩ := exists_of_mem_closeLines h
  obtain ⟨own, hown, rfl⟩ := List.mem_map.mp hmem
  have hopen : isOpen (indentLine own).toList = true := by
    simpa [indentLine, isOpen, isLineEnd] using isOpen_of_mem_ownLines hown
  change line = indentLine own ∨ line = indentLine own ++ "," at heq
  rcases heq with rfl | rfl
  · exact ⟨hopen, by simp [indentLine]⟩
  · exact ⟨by simpa [isOpen, isLineEnd] using hopen, by simp⟩

/-- The lines of a block that is laid out are those of its opening line, of its entries and of its
closing line. -/
theorem lines_blockLayout {opening closing : String} (hopening : IsClosed opening.toList)
    (texts : List String) (hclosing : IsClosed closing.toList) :
    Text.lines (blockLayout opening texts closing) =
      Text.lines opening ++ (texts.flatMap (entryLayout 1) ++ Text.lines closing) := by
  have hlines : ∀ line ∈ texts.flatMap (entryLayout 1),
      IsClosed line.toList ∧ Text.lines line = [line] := by
    intro line hline
    obtain ⟨text, _, hline⟩ := List.mem_flatMap.mp hline
    obtain ⟨hopen, hne⟩ := isOpen_of_mem_entryLayout hline
    exact ⟨isClosed_of_isOpen hopen (by simpa using hne), lines_of_isOpen hopen hne⟩
  have hsame : (texts.flatMap (entryLayout 1)).flatMap Text.lines =
      texts.flatMap (entryLayout 1) := by
    rw [List.flatMap_congr fun line hline => (hlines line hline).2, List.flatMap_singleton']
  rw [blockLayout, lines_stacked, List.flatMap_append, List.flatMap_append, hsame,
    List.flatMap_singleton, List.flatMap_singleton, List.append_assoc]
  intro line hline
  rcases List.mem_append.mp hline with hline | hline
  · rcases List.mem_append.mp hline with hline | hline
    · rwa [List.mem_singleton.mp hline]
    · exact (hlines line hline).1
  · rwa [List.mem_singleton.mp hline]

end Cutting

namespace Declaration

variable {d : Declaration} {opening closing text : String} {texts : List String}

theorem Comprises.isClosed (h : d.Comprises m opening texts closing) :
    IsClosed opening.toList ∧ IsClosed closing.toList := by
  have hbracket (label before : String) : IsClosed (before ++ label ++ ", [").toList :=
    ⟨(before ++ label ++ ", ").toList, '[', by simp, rfl⟩
  cases h with
  | source _ _ => exact ⟨hbracket _ _, "]".toList, ')', rfl, rfl⟩
  | @event _ _ _ _ _ mention _ _ _ =>
      refine ⟨hbracket _ _, ?_⟩
      cases mention with
      | none => exact ⟨"]".toList, ')', rfl, rfl⟩
      | some guard => exact ⟨("], guard=" ++ guard).toList, ')', by simp [closingLine], rfl⟩

/-- The entries of a block. -/
def entries : Declaration → List Value
  | .sourceBlock _ _ _ entries | .eventBlock _ entries _ => entries
  | _ => []

/-- Whether a text is that of an entry some steps below a block: of one of its own entries, or of an
entry below one of them that is a block itself. All these blocks have entries that suit them. -/
inductive Nests (m : Interpretation) (text : String) : Nat → Declaration → Prop where
  | entry {d : Declaration} {opening closing : String} {texts : List String} :
      d.Comprises m opening texts closing → (∀ text ∈ texts, d.Suits text) → text ∈ texts →
        Nests m text 1 d
  | within {d inner : Declaration} {opening closing : String} {texts : List String}
      {depth : Nat} :
      d.Comprises m opening texts closing → (∀ text ∈ texts, d.Suits text) →
        .declaration inner ∈ d.entries → Nests m text depth inner → Nests m text (depth + 1) d

/-- The lines of an entry stand in the block, between others. -/
theorem Comprises.lines_of_mem (h : d.Comprises m opening texts closing)
    (hsuits : ∀ text ∈ texts, d.Suits text) (hmem : text ∈ texts) {rendering : String}
    (hrendering : (d.render m).result = .ok rendering) :
    ∃ before after, after ≠ [] ∧
      Text.lines rendering = before ++ (entryLayout 1 text ++ after) := by
  obtain ⟨hopening, hclosing⟩ := h.isClosed
  obtain ⟨earlier, later, rfl⟩ := List.append_of_mem hmem
  have hne : Text.lines closing ≠ [] := lines_ne_nil (by simpa using hclosing.ne_nil)
  rw [(h.eq_blockLayout_iff hrendering).mpr hsuits, lines_blockLayout hopening _ hclosing,
    List.flatMap_append, List.flatMap_cons]
  refine ⟨Text.lines opening ++ earlier.flatMap (entryLayout 1),
    later.flatMap (entryLayout 1) ++ Text.lines closing,
    List.append_ne_nil_of_right_ne_nil _ hne, ?_⟩
  simp

theorem exists_rendersAs_of_mem {entries : List Value} {texts : List String}
    (h : List.Forall₂ (Value.RendersAs m) entries texts) {entry : Value} (hmem : entry ∈ entries) :
    ∃ text ∈ texts, entry.RendersAs m text := by
  induction h with
  | nil => cases hmem
  | cons hentry _ ih =>
      rcases List.mem_cons.mp hmem with rfl | hrest
      · exact ⟨_, List.mem_cons_self, hentry⟩
      · obtain ⟨text, htext, hrenders⟩ := ih hrest
        exact ⟨text, List.mem_cons_of_mem _ htext, hrenders⟩

theorem Comprises.forall₂_entries (h : d.Comprises m opening texts closing) :
    List.Forall₂ (Value.RendersAs m) d.entries texts := by
  cases h <;> assumption

/-- Where the lines of an inner block stand, those of its entries stand further to the right. -/
theorem entryLayout_of_lines {shown text : String} {before after : List String} {depth : Nat}
    (hne : after ≠ [])
    (hlines : Text.lines shown = before ++ (entryLayout depth text ++ after)) :
    entryLayout 1 shown = before.map indentLine ++
      (entryLayout (depth + 1) text ++ closeLines (after.map indentLine)) := by
  have hshown : shown ≠ "" := by
    rintro rfl
    have hnone : before ++ (entryLayout depth text ++ after) = [] := hlines.symm
    exact hne (List.append_eq_nil_iff.mp (List.append_eq_nil_iff.mp hnone).2).2
  have howns : ownLines shown = Text.lines shown := if_neg hshown
  have hindent : setIn 1 = indentLine := rfl
  have hafter : after.map indentLine ≠ [] := by simpa using hne
  rw [entryLayout, howns, hlines, hindent, List.map_append, List.map_append,
    map_indentLine_entryLayout,
    closeLines_append _ (List.append_ne_nil_of_right_ne_nil _ hafter), closeLines_append _ hafter]

/-- The lines of an entry some steps below a block are among the lines of the block. -/
theorem Nests.lines {depth : Nat} (h : Nests m text depth d) {rendering : String}
    (hrendering : (d.render m).result = .ok rendering) :
    ∃ before after, after ≠ [] ∧
      Text.lines rendering = before ++ (entryLayout depth text ++ after) := by
  induction h generalizing rendering with
  | entry hparts hsuits hmem => exact hparts.lines_of_mem hsuits hmem hrendering
  | @within d inner opening closing texts depth hparts hsuits hinner _ ih =>
      obtain ⟨shown, hshown, hrenders⟩ := exists_rendersAs_of_mem hparts.forall₂_entries hinner
      obtain ⟨_, hrender, heq⟩ := Act.result_map_eq_ok_iff.mp hrenders
      obtain rfl := Value.text.inj heq
      obtain ⟨before, after, hne, hlines⟩ := ih hrender
      obtain ⟨outer, rest, hrest, houter⟩ := hparts.lines_of_mem hsuits hshown hrendering
      refine ⟨outer ++ before.map indentLine, closeLines (after.map indentLine) ++ rest,
        List.append_ne_nil_of_right_ne_nil _ hrest, ?_⟩
      rw [houter, entryLayout_of_lines hne hlines]
      simp only [List.append_assoc]

end Declaration

/-- A text without line ends but line feeds, and none at its end, can be put together again from its
lines. -/
theorem stacked_ownLines {text : String} (h : IsLaidOut text.toList) :
    stacked (ownLines text) = text := by
  have hne : text ≠ "" := by
    rintro rfl
    obtain ⟨before, last, htext, _⟩ := h.closed
    simp at htext
  have hcut : ['\n'].intercalate ((cut text.toList).map Line.body) = text.toList :=
    (intercalate_cut h).trans (respaced_self _)
  apply String.toList_injective
  rw [ownLines, if_neg hne, stacked, String.toList_intercalate, ← hcut]
  simp [Text.lines, Function.comp_def]

/-- A block whose entries are rendered as texts is rendered, and it is laid out as it should be
exactly if all these texts suit it: in a source block, if none of them has a line end, and in an
event block, if none of them is empty. The lines of an entry some steps below blocks like that are
among those of the outermost, and the entry can be got back from them. -/
theorem blocks_are_laid_out_iff_suited {m : Interpretation} {d : Declaration}
    {opening closing : String} {texts : List String} (h : d.Comprises m opening texts closing) :
    ∃ rendering, (d.render m).result = .ok rendering ∧
      (rendering = blockLayout opening texts closing ↔ ∀ text ∈ texts, d.Suits text) ∧
      ∀ depth text, Declaration.Nests m text depth d →
        entryLayout depth text <:+: Text.lines rendering ∧
          pared depth (entryLayout depth text) = ownLines text ∧
          (IsLaidOut text.toList → stacked (ownLines text) = text) := by
  obtain ⟨rendering, hrendering, _⟩ := h.render
  refine ⟨rendering, hrendering, h.eq_blockLayout_iff hrendering, fun depth text hnests => ?_⟩
  obtain ⟨before, after, _, hlines⟩ := hnests.lines hrendering
  refine ⟨⟨before, after, ?_⟩, pared_entryLayout depth text, stacked_ownLines⟩
  rw [hlines, List.append_assoc]

/-- A source block with one way out. -/
def approvedStage : Declaration :=
  .sourceBlock (.text "approved") .unset .null [.declaration (.toEntry (.text "interview") .null)]

/-- An event block around it. -/
def startedStage : Declaration := .eventBlock (.text "start") [.declaration approvedStage] .null

/-- Its text. -/
def startedText : String :=
  "event('start', [\n    from_('approved', [\n        to('interview'),\n    ]),\n])"

/-- The way out stands two steps to the right in the text of the event block. -/
theorem blocks_are_laid_out_startedStage :
    (startedStage.render .exhausted).result = .ok startedText ∧
      ["        to('interview'),"] <:+: Text.lines startedText := by
  have hinner : approvedStage.Comprises .exhausted (sourceLine "'approved'") ["to('interview')"]
      "])" := .source rfl (.cons rfl .nil)
  have houter : startedStage.Comprises .exhausted (eventLine "'start'")
      ["from_('approved', [\n    to('interview'),\n])"] (closingLine none) :=
    .event rfl (.cons rfl .nil) rfl
  have hinnerSuits : ∀ text ∈ ["to('interview')"], approvedStage.Suits text :=
    List.forall_mem_singleton.mpr rfl
  have houterSuits : ∀ text ∈ ["from_('approved', [\n    to('interview'),\n])"],
      startedStage.Suits text :=
    List.forall_mem_singleton.mpr fun hempty => absurd hempty (by decide)
  have hnests : Declaration.Nests .exhausted "to('interview')" 2 startedStage :=
    .within houter houterSuits (List.mem_singleton_self _)
      (.entry hinner hinnerSuits (List.mem_singleton_self _))
  obtain ⟨rendering, hrendering, hlayout, hcut⟩ := blocks_are_laid_out_iff_suited houter
  have htext : rendering = startedText := hlayout.mpr houterSuits
  rw [htext] at hrendering hcut
  exact ⟨hrendering, (hcut 2 _ hnests).1⟩

/-- Neither kind of block lays out every entry as it should. In a source block, only the first line
of a block is pushed to the right. In an event block, the comma of an entry without text comes to
the entry before it. -/
theorem blocks_are_not_laid_out_of_unsuited :
    (¬∀ (m : Interpretation) (source destination event : Value) (entries : List Value)
        (opening closing : String) (texts : List String) (rendering : String),
      (Declaration.sourceBlock source destination event entries).Comprises m opening texts closing →
        ((Declaration.sourceBlock source destination event entries).render m).result =
            .ok rendering →
          rendering = blockLayout opening texts closing) ∧
    ¬∀ (m : Interpretation) (event guard : Value) (entries : List Value)
        (opening closing : String) (texts : List String) (rendering : String),
      (Declaration.eventBlock event entries guard).Comprises m opening texts closing →
        ((Declaration.eventBlock event entries guard).render m).result = .ok rendering →
          rendering = blockLayout opening texts closing := by
  constructor
  · intro hall
    have hlayout := hall .exhausted (.text "new") .unset .null [.declaration approvedStage]
      (sourceLine "'new'") "])" ["from_('approved', [\n    to('interview'),\n])"] _
      (.source rfl (.cons rfl .nil)) rfl
    exact absurd hlayout (by decide)
  · intro hall
    have hlayout := hall .exhausted (.text "pay") .null
      [.declaration (.simple (.text "new") (.text "paid") .null), .renderable ⟨0, 0⟩ (.text "")]
      (eventLine "'pay'") (closingLine none) ["from_('new', to='paid')", ""] _
      (.event rfl (.cons rfl (.cons rfl .nil)) rfl) rfl
    exact absurd hlayout (by decide)

end StateRules
