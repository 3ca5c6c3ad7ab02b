import Mathlib.Data.List.Chain
import StateRules.Text.Lines

/-!
What is left of a text when it is cut into lines and pushed to the right.

Lines that a text was cut into are known by how they end: each but the last by a line end, which is
not the first half of a longer one, and none within (`IsCut`). Such lines put together are cut into
the same lines again (`cut_flatMap_whole`). Pushing lines to the right leaves all this as it is, so
the lines of an indented text are the lines of the text, each pushed to the right on its own
(`cut_indent`). Blank lines stay where they are, all others begin with blanks that can be taken away
again, and the one are never taken for the other. So indenting loses nothing (`indent_injective`).

In an indented text only blanks follow a line end (`isInset_indent`): whatever begins a line with
something else, like the captions of a message, is not part of it.
-/

namespace StateRules.Text

/-- Whether no line ends within a text. -/
def isOpen (text : List Char) : Bool := text.all fun c => !isLineEnd c

theorem isLineEnd_of_isOpen {text : List Char} (h : isOpen text = true) :
    ∀ c ∈ text, isLineEnd c = false := by
  intro c hc
  simpa using List.all_eq_true.mp h c hc

/-- Whether some characters end a line, when others follow. -/
def EndsLine (ending rest : List Char) : Prop :=
  ending = ['\r', '\n'] ∨
    ∃ c, ending = [c] ∧ isLineEnd c = true ∧ (c = '\r' → rest.head? ≠ some '\n')

/-- Whether lines are those of a text that was cut. -/
inductive IsCut : List Line → Prop where
  | none : IsCut []
  | last {body : List Char} :
      (∀ c ∈ body, isLineEnd c = false) → body ≠ [] → IsCut [⟨body, []⟩]
  | line {body ending : List Char} {rest : List Line} :
      (∀ c ∈ body, isLineEnd c = false) → EndsLine ending (rest.flatMap Line.whole) →
        IsCut rest → IsCut (⟨body, ending⟩ :: rest)

/-- A character that ends no line comes to the first line of what follows it. -/
theorem cut_cons {c : Char} (h : isLineEnd c = false) (rest : List Char) :
    cut (c :: rest) = lead c (cut rest) := by
  unfold cut
  rw [cutAt.eq_def]
  split
  · next heq => cases heq
  · next heq =>
      obtain ⟨rfl, _⟩ := List.cons.inj heq
      cases h
  · next heq =>
      obtain ⟨rfl, rfl⟩ := List.cons.inj heq
      rw [h]
      rfl

theorem cut_ending {ending rest : List Char} (h : EndsLine ending rest) :
    cut (ending ++ rest) = ⟨[], ending⟩ :: cut rest := by
  rcases h with rfl | ⟨c, rfl, hend, hwhole⟩
  · rfl
  · show cut (c :: rest) = _
    unfold cut
    rw [cutAt.eq_def]
    split
    · next heq => cases heq
    · next heq =>
        obtain ⟨rfl, rfl⟩ := List.cons.inj heq
        exact absurd rfl (hwhole rfl)
    · next heq =>
        obtain ⟨rfl, rfl⟩ := List.cons.inj heq
        rw [hend]
        rfl

theorem cut_line {body ending rest : List Char} (hbody : ∀ c ∈ body, isLineEnd c = false)
    (hending : EndsLine ending rest) :
    cut (body ++ (ending ++ rest)) = ⟨body, ending⟩ :: cut rest := by
  induction body with
  | nil => exact cut_ending hending
  | cons c body ih =>
      obtain ⟨hc, hbody⟩ := List.forall_mem_cons.mp hbody
      rw [List.cons_append, cut_cons hc, ih hbody]
      rfl

theorem cut_body {body : List Char} (hbody : ∀ c ∈ body, isLineEnd c = false) (hne : body ≠ []) :
    cut body = [⟨body, []⟩] := by
  induction body with
  | nil => exact absurd rfl hne
  | cons c body ih =>
      obtain ⟨hc, hbody⟩ := List.forall_mem_cons.mp hbody
      rw [cut_cons hc]
      cases body with
      | nil => rfl
      | cons other rest =>
          rw [ih hbody (List.cons_ne_nil _ _)]
          rfl

/-- Lines of a text, put together, are cut into these lines again. -/
theorem cut_flatMap_whole {lines : List Line} (h : IsCut lines) :
    cut (lines.flatMap Line.whole) = lines := by
  induction h with
  | none => rfl
  | last hbody hne => simpa [Line.whole] using cut_body hbody hne
  | line hbody hending _ ih =>
      rw [List.flatMap_cons, Line.whole, List.append_assoc, cut_line hbody hending, ih]

theorem IsCut.lead {c : Char} (hc : isLineEnd c = false) {lines : List Line} (h : IsCut lines) :
    IsCut (lead c lines) := by
  cases h with
  | none => exact .last (List.forall_mem_singleton.mpr hc) (List.cons_ne_nil _ _)
  | last hbody _ => exact .last (List.forall_mem_cons.mpr ⟨hc, hbody⟩) (List.cons_ne_nil _ _)
  | line hbody hending hrest =>
      exact .line (List.forall_mem_cons.mpr ⟨hc, hbody⟩) hending hrest

theorem flatMap_whole_cut (text : List Char) : (cut text).flatMap Line.whole = text :=
  join_cutAt isLineEnd text

theorem isCut_cut (text : List Char) : IsCut (cut text) := by
  unfold cut
  fun_induction cutAt isLineEnd text with
  | case1 => exact .none
  | case2 rest _ ih => exact .line (by simp) (.inl rfl) ih
  | case3 rest hnot _ => exact absurd rfl hnot
  | case4 c rest hwhole hend ih =>
      -- A return with a line feed behind it would have been cut as one line end.
      refine .line (by simp) (.inr ⟨c, rfl, hend, ?_⟩) ih
      rintro rfl hhead
      rw [join_cutAt] at hhead
      obtain ⟨others, rfl⟩ := List.head?_eq_some_iff.mp hhead
      exact hwhole others rfl rfl
  | case5 c rest _ hnot ih => exact ih.lead (eq_false_of_ne_true hnot)

/-- What a line shows when it is pushed one step to the right. A blank line is not. -/
def pushBody (body : List Char) : List Char :=
  if body.all isBlank then body else indentStep ++ body

/-- A line pushed one step to the right. -/
def Line.pushed (line : Line) : Line := {line with body := pushBody line.body}

theorem whole_pushed (line : Line) : line.pushed.whole = line.indent := by
  unfold Line.pushed Line.indent pushBody Line.whole
  split
  · rfl
  · rw [List.append_assoc]

theorem isLineEnd_of_mem_pushBody {body : List Char} (h : ∀ c ∈ body, isLineEnd c = false) :
    ∀ c ∈ pushBody body, isLineEnd c = false := by
  unfold pushBody
  split
  · exact h
  · exact List.forall_mem_append.mpr ⟨isLineEnd_of_isOpen rfl, h⟩

/-- A blank line that stayed where it is begins with no four blanks that were put there. -/
theorem pushBody_injective : Function.Injective pushBody := by
  intro body other h
  unfold pushBody at h
  have hstep : indentStep.all isBlank = true := by decide
  split at h <;> split at h
  · exact h
  · next hbody hother =>
      rw [h, List.all_append, hstep, Bool.true_and] at hbody
      exact absurd hbody hother
  · next hbody hother =>
      rw [← h, List.all_append, hstep, Bool.true_and] at hother
      exact absurd hother hbody
  · exact List.append_cancel_left h

theorem pushed_injective : Function.Injective Line.pushed := by
  intro line other h
  obtain ⟨hbody, hending⟩ := Line.mk.inj h
  obtain ⟨body, ending⟩ := line
  exact congrArg₂ Line.mk (pushBody_injective hbody) hending

theorem EndsLine.ne_nil {ending rest : List Char} (h : EndsLine ending rest) : ending ≠ [] := by
  rcases h with rfl | ⟨c, rfl, _⟩ <;> exact List.cons_ne_nil _ _

theorem EndsLine.isLineEnd {ending rest : List Char} (h : EndsLine ending rest) :
    ∀ c ∈ ending, isLineEnd c = true := by
  rcases h with rfl | ⟨c, rfl, hend, _⟩
  · exact List.forall_mem_cons.mpr ⟨rfl, List.forall_mem_singleton.mpr rfl⟩
  · exact List.forall_mem_singleton.mpr hend

theorem IsCut.whole_ne_nil {line : Line} {rest : List Line} (h : IsCut (line :: rest)) :
    line.whole ≠ [] := by
  cases h with
  | last _ hne => simpa [Line.whole] using hne
  | line _ hending _ => exact List.append_ne_nil_of_right_ne_nil _ hending.ne_nil

/-- Pushing lines to the right brings no line feed to their front. -/
theorem head?_of_head?_pushed {lines : List Line} (h : IsCut lines)
    (hhead : ((lines.map Line.pushed).flatMap Line.whole).head? = some '\n') :
    (lines.flatMap Line.whole).head? = some '\n' := by
  cases lines with
  | nil => cases hhead
  | cons line rest =>
      obtain ⟨c, whole, hwhole⟩ := List.exists_cons_of_ne_nil h.whole_ne_nil
      rw [List.map_cons, List.flatMap_cons, whole_pushed, Line.indent] at hhead
      rw [List.flatMap_cons, hwhole]
      split at hhead
      · rwa [hwhole] at hhead
      · cases hhead

theorem IsCut.map_pushed {lines : List Line} (h : IsCut lines) :
    IsCut (lines.map Line.pushed) := by
  induction h with
  | none => exact .none
  | @last body hbody hne =>
      refine .last (isLineEnd_of_mem_pushBody hbody) ?_
      unfold pushBody
      split
      · exact hne
      · exact List.append_ne_nil_of_right_ne_nil _ hne
  | line hbody hending hrest ih =>
      refine .line (isLineEnd_of_mem_pushBody hbody) ?_ ih
      rcases hending with rfl | ⟨c, rfl, hend, hwhole⟩
      · exact .inl rfl
      · exact .inr ⟨c, rfl, hend, fun hc hhead => hwhole hc (head?_of_head?_pushed hrest hhead)⟩

theorem toList_indent (text : String) :
    (indent text).toList = (cut text.toList).flatMap Line.indent := by
  simp [indent]

/-- The lines of an indented text are those of the text, each pushed to the right. -/
theorem cut_indent (text : String) :
    cut (indent text).toList = (cut text.toList).map Line.pushed := by
  have hwhole : (cut text.toList).flatMap Line.indent =
      ((cut text.toList).map Line.pushed).flatMap Line.whole := by
    simp [List.flatMap_map, whole_pushed]
  rw [toList_indent, hwhole, cut_flatMap_whole (isCut_cut text.toList).map_pushed]

/-- Indenting loses nothing. -/
theorem indent_injective : Function.Injective indent := by
  intro text other h
  have hlines : cut text.toList = cut other.toList := by
    apply List.map_injective_iff.mpr pushed_injective
    rw [← cut_indent, ← cut_indent, h]
  have hchars := congrArg (List.flatMap Line.whole) hlines
  rw [flatMap_whole_cut, flatMap_whole_cut] at hchars
  exact String.toList_injective hchars

/-- Whether a character may follow another one in an indented text: behind a line end there are
only blanks. -/
def FollowsUp (c next : Char) : Prop := isLineEnd c = true → isBlank next = true

theorem isBlank_of_isLineEnd {c : Char} (h : isLineEnd c = true) : isBlank c = true := by
  simp [isBlank, h]

theorem isBlank_head_indent {line : Line} (hending : ∀ c ∈ line.ending, isLineEnd c = true) :
    ∀ c ∈ line.indent.head?, isBlank c = true := by
  intro c hc
  unfold Line.indent at hc
  split at hc
  · next hblank =>
      have hmem : c ∈ line.body ++ line.ending := List.mem_of_mem_head? hc
      rcases List.mem_append.mp hmem with h | h
      · exact List.all_eq_true.mp hblank c h
      · exact isBlank_of_isLineEnd (hending c h)
  · obtain rfl := Option.some.inj hc
    rfl

/-- Whether there are only blanks behind the line ends of a text, and at its beginning. -/
structure IsInset (text : List Char) : Prop where
  head : ∀ c ∈ text.head?, isBlank c = true
  chain : text.IsChain FollowsUp

theorem IsInset.line {body ending rest : List Char} (hbody : ∀ c ∈ body, isLineEnd c = false)
    (hending : ∀ c ∈ ending, isLineEnd c = true) (hrest : IsInset rest) :
    IsInset (Line.indent ⟨body, ending⟩ ++ rest) := by
  constructor
  · intro c hc
    rw [List.head?_append] at hc
    rcases Option.or_eq_some_iff.mp hc with h | ⟨_, h⟩
    · exact isBlank_head_indent hending c h
    · exact hrest.head c h
  · have hpushed := isLineEnd_of_mem_pushBody hbody
    have hfirst : (pushBody body).Pairwise FollowsUp :=
      List.pairwise_of_forall_mem_list fun c hc _ _ hend => by cases (hpushed c hc).symm.trans hend
    have hsecond : ending.Pairwise FollowsUp :=
      List.pairwise_of_forall_mem_list fun _ _ next hnext _ =>
        isBlank_of_isLineEnd (hending next hnext)
    -- What stands last in a body ends no line, so nothing is asked of the line end behind it.
    have hline : (pushBody body ++ ending).IsChain FollowsUp := by
      refine List.isChain_append.mpr ⟨hfirst.isChain, hsecond.isChain, fun c hc _ _ hend => ?_⟩
      cases (hpushed c (List.mem_of_getLast? hc)).symm.trans hend
    rw [← whole_pushed]
    exact List.isChain_append.mpr
      ⟨hline, hrest.chain, fun _ _ next hnext _ => hrest.head next hnext⟩

/-- In an indented text, what is no blank is not at the beginning and follows no line end. -/
theorem isInset_indent (text : String) : IsInset (indent text).toList := by
  rw [toList_indent]
  have hcut := isCut_cut text.toList
  generalize cut text.toList = lines at hcut
  induction hcut with
  | none => exact ⟨by simp, .nil⟩
  | last hbody _ => exact .line hbody (by simp) ⟨by simp, .nil⟩
  | line hbody hending _ ih => exact .line hbody hending.isLineEnd ih

/-- A caption is set off by an empty line and begins with something that is no blank, so it is not
found within an inset text. -/
theorem eq_nil_of_caption {text more one other : List Char} {c : Char} {caption : List Char}
    (h : IsInset (text ++ more)) (hc : isBlank c = false)
    (heq : '\n' :: '\n' :: c :: caption ++ one = more ++ ('\n' :: '\n' :: c :: caption ++ other)) :
    more = [] := by
  -- With one or two characters more, a line feed would be where the caption begins. With three,
  -- the third one is what the caption begins with, and follows a line feed.
  match more, heq with
  | [], _ => rfl
  | [first], heq =>
      simp only [List.cons_append, List.nil_append, List.cons.injEq] at heq
      obtain ⟨_, _, rfl, _⟩ := heq
      cases hc
  | [first, second], heq =>
      simp only [List.cons_append, List.nil_append, List.cons.injEq] at heq
      obtain ⟨_, _, rfl, _⟩ := heq
      cases hc
  | first :: second :: third :: rest, heq =>
      simp only [List.cons_append, List.cons.injEq] at heq
      obtain ⟨rfl, rfl, rfl, _⟩ := heq
      have hchain := (h.chain.right_of_append).tail
      cases hc.symm.trans ((List.isChain_cons_cons.mp hchain).1 rfl)

/-- The first caption in a message is the one that was put there, and what is on either side of it
can be told. -/
theorem eq_of_caption {text text' one other : List Char} {c : Char} {caption : List Char}
    (h : IsInset text) (h' : IsInset text') (hc : isBlank c = false)
    (heq : text ++ ('\n' :: '\n' :: c :: caption ++ one) =
      text' ++ ('\n' :: '\n' :: c :: caption ++ other)) :
    text = text' ∧ one = other := by
  rcases List.append_eq_append_iff.mp heq with ⟨more, rfl, hmore⟩ | ⟨more, rfl, hmore⟩
  · obtain rfl := eq_nil_of_caption h' hc hmore
    simpa using hmore
  · obtain rfl := eq_nil_of_caption h hc hmore
    simpa using hmore.symm

end StateRules.Text
