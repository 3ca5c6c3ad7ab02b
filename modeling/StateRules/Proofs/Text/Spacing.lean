import StateRules.Proofs.Text.Lines

/-!
Texts with something else in place of their line feeds.

A text whose only line ends are line feeds, and which does not end with one, is what its lines are
with line feeds between them. Put together with something else between them, the lines are the text
with that in place of its line feeds (`intercalate_cut`). So room in front of each line is room
behind each line feed, and in front of the text (`intercalate_map_append`).
-/

namespace StateRules.Text

/-- A text with something else in place of its line feeds. -/
def respaced (gap text : List Char) : List Char :=
  text.flatMap fun c => if c = '\n' then gap else [c]

section Respaced

variable {gap text : List Char}

theorem respaced_append (gap first second : List Char) :
    respaced gap (first ++ second) = respaced gap first ++ respaced gap second :=
  List.flatMap_append

theorem respaced_feed (gap text : List Char) :
    respaced gap ('\n' :: text) = gap ++ respaced gap text :=
  rfl

theorem respaced_cons {c : Char} (h : c ≠ '\n') (gap text : List Char) :
    respaced gap (c :: text) = c :: respaced gap text := by
  show (if c = '\n' then gap else [c]) ++ respaced gap text = _
  rw [if_neg h]
  rfl

theorem respaced_of_open (h : ∀ c ∈ text, isLineEnd c = false) : respaced gap text = text := by
  induction text with
  | nil => rfl
  | cons c rest ih =>
      obtain ⟨hc, hrest⟩ := List.forall_mem_cons.mp h
      have hne : c ≠ '\n' := by
        rintro rfl
        cases hc
      rw [respaced_cons hne, ih hrest]

theorem respaced_self (text : List Char) : respaced ['\n'] text = text := by
  induction text with
  | nil => rfl
  | cons c rest ih =>
      by_cases hfeed : c = '\n'
      · rw [hfeed, respaced_feed, ih]
        rfl
      · rw [respaced_cons hfeed, ih]

end Respaced

/-- Whether a text has no line ends but line feeds. -/
def FeedsOnly (text : List Char) : Prop := ∀ c ∈ text, isLineEnd c = true → c = '\n'

theorem FeedsOnly.append {first second : List Char} (hfirst : FeedsOnly first)
    (hsecond : FeedsOnly second) : FeedsOnly (first ++ second) :=
  List.forall_mem_append.mpr ⟨hfirst, hsecond⟩

theorem FeedsOnly.feed {text : List Char} (h : FeedsOnly text) : FeedsOnly ('\n' :: text) :=
  List.forall_mem_cons.mpr ⟨fun _ => rfl, h⟩

theorem feedsOnly_of_open {text : List Char} (h : ∀ c ∈ text, isLineEnd c = false) :
    FeedsOnly text := by
  intro c hc hend
  cases (h c hc).symm.trans hend

/-- Whether no line of a text ends but with a line feed, and the last one does not end at all. -/
structure IsLaidOut (text : List Char) : Prop where
  feeds : FeedsOnly text
  closed : ∃ before last, text = before ++ [last] ∧ last ≠ '\n'

theorem IsLaidOut.tail {c : Char} {rest : List Char} (h : IsLaidOut (c :: rest)) (hne : rest ≠ []) :
    IsLaidOut rest := by
  refine ⟨(List.forall_mem_cons.mp h.feeds).2, ?_⟩
  obtain ⟨before, last, htext, hlast⟩ := h.closed
  cases before with
  | nil => exact absurd (List.cons.inj htext).2 hne
  | cons first before => exact ⟨before, last, (List.cons.inj htext).2, hlast⟩

theorem cut_ne_nil {text : List Char} (h : text ≠ []) : cut text ≠ [] := by
  intro hnil
  have hwhole := flatMap_whole_cut text
  rw [hnil] at hwhole
  exact h hwhole.symm

theorem intercalate_cons_head (gap : List Char) (c : Char) (first : List Char)
    (rest : List (List Char)) :
    gap.intercalate ((c :: first) :: rest) = c :: gap.intercalate (first :: rest) := by
  cases rest with
  | nil => simp
  | cons second rest => simp [List.intercalate_cons_cons]

/-- The lines of a laid out text, with something else between them. -/
theorem intercalate_cut {gap text : List Char} (h : IsLaidOut text) :
    gap.intercalate ((cut text).map Line.body) = respaced gap text := by
  induction text with
  | nil =>
      obtain ⟨before, last, htext, _⟩ := h.closed
      simp at htext
  | cons c rest ih =>
      by_cases hfeed : c = '\n'
      · subst hfeed
        have hne : rest ≠ [] := by
          rintro rfl
          obtain ⟨before, last, htext, hlast⟩ := h.closed
          cases before with
          | nil => exact hlast (List.cons.inj htext).1.symm
          | cons first before => simp at htext
        have hcut : cut ('\n' :: rest) = ⟨[], ['\n']⟩ :: cut rest :=
          cut_ending (.inr ⟨'\n', rfl, rfl, fun heq => by cases heq⟩)
        obtain ⟨line, others, hlines⟩ := List.exists_cons_of_ne_nil (cut_ne_nil hne)
        rw [hcut, List.map_cons, respaced_feed, ← ih (h.tail hne), hlines, List.map_cons,
          List.intercalate_cons_cons]
        rfl
      · have hopen : isLineEnd c = false :=
          eq_false_of_ne_true fun hend => hfeed (h.feeds c List.mem_cons_self hend)
        rw [cut_cons hopen, respaced_cons hfeed]
        by_cases hne : rest = []
        · subst hne
          simp [cut, cutAt, lead, respaced]
        · rw [← ih (h.tail hne)]
          obtain ⟨line, others, hlines⟩ := List.exists_cons_of_ne_nil (cut_ne_nil hne)
          rw [hlines]
          exact intercalate_cons_head gap c line.body _

theorem intercalate_map_append (gap lead : List Char) {lines : List (List Char)} (h : lines ≠ []) :
    gap.intercalate (lines.map (lead ++ ·)) = lead ++ (gap ++ lead).intercalate lines := by
  induction lines with
  | nil => exact absurd rfl h
  | cons line rest ih =>
      cases rest with
      | nil => simp
      | cons other rest =>
          have hrest := ih (List.cons_ne_nil _ _)
          rw [List.map_cons] at hrest ⊢
          rw [List.map_cons, List.intercalate_cons_cons, hrest, List.intercalate_cons_cons]
          simp

end StateRules.Text
