import StateRules.Proofs.Text.Spacing

/-!
The lines of texts that are put together.

Where a text ends with something that ends no line (`IsClosed`), a line feed behind it ends its last
line and nothing else: what comes after the feed is cut as if it stood alone
(`lines_append_feed`). What a text is cut into are lines that hold no line end themselves
(`isOpen_of_mem_lines`), and such a line is cut no further (`lines_of_isOpen`).
-/

namespace StateRules.Text

theorem isOpen_iff {text : List Char} :
    isOpen text = true ↔ ∀ c ∈ text, isLineEnd c = false := by
  simp [isOpen]

/-- Whether a text ends with something that ends no line. -/
def IsClosed (text : List Char) : Prop :=
  ∃ before last, text = before ++ [last] ∧ isLineEnd last = false

theorem isClosed_of_isOpen {text : List Char} (h : isOpen text = true) (hne : text ≠ []) :
    IsClosed text := by
  have htext : text = text.dropLast ++ [text.getLast hne] := (List.dropLast_concat_getLast hne).symm
  exact ⟨_, _, htext, isLineEnd_of_isOpen h _ (List.getLast_mem hne)⟩

theorem IsClosed.ne_nil {text : List Char} (h : IsClosed text) : text ≠ [] := by
  obtain ⟨before, last, rfl, _⟩ := h
  exact List.append_ne_nil_of_right_ne_nil _ (List.cons_ne_nil _ _)

/-- What is left of a closed text behind some characters is closed, if anything is. -/
theorem IsClosed.of_append {first second : List Char} (h : IsClosed (first ++ second))
    (hne : second ≠ []) : IsClosed second := by
  obtain ⟨before, last, htext, hlast⟩ := h
  refine ⟨second.dropLast, second.getLast hne, (List.dropLast_concat_getLast hne).symm, ?_⟩
  have hgetLast : second.getLast hne = last := by
    rw [← List.getLast_append_of_ne_nil (List.append_ne_nil_of_right_ne_nil first hne) hne]
    simp [htext]
  rwa [hgetLast]

/-- A line feed ends the last of some lines, and the first line of what comes after it is another
one. -/
theorem IsCut.bodies_append_feed {lines : List Line} (h : IsCut lines)
    (hclosed : IsClosed (lines.flatMap Line.whole)) (rest : List Char) :
    (cut (lines.flatMap Line.whole ++ '\n' :: rest)).map Line.body =
      lines.map Line.body ++ (cut rest).map Line.body := by
  have hfeed : EndsLine ['\n'] rest := .inr ⟨'\n', rfl, rfl, fun h => by cases h⟩
  induction h with
  | none => exact absurd rfl hclosed.ne_nil
  | @last body hbody hne =>
      have hcut := cut_line hbody hfeed
      simpa [Line.whole] using congrArg (List.map Line.body) hcut
  | @line body ending lines hbody hending hlines ih =>
      -- The text ends with no line end, so this line is not the last one.
      have hmore : lines.flatMap Line.whole ≠ [] := by
        intro hnil
        rw [List.flatMap_cons, hnil, List.append_nil, Line.whole] at hclosed
        obtain ⟨before, last, rfl, hlast⟩ := hclosed.of_append hending.ne_nil
        cases (hending.isLineEnd last (by simp)).symm.trans hlast
      have hending' : EndsLine ending (lines.flatMap Line.whole ++ '\n' :: rest) := by
        rcases hending with hpair | ⟨c, hc, hend, hwhole⟩
        · exact .inl hpair
        · refine .inr ⟨c, hc, hend, fun hreturn => ?_⟩
          rw [List.head?_append_of_ne_nil _ hmore]
          exact hwhole hreturn
      rw [List.flatMap_cons] at hclosed
      have hrest := ih (hclosed.of_append hmore)
      rw [List.flatMap_cons, Line.whole, List.append_assoc, List.append_assoc,
        cut_line hbody hending', List.map_cons, hrest, List.map_cons, List.cons_append]

/-- The lines of a closed text and another one below it. -/
theorem lines_append_feed {text : String} (h : IsClosed text.toList) (rest : String) :
    lines (text ++ "\n" ++ rest) = lines text ++ lines rest := by
  have hcut := isCut_cut text.toList
  have hwhole := flatMap_whole_cut text.toList
  rw [← hwhole] at h
  have hbodies := hcut.bodies_append_feed h rest.toList
  rw [hwhole] at hbodies
  have htext : (text ++ "\n" ++ rest).toList = text.toList ++ '\n' :: rest.toList := by simp
  have hlines := congrArg (List.map String.ofList) hbodies
  simpa [lines, htext, Function.comp_def] using hlines

theorem IsCut.isOpen_body {lines : List Line} (h : IsCut lines) :
    ∀ line ∈ lines, isOpen line.body = true := by
  induction h with
  | none => simp
  | last hbody _ => exact List.forall_mem_singleton.mpr (isOpen_iff.mpr hbody)
  | line hbody _ _ ih => exact List.forall_mem_cons.mpr ⟨isOpen_iff.mpr hbody, ih⟩

/-- No line of a text has a line end in it. -/
theorem isOpen_of_mem_lines {text line : String} (h : line ∈ lines text) :
    isOpen line.toList = true := by
  obtain ⟨cutLine, hmem, rfl⟩ := List.mem_map.mp h
  rw [String.toList_ofList]
  exact (isCut_cut text.toList).isOpen_body cutLine hmem

/-- A text without line ends is its only line. -/
theorem lines_of_isOpen {text : String} (h : isOpen text.toList = true) (hne : text ≠ "") :
    lines text = [text] := by
  have hchars : text.toList ≠ [] := by simpa using hne
  rw [lines, cut_body (isLineEnd_of_isOpen h) hchars]
  simp

theorem lines_ne_nil {text : String} (h : text ≠ "") : lines text ≠ [] := by
  have hchars : text.toList ≠ [] := by simpa using h
  simp [lines, cut_ne_nil hchars]

end StateRules.Text
