import StateRules.Fault
import StateRules.Proofs.Text.Lines

/-!
What can be told from the message of a refusal.

The texts that a message quotes are pushed to the right, so nothing of them can be taken for the
caption between them, even where they contain the same words, and from what is pushed to the right
they can be got back. For one reason, a message therefore tells all that it was made of
(`messages_lose_nothing`). A declaration without any text is not quoted, and its message cannot be
told from one without a declaration.
-/

namespace StateRules

/-- The caption between the two texts that are quoted for an unsupported shape. -/
def suggestionCaption : List Char :=
  ['\n', '\n', 'D', 'o', ' ', 't', 'h', 'i', 's', ':', '\n', '\n']

namespace DeclarationError

variable {reason declaration suggestion declaration' suggestion' : String}

theorem toList_message_unsupported (reason declaration suggestion : String) :
    (unsupported reason declaration suggestion).message.toList =
      (reason ++ "\n\nInstead of this:\n\n").toList ++ ((Text.indent declaration).toList ++
        (suggestionCaption ++ ((Text.indent suggestion).toList ++ ['\n']))) := by
  have hcaption : "\n\nDo this:\n\n".toList = suggestionCaption := by decide
  have hbreak : "\n".toList = ['\n'] := by decide
  simp only [message, String.toList_append, List.append_assoc, hcaption, hbreak]

theorem parts_of_message_unsupported
    (h : (unsupported reason declaration suggestion).message =
      (unsupported reason declaration' suggestion').message) :
    declaration = declaration' ∧ suggestion = suggestion' := by
  have hchars := congrArg String.toList h
  rw [toList_message_unsupported, toList_message_unsupported] at hchars
  obtain ⟨hfirst, hsecond⟩ := Text.eq_of_caption (Text.isInset_indent declaration)
    (Text.isInset_indent declaration') (c := 'D') rfl (List.append_cancel_left hchars)
  constructor
  · exact Text.indent_injective (String.toList_injective hfirst)
  · exact Text.indent_injective (String.toList_injective (List.append_cancel_right hsecond))

theorem message_invalid_of_ne (reason : String) (h : declaration ≠ "") :
    (invalid reason (some declaration)).message =
      reason ++ "\n\n" ++ Text.indent declaration ++ "\n" := by
  have hnonempty : declaration.isEmpty = false := by simpa using h
  simp [message, hnonempty]

/-- The message of a declaration that is quoted is longer than its reason. -/
theorem message_invalid_ne_reason (reason : String) (h : declaration ≠ "") :
    (invalid reason (some declaration)).message ≠ reason := by
  rw [message_invalid_of_ne reason h]
  intro heq
  have hchars := congrArg (fun message => message.toList.length) heq
  simp at hchars

theorem declaration_of_message_invalid (hne : declaration ≠ "") {other : Option String}
    (h : (invalid reason (some declaration)).message = (invalid reason other).message) :
    other = some declaration := by
  cases other with
  | none => exact absurd h (message_invalid_ne_reason reason hne)
  | some text =>
      by_cases htext : text = ""
      · subst htext
        exact absurd h (message_invalid_ne_reason reason hne)
      · rw [message_invalid_of_ne reason hne, message_invalid_of_ne reason htext] at h
        have hchars := congrArg String.toList h
        simp only [String.toList_append, List.append_assoc, List.append_cancel_left_eq] at hchars
        have hindent := String.toList_injective (List.append_cancel_right hchars)
        rw [Text.indent_injective hindent]

end DeclarationError

/-- For one reason, the message about an unsupported shape tells the declaration and what is
suggested in its place, and the message about a declaration that is quoted tells the declaration:
no other declaration gives the same message, and it is not given without one. -/
theorem messages_lose_nothing (reason declaration suggestion : String) :
    (∀ declaration' suggestion' : String,
      (DeclarationError.unsupported reason declaration suggestion).message =
          (DeclarationError.unsupported reason declaration' suggestion').message ↔
        declaration = declaration' ∧ suggestion = suggestion') ∧
    (declaration ≠ "" → ∀ other : Option String,
      (DeclarationError.invalid reason (some declaration)).message =
          (DeclarationError.invalid reason other).message ↔
        other = some declaration) := by
  constructor
  · intro declaration' suggestion'
    constructor
    · exact DeclarationError.parts_of_message_unsupported
    · rintro ⟨rfl, rfl⟩
      rfl
  · intro hne other
    constructor
    · exact DeclarationError.declaration_of_message_invalid hne
    · rintro rfl
      rfl

/-- Two pairs of texts that differ in where one of them ends and the other begins: joined by the
caption alone, they would be the same. -/
theorem messages_lose_nothing_caption :
    "stay" ++ "\n\nDo this:\n\n" ++ "go\n\nDo this:\n\nleave" =
        "stay\n\nDo this:\n\ngo" ++ "\n\nDo this:\n\n" ++ "leave" ∧
      (DeclarationError.unsupported "no" "stay" "go\n\nDo this:\n\nleave").message ≠
        (DeclarationError.unsupported "no" "stay\n\nDo this:\n\ngo" "leave").message ∧
      (DeclarationError.invalid "no" (some "stay")).message ≠
        (DeclarationError.invalid "no" (some "stay\r")).message := by
  obtain ⟨hunsupported, hinvalid⟩ :=
    messages_lose_nothing "no" "stay" "go\n\nDo this:\n\nleave"
  refine ⟨by decide, fun h => ?_, fun h => ?_⟩
  · exact absurd ((hunsupported _ _).mp h).1 (by decide)
  · exact absurd ((hinvalid (by decide) _).mp h) (by decide)

end StateRules
