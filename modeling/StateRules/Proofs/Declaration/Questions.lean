import StateRules.Build
import StateRules.Proofs.Declaration.Acceptance

/-!
What is asked of the values in a declaration while it is checked.

A class may have a say in how its objects are written, what they give themselves out to be and
whether they count as true, so each of these is a question that may come back with a fault. The
check of a declaration puts its questions in turn: first those that its text takes, down
through all its entries, then those that an objection takes, up to the first one. Where
a question is not answered, the check ends with the fault that came back. Where all are
answered, the declaration is accepted or refused for what it is (`Act.Puts`).

`Declaration.textQuestions` lists what the text of a declaration takes, and
`Declaration.puts_render` says that it takes nothing else.
-/

namespace StateRules

/-- Something that is asked of the values in a declaration, or of those in a table. -/
inductive Question where
  /-- What a value goes by. -/
  | name (v : Value)
  /-- What a value goes by, which has to be a text. -/
  | text (v : Value)
  /-- What a value goes by, inside a running text. -/
  | label (v : Value)
  /-- How a value is written. -/
  | written (v : Value)
  /-- What an entry of a source block is rendered as, inside a running text. -/
  | entryText (entry : Value)
  /-- The lines that an entry of an event block is rendered as. -/
  | entryLines (entry : Value)
  /-- Whether a value can be an event. -/
  | event (v : Value)
  /-- What a value gives itself out to be. -/
  | kind (v : Value)
  /-- The destination that an entry names. -/
  | destination (entry : Value)
  /-- Whether a value is one that is known. -/
  | same (known v : Value)
  /-- The record of a rule. -/
  | record (rule : Rule)
  /-- The record of a step that stands for no rule. -/
  | warning (step : Step)

namespace Act

/-- A computation that is made for its own sake, whatever it gives. -/
def forget {α : Type} (act : Act α) : Act Unit := (fun _ => ()) <$> act

/-- What a computation gives, or something else if it fails. -/
def resultD {α : Type} (act : Act α) (fallback : α) : α :=
  match act.result with
  | .ok a => a
  | .error _ => fallback

theorem resultD_of_ok {α : Type} {act : Act α} {a : α} (h : act.result = .ok a) (fallback : α) :
    act.resultD fallback = a := by
  simp [resultD, h]

theorem result_forget_eq_error_iff {α : Type} {act : Act α} {fault : Fault} :
    act.forget.result = .error fault ↔ act.result = .error fault :=
  result_map_eq_error_iff

theorem result_forget_eq_ok_iff {α : Type} {act : Act α} :
    act.forget.result = .ok () ↔ ∃ a, act.result = .ok a := by
  rw [forget, result_map_eq_ok_iff]
  simp

end Act

/-- The question is put. -/
def Question.put (m : Interpretation) : Question → Act Unit
  | .name v => (v.naming m).forget
  | .text v => do
      let name ← v.naming m
      (Act.ofOption (.notJoined 0 name.formalName) name.text?).forget
  | .label v => (v.writeLabel m).forget
  | .written v => (v.write m).forget
  | .entryText entry => do
      let rendition ← entry.renderEntry m
      (rendition.writeDisplay m).forget
  | .entryLines entry => do
      let rendition ← entry.renderEntry m
      (rendition.linesOf m).forget
  | .event v => (v.isEvent m).forget
  | .kind v => (v.countsAs m false).forget
  | .destination entry => (entry.namedDestination m).forget
  | .same known v => (known.resembles m v).forget
  | .record rule => (rule.writeRecord m).forget
  | .warning step => (step.writeWarning m).forget

/-- Some questions are put in turn, up to the first that is not answered. -/
def askAll (m : Interpretation) : List Question → Act Unit
  | [] => pure ()
  | question :: rest => do
      question.put m
      askAll m rest

/-- Whether a computation fails in certain ways only. -/
def Act.FailsOnly {α : Type} (P : Fault → Prop) (act : Act α) : Prop :=
  ∀ fault, act.result = .error fault → P fault

/-- A computation puts some questions: it fails if one of them does, as the first that does, and
else it comes to a result of a certain kind. -/
structure Act.Puts {α : Type} (m : Interpretation) (questions : List Question)
    (Q : Except Fault α → Prop) (act : Act α) : Prop where
  fails : ∀ fault, (askAll m questions).result = .error fault → act.result = .error fault
  comes : (askAll m questions).result = .ok () → Q act.result

/-- Whether a result is no fault. -/
def Succeeds {α : Type} (result : Except Fault α) : Prop := ∃ a, result = .ok a

/-- A result is decided by whether something is sound: there is one if it is, and if it is not,
there is a fault of a certain kind. -/
structure Decided {α : Type} (sound : Prop) (R : Fault → Prop) (result : Except Fault α) :
    Prop where
  accepts : sound → Succeeds result
  refuses : ¬sound → ∃ fault, result = .error fault ∧ R fault

variable {m : Interpretation}

theorem askAll_append (m : Interpretation) (first second : List Question) :
    askAll m (first ++ second) = askAll m first >>= fun _ => askAll m second := by
  induction first with
  | nil => rfl
  | cons question rest ih => simp only [List.cons_append, askAll, ih, bind_assoc]

theorem result_askAll_eq_ok_iff {questions : List Question} :
    (askAll m questions).result = .ok () ↔
      ∀ question ∈ questions, (question.put m).result = .ok () := by
  induction questions with
  | nil => simp [askAll]
  | cons question rest ih =>
      rw [askAll, Act.result_seq_eq_ok_iff, ih, List.forall_mem_cons]

theorem result_askAll_singleton {question : Question} :
    (askAll m [question]).result = (question.put m).result := by
  cases h : (question.put m).result with
  | error fault => simp [askAll, Act.bind_of_error h]
  | ok _ => simp [askAll, Act.bind_of_ok h, Act.pure_def]

namespace Act.Puts

variable {α β : Type} {questions more : List Question}

theorem imp {act : Act α} {Q Q' : Except Fault α → Prop} (h : act.Puts m questions Q)
    (hQ : ∀ result, Q result → Q' result) : act.Puts m questions Q' :=
  ⟨h.fails, fun hall => hQ _ (h.comes hall)⟩

/-- A computation that puts no question comes to what it is. -/
theorem of_result {act : Act α} {Q : Except Fault α → Prop} (h : Q act.result) :
    act.Puts m [] Q := by
  constructor
  · intro fault hfault
    cases hfault
  · intro _
    exact h

/-- A computation that is put as a question is answered when it succeeds. -/
theorem of_put {act : Act α} {question : Question}
    (h : (question.put m).result = act.forget.result) : act.Puts m [question] Succeeds := by
  constructor
  · intro fault hfault
    rw [result_askAll_singleton, h] at hfault
    exact result_forget_eq_error_iff.mp hfault
  · intro hall
    rw [result_askAll_singleton, h] at hall
    exact result_forget_eq_ok_iff.mp hall

/-- Questions are put in the order of the computations that put them. -/
theorem bind {act : Act α} {next : α → Act β} {Q : Except Fault β → Prop}
    (hact : act.Puts m questions Succeeds)
    (hnext : ∀ a, act.result = .ok a → (next a).Puts m more Q) :
    (act >>= next).Puts m (questions ++ more) Q := by
  constructor
  · intro fault hfault
    rw [askAll_append, result_bind_eq_error_iff] at hfault
    rw [result_bind_eq_error_iff]
    rcases hfault with hfirst | ⟨_, hfirst, hmore⟩
    · exact .inl (hact.fails fault hfirst)
    · obtain ⟨a, ha⟩ := hact.comes hfirst
      exact .inr ⟨a, ha, (hnext a ha).fails fault hmore⟩
  · intro hall
    rw [askAll_append, result_seq_eq_ok_iff] at hall
    obtain ⟨hfirst, hmore⟩ := hall
    obtain ⟨a, ha⟩ := hact.comes hfirst
    rw [result_bind_of_ok ha]
    exact (hnext a ha).comes hmore

/-- What comes last may put no question of its own. -/
theorem bind_result {act : Act α} {next : α → Act β} {Q : Except Fault β → Prop}
    (hact : act.Puts m questions Succeeds)
    (hnext : ∀ a, act.result = .ok a → Q (next a).result) :
    (act >>= next).Puts m questions Q := by
  have hnone (a : α) (ha : act.result = .ok a) : (next a).Puts m [] Q := .of_result (hnext a ha)
  have h := hact.bind hnone
  rwa [List.append_nil] at h

/-- What comes after a check is only asked if the check is passed. -/
theorem bind_decided {act : Act α} {next : α → Act β} {sound : Bool} {sound' : Prop}
    {R : Fault → Prop} (hact : act.Puts m questions (Decided (sound = true) R))
    (hnext : sound = true → ∀ a, act.result = .ok a → (next a).Puts m more (Decided sound' R)) :
    (act >>= next).Puts m (questions ++ if sound then more else [])
      (Decided (sound = true ∧ sound') R) := by
  cases sound with
  | true =>
      apply (bind (hact.imp fun _ h => h.accepts rfl) (hnext rfl)).imp
      intro result h
      simpa using h
  | false =>
      rw [if_neg (by decide), List.append_nil]
      constructor
      · intro fault hfault
        exact result_bind_eq_error_iff.mpr (.inl (hact.fails fault hfault))
      · intro hall
        obtain ⟨fault, hfault, hR⟩ := (hact.comes hall).refuses (by decide)
        refine ⟨by simp, fun _ => ⟨fault, ?_, hR⟩⟩
        exact result_bind_eq_error_iff.mpr (.inl hfault)

/-- The same where what comes after the check puts no question. -/
theorem bind_decided_result {act : Act α} {next : α → Act β} {sound : Bool} {sound' : Prop}
    {R : Fault → Prop} (hact : act.Puts m questions (Decided (sound = true) R))
    (hnext : sound = true → ∀ a, act.result = .ok a → Decided sound' R (next a).result) :
    (act >>= next).Puts m questions (Decided (sound = true ∧ sound') R) := by
  have hnone (hsound : sound = true) (a : α) (ha : act.result = .ok a) :
      (next a).Puts m [] (Decided sound' R) := .of_result (hnext hsound a ha)
  have h := hact.bind_decided hnone
  rwa [ite_self, List.append_nil] at h

theorem map {act : Act α} {f : α → β} (h : act.Puts m questions Succeeds) :
    (f <$> act).Puts m questions Succeeds := by
  constructor
  · intro fault hfault
    exact result_map_eq_error_iff.mpr (h.fails fault hfault)
  · intro hall
    obtain ⟨a, ha⟩ := h.comes hall
    exact ⟨f a, result_map_eq_ok_iff.mpr ⟨a, ha, rfl⟩⟩

theorem bind_pure {act : Act α} (h : act.Puts m questions Succeeds) (f : α → β) :
    (act >>= fun a => pure (f a)).Puts m questions Succeeds := by
  rw [← map_eq_pure_bind]
  exact h.map

/-- What is decided stays so, whatever is made of the result. -/
theorem bind_pure_decided {act : Act α} {sound : Prop} {R : Fault → Prop}
    (h : act.Puts m questions (Decided sound R)) (f : α → β) :
    (act >>= fun a => pure (f a)).Puts m questions (Decided sound R) := by
  rw [← map_eq_pure_bind]
  constructor
  · intro fault hfault
    exact result_map_eq_error_iff.mpr (h.fails fault hfault)
  · intro hall
    constructor
    · intro hsound
      obtain ⟨a, ha⟩ := (h.comes hall).accepts hsound
      exact ⟨f a, result_map_eq_ok_iff.mpr ⟨a, ha, rfl⟩⟩
    · intro hnot
      obtain ⟨fault, hfault, hR⟩ := (h.comes hall).refuses hnot
      exact ⟨fault, result_map_eq_error_iff.mpr hfault, hR⟩

/-- A computation that succeeds has been answered all that it asks. -/
theorem answered {act : Act α} {Q : Except Fault α → Prop} (h : act.Puts m questions Q) {a : α}
    (ha : act.result = .ok a) : (askAll m questions).result = .ok () := by
  cases hall : (askAll m questions).result with
  | ok _ => rfl
  | error fault => cases (h.fails fault hall).symm.trans ha

/-- Where all other faults are of a certain kind, a computation only fails in that way if its
questions do. -/
theorem failsOnly_iff {act : Act α} {Q : Except Fault α → Prop} (h : act.Puts m questions Q)
    {P : Fault → Prop} (hP : ∀ fault, Q (.error fault) → P fault) :
    act.FailsOnly P ↔ (askAll m questions).FailsOnly P := by
  constructor
  · intro hact fault hfault
    exact hact fault (h.fails fault hfault)
  · intro hquestions fault hfault
    cases hall : (askAll m questions).result with
    | error other =>
        obtain rfl : other = fault := by
          simpa using (h.fails other hall).symm.trans hfault
        exact hquestions other hall
    | ok _ => exact hP fault (hfault ▸ h.comes hall)

end Act.Puts

/-- What is asked for a label, unless there is none to mention. -/
def mentionQuestions (present : Bool) (v : Value) : List Question :=
  if present then [.label v] else []

mutual

/-- What is asked for the text of a declaration. -/
def Declaration.textQuestions (d : Declaration) : List Question :=
  match d with
  | .simple source destination event =>
      [.name source] ++ (mentionQuestions (!destination.isUnset) destination ++
        (mentionQuestions (!event.isNull) event ++ [.text source]))
  | .sourceBlock source _ _ entries => [.label source] ++ entryQuestions .entryText entries
  | .toEntry destination event => [.label destination] ++ mentionQuestions (!event.isNull) event
  | .eventBlock event entries guard =>
      [.label event] ++ (entryQuestions .entryLines entries ++
        mentionQuestions (!guard.isNull) guard)
termination_by structural d

/-- What is asked for the text of an entry, where one that is no declaration is asked for it
itself. -/
def Value.textQuestions (own : Value → Question) (v : Value) : List Question :=
  match v with
  | .declaration d => d.textQuestions
  | v => [own v]
termination_by structural v

/-- What is asked for the texts of the entries of a block. -/
def entryQuestions (own : Value → Question) (entries : List Value) : List Question :=
  match entries with
  | [] => []
  | entry :: rest => entry.textQuestions own ++ entryQuestions own rest
termination_by structural entries

end

theorem Value.puts_writeMention (v : Value) (present : Bool) :
    (v.writeMention m present).Puts m (mentionQuestions present v) Succeeds := by
  cases present with
  | true =>
      have hlabel : (v.writeLabel m).Puts m [.label v] Succeeds := .of_put rfl
      exact hlabel.map
  | false => exact .of_result ⟨none, rfl⟩

theorem puts_renderSimple (source destination event : Value) :
    (renderSimple m source destination event).Puts m
      (Declaration.simple source destination event).textQuestions Succeeds := by
  have hname : (source.naming m).Puts m [.name source] Succeeds := .of_put rfl
  apply hname.bind
  intro name hname
  apply (destination.puts_writeMention _).bind
  intro goal _
  apply (event.puts_writeMention _).bind
  intro cue _
  -- What the source goes by is known by now, so only its being a text is left to ask.
  have htext : (Act.ofOption (.notJoined 0 name.formalName) name.text?).Puts m [.text source]
      Succeeds := by
    apply Act.Puts.of_put
    rw [Question.put, Act.result_bind_of_ok hname]
  exact htext.bind_pure _

/-- What a block takes of the rendition of an entry is asked of the entry itself, and a text
always has it. -/
structure Question.Takes {α : Type} (m : Interpretation) (own : Value → Question)
    (take : Value → Act α) : Prop where
  put : ∀ v, (own v).put m = v.renderEntry m >>= fun rendition => (take rendition).forget
  text : ∀ s, Succeeds (take (.text s)).result

theorem Question.takes_entryText :
    Question.Takes m .entryText fun rendition => rendition.writeDisplay m where
  put _ := rfl
  text s := ⟨s, rfl⟩

theorem Question.takes_entryLines :
    Question.Takes m .entryLines fun rendition => rendition.linesOf m where
  put _ := rfl
  text s := ⟨Text.lines s, rfl⟩

theorem Question.Takes.puts_own {α : Type} {own : Value → Question} {take : Value → Act α}
    (h : Question.Takes m own take) (v : Value) :
    (v.renderEntry m >>= take).Puts m [own v] Succeeds := by
  apply Act.Puts.of_put
  rw [h.put, Act.forget, map_bind]
  rfl

theorem Question.Takes.puts_text {α : Type} {own : Value → Question} {take : Value → Act α}
    (h : Question.Takes m own take) {d : Declaration}
    (hd : (d.render m).Puts m d.textQuestions Succeeds) :
    ((Value.declaration d).renderEntry m >>= take).Puts m d.textQuestions Succeeds := by
  rw [Value.renderEntry, bind_map_left]
  apply hd.bind_result
  intro s _
  exact h.text s

mutual

/-- The text of a declaration takes what is listed for it and nothing else. -/
theorem Declaration.puts_render (m : Interpretation) (d : Declaration) :
    (d.render m).Puts m d.textQuestions Succeeds := by
  match d with
  | .simple source destination event => exact puts_renderSimple source destination event
  | .sourceBlock source destination event entries =>
      have hlabel : (source.writeLabel m).Puts m [.label source] Succeeds := .of_put rfl
      apply hlabel.bind
      intro label _
      exact (puts_renderSourceEntries m entries).bind_pure _
  | .toEntry destination event =>
      have hlabel : (destination.writeLabel m).Puts m [.label destination] Succeeds := .of_put rfl
      apply hlabel.bind
      intro label _
      exact (event.puts_writeMention _).bind_pure _
  | .eventBlock event entries guard =>
      have hlabel : (event.writeLabel m).Puts m [.label event] Succeeds := .of_put rfl
      apply hlabel.bind
      intro label _
      apply (puts_renderEventEntries m _ entries).bind
      intro lines _
      exact (guard.puts_writeMention _).bind_pure _

theorem Value.puts_renderEntry {α : Type} (m : Interpretation) {own : Value → Question}
    {take : Value → Act α} (h : Question.Takes m own take) (entry : Value) :
    (entry.renderEntry m >>= take).Puts m (entry.textQuestions own) Succeeds := by
  match entry with
  | .declaration d => exact h.puts_text (d.puts_render m)
  | .null | .boolean _ | .integer _ | .float _ | .text _ | .bytes _ | .list _ | .tuple _
  | .mapping _ _ | .any | .unset | .member _ | .basicType _ | .function _ _ | .token _
  | .placeholder _ | .renderable _ _ | .feature _ _ _ | .classType _ _ | .object _ _ _ _ =>
      exact h.puts_own _

theorem puts_renderSourceEntries (m : Interpretation) (entries : List Value) :
    (renderSourceEntries m entries).Puts m (entryQuestions .entryText entries) Succeeds := by
  match entries with
  | [] => exact .of_result ⟨[], rfl⟩
  | entry :: rest =>
      have hentry := entry.puts_renderEntry m Question.takes_entryText
      have hrest := puts_renderSourceEntries m rest
      have hboth := hentry.bind fun text _ =>
        hrest.bind_pure fun others => (indentLine text ++ ",") :: others
      rw [bind_assoc] at hboth
      exact hboth

theorem puts_renderEventEntries (m : Interpretation) (lines : List String)
    (entries : List Value) :
    (renderEventEntries m lines entries).Puts m (entryQuestions .entryLines entries)
      Succeeds := by
  match entries with
  | [] => exact .of_result ⟨lines, rfl⟩
  | entry :: rest =>
      have hentry := entry.puts_renderEntry m Question.takes_entryLines
      have hboth := hentry.bind fun more _ =>
        puts_renderEventEntries m (closeLines (lines ++ more.map indentLine)) rest
      rw [bind_assoc] at hboth
      exact hboth

end

end StateRules
