import StateRules.Proofs.Declaration.Verdict

/-!
Declarations that answer all that is asked of them.

An atom is written, named and compared as what it is, and it does not give itself out to be
anything else. So a declaration that is made of atoms down through all its entries answers every
question, be it sound or not: its entries may be declarations in the wrong place or no
declarations at all, as long as they are atoms without a rendition of their own or bring a
text as their rendition (`Value.answers_of_isPlain`).
-/

namespace StateRules

mutual

/-- Whether a declaration is made of atoms, and its entries of what a block can quote. -/
def Declaration.isPlain (d : Declaration) : Bool :=
  match d with
  | .simple source destination event => source.isAtom && (destination.isAtom && event.isAtom)
  | .sourceBlock source destination event entries =>
      source.isAtom && (destination.isAtom && (event.isAtom && plainEntries entries))
  | .toEntry destination event => destination.isAtom && event.isAtom
  | .eventBlock event entries guard => event.isAtom && (plainEntries entries && guard.isAtom)
termination_by structural d

/-- Whether a block can quote an entry whatever it is: a plain declaration, something that
brings a text as its rendition, or an atom that has neither a rendition nor a destination. -/
def Value.isPlainEntry (v : Value) : Bool :=
  match v with
  | .declaration d => d.isPlain
  | .renderable _ rendition => rendition.isAtom && rendition.text?.isSome
  | v => v.isAtom && ((v.attr? "render").isNone && (v.attr? "target").isNone)
termination_by structural v

/-- Whether a block can quote all its entries. -/
def plainEntries (entries : List Value) : Bool :=
  match entries with
  | [] => true
  | entry :: rest => entry.isPlainEntry && plainEntries rest
termination_by structural entries

end

/-- Whether a value that stands where a declaration should is a plain declaration or else an
atom. -/
def Value.isPlain : Value → Bool
  | .declaration d => d.isPlain
  | v => v.isAtom

variable {m : Interpretation}

theorem plainEntries_iff {entries : List Value} :
    plainEntries entries = true ↔ ∀ entry ∈ entries, entry.isPlainEntry = true := by
  induction entries with
  | nil => simp [plainEntries]
  | cons entry rest ih => rw [plainEntries, Bool.and_eq_true, ih, List.forall_mem_cons]

theorem Value.kind_lackOf (v : Value) (name : String) : (v.lackOf name).kind = .access := by
  unfold lackOf
  split <;> rfl

/-- What no class has a say in is read as it is. -/
theorem Value.read?_of_unshared {v : Value} (h : ∀ name, v.shared? name = none) (name : String) :
    v.read? m name = pure (v.attr? name) := by
  have hread : v.read m name = Act.ofOption (v.lackOf name) (v.attr? name) := by
    simp [read, find, h]
  rw [read?, hread]
  cases v.attr? name with
  | none => exact if_pos (v.kind_lackOf name)
  | some item => rfl

theorem Value.shared?_of_isAtom {v : Value} (h : v.isAtom = true) (name : String) :
    v.shared? name = none := by
  cases v with
  | object _ _ _ _ => cases h
  | _ => rfl

theorem Value.shared?_of_isPlainEntry {v : Value} (h : v.isPlainEntry = true) (name : String) :
    v.shared? name = none := by
  cases v with
  | object _ _ _ _ => simp [isPlainEntry, isAtom] at h
  | _ => rfl

/-- An atom answers whether it can be an event. -/
theorem Value.exists_isEvent_of_isAtom {v : Value} (h : v.isAtom = true) :
    ∃ fit, (v.isEvent m).result = .ok fit := by
  have hholds : v.holds m = pure v.truth :=
    holds_of_shared_none m (shared?_of_isAtom h _) (shared?_of_isAtom h _)
  have hkind : v.isA m (.basic .text) = pure (v.isKind (.basic .text)) := by
    cases v with
    | object _ _ _ _ => cases h
    | _ =>
      unfold isA
      split <;> simp_all
  rw [isEvent, hkind, pure_bind, hholds]
  split <;> exact ⟨_, rfl⟩

theorem Value.countsAs_of_unshared {v : Value} (h : ∀ name, v.shared? name = none) :
    v.countsAs m false = pure false := by
  cases v with
  | object _ _ _ _ => rw [countsAs, if_neg (by decide), read?_of_unshared h, pure_bind]
  | _ => rfl

theorem Value.isWritable_of_isAtom {v : Value} (h : v.isAtom = true) : v.IsWritable m := by
  refine ⟨v.label, ?_⟩
  rw [writeLabel_of_isAtom m h]
  rfl

theorem Value.rendersInSource_of_isAtom {rendition entry : Value}
    (h : (entry.renderEntry m).result = .ok rendition) (hrendition : rendition.isAtom = true) :
    entry.RendersInSource m := by
  refine ⟨rendition, rendition.display, h, ?_⟩
  rw [writeDisplay_of_isAtom m hrendition]
  rfl

theorem Value.rendersInEvent_of_text? {rendition entry : Value} {s : String}
    (h : (entry.renderEntry m).result = .ok rendition) (hrendition : rendition.text? = some s) :
    entry.RendersInEvent m := by
  refine ⟨rendition, Text.lines s, h, ?_⟩
  simp [linesOf, renditionLines?, hrendition]

/-- An atom that has no rendition is rendered as it is written. -/
theorem Value.rendition_of_isAtom {v : Value} (h : v.isAtom = true)
    (hrender : v.attr? "render" = none) : v.rendition m = pure (.text v.written) := by
  have hread : v.read? m "render" = pure none := by
    rw [read?_of_unshared (shared?_of_isAtom h), hrender]
  unfold rendition
  split
  · cases h
  · rw [hread, pure_bind]
    exact shownAs_of_isAtom m h "__repr__"

theorem Value.renders_of_isAtom {v : Value} (h : v.isAtom = true)
    (hrender : v.attr? "render" = none) (hentry : v.renderEntry m = v.rendition m) :
    v.RendersInSource m ∧ v.RendersInEvent m := by
  have hrendition : (v.renderEntry m).result = .ok (.text v.written) := by
    rw [hentry, rendition_of_isAtom h hrender]
    rfl
  exact ⟨rendersInSource_of_isAtom hrendition rfl, rendersInEvent_of_text? hrendition rfl⟩

mutual

/-- A plain declaration can be rendered. -/
theorem Declaration.renders_of_isPlain (m : Interpretation) (d : Declaration)
    (h : d.isPlain = true) : d.Renders m := by
  match d with
  | .simple source destination event =>
      simp only [Declaration.isPlain, Bool.and_eq_true] at h
      rw [Declaration.Renders, Declaration.render, renderSimple_of_isAtom m h.1 h.2.1 h.2.2]
      exact ⟨_, rfl⟩
  | .sourceBlock source destination event entries =>
      simp only [Declaration.isPlain, Bool.and_eq_true] at h
      rw [renders_sourceBlock_iff]
      refine ⟨Value.isWritable_of_isAtom h.1, ?_⟩
      intro entry hentry
      exact (renders_of_plainEntries m entries h.2.2.2 entry hentry).1
  | .toEntry destination event =>
      simp only [Declaration.isPlain, Bool.and_eq_true] at h
      rw [renders_toEntry_iff]
      exact ⟨Value.isWritable_of_isAtom h.1, fun _ => Value.isWritable_of_isAtom h.2⟩
  | .eventBlock event entries guard =>
      simp only [Declaration.isPlain, Bool.and_eq_true] at h
      rw [renders_eventBlock_iff]
      refine ⟨Value.isWritable_of_isAtom h.1, ?_, fun _ => Value.isWritable_of_isAtom h.2.2⟩
      intro entry hentry
      exact (renders_of_plainEntries m entries h.2.1 entry hentry).2

theorem Value.renders_of_isPlainEntry (m : Interpretation) (v : Value)
    (h : v.isPlainEntry = true) : v.RendersInSource m ∧ v.RendersInEvent m := by
  match v with
  | .declaration d =>
      rw [rendersInSource_declaration_iff, rendersInEvent_declaration_iff]
      have hd := d.renders_of_isPlain m h
      exact ⟨hd, hd⟩
  | .renderable identity rendition =>
      simp only [Value.isPlainEntry, Bool.and_eq_true] at h
      obtain ⟨s, hs⟩ := Option.isSome_iff_exists.mp h.2
      exact ⟨Value.rendersInSource_of_isAtom rfl h.1, Value.rendersInEvent_of_text? rfl hs⟩
  | .null | .boolean _ | .integer _ | .float _ | .text _ | .bytes _ | .list _ | .tuple _
  | .mapping _ _ | .any | .unset | .member _ | .basicType _ | .function _ _ | .token _
  | .placeholder _ | .feature _ _ _ | .classType _ _ | .object _ _ _ _ =>
      simp only [Value.isPlainEntry, Bool.and_eq_true, Option.isNone_iff_eq_none] at h
      exact Value.renders_of_isAtom h.1 h.2.1 rfl

theorem renders_of_plainEntries (m : Interpretation) (entries : List Value)
    (h : plainEntries entries = true) :
    ∀ entry ∈ entries, entry.RendersInSource m ∧ entry.RendersInEvent m := by
  match entries with
  | [] => simp
  | entry :: rest =>
      simp only [plainEntries, Bool.and_eq_true] at h
      rw [List.forall_mem_cons]
      exact ⟨entry.renders_of_isPlainEntry m h.1, renders_of_plainEntries m rest h.2⟩

end

/-- What a plain entry names as its destination is an atom. -/
theorem Value.namedDestination_of_isPlainEntry {entry : Value} (h : entry.isPlainEntry = true) :
    ∃ destination, entry.namedDestination m = pure destination ∧ destination.isAtom = true := by
  have hread : entry.namedDestination m =
      pure ((entry.attr? "target").getD (.placeholder .newState)) := by
    rw [namedDestination, read?_of_unshared (shared?_of_isPlainEntry h), pure_bind]
  refine ⟨_, hread, ?_⟩
  cases entry with
  | declaration d =>
      cases d with
      | toEntry destination event =>
          simp only [isPlainEntry, Declaration.isPlain, Bool.and_eq_true] at h
          exact h.1
      | _ => rfl
  | renderable _ _ => rfl
  | _ =>
      simp only [isPlainEntry, Bool.and_eq_true, Option.isNone_iff_eq_none] at h
      rw [h.2.2]
      rfl

theorem Declaration.answers_textQuestions {d : Declaration} (h : d.isPlain = true) :
    (askAll m d.textQuestions).result = .ok () := by
  obtain ⟨text, htext⟩ := d.renders_of_isPlain m h
  exact (d.puts_render m).answered htext

theorem Declaration.isPlain_withGuard {source event function : Value}
    (hsource : source.isAtom = true) (hevent : event.isAtom = true)
    (hfunction : function.isAtom = true) :
    (Declaration.withGuard source event function).isPlain = true := by
  have hlabel : (if event.isNull then Value.placeholder .newEvent else event).isAtom = true := by
    split
    · rfl
    · exact hevent
  have hblank : (Value.placeholder .newState).isAtom = true := rfl
  have hnull : Value.null.isAtom = true := rfl
  simp [withGuard, isPlain, plainEntries, Value.isPlainEntry, hlabel, hsource, hfunction, hblank,
    hnull]

theorem Declaration.isPlain_flattened {event guard source : Value} {destinations : List Value}
    (hevent : event.isAtom = true) (hguard : guard.isAtom = true)
    (hsource : source.isAtom = true) (hdestinations : ∀ d ∈ destinations, d.isAtom = true) :
    (Declaration.flattened event guard source destinations).isPlain = true := by
  have hentries : plainEntries (destinations.map fun destination =>
      .declaration (.simple source destination .null)) = true := by
    rw [plainEntries_iff, List.forall_mem_map]
    intro destination hmem
    have hnull : Value.null.isAtom = true := rfl
    simp [Value.isPlainEntry, isPlain, hsource, hdestinations destination hmem, hnull]
  simp [flattened, isPlain, hevent, hguard, hentries]

/-- Questions are answered when each row of them is. -/
theorem answers_append {first second : List Question}
    (hfirst : (askAll m first).result = .ok ()) (hsecond : (askAll m second).result = .ok ()) :
    (askAll m (first ++ second)).result = .ok () := by
  rw [askAll_append, Act.result_seq_eq_ok_iff]
  exact ⟨hfirst, hsecond⟩

theorem answers_ite {asked : Bool} {questions : List Question}
    (h : (askAll m questions).result = .ok ()) :
    (askAll m (if asked then questions else [])).result = .ok () := by
  cases asked with
  | true => exact h
  | false => rfl

theorem answers_event {event : Value} (h : event.isAtom = true) :
    (askAll m (eventQuestions m event)).result = .ok () := by
  apply answers_append
  · rw [result_askAll_singleton]
    exact Act.result_forget_eq_ok_iff.mpr (Value.exists_isEvent_of_isAtom h)
  · split
    · rfl
    · rw [result_askAll_singleton]
      apply Act.result_forget_eq_ok_iff.mpr
      rw [Value.write_of_isAtom m h]
      exact ⟨_, rfl⟩

/-- What no class has a say in answers what it is, as often as it is asked. -/
theorem answers_kind {v : Value} (h : ∀ name, v.shared? name = none) :
    (askAll m [.kind v]).result = .ok () ∧ (askAll m [.kind v, .kind v]).result = .ok () := by
  have hput : (Question.put m (.kind v)).result = .ok () := by
    rw [Question.put, Value.countsAs_of_unshared h]
    rfl
  simp [result_askAll_eq_ok_iff, hput]

theorem answers_destination {source event destination : Value} (hsource : source.isAtom = true)
    (hevent : event.isAtom = true) (hdestination : destination.isAtom = true) :
    (askAll m (destinationQuestions source event destination)).result = .ok () := by
  have hadvice := Declaration.isPlain_withGuard hsource hevent hdestination
  apply answers_append
  · exact answers_ite (answers_kind (Value.shared?_of_isAtom hdestination)).2
  · exact answers_ite (Declaration.answers_textQuestions hadvice)

theorem answers_toEntry {source entry : Value} (hsource : source.isAtom = true)
    (hentry : entry.isPlainEntry = true) :
    (askAll m (toEntryQuestions m source entry)).result = .ok () := by
  unfold toEntryQuestions
  split
  · simp only [Value.isPlainEntry, Declaration.isPlain, Bool.and_eq_true] at hentry
    apply answers_append (answers_event hentry.2)
    exact answers_ite (answers_destination hsource hentry.2 hentry.1)
  · exact (answers_kind (Value.shared?_of_isPlainEntry hentry)).1

/-- A nested block is answered with entries that lead where its own entries do, which are as
plain as those. -/
theorem answers_nestedBlock {event guard source : Value} {entries : List Value}
    (hevent : event.isAtom = true) (hguard : guard.isAtom = true)
    (hsource : source.isAtom = true) (hentries : plainEntries entries = true) :
    (askAll m (entries.map .destination ++
      (Declaration.flattened event guard source (entries.map fun entry =>
        (entry.namedDestination m).resultD (.placeholder .newState))).textQuestions)).result =
      .ok () := by
  rw [plainEntries_iff] at hentries
  apply answers_append
  · rw [result_askAll_eq_ok_iff, List.forall_mem_map]
    intro entry hentry
    obtain ⟨destination, hnamed, _⟩ := Value.namedDestination_of_isPlainEntry (m := m)
      (hentries entry hentry)
    rw [Question.put, hnamed]
    rfl
  · apply Declaration.answers_textQuestions
    apply Declaration.isPlain_flattened hevent hguard hsource
    rw [List.forall_mem_map]
    intro entry hentry
    obtain ⟨destination, hnamed, hatom⟩ := Value.namedDestination_of_isPlainEntry (m := m)
      (hentries entry hentry)
    rw [hnamed]
    exact hatom

theorem answers_fromEntry {event guard entry : Value} (hevent : event.isAtom = true)
    (hguard : guard.isAtom = true) (hentry : entry.isPlainEntry = true) :
    (askAll m (fromEntryQuestions m event guard entry)).result = .ok () := by
  unfold fromEntryQuestions
  split
  · next source destination ownEvent =>
      simp only [Value.isPlainEntry, Declaration.isPlain, Bool.and_eq_true] at hentry
      split
      · rfl
      · split
        · exact answers_ite (answers_kind (Value.shared?_of_isAtom hentry.2.1)).2
        · split
          · rfl
          · exact answers_destination hentry.1 hevent hentry.2.1
  · next source destination ownEvent entries =>
      simp only [Value.isPlainEntry, Declaration.isPlain, Bool.and_eq_true] at hentry
      exact answers_nestedBlock hevent hguard hentry.1 hentry.2.2.2
  · exact (answers_kind (Value.shared?_of_isPlainEntry hentry)).1

theorem answers_questionsUpTo {sound : Value → Bool} {questions : Value → List Question}
    {entries : List Value} (h : ∀ entry ∈ entries, (askAll m (questions entry)).result = .ok ()) :
    (askAll m (questionsUpTo sound questions entries)).result = .ok () := by
  induction entries with
  | nil => rfl
  | cons entry rest ih =>
      obtain ⟨hentry, hrest⟩ := List.forall_mem_cons.mp h
      exact answers_append hentry (answers_ite (ih hrest))

/-- A plain declaration has an answer to each of its doubts. -/
theorem Declaration.answers_doubts {d : Declaration} (h : d.isPlain = true) :
    (askAll m (d.doubts m)).result = .ok () := by
  cases d with
  | simple source destination event =>
      simp only [isPlain, Bool.and_eq_true] at h
      rw [doubts]
      split
      · rfl
      · apply answers_append (answers_event h.2.2)
        exact answers_ite (answers_destination h.1 h.2.2 h.2.1)
  | sourceBlock source destination event entries =>
      simp only [isPlain, Bool.and_eq_true, plainEntries_iff] at h
      rw [doubts]
      split
      · rfl
      · apply answers_questionsUpTo
        intro entry hentry
        exact answers_toEntry h.1 (h.2.2.2 entry hentry)
  | toEntry destination event => rfl
  | eventBlock event entries guard =>
      simp only [isPlain, Bool.and_eq_true, plainEntries_iff] at h
      apply answers_append (answers_event h.1)
      apply answers_ite
      apply answers_ite
      apply answers_questionsUpTo
      intro entry hentry
      exact answers_fromEntry h.1 h.2.2 (h.2.1 entry hentry)

theorem Value.exists_quote_of_isPlain {v : Value} (h : v.isPlain = true) :
    ∃ text, (v.quote m).result = .ok text := by
  have hatom (v : Value) (h : v.isAtom = true) : ∃ text, (v.write m).result = .ok text := by
    rw [write_of_isAtom m h]
    exact ⟨_, rfl⟩
  cases v with
  | declaration d =>
      cases d with
      | toEntry destination event =>
          simp only [isPlain, Declaration.isPlain, Bool.and_eq_true] at h
          have hdestination := write_of_isAtom m h.1
          have hevent := write_of_isAtom m h.2
          rw [quote, Declaration.quote, write, Declaration.write, hdestination, hevent]
          exact ⟨_, rfl⟩
      | _ => exact Declaration.renders_of_isPlain m _ h
  | _ => exact hatom _ h

theorem Value.answers_doubts {v : Value} (h : v.isPlain = true) :
    (askAll m (v.doubts m)).result = .ok () := by
  have hkind (v : Value) (h : v.isAtom = true) : (askAll m [.kind v, .kind v]).result = .ok () :=
    (answers_kind (shared?_of_isAtom h)).2
  cases v with
  | declaration d => exact Declaration.answers_doubts h
  | _ => exact hkind _ h

/-- A plain value answers all that is asked of it. -/
theorem Value.answers_of_isPlain {v : Value} (h : v.isPlain = true) :
    (askAll m (v.questions m)).result = .ok () := by
  obtain ⟨text, htext⟩ := Value.exists_quote_of_isPlain (m := m) h
  rw [result_askAll_questions htext]
  exact answers_doubts h

theorem Value.entryWithin_of_isPlainEntry {entry : Value} (h : entry.isPlainEntry = true) :
    entry.EntryWithin fun v => v.isAtom = true := by
  unfold EntryWithin
  split
  all_goals simp_all [isPlainEntry, Declaration.isPlain]

/-- What a plain value stands for is made of atoms. -/
theorem Value.steps_within_of_isPlain {v : Value} (h : v.isPlain = true) :
    ∀ step ∈ v.steps, step.Within fun v => v.isAtom = true := by
  cases v with
  | declaration d =>
      apply Declaration.Within.steps
      cases d with
      | simple source destination event =>
          simpa [isPlain, Declaration.isPlain, Declaration.Within] using h
      | sourceBlock source destination event entries =>
          simp only [isPlain, Declaration.isPlain, Bool.and_eq_true, plainEntries_iff] at h
          exact ⟨h.1, fun entry hentry => entryWithin_of_isPlainEntry (h.2.2.2 entry hentry)⟩
      | toEntry destination event => trivial
      | eventBlock event entries guard =>
          simp only [isPlain, Declaration.isPlain, Bool.and_eq_true, plainEntries_iff] at h
          exact ⟨h.1, h.2.2, fun entry hentry => entryWithin_of_isPlainEntry (h.2.1 entry hentry)⟩
  | _ =>
      intro step hstep
      cases hstep

end StateRules
