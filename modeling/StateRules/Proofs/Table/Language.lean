import StateRules.Proofs.Declaration.Plain
import StateRules.Proofs.Table.Refusal
import StateRules.Proofs.Table.Wildcard

/-!
The language that a table accepts.

A value that can be quoted is accepted exactly when it is sound, provided that its rules get in
(`Table.AdmitsSteps`). One that is not sound is refused, and the table stays as it was: with the
unsupported kind where the first that is to object to is a shape that is no longer supported,
and as invalid otherwise, quoting the value in both cases. To say so, some of its parts may have
to be asked for more, and only where one of those does not answer does something else come of it
(`accepted_language`). For plain values none of this can happen.

The sound values are those of `Declaration.IsSound`, and `Declaration.IsOutdated` says which
objections are to a shape that is no longer supported.
-/

namespace StateRules

/-- Whether a fault is of the kind that a value is refused with for what it is. -/
def Value.Foretells (m : Interpretation) (v : Value) (fault : Fault) : Prop :=
  (v.IsOutdated m → fault.kind = .unsupportedSyntax) ∧
    (¬v.IsOutdated m → fault.kind = .invalidDeclaration)

/-- Whether a table takes a value for what it is: in if it is sound, and if not, refused with the
kind that this calls for. -/
structure Table.Judges (m : Interpretation) (table : Table) (v : Value) : Prop where
  accepts : (table.add m v).act.result = .ok () ↔ v.IsSound m
  refuses : ¬v.IsSound m →
    ∃ fault, (table.add m v).act.result = .error fault ∧ v.Foretells m fault

variable {m : Interpretation} {table : Table} {v : Value}

theorem Refuses.foretells {text : String} {fault : Fault}
    (h : Refuses text (v.IsOutdated m) fault) : v.Foretells m fault := by
  constructor
  · intro houtdated
    obtain ⟨reason, suggestion, rfl⟩ := h.unsupported houtdated
    rfl
  · intro houtdated
    obtain ⟨reason, rfl⟩ := h.invalid houtdated
    rfl

/-- What is sound can be quoted exactly if it can be rendered. -/
theorem Value.renders_of_quote {text : String} (h : (v.quote m).result = .ok text)
    (hsound : v.IsSound m) : v.Renders m := by
  cases v with
  | declaration d =>
      cases d with
      | toEntry destination event => exact hsound.elim
      | _ => exact ⟨text, h⟩
  | _ => exact hsound.elim

theorem Table.result_add_of_quote {text : String} (h : (v.quote m).result = .ok text) :
    (table.add m v).act.result = .ok () ↔ v.IsSound m ∧ table.AdmitsSteps m v.steps := by
  rw [result_add_eq_ok_iff, Value.accepted_iff]
  constructor
  · rintro ⟨⟨_, hsound⟩, hsteps⟩
    exact ⟨hsound, hsteps⟩
  · rintro ⟨hsound, hsteps⟩
    exact ⟨⟨Value.renders_of_quote h hsound, hsound⟩, hsteps⟩

/-- What is refused changes nothing. -/
theorem Table.add_of_check_error {fault : Fault} (h : (v.check m).result = .error fault) :
    (table.add m v).act.result = .error fault ∧ (table.add m v).table = table := by
  have hadd := add_agrees_of_refused h table
  exact ⟨hadd.result, hadd.table⟩

/-- What comes of a value that is not sound and whose doubts are answered. -/
theorem Value.check_of_answers {text : String} (h : (v.quote m).result = .ok text)
    (hsound : ¬v.IsSound m) (hdoubts : (askAll m (v.doubts m)).result = .ok ()) :
    ∃ fault, (v.check m).result = .error fault ∧ Refuses text (v.IsOutdated m) fault := by
  have hquestions : (askAll m (v.questions m)).result = .ok () := by
    rw [result_askAll_questions h, hdoubts]
  obtain ⟨fault, hfault, other, hother, hrefuses⟩ :=
    (v.puts_check.comes hquestions).refuses hsound
  obtain rfl : text = other := by simpa using h.symm.trans hother
  exact ⟨fault, hfault, hrefuses⟩

/-- A doubt that is not answered ends the check. -/
theorem Value.check_of_doubt {text : String} (h : (v.quote m).result = .ok text) {fault : Fault}
    (hdoubt : (askAll m (v.doubts m)).result = .error fault) :
    (v.check m).result = .error fault := by
  apply v.puts_check.fails
  rw [result_askAll_questions h, hdoubt]

theorem Table.judges_iff {text : String} (h : (v.quote m).result = .ok text) :
    table.Judges m v ↔
      (v.IsSound m → table.AdmitsSteps m v.steps) ∧
        (¬v.IsSound m → (askAll m (v.doubts m)).FailsOnly (v.Foretells m)) := by
  have hok : (table.add m v).act.result = .ok () ↔ v.IsSound m ∧ table.AdmitsSteps m v.steps :=
    result_add_of_quote h
  constructor
  · intro hjudges
    refine ⟨fun hsound => (hok.mp (hjudges.accepts.mpr hsound)).2, ?_⟩
    intro hsound fault hdoubt
    obtain ⟨other, hother, hforetold⟩ := hjudges.refuses hsound
    have hadd : (table.add m v).act.result = .error fault :=
      (add_of_check_error (Value.check_of_doubt h hdoubt)).1
    obtain rfl : fault = other := by simpa using hadd.symm.trans hother
    exact hforetold
  · rintro ⟨hadmits, hdoubts⟩
    constructor
    · rw [hok]
      exact ⟨fun hboth => hboth.1, fun hsound => ⟨hsound, hadmits hsound⟩⟩
    · intro hsound
      -- A doubt that is not answered is foretold by assumption, and any other refusal by itself.
      cases hall : (askAll m (v.doubts m)).result with
      | error fault =>
          have hadd : (table.add m v).act.result = .error fault :=
            (add_of_check_error (Value.check_of_doubt h hall)).1
          exact ⟨fault, hadd, hdoubts hsound fault hall⟩
      | ok _ =>
          obtain ⟨fault, hcheck, hrefuses⟩ := Value.check_of_answers h hsound hall
          exact ⟨fault, (add_of_check_error hcheck).1, hrefuses.foretells⟩

theorem Table.judges_of_isPlain (hv : v.isPlain = true)
    (htable : table.Within fun v => v.isAtom = true) : table.Judges m v := by
  obtain ⟨text, htext⟩ := Value.exists_quote_of_isPlain (m := m) hv
  rw [judges_iff htext]
  constructor
  · intro hsound
    have hadmits := admits_of_settled (settled_isAtom m) htable (v.steps_within_of_isPlain hv)
    exact hadmits (Value.accepted_iff.mpr ⟨Value.renders_of_quote htext hsound, hsound⟩)
  · intro _ fault hfault
    cases (Value.answers_doubts hv).symm.trans hfault

/-- A value that can be quoted gets into a table exactly when it is sound and its rules get in.
If it is not sound, the table stays as it is. The value is then refused for the first that is to
object to in it, as unsupported if this is a function as a destination or a nested block, and
else as invalid, with the text it is quoted by; unless a doubt about it is not answered, when
this is what adding it fails with.

So a table takes a value for what it is exactly if its rules get in where it is sound, and no
doubt comes back with another kind of fault where it is not. A table of atoms takes every plain
value for what it is. -/
theorem accepted_language (m : Interpretation) (table : Table) (v : Value) :
    (∀ text, (v.quote m).result = .ok text →
      ((table.add m v).act.result = .ok () ↔ v.IsSound m ∧ table.AdmitsSteps m v.steps) ∧
      (¬v.IsSound m →
        (table.add m v).table = table ∧
        ((askAll m (v.doubts m)).result = .ok () →
          ∃ fault, (table.add m v).act.result = .error fault ∧
            Refuses text (v.IsOutdated m) fault) ∧
        ∀ fault, (askAll m (v.doubts m)).result = .error fault →
          (table.add m v).act.result = .error fault) ∧
      (table.Judges m v ↔
        (v.IsSound m → table.AdmitsSteps m v.steps) ∧
          (¬v.IsSound m → (askAll m (v.doubts m)).FailsOnly (v.Foretells m)))) ∧
    (v.isPlain = true → table.Within (fun v => v.isAtom = true) → table.Judges m v) := by
  refine ⟨fun text htext => ⟨Table.result_add_of_quote htext, fun hsound => ?_,
    Table.judges_iff htext⟩, Table.judges_of_isPlain⟩
  refine ⟨?_, fun hall => ?_, fun fault hfault => ?_⟩
  · cases hall : (askAll m (v.doubts m)).result with
    | error fault => exact (Table.add_of_check_error (Value.check_of_doubt htext hall)).2
    | ok _ =>
        obtain ⟨fault, hcheck, _⟩ := Value.check_of_answers htext hsound hall
        exact (Table.add_of_check_error hcheck).2
  · obtain ⟨fault, hcheck, hrefuses⟩ := Value.check_of_answers htext hsound hall
    exact ⟨fault, (Table.add_of_check_error hcheck).1, hrefuses⟩
  · exact (Table.add_of_check_error (Value.check_of_doubt htext hfault)).1

/-- A payment of late orders as a block inside the block of its event. -/
def nestedPayment : Value :=
  .declaration (.eventBlock (.text "pay")
    [.declaration (.simple (.text "new") (.text "paid") .null),
      .declaration (.sourceBlock (.text "late") .unset .null
        [.declaration (.toEntry (.text "paid") .null)])] .null)

/-- The nested payment as it is quoted. -/
def nestedPaymentText : String :=
  stacked ["event('pay', [", "    from_('new', to='paid'),", "    from_('late', [",
    "        to('paid'),", "    ]),", "])"]

/-- The nested block is refused as unsupported, after the sound entry before it, and the refusal
quotes the whole. -/
theorem accepted_language_nestedPayment :
    ¬nestedPayment.IsSound .exhausted ∧ nestedPayment.IsOutdated .exhausted ∧
      Table.empty.Judges .exhausted nestedPayment ∧
      (Table.empty.add .exhausted nestedPayment).table = .empty ∧
      ∃ fault, (Table.empty.add .exhausted nestedPayment).act.result = .error fault ∧
        Refuses nestedPaymentText (nestedPayment.IsOutdated .exhausted) fault := by
  have hquote : (nestedPayment.quote .exhausted).result = .ok nestedPaymentText := rfl
  have hsound : ¬nestedPayment.IsSound .exhausted := by
    rintro ⟨_, _, hentries⟩
    obtain ⟨_, _, hentry, _⟩ := hentries _ (List.mem_cons_of_mem _ List.mem_cons_self)
    cases hentry
  have houtdated : nestedPayment.IsOutdated .exhausted := by
    refine ⟨rfl, .inl rfl, _, IsFirst.cons_iff.mpr (.inr ⟨?_, IsFirst.cons_iff.mpr (.inl rfl)⟩),
      .inr ⟨_, _, _, _, rfl⟩⟩
    exact ⟨_, _, rfl, fun _ => rfl, rfl, rfl⟩
  obtain ⟨hquoted, hplain⟩ := accepted_language .exhausted .empty nestedPayment
  obtain ⟨_, hrefused, _⟩ := hquoted _ hquote
  obtain ⟨htable, hanswered, _⟩ := hrefused hsound
  exact ⟨hsound, houtdated, hplain rfl (Table.within_empty _), htable, hanswered rfl⟩

/-- What is sound need not get in, and what is not need not be refused, where something that is
asked has no answer. A leap from one draft to another is sound and can be quoted, but stops halfway.
A block that leads from the stage to a function is to be replaced by an event block that cannot be
rendered. -/
theorem accepted_language_fails_of_unanswered :
    (¬∀ (m : Interpretation) (table : Table) (v : Value) (text : String), table.Reachable m →
      (v.quote m).result = .ok text →
        ((table.add m v).act.result = .ok () ↔ v.IsSound m)) ∧
    ¬∀ (m : Interpretation) (table : Table) (v : Value) (text : String), table.Reachable m →
      (v.quote m).result = .ok text → ¬v.IsSound m →
        ∃ fault, (table.add m v).act.result = .error fault ∧ v.Foretells m fault := by
  constructor
  · intro hall
    let leap : Value := .declaration (.simple (draft 0 "x") (draft 1 "y") (.text "go"))
    have hsound : leap.IsSound .exhausted := ⟨rfl, rfl, rfl, rfl⟩
    have hadd := (hall .exhausted .empty leap _ .empty rfl).mpr hsound
    cases hadd
  · intro hall
    let block : Value := .declaration (.sourceBlock stage .unset .null
      [.declaration (.toEntry orderGuard (.text "go"))])
    have hsound : ¬block.IsSound .exhausted := by
      rintro ⟨_, _, hentries⟩
      obtain ⟨_, _, hentry, _, hdestination⟩ := hentries _ List.mem_cons_self
      cases hentry
      cases hdestination.known
    obtain ⟨fault, hadd, hforetold⟩ := hall .exhausted .empty block _ .empty rfl hsound
    obtain rfl : Fault.notJoined 0 "int" = fault := Except.error.inj hadd
    by_cases houtdated : block.IsOutdated .exhausted
    · cases hforetold.1 houtdated
    · cases hforetold.2 houtdated

end StateRules
