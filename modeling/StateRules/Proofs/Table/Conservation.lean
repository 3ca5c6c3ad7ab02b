import StateRules.Proofs.Table.Growth
import StateRules.Proofs.Table.Search
import StateRules.Guard

/-!
What more declarations leave as it was.

A table only ever grows at its ends: rules, states and events stay where they are
(`Table.Grows`), whatever is added and whether or not that gets through. A search goes through the
rules in order, so it asks the old rules first, and unless all of them decline it is over before
it comes to a new one (`Table.search_of_grows`). More declarations therefore decide nothing anew
that was decided before, and what they do decide is theirs
(`Table.Conserves`, `conserves_of_build`).

None of this depends on how the declarations come to a builder. They may be added one by one or
several at a time, out of any value that can be taken apart, and tables may be finished in between
(`Feeding`, `Table.feed`). The builder ends up with the table of all that it was fed, and each
table that was finished on the way is the one of what was fed until then
(`result_feed_of_hands`).
-/

namespace StateRules

variable {m : Interpretation}

/-- A catalog only grows at its end. -/
theorem prefix_enterAll (m : Interpretation) (known vs : List Value) :
    known <+: (enterAll m known vs).1 := by
  induction vs generalizing known with
  | nil => exact List.prefix_refl known
  | cons v rest ih =>
      cases hknown : (isKnown m known v).result with
      | error fault =>
          exact (enterAll_cons_of_error hknown rest).1.symm ▸ List.prefix_refl known
      | ok isThere =>
          rw [(enterAll_cons_of_ok hknown rest).1]
          cases isThere with
          | true => exact ih known
          | false => exact (List.prefix_append known [v]).trans (ih (known ++ [v]))

namespace Table

/-- Whether a table comes of another by growing at the ends. -/
structure Grows (table grown : Table) : Prop where
  rules : table.rules <+: grown.rules
  states : table.states <+: grown.states
  events : table.events <+: grown.events

theorem Grows.refl (table : Table) : table.Grows table :=
  ⟨List.prefix_refl _, List.prefix_refl _, List.prefix_refl _⟩

theorem Grows.trans {one two three : Table} (h : one.Grows two) (h' : two.Grows three) :
    one.Grows three :=
  ⟨h.rules.trans h'.rules, h.states.trans h'.states, h.events.trans h'.events⟩

theorem grows_enter (m : Interpretation) (table : Table) (rule : Rule) :
    table.Grows (table.enter m rule).1 := by
  constructor
  · rw [rules_enter]
    exact List.prefix_append _ _
  · rw [states_enter]
    exact prefix_enterAll m _ _
  · unfold enter
    dsimp only
    split
    · exact List.prefix_refl _
    · exact prefix_enterAll m _ _

/-- Steps let a table grow at its ends, also when they come to a stop. -/
theorem grows_takeSteps (m : Interpretation) (table : Table) (steps : List Step) :
    table.Grows (table.takeSteps m steps).table :=
  takeSteps_keeps (P := table.Grows) (Q := fun _ => True)
    (fun other rule h _ => h.trans (grows_enter m other rule)) (fun _ _ _ _ _ _ => trivial)
    (.refl table)

/-- What is known in a phase is known in the end, in the same places. -/
theorem mem_phases_of_ok {table : Table} {steps : List Step}
    (h : (table.takeSteps m steps).act.result = .ok ()) :
    ∀ phase ∈ table.phases m steps,
      phase.1 ∈ steps ∧ phase.2 <+: (table.takeSteps m steps).table.states := by
  induction steps generalizing table with
  | nil =>
      intro phase hphase
      cases hphase
  | cons step rest ih =>
      intro phase hphase
      have hgrows := grows_takeSteps m table (step :: rest)
      rw [takeSteps] at h hgrows ⊢
      obtain ⟨hstep, hrest⟩ := Extension.result_andThen_eq_ok_iff.mp h
      rw [Extension.andThen_of_ok hstep] at hgrows ⊢
      rcases List.mem_cons.mp hphase with rfl | hlater
      · exact ⟨List.mem_cons_self, hgrows.states⟩
      · obtain ⟨hmem, hknown⟩ := ih hrest phase hlater
        exact ⟨List.mem_cons_of_mem step hmem, hknown⟩

section Search

variable {state event : Value}

/-- A search that is over before the rules are through does not come to those behind them. -/
theorem searchFrom_append {rules : List Rule} {i : Nat}
    (h : (searchFrom m state event i rules).result ≠ .ok none) (more : List Rule) :
    searchFrom m state event i (rules ++ more) = searchFrom m state event i rules := by
  induction rules generalizing i with
  | nil => exact absurd rfl h
  | cons rule rest ih =>
      rw [List.cons_append, searchFrom, searchFrom]
      rw [searchFrom] at h
      cases happlies : (rule.applies m state event).result with
      | error fault => rw [Act.bind_of_error happlies, Act.bind_of_error happlies]
      | ok applies =>
          refine Act.bind_congr_of_ok happlies ?_
          cases applies with
          | true => rfl
          | false =>
              rw [Act.result_bind_of_ok happlies] at h
              exact ih h

variable {table grown : Table} (hgrows : table.Grows grown)
  (h : (table.search m state event).result ≠ .ok none)
include hgrows h

theorem searchIndex_of_grows :
    grown.searchIndex m state event = table.searchIndex m state event := by
  obtain ⟨more, hmore⟩ := hgrows.rules
  rw [searchIndex, searchIndex, ← hmore]
  refine searchFrom_append (fun hnone => h ?_) more
  rw [result_search_eq_ok_none_iff, ← result_searchFrom_eq_ok_none_iff (i := 0)]
  exact hnone

/-- Unless nothing was found before, more rules change nothing about a search. -/
theorem search_of_grows : grown.search m state event = table.search m state event := by
  have hindex := searchIndex_of_grows hgrows h
  rw [search, search, hindex]
  cases hfound : (table.searchIndex m state event).result with
  | error fault => rw [Act.bind_of_error hfound, Act.bind_of_error hfound]
  | ok found =>
      refine Act.bind_congr_of_ok hfound ?_
      cases found with
      | none => rfl
      | some i =>
          obtain ⟨before, rule, after, hrules, rfl, _⟩ :=
            result_searchFrom_eq_ok_some_iff.mp hfound
          obtain ⟨more, hmore⟩ := hgrows.rules
          rw [Option.bind_some, Option.bind_some, ← hmore, hrules]
          simp

end Search

/-- Unless nothing was found for its state before, all that happens to an entity is the same. -/
theorem transit_of_grows {table grown : Table} (hgrows : table.Grows grown) {accessor : Accessor}
    {entity event : Value}
    (h : ∀ state, (accessor.get m entity).result = .ok state →
      (table.search m state event).result ≠ .ok none) :
    transit m accessor grown entity event = transit m accessor table entity event := by
  rw [transit, transit]
  cases hstate : (accessor.get m entity).result with
  | error fault => rw [Act.bind_of_error hstate, Act.bind_of_error hstate]
  | ok state =>
      refine Act.bind_congr_of_ok hstate ?_
      rw [search_of_grows hgrows (h state hstate)]

/-- Whether a rule is one that a declaration stands for, when some of what a table knows in the end
is known. -/
def Contributes (table : Table) (declaration : Value) (rule : Rule) : Prop :=
  ∃ step ∈ declaration.steps, ∃ known, known <+: table.states ∧ rule ∈ step.rules known

/-- Whether all that a table decides is decided alike by what it has grown to with more
declarations. What it finds is found in the same place; where it finds a rule, or fails to tell, an
entity fares the same, down to the calls of guards and the records; and a rule that is found where
it finds none is behind its own and contributed by one of these declarations. -/
structure Conserves (m : Interpretation) (table : Table) (more : List Value) (grown : Table) :
    Prop where
  grows : table.Grows grown
  decided : ∀ state event, (table.search m state event).result ≠ .ok none →
    grown.searchIndex m state event = table.searchIndex m state event ∧
      grown.search m state event = table.search m state event
  moved : ∀ (accessor : Accessor) (entity event : Value),
    (∀ state, (accessor.get m entity).result = .ok state →
      (table.search m state event).result ≠ .ok none) →
        transit m accessor grown entity event = transit m accessor table entity event
  undecided : ∀ state event rule, (table.search m state event).result = .ok none →
    (grown.search m state event).result = .ok (some rule) →
      (∃ i, table.rules.length ≤ i ∧ grown.rules[i]? = some rule ∧
        (grown.searchIndex m state event).result = .ok (some i)) ∧
      ∃ declaration ∈ more, grown.Contributes declaration rule

/-- The place where a rule is found is none of those that decline. -/
theorem length_le_of_declines {table grown : Table} (hgrows : table.Grows grown)
    {state event : Value} (hnone : (table.search m state event).result = .ok none) {i : Nat}
    (hfound : (grown.searchIndex m state event).result = .ok (some i)) :
    table.rules.length ≤ i := by
  obtain ⟨more, hmore⟩ := hgrows.rules
  obtain ⟨before, rule, after, hrules, rfl, _, happlies⟩ :=
    result_searchFrom_eq_ok_some_iff.mp hfound
  by_contra hlt
  have hmem : rule ∈ table.rules := by
    have hat : grown.rules[before.length]? = some rule := by simp [hrules]
    rw [← hmore, List.getElem?_append_left (by omega)] at hat
    exact List.mem_of_getElem? hat
  have hdeclines := result_search_eq_ok_none_iff.mp hnone rule hmem
  cases hdeclines.symm.trans happlies

/-- Steps that get in conserve what a table decides. -/
theorem conserves_of_takeSteps {table : Table} {more : List Value}
    (h : (table.takeSteps m (more.flatMap Value.steps)).act.result = .ok ()) :
    table.Conserves m more (table.takeSteps m (more.flatMap Value.steps)).table := by
  have hgrows := grows_takeSteps m table (more.flatMap Value.steps)
  refine ⟨hgrows, ?_, fun _ _ _ => transit_of_grows hgrows, ?_⟩
  · intro state event hfound
    exact ⟨searchIndex_of_grows hgrows hfound, search_of_grows hgrows hfound⟩
  · intro state event rule hnone hrule
    obtain ⟨found, hfound, hat⟩ := Act.result_bind_eq_ok_iff.mp hrule
    cases found with
    | none => cases hat
    | some i =>
        have hat : (table.takeSteps m (more.flatMap Value.steps)).table.rules[i]? = some rule :=
          Except.ok.inj hat
        have hle := length_le_of_declines hgrows hnone hfound
        refine ⟨⟨i, hle, hat, hfound⟩, ?_⟩
        -- Behind the rules of the table stand those of the phases.
        rw [rules_takeSteps_of_ok h, List.getElem?_append_right hle] at hat
        obtain ⟨phase, hphase, hmem⟩ := List.mem_flatMap.mp (List.mem_of_getElem? hat)
        obtain ⟨hstep, hknown⟩ := mem_phases_of_ok h phase hphase
        obtain ⟨declaration, hdeclaration, hsteps⟩ := List.mem_flatMap.mp hstep
        exact ⟨declaration, hdeclaration, phase.1, hsteps, phase.2, hknown, hmem⟩

end Table

/-- Declarations that are built with more behind them are built without these, into a table whose
decisions are all conserved. -/
theorem conserves_of_build {declarations more : List Value} {grown : Table}
    (h : (build m (declarations ++ more)).result = .ok grown) :
    ∃ table, (build m declarations).result = .ok table ∧ table.Conserves m more grown := by
  obtain ⟨haccepted, hok, rfl⟩ := build_eq_ok_iff.mp h
  rw [List.flatMap_append, Table.takeSteps_append] at hok ⊢
  obtain ⟨hbefore, hmore⟩ := Extension.result_andThen_eq_ok_iff.mp hok
  rw [Extension.andThen_of_ok hbefore]
  refine ⟨_, build_eq_ok_iff.mpr ⟨fun declaration hmem => ?_, hbefore, rfl⟩, ?_⟩
  · exact haccepted declaration (List.mem_append_left more hmem)
  · exact Table.conserves_of_takeSteps hmore

/-- A way to use a builder: a declaration is added, the table is extended by the declarations that a
value is taken apart into, or it is finished, which leaves the builder as it is. -/
inductive Feeding where
  | add (declaration : Value)
  | extend (declarations : Value)
  | build

/-- The tables that are finished while a builder is used, and the one that it holds in the end. -/
def Table.feed (m : Interpretation) (table : Table) : List Feeding → Act (List Table × Table)
  | [] => pure ([], table)
  | .add declaration :: rest => do
      let extension := table.add m declaration
      extension.act
      extension.table.feed m rest
  | .extend declarations :: rest => do
      let extension := table.extendBy m declarations
      extension.act
      extension.table.feed m rest
  | .build :: rest => do
      let built ← (⟨table, pure ()⟩ : Extension).finish
      let (later, last) ← table.feed m rest
      pure (built :: later, last)

/-- Whether a value can be taken apart into some items. -/
def Value.Supplies (m : Interpretation) (v : Value) (items : List Value) : Prop :=
  ∃ source, (v.supply m).result = .ok source ∧ source.toList.result = .ok items

/-- Whether a builder is fed some declarations all in all, and which of them by the time of each
table that is finished. -/
inductive Hands (m : Interpretation) : List Feeding → List Value → List (List Value) → Prop where
  | done : Hands m [] [] []
  | add {rest : List Feeding} {declarations : List Value} {stages : List (List Value)}
      (declaration : Value) : Hands m rest declarations stages →
        Hands m (.add declaration :: rest) (declaration :: declarations)
          (stages.map (declaration :: ·))
  | extend {rest : List Feeding} {declarations items : List Value} {stages : List (List Value)}
      {v : Value} : v.Supplies m items → Hands m rest declarations stages →
        Hands m (.extend v :: rest) (items ++ declarations) (stages.map (items ++ ·))
  | build {rest : List Feeding} {declarations : List Value} {stages : List (List Value)} :
      Hands m rest declarations stages → Hands m (.build :: rest) declarations ([] :: stages)

/-- What was fed by the time of a finished table is the first part of all that is fed. -/
theorem Hands.isPrefix {feedings : List Feeding} {declarations : List Value}
    {stages : List (List Value)} (h : Hands m feedings declarations stages) :
    ∀ stage ∈ stages, stage <+: declarations := by
  induction h with
  | done => simp
  | add declaration _ ih =>
      rw [List.forall_mem_map]
      exact fun stage hstage => (List.prefix_cons_inj declaration).mpr (ih stage hstage)
  | @extend _ _ items _ _ _ _ ih =>
      rw [List.forall_mem_map]
      exact fun stage hstage => (List.prefix_append_right_inj items).mpr (ih stage hstage)
  | build _ ih => exact List.forall_mem_cons.mpr ⟨List.nil_prefix, ih⟩

namespace Table

/-- Extending by what is handed out one at a time is extending by all of it, if it comes to an
end. -/
theorem extendFrom_agrees {next : Nat → Act (Option Value)} {limit i : Nat} {items : List Value}
    (h : (Supply.gather next limit i).result = .ok items) (table : Table) :
    (table.extendFrom m next limit i).Agrees (table.extend m items) := by
  induction limit generalizing i items table with
  | zero => cases h
  | succ limit ih =>
      rw [Supply.gather] at h
      obtain ⟨handed, hhanded, hrest⟩ := Act.result_bind_eq_ok_iff.mp h
      cases handed with
      | none =>
          obtain rfl : [] = items := Except.ok.inj hrest
          simp only [extendFrom, hhanded]
          exact ⟨rfl, Act.result_bind_of_ok hhanded _⟩
      | some declaration =>
          obtain ⟨rest, hgather, hitems⟩ := Act.result_bind_eq_ok_iff.mp hrest
          obtain rfl : declaration :: rest = items := Except.ok.inj hitems
          simp only [extendFrom, hhanded]
          refine (Extension.andThen_agrees_of_ok (Act.result_bind_of_ok hhanded _) _).trans ?_
          exact (Extension.Agrees.refl _).andThen fun grown => ih hgather grown

theorem extendBy_agrees {v : Value} {items : List Value} (h : v.Supplies m items)
    (table : Table) : (table.extendBy m v).Agrees (table.extend m items) := by
  obtain ⟨source, hsource, hitems⟩ := h
  simp only [extendBy, hsource]
  refine (Extension.andThen_agrees_of_ok (Act.result_bind_of_ok hsource _) _).trans ?_
  cases source with
  | atHand kept =>
      obtain rfl : kept = items := Except.ok.inj hitems
      exact .refl _
  | byNumber next => exact extendFrom_agrees hitems table

/-- However a builder is fed, it comes to hold what extending it by all declarations at once leads
to, and each table that is finished on the way is what those fed until then lead to. -/
theorem result_feed_of_hands {feedings : List Feeding} {declarations : List Value}
    {stages : List (List Value)} (h : Hands m feedings declarations stages) {table : Table}
    (hok : (table.extend m declarations).act.result = .ok ()) :
    ∃ built, (table.feed m feedings).result =
        .ok (built, (table.extend m declarations).table) ∧
      List.Forall₂ (fun stage other => (table.extend m stage).act.result = .ok () ∧
        (table.extend m stage).table = other) stages built := by
  induction h generalizing table with
  | done => exact ⟨[], rfl, .nil⟩
  | @add rest declarations stages declaration _ ih =>
      obtain ⟨hadd, hmore⟩ := Extension.result_andThen_eq_ok_iff.mp hok
      obtain ⟨built, hfeed, hbuilt⟩ := ih hmore
      refine ⟨built, ?_, List.forall₂_map_left_iff.mpr (hbuilt.imp fun stage other hother => ?_)⟩
      · rw [feed, Act.result_bind_of_ok hadd, hfeed, extend, Extension.andThen_of_ok hadd]
      · rw [extend, Extension.andThen_of_ok hadd, Act.result_bind_of_ok hadd]
        exact hother
  | @extend rest declarations items stages v hsupplies _ ih =>
      have hagrees := extendBy_agrees hsupplies table
      rw [extend_append] at hok
      obtain ⟨hitems, hmore⟩ := Extension.result_andThen_eq_ok_iff.mp hok
      obtain ⟨built, hfeed, hbuilt⟩ := ih hmore
      refine ⟨built, ?_, List.forall₂_map_left_iff.mpr (hbuilt.imp fun stage other hother => ?_)⟩
      · rw [feed, Act.result_bind_of_ok (hagrees.result.trans hitems), hagrees.table, hfeed,
          extend_append, Extension.andThen_of_ok hitems]
      · rw [extend_append, Extension.andThen_of_ok hitems, Act.result_bind_of_ok hitems]
        exact hother
  | build _ ih =>
      obtain ⟨built, hfeed, hbuilt⟩ := ih hok
      refine ⟨table :: built, ?_, .cons ⟨rfl, rfl⟩ hbuilt⟩
      have hfinish : (⟨table, pure ()⟩ : Extension).finish.result = .ok table := rfl
      rw [feed, Act.result_bind_of_ok hfinish, Act.result_bind_of_ok hfeed]
      rfl

end Table

/-- More declarations conserve what those before them decide. If some declarations are built with
more behind them, they are built without these too, and all that their table decides is decided
alike in the end. However a builder is fed all of these declarations, it comes to hold the same
table, and each table that is finished on the way is the one that is built of what was fed until
then, whose decisions are conserved as well. -/
theorem more_declarations_conserve {m : Interpretation} {declarations more : List Value}
    {grown : Table} (h : (build m (declarations ++ more)).result = .ok grown) :
    (∃ table, (build m declarations).result = .ok table ∧ table.Conserves m more grown) ∧
      ∀ feedings stages, Hands m feedings (declarations ++ more) stages →
        ∃ built, (Table.empty.feed m feedings).result = .ok (built, grown) ∧
          List.Forall₂ (fun stage table => (build m stage).result = .ok table ∧
            ∃ rest, declarations ++ more = stage ++ rest ∧ table.Conserves m rest grown)
            stages built := by
  refine ⟨conserves_of_build h, fun feedings stages hhands => ?_⟩
  obtain ⟨hok, htable⟩ := Extension.result_finish_eq_ok_iff.mp h
  obtain ⟨built, hfeed, hbuilt⟩ := Table.result_feed_of_hands hhands hok
  rw [htable] at hfeed
  refine ⟨built, hfeed, ?_⟩
  rw [List.forall₂_iff_zip] at hbuilt ⊢
  refine ⟨hbuilt.1, fun {stage table} hmem => ?_⟩
  have hstage : (build m stage).result = .ok table :=
    Extension.result_finish_eq_ok_iff.mpr (hbuilt.2 hmem)
  obtain ⟨rest, hrest⟩ := hhands.isPrefix stage (List.of_mem_zip hmem).1
  rw [← hrest] at h
  obtain ⟨other, hother, hconserves⟩ := conserves_of_build h
  obtain rfl : table = other := Except.ok.inj (hstage.symm.trans hother)
  exact ⟨hstage, rest, hrest.symm, hconserves⟩

/-- Orders that are paid. -/
def paying : Value := .declaration (.simple (.text "new") (.text "paid") (.text "pay"))

/-- Added to these, that orders may be dropped, and that paying a new one sends it. -/
def dropping : List Value :=
  [.declaration (.simple .any (.text "void") (.text "drop")),
    .declaration (.simple (.text "new") (.text "sent") (.text "pay"))]

/-- Paying an order still does what it did, and dropping one is the business of the added
declarations. The table that was finished before these came in is the one without them. -/
theorem more_declarations_conserve_orders :
    ∃ table grown, (build .exhausted [paying]).result = .ok table ∧
      (build .exhausted ([paying] ++ dropping)).result = .ok grown ∧
      table.rules.length = 1 ∧ grown.rules.length = 4 ∧
      table.Conserves .exhausted dropping grown ∧
      (Table.empty.feed .exhausted [.add paying, .build, .extend (.list dropping)]).result =
        .ok ([table], grown) := by
  obtain ⟨grown, hgrown⟩ :
      ∃ grown, (build .exhausted ([paying] ++ dropping)).result = .ok grown := ⟨_, rfl⟩
  obtain ⟨⟨table, htable, hconserves⟩, hfeed⟩ := more_declarations_conserve hgrown
  have hhands : Hands .exhausted [.add paying, .build, .extend (.list dropping)]
      ([paying] ++ dropping) [[paying]] :=
    .add paying (.build (.extend ⟨.atHand dropping, rfl, rfl⟩ .done))
  obtain ⟨built, hbuilt, hstages⟩ := hfeed _ _ hhands
  obtain ⟨other, rest, ⟨hother, _⟩, hrest, rfl⟩ := List.forall₂_cons_left_iff.mp hstages
  obtain rfl := List.forall₂_nil_left_iff.mp hrest
  obtain rfl := Except.ok.inj (htable.symm.trans hother)
  have hone : (build .exhausted [paying]).result.map (·.rules.length) = .ok 1 := rfl
  have hfour : (build .exhausted ([paying] ++ dropping)).result.map (·.rules.length) = .ok 4 := rfl
  rw [htable] at hone
  rw [hgrown] at hfour
  exact ⟨table, grown, htable, hgrown, Except.ok.inj hone, Except.ok.inj hfour, hconserves, hbuilt⟩

end StateRules
