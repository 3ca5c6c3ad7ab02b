import Mathlib.Data.List.Forall2
import StateRules.Journal

/-!
What computations in a row come to, as far as their results go.

The records and calls of a computation are left aside here: whether a row of
computations gets through, and what with, is decided by the results of its parts.
-/

namespace StateRules

namespace Act

/-- A row gets through when each of its parts does. -/
theorem result_bind_eq_ok_iff {α β : Type} {first : Act α} {next : α → Act β} {b : β} :
    (first >>= next).result = .ok b ↔
      ∃ a, first.result = .ok a ∧ (next a).result = .ok b := by
  cases h : first.result with
  | error fault => simp [bind_of_error h]
  | ok a => simp [bind_of_ok h]

/-- The same where the first part gives nothing that the rest could use. -/
theorem result_seq_eq_ok_iff {β : Type} {first : Act Unit} {next : Unit → Act β} {b : β} :
    (first >>= next).result = .ok b ↔ first.result = .ok () ∧ (next ()).result = .ok b := by
  rw [result_bind_eq_ok_iff]
  exact ⟨fun ⟨_, h⟩ => h, fun h => ⟨(), h⟩⟩

/-- A row fails with the fault of the first of its parts that fails. -/
theorem result_bind_eq_error_iff {α β : Type} {first : Act α} {next : α → Act β} {fault : Fault} :
    (first >>= next).result = .error fault ↔
      first.result = .error fault ∨
        ∃ a, first.result = .ok a ∧ (next a).result = .error fault := by
  cases h : first.result with
  | error fault' => simp [bind_of_error h]
  | ok a => simp [bind_of_ok h]

@[simp]
theorem result_pure {α : Type} (a : α) : (pure a : Act α).result = .ok a := rfl

@[simp]
theorem result_fail {α : Type} (fault : Fault) : (fail fault : Act α).result = .error fault :=
  rfl

@[simp]
theorem result_emit (record : Record) : (emit record).result = .ok () := rfl

theorem result_bind_of_ok {α β : Type} {first : Act α} {a : α} (h : first.result = .ok a)
    (next : α → Act β) : (first >>= next).result = (next a).result := by
  rw [bind_of_ok h]

/-- What comes after a part that gets through depends on what that part gives alone. -/
theorem bind_congr_of_ok {α β : Type} {first : Act α} {a : α} (h : first.result = .ok a)
    {next next' : α → Act β} (hnext : next a = next' a) : first >>= next = first >>= next' := by
  rw [bind_of_ok h, bind_of_ok h, hnext]

theorem map_of_ok {α β : Type} {act : Act α} {a : α} (h : act.result = .ok a) (f : α → β) :
    f <$> act = ⟨act.records, act.calls, .ok (f a)⟩ := by
  rw [map_eq_pure_bind, bind_of_ok h]
  simp [pure_def]

theorem map_of_error {α β : Type} {act : Act α} {fault : Fault} (h : act.result = .error fault)
    (f : α → β) : f <$> act = ⟨act.records, act.calls, .error fault⟩ := by
  rw [map_eq_pure_bind, bind_of_error h]

@[simp]
theorem calls_map {α β : Type} (f : α → β) (act : Act α) : (f <$> act).calls = act.calls := by
  cases h : act.result with
  | error fault => rw [map_of_error h]
  | ok a => rw [map_of_ok h]

/-- What an act gives may be put through anything that leaves it as it is. -/
theorem map_eq_self {α : Type} {act : Act α} {f : α → α}
    (h : ∀ a, act.result = .ok a → f a = a) : f <$> act = act := by
  cases hact : act.result with
  | error fault => rw [map_of_error hact, ← hact]
  | ok a => rw [map_of_ok hact, h a hact, ← hact]

theorem result_map_eq_ok_iff {α β : Type} {f : α → β} {act : Act α} {b : β} :
    (f <$> act).result = .ok b ↔ ∃ a, act.result = .ok a ∧ f a = b := by
  rw [map_eq_pure_bind, result_bind_eq_ok_iff]
  simp

theorem result_map_eq_error_iff {α β : Type} {f : α → β} {act : Act α} {fault : Fault} :
    (f <$> act).result = .error fault ↔ act.result = .error fault := by
  rw [map_eq_pure_bind, result_bind_eq_error_iff]
  simp

theorem result_ofOption_eq_ok_iff {α : Type} {fault : Fault} {found : Option α} {a : α} :
    (ofOption fault found).result = .ok a ↔ found = some a := by
  cases found <;> simp [ofOption, ofExcept, fail]

/-- A traversal gets through when every item does, and gathers what each gives. -/
theorem result_mapM_eq_ok_iff {α β : Type} (f : α → Act β) (xs : List α) (ys : List β) :
    (xs.mapM f).result = .ok ys ↔ List.Forall₂ (fun x y => (f x).result = .ok y) xs ys := by
  induction xs generalizing ys with
  | nil =>
      rw [List.mapM_nil, result_pure, List.forall₂_nil_left_iff, Except.ok.injEq]
      exact eq_comm
  | cons x xs ih =>
      rw [List.mapM_cons, result_bind_eq_ok_iff, List.forall₂_cons_left_iff]
      constructor
      · rintro ⟨y, hy, hrest⟩
        obtain ⟨rest, hmap, hpure⟩ := result_bind_eq_ok_iff.mp hrest
        rw [result_pure, Except.ok.injEq] at hpure
        exact ⟨y, rest, hy, (ih rest).mp hmap, hpure.symm⟩
      · rintro ⟨y, rest, hy, hmap, rfl⟩
        refine ⟨y, hy, result_bind_eq_ok_iff.mpr ⟨rest, (ih rest).mpr hmap, rfl⟩⟩

/-- Whether two computations fail, and with the same fault. -/
def FailsAlike {α β : Type} (one : Act α) (two : Act β) : Prop :=
  ∃ fault, one.result = .error fault ∧ two.result = .error fault

namespace FailsAlike

variable {α β γ : Type}

theorem result_eq {one two : Act α} (h : one.FailsAlike two) : one.result = two.result := by
  obtain ⟨fault, hone, htwo⟩ := h
  rw [hone, htwo]

/-- What would have come after the failure has no part in it. -/
theorem bind {one : Act α} {two : Act β} (h : one.FailsAlike two) (next : α → Act γ) :
    (one >>= next).FailsAlike two := by
  obtain ⟨fault, hone, htwo⟩ := h
  exact ⟨fault, result_bind_eq_error_iff.mpr (.inl hone), htwo⟩

/-- Nor has what got through before it. -/
theorem of_ok {first : Act γ} {c : γ} {two : Act β} (hfirst : first.result = .ok c)
    {next : γ → Act α} (h : (next c).FailsAlike two) : (first >>= next).FailsAlike two := by
  obtain ⟨fault, hone, htwo⟩ := h
  exact ⟨fault, by rw [result_bind_of_ok hfirst, hone], htwo⟩

/-- After the same first part, whether that gets through or not. -/
theorem after (first : Act γ) {next : γ → Act α} {next' : γ → Act β}
    (h : ∀ c, first.result = .ok c → (next c).FailsAlike (next' c)) :
    (first >>= next).FailsAlike (first >>= next') := by
  cases hfirst : first.result with
  | error fault => exact ⟨fault, by rw [bind_of_error hfirst], by rw [bind_of_error hfirst]⟩
  | ok c =>
      obtain ⟨fault, hone, htwo⟩ := h c hfirst
      exact ⟨fault, by rw [result_bind_of_ok hfirst, hone], by rw [result_bind_of_ok hfirst, htwo]⟩

end FailsAlike

end Act

end StateRules
