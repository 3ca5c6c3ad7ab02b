import StateRules.Fault

/-!
What an operation leaves behind besides its result: the records it emitted and
the guard calls it made, both in order. `Act` is a computation with these two
outputs; it may fail, and what was emitted and called before the failure stays.
-/

namespace StateRules

/-- How much a record matters. -/
inductive Level where
  | debug
  | info
  | warning
deriving DecidableEq, Repr

/-- The part of the library that a record comes from. -/
inductive Component where
  | compiler
  | resolver
  | machine
  | binding
deriving DecidableEq, Repr

/-- A line of the log. -/
structure Record where
  level : Level
  component : Component
  text : String
deriving DecidableEq, Repr

/-- A call of a guard function with the entity it was given. -/
structure Call where
  function : String
  entity : Value

/-- A computation that emits records, calls guards and may fail. -/
structure Act (α : Type) where
  records : List Record
  calls : List Call
  result : Except Fault α

namespace Act

/-- A result alone. -/
def ofExcept {α : Type} (result : Except Fault α) : Act α := ⟨[], [], result⟩

/-- A failure and nothing else. -/
def fail {α : Type} (fault : Fault) : Act α := ofExcept (.error fault)

/-- What there is, or else a failure. -/
def ofOption {α : Type} (fault : Fault) : Option α → Act α
  | some a => ofExcept (.ok a)
  | none => fail fault

/-- A record and nothing else. -/
def emit (record : Record) : Act Unit := ⟨[record], [], .ok ()⟩

/-- A call and nothing else. -/
def note (call : Call) : Act Unit := ⟨[], [call], .ok ()⟩

/-- A computation whose failure is a result like any other. -/
def attempt {α : Type} (act : Act α) : Act (Except Fault α) :=
  ⟨act.records, act.calls, .ok act.result⟩

/-- One computation after the other; after a failure nothing more happens. -/
def andThen {α β : Type} (first : Act α) (next : α → Act β) : Act β :=
  match first.result with
  | .error fault => ⟨first.records, first.calls, .error fault⟩
  | .ok a =>
      let second := next a
      ⟨first.records ++ second.records, first.calls ++ second.calls, second.result⟩

instance : Monad Act where
  pure a := ofExcept (.ok a)
  bind := andThen

instance : MonadLift (Except Fault) Act where
  monadLift := ofExcept

theorem pure_def {α : Type} (a : α) : (pure a : Act α) = ⟨[], [], .ok a⟩ := rfl

theorem bind_of_ok {α β : Type} {first : Act α} {a : α} (h : first.result = .ok a)
    (next : α → Act β) :
    first >>= next =
      ⟨first.records ++ (next a).records, first.calls ++ (next a).calls, (next a).result⟩ := by
  show andThen first next = _
  simp [andThen, h]

theorem bind_of_error {α β : Type} {first : Act α} {fault : Fault}
    (h : first.result = .error fault) (next : α → Act β) :
    first >>= next = ⟨first.records, first.calls, .error fault⟩ := by
  show andThen first next = _
  simp [andThen, h]

/-- A result alone adds nothing to what comes after it. -/
theorem pure_andThen {α β : Type} (a : α) (next : α → Act β) : (pure a : Act α) >>= next = next a :=
  rfl

/-- Computations in a row do not depend on how they are grouped. -/
theorem andThen_assoc {α β γ : Type} (first : Act α) (second : α → Act β) (third : β → Act γ) :
    first >>= second >>= third = first >>= fun a => second a >>= third := by
  cases hfirst : first.result with
  | error fault => rw [bind_of_error hfirst, bind_of_error hfirst]; rfl
  | ok a =>
      rw [bind_of_ok hfirst, bind_of_ok hfirst]
      cases hsecond : (second a).result with
      | error fault => rw [bind_of_error hsecond, bind_of_error rfl]
      | ok b =>
          rw [bind_of_ok hsecond, bind_of_ok rfl]
          simp

instance : LawfulMonad Act :=
  LawfulMonad.mk' Act
    (fun act => by
      obtain ⟨records, calls, result⟩ := act
      cases result <;> simp [Functor.map, andThen, ofExcept])
    pure_andThen andThen_assoc

end Act

end StateRules
