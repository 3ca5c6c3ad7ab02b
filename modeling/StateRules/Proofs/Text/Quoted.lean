import Mathlib.Algebra.Group.Nat.Defs
import StateRules.Proofs.Text.Lines
import StateRules.Text.Quoted

/-!
Reading a quoted text back.

What is written for one character of a quoted text tells the character and where the next one begins
(`Escapes.read`): a backslash is never written for itself alone, and the number of digits behind it
is given by the letter. The quotation mark is only written behind a backslash, so the first bare one
is the end. A quoted text can therefore be told from whatever stands behind it, and all that it was
made of with it (`quoteWith_append_inj`).

No line ends within a quoted text, since nothing that ends a line shows as itself
(`isLineEnd_of_mem_quoted`).
-/

namespace StateRules.Text

/-- The worth of a hexadecimal digit. -/
def digitWorth (c : Char) : Nat := if c.toNat < 97 then c.toNat - 48 else c.toNat - 87

/-- The number that some hexadecimal digits stand for. -/
def hexValue (digits : List Char) : Nat := digits.foldl (fun n c => n * 16 + digitWorth c) 0

theorem digitWorth_hexDigit {n : Nat} (h : n < 16) : digitWorth (hexDigit n) = n := by
  have hall : ∀ n < 16, digitWorth (hexDigit n) = n := by decide
  exact hall n h

theorem length_hexDigits (width n : Nat) : (hexDigits width n).length = width := by
  induction width generalizing n with
  | zero => rfl
  | succ width ih => simp [hexDigits, ih]

theorem hexValue_hexDigits {width n : Nat} (h : n < 16 ^ width) :
    hexValue (hexDigits width n) = n := by
  induction width generalizing n with
  | zero =>
      have hzero : n = 0 := by simpa using h
      exact hzero.symm
  | succ width ih =>
      have hrest : n / 16 < 16 ^ width := by
        rw [Nat.pow_succ] at h
        exact Nat.div_lt_of_lt_mul (by omega)
      have hdigit := digitWorth_hexDigit (Nat.mod_lt n (by decide : 0 < 16))
      have hvalue := ih hrest
      rw [hexValue] at hvalue ⊢
      rw [hexDigits, List.foldl_append, hvalue, List.foldl_cons, List.foldl_nil, hdigit]
      omega

/-- A character given by some hexadecimal digits, and what stands behind them. -/
def readCode (width : Nat) (cs : List Char) : Char × List Char :=
  (Char.ofNat (hexValue (cs.take width)), cs.drop width)

theorem readCode_append {width : Nat} {c : Char} (h : c.toNat < 16 ^ width) (rest : List Char) :
    readCode width (hexDigits width c.toNat ++ rest) = (c, rest) := by
  have hlength := length_hexDigits width c.toNat
  rw [readCode, List.take_left' hlength, List.drop_left' hlength, hexValue_hexDigits h,
    Char.ofNat_toNat]

/-- The first character of what stands within quotes, and what stands behind it. -/
def readEscaped : List Char → Option (Char × List Char)
  | [] => none
  | '\\' :: 't' :: rest => some ('\t', rest)
  | '\\' :: 'n' :: rest => some ('\n', rest)
  | '\\' :: 'r' :: rest => some ('\r', rest)
  | '\\' :: 'x' :: rest => some (readCode 2 rest)
  | '\\' :: 'u' :: rest => some (readCode 4 rest)
  | '\\' :: 'U' :: rest => some (readCode 8 rest)
  | '\\' :: c :: rest => some (c, rest)
  | c :: rest => some (c, rest)

theorem readEscaped_of_ne {c : Char} (h : c ≠ '\\') (rest : List Char) :
    readEscaped (c :: rest) = some (c, rest) := by
  rw [readEscaped]
  all_goals
    intros
    exact absurd ‹_› h

theorem exists_escapeCode_eq (code : Nat) :
    ∃ letter width, isLineEnd letter = false ∧
      escapeCode code = '\\' :: letter :: hexDigits width code := by
  unfold escapeCode
  split
  · exact ⟨'x', 2, rfl, rfl⟩
  · split
    · exact ⟨'u', 4, rfl, rfl⟩
    · exact ⟨'U', 8, rfl, rfl⟩

theorem toNat_lt_of_char (c : Char) : c.toNat < 16 ^ 8 := by
  have hlt : c.val.toNat < 2 ^ 32 := c.val.toNat_lt
  exact hlt

theorem readEscaped_escapeCode (c : Char) (rest : List Char) :
    readEscaped (escapeCode c.toNat ++ rest) = some (c, rest) := by
  unfold escapeCode
  split
  · next h => exact congrArg some (readCode_append h rest)
  · split
    · next h => exact congrArg some (readCode_append h rest)
    · exact congrArg some (readCode_append (toNat_lt_of_char c) rest)

/-- Whether a character serves as a quotation mark. -/
def IsMark (mark : Char) : Prop := mark = '\x27' ∨ mark = '\x22'

instance : DecidablePred IsMark := fun mark =>
  inferInstanceAs (Decidable (mark = '\x27' ∨ mark = '\x22'))

theorem isMark_quoteMark (text : List Char) : IsMark (quoteMark text) := by
  unfold quoteMark
  split
  · exact .inr rfl
  · exact .inl rfl

/-- What may be written for a character within quotes. -/
inductive Escapes (shows : Char → Bool) (mark : Char) : Char → List Char → Prop where
  | marked {c : Char} : c = mark ∨ c = '\\' → Escapes shows mark c ['\\', c]
  | tab : Escapes shows mark '\t' ['\\', 't']
  | feed : Escapes shows mark '\n' ['\\', 'n']
  | return : Escapes shows mark '\r' ['\\', 'r']
  | shown {c : Char} : c ≠ mark → c ≠ '\\' → shows c = true → Escapes shows mark c [c]
  | coded (c : Char) : Escapes shows mark c (escapeCode c.toNat)

section Marked

variable {shows : Char → Bool} {mark : Char}

theorem escapes_escapeWith (shows : Char → Bool) (mark c : Char) :
    Escapes shows mark c (escapeWith shows mark c) := by
  unfold escapeWith
  split
  · next h => exact .marked (by simpa using h)
  · next h =>
      obtain ⟨hmark, hbackslash⟩ : c ≠ mark ∧ c ≠ '\\' := by simpa using h
      split
      · next h => exact h ▸ .tab
      · split
        · next h => exact h ▸ .feed
        · split
          · next h => exact h ▸ .return
          · split
            · next h => exact .shown hmark hbackslash h
            · exact .coded c

/-- What is written for a character tells it, and what stands behind it. -/
theorem Escapes.read {c : Char} {written : List Char} (h : Escapes shows mark c written)
    (hmark : IsMark mark) (rest : List Char) :
    readEscaped (written ++ rest) = some (c, rest) := by
  cases h with
  | marked h =>
      rcases h with rfl | rfl
      · rcases hmark with rfl | rfl <;> rfl
      · rfl
  | tab => rfl
  | feed => rfl
  | «return» => rfl
  | shown _ hbackslash _ => exact readEscaped_of_ne hbackslash rest
  | coded c => exact readEscaped_escapeCode c rest

/-- The bare mark is not how anything begins that is written for a character. -/
theorem Escapes.head {c : Char} {written : List Char} (h : Escapes shows mark c written)
    (hmark : IsMark mark) : ∃ first rest, written = first :: rest ∧ first ≠ mark := by
  have hbackslash : '\\' ≠ mark := by rcases hmark with rfl | rfl <;> decide
  cases h with
  | shown hne _ _ => exact ⟨c, [], rfl, hne⟩
  | coded c =>
      obtain ⟨letter, width, _, hcode⟩ := exists_escapeCode_eq c.toNat
      exact ⟨'\\', _, hcode, hbackslash⟩
  | _ => exact ⟨_, _, rfl, hbackslash⟩

/-- What stands within quotes ends at the first bare mark. -/
theorem escaped_append_inj (hmark : IsMark mark) {text other rest rest' : List Char}
    (h : text.flatMap (escapeWith shows mark) ++ mark :: rest =
      other.flatMap (escapeWith shows mark) ++ mark :: rest') : text = other ∧ rest = rest' := by
  -- By induction on one text: where it ends, the other one cannot go on, as a bare mark stands
  -- there.
  induction text generalizing other with
  | nil =>
      cases other with
      | nil => exact ⟨rfl, (List.cons.inj h).2⟩
      | cons c others =>
          obtain ⟨first, more, hwritten, hne⟩ := (escapes_escapeWith shows mark c).head hmark
          rw [List.flatMap_cons, hwritten] at h
          exact absurd (List.cons.inj h).1.symm hne
  | cons c text ih =>
      have hc := escapes_escapeWith shows mark c
      rw [List.flatMap_cons, List.append_assoc] at h
      cases other with
      | nil =>
          obtain ⟨first, more, hwritten, hne⟩ := hc.head hmark
          rw [hwritten] at h
          exact absurd (List.cons.inj h).1 hne
      | cons c' others =>
          rw [List.flatMap_cons, List.append_assoc] at h
          have hread := congrArg readEscaped h
          rw [hc.read hmark, (escapes_escapeWith shows mark c').read hmark] at hread
          obtain ⟨rfl, hrest⟩ := Prod.mk.inj (Option.some.inj hread)
          obtain ⟨rfl, rfl⟩ := ih hrest
          exact ⟨rfl, rfl⟩

end Marked

/-- A quoted text tells what it was made of, whatever stands behind it. -/
theorem quoteWith_append_inj {shows : Char → Bool} {text other rest rest' : List Char}
    (h : quoteWith shows text ++ rest = quoteWith shows other ++ rest') :
    text = other ∧ rest = rest' := by
  simp only [quoteWith, List.cons_append, List.append_assoc, List.nil_append] at h
  obtain ⟨hmark, hrest⟩ := List.cons.inj h
  rw [← hmark] at hrest
  exact escaped_append_inj (isMark_quoteMark text) hrest

theorem isPrintable_of_isLineEnd {c : Char} (h : isLineEnd c = true) : isPrintable c = false := by
  simp only [isLineEnd, Bool.or_eq_true, decide_eq_true_eq] at h
  rcases h with (((((((((rfl | rfl) | rfl) | rfl) | rfl) | rfl) | rfl) | rfl) | rfl) | rfl)
  all_goals decide +kernel

theorem isLineEnd_of_mem_hexDigits {width n : Nat} :
    ∀ c ∈ hexDigits width n, isLineEnd c = false := by
  induction width generalizing n with
  | zero => simp [hexDigits]
  | succ width ih =>
      have hall : ∀ n < 16, isLineEnd (hexDigit n) = false := by decide
      exact List.forall_mem_append.mpr
        ⟨ih, List.forall_mem_singleton.mpr (hall _ (Nat.mod_lt n (by decide)))⟩

theorem isLineEnd_of_mem_escapeCode {code : Nat} :
    ∀ c ∈ escapeCode code, isLineEnd c = false := by
  obtain ⟨letter, width, hletter, hcode⟩ := exists_escapeCode_eq code
  rw [hcode]
  exact List.forall_mem_cons.mpr
    ⟨rfl, List.forall_mem_cons.mpr ⟨hletter, isLineEnd_of_mem_hexDigits⟩⟩

theorem isLineEnd_of_isMark {mark : Char} (h : IsMark mark) : isLineEnd mark = false := by
  rcases h with rfl | rfl <;> rfl

theorem Escapes.isLineEnd {mark c : Char} {written : List Char}
    (h : Escapes isPrintable mark c written) (hmark : IsMark mark) :
    ∀ c ∈ written, isLineEnd c = false := by
  cases h with
  | marked h =>
      refine List.forall_mem_cons.mpr ⟨rfl, List.forall_mem_singleton.mpr ?_⟩
      rcases h with rfl | rfl
      · exact isLineEnd_of_isMark hmark
      · rfl
  | shown _ _ hshows =>
      refine List.forall_mem_singleton.mpr (eq_false_of_ne_true fun hend => ?_)
      cases hshows.symm.trans (isPrintable_of_isLineEnd hend)
  | coded c => exact isLineEnd_of_mem_escapeCode
  | _ => exact isLineEnd_of_isOpen rfl

/-- No line ends within a quoted text, whatever it was made of. -/
theorem isLineEnd_of_mem_quoted (text : String) :
    ∀ c ∈ (quoted text).toList, isLineEnd c = false := by
  have hmark := isMark_quoteMark text.toList
  have hown := isLineEnd_of_isMark hmark
  rw [quoted, String.toList_ofList]
  refine List.forall_mem_append.mpr ⟨List.forall_mem_cons.mpr ⟨hown, ?_⟩,
    List.forall_mem_singleton.mpr hown⟩
  intro c hc
  obtain ⟨source, _, hc⟩ := List.mem_flatMap.mp hc
  exact (escapes_escapeWith isPrintable _ source).isLineEnd hmark c hc

end StateRules.Text
