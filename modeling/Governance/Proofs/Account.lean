import Governance.Account

/-!
# Checked arguments

Checks are made one after the other, and the first refusal is the one that is reported (`check_then_eq_ok_iff`,
`check_then_eq_error_iff`). The length of an account ID is checked in bytes and stated in characters (`AccountId`).
As its characters are those of ASCII, there are as many of the one as of the other (`utf8ByteSize_ofList`). Main
statements: what passes each of the two checks on arguments (`checkAccount_eq_ok_iff`, `requireFilled_eq_ok_iff`).
-/

namespace Governance

/-! ## Checks in a row -/

section

variable {ε α β : Type}

theorem bind_eq_ok_iff {x : Except ε α} {f : α → Except ε β} {b : β} :
    x >>= f = .ok b ↔ ∃ a, x = .ok a ∧ f a = .ok b := by
  cases x <;> simp [bind, Except.bind]

theorem bind_eq_error_iff {x : Except ε α} {f : α → Except ε β} {e : ε} :
    x >>= f = .error e ↔ x = .error e ∨ ∃ a, x = .ok a ∧ f a = .error e := by
  cases x <;> simp [bind, Except.bind]

variable {check : Except ε Unit} {rest : Except ε β}

/-- After a check everything goes on if it passes. -/
theorem check_then_eq_ok_iff {b : β} :
    (do check; rest) = .ok b ↔ check = .ok () ∧ rest = .ok b := by
  rw [bind_eq_ok_iff]
  exact ⟨fun ⟨_, passed, done⟩ => ⟨passed, done⟩, fun ⟨passed, done⟩ => ⟨(), passed, done⟩⟩

/-- A refusal is that of the check or comes after it. -/
theorem check_then_eq_error_iff {e : ε} :
    (do check; rest) = .error e ↔ check = .error e ∨ check = .ok () ∧ rest = .error e := by
  rw [bind_eq_error_iff]
  exact or_congr_right
    ⟨fun ⟨_, passed, refused⟩ => ⟨passed, refused⟩, fun ⟨passed, refused⟩ => ⟨(), passed, refused⟩⟩

variable {xs : List α} {each : α → Except ε Unit}

/-- A check on every element passes if each of them does. -/
theorem forM_eq_ok_iff : xs.forM each = .ok () ↔ ∀ x ∈ xs, each x = .ok () := by
  induction xs with
  | nil => exact iff_of_true rfl nofun
  | cons x xs ih => rw [List.forM, check_then_eq_ok_iff, List.forall_mem_cons, ih]

/-- A check on every element refuses what it refuses of one of them. -/
theorem exists_of_forM_eq_error {e : ε} (refused : xs.forM each = .error e) :
    ∃ x ∈ xs, each x = .error e := by
  induction xs with
  | nil => cases refused
  | cons x xs ih =>
    rw [List.forM, check_then_eq_error_iff] at refused
    rcases refused with first | ⟨_, rest⟩
    · exact ⟨x, List.mem_cons_self, first⟩
    · obtain ⟨y, hy, refused⟩ := ih rest
      exact ⟨y, List.mem_cons_of_mem x hy, refused⟩

end

/-! ## Account IDs -/

/-- A text of 2 to 64 characters, each of them a lower-case letter, a digit, a point, an underscore or a hyphen. -/
structure AccountId (id : String) : Prop where
  atLeast : 2 ≤ id.length
  atMost : id.length ≤ 64
  chars : ∀ c ∈ id.toList, ('a' ≤ c ∧ c ≤ 'z') ∨ ('0' ≤ c ∧ c ≤ '9') ∨ c ∈ ['.', '_', '-']

theorem isLower_iff {c : Char} : c.isLower = true ↔ 'a' ≤ c ∧ c ≤ 'z' := by
  show (decide ('a' ≤ c) && decide (c ≤ 'z')) = true ↔ _
  rw [Bool.and_eq_true, decide_eq_true_iff, decide_eq_true_iff]

theorem isDigit_iff {c : Char} : c.isDigit = true ↔ '0' ≤ c ∧ c ≤ '9' := by
  show (decide ('0' ≤ c) && decide (c ≤ '9')) = true ↔ _
  rw [Bool.and_eq_true, decide_eq_true_iff, decide_eq_true_iff]

theorem isAccountChar_iff {c : Char} : isAccountChar c = true ↔
    ('a' ≤ c ∧ c ≤ 'z') ∨ ('0' ≤ c ∧ c ≤ '9') ∨ c ∈ ['.', '_', '-'] := by
  simp [isAccountChar, isLower_iff, isDigit_iff, or_assoc]

theorem utf8Size_of_isAccountChar {c : Char} (h : isAccountChar c = true) : c.utf8Size = 1 := by
  rw [Char.utf8Size_eq_one_iff]
  rcases isAccountChar_iff.1 h with ⟨_, upper⟩ | ⟨_, upper⟩ | mark
  · exact UInt32.le_trans upper (by decide)
  · exact UInt32.le_trans upper (by decide)
  · simp only [List.mem_cons, List.not_mem_nil, or_false] at mark
    rcases mark with rfl | rfl | rfl <;> decide

/-- The characters that account IDs are made of take a byte each. -/
theorem utf8ByteSize_ofList {cs : List Char} (chars : ∀ c ∈ cs, isAccountChar c = true) :
    (String.ofList cs).utf8ByteSize = cs.length := by
  induction cs with
  | nil => rfl
  | cons c cs ih =>
    obtain ⟨first, rest⟩ := List.forall_mem_cons.1 chars
    rw [String.ofList_cons, String.utf8ByteSize_append, String.utf8ByteSize_singleton,
      utf8Size_of_isAccountChar first, ih rest, List.length_cons, Nat.add_comm]

theorem isAccountId_iff {id : String} : isAccountId id = true ↔ AccountId id := by
  rw [isAccountId, Bool.and_eq_true, decide_eq_true_iff, List.all_eq_true]
  have sameLength (chars : ∀ c ∈ id.toList, isAccountChar c = true) : id.utf8ByteSize = id.length := by
    have := utf8ByteSize_ofList chars
    rwa [String.ofList_toList, String.length_toList] at this
  constructor
  · rintro ⟨⟨atLeast, atMost⟩, chars⟩
    rw [sameLength chars] at atLeast atMost
    exact ⟨atLeast, atMost, fun c hc => isAccountChar_iff.1 (chars c hc)⟩
  · rintro ⟨atLeast, atMost, chars⟩
    have accepted : ∀ c ∈ id.toList, isAccountChar c = true :=
      fun c hc => isAccountChar_iff.2 (chars c hc)
    rw [sameLength accepted]
    exact ⟨⟨atLeast, atMost⟩, accepted⟩

variable {field id text : String} {fault : InputFault}

theorem checkAccount_eq_ok_iff : checkAccount field id = .ok () ↔ AccountId id := by
  rw [checkAccount, ← isAccountId_iff]
  split <;> simp [*]

theorem checkAccount_eq_error_iff :
    checkAccount field id = .error fault ↔ ¬ AccountId id ∧ fault = .account field id := by
  rw [checkAccount, ← isAccountId_iff]
  split <;> simp [*, eq_comm]

/-! ## Required texts -/

/-- A text with a character that is not blank. -/
def NonBlank (text : String) : Prop :=
  ∃ c ∈ text.toList, Text.isBlank c = false

theorem isFilled_iff : isFilled text = true ↔ NonBlank text := by
  simp [isFilled, Text.isFilled, NonBlank]

theorem requireFilled_eq_ok_iff : requireFilled field (some text) = .ok () ↔ NonBlank text := by
  rw [requireFilled, Option.any_some, ← isFilled_iff]
  split <;> simp [*]

theorem requireFilled_eq_error_iff :
    requireFilled field (some text) = .error fault ↔ ¬ NonBlank text ∧ fault = .blank field := by
  rw [requireFilled, Option.any_some, ← isFilled_iff]
  split <;> simp [*, eq_comm]

end Governance
