import Governance.Action
import Governance.Proofs.Account
import Governance.Proofs.Amount.Reading

/-!
# Revenue tables

A revenue table is balanced if it has at most 15 entries, all of its beneficiaries are account IDs and its shares
add up to 10000 basis points (`Balanced`). The shares are added in 64 bits, and the sum is given up as soon as it
does not fit, so that no sum that has wrapped around is taken for the full one (`foldlM_add?_eq_some_iff`). Main
statement: a revenue table is created or altered exactly if it is balanced and the other arguments are in order,
and it is proposed as it is, with the price in yoctoNEAR (`revenue_tables_balanced`).
-/

namespace Governance

open Governance.Text

namespace RevenueShares

/-! ## The sum of the shares -/

/-- At most 15 entries, all of them for account IDs, and shares that add up to all of the income. -/
structure Balanced (shares : RevenueShares) : Prop where
  few : shares.size ≤ 15
  accounts : ∀ account ∈ shares.keys, AccountId account
  full : (shares.values.map UInt64.toNat).sum = 10000

theorem toNat_of_add? {a b c : UInt64} (sum : add? a b = some c) : c.toNat = a.toNat + b.toNat := by
  unfold add? at sum
  split at sum
  · next fits =>
    cases sum
    rw [UInt64.toNat_add, Nat.mod_eq_of_lt fits]
  · cases sum

theorem add?_eq_none_iff {a b : UInt64} : add? a b = none ↔ UInt64.size ≤ a.toNat + b.toNat := by
  unfold add?
  split
  · next fits => exact iff_of_false (Option.some_ne_none _) (Nat.not_le_of_lt fits)
  · next large => exact iff_of_true rfl (Nat.le_of_not_lt large)

/-- What shares come to, counted on from a sum, is their sum without any bound, if that fits. -/
theorem foldlM_add?_eq_some_iff {shares : List UInt64} {sum total : UInt64} :
    shares.foldlM add? sum = some total ↔
      sum.toNat + (shares.map UInt64.toNat).sum = total.toNat := by
  induction shares generalizing sum with
  | nil => simp [UInt64.toNat_inj]
  | cons share shares ih =>
    rw [List.foldlM_cons, List.map_cons, List.sum_cons, ← Nat.add_assoc]
    cases next : add? sum share with
    | none =>
      have large := add?_eq_none_iff.1 next
      have fits : total.toNat < UInt64.size := total.toNat_lt
      constructor
      · intro none
        cases none
      · intro same
        omega
    | some sum' => rw [Option.bind_eq_bind, Option.bind_some, ih, toNat_of_add? next]

theorem total?_eq_full_iff {shares : RevenueShares} :
    shares.total? = some fullShare ↔ (shares.values.map UInt64.toNat).sum = 10000 := by
  rw [total?, foldlM_add?_eq_some_iff, UInt64.toNat_zero, Nat.zero_add]
  rfl

/-! ## The checks on a table and its price -/

section

variable {shares : RevenueShares} {price : String} {fault : InputFault}

/-- What is wrong with a table or its price, by the refusal that reports it. -/
inductive Refused (shares : RevenueShares) (price : String) : InputFault → Prop
  | long (many : 15 < shares.size) : Refused shares price (.tableSize shares.size)
  | stranger {account : String} (listed : account ∈ shares.keys) (malformed : ¬ AccountId account) :
    Refused shares price (.account "revenue table beneficiary" account)
  | unbalanced (off : (shares.values.map UInt64.toNat).sum ≠ 10000) : Refused shares price .tableTotal
  | unpriced {fault : InputFault} (unread : Amount.ofNear? price = .error fault) :
    Refused shares price fault

theorem check_of_long (many : 15 < shares.size) : shares.check = .error (.tableSize shares.size) :=
  if_pos many

/-- In a table that is not too long, the accounts are checked before the sum. -/
theorem check_of_few (few : shares.size ≤ 15) :
    shares.check = (do
      shares.keys.forM fun account => checkAccount "revenue table beneficiary" account
      if shares.total? ≠ some fullShare then throw .tableTotal) :=
  if_neg (Nat.not_lt_of_le few)

/-- The check on a table lets the balanced ones pass. -/
theorem check_eq_ok_iff : shares.check = .ok () ↔ Balanced shares := by
  by_cases few : shares.size ≤ 15
  · rw [check_of_few few, check_then_eq_ok_iff, forM_eq_ok_iff]
    simp only [checkAccount_eq_ok_iff]
    have passes : (if shares.total? ≠ some fullShare then throw .tableTotal else pure () :
        Except InputFault Unit) = .ok () ↔ (shares.values.map UInt64.toNat).sum = 10000 := by
      rw [← total?_eq_full_iff]
      split
      · next off => exact iff_of_false (nofun) off
      · next full => exact iff_of_true rfl (Classical.not_not.1 full)
    rw [passes]
    exact ⟨fun ⟨accounts, full⟩ => ⟨few, accounts, full⟩, fun balanced => ⟨balanced.accounts, balanced.full⟩⟩
  · rw [check_of_long (Nat.lt_of_not_le few)]
    exact iff_of_false nofun fun balanced => few balanced.few

theorem refused_of_check (refused : shares.check = .error fault) : Refused shares price fault := by
  by_cases few : shares.size ≤ 15
  · rw [check_of_few few, check_then_eq_error_iff] at refused
    rcases refused with refused | ⟨_, refused⟩
    · obtain ⟨account, listed, refused⟩ := exists_of_forM_eq_error refused
      obtain ⟨malformed, rfl⟩ := checkAccount_eq_error_iff.1 refused
      exact .stranger listed malformed
    · split at refused
      · next off =>
        cases refused
        exact .unbalanced fun full => off (total?_eq_full_iff.2 full)
      · cases refused
  · rw [check_of_long (Nat.lt_of_not_le few)] at refused
    cases refused
    exact .long (Nat.lt_of_not_le few)

variable {α : Type} {f : Amount → α}

/-- What is made of a table and its price is made of balanced tables and prices that can be read. -/
theorem priced_eq_ok_iff {a : α} :
    (do shares.check; let amount ← Amount.ofNear? price; return f amount) = Except.ok a ↔
      Balanced shares ∧ ∃ amount, Amount.ofNear? price = .ok amount ∧ f amount = a := by
  rw [check_then_eq_ok_iff, check_eq_ok_iff, bind_eq_ok_iff]
  simp only [pure, Except.pure, Except.ok.injEq]

theorem refused_of_priced
    (refused : (do shares.check; let amount ← Amount.ofNear? price; return f amount) = Except.error fault) :
    Refused shares price fault := by
  rw [check_then_eq_error_iff, bind_eq_error_iff] at refused
  rcases refused with unchecked | ⟨_, unread | ⟨_, _, refused⟩⟩
  · exact refused_of_check unchecked
  · exact .unpriced unread
  · cases refused

end

end RevenueShares

namespace Amount

/-- An amount is read back from its digits. -/
theorem ofDigits?_toDigits (a : Amount) : ofDigits? a.toDigits = some a := by
  rw [ofDigits?, toDigits, String.toList_ofList, readBelow_digits a.bounded, Option.bind_some]
  exact ofYocto?_eq_some_iff.2 rfl

end Amount

namespace ProposalInput

open RevenueShares

/-! ## The proposals -/

section

variable {rootId contract price : String} {treeIndex : UInt64} {table : RevenueShares}
  {input : ProposalInput} {fault : InputFault}

/-- A proposal that is made exactly under a condition and of a price that can be read carries digits that are read
as this price. -/
theorem carries_price {make : Except InputFault ProposalInput} {accepted : Prop} {description : String}
    (kind : String → ProposalKind)
    (made : ∀ input, make = .ok input ↔
      accepted ∧ ∃ amount, Amount.ofNear? price = .ok amount ∧ ⟨description, kind amount.toDigits⟩ = input) :
    ((∃ input, make = .ok input) ↔ accepted ∧ ∃ amount, Amount.ofNear? price = .ok amount) ∧
      ∀ input, make = .ok input → ∃ amount digits, Amount.ofNear? price = .ok amount ∧
        Amount.ofDigits? digits = some amount ∧ input.kind = kind digits := by
  refine ⟨⟨?_, ?_⟩, ?_⟩
  · rintro ⟨input, isMade⟩
    obtain ⟨accepts, amount, read, _⟩ := (made input).1 isMade
    exact ⟨accepts, amount, read⟩
  · rintro ⟨accepts, amount, read⟩
    exact ⟨_, (made _).2 ⟨accepts, amount, read, rfl⟩⟩
  · intro input isMade
    obtain ⟨_, amount, read, rfl⟩ := (made input).1 isMade
    exact ⟨amount, amount.toDigits, read, amount.ofDigits?_toDigits, rfl⟩

theorem createRevenueTable_eq_ok_iff : createRevenueTable rootId contract table price = .ok input ↔
    NonBlank rootId ∧ AccountId contract ∧ Balanced table ∧ ∃ amount, Amount.ofNear? price = .ok amount ∧
      ⟨s!"Create Revenue Table for uniqID: {contract}-{rootId}",
        .createRevenueTable rootId contract table amount.toDigits⟩ = input := by
  rw [createRevenueTable, check_then_eq_ok_iff, check_then_eq_ok_iff, priced_eq_ok_iff,
    requireFilled_eq_ok_iff, checkAccount_eq_ok_iff]

theorem alterRevenueTable_eq_ok_iff : alterRevenueTable treeIndex table price = .ok input ↔
    Balanced table ∧ ∃ amount, Amount.ofNear? price = .ok amount ∧
      ⟨s!"Alter Revenue Table for treeIndex: {treeIndex}",
        .alterRevenueTable treeIndex table amount.toDigits⟩ = input := by
  rw [alterRevenueTable, priced_eq_ok_iff]

theorem refused_of_createRevenueTable
    (refused : createRevenueTable rootId contract table price = .error fault) :
    (¬ NonBlank rootId ∧ fault = .blank "root ID") ∨
      (¬ AccountId contract ∧ fault = .account "contract" contract) ∨ Refused table price fault := by
  rw [createRevenueTable, check_then_eq_error_iff, check_then_eq_error_iff, requireFilled_eq_error_iff,
    checkAccount_eq_error_iff] at refused
  rcases refused with blank | ⟨_, malformed | ⟨_, refused⟩⟩
  · exact .inl blank
  · exact .inr (.inl malformed)
  · exact .inr (.inr (refused_of_priced refused))

end

/-- **Revenue tables are proposed exactly if they are balanced.** Creating a table needs a root ID that is not blank,
an account ID for the contract, a balanced table and a price that can be read, and nothing else; altering one needs
the last two. What is proposed then is the table as it is, with the digits of the price that was read. Otherwise
the refusal reports something that is wrong with the arguments. -/
theorem revenue_tables_balanced (table : RevenueShares) (price : String) :
    (∀ rootId contract,
      ((∃ input, createRevenueTable rootId contract table price = .ok input) ↔
        NonBlank rootId ∧ AccountId contract ∧ Balanced table ∧ ∃ amount, Amount.ofNear? price = .ok amount) ∧
      (∀ input, createRevenueTable rootId contract table price = .ok input →
        ∃ amount digits, Amount.ofNear? price = .ok amount ∧ Amount.ofDigits? digits = some amount ∧
          input.kind = .createRevenueTable rootId contract table digits) ∧
      ∀ fault, createRevenueTable rootId contract table price = .error fault →
        (¬ NonBlank rootId ∧ fault = .blank "root ID") ∨
          (¬ AccountId contract ∧ fault = .account "contract" contract) ∨ Refused table price fault) ∧
    ∀ treeIndex,
      ((∃ input, alterRevenueTable treeIndex table price = .ok input) ↔
        Balanced table ∧ ∃ amount, Amount.ofNear? price = .ok amount) ∧
      (∀ input, alterRevenueTable treeIndex table price = .ok input →
        ∃ amount digits, Amount.ofNear? price = .ok amount ∧ Amount.ofDigits? digits = some amount ∧
          input.kind = .alterRevenueTable treeIndex table digits) ∧
      ∀ fault, alterRevenueTable treeIndex table price = .error fault → Refused table price fault := by
  constructor
  · intro rootId contract
    obtain ⟨accepts, carries⟩ := carries_price (.createRevenueTable rootId contract table) fun input =>
      createRevenueTable_eq_ok_iff.trans (by rw [← and_assoc, ← and_assoc])
    rw [and_assoc, and_assoc] at accepts
    exact ⟨accepts, carries, fun fault refused => refused_of_createRevenueTable refused⟩
  · intro treeIndex
    obtain ⟨accepts, carries⟩ := carries_price (.alterRevenueTable treeIndex table) fun input =>
      alterRevenueTable_eq_ok_iff
    exact ⟨accepts, carries, fun fault refused => refused_of_priced refused⟩

/-- Shares that come to 10000 only because their sum wraps around are refused. -/
example :
    let table : RevenueShares := .ofList [("a.near", 18446744073709551615), ("b.near", 10001)]
    table.values.sum = fullShare ∧ alterRevenueTable 7 table "2.5" = .error .tableTotal := by
  constructor <;> decide +kernel

end ProposalInput

end Governance
