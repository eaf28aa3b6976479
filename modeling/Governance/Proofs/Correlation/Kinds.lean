import Governance.Proofs.Correlation.Matching
import Governance.Proofs.Correlation.Persistence

/-!
# A submission is known by its key

The key of a submission asks for fields of the payload, under paths of member names. For every kind of proposal
the payload holds exactly these fields (`ProposalKind.lookup_payload`), so the proposal that a contract makes
of a submission is described by its key (`CorrelationKey.describes_own`). The fields are also plain
(`ProposalKind.plain_fields`), so the key survives being written down.
-/

namespace Governance

open Json

/-! ## Looking up fields -/

namespace Json.Value

theorem same_self (v : Value) : v.same v = true :=
  decide_eq_true rfl

/-- A member of a record is found under its name, if no other member has the name. -/
theorem get?_record {members : List (String × Value)} {name : String} {v : Value}
    (h : (name, v) ∈ members) (agree : ∀ m ∈ members, m.1 = name → m.2 = v) :
    (record members).get? name = some v :=
  StringMap.get?_ofList h agree

end Json.Value

namespace Fields

variable {members : List (String × Value)} {path : String} {v : Value}

/-- A path without points leads to the member that it names. -/
theorem lookup_record (plain : '.' ∉ path.toList) (held : (path, v) ∈ members)
    (agree : ∀ m ∈ members, m.1 = path → m.2 = v) : lookup (.record members) path = some v := by
  rw [lookup_name _ plain, Value.get?_record held agree]

/-- A path with one point leads into the record that stands under its first segment. -/
theorem lookup_inner (outer inner : String) {within : List (String × Value)}
    (plain : '.' ∉ outer.toList) (plain' : '.' ∉ inner.toList) (held : (inner, v) ∈ within)
    (agree : ∀ m ∈ within, m.1 = inner → m.2 = v) :
    lookup (.record [(outer, .record within)]) (outer ++ "." ++ inner) = some v := by
  have first : lookup (.record [(outer, .record within)]) outer = some (.record within) :=
    lookup_record plain (by simp) (by simp)
  rw [lookup_append, first, Option.bind_some, lookup_record plain' held agree]

end Fields

namespace ProposalKind

/-- The fields that a kind is known by are held by its payload. -/
theorem lookup_payload {kind : ProposalKind} {path : String} {v : Value}
    (h : kind.fields.get? path = some v) : Fields.lookup kind.payload path = some v := by
  cases kind with
  | addOrUpdateRole role =>
    obtain ⟨rfl, rfl⟩ := StringMap.eq_of_get?_single h
    exact Fields.lookup_inner "role" "name" (by decide) (by decide) (by simp) (by simp)
  | prepareNft nft =>
    obtain ⟨rfl, rfl⟩ := StringMap.eq_of_get?_single h
    refine Fields.lookup_inner "nft_data" "title" (by decide) (by decide) (by simp) ?_
    -- none of the members that may be left out is called so
    simp only [NftData.knownValue, List.forall_mem_append, List.forall_mem_cons, List.forall_mem_map]
    simp
  | createRevenueTable rootId contract table price =>
    rcases List.mem_cons.1 (StringMap.mem_of_get?_ofList h) with given | given
    · obtain ⟨rfl, rfl⟩ := Prod.mk.inj given
      exact Fields.lookup_record (by decide) (by simp) (by simp)
    · obtain ⟨rfl, rfl⟩ := Prod.mk.inj (List.mem_singleton.1 given)
      exact Fields.lookup_record (by decide) (by simp) (by simp)
  | _ =>
    -- one field, which is a member of the payload
    obtain ⟨rfl, rfl⟩ := StringMap.eq_of_get?_single h
    exact Fields.lookup_record (by decide) (by simp) (by simp)

end ProposalKind

namespace CorrelationKey

/-- A proposal in progress of a kind is described by every key that is made for the kind. -/
theorem describes_own {p : Proposal} {kind : ProposalKind} (known : p.kind = .known kind)
    (progress : p.status = .inProgress) (baseline : UInt64) (token : Uuid) (now : Timestamp) :
    (forKind baseline kind token now).Describes p where
  inProgress := progress
  holds := by
    refine ⟨kind, known, rfl, ?_⟩
    intro path expected held
    exact ⟨expected, ProposalKind.lookup_payload held, expected.same_self⟩

end CorrelationKey

/-! ## The fields can be written down -/

namespace Json.Value

theorem plain_string (s : String) : (string s).Plain 2 :=
  ⟨trivial, by show 2 ≤ deepest; decide⟩

theorem regular_nat (n : UInt64) : (nat n.toNat).Regular := by
  have small := n.toNat_lt
  show (-9223372036854775808 : Int) ≤ n.toNat ∧ (n.toNat : Int) < 18446744073709551616
  omega

theorem plain_nat (n : UInt64) : (nat n.toNat).Plain 2 :=
  ⟨regular_nat n, by show 2 ≤ deepest; decide⟩

theorem plain_nullable (text : Option String) : (nullable string text).Plain 2 := by
  cases text with
  | none => exact ⟨trivial, by decide⟩
  | some s => exact plain_string s

theorem plain_nats (ns : List UInt64) : (array (ns.map fun n => nat n.toNat)).Plain 2 := by
  have items : RegularItems (ns.map fun n => nat n.toNat) ∧
      depthItems (ns.map fun n => nat n.toNat) = 0 := by
    induction ns with
    | nil => exact ⟨trivial, rfl⟩
    | cons n ns ih =>
      refine ⟨⟨regular_nat n, ih.1⟩, ?_⟩
      rw [List.map_cons, depthItems, ih.2]
      rfl
  refine ⟨items.1, ?_⟩
  rw [depth, items.2]
  decide

end Json.Value

namespace ProposalKind

/-- The fields that a kind is known by come back when they were written down. -/
theorem plain_fields (kind : ProposalKind) : kind.fields.Plain := by
  rintro ⟨path, v⟩ he
  have h : kind.fields.get? path = some v := StringMap.mem_entries.1 he
  cases kind with
  | prepareNft nft =>
    obtain ⟨rfl, rfl⟩ := StringMap.eq_of_get?_single h
    exact Value.plain_nullable nft.title
  | createRevenueTable rootId contract table price =>
    rcases List.mem_cons.1 (StringMap.mem_of_get?_ofList h) with given | given
    · obtain ⟨rfl, rfl⟩ := Prod.mk.inj given
      exact Value.plain_string contract
    · obtain ⟨rfl, rfl⟩ := Prod.mk.inj (List.mem_singleton.1 given)
      exact Value.plain_string rootId
  | payoutRevenue treeIndexes =>
    obtain ⟨rfl, rfl⟩ := StringMap.eq_of_get?_single h
    exact Value.plain_nats treeIndexes
  | addMember memberId role | addOrUpdateRole role =>
    obtain ⟨rfl, rfl⟩ := StringMap.eq_of_get?_single h
    exact Value.plain_string _
  | _ =>
    obtain ⟨rfl, rfl⟩ := StringMap.eq_of_get?_single h
    exact Value.plain_nat _

end ProposalKind

/-! ## Keys of submissions -/

namespace CorrelationKey

variable {key : CorrelationKey}

/-- The key was made for a submission. -/
def Made (key : CorrelationKey) : Prop :=
  ∃ baseline kind token now, key = .forKind baseline kind token now

theorem made_forKind (baseline : UInt64) (kind : ProposalKind) (token : Uuid) (now : Timestamp) :
    (forKind baseline kind token now).Made :=
  ⟨baseline, kind, token, now, rfl⟩

/-- The key of a submission is read back from its text. -/
theorem Made.ofText?_toText (made : key.Made) : ofText? key.toText = some key := by
  obtain ⟨baseline, kind, token, now, rfl⟩ := made
  exact CorrelationKey.ofText?_toText kind.plain_fields

end CorrelationKey

end Governance
