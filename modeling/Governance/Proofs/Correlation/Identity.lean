import Governance.Proofs.Correlation.Kinds

/-!
# What identifies a proposal

A key is made of fields that are picked from one kind, and it is tried on a payload in which they are looked up by
path. These are two views of the same data: kinds with one tag are known by fields under the same paths
(`ProposalKind.keys_fields`), and what a payload holds under such a path is the field that would be picked from
its kind (`ProposalKind.lookup_payload`). No field is a double, so there is nothing that is equal as JSON without
being the same (`Value.eq_of_same`). Main statement: a key accepts a proposal in progress exactly if tag and fields
of both kinds are equal, so nothing else about key or proposal counts, and to be accepted is an equivalence of
kinds (`CorrelationKey.accepts_iff_same_identity`).
-/

namespace Governance

open Json

/-! ## Equality as JSON -/

namespace Json.Value

mutual

/-- A regular value has no zero with a sign. -/
theorem unsignedZeros_of_regular : ∀ v : Value, v.Regular → v.unsignedZeros = v
  | .null, _ | .bool _, _ | .string _, _ | .number (.integer _), _ => rfl
  | .number (.double _), h => h.elim
  | .array items, h => congrArg array (unsignedZeroItems_of_regular items h)
  | .object members, h => congrArg object (unsignedZeroMembers_of_regular members h.2)

theorem unsignedZeroItems_of_regular : ∀ vs : List Value, RegularItems vs → unsignedZeroItems vs = vs
  | [], _ => rfl
  | v :: vs, h => by
    rw [unsignedZeroItems, unsignedZeros_of_regular v h.1, unsignedZeroItems_of_regular vs h.2]

theorem unsignedZeroMembers_of_regular : ∀ ms : List (String × Value), RegularMembers ms →
    unsignedZeroMembers ms = ms
  | [], _ => rfl
  | (name, v) :: ms, h => by
    rw [unsignedZeroMembers, unsignedZeros_of_regular v h.1, unsignedZeroMembers_of_regular ms h.2]

end

theorem names_unsignedZeroMembers (ms : List (String × Value)) :
    (unsignedZeroMembers ms).map Prod.fst = ms.map Prod.fst := by
  induction ms with
  | nil => rfl
  | cons m ms ih => rw [unsignedZeroMembers, List.map_cons, List.map_cons, ih]

mutual

/-- Making zeros positive removes no double. -/
theorem regular_of_unsignedZeros : ∀ v : Value, v.unsignedZeros.Regular → v.Regular
  | .null, _ | .bool _, _ | .string _, _ => trivial
  | .number (.integer _), h => h
  | .number (.double _), h => h.elim
  | .array items, h => regularItems_of_unsignedZeroItems items h
  | .object members, ⟨sorted, h⟩ => by
    refine ⟨?_, regularMembers_of_unsignedZeroMembers members h⟩
    rw [Entries.Sorted, ← List.pairwise_map] at sorted ⊢
    rwa [names_unsignedZeroMembers] at sorted

theorem regularItems_of_unsignedZeroItems : ∀ vs : List Value,
    RegularItems (unsignedZeroItems vs) → RegularItems vs
  | [], _ => trivial
  | v :: vs, h => ⟨regular_of_unsignedZeros v h.1, regularItems_of_unsignedZeroItems vs h.2⟩

theorem regularMembers_of_unsignedZeroMembers : ∀ ms : List (String × Value),
    RegularMembers (unsignedZeroMembers ms) → RegularMembers ms
  | [], _ => trivial
  | (_, v) :: ms, h => ⟨regular_of_unsignedZeros v h.1, regularMembers_of_unsignedZeroMembers ms h.2⟩

end

/-- What is equal as JSON to a regular value is that value. -/
theorem eq_of_same {v w : Value} (regular : w.Regular) (h : v.same w = true) : v = w := by
  have equal : v.unsignedZeros = w.unsignedZeros := of_decide_eq_true h
  rw [unsignedZeros_of_regular w regular] at equal
  have regular' : v.Regular := regular_of_unsignedZeros v (equal ▸ regular)
  rwa [unsignedZeros_of_regular v regular'] at equal

end Json.Value

/-! ## Fields and tags -/

/-- The paths of the fields that kinds with a tag are known by. -/
def KindTag.paths : KindTag → List String
  | addMember => ["role"]
  | addOrUpdateRole => ["role.name"]
  | prepareNft => ["nft_data.title"]
  | updatePreparedNft | mintRoot => ["id"]
  | createRevenueTable => ["contract", "root_id"]
  | alterRevenueTable => ["tree_index"]
  | payoutRevenue => ["tree_index_list"]
  | resendFailedTransaction => ["failed_id"]

namespace ProposalKind

variable {kind other : ProposalKind}

/-- The tag of a kind tells under which paths it has fields. -/
theorem keys_fields (kind : ProposalKind) : kind.fields.keys = kind.tag.paths := by
  cases kind with
  | createRevenueTable rootId contract table price =>
    have order : "contract" < "root_id" := by decide
    have sorted : Entries.Sorted [("contract", Value.string contract), ("root_id", .string rootId)] :=
      List.pairwise_pair.2 order
    exact congrArg StringMap.keys (StringMap.ofList_entries ⟨_, sorted⟩)
  | _ => rfl

/-- A kind has a field under every path of its tag, and under no other. -/
theorem isSome_get?_fields {path : String} :
    (kind.fields.get? path).isSome ↔ path ∈ kind.tag.paths := by
  rw [← keys_fields, StringMap.keys, List.mem_map, Option.isSome_iff_exists]
  constructor
  · rintro ⟨v, held⟩
    exact ⟨(path, v), StringMap.mem_entries.2 held, rfl⟩
  · rintro ⟨⟨_, v⟩, held, rfl⟩
    exact ⟨v, StringMap.mem_entries.1 held⟩

/-- The fields of a kind are held by the payload of another kind with the same tag exactly if that has the same
fields. -/
theorem holdIn_payload_iff (tag : kind.tag = other.tag) :
    kind.fields.holdIn other.payload = true ↔ kind.fields = other.fields := by
  rw [CorrelationKey.holdIn_iff]
  constructor
  · intro holds
    refine StringMap.ext_get? fun path => ?_
    have both : (kind.fields.get? path).isSome ↔ (other.fields.get? path).isSome := by
      rw [isSome_get?_fields, isSome_get?_fields, tag]
    cases picked : kind.fields.get? path with
    | none =>
      rw [picked] at both
      exact (Option.not_isSome_iff_eq_none.1 fun some => Bool.false_ne_true (both.2 some)).symm
    | some expected =>
      rw [picked] at both
      obtain ⟨own, there⟩ := Option.isSome_iff_exists.1 (both.1 rfl)
      -- what is looked up in the payload is the field of the other kind
      obtain ⟨v, found, same⟩ := holds path expected picked
      obtain rfl : own = v := Option.some.inj ((lookup_payload there).symm.trans found)
      have regular : expected.Regular := (kind.plain_fields _ (StringMap.mem_entries.2 picked)).1
      rw [there, Value.eq_of_same regular same]
  · intro fields path expected picked
    rw [fields] at picked
    exact ⟨expected, lookup_payload picked, expected.same_self⟩

/-- Every key that is made for the first kind accepts every proposal in progress of the other. -/
def Matches (kind other : ProposalKind) : Prop :=
  ∀ baseline token now (p : Proposal), p.kind = .known other → p.status = .inProgress →
    (CorrelationKey.forKind baseline kind token now).accepts p = true

end ProposalKind

namespace CorrelationKey

/-- A key that was made for a kind accepts a proposal of a known kind exactly if it is in progress and the kinds
have the same tag and the same fields. -/
theorem accepts_forKind_iff {kind other : ProposalKind} {p : Proposal} (known : p.kind = .known other)
    (baseline : UInt64) (token : Uuid) (now : Timestamp) :
    (forKind baseline kind token now).accepts p = true ↔
      p.status = .inProgress ∧ kind.tag = other.tag ∧ kind.fields = other.fields := by
  rw [accepts, known, ListedKind.known?, Option.any_some, Bool.and_eq_true, Bool.and_eq_true,
    decide_eq_true_iff, Proposal.isInProgress, decide_eq_true_iff]
  show p.status = .inProgress ∧ other.tag = kind.tag ∧ kind.fields.holdIn other.payload = true ↔ _
  refine and_congr_right fun _ => ?_
  rw [eq_comm]
  exact and_congr_right ProposalKind.holdIn_payload_iff

theorem matches_iff {kind other : ProposalKind} :
    kind.Matches other ↔ kind.tag = other.tag ∧ kind.fields = other.fields := by
  constructor
  · intro accepted
    -- some proposal in progress of the other kind
    have some_p := accepted 0 default .epoch ⟨0, "", "", .known other, .inProgress, .empty, ""⟩ rfl rfl
    exact ((accepts_forKind_iff rfl _ _ _).1 some_p).2
  · intro same baseline token now p known progress
    exact (accepts_forKind_iff known baseline token now).2 ⟨progress, same⟩

/-- **Matching is equality of what identifies.** Whatever the baseline, the token and the time of a key, and
whatever else is said about a proposal, the key accepts it exactly if it is in progress and of a kind with the same
tag and the same fields. So matching is an equivalence of kinds. -/
theorem accepts_iff_same_identity (kind : ProposalKind) :
    (∀ other baseline token now (p : Proposal), p.kind = .known other →
      ((forKind baseline kind token now).accepts p = true ↔
        p.status = .inProgress ∧ kind.tag = other.tag ∧ kind.fields = other.fields)) ∧
    (∀ baseline baseline' token token' now now' (p p' : Proposal), p.kind = p'.kind →
      p.status = .inProgress → p'.status = .inProgress →
        (forKind baseline kind token now).accepts p = (forKind baseline' kind token' now').accepts p') ∧
    Equivalence ProposalKind.Matches := by
  refine ⟨fun other baseline token now p known => accepts_forKind_iff known baseline token now,
    ?independent, ?refl, ?symm, ?trans⟩
  case independent =>
    intro baseline baseline' token token' now now' p p' same progress progress'
    rw [Bool.eq_iff_iff]
    cases known : p.kind with
    | known other =>
      rw [accepts_forKind_iff known, accepts_forKind_iff (same.symm.trans known), progress, progress']
    | unrecognized v =>
      rw [accepts, accepts, ← same, known]
      simp [ListedKind.known?]
  case refl => exact fun _ => matches_iff.2 ⟨rfl, rfl⟩
  case symm =>
    intro first second h
    obtain ⟨tag, fields⟩ := matches_iff.1 h
    exact matches_iff.2 ⟨tag.symm, fields.symm⟩
  case trans =>
    intro first second third h h'
    obtain ⟨tag, fields⟩ := matches_iff.1 h
    obtain ⟨tag', fields'⟩ := matches_iff.1 h'
    exact matches_iff.2 ⟨tag.trans tag', fields.trans fields'⟩

/-- Members are let into a role: the key of one accepts the proposal of another for the same role, and not the
proposal of the same one for another role. -/
theorem accepts_other_member_of_role :
    let key := forKind 4 (.addMember "a.near" "editors") default .epoch
    let listed (kind : ProposalKind) : Proposal := ⟨9, "c.near", "", .known kind, .inProgress, .empty, ""⟩
    key.accepts (listed (.addMember "b.near" "editors")) = true ∧
      key.accepts (listed (.addMember "a.near" "artists")) = false := by
  intro key listed
  have accepted (kind : ProposalKind) := (accepts_iff_same_identity (.addMember "a.near" "editors")).1 kind
    4 default .epoch (listed kind) rfl
  refine ⟨(accepted _).2 ⟨rfl, rfl, rfl⟩, Bool.eq_false_iff.2 fun h => ?_⟩
  exact absurd ((accepted _).1 h).2.2 (by decide)

end CorrelationKey

end Governance
