import Governance.Proofs.Correlation.Kinds
import Governance.Proofs.Proposal.Parts

/-!
# What is submitted is recognised when it is listed

A kind of proposal is sent as JSON, and comes back as a part of what a contract lists. Each of the nine kinds
is read back from its payload (`ofPayload?_payloadDocument`), and the payload stands in the text as the free
value by which proposals are compared (`spells_payload`). So a listed kind is known again
(`ListedKind.ofDocument?_known`), whatever else is said about the proposal. Main statement: the proposal that was
read from such a listing, if it is in progress, is accepted by every key made for the kind
(`recognised_when_listed`).
-/

namespace Governance

open Json

variable {allowed : Nat}

namespace ProposalKind

/-- Where a kind holds free JSON, the values are regular and nest at most `allowed` deep. -/
def PolicyWithin (allowed : Nat) : ProposalKind → Prop
  | addOrUpdateRole role => role.PolicyWithin allowed
  | _ => True

theorem PolicyWithin.mono {kind : ProposalKind} {bound : Nat} (h : kind.PolicyWithin allowed)
    (le : allowed ≤ bound) : kind.PolicyWithin bound := by
  cases kind with
  | addOrUpdateRole role =>
    intro e he
    obtain ⟨regular, shallow⟩ := h e he
    exact ⟨regular, Nat.le_trans shallow le⟩
  | _ => trivial

/-! ## Payloads -/

/-- The payload of a kind is read back under its tag. -/
theorem ofPayload?_payloadDocument {kind : ProposalKind} (within : kind.PolicyWithin (allowed + 1)) :
    ofPayload? kind.tag (allowed + 4) kind.payloadDocument = some kind := by
  cases kind with
  | addMember memberId role =>
    dsimp only [tag, payloadDocument, ofPayload?]
    rw [Decoder.bind_record_written (by simp), Decoder.required_text (by decide) rfl,
      Decoder.required_text (by decide) rfl]
    rfl
  | addOrUpdateRole role =>
    dsimp only [tag, payloadDocument, ofPayload?]
    rw [Decoder.bind_record_written (by simp), Decoder.required_written (by decide) rfl,
      RolePermission.ofDocument?_toDocument within]
    rfl
  | prepareNft nft =>
    dsimp only [tag, payloadDocument, ofPayload?]
    rw [Decoder.bind_record_written (by simp), Decoder.required_written (by decide) rfl,
      NftData.ofDocument?_toDocument]
    rfl
  | updatePreparedNft id nft =>
    dsimp only [tag, payloadDocument, ofPayload?]
    rw [Decoder.bind_record_written (by simp), Decoder.required_written (by decide) rfl,
      Decoder.uint64_nat, Decoder.required_written (by decide) rfl, NftData.ofDocument?_toDocument]
    rfl
  | mintRoot id =>
    dsimp only [tag, payloadDocument, ofPayload?]
    rw [Decoder.bind_record_written (by simp), Decoder.required_written (by decide) rfl,
      Decoder.uint64_nat]
    rfl
  | createRevenueTable rootId contract table price =>
    dsimp only [tag, payloadDocument, ofPayload?]
    rw [Decoder.bind_record_written (by simp), Decoder.required_text (by decide) rfl,
      Decoder.required_text (by decide) rfl, Decoder.required_written (by decide) rfl,
      RevenueShares.ofDocument?_toDocument, Decoder.required_text (by decide) rfl]
    rfl
  | alterRevenueTable treeIndex table price =>
    dsimp only [tag, payloadDocument, ofPayload?]
    rw [Decoder.bind_record_written (by simp), Decoder.required_written (by decide) rfl,
      Decoder.uint64_nat, Decoder.required_written (by decide) rfl,
      RevenueShares.ofDocument?_toDocument, Decoder.required_text (by decide) rfl]
    rfl
  | payoutRevenue treeIndexes =>
    have items : Decoder.list Decoder.uint64 (allowed + 3)
        (.array (treeIndexes.map fun i => .nat i.toNat)) = some treeIndexes :=
      Decoder.list_written treeIndexes fun i _ => Decoder.uint64_nat _ i
    dsimp only [tag, payloadDocument, ofPayload?]
    rw [Decoder.bind_record_written (by simp), Decoder.required_written (by decide) rfl, items]
    rfl
  | resendFailedTransaction failedId newAddress =>
    dsimp only [tag, payloadDocument, ofPayload?]
    rw [Decoder.bind_record_written (by simp), Decoder.required_written (by decide) rfl,
      Decoder.uint64_nat, Decoder.required_text (by decide) rfl]
    rfl

open Document in
/-- The document of a payload spells the free value. -/
theorem spells_payload {kind : ProposalKind} (within : kind.PolicyWithin (allowed + 1)) :
    Spells (allowed + 4) kind.payloadDocument kind.payload := by
  cases kind with
  | addMember memberId role =>
    exact spells_record (.cons (spells_text memberId) (.cons (spells_text role) .nil))
  | addOrUpdateRole role => exact spells_record (.cons (RolePermission.spells_toValue within) .nil)
  | prepareNft nft => exact spells_record (.cons nft.spells_toValue .nil)
  | updatePreparedNft id nft =>
    exact spells_record (.cons (spells_nat id) (.cons nft.spells_toValue .nil))
  | mintRoot id => exact spells_record (.cons (spells_nat id) .nil)
  | createRevenueTable rootId contract table price =>
    exact spells_record (.cons (spells_text rootId) (.cons (spells_text contract)
      (.cons (RevenueShares.spells_toValue table) (.cons (spells_text price) .nil))))
  | alterRevenueTable treeIndex table price =>
    exact spells_record (.cons (spells_nat treeIndex)
      (.cons (RevenueShares.spells_toValue table) (.cons (spells_text price) .nil)))
  | payoutRevenue treeIndexes =>
    have items : Spells (allowed + 3) (.array (treeIndexes.map fun i => .nat i.toNat))
        (.array (treeIndexes.map fun i => .nat i.toNat)) :=
      spells_array treeIndexes fun i _ => spells_nat i
    exact spells_record (.cons items .nil)
  | resendFailedTransaction failedId newAddress =>
    exact spells_record (.cons (spells_nat failedId) (.cons (spells_text newAddress) .nil))

/-- Every payload is an object. -/
theorem payload_eq_object (kind : ProposalKind) : ∃ members, kind.payload = .object members := by
  cases kind <;> exact ⟨_, rfl⟩

/-! ## Kinds -/

/-- A kind is read back from its document. -/
theorem ofDocument?_toDocument {kind : ProposalKind} (within : kind.PolicyWithin (allowed + 1)) :
    ofDocument? (allowed + 5) kind.toDocument = some kind := by
  show ((KindTag.named.lookup kind.tag.name).bind fun tag =>
    ofPayload? tag (allowed + 4) kind.payloadDocument) = some kind
  rw [KindTag.lookup_name, Option.bind_some]
  exact ofPayload?_payloadDocument within

/-- The document of a kind spells the object whose only member is the payload. -/
theorem spells_toValue {kind : ProposalKind} (within : kind.PolicyWithin (allowed + 1)) :
    Document.Spells (allowed + 5) kind.toDocument (.object [(kind.tag.name, kind.payload)]) :=
  Document.spells_record (.cons (spells_payload within) .nil)

end ProposalKind

/-- A kind that was sent is known when it is listed. -/
theorem ListedKind.ofDocument?_known {kind : ProposalKind} (within : kind.PolicyWithin (allowed + 1)) :
    ListedKind.ofDocument? (allowed + 5) kind.toDocument = some (.known kind) := by
  rw [ListedKind.ofDocument?, Decoder.value, (ProposalKind.spells_toValue within).read,
    ProposalKind.ofDocument?_toDocument within]
  rfl

/-! ## Proposals -/

/-- Each status is found under its name. -/
theorem ProposalStatus.lookup_name (status : ProposalStatus) :
    named.lookup status.name = some status := by
  cases status <;> rfl

namespace Proposal

/-- A text spells a proposal whose kind is given by a document: as an object, whatever other members it has and
in whatever order, or as an array. -/
def SpelledWith (kind : Document) (text : String) : Prop :=
  ∃ d r, Document.parse text.toList = some d ∧
    Decoder.record fields Value.deepest d = some r ∧ r.slot "kind" = .given kind

/-- A listed proposal is read back from its document. -/
theorem ofDocument?_toDocument {p : Proposal} {kind : ProposalKind} (known : p.kind = .known kind)
    (within : kind.PolicyWithin (allowed + 1))
    (votes : ∀ e ∈ p.votes.entries, e.2.Regular ∧ e.2.depth ≤ allowed + 4) :
    ofDocument? (allowed + 6) p.toDocument = some p := by
  have listed : ListedKind.ofDocument? (allowed + 5) p.kind.toDocument = some p.kind := by
    rw [known]
    exact ListedKind.ofDocument?_known within
  have status : ProposalStatus.ofDocument? (allowed + 5) p.status.toDocument = some p.status :=
    Decoder.oneOf_text p.status.lookup_name _
  have voters : Decoder.map Decoder.value (allowed + 5)
      (.record (p.votes.entries.map fun e => (e.1, e.2.toDocument))) = some p.votes := by
    refine Decoder.map_written p.votes ?_
    intro e he
    obtain ⟨regular, shallow⟩ := votes e he
    exact Value.ofDocument?_toDocument e.2 _ regular shallow
  rw [ofDocument?, toDocument, Decoder.bind_record_written (by simp),
    Decoder.required_written (by decide) rfl, Decoder.uint64_nat,
    Decoder.required_text (by decide) rfl, Decoder.required_text (by decide) rfl]
  rw [Decoder.required_written (by decide) rfl, listed]
  rw [Decoder.required_written (by decide) rfl, status]
  rw [Decoder.withDefault_written (by decide) rfl, voters]
  rw [Decoder.withDefault_written (by decide) rfl]
  rfl

theorem writable_toDocument {p : Proposal} {kind : ProposalKind} (known : p.kind = .known kind)
    (within : kind.PolicyWithin (allowed + 1)) (votes : ∀ e ∈ p.votes.entries, e.2.Regular) :
    p.toDocument.Writable := by
  have listed : p.kind.toDocument.Writable := by
    rw [known]
    exact (ProposalKind.spells_toValue within).writable
  have voters : (Document.record
      (p.votes.entries.map fun e => (e.1, e.2.toDocument))).Writable := by
    refine Document.writable_record ?_
    intro m hm
    obtain ⟨e, he, rfl⟩ := List.mem_map.1 hm
    exact Value.writable_toDocument e.2 (votes e he)
  refine Document.writable_record ?_
  simp only [List.forall_mem_cons]
  exact ⟨Document.writable_nat _, Document.writable_text _, Document.writable_text _, listed,
    Document.writable_text _, voters, Document.writable_text _, nofun⟩

/-- What a proposal was read from has its kind in place of the kind. -/
theorem required_kind {depth : Nat} {d : Document} {p : Proposal} {r : Decoder.Record}
    (read : ofDocument? depth d = some p) (spelled : Decoder.record fields depth d = some r) :
    r.required "kind" ListedKind.ofDocument? = some p.kind := by
  rw [ofDocument?, spelled, Option.bind_eq_bind, Option.bind_some] at read
  simp only [Option.bind_eq_bind, Option.bind_eq_some_iff] at read
  obtain ⟨_, _, _, _, _, _, kind, found, _, _, _, _, _, _, made⟩ := read
  rw [found, ← Option.some.inj made]

/-- A kind that was sent is the kind of every proposal that is read from a listing with it. -/
theorem kind_of_spelledWith {kind : ProposalKind} (within : kind.PolicyWithin 122) {text : String}
    (spelled : SpelledWith kind.toDocument text) {p : Proposal}
    (read : Decoder.ofText? ofDocument? text = some p) : p.kind = .known kind := by
  obtain ⟨d, r, parsed, record, given⟩ := spelled
  rw [Decoder.ofText?, parsed, Option.bind_eq_bind, Option.bind_some] at read
  have depth : r.depth = 121 + 5 := Decoder.depth_of_record record
  have found := required_kind read record
  rw [Decoder.Record.required, given] at found
  dsimp only at found
  rw [depth, ListedKind.ofDocument?_known within] at found
  exact (Option.some.inj found).symm

end Proposal

/-! ## Kinds that are sent -/

/-- What becomes of the text of a kind when it is read, alone or as a part of a listed proposal. -/
structure ProposalKind.Recognised (kind : ProposalKind) : Prop where
  /-- The text is an object with a single member, which is named for the tag. -/
  single : Document.parse kind.toDocument.toText.toList =
    some (.record [(kind.tag.name, kind.payloadDocument)])
  /-- As free JSON the member is the payload. -/
  spelled : Value.ofText? kind.toDocument.toText = some (.object [(kind.tag.name, kind.payload)])
  /-- The payload is an object. -/
  payload : ∃ members, kind.payload = .object members
  /-- The text is read as the kind. -/
  read : Decoder.ofText? ofDocument? kind.toDocument.toText = some kind
  /-- In a listing the kind is not unrecognized. -/
  listed : Decoder.ofText? ListedKind.ofDocument? kind.toDocument.toText = some (.known kind)
  /-- A proposal of the kind is read back, if its votes can be. -/
  proposal : ∀ p : Proposal, p.kind = .known kind → (∀ e ∈ p.votes.entries, e.2.Plain 2) →
    Decoder.ofText? Proposal.ofDocument? p.toDocument.toText = some p
  /-- A proposal in progress that is read with this kind is accepted by every key made for the kind. -/
  accepted : ∀ text p, Proposal.SpelledWith kind.toDocument text →
    Decoder.ofText? Proposal.ofDocument? text = some p → p.status = .inProgress →
    ∀ baseline token now, (CorrelationKey.forKind baseline kind token now).accepts p = true

/-- **What is submitted is recognised when it is listed.** Free JSON occurs only in the vote policy of a role;
it stands five levels deep in a listed proposal, so it may nest 122 deep. -/
theorem ProposalKind.recognised_when_listed {kind : ProposalKind} (within : kind.PolicyWithin 122) :
    kind.Recognised := by
  -- alone, a kind has one level more than in a proposal
  have alone : kind.PolicyWithin (122 + 1) := within.mono (by decide)
  have written : kind.toDocument.Writable := (spells_toValue alone).writable
  refine ⟨?single, ?spelled, kind.payload_eq_object, ?read, ?listed, ?proposal, ?accepted⟩
  case single => exact Document.parse_toText written
  case spelled =>
    rw [Value.ofText?, Document.parse_toText written, Option.bind_eq_bind, Option.bind_some]
    exact (spells_toValue alone).read
  case read =>
    rw [Decoder.ofText?_toText written]
    exact ofDocument?_toDocument alone
  case listed =>
    rw [Decoder.ofText?_toText written]
    exact ListedKind.ofDocument?_known alone
  case proposal =>
    intro p known votes
    rw [Decoder.ofText?_toText (Proposal.writable_toDocument known within fun e he => (votes e he).1)]
    refine @Proposal.ofDocument?_toDocument 121 p kind known within ?_
    intro e he
    obtain ⟨regular, shallow⟩ := votes e he
    have deepest : Value.deepest = 127 := rfl
    exact ⟨regular, by omega⟩
  case accepted =>
    intro text p spelled read progress baseline token now
    have known : p.kind = .known kind := Proposal.kind_of_spelledWith within spelled read
    exact CorrelationKey.accepts_iff.2 (CorrelationKey.describes_own known progress baseline token now)

/-- A role that is proposed with an object in its vote policy is recognised. -/
theorem ProposalKind.recognised_role_with_policy :
    let policy : Value := .object [("threshold", .array [.nat 1, .nat 2])]
    (addOrUpdateRole ⟨"artists", .group ["a.near"], ["*:VoteApprove"],
      .ofList [("config", policy)]⟩).Recognised := by
  intro policy
  refine recognised_when_listed ?_
  intro e he
  obtain rfl : e = ("config", policy) := List.mem_singleton.1 he
  have ratio : Value.Regular (.array [.nat 1, .nat 2]) :=
    ⟨⟨by decide, by decide⟩, ⟨by decide, by decide⟩, trivial⟩
  exact ⟨⟨List.pairwise_singleton _ _, ratio, trivial⟩, by decide⟩

end Governance
