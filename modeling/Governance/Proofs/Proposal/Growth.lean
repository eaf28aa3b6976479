import Governance.Correlation.Key
import Governance.Proofs.Json.Growth
import Governance.Proofs.Proposal.Listing

/-!
# Proposals that grow

A contract may come to tell more of a proposal than it did, and in another order: of the proposal itself, in the payload
of its kind, and in the NFT or the role that a payload holds (`Proposal.Grows`). Level by level, from the innermost
one, what is read stays the same (`NftData.read_grown`, `ProposalKind.ofPayload?_grown`,
`ProposalKind.read_grown`). The kind is read twice, as free JSON and as a known kind, and known it stays only because
what has grown is free JSON still (`ProposalKind.Grows.within`). Main statement: a proposal of a known kind is
read as if it had not grown, alone and in a listing, so that keys find the same matches
(`Proposal.grown_is_read`).
-/

namespace Governance

open Json Json.Decoder
open Json.Document (Within Still)

/-! ## What grows -/

namespace KindTag

/-- The names of the fields in the payload of a kind. -/
def payloadFields : KindTag → List String
  | addMember => ["member_id", "role"]
  | addOrUpdateRole => ["role"]
  | prepareNft => ["nft_data"]
  | updatePreparedNft => ["id", "new_nft_data"]
  | mintRoot => ["id"]
  | createRevenueTable => ["root_id", "contract", "unsafe_table", "price"]
  | alterRevenueTable => ["tree_index", "unsafe_table", "price"]
  | payoutRevenue => ["tree_index_list"]
  | resendFailedTransaction => ["failed_id", "new_address"]

/-- The field of a payload that holds a role or an NFT, with the names of the fields of that. -/
def part? : KindTag → Option (String × List String)
  | addOrUpdateRole => some ("role", ["name", "kind", "permissions", "vote_policy"])
  | prepareNft => some ("nft_data", NftData.fields)
  | updatePreparedNft => some ("new_nft_data", NftData.fields)
  | _ => none

/-- The role or the NFT under this name in a payload grows. It stands where `depth` levels are allowed. -/
def PartGrows (tag : KindTag) (depth : Nat) (name : String) (d d' : Document) : Prop :=
  ∃ fields, tag.part? = some (name, fields) ∧ Document.Grows fields (depth - 1) Still d d'

end KindTag

/-- The payload of a kind grows, and in it the role or the NFT. The kind stands where `depth` levels are allowed. -/
inductive ProposalKind.Grows (depth : Nat) : Document → Document → Prop
  | payload {name : String} (tag : KindTag) {d d' : Document} (known : KindTag.named.lookup name = some tag)
      (grows : Document.Grows tag.payloadFields (depth - 2) (tag.PartGrows (depth - 2)) d d') :
      Grows depth (.object [(some name, d)]) (.object [(some name, d')])

namespace Proposal

/-- The kind of a proposal grows. It stands where `depth` levels are allowed. -/
def KindGrows (depth : Nat) (name : String) (d d' : Document) : Prop :=
  name = "kind" ∧ ProposalKind.Grows depth d d'

/-- A proposal grows, and in it its kind. It stands where `depth` levels are allowed. -/
def Grows (depth : Nat) : Document → Document → Prop :=
  Document.Grows fields (depth - 1) (KindGrows (depth - 1))

end Proposal

/-! ## Roles, NFTs and payloads -/

section

variable {allowed : Nat} {d d' : Document}

theorem RolePermission.read_grown
    (grows : Document.Grows ["name", "kind", "permissions", "vote_policy"] allowed Still d d') (depth : Nat) :
    ofDocument? depth d = ofDocument? depth d' :=
  Decoder.read_grown grows depth fun r r' h => by
    simp (disch := first | decide | exact Document.not_still _) only [h.required_still, h.withDefault_still]

theorem NftData.read_grown (grows : Document.Grows fields allowed Still d d') (depth : Nat) :
    ofDocument? depth d = ofDocument? depth d' :=
  Decoder.read_grown grows depth fun r r' h => by
    simp (disch := first | decide | exact Document.not_still _) only
      [h.required_still, h.optional_still, h.withDefault_still]

/-- No other field of a payload grows than the one that holds the role or the NFT. -/
theorem KindTag.still_of_part {tag : KindTag} {name : String}
    (other : tag.part?.map Prod.fst ≠ some name) (d d' : Document) : ¬ tag.PartGrows allowed name d d' := by
  intro ⟨fields, part, _⟩
  rw [part] at other
  exact other rfl

/-- A payload that has grown is read as before. -/
theorem ProposalKind.ofPayload?_grown {tag : KindTag}
    (grows : Document.Grows tag.payloadFields allowed (tag.PartGrows allowed) d d') (depth : Nat) :
    ofPayload? tag depth d = ofPayload? tag depth d' := by
  cases tag with
  | addOrUpdateRole =>
    refine Decoder.read_grown grows depth fun r r' h => ?_
    rw [h.required (by decide) fun d d' grew => ?_]
    obtain ⟨fields, part, grew⟩ := grew
    cases part
    exact RolePermission.read_grown grew _
  | prepareNft =>
    refine Decoder.read_grown grows depth fun r r' h => ?_
    rw [h.required (by decide) fun d d' grew => ?_]
    obtain ⟨fields, part, grew⟩ := grew
    cases part
    exact NftData.read_grown grew _
  | updatePreparedNft =>
    refine Decoder.read_grown grows depth fun r r' h => ?_
    have nft : r.required "new_nft_data" NftData.ofDocument? =
        r'.required "new_nft_data" NftData.ofDocument? := by
      refine h.required (by decide) fun d d' grew => ?_
      obtain ⟨fields, part, grew⟩ := grew
      cases part
      exact NftData.read_grown grew _
    rw [h.required_still (by decide) (KindTag.still_of_part (by decide)), nft]
  | _ =>
    -- nothing but texts, numbers, lists and tables
    refine Decoder.read_grown grows depth fun r r' h => ?_
    simp (disch := first | decide | exact KindTag.still_of_part (by decide)) only [h.required_still]

end

/-! ## Kinds -/

section

variable {depth : Nat} {d d' : Document}

/-- A known kind that has grown is read as before, wherever it stands. -/
theorem ProposalKind.read_grown (grows : Grows depth d d') (allowed : Nat) :
    ofDocument? allowed d = ofDocument? allowed d' := by
  obtain ⟨tag, known, grows⟩ := grows
  cases allowed with
  | zero => rfl
  | succ allowed =>
    show (KindTag.named.lookup _ >>= fun tag => ofPayload? tag allowed _) =
      (KindTag.named.lookup _ >>= fun tag => ofPayload? tag allowed _)
    rw [known]
    exact ofPayload?_grown grows allowed

/-- A role or an NFT that has grown is free JSON still. -/
theorem KindTag.PartGrows.within {tag : KindTag} {name : String} (grows : tag.PartGrows depth name d d')
    (h : Within depth d) : Within depth d' := by
  obtain ⟨fields, _, grows⟩ := grows
  cases depth with
  | zero =>
    obtain ⟨v, read⟩ := h
    cases grows
    cases read
  | succ depth => exact grows.within (fun _ _ _ grew => grew.elim) h

/-- A kind that has grown is free JSON still. -/
theorem ProposalKind.Grows.within (grows : Grows depth d d') (h : Within depth d) : Within depth d' := by
  obtain @⟨name, tag, payload, payload', known, grows⟩ := grows
  have single : ∀ {depth : Nat} {d : Document},
      Within (depth + 1) (.object [(some name, d)]) ↔ Within depth d := by
    intro depth d
    rw [Document.within_object_iff, List.forall_mem_singleton]
    exact and_iff_right rfl
  -- the payload is an object in an object, so at least two levels are allowed
  match depth with
  | 0 =>
    obtain ⟨v, read⟩ := h
    cases read
  | 1 =>
    obtain ⟨v, read⟩ := single.1 h
    cases grows
    cases read
  | depth + 2 =>
    exact single.2 (Document.Grows.within grows (fun _ _ _ grew => grew.within) (single.1 h))

/-- A known kind is recognised when it has grown. -/
theorem ListedKind.read_grown {kind : ProposalKind} (grows : ProposalKind.Grows depth d d')
    (read : ofDocument? depth d = some (.known kind)) : ofDocument? depth d' = some (.known kind) := by
  obtain ⟨free, valid, made⟩ := Option.bind_eq_some_iff.1 read
  obtain ⟨free', valid'⟩ := grows.within ⟨free, valid⟩
  rw [ProposalKind.read_grown grows] at made
  refine Option.bind_eq_some_iff.2 ⟨free', valid', ?_⟩
  cases spelled : ProposalKind.ofDocument? depth d' with
  | none =>
    rw [spelled] at made
    cases made
  | some other =>
    rw [spelled] at made
    exact made

/-! ## Proposals -/

/-- No other field of a proposal grows than the kind. -/
theorem Proposal.still_of_other {name : String} (other : name ≠ "kind") (d d' : Document) :
    ¬ KindGrows depth name d d' := by
  intro ⟨here, _⟩
  exact other here

/-- A proposal of a known kind is read as before when it has grown. -/
theorem Proposal.read_grown {p : Proposal} {kind : ProposalKind} (known : p.kind = .known kind)
    (grows : Grows depth d d') (read : ofDocument? depth d = some p) : ofDocument? depth d' = some p := by
  rcases record_grown grows depth with ⟨none, _⟩ | ⟨r, r', spelled, spelled', grown⟩
  · rw [ofDocument?, none] at read
    cases read
  · have inside : r.depth = depth - 1 := by
      cases depth with
      | zero => cases d <;> cases spelled
      | succ depth => exact depth_of_record spelled
    have kinds : r.required "kind" ListedKind.ofDocument? = r'.required "kind" ListedKind.ofDocument? := by
      have found := required_kind read spelled
      rw [known] at found
      rcases grown.slot "kind" (by decide) with stays | ⟨d, d', here, there, _, grew⟩
      · rw [Record.required, Record.required, stays, grown.depth]
      · rw [Record.required, here, inside] at found
        rw [Record.required, Record.required, here, there, grown.depth, inside, found]
        exact (ListedKind.read_grown grew found).symm
    rw [← read, ofDocument?, ofDocument?, spelled, spelled', Option.bind_eq_bind, Option.bind_some,
      Option.bind_some, kinds]
    simp (disch := first | decide | exact still_of_other (by decide)) only
      [grown.required_still, grown.withDefault_still]

end

/-- The proposal is of a known kind, and it grows. -/
def Proposal.GrowsKnown (depth : Nat) (d d' : Document) : Prop :=
  Grows depth d d' ∧ ∃ p kind, ofDocument? depth d = some p ∧ p.kind = .known kind

/-- **What grows is read as if it had not.** If the text of a proposal of a known kind is written anew with its members
in another order, and with members of other names in the proposal, in the payload of its kind and in the role or
the NFT in that, the new text spells the same proposal. If some proposals of a listing are, the new listing
is the same too, and every key finds the same matches in it. -/
theorem Proposal.grown_is_read :
    (∀ (text text' : String) (d d' : Document) (p : Proposal) (kind : ProposalKind),
      Document.parse text.toList = some d → Document.parse text'.toList = some d' →
      Decoder.ofText? ofDocument? text = some p → p.kind = .known kind → Grows Value.deepest d d' →
      Decoder.ofText? ofDocument? text' = some p) ∧
    ∀ (text text' : String) (items items' : List Document),
      Document.parse text.toList = some (.array items) →
      Document.parse text'.toList = some (.array items') →
      List.Forall₂ (fun d d' => d = d' ∨ GrowsKnown (Value.deepest - 1) d d') items items' →
      Decoder.ofText? (Decoder.list ofDocument?) text = Decoder.ofText? (Decoder.list ofDocument?) text' ∧
      ∀ key : CorrelationKey, (Decoder.ofText? (Decoder.list ofDocument?) text).map key.findMatches =
        (Decoder.ofText? (Decoder.list ofDocument?) text').map key.findMatches := by
  constructor
  · intro text text' d d' p kind parsed parsed' read known grows
    rw [Decoder.ofText?, parsed] at read
    rw [Decoder.ofText?, parsed']
    exact read_grown known grows read
  · intro text text' items items' parsed parsed' each
    have alike : List.Forall₂ (fun d d' => ofDocument? (Value.deepest - 1) d =
        ofDocument? (Value.deepest - 1) d') items items' := by
      refine each.imp fun d d' changed => ?_
      rcases changed with same | ⟨grows, p, kind, read, known⟩
      · rw [same]
      · rw [read, read_grown known grows read]
    have page : Decoder.ofText? (Decoder.list ofDocument?) text =
        Decoder.ofText? (Decoder.list ofDocument?) text' := by
      rw [Decoder.ofText?, Decoder.ofText?, parsed, parsed']
      exact mapM_of_forall₂ alike
    exact ⟨page, fun key => by rw [page]⟩

/-- The contract comes to tell the status first and then the bond, and in the kind, when the NFT was begun and that
no royalty is known. The proposal is the one that it was, and so are the matches on a page with it. -/
theorem Proposal.grown_is_read_with_bond :
    let contract := ("contract", Document.text "mint.near")
    let kind := Document.record [("PrepairNft", .record [("nft_data", .record [contract])])]
    let kind' := Document.record [("PrepairNft", .record
      [("nft_data", .record [("royalty", .null), contract]), ("begun", .text "today")])]
    let written (kind : Document) := [("id", .nat 7), ("proposer", .text "artist.near"),
      ("description", .text "prepare it"), ("kind", kind)]
    let status := ("status", Document.text "InProgress")
    let d := Document.record (status :: written kind)
    let d' := Document.record (written kind' ++ [("bond", .array [.null, .bool true])] ++ [status])
    let nft : NftData := { (default : NftData) with contract := "mint.near" }
    let p : Proposal := ⟨7, "artist.near", "prepare it", .known (.prepareNft nft), .inProgress, .empty, ""⟩
    Decoder.ofText? ofDocument? d'.toText = some p ∧ ∀ key : CorrelationKey,
      (Decoder.ofText? (Decoder.list ofDocument?) (Document.array [d]).toText).map key.findMatches =
        (Decoder.ofText? (Decoder.list ofDocument?) (Document.array [d']).toText).map key.findMatches := by
  intro contract kind kind' written status d d' nft p
  have grows : ∀ n, Grows (n + 5) d d' := by
    intro n
    have data : KindTag.prepareNft.PartGrows (n + 2) "nft_data" (.record [contract])
        (.record [("royalty", .null), contract]) := by
      refine ⟨NftData.fields, rfl, .record [contract] [("royalty", .null)]
        (.cons ⟨rfl, .inl rfl⟩ .nil) ?_ (List.Perm.swap _ _ _)⟩
      rw [List.forall_mem_singleton]
      exact ⟨by decide, _, rfl⟩
    have kinds : ProposalKind.Grows (n + 4) kind kind' := by
      refine .payload .prepareNft rfl
        (.record [("nft_data", .record [("royalty", .null), contract])] [("begun", .text "today")]
          (.cons ⟨rfl, .inr data⟩ .nil) ?_ (List.Perm.refl _))
      rw [List.forall_mem_singleton]
      exact ⟨by decide, _, rfl⟩
    refine .record (status :: written kind') [("bond", .array [.null, .bool true])]
      (.cons ⟨rfl, .inl rfl⟩ (.cons ⟨rfl, .inl rfl⟩ (.cons ⟨rfl, .inl rfl⟩ (.cons ⟨rfl, .inl rfl⟩
        (.cons ⟨rfl, .inr ⟨rfl, kinds⟩⟩ .nil))))) ?_
      (List.perm_append_singleton status _).symm
    rw [List.forall_mem_singleton]
    exact ⟨by decide, _, rfl⟩
  have writable : d.Writable ∧ d'.Writable := by
    simp [d, d', written, kind, kind', status, contract, Document.record, Document.Writable,
      Document.WritableMembers, Document.WritableItems, Document.writable_nat, Document.writable_text]
  have read : ∀ depth ∈ [Value.deepest, Value.deepest - 1], ofDocument? depth d = some p := by
    decide +kernel
  constructor
  · refine grown_is_read.1 d.toText d'.toText d d' p _ (Document.parse_toText writable.1)
      (Document.parse_toText writable.2) ?_ rfl (grows 122)
    rw [Decoder.ofText?_toText writable.1]
    exact read _ List.mem_cons_self
  · intro key
    have known : GrowsKnown (Value.deepest - 1) d d' :=
      ⟨grows 121, p, _, read _ (List.mem_cons_of_mem _ List.mem_cons_self), rfl⟩
    refine (grown_is_read.2 _ _ [d] [d'] (Document.parse_toText (Document.writable_array ?_))
      (Document.parse_toText (Document.writable_array ?_)) (.cons (.inr known) .nil)).2 key
    · rw [List.forall_mem_singleton]
      exact writable.1
    · rw [List.forall_mem_singleton]
      exact writable.2

end Governance
