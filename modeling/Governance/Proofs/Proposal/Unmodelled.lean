import Governance.Proofs.Correlation.Matching
import Governance.Proofs.Json.Depth
import Governance.Proofs.Proposal.Listing

/-!
# Kinds that are not modelled

The contract lists kinds of proposals that are not modelled here, and kinds that are not well-formed. None of them
keeps a listing from being read: whatever JSON stands in place of the kind, the proposal has the known kind that
the JSON spells by itself (`ProposalKind.steady`), or the JSON as a free value. Main statement: such a proposal
is read, alone or in a listing, and is not looked at by any key (`Proposal.any_kind_is_read`).
-/

namespace Governance

open Json Json.Decoder

/-! ## What is read does not depend on where it stands -/

theorem RoleKind.steady : Steady RoleKind.ofDocument? := by
  intro allowed more d le within
  unfold ofDocument?
  rcases alternative_deeper le within with ⟨here, there⟩ | ⟨name, here, there⟩ |
    ⟨name, inner, inner', payload, le, within, here, there⟩
  · rw [here, there]
  · rw [here, there]
  · rw [here, there]
    simp only [Option.bind_eq_bind, Option.bind_some]
    by_cases member : name = "Member"
    · subst member
      exact congrArg (Option.map RoleKind.member) (steady_string le within)
    · by_cases group : name = "Group"
      · subst group
        exact congrArg (Option.map RoleKind.group) (steady_list steady_string le within)
      · by_cases everyone : name = "Everyone"
        · subst everyone
          cases payload <;> rfl
        · -- no alternative has this name
          simp [member, group, everyone]

theorem RolePermission.steady : Steady RolePermission.ofDocument? :=
  steady_record _ fun r r' h => by
    simp only [h.required _ steady_string, h.required _ RoleKind.steady,
      h.required _ (steady_list steady_string), h.withDefault _ _ (steady_map steady_value)]

theorem NftData.steady : Steady NftData.ofDocument? :=
  steady_record _ fun r r' h => by
    simp only [h.required _ steady_string, h.optional _ steady_string,
      h.withDefault _ _ (steady_nullable steady_string)]

theorem RevenueShares.steady : Steady RevenueShares.ofDocument? :=
  steady_map steady_uint64

/-- The payload of each kind is read alike. -/
theorem ProposalKind.steady_ofPayload? (tag : KindTag) : Steady (ProposalKind.ofPayload? tag) := by
  cases tag with
  | addMember => exact steady_record _ fun r r' h => by simp only [h.required _ steady_string]
  | addOrUpdateRole =>
    exact steady_record _ fun r r' h => by simp only [h.required _ RolePermission.steady]
  | prepareNft => exact steady_record _ fun r r' h => by simp only [h.required _ NftData.steady]
  | updatePreparedNft =>
    exact steady_record _ fun r r' h => by
      simp only [h.required _ steady_uint64, h.required _ NftData.steady]
  | mintRoot => exact steady_record _ fun r r' h => by simp only [h.required _ steady_uint64]
  | createRevenueTable =>
    exact steady_record _ fun r r' h => by
      simp only [h.required _ steady_string, h.required _ RevenueShares.steady]
  | alterRevenueTable =>
    exact steady_record _ fun r r' h => by
      simp only [h.required _ steady_uint64, h.required _ RevenueShares.steady,
        h.required _ steady_string]
  | payoutRevenue =>
    exact steady_record _ fun r r' h => by simp only [h.required _ (steady_list steady_uint64)]
  | resendFailedTransaction =>
    exact steady_record _ fun r r' h => by
      simp only [h.required _ steady_uint64, h.required _ steady_string]

/-- Whether JSON spells a known kind, and which, does not depend on where it stands. -/
theorem ProposalKind.steady : Steady ProposalKind.ofDocument? := by
  intro allowed more d le within
  unfold ofDocument?
  rcases alternative_deeper le within with ⟨here, there⟩ | ⟨name, here, there⟩ |
    ⟨name, inner, inner', payload, le, within, here, there⟩
  · rw [here, there]
  · rw [here, there]
  · rw [here, there]
    simp only [Option.bind_eq_bind, Option.bind_some]
    cases KindTag.named.lookup name with
    | none => rfl
    | some tag => exact steady_ofPayload? tag le within

/-! ## Reading proposals with any kind -/

/-- What a kind is taken for: the known kind that its JSON spells, if it spells one, or else a free value. -/
def ListedKind.taken (spelled : Option ProposalKind) (free : Value) : ListedKind :=
  (spelled.map known).getD (unrecognized free)

/-- A kind is taken for what its JSON spells by itself. -/
theorem ListedKind.ofDocument?_taken {depth : Nat} (shallow : depth ≤ Value.deepest) {kind : Document}
    {free : Value} (valid : Value.ofDocument? depth kind = some free) :
    ListedKind.ofDocument? depth kind =
      some (taken (ProposalKind.ofDocument? Value.deepest kind) free) := by
  rw [ofDocument?, Decoder.value, valid, ProposalKind.steady shallow ⟨free, valid⟩]
  rfl

namespace Proposal

/-- The fields of a record are those of a proposal, whatever stands in place of the kind. -/
structure Fits (r : Decoder.Record) (p : Proposal) : Prop where
  id : r.required "id" uint64 = some p.id
  proposer : r.required "proposer" string = some p.proposer
  description : r.required "description" string = some p.description
  status : r.required "status" ProposalStatus.ofDocument? = some p.status
  votes : r.withDefault "votes" .empty (map value) = some p.votes
  submissionTime : r.withDefault "submission_time" "" string = some p.submissionTime

/-- A document spells a proposal with any JSON in place of the kind, as long as that is a value where it stands.
The kind of `p` does not matter. -/
def SpelledBut (depth : Nat) (d kind : Document) (free : Value) (p : Proposal) : Prop :=
  ∃ r, record fields depth d = some r ∧ Fits r p ∧ r.slot "kind" = .given kind ∧
    Value.ofDocument? r.depth kind = some free

/-- Any JSON will do as the kind of a proposal. -/
theorem ofDocument?_spelledBut {depth : Nat} (shallow : depth ≤ Value.deepest) {d kind : Document}
    {free : Value} {p : Proposal} (h : SpelledBut depth d kind free p) :
    ofDocument? depth d =
      some { p with kind := .taken (ProposalKind.ofDocument? Value.deepest kind) free } := by
  obtain ⟨r, spelled, fits, given, valid⟩ := h
  have depth_le : r.depth ≤ Value.deepest := by
    cases depth with
    | zero => cases d <;> cases spelled
    | succ depth =>
      rw [depth_of_record spelled]
      omega
  have listed : r.required "kind" ListedKind.ofDocument? =
      some (.taken (ProposalKind.ofDocument? Value.deepest kind) free) := by
    rw [Record.required, given]
    exact ListedKind.ofDocument?_taken depth_le valid
  rw [ofDocument?, spelled]
  simp only [Option.bind_eq_bind, Option.bind_some, fits.id, fits.proposer, fits.description, listed,
    fits.status, fits.votes, fits.submissionTime]
  rfl

end Proposal

/-! ## Keys and kinds that are not modelled -/

/-- A key does not look at proposals of unknown kinds. -/
theorem CorrelationKey.findMatches_known (key : CorrelationKey) (page : List Proposal) :
    key.findMatches page = key.findMatches (page.filter fun p => p.kind.known?.isSome) := by
  have known : ∀ p ∈ page, key.accepts p = (key.accepts p && p.kind.known?.isSome) := by
    intro p _
    cases accepted : key.accepts p with
    | false => rfl
    | true =>
      obtain ⟨kind, same, _⟩ := (accepts_iff.1 accepted).holds
      rw [same]
      rfl
  rw [findMatches, findMatches, List.filter_filter, List.filter_congr known]

/-- A list is read if each of its items is. -/
theorem Json.Decoder.list_of_forall₂ {α : Type} {read : Decoder α} {depth : Nat}
    {items : List Document} {values : List α}
    (each : List.Forall₂ (fun d a => read depth d = some a) items values) :
    Decoder.list read (depth + 1) (.array items) = some values := by
  show items.mapM (read depth) = some values
  induction each with
  | nil => rfl
  | cons first _ ih =>
    rw [List.mapM_cons, first, ih]
    rfl

/-- **Any JSON may stand in place of a kind.** A proposal with it is read, alone or in a listing: the known kind
that the JSON spells by itself is its kind, or else the JSON as a free value. What a key finds on a page
does not depend on proposals of unknown kinds. -/
theorem Proposal.any_kind_is_read :
    (∀ (text kindText : String) (d kind : Document) (free : Value) (p : Proposal),
      Document.parse text.toList = some d → Document.parse kindText.toList = some kind →
      SpelledBut Value.deepest d kind free p →
      Decoder.ofText? ofDocument? text =
        some { p with kind := .taken (Decoder.ofText? ProposalKind.ofDocument? kindText) free }) ∧
    (∀ (text : String) (items : List Document) (page : List Proposal),
      Document.parse text.toList = some (.array items) →
      List.Forall₂ (fun d p => ∃ kindText kind free other,
        Document.parse (String.toList kindText) = some kind ∧
        SpelledBut (Value.deepest - 1) d kind free other ∧
        p = { other with kind := .taken (Decoder.ofText? ProposalKind.ofDocument? kindText) free })
        items page →
      Decoder.ofText? (Decoder.list ofDocument?) text = some page) ∧
    ∀ (key : CorrelationKey) (page : List Proposal),
      key.findMatches page = key.findMatches (page.filter fun p => p.kind.known?.isSome) := by
  have alone : ∀ {text : String} {kind : Document}, Document.parse text.toList = some kind →
      Decoder.ofText? ProposalKind.ofDocument? text =
        ProposalKind.ofDocument? Value.deepest kind := by
    intro text kind parsed
    rw [Decoder.ofText?, parsed]
    rfl
  refine ⟨?single, ?listing, CorrelationKey.findMatches_known⟩
  case single =>
    intro text kindText d kind free p parsed kindParsed spelled
    rw [Decoder.ofText?, parsed, alone kindParsed]
    exact ofDocument?_spelledBut (Nat.le_refl _) spelled
  case listing =>
    intro text items page parsed each
    rw [Decoder.ofText?, parsed]
    refine Decoder.list_of_forall₂ (each.imp ?_)
    rintro d p ⟨kindText, kind, free, other, kindParsed, spelled, rfl⟩
    rw [alone kindParsed]
    exact ofDocument?_spelledBut (by decide) spelled

/-- The tag of this kind is known, but its ID is a text. The proposal is read, and no key accepts it. -/
theorem Proposal.malformed_kind_is_read :
    let kind := Document.record [("MintRoot", .record [("id", .text "7")])]
    let d := Document.record [("id", .nat 7), ("proposer", .text "council.near"),
      ("description", .text "mint it"), ("kind", kind), ("status", .text "InProgress")]
    let p : Proposal := ⟨7, "council.near", "mint it",
      .unrecognized (.object [("MintRoot", .object [("id", .string "7")])]), .inProgress, .empty, ""⟩
    Decoder.ofText? ofDocument? d.toText = some p ∧ ∀ key : CorrelationKey, key.findMatches [p] = [] := by
  intro kind d p
  have inner : kind.Writable := by
    refine Document.writable_record ?_
    simp only [List.forall_mem_cons]
    exact ⟨Document.writable_record (by simp [Document.writable_text]), nofun⟩
  have outer : d.Writable := by
    refine Document.writable_record ?_
    simp only [List.forall_mem_cons]
    exact ⟨Document.writable_nat 7, Document.writable_text _, Document.writable_text _, inner,
      Document.writable_text _, nofun⟩
  have spelled : SpelledBut Value.deepest d kind
      (.object [("MintRoot", .object [("id", .string "7")])]) p := by
    have names : record fields Value.deepest d = some _ := record_written (by simp) _ _
    refine ⟨_, names, ⟨?_, ?_, ?_, ?_, ?_, ?_⟩, ?_, ?_⟩
    · exact uint64_nat _ 7
    all_goals rfl
  obtain ⟨single, _, found⟩ := any_kind_is_read
  refine ⟨?_, ?_⟩
  · have read := single d.toText kind.toText d kind _ p (Document.parse_toText outer)
      (Document.parse_toText inner) spelled
    rw [read, Decoder.ofText?_toText inner]
    rfl
  · intro key
    rw [found]
    rfl

end Governance
