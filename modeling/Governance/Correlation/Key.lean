import Governance.Correlation.Fields
import Governance.Proposal.Basic
import Governance.Timestamp
import Governance.Uuid

/-!
# Correlation keys

Submitting a proposal does not tell reliably under which ID the contract keeps it. What is needed to find it
again is written down beforehand: the ID that the next proposal was going to receive, the kind, and the
distinguishing fields. A key also has a token, so that whoever consumes it says which key is meant.
-/

namespace Governance

open Json

/-- What is remembered about a submission. -/
structure CorrelationKey where
  /-- The ID that the next proposal was going to receive when the key was made. -/
  baseline : UInt64
  /-- The kind of the submitted proposal. -/
  expectedKind : KindTag
  /-- What its payload holds. -/
  fields : Fields
  /-- Which key this is. -/
  token : Uuid
  createdAt : Timestamp
  deriving DecidableEq

namespace CorrelationKey

/-- The key of a submission of the given kind. -/
def forKind (baseline : UInt64) (kind : ProposalKind) (token : Uuid) (createdAt : Timestamp) :
    CorrelationKey :=
  ⟨baseline, kind.tag, kind.fields, token, createdAt⟩

/-- Whether a proposal is in progress, of the expected kind, and holds the fields. -/
def accepts (key : CorrelationKey) (p : Proposal) : Bool :=
  p.isInProgress && p.kind.known?.any fun kind =>
    kind.tag = key.expectedKind && key.fields.holdIn kind.payload

/-- The document of a key. -/
def toDocument (key : CorrelationKey) : Document :=
  .record [
    ("baseline_proposal_id", .nat key.baseline.toNat),
    ("expected_kind", key.expectedKind.toDocument),
    ("fields", key.fields.toDocument),
    ("token", .text key.token.toText),
    ("created_at", .text key.createdAt.toText)]

/-- Reads a key. -/
def ofDocument? : Decoder CorrelationKey := fun depth d => do
  let r ← Decoder.record ["baseline_proposal_id", "expected_kind", "fields", "token", "created_at"]
    depth d
  return {
    baseline := ← r.required "baseline_proposal_id" Decoder.uint64
    expectedKind := ← r.required "expected_kind" KindTag.ofDocument?
    fields := ← r.required "fields" Fields.ofDocument?
    token := ← r.required "token" (Decoder.filterMap Uuid.ofText? Decoder.string)
    createdAt := ← r.required "created_at" (Decoder.filterMap Timestamp.ofText? Decoder.string) }

/-- The JSON text of a key. -/
def toText (key : CorrelationKey) : String :=
  key.toDocument.toText

/-- The key that a JSON text spells. -/
def ofText? (text : String) : Option CorrelationKey :=
  Decoder.ofText? ofDocument? text

end CorrelationKey

end Governance
