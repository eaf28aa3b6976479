import Governance.Json.Decoder

/-!
# Token metadata

What a minting contract keeps about a token. Contracts of different age keep different parts of it: all
but the first three may be left out.
-/

namespace Governance

open Json

/-- What a minting contract says about a token. -/
structure TokenMetadata where
  title : Option String
  description : Option String
  /-- Content ID of the media. -/
  media : Option String
  mediaHash : Option String
  /-- How many copies there are. -/
  copies : Option UInt64
  issuedAt : Option UInt64
  /-- Further data as JSON text, such as the music and the parent. -/
  extra : Option String
  /-- Content ID of the metadata. -/
  reference : Option String
  deriving DecidableEq, Repr, Inhabited

namespace TokenMetadata

/-- The names of the fields, in order. -/
def fields : List String :=
  ["title", "description", "media", "media_hash", "copies", "issued_at", "extra", "reference"]

/-- The document of the metadata. -/
def toDocument (m : TokenMetadata) : Document :=
  .record [
    ("title", .nullable .text m.title),
    ("description", .nullable .text m.description),
    ("media", .nullable .text m.media),
    ("media_hash", .nullable .text m.mediaHash),
    ("copies", .nullable (fun n => .nat n.toNat) m.copies),
    ("issued_at", .nullable (fun n => .nat n.toNat) m.issuedAt),
    ("extra", .nullable .text m.extra),
    ("reference", .nullable .text m.reference)]

/-- Reads the metadata. -/
def ofDocument? : Decoder TokenMetadata := fun depth d => do
  let r ← Decoder.record fields depth d
  let text (name : String) := r.withDefault name none (Decoder.nullable Decoder.string)
  let number (name : String) := r.withDefault name none (Decoder.nullable Decoder.uint64)
  return {
    title := ← r.optional "title" Decoder.string
    description := ← r.optional "description" Decoder.string
    media := ← r.optional "media" Decoder.string
    mediaHash := ← text "media_hash"
    copies := ← number "copies"
    issuedAt := ← number "issued_at"
    extra := ← text "extra"
    reference := ← text "reference" }

end TokenMetadata

end Governance
