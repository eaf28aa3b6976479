import Governance.Json.Decoder

/-!
# NFTs in preparation

An artist uploads the parts of an NFT one after the other. What a proposal sends of it
(`NftData`) and what the contract keeps of it (`InProgressNft`) may both have gaps; it can be minted once
title, description, image, metadata and music are there.
-/

namespace Governance

open Json

/-- What a proposal says about an NFT. Everything but the contract may still be missing. -/
structure NftData where
  /-- The minting contract that the NFT will belong to. -/
  contract : String
  title : Option String
  description : Option String
  /-- Content ID of the image. -/
  imageCid : Option String
  /-- Content ID of the music folder. -/
  musicFolderCid : Option String
  /-- Content ID of the animation. -/
  animationUrl : Option String
  /-- Content ID of the metadata. -/
  metaJsonCid : Option String
  imageHash : Option String
  musicFolderHash : Option String
  metaJsonHash : Option String
  animationUrlHash : Option String
  deriving DecidableEq, Repr, Inhabited

namespace NftData

/-- The names of the fields, in order. -/
def fields : List String :=
  ["contract", "title", "desc", "image_cid", "music_folder_cid", "animation_url", "meta_json_cid",
    "image_hash", "music_folder_hash", "meta_json_hash", "animation_url_hash"]

/-- A member that is left out when nothing is known. -/
def known (name : String) (text : Option String) : List (String × Document) :=
  text.toList.map fun s => (name, .text s)

/-- The document of the data. -/
def toDocument (nft : NftData) : Document :=
  .record (
    [("contract", .text nft.contract),
      ("title", .nullable .text nft.title),
      ("desc", .nullable .text nft.description),
      ("image_cid", .nullable .text nft.imageCid),
      ("music_folder_cid", .nullable .text nft.musicFolderCid)] ++
    known "animation_url" nft.animationUrl ++
    [("meta_json_cid", .nullable .text nft.metaJsonCid)] ++
    known "image_hash" nft.imageHash ++
    known "music_folder_hash" nft.musicFolderHash ++
    known "meta_json_hash" nft.metaJsonHash ++
    known "animation_url_hash" nft.animationUrlHash)

/-- A member of the free value that is left out when nothing is known. -/
def knownValue (name : String) (text : Option String) : List (String × Value) :=
  text.toList.map fun s => (name, .string s)

/-- The data as a free value. -/
def toValue (nft : NftData) : Value :=
  .record (
    [("contract", .string nft.contract),
      ("title", .nullable .string nft.title),
      ("desc", .nullable .string nft.description),
      ("image_cid", .nullable .string nft.imageCid),
      ("music_folder_cid", .nullable .string nft.musicFolderCid),
      ("meta_json_cid", .nullable .string nft.metaJsonCid)] ++
    knownValue "animation_url" nft.animationUrl ++
    knownValue "image_hash" nft.imageHash ++
    knownValue "music_folder_hash" nft.musicFolderHash ++
    knownValue "meta_json_hash" nft.metaJsonHash ++
    knownValue "animation_url_hash" nft.animationUrlHash)

/-- Reads the data. -/
def ofDocument? : Decoder NftData := fun depth d => do
  let r ← Decoder.record fields depth d
  let hint (name : String) := r.withDefault name none (Decoder.nullable Decoder.string)
  return {
    contract := ← r.required "contract" Decoder.string
    title := ← r.optional "title" Decoder.string
    description := ← r.optional "desc" Decoder.string
    imageCid := ← r.optional "image_cid" Decoder.string
    musicFolderCid := ← r.optional "music_folder_cid" Decoder.string
    animationUrl := ← hint "animation_url"
    metaJsonCid := ← r.optional "meta_json_cid" Decoder.string
    imageHash := ← hint "image_hash"
    musicFolderHash := ← hint "music_folder_hash"
    metaJsonHash := ← hint "meta_json_hash"
    animationUrlHash := ← hint "animation_url_hash" }

end NftData

/-- What the contract keeps of an NFT that is being prepared. -/
structure InProgressNft where
  id : UInt64
  /-- When it was begun, in nanoseconds. -/
  initiated : UInt64
  /-- Who prepares it, usually the artist. -/
  artist : String
  /-- The minting contract that the NFT will belong to. -/
  contract : String
  /-- When it is to be minted. -/
  scheduled : Option UInt64
  title : Option String
  description : Option String
  /-- Content ID of the metadata. -/
  metadata : Option String
  /-- Content ID of the image. -/
  image : Option String
  /-- Content ID of the music folder. -/
  music : Option String
  deriving DecidableEq, Repr, Inhabited

namespace InProgressNft

/-- The names of the fields, in order. -/
def fields : List String :=
  ["id", "initiated", "artist", "contract", "scheduled", "title", "desc", "meta", "image", "music"]

/-- The document of an NFT in preparation. -/
def toDocument (nft : InProgressNft) : Document :=
  .record [
    ("id", .nat nft.id.toNat),
    ("initiated", .nat nft.initiated.toNat),
    ("artist", .text nft.artist),
    ("contract", .text nft.contract),
    ("scheduled", .nullable (fun t => .nat t.toNat) nft.scheduled),
    ("title", .nullable .text nft.title),
    ("desc", .nullable .text nft.description),
    ("meta", .nullable .text nft.metadata),
    ("image", .nullable .text nft.image),
    ("music", .nullable .text nft.music)]

/-- Reads an NFT in preparation. -/
def ofDocument? : Decoder InProgressNft := fun depth d => do
  let r ← Decoder.record fields depth d
  return {
    id := ← r.required "id" Decoder.uint64
    initiated := ← r.required "initiated" Decoder.uint64
    artist := ← r.required "artist" Decoder.string
    contract := ← r.required "contract" Decoder.string
    scheduled := ← r.optional "scheduled" Decoder.uint64
    title := ← r.optional "title" Decoder.string
    description := ← r.optional "desc" Decoder.string
    metadata := ← r.optional "meta" Decoder.string
    image := ← r.optional "image" Decoder.string
    music := ← r.optional "music" Decoder.string }

/-- Whether a text is there and not empty. -/
def isThere (text : Option String) : Bool :=
  text.any fun s => !s.isEmpty

/-- Whether nothing that minting needs is missing. -/
def isReadyForMint (nft : InProgressNft) : Bool :=
  !nft.contract.isEmpty && isThere nft.title && isThere nft.description && isThere nft.image &&
    isThere nft.metadata && isThere nft.music

end InProgressNft

end Governance
