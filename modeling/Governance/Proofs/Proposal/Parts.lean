import Governance.Proofs.Correlation.Persistence
import Governance.Proofs.Json.Values
import Governance.Proposal.Nft
import Governance.Proposal.Role
import Governance.Revenue

/-!
# Parts of proposals in JSON

NFT data, roles and revenue tables stand in the payloads of proposals. For each of them there are two statements:
its document is read back as it was (`ofDocument?_toDocument`), and as free JSON its document spells its free
value (`spells_toValue`). Texts and numbers raise no question; what is asked of a role is that the values in
its vote policy can be read where they stand (`RolePermission.PolicyWithin`).
-/

namespace Governance

open Json

variable {allowed : Nat}

/-! ## NFT data -/

namespace NftData

/-- The members of the document, in the order in which they are written. -/
def members (nft : NftData) : List (String × Document) :=
  [("contract", .text nft.contract),
    ("title", .nullable .text nft.title),
    ("desc", .nullable .text nft.description),
    ("image_cid", .nullable .text nft.imageCid),
    ("music_folder_cid", .nullable .text nft.musicFolderCid)] ++
  known "animation_url" nft.animationUrl ++
  [("meta_json_cid", .nullable .text nft.metaJsonCid)] ++
  known "image_hash" nft.imageHash ++
  known "music_folder_hash" nft.musicFolderHash ++
  known "meta_json_hash" nft.metaJsonHash ++
  known "animation_url_hash" nft.animationUrlHash

theorem toDocument_eq (nft : NftData) : nft.toDocument = .record nft.members := rfl

theorem names_known (name : String) (text : Option String) :
    ((known name text).map Prod.fst).Sublist [name] := by
  cases text with
  | none => exact List.nil_sublist _
  | some s => exact List.Sublist.refl _

/-- Some fields may be left out, but the order of the others is kept. -/
theorem names_sublist (nft : NftData) : (nft.members.map Prod.fst).Sublist fields := by
  unfold members
  simp only [List.map_append]
  exact ((((((List.Sublist.refl _).append (names_known _ _)).append (List.Sublist.refl _)).append
    (names_known _ _)).append (names_known _ _)).append (names_known _ _)).append (names_known _ _)

theorem distinct (nft : NftData) : (nft.members.map Prod.fst).Nodup :=
  nft.names_sublist.nodup (by decide)

/-- A member that may be left out is found under its name only, if it is there. -/
theorem lookup_known (name other : String) (text : Option String) :
    (known name text).lookup other = if other = name then text.map .text else none := by
  by_cases same : other = name
  · subst same
    rw [if_pos rfl]
    cases text with
    | none => rfl
    | some s => exact List.lookup_cons_self
  · rw [if_neg same, List.lookup_eq_none_iff]
    cases text with
    | none => exact nofun
    | some s => simpa [known] using same

/-- What stands behind the first member that may be left out. -/
theorem lookup_members (nft : NftData) :
    nft.members.lookup "animation_url" = nft.animationUrl.map .text ∧
    nft.members.lookup "meta_json_cid" = some (.nullable .text nft.metaJsonCid) ∧
    nft.members.lookup "image_hash" = nft.imageHash.map .text ∧
    nft.members.lookup "music_folder_hash" = nft.musicFolderHash.map .text ∧
    nft.members.lookup "meta_json_hash" = nft.metaJsonHash.map .text ∧
    nft.members.lookup "animation_url_hash" = nft.animationUrlHash.map .text := by
  simp [members, List.lookup_append, List.lookup_cons, lookup_known]

/-- The data of an NFT is read back from its document. -/
theorem ofDocument?_toDocument (nft : NftData) :
    ofDocument? (allowed + 1) nft.toDocument = some nft := by
  obtain ⟨animation, metadata, image, music, json, hash⟩ := nft.lookup_members
  rw [ofDocument?, toDocument_eq, Decoder.bind_record_written nft.distinct]
  dsimp only
  -- field by field, in the order of their declaration
  rw [Decoder.required_text (by decide) rfl, Decoder.optional_text (by decide) rfl,
    Decoder.optional_text (by decide) rfl, Decoder.optional_text (by decide) rfl,
    Decoder.optional_text (by decide) rfl, Decoder.withDefault_known (by decide) animation,
    Decoder.optional_text (by decide) metadata, Decoder.withDefault_known (by decide) image,
    Decoder.withDefault_known (by decide) music, Decoder.withDefault_known (by decide) json,
    Decoder.withDefault_known (by decide) hash]
  rfl

/-! ### As free JSON -/

/-- The members of the free value in the order of the document. -/
def valueMembers (nft : NftData) : List (String × Value) :=
  [("contract", .string nft.contract),
    ("title", .nullable .string nft.title),
    ("desc", .nullable .string nft.description),
    ("image_cid", .nullable .string nft.imageCid),
    ("music_folder_cid", .nullable .string nft.musicFolderCid)] ++
  knownValue "animation_url" nft.animationUrl ++
  [("meta_json_cid", .nullable .string nft.metaJsonCid)] ++
  knownValue "image_hash" nft.imageHash ++
  knownValue "music_folder_hash" nft.musicFolderHash ++
  knownValue "meta_json_hash" nft.metaJsonHash ++
  knownValue "animation_url_hash" nft.animationUrlHash

theorem spells_known (name : String) (text : Option String) :
    Document.SpellsMembers allowed (known name text) (knownValue name text) := by
  cases text with
  | none => exact .nil
  | some s => exact .cons (Document.spells_text s) .nil

theorem spells_members (nft : NftData) :
    Document.SpellsMembers allowed nft.members nft.valueMembers := by
  have text : ∀ s : Option String,
      Document.Spells allowed (.nullable .text s) (.nullable .string s) :=
    Document.spells_nullable Document.spells_text
  unfold members valueMembers
  refine .append (.append (.append (.append (.append (.append ?first (spells_known _ _)) ?metadata)
    (spells_known _ _)) (spells_known _ _)) (spells_known _ _)) (spells_known _ _)
  case first =>
    exact .cons (Document.spells_text _) (.cons (text _) (.cons (text _) (.cons (text _)
      (.cons (text _) .nil))))
  case metadata => exact .cons (text _) .nil

/-- The document of the data spells the free value. -/
theorem spells_toValue (nft : NftData) :
    Document.Spells (allowed + 1) nft.toDocument nft.toValue := by
  have distinct : (nft.valueMembers.map Prod.fst).Nodup := by
    have same : nft.members.map Prod.fst = nft.valueMembers.map Prod.fst :=
      (@spells_members allowed nft).names
    rw [← same]
    exact nft.distinct
  have order : Value.record nft.valueMembers = nft.toValue := by
    refine Value.record_perm distinct ?_
    -- the animation is written in front of the metadata
    unfold valueMembers
    refine List.Perm.append_right _ (List.Perm.append_right _ (List.Perm.append_right _
      (List.Perm.append_right _ ?_)))
    rw [List.append_assoc]
    exact (List.perm_append_comm.append_left _).trans (by simp)
  rw [toDocument_eq, ← order]
  exact Document.spells_record nft.spells_members

end NftData

/-! ## Roles -/

namespace RoleKind

/-- A membership is read back from its document. -/
theorem ofDocument?_toDocument (kind : RoleKind) :
    ofDocument? (allowed + 2) kind.toDocument = some kind := by
  cases kind with
  | everyone => rfl
  | member tokens => rfl
  | group accounts =>
    have items : Decoder.list Decoder.string (allowed + 1) (.array (accounts.map .text)) =
        some accounts := Decoder.list_written accounts fun _ _ => rfl
    show (Decoder.list Decoder.string (allowed + 1) (.array (accounts.map .text))).map group = _
    rw [items]
    rfl

/-- The document of a membership spells the free value. -/
theorem spells_toValue (kind : RoleKind) :
    Document.Spells (allowed + 2) kind.toDocument kind.toValue := by
  cases kind with
  | everyone => exact Document.spells_text _
  | member tokens => exact Document.spells_record (.cons (Document.spells_text tokens) .nil)
  | group accounts =>
    have items : Document.Spells (allowed + 1) (.array (accounts.map .text))
        (.array (accounts.map .string)) :=
      Document.spells_array accounts fun a _ => Document.spells_text a
    exact Document.spells_record (.cons items .nil)

end RoleKind

namespace RolePermission

/-- The values in the vote policy are regular and nest at most `allowed` deep. -/
def PolicyWithin (allowed : Nat) (role : RolePermission) : Prop :=
  ∀ e ∈ role.votePolicy.entries, e.2.Regular ∧ e.2.depth ≤ allowed

/-- A role is read back from its document. -/
theorem ofDocument?_toDocument {role : RolePermission} (within : role.PolicyWithin (allowed + 1)) :
    ofDocument? (allowed + 3) role.toDocument = some role := by
  have permissions : Decoder.list Decoder.string (allowed + 2) (.array (role.permissions.map .text)) =
      some role.permissions := Decoder.list_written role.permissions fun _ _ => rfl
  have policy : Decoder.map Decoder.value (allowed + 2)
      (.record (role.votePolicy.entries.map fun e => (e.1, e.2.toDocument))) =
      some role.votePolicy := by
    refine Decoder.map_written role.votePolicy ?_
    intro e he
    obtain ⟨regular, shallow⟩ := within e he
    exact Value.ofDocument?_toDocument e.2 _ regular shallow
  rw [ofDocument?, toDocument, Decoder.bind_record_written (by simp)]
  rw [Decoder.required_text (by decide) rfl]
  rw [Decoder.required_written (by decide) rfl, RoleKind.ofDocument?_toDocument]
  rw [Decoder.required_written (by decide) rfl, permissions]
  rw [Decoder.withDefault_written (by decide) rfl, policy]
  rfl

/-- The document of a role spells the free value. -/
theorem spells_toValue {role : RolePermission} (within : role.PolicyWithin (allowed + 1)) :
    Document.Spells (allowed + 3) role.toDocument role.toValue := by
  have permissions : Document.Spells (allowed + 2) (.array (role.permissions.map .text))
      (.array (role.permissions.map .string)) :=
    Document.spells_array role.permissions fun a _ => Document.spells_text a
  have policy : Document.Spells (allowed + 2)
      (.record (role.votePolicy.entries.map fun e => (e.1, e.2.toDocument)))
      (.object role.votePolicy.entries) := by
    have each := Document.spells_entries Value.toDocument (fun v => v) role.votePolicy fun e he =>
      Document.spells_value (within e he).1 (within e he).2
    rw [List.map_id'] at each
    exact each
  exact Document.spells_record (.cons (Document.spells_text role.name)
    (.cons role.kind.spells_toValue (.cons permissions (.cons policy .nil))))

end RolePermission

/-! ## Revenue tables -/

namespace RevenueShares

/-- A table is read back from its document. -/
theorem ofDocument?_toDocument (shares : RevenueShares) :
    ofDocument? (allowed + 1) shares.toDocument = some shares := by
  refine @Decoder.map_written _ allowed Decoder.uint64 (fun n => .nat n.toNat) shares ?_
  exact fun e _ => Decoder.uint64_nat allowed e.2

/-- The document of a table spells the free value. -/
theorem spells_toValue (shares : RevenueShares) :
    Document.Spells (allowed + 1) shares.toDocument shares.toValue := by
  refine Document.spells_entries (fun n => .nat n.toNat) (fun n => .nat n.toNat) shares ?_
  exact fun e _ => Document.spells_nat e.2

end RevenueShares

end Governance
