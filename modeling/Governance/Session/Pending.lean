import Governance.Correlation.Key
import Governance.Session.Store
import Governance.Text.Blank
import Governance.Text.Decimal

/-!
# The pending submission

A session remembers at most one submission whose proposal has not been found: its key, the baseline, and, for
most kinds, the value that tells it from others of its kind, for people to look at. Saving a key replaces
the one before it; a key is consumed by its token, and only while it is the pending one.
-/

namespace Governance

/-! ## Names of entries -/

namespace SessionEntry

/-- The baseline of the last submission. -/
def lastProposalId : String := "last_proposal_id"

/-- The pending key. -/
def pendingCorrelation : String := "pending_correlation"

/-- The proposal that was found last. -/
def resolvedProposalId : String := "resolved_proposal_id"

end SessionEntry

/-- The entry that shows what tells a submission from others of its kind, with the path of the field it
shows. -/
def KindTag.sessionEntry? : KindTag → Option (String × String)
  | addMember => some ("group_name_when_registering", "role")
  | addOrUpdateRole => some ("name_of_the_new_group", "role.name")
  | prepareNft => some ("nft_title_when_prepairing", "nft_data.title")
  | updatePreparedNft | mintRoot => some ("in_progress_id", "id")
  | createRevenueTable => some ("last_root_id", "root_id")
  | alterRevenueTable => some ("tree_index", "tree_index")
  | resendFailedTransaction => some ("failed_id", "failed_id")
  | payoutRevenue => none

/-- A value as an entry shows it: a string as it is, anything else as JSON. -/
def Json.Value.shown : Json.Value → String
  | .string s => s
  | v => v.toText

/-- An ID as an entry holds it. -/
def idText (id : UInt64) : String :=
  String.ofList (Text.digits id.toNat)

/-- The ID that an entry holds. -/
def readId (text : String) : Option UInt64 :=
  (Text.readBelow UInt64.size (Text.trim text.toList)).map UInt64.ofNat

/-- An ID that was written is read back. -/
theorem readId_idText (id : UInt64) : readId (idText id) = some id := by
  have plain : Text.trim (Text.digits id.toNat) = Text.digits id.toNat :=
    Text.trim_of_forall fun _ hc => Text.isBlank_of_isDigit (Text.isDigit_of_mem_digits hc)
  simp [readId, idText, plain, Text.readBelow_digits id.toNat_lt]

namespace SessionStore

variable {m : Type → Type} [Monad m]

/-! ## IDs -/

/-- The ID under a name. -/
def getId (store : SessionStore m) (name : String) : ExceptT Error m (Option UInt64) := do
  match ← store.get name with
  | none => return none
  | some raw =>
    match readId raw with
    | some id => return some id
    | none => throw (.session (.notProposalId name raw))

/-- The baseline of the last submission. -/
def lastProposalId (store : SessionStore m) : ExceptT Error m (Option UInt64) :=
  store.getId SessionEntry.lastProposalId

/-- The proposal that was found last. -/
def resolvedProposalId (store : SessionStore m) : ExceptT Error m (Option UInt64) :=
  store.getId SessionEntry.resolvedProposalId

/-- Remembers a proposal that was found. -/
def recordResolved (store : SessionStore m) (id : UInt64) : ExceptT Error m Unit :=
  store.set SessionEntry.resolvedProposalId (idText id)

/-! ## Keys -/

/-- The pending key. -/
def pending (store : SessionStore m) : ExceptT Error m (Option CorrelationKey) := do
  match ← store.get SessionEntry.pendingCorrelation with
  | none => return none
  | some raw =>
    match CorrelationKey.ofText? raw with
    | some key => return some key
    | none => throw .serialization

/-- The pending key, which has to be there. -/
def loadKey (store : SessionStore m) : ExceptT Error m CorrelationKey := do
  match ← store.pending with
  | some key => return key
  | none => throw .noPendingCorrelation

/-- Shows in the session what tells a submission from others of its kind. -/
def showField (store : SessionStore m) (key : CorrelationKey) : ExceptT Error m Unit :=
  match key.expectedKind.sessionEntry? with
  | none => pure ()
  | some (entry, path) =>
    match key.fields.get? path with
    | some v => store.set entry v.shown
    | none => store.remove entry

/-- Makes a key the pending one. A session whose pending key cannot be read keeps it. -/
def saveKey (store : SessionStore m) (key : CorrelationKey) : ExceptT Error m Unit := do
  let _ ← store.pending
  store.set SessionEntry.lastProposalId (idText key.baseline)
  store.showField key
  store.set SessionEntry.pendingCorrelation key.toText

/-- Consumes the pending key if it has the given token, and says whether it had. -/
def invalidate (store : SessionStore m) (token : Uuid) : ExceptT Error m Bool := do
  match ← store.pending with
  | none => return false
  | some key =>
    if key.token = token then
      store.remove SessionEntry.pendingCorrelation
      match key.expectedKind.sessionEntry? with
      | some (entry, _) => store.remove entry
      | none => pure ()
      return true
    else return false

end SessionStore

/-! ## The session of a workflow -/

/-- What a workflow does with its session. -/
structure PersistedSession (m : Type → Type) where
  /-- Makes a key the pending one. -/
  saveKey : CorrelationKey → ExceptT Error m Unit
  /-- The pending key, which has to be there. -/
  loadKey : ExceptT Error m CorrelationKey
  /-- Consumes the pending key if it has the given token, and says whether it had. -/
  invalidate : Uuid → ExceptT Error m Bool
  /-- Remembers a proposal that was found. -/
  recordResolved : UInt64 → ExceptT Error m Unit

/-- The session in a store. -/
def SessionStore.session {m : Type → Type} [Monad m] (store : SessionStore m) : PersistedSession m :=
  ⟨store.saveKey, store.loadKey, store.invalidate, store.recordResolved⟩

end Governance
