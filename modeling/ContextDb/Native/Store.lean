import ContextDb.Context.Continuous

/-! The contract of the native service: its errors, the authenticated caller, the access
policy of a stored observation and the allowance a call spends. -/

set_option autoImplicit false

namespace ContextDb.Native

open Std Lib ContextDb.Core
open Context (Digest OriginalSourceSpan QueryBudget QueryLimit)

inductive ErrorCode
  | invalidScope | unauthorized | ambiguousIdentity | snapshotExpired | indexTooStale
  | evidenceRequired | conflictUnresolved | budgetExhausted | continuationExpired
  | formatIncompatible | providerUnavailable | degradedMode | invalidArgument | permissionDenied
  | notFound | idempotencyConflict | invalidContinuation | integrityFailure | unavailable
  | resourceExhausted | unsupported
deriving DecidableEq

/-- The native service sets neither partial results nor a trace handle. -/
structure ServiceError where
  code : ErrorCode
  message : String
  retryable : Bool
  violatedPolicy : Option String := none
  safeNextAction : Option String := none
deriving DecidableEq

abbrev ServiceResult := Except ServiceError

variable (message : String)

def invalid : ServiceError := { code := .invalidArgument, message, retryable := false }

def integrity : ServiceError := { code := .integrityFailure, message, retryable := false }

def exhausted : ServiceError := { code := .resourceExhausted, message, retryable := false }

def unsupported (message : String) : ServiceError := { code := .unsupported, message, retryable := false }

def notFound : ServiceError :=
  { code := .notFound, message := "memory record was not found", retryable := false }

def permissionDenied : ServiceError :=
  { code := .permissionDenied, message := "memory policy denied the operation", retryable := false }

def stale : ServiceError := { code := .indexTooStale, message, retryable := true }

def requireSome {Value : Type} (value : Option Value) (error : ServiceError) : ServiceResult Value :=
  value.elim (.error error) .ok

variable {error : ServiceError}

theorem requireSome_ok {Value : Type} {value : Option Value} {found : Value}
    (success : requireSome value error = .ok found) : value = some found := by
  cases value with
  | none => cases success
  | some stored =>
    cases success
    rfl

/-! ### Callers and policies -/

inductive Sensitivity
  | «public»
  | internal
  | «private»
  | restricted
deriving DecidableEq

def Sensitivity.rank : Sensitivity → Nat
  | .public => 0
  | .internal => 1
  | .private => 2
  | .restricted => 3

inductive Consent
  | granted | unknown | denied
deriving DecidableEq

structure RequestContext where
  (requestId workspaceId subjectId : String)
  (audiences scopes : BTreeSet String)
  purpose : String
  clearance : Sensitivity
deriving DecidableEq

-- Named, so that the comparison of policies below does not carry its proof.
local instance lawfulBEqNames : LawfulBEq (BTreeSet String) := inferInstance

structure AccessPolicy where
  workspaceId : String
  (scopes owners audience : BTreeSet String)
  audiencePurposeGrants : BTreeMap String (BTreeSet String)
  purposes : BTreeSet String
  sensitivity : Sensitivity
  consent : Consent
  retrievable : Bool
deriving DecidableEq

def RequestContext.audienceKeys (principal : RequestContext) (owner : Bool) : List String :=
  principal.subjectId :: "*" :: ((if owner then ["@owner"] else []) ++ principal.audiences.toList)

def policyAllows (principal : RequestContext) (policy : AccessPolicy) : Bool :=
  if policy.workspaceId != principal.workspaceId || policy.consent != .granted ||
      !policy.retrievable || principal.clearance.rank < policy.sensitivity.rank ||
      (!policy.scopes.isEmpty && !BTreeSet.anyElement policy.scopes principal.scopes.contains) then
    false
  else
    let owner := policy.owners.contains principal.subjectId
    if policy.audiencePurposeGrants.isEmpty then
      (owner || policy.audience.contains principal.subjectId || policy.audience.contains "*" ||
          BTreeSet.anyElement principal.audiences policy.audience.contains) &&
        (policy.purposes.isEmpty || policy.purposes.contains principal.purpose)
    else
      (principal.audienceKeys owner).any fun audience =>
        policy.audiencePurposeGrants[audience]?.any (·.contains principal.purpose)

def trustedLegacyPolicy (context : RequestContext) : AccessPolicy where
  workspaceId := context.workspaceId
  scopes := context.scopes
  owners := .ofList [context.subjectId]
  audience := .ofList [context.subjectId]
  audiencePurposeGrants := ∅
  purposes := .ofList [context.purpose]
  sensitivity := .private
  consent := .granted
  retrievable := true

def trustedStructuredPolicy (context : RequestContext) : AccessPolicy :=
  { trustedLegacyPolicy context with sensitivity := context.clearance }

inductive Capability
  | observe | streamIngest | recallMemory | correct | forget | hardDelete | readMemory | traverse
  | readEvidence | readConflict | subscribe | runtime | maintenance | admin | rawEvidence
  | modelProcessing
deriving DecidableEq

theorem Capability.ctorIdx_injective (left right : Capability) (equal : left.ctorIdx = right.ctorIdx) : left = right := by
  cases left <;> cases right <;> first | rfl | cases equal

instance : Ord Capability := ⟨compareOn Capability.ctorIdx⟩

instance : TransOrd Capability :=
  inferInstanceAs (TransCmp (compareOn Capability.ctorIdx))

instance : LawfulEqOrd Capability :=
  lawfulEqCmp_compareOn Capability.ctorIdx Capability.ctorIdx_injective

inductive AuthenticationEvidence
  | authenticatedChannel (channelId peerIdentity bindingDigest : String)
  | requestSignature (algorithm keyId signature signedContextDigest : String)
deriving DecidableEq

structure AuthenticatedRequestContext where
  request : RequestContext
  (actorId agentId : String)
  sessionId : Option String
  capabilityGrants : BTreeSet Capability
  authentication : AuthenticationEvidence
deriving DecidableEq

/-- What the service takes from the transport contract: whether a caller's identity evidence
is valid, and the digest that names the caller. -/
structure Callers where
  validateAuthentication : AuthenticatedRequestContext → ServiceResult Unit
  authorizationBindingDigest : AuthenticatedRequestContext → String
  grantsDigest : BTreeSet Capability → String
  validateIdentifier : String → String → ServiceResult Unit

def requireCapability (callers : Callers) (context : AuthenticatedRequestContext)
    (capability : Capability) : ServiceResult Unit := do
  callers.validateAuthentication context
  ensure (context.capabilityGrants.contains capability)
    { code := .unauthorized, message := "required capability is absent", retryable := false }

/-! ### Allowances -/

def budgetError (reason : QueryLimit) : ServiceError :=
  { code := .budgetExhausted, message := match reason with
      | .work => "indexed work budget exhausted"
      | .bytes => "indexed byte budget exhausted"
      | .deadline => "indexed deadline exceeded"
      | .cancelled => "indexed query cancelled"
    retryable := false }

abbrev Budgeted := Stateful QueryBudget ServiceError

def spending (use : Stateful QueryBudget QueryLimit Unit) : Budgeted Unit := fun budget =>
  match use budget with
  | (.ok done, after) => (.ok done, after)
  | (.error limit, after) => (.error (budgetError limit), after)

def charge (work bytes : Nat) : Budgeted Unit := spending (QueryBudget.charge work bytes)

/-- Also what entering the publication queue asks of the allowance. -/
def checkBudget : Budgeted Unit := spending QueryBudget.check

def Uninterrupted (budget : QueryBudget) : Prop := ∀ check, budget.interruptions check = none

/-- Some allowance of work and bytes lets the computation end with the value, and every larger
one does. -/
def Affordable {Value : Type} (action : Budgeted Value) (value : Value) : Prop :=
  ∃ work bytes, ∀ budget, Uninterrupted budget → work ≤ budget.remainingWork → bytes ≤ budget.remainingBytes →
    ∃ after, action budget = (.ok value, after) ∧ Uninterrupted after ∧
      budget.remainingWork ≤ after.remainingWork + work ∧ budget.remainingBytes ≤ after.remainingBytes + bytes

namespace Affordable

variable {Value Result : Type}

theorem pure (value : Value) : Affordable (pure value) value :=
  ⟨0, 0, fun budget quiet _ _ => ⟨budget, rfl, quiet, Nat.le_refl _, Nat.le_refl _⟩⟩

variable {value : Value}

theorem lift {outcome : ServiceResult Value} (success : outcome = .ok value) : Affordable (.lift outcome) value :=
  ⟨0, 0, fun budget quiet _ _ =>
    ⟨budget, by rw [success]; rfl, quiet, Nat.le_refl _, Nat.le_refl _⟩⟩

theorem ensure {condition : Bool} (holds : condition = true) : Affordable (.lift (Lib.ensure condition error)) () :=
  .lift (ensure_ok_iff.mpr holds)

theorem bind {first : Budgeted Value} {next : Value → Budgeted Result}
    {result : Result} (head : Affordable first value) (tail : Affordable (next value) result) :
    Affordable (first >>= next) result := by
  obtain ⟨work, bytes, head⟩ := head
  obtain ⟨moreWork, moreBytes, tail⟩ := tail
  refine ⟨work + moreWork, bytes + moreBytes, ?_⟩
  intro budget quiet enoughWork enoughBytes
  obtain ⟨between, ran, quiet, leftWork, leftBytes⟩ := head budget quiet (by omega) (by omega)
  obtain ⟨after, finished, quiet, keptWork, keptBytes⟩ := tail between quiet (by omega) (by omega)
  exact ⟨after, (Stateful.run_bind ran).trans finished, quiet, by omega, by omega⟩

theorem check : Affordable checkBudget () := by
  refine ⟨0, 0, ?_⟩
  intro budget quiet _ _
  refine ⟨{ budget with checks := budget.checks + 1 }, ?_, quiet, Nat.le_refl _, Nat.le_refl _⟩
  simp only [checkBudget, spending, QueryBudget.check, quiet budget.checks]

theorem charge (work bytes : Nat) : Affordable (charge work bytes) () := by
  refine ⟨work, bytes, ?_⟩
  intro budget quiet enoughWork enoughBytes
  refine ⟨{ budget with
    checks := budget.checks + 1, remainingWork := budget.remainingWork - work
    remainingBytes := budget.remainingBytes - bytes }, ?_, quiet, ?_, ?_⟩
  · have checked : QueryBudget.check budget = (.ok (), { budget with checks := budget.checks + 1 }) := by
      simp only [QueryBudget.check, quiet budget.checks]
    have charged : QueryBudget.charge work bytes budget = (.ok (), { budget with
        checks := budget.checks + 1, remainingWork := budget.remainingWork - work
        remainingBytes := budget.remainingBytes - bytes }) := by
      refine (Stateful.run_bind checked).trans ?_
      dsimp only
      rw [if_neg (by omega), if_neg (by omega)]
    rw [Native.charge, spending, charged]
  · show budget.remainingWork ≤ budget.remainingWork - work + work
    omega
  · show budget.remainingBytes ≤ budget.remainingBytes - bytes + bytes
    omega

/-- An affordable outcome is the only one that any sufficient allowance has. -/
theorem run {action : Budgeted Value} (affordable : Affordable action value) : ∃ budget, (action budget).1 = .ok value := by
  obtain ⟨work, bytes, affordable⟩ := affordable
  obtain ⟨after, ran, _⟩ := affordable ⟨work, bytes, fun _ => none, 0⟩ (fun _ => rfl)
    (Nat.le_refl _) (Nat.le_refl _)
  exact ⟨⟨work, bytes, fun _ => none, 0⟩, congrArg Prod.fst ran⟩

end Affordable

/-! ### Captured events

The envelope an adapter hands over, the manifest of a model request and
the operational checkpoint of an owned run. -/

inductive EventKind
  | messageCreated | messageEdited | messageDeleted | modelRequested | modelResponseChunk
  | modelResponseCompleted | modelResponseAborted | toolRequested | toolCompleted | toolFailed
  | toolOutcomeUnknown | artifactObserved | artifactChanged | artifactDeleted | assertionRecorded
  | resolutionCommitted | runStarted | runCheckpointed | runResumed | runCancelled | captureGap
  | policyChanged | retentionDeleted
deriving DecidableEq

inductive EventRole
  | user | assistant | tool | host | externalSource
  | «import»
deriving DecidableEq

inductive PayloadOmission
  | policyExcluded | notExposedByUpstream | legacyMissing | explicitlyDeleted | sourceDeleted
deriving DecidableEq

structure OriginalPayloadRef where
  blockId : ContentBlockId
  digest : Digest
  byteLength : Nat
  manifestDigest : Digest
deriving DecidableEq

inductive RequestPart
  | source (span : OriginalSourceSpan)
  | jsonStringSource (span : OriginalSourceSpan) (byteLength : Nat) (digest : Digest)
  | novel (bytes : List UInt8)
  | storedNovel (payload : OriginalPayloadRef)
deriving DecidableEq

structure ModelRequestManifest where
  modelCallId : ModelCallId
  renderer : String
  wireDigest : Digest
  byteLength : Nat
  parts : List RequestPart
deriving DecidableEq

inductive EventPayload
  | inlineUtf8 (text : String) (digest : Digest)
  | inlineBytes (bytes : List UInt8) (mediaType : String) (digest : Digest)
  | staged (reference : OriginalPayloadRef) (mediaType : String)
  | assembly (manifest : ModelRequestManifest)
  | omitted (reason : PayloadOmission)
deriving DecidableEq

def EventPayload.originalBytes : EventPayload → Option (List UInt8)
  | .inlineUtf8 text _ => some (Context.bytesOf text)
  | .inlineBytes bytes _ _ => some bytes
  | .omitted _ | .staged _ _ | .assembly _ => none

def EventPayload.digest : EventPayload → Option Digest
  | .staged reference _ => some reference.digest
  | .assembly manifest => some manifest.wireDigest
  | .inlineUtf8 _ digest | .inlineBytes _ _ digest => some digest
  | .omitted _ => none

inductive ModelOutputFormat
  | opaquePartial | plainText | protocolJson
deriving DecidableEq

inductive EventProvenance
  | modelOutput (modelCallId : ModelCallId) (requestEventId : ObservationId)
      (format : ModelOutputFormat) (toolCalls : List ToolCallId)
  | modelRequest (modelCallId : ModelCallId)
  | ownedCheckpoint (expectedRevision : Nat) (stateDigest : Digest)
  | tool (callId : ToolCallId) (requestEventId : ObservationId) (actionDigest : Digest)
  | artifact (artifactId : ArtifactId) (baseDigest newDigest : Option Digest)
deriving DecidableEq

structure EventEnvelope where
  eventId : ObservationId
  workspaceId : WorkspaceId
  scopeIds : BTreeSet ScopeId
  producerId : StreamId
  producerSequence : Nat
  kind : EventKind
  role : EventRole
  sourceId : SourceId
  sessionId : Option SessionId
  runId : Option AgentRunId
  taskId : Option TaskId
  parentEventIds : BTreeSet ObservationId
  supersedesEventId : Option ObservationId
  payload : EventPayload
  provenance : Option EventProvenance
deriving DecidableEq

/-! ### Owned runs -/

structure OwnedRunIdentity where
  workspaceId : WorkspaceId
  sessionId : SessionId
  runId : AgentRunId
  (actorId agentId subjectId : String)
  scopes : BTreeSet ScopeId
deriving DecidableEq

inductive OwnedRunStatus
  | active | completed | cancelled
deriving DecidableEq

/-- A durable model intent; its presence never authorizes a duplicate request. -/
structure PendingModelCall where
  callId : ModelCallId
  requestEvent : ObservationId
  wireDigest : Option Digest
  interruptedOutput : Option ObservationId
deriving DecidableEq

structure PendingToolInvocation where
  proposal : OriginalSourceSpan
  callId : ToolCallId
  actionDigest : Digest
  requestEvent : ObservationId
  requestSequence : Nat
  outcomeEvent : ObservationId
  outcomeSequence : Nat
deriving DecidableEq

/-- The operational state of a run. `requiredSources` lists the spans of its messages and
open obligations, which is all that admission and custody read of them. -/
structure OwnedRunCheckpoint where
  identity : OwnedRunIdentity
  revision : Nat
  producerId : StreamId
  nextSequence : Nat
  requiredSources : List OriginalSourceSpan
  pendingModel : Option PendingModelCall
  pendingTool : Option PendingToolInvocation
  lastModelOutput : Option ObservationId
  status : OwnedRunStatus
deriving DecidableEq

structure Codec where
  eventDigest : EventEnvelope → Digest
  policyDigest : AccessPolicy → String
  decodeCheckpoint : List UInt8 → ServiceResult OwnedRunCheckpoint
  checkpointDigest : OwnedRunCheckpoint → Digest

def decodeCheckpoint (codec : Codec) (event : EventEnvelope) : ServiceResult OwnedRunCheckpoint := do
  let bytes ← requireSome event.payload.originalBytes (integrity "checkpoint source unavailable")
  codec.decodeCheckpoint bytes

/-! ### The suppression ledger

An append-only chain of denials per workspace that is retained
outside every native backup. -/

structure LedgerIdentity where
  authority : Uuid
  database : String
deriving DecidableEq

structure Checkpoint where
  epoch : Nat
  digest : String
deriving DecidableEq

structure Denial where
  workspace : String
  epoch : Nat
  eventId : ObservationId
  eventDigest : Digest
  (previous digest : String)
deriving DecidableEq

def Denial.checkpoint (denial : Denial) : Checkpoint := ⟨denial.epoch, denial.digest⟩

structure WorkspaceDenials where
  head : Option Checkpoint := none
  entries : BTreeMap Nat Denial := ∅
  denied : BTreeMap ObservationId Nat := ∅

structure SuppressionLedger where
  identity : LedgerIdentity
  workspaces : BTreeMap String WorkspaceDenials := ∅

structure Chaining where
  genesisDigest : LedgerIdentity → String → String
  denialDigest : LedgerIdentity → Denial → String

def maxCounter : Nat := 2 ^ 64 - 1

def pendingSuppression : ServiceError :=
  stale "current external suppression must be reconciled before disclosure"

namespace SuppressionLedger

variable (chaining : Chaining) (ledger : SuppressionLedger) (workspace : String)

def rows : WorkspaceDenials := (ledger.workspaces[workspace]?).getD {}

def genesis : Checkpoint := ⟨0, chaining.genesisDigest ledger.identity workspace⟩

def current : Checkpoint := ((ledger.rows workspace).head).getD (ledger.genesis chaining workspace)

def denied (id : ObservationId) : Bool := (ledger.rows workspace).denied.contains id

def readEntry (epoch : Nat) : ServiceResult Denial := do
  let entry ← requireSome (ledger.rows workspace).entries[epoch]? (integrity "accepted suppression entry is missing")
  ensure (entry.workspace == workspace && entry.epoch == epoch && epoch != 0 &&
      entry.digest == chaining.denialDigest ledger.identity { entry with digest := "" })
    (integrity "suppression entry binding differs")
  .ok entry

def nextDenial (id : ObservationId) (digest : Digest) : Denial :=
  let head := ledger.current chaining workspace
  let entry : Denial :=
    { workspace, epoch := head.epoch + 1, eventId := id, eventDigest := digest, previous := head.digest, digest := "" }
  { entry with digest := chaining.denialDigest ledger.identity entry }

def append (entry : Denial) : SuppressionLedger :=
  let rows := ledger.rows workspace
  { ledger with
    workspaces := ledger.workspaces.insert workspace
      { head := some entry.checkpoint
        entries := rows.entries.insert entry.epoch entry
        denied := rows.denied.insert entry.eventId entry.epoch } }

def deny (id : ObservationId) (digest : Digest) (expected : Checkpoint) :
    ServiceResult (Denial × SuppressionLedger) := do
  ensure (ledger.current chaining workspace == expected) pendingSuppression
  match (ledger.rows workspace).denied[id]? with
  | some epoch => do
      let entry ← ledger.readEntry chaining workspace epoch
      ensure (entry.eventId == id && entry.eventDigest == digest) (integrity "suppressed source identity was reused")
      .ok (entry, ledger)
  | none => do
      ensure (expected.epoch < maxCounter) (exhausted "suppression epoch overflow")
      let entry := ledger.nextDenial chaining workspace id digest
      .ok (entry, ledger.append workspace entry)

end SuppressionLedger

/-! ### Rows

The rows of a native store and the checks that every disclosure passes. A key that the
source derives from an identifier by hashing is that identifier here, and a row that is read
back is the row that was written: the digests kept beside a row are not recomputed. -/

def nativeCaptureDomain : String := "contextdb.native-capture/v1"

structure CaptureReceipt where
  (domain databaseId : String)
  workspaceId : WorkspaceId
  eventId : ObservationId
  workspaceCommit : Nat
  eventDigest : Digest
  payloadDigest : Option Digest
  token : String
deriving DecidableEq

structure StoredObservationPolicy where
  observation : String
  acceptedGlobalCommit : Nat
  access : AccessPolicy
deriving DecidableEq

structure PayloadHeader where
  reference : OriginalPayloadRef
  access : AccessPolicy
deriving DecidableEq

structure CaptureWork where
  eventId : ObservationId
  workspaceCommit : Nat
  eventDigest : Digest
deriving DecidableEq

/-- Captures up to `through` have current transitive restrictions. -/
structure CustodyState where
  (through authorizationEpoch : Nat)
  pending : Bool
deriving DecidableEq

structure Inputs where
  sources : BTreeSet ObservationId := ∅
  payloads : List OriginalPayloadRef := []
deriving DecidableEq

structure CustodyRecord where
  eventId : ObservationId
  workspace : String
  commit : Nat
  eventDigest : Digest
  inputs : Inputs
  policies : List AccessPolicy
deriving DecidableEq

structure RunHead where
  identity : OwnedRunIdentity
  revision : Nat
  stateDigest : Digest
  receipt : CaptureReceipt
  producerId : StreamId
  status : OwnedRunStatus
deriving DecidableEq

structure OriginalRevocationReceipt where
  eventId : ObservationId
  (workspaceCommit authorizationEpoch : Nat)
deriving DecidableEq

structure StoredRevocation where
  binding : String
  eventId : ObservationId
  receipt : OriginalRevocationReceipt
deriving DecidableEq

/-- The rows whose keys start with a workspace. Retry records of callers are kept under their
key, those of the reconciliation under the digest of the denial. -/
structure WorkspaceRows where
  journal : Nat := 0
  authorizationEpoch : Nat := 0
  scopeEpochs : BTreeMap String Nat := ∅
  custody : Option CustodyState := none
  outbox : BTreeMap Nat CaptureWork := ∅
  applied : Option Checkpoint := none
  runHeads : BTreeMap AgentRunId RunHead := ∅
  callerRevocations : BTreeMap String StoredRevocation := ∅
  ledgerRevocations : BTreeMap String OriginalRevocationReceipt := ∅

structure Store where
  globalHead : Nat := 0
  policies : BTreeMap String StoredObservationPolicy := ∅
  originals : BTreeMap ObservationId EventEnvelope := ∅
  receipts : BTreeMap ObservationId CaptureReceipt := ∅
  custody : BTreeMap ObservationId CustodyRecord := ∅
  payloads : BTreeMap ContentBlockId PayloadHeader := ∅
  workspaces : BTreeMap String WorkspaceRows := ∅

def Store.rows (store : Store) (workspace : String) : WorkspaceRows :=
  (store.workspaces[workspace]?).getD {}

def Store.setRows (store : Store) (workspace : String) (rows : WorkspaceRows) : Store :=
  { store with workspaces := store.workspaces.insert workspace rows }

@[simp] theorem Store.rows_setRows (store : Store) (workspace : String) (rows : WorkspaceRows) :
    (store.setRows workspace rows).rows workspace = rows := by
  simp [Store.setRows, Store.rows]

theorem Store.rows_setRows_of_ne {workspace other : String} (store : Store) (rows : WorkspaceRows)
    (different : other ≠ workspace) : (store.setRows workspace rows).rows other = store.rows other := by
  simp only [Store.setRows, Store.rows]
  rw [BTreeMap.getElem?_insert_of_ne (Ne.symm different)]

/-- What a read sees: the rows of the store and, when the store is bound to one, the ledger. -/
structure Snapshot where
  store : Store
  ledger : Option SuppressionLedger

structure Service extends Callers, Codec, Chaining where
  databaseId : String
  leaseInstance : Uuid

namespace Snapshot

variable (service : Service) (snapshot : Snapshot) (context : AuthenticatedRequestContext)
  (workspace : String) (id : ObservationId)

/-! ### Suppression -/

def suppressionApplied : ServiceResult Checkpoint := do
  let ledger ← requireSome snapshot.ledger (unsupported "current external suppression authority is not configured")
  .ok (((snapshot.store.rows workspace).applied).getD (ledger.genesis service.toChaining workspace))

def requireSuppressionCurrent : ServiceResult Unit :=
  match snapshot.ledger with
  | none => .ok ()
  | some ledger => do
      let applied ← snapshot.suppressionApplied service workspace
      ensure (applied == ledger.current service.toChaining workspace) pendingSuppression

/-! ### Captured originals -/

def capturedReceiptMetadata : ServiceResult CaptureReceipt := do
  let receipt ← requireSome snapshot.store.receipts[id]? notFound
  ensure (receipt.eventId == id && receipt.databaseId == service.databaseId && receipt.domain == nativeCaptureDomain)
    (integrity "capture metadata receipt binding differs")
  .ok receipt

def authorizedCapturePolicy : ServiceResult StoredObservationPolicy := do
  snapshot.requireSuppressionCurrent service context.request.workspaceId
  let policy ← requireSome snapshot.store.policies[id.display]? notFound
  ensure (policyAllows context.request policy.access) permissionDenied
  ensure (policy.observation == id.display) (integrity "capture policy binding is invalid")
  .ok policy

structure CapturedOriginal where
  event : EventEnvelope
  receipt : CaptureReceipt
deriving DecidableEq

def loadCapturedOriginal : ServiceResult CapturedOriginal := do
  let receipt ← requireSome snapshot.store.receipts[id]? notFound
  let _ ← requireSome snapshot.store.policies[id.display]? (integrity "capture policy is absent")
  let event ← requireSome snapshot.store.originals[id]? (integrity "capture original is absent")
  ensure (event.eventId == id && receipt.eventId == id &&
      receipt.databaseId == service.databaseId && receipt.domain == nativeCaptureDomain &&
      receipt.workspaceId == event.workspaceId && receipt.eventDigest == service.eventDigest event &&
      receipt.payloadDigest == event.payload.digest)
    (integrity "capture receipt and original disagree")
  .ok ⟨event, receipt⟩

/-! ### Custody -/

def pendingCustody : ServiceError :=
  stale "workspace disclosure requires bounded custody migration or revocation propagation"

def maxLabels : Nat := 128

def captureMaxRequestParts : Nat := 512

def insertLabel (labels : BTreeMap String AccessPolicy) (policy : AccessPolicy) :
    ServiceResult (BTreeMap String AccessPolicy) := do
  ensure (policy.workspaceId == workspace) (integrity "custody policy crosses workspaces")
  let labels := labels.insert (service.policyDigest policy) policy
  ensure (labels.size ≤ maxLabels) (exhausted "capture requires more than 128 distinct custody restrictions")
  .ok labels

def custodyState : ServiceResult (Option CustodyState) := do
  let state := (snapshot.store.rows workspace).custody
  ensure (state.all fun state =>
      state.authorizationEpoch == (snapshot.store.rows workspace).authorizationEpoch)
    (integrity "custody state version or authorization epoch differs")
  .ok state

def custodyRecord : ServiceResult CustodyRecord := do
  let record ← requireSome snapshot.store.custody[id]? pendingCustody
  let receipt ← snapshot.capturedReceiptMetadata service id
  ensure (record.eventId == id && record.commit != 0 && record.commit == receipt.workspaceCommit &&
      record.eventDigest == receipt.eventDigest &&
      record.workspace == receipt.workspaceId.display && !record.policies.isEmpty &&
      record.policies.length ≤ maxLabels && record.inputs.sources.size ≤ captureMaxRequestParts + 64 &&
      record.inputs.payloads.length ≤ captureMaxRequestParts)
    (integrity "custody record binding or bounds invalid")
  let labels ← record.policies.foldlM (insertLabel service record.workspace) ∅
  ensure (labels.values == record.policies) (integrity "custody labels are not unique canonical restrictions")
  .ok record

def custodyWork (through : Nat) : List CaptureWork :=
  ((snapshot.store.rows workspace).outbox.toList.filter fun entry => through < entry.1).map (·.2)

def requireCustodyReady : ServiceResult Unit := do
  snapshot.requireSuppressionCurrent service workspace
  match ← snapshot.custodyState workspace with
  | some state => ensure (!state.pending) pendingCustody
  | none => ensure (snapshot.custodyWork workspace 0).isEmpty pendingCustody

def authorizeDerivedCustody : ServiceResult Unit := do
  snapshot.requireCustodyReady service context.request.workspaceId
  let record ← snapshot.custodyRecord service id
  ensure (record.workspace == context.request.workspaceId && record.policies.all (policyAllows context.request))
    permissionDenied

/-! ### Owned runs -/

def checkIdentity (identity : OwnedRunIdentity) : ServiceResult Unit :=
  ensure (context.request.workspaceId == identity.workspaceId.display &&
      context.sessionId == some identity.sessionId.display &&
      context.actorId == identity.actorId && context.agentId == identity.agentId &&
      context.request.subjectId == identity.subjectId &&
      context.request.scopes == .ofList (identity.scopes.toList.map (·.display)))
    permissionDenied

def currentOwnedCheckpoint (receipt : CaptureReceipt) : ServiceResult OwnedRunCheckpoint := do
  let _ ← snapshot.authorizedCapturePolicy service context receipt.eventId
  snapshot.authorizeDerivedCustody service context receipt.eventId
  let original ← snapshot.loadCapturedOriginal service receipt.eventId
  let checkpoint ← decodeCheckpoint service.toCodec original.event
  checkIdentity context checkpoint.identity
  let head ← requireSome ((snapshot.store.rows context.request.workspaceId).runHeads[checkpoint.identity.runId]?)
    (integrity "owned run head absent")
  ensure (original.receipt == receipt && head.receipt == receipt &&
      head.revision == checkpoint.revision && head.identity == checkpoint.identity &&
      checkpoint.status == .active && head.stateDigest == service.checkpointDigest checkpoint)
    (stale "owned run changed before dispatch admission")
  .ok checkpoint

end Snapshot

end ContextDb.Native
