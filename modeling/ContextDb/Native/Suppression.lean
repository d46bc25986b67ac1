import ContextDb.Native.Store

/-! Derived custody. Every captured original carries the access policies of everything it was
derived from. They are written at capture, and rebuilt in capture order after a revocation. -/

set_option autoImplicit false

namespace ContextDb.Native

open Std Lib ContextDb.Core
open Context (Digest)

/-! ### Data inputs -/

def RequestPart.addInput (inputs : Inputs) : RequestPart → Inputs
  | .source span | .jsonStringSource span _ _ =>
    { inputs with sources := inputs.sources.insert span.eventId }
  | .storedNovel payload => { inputs with payloads := inputs.payloads ++ [payload] }
  | .novel _ => inputs

def EventPayload.addInputs (inputs : Inputs) : EventPayload → Inputs
  | .staged reference _ => { inputs with payloads := inputs.payloads ++ [reference] }
  | .assembly manifest => manifest.parts.foldl RequestPart.addInput inputs
  | _ => inputs

def PendingModelCall.inputs (call : PendingModelCall) : List ObservationId :=
  (if call.wireDigest.isSome then [call.requestEvent] else []) ++ call.interruptedOutput.toList

def OwnedRunCheckpoint.inputs (checkpoint : OwnedRunCheckpoint) : List ObservationId :=
  checkpoint.requiredSources.map (·.eventId) ++ checkpoint.lastModelOutput.toList ++
    checkpoint.pendingModel.toList.flatMap (·.inputs) ++
      checkpoint.pendingTool.toList.map (·.proposal.eventId)

/-- The originals that an event's attribution derives it from. Ordinary causal links are not
data inputs. -/
def EventEnvelope.attributedInputs (codec : Codec) (event : EventEnvelope) :
    ServiceResult (List ObservationId) :=
  match event.provenance with
  | some (.modelOutput _ request _ _) => .ok [request]
  | some (.tool _ request _) =>
    .ok (if event.kind = .toolRequested then event.parentEventIds.toList else [request])
  | some (.ownedCheckpoint _ _) => do
      let checkpoint ← decodeCheckpoint codec event
      .ok checkpoint.inputs
  | _ => .ok []

def inputs (codec : Codec) (event : EventEnvelope) : ServiceResult Inputs := do
  let revised : Inputs := { sources := .ofList event.supersedesEventId.toList }
  let inputs := event.payload.addInputs revised
  let attributed ← event.attributedInputs codec
  let inputs := { inputs with sources := inputs.sources.insertMany attributed }
  ensure (!inputs.sources.contains event.eventId)
    (invalid "capture custody cannot depend on itself")
  .ok inputs

/-! ### Building a record -/

def maxRecordBytes : Nat := 1024 * 1024

structure Sizes where
  policy : StoredObservationPolicy → Nat
  access : AccessPolicy → Nat
  record : CustodyRecord → Nat
  work : CaptureWork → Nat
  event : EventEnvelope → Nat

section

variable (service : Service) (sizes : Sizes) (meter : Nat → Nat → Budgeted Unit)
  (snapshot : Snapshot) (overlay : BTreeMap ObservationId CustodyRecord) (workspace : String)
    (commit : Nat)

def parentRecord (source : ObservationId) : ServiceResult CustodyRecord :=
  match overlay[source]? with
  | some parent => .ok parent
  | none => snapshot.custodyRecord service source

variable (labels : BTreeMap String AccessPolicy)

def inheritLabel (policy : AccessPolicy) : Budgeted (BTreeMap String AccessPolicy) := do
  meter 1 0
  .lift (Snapshot.insertLabel service workspace labels policy)

def inheritLabels (source : ObservationId) : Budgeted (BTreeMap String AccessPolicy) := do
  meter 1 0
  let parent ← .lift (parentRecord service snapshot overlay source)
  meter 1 (sizes.record parent)
  .lift (ensure (parent.workspace == workspace && parent.commit < commit)
    (integrity "custody dependency crosses workspace or capture order"))
  parent.policies.foldlM (inheritLabel service meter workspace) labels

def payloadIndexPolicy (reference : OriginalPayloadRef) : ServiceResult AccessPolicy := do
  let header ← requireSome snapshot.store.payloads[reference.blockId]? notFound
  ensure (header.reference == reference) (integrity "stored payload reference binding differs")
  .ok header.access

def inheritPayload (reference : OriginalPayloadRef) : Budgeted (BTreeMap String AccessPolicy) := do
  meter 1 0
  let policy ← .lift (payloadIndexPolicy snapshot reference)
  meter 0 (sizes.access policy)
  .lift (Snapshot.insertLabel service workspace labels policy)

def buildCustodyRecord (event : EventEnvelope) : Budgeted CustodyRecord := do
  let policy ← .lift (requireSome snapshot.store.policies[event.eventId.display]?
    (integrity "custody source policy absent"))
  let workspace := event.workspaceId.display
  let inputs ← .lift (inputs service.toCodec event)
  meter 1 (sizes.policy policy)
  let labels ← .lift (Snapshot.insertLabel service workspace ∅ policy.access)
  let labels ← inputs.sources.toList.foldlM
    (inheritLabels service sizes meter snapshot overlay workspace commit) labels
  let labels ← inputs.payloads.foldlM (inheritPayload service sizes meter snapshot workspace) labels
  let record : CustodyRecord :=
    { eventId := event.eventId, workspace, commit, eventDigest := service.eventDigest event, inputs,
      policies := labels.values }
  .lift (ensure (sizes.record record ≤ maxRecordBytes)
    (exhausted "capture custody metadata exceeds 1 MiB"))
  pure record

end

/-! ### Captures -/

variable (service : Service) (sizes : Sizes)

/-- Building at capture is not metered. -/
def unmetered (_ _ : Nat) : Budgeted Unit := pure ()

variable (snapshot : Snapshot) (store : Store) (workspace : String)

def initialCustody : CustodyState where
  through := 0
  authorizationEpoch := (snapshot.store.rows workspace).authorizationEpoch
  pending := !(snapshot.custodyWork workspace 0).isEmpty

def Store.putCustody (state : CustodyState) : Store :=
  store.setRows workspace { store.rows workspace with custody := some state }

variable (context : AuthenticatedRequestContext) (event : EventEnvelope)

def publishCaptureCustody (commit : Nat) : Budgeted Store := do
  let workspace := event.workspaceId.display
  let stored ← .lift (snapshot.custodyState workspace)
  let state := stored.getD (initialCustody snapshot workspace)
  let record ← buildCustodyRecord service sizes unmetered snapshot ∅ commit event
  .lift (if record.inputs.sources.isEmpty then .ok
    () else snapshot.requireCustodyReady service workspace)
  .lift (ensure (record.policies.all (policyAllows context.request)) permissionDenied)
  let state := if state.pending then state else { state with through := commit }
  let store := { snapshot.store with
    custody := snapshot.store.custody.insert record.eventId record }
  pure (store.putCustody workspace state)

def hostRequestEcho : Bool :=
  event.kind == .modelRequested && event.role == .host && (event.payload matches .assembly _) &&
    (event.provenance matches some (.modelRequest _))

def Store.advanceScopes (scopes : List String) (commit : Nat) : Store :=
  let rows := store.rows workspace
  store.setRows workspace { rows with
    scopeEpochs := rows.scopeEpochs.insertMany (scopes.map fun scope => (scope, commit)) }

theorem Store.rows_advanceScopes_of_ne {workspace other : String} (store : Store)
    (scopes : List String) (commit : Nat) (different : other ≠ workspace) :
    (store.advanceScopes workspace scopes commit).rows other = store.rows other :=
  Store.rows_setRows_of_ne _ _ different

def Store.beginFrame : ServiceResult Nat := do
  ensure (store.globalHead < maxCounter) (exhausted "native global commit sequence is exhausted")
  ensure ((store.rows workspace).journal < maxCounter)
    (exhausted "native workspace commit sequence is exhausted")
  .ok ((store.rows workspace).journal + 1)

def Store.finishFrame (commit : Nat) : Store :=
  { store with globalHead := store.globalHead + 1 }.setRows workspace
    { store.rows workspace with journal := commit }

theorem Store.rows_finishFrame_of_ne {workspace other : String} (store : Store) (commit : Nat)
    (different : other ≠ workspace) : (store.finishFrame workspace commit).rows other =
      store.rows other :=
  Store.rows_setRows_of_ne _ _ different

def Store.putOriginal (receipt : CaptureReceipt) : Store :=
  let access := { trustedStructuredPolicy context.request with
    scopes := .ofList (event.scopeIds.toList.map (·.display)) }
  { store with
    policies := store.policies.insert event.eventId.display
      ⟨event.eventId.display, store.globalHead + 1, access⟩
    originals := store.originals.insert event.eventId event, receipts := store.receipts.insert event.eventId receipt }

def Store.putWork (work : CaptureWork) : Store :=
  let rows := store.rows workspace
  store.setRows workspace { rows with outbox := rows.outbox.insert work.workspaceCommit work }

/-- A capture, without its producer, stream and retry rows. What it checks of them, and of the
sources of the event, is `admissible`. -/
def appendCapture (admissible : Snapshot → AuthenticatedRequestContext → EventEnvelope →
      ServiceResult Unit) (snapshot : Snapshot) (context : AuthenticatedRequestContext)
    (event : EventEnvelope) (token : String) : Budgeted (CaptureReceipt × Store) := do
  .lift (requireCapability service.toCallers context .observe)
  .lift (ensure (context.request.workspaceId == event.workspaceId.display &&
      event.scopeIds.toList.all fun scope => context.request.scopes.contains scope.display)
    permissionDenied)
  .lift (admissible snapshot context event)
  .lift (ensure (!snapshot.store.policies.contains event.eventId.display)
    { code := .idempotencyConflict
      message := "event identity or producer position was already accepted; use its original key"
      retryable := false })
  let workspace := event.workspaceId.display
  let commit ← .lift (snapshot.store.beginFrame workspace)
  let receipt : CaptureReceipt :=
    { domain := nativeCaptureDomain, databaseId := service.databaseId,
      workspaceId := event.workspaceId, eventId := event.eventId, workspaceCommit := commit,
      eventDigest := service.eventDigest event, payloadDigest := event.payload.digest, token }
  let staged := snapshot.store.putOriginal context event receipt
  let store ← publishCaptureCustody service sizes { snapshot with store := staged } context event
    commit
  let store := store.putWork workspace ⟨event.eventId, commit, receipt.eventDigest⟩
  let scopes := if hostRequestEcho event then [] else event.scopeIds.toList.map (·.display)
  pure (receipt, (store.advanceScopes workspace scopes commit).finishFrame workspace commit)

/-! ### The forward pass -/

structure CustodyProgress where
  (through processed authorizationEpoch : Nat)
  caughtUp : Bool
deriving DecidableEq

/-- What the analysis of a batch hands to its publication: the state it started from and the
records it built outside the lock. -/
structure CustodyAnalysis where
  expected : Option CustodyState
  (epoch through : Nat)
  records : BTreeMap ObservationId CustodyRecord

/-- The batch is published under the lock when no revocation and no other batch came first. -/
def publishCustody (analysis : CustodyAnalysis) : Budgeted (CustodyProgress × Store) := do
  checkBudget
  let workspace := context.request.workspaceId
  let current ← .lift (snapshot.custodyState workspace)
  .lift (ensure (current == analysis.expected &&
      (snapshot.store.rows workspace).authorizationEpoch == analysis.epoch) Snapshot.pendingCustody)
  let state : CustodyState :=
    { through := analysis.through, authorizationEpoch := analysis.epoch,
      pending := !(snapshot.custodyWork workspace analysis.through).isEmpty }
  forM analysis.records.toList fun _ => checkBudget
  let store := { snapshot.store with
    custody := snapshot.store.custody.insertMany analysis.records.toList }
  let commit ← .lift (store.beginFrame workspace)
  checkBudget
  pure (⟨state.through, analysis.records.size, state.authorizationEpoch, !state.pending⟩,
    (store.putCustody workspace state).finishFrame workspace commit)

/-! ### Revocation

A store that is bound to a suppression ledger records
the denial there first; what it does to its own rows is one transaction. -/

variable (service : Service) (snapshot : Snapshot) (workspace : String)

/-- Custody is current only up to the capture before the revoked one. -/
def invalidateCustody (sourceCommit epoch : Nat) : ServiceResult CustodyState := do
  let stored ← snapshot.custodyState workspace
  let through := (stored.map (·.through)).getD 0
  .ok { through := min through (sourceCommit - 1), authorizationEpoch := epoch, pending := true }

variable (context : AuthenticatedRequestContext) (id : ObservationId)

def revokeRows : ServiceResult (OriginalRevocationReceipt × Store) := do
  let policy ← requireSome snapshot.store.policies[id.display]? notFound
  ensure (policy.access.workspaceId == workspace) permissionDenied
  let original ← snapshot.capturedReceiptMetadata service id
  let commit ← snapshot.store.beginFrame workspace
  let rows := snapshot.store.rows workspace
  ensure (rows.authorizationEpoch < maxCounter) (exhausted "authorization epoch overflow")
  let epoch := rows.authorizationEpoch + 1
  let custody ← invalidateCustody snapshot workspace original.workspaceCommit epoch
  let denied := { policy with access := { policy.access with retrievable := false } }
  let store := { snapshot.store with policies := snapshot.store.policies.insert id.display denied }
  let store := store.setRows workspace
    { rows with authorizationEpoch := epoch, custody := some custody }
  .ok (⟨id, commit, epoch⟩,
    (store.advanceScopes workspace denied.access.scopes.toList commit).finishFrame workspace commit)

def publishSuppressionCheckpoint (through : Checkpoint) : ServiceResult Store := do
  let applied ← snapshot.suppressionApplied service workspace
  if through.epoch ≤ applied.epoch then .ok snapshot.store
  else do
    let store := snapshot.store.setRows workspace
      { snapshot.store.rows workspace with applied := some through }
    let commit ← store.beginFrame workspace
    .ok (store.finishFrame workspace commit)

/-- The denial is durable in the ledger before the store is written. -/
def recordExternalRevocation : Budgeted (Option (Checkpoint × SuppressionLedger)) :=
  match snapshot.ledger with
  | none => pure none
  | some ledger => do
      .lift (snapshot.requireSuppressionCurrent service workspace)
      let receipt ← .lift (snapshot.capturedReceiptMetadata service id)
      .lift (ensure (receipt.workspaceId.display == workspace) permissionDenied)
      let expected ← .lift (snapshot.suppressionApplied service workspace)
      checkBudget
      let (denial, after) ← .lift (ledger.deny service.toChaining workspace id receipt.eventDigest expected)
      if ledger.denied workspace id then pure () else checkBudget
      pure (some (denial.checkpoint, after))

def revokeTransaction (key : String) (external : Option Checkpoint) :
    Budgeted (OriginalRevocationReceipt × Store) := do
  let workspace := context.request.workspaceId
  let (receipt, store) ← .lift (revokeRows service snapshot workspace id)
  let rows := store.rows workspace
  let store := store.setRows workspace { rows with
    callerRevocations := rows.callerRevocations.insert key
      ⟨service.authorizationBindingDigest context, id, receipt⟩ }
  let store ← .lift (match external with
    | some checkpoint =>
      publishSuppressionCheckpoint service { snapshot with store } workspace checkpoint
    | none => .ok store)
  checkBudget
  pure (receipt, store)

/-- The checks before anything is written: the answer to a retry, or `none`. -/
def revocationReplay (key : String) : Budgeted (Option OriginalRevocationReceipt) := do
  .lift (requireCapability service.toCallers context .admin)
  .lift (service.validateIdentifier key "source revocation retry key")
  checkBudget
  match (snapshot.store.rows context.request.workspaceId).callerRevocations[key]? with
  | none => pure none
  | some stored => do
      .lift (ensure (stored.binding == service.authorizationBindingDigest context &&
        stored.eventId == id)
        { code := .idempotencyConflict, message := "idempotency key was reused with different canonical input"
          retryable := false })
      pure (some stored.receipt)

/-- A failure after the ledger's commit leaves the denial in the ledger. -/
def revokeOriginal (key : String) (budget : Context.QueryBudget) :
    ServiceResult OriginalRevocationReceipt × Snapshot :=
  match revocationReplay service snapshot context id key budget with
  | (.error error, _) => (.error error, snapshot)
  | (.ok (some receipt), _) => (.ok receipt, snapshot)
  | (.ok none, budget) =>
    match recordExternalRevocation service snapshot context.request.workspaceId id budget with
    | (.error error, _) => (.error error, snapshot)
    | (.ok external, budget) =>
      let ledger := (external.map (·.2)).or snapshot.ledger
      match (revokeTransaction service { snapshot with ledger } context id key (external.map (·.1)) budget).1 with
      | .error error => (.error error, { snapshot with ledger })
      | .ok (receipt, store) => (.ok receipt, ⟨store, ledger⟩)

/-! ### Observations

Uncaptured observations share the policy rows with captured originals. -/

/-- An observation of the older port: any identifier, and no capture receipt. What it checks of
the request besides is `admissible`. -/
def observe (admissible : RequestContext → String → ServiceResult Unit) (store : Store)
    (context : RequestContext) (observation : String) (access : AccessPolicy) :
    ServiceResult Store := do
  admissible context observation
  ensure (access == trustedLegacyPolicy context) permissionDenied
  ensure (!store.policies.contains observation) (invalid "observation ID has already been used")
  let commit ← store.beginFrame context.workspaceId
  let store := { store with
    policies := store.policies.insert observation ⟨observation, store.globalHead + 1, access⟩ }
  .ok (store.finishFrame context.workspaceId commit)

/-- An id that the ledger denies to the workspace is not captured again. -/
def requireUnsuppressedIdentity : ServiceResult Unit :=
  ensure (!snapshot.ledger.any (·.denied workspace id)) permissionDenied

/-! ### Reconciliation -/

structure SuppressionProgress where
  (through processed : Nat)
  caughtUp : Bool
deriving DecidableEq

structure ReconciliationSizes where
  denial : Denial → Nat
  policy : StoredObservationPolicy → Nat
  receipt : CaptureReceipt → Nat

section

variable (service : Service) (sizes : ReconciliationSizes)

def batchFrom (ledger : SuppressionLedger) (workspace : String) (last : Nat) :
    Nat → Checkpoint → Budgeted (List Denial)
  | 0, _ => pure []
  | limit + 1, previous =>
    if previous.epoch = last then pure []
    else do
      let entry ← .lift (ledger.readEntry service.toChaining workspace (previous.epoch + 1))
      charge 1 (sizes.denial entry)
      .lift (ensure (entry.previous == previous.digest)
        (integrity "suppression prefix is discontinuous"))
      let rest ← batchFrom ledger workspace last limit entry.checkpoint
      pure (entry :: rest)

def checkpointAt (ledger : SuppressionLedger) (workspace : String) (epoch : Nat) :
    ServiceResult Checkpoint :=
  if epoch = 0 then .ok (ledger.genesis service.toChaining workspace)
  else do
    let entry ← ledger.readEntry service.toChaining workspace epoch
    .ok entry.checkpoint

def batch (ledger : SuppressionLedger) (workspace : String) (after : Checkpoint) (limit : Nat) :
    Budgeted (List Denial) := do
  let current := ledger.current service.toChaining workspace
  let expected ← .lift (checkpointAt service ledger workspace after.epoch)
  .lift (ensure (after == expected && after.epoch ≤ current.epoch)
    (integrity "applied suppression checkpoint is not an authority prefix"))
  batchFrom service sizes ledger workspace current.epoch limit after

/-- The revocation of one denial. Its retry record is kept under the digest of the denial. -/
def revokeDenied (snapshot : Snapshot) (workspace : String) (entry : Denial) :
    ServiceResult Store := do
  if (snapshot.store.rows workspace).ledgerRevocations.contains entry.digest then
    .ok snapshot.store
  else do
    let (receipt, store) ← revokeRows service snapshot workspace entry.eventId
    let rows := store.rows workspace
    .ok (store.setRows workspace { rows with ledgerRevocations := rows.ledgerRevocations.insert entry.digest receipt })

/-- A denied original that the store does not hold is passed over. -/
def applyDenial (ledger : Option SuppressionLedger) (workspace : String) (store : Store)
    (entry : Denial) : Budgeted Store := do
  checkBudget
  charge 1 0
  match store.policies[entry.eventId.display]? with
  | none => pure store
  | some policy => do
      charge 1 (sizes.policy policy)
      let receipt ← .lift (Snapshot.capturedReceiptMetadata service ⟨store, ledger⟩ entry.eventId)
      charge 0 (sizes.receipt receipt)
      .lift (ensure (receipt.eventDigest == entry.eventDigest &&
        receipt.workspaceId.display == workspace)
        (integrity "external suppression source differs from the restored original"))
      .lift (revokeDenied service ⟨store, ledger⟩ workspace entry)

def applyBatch (snapshot : Snapshot) (workspace : String) (applied : Checkpoint)
    (entries : List Denial) (through : Checkpoint) : Budgeted Store := do
  checkBudget
  let current ← .lift (snapshot.suppressionApplied service workspace)
  .lift (ensure (current == applied) pendingSuppression)
  let store ← entries.foldlM (applyDenial service sizes snapshot.ledger workspace) snapshot.store
  let store ← .lift (publishSuppressionCheckpoint service { snapshot with store } workspace through)
  checkBudget
  pure store

/-- The batch is read from `read`; `snapshot` is what the store and the ledger have become when
the call holds the publication lock. -/
def maintainSuppression (read snapshot : Snapshot) (context : AuthenticatedRequestContext)
    (maxEntries : Nat) : Budgeted (SuppressionProgress × Store) := do
  .lift (requireCapability service.toCallers context .admin)
  .lift (ensure (1 ≤ maxEntries && maxEntries ≤ 256)
    (invalid "suppression batch must contain 1..256 entries"))
  checkBudget
  let ledger ← .lift (requireSome read.ledger
    (unsupported "current external suppression authority is not configured"))
  let workspace := context.request.workspaceId
  let applied ← .lift (read.suppressionApplied service workspace)
  let entries ← batch service sizes ledger workspace applied maxEntries
  let current := (snapshot.ledger.getD ledger).current service.toChaining workspace
  match entries.getLast? with
  | none => pure (⟨applied.epoch, 0, current == applied⟩, snapshot.store)
  | some last => do
      let store ← applyBatch service sizes snapshot workspace applied entries last.checkpoint
      pure (⟨last.epoch, entries.length, current == last.checkpoint⟩, store)

end

end ContextDb.Native
