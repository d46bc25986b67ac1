import ContextDb.Native.Store

/-! Process-local context leases. The registry holds the prepared contexts a host may still
send, and the model request admitted under each of them. -/

set_option autoImplicit false

namespace ContextDb.Native

open Std Lib ContextDb.Core

open Context (Digest OriginalSourceSpan OutgoingAssemblyManifest EncodedOutgoing)

def maxLeases : Nat := 64

def maxLeaseBytes : Nat := 16 * 1024 * 1024

structure PreparationSeal where
  leaseInstance : Uuid
  issuedTick : Nat
  issuedWall : Int
  (fenceDigest assemblyDigest : String)
  wireDigest : Digest
  wireBytes : Nat
  external : Bool
  capabilityDigest : String

structure PrepareFence where
  principal : String
  knownAt : Nat
  scopes : BTreeMap ScopeId Nat
  authorizationEpoch : Nat
  validUntil : Int

structure ModelAdmission where
  request : ObservationId
  call : ModelCallId
  run : AgentRunId
  workingDigest : String

structure LeaseRecord where
  sealed : PreparationSeal
  fence : PrepareFence
  originals : List OriginalSourceSpan
  bytes : Nat
  model : Option ModelAdmission

abbrev LeaseRegistry := BTreeMap String LeaseRecord

structure ContextLease where
  token : String
  validUntil : Int

structure PreparedContext where
  admissionToken : String
  outgoing : EncodedOutgoing
  assembly : OutgoingAssemblyManifest

structure Clock where
  wall : ServiceResult Int
  tick : ServiceResult Nat

structure Sealing where
  openSeal : String → ServiceResult PreparationSeal
  openFence : String → ServiceResult PrepareFence
  fenceDigest : PrepareFence → String
  encodeAssembly : OutgoingAssemblyManifest → List UInt8
  digestBytes : List UInt8 → String
  blake3 : List UInt8 → Digest
  workingDigest : OwnedRunCheckpoint → String

def changed (message : String) : ServiceError :=
  { code := .indexTooStale, message, retryable := true, violatedPolicy := some "context_lease_invalidated"
    safeNextAction := some "prepare current context and replan" }

def expired (message : String) : ServiceError :=
  { code := .continuationExpired, message, retryable := false, violatedPolicy := some "context_lease_expired"
    safeNextAction := some "prepare and register a new context lease" }

variable (service : Service) (sealing : Sealing)

/-! ### Checks of a lease -/

def LeaseRecord.duration (record : LeaseRecord) : Option Nat :=
  let duration := record.fence.validUntil - record.sealed.issuedWall
  if 0 ≤ duration ∧ duration < 2 ^ 63 then some duration.toNat else none

variable (receiptBytes : CaptureReceipt → Nat) (snapshot : Snapshot)
  (clock : Clock) (context : AuthenticatedRequestContext)
variable (record : LeaseRecord)

def checkLeaseClock : ServiceResult Unit := do
  let now ← clock.wall
  let duration ← requireSome record.duration (expired "lease applicability interval is invalid")
  let deadline := record.sealed.issuedTick + duration
  ensure (deadline ≤ maxCounter) (expired "lease deadline overflow")
  let uncertain := expired "context lease expired or its clock became uncertain"
  ensure (record.sealed.leaseInstance == service.leaseInstance && record.sealed.issuedWall ≤ now &&
    now < record.fence.validUntil) uncertain
  let tick ← clock.tick
  ensure (tick < deadline) uncertain

def checkLeasePrincipal : ServiceResult Unit := do
  forM [.runtime, .readEvidence, .rawEvidence] (requireCapability service.toCallers context)
  ensure (record.fence.principal == service.authorizationBindingDigest context &&
    record.sealed.capabilityDigest == service.grantsDigest context.capabilityGrants) permissionDenied
  if record.sealed.external then requireCapability service.toCallers context .modelProcessing
  else .ok ()

def checkCapturedPayloadVersion (receiptBytes : CaptureReceipt → Nat) (snapshot : Snapshot)
    (context : AuthenticatedRequestContext) (span : OriginalSourceSpan) : Budgeted Unit := do
  let _ ← .lift (snapshot.authorizedCapturePolicy service context span.eventId)
  .lift (snapshot.authorizeDerivedCustody service context span.eventId)
  let receipt ← .lift (requireSome snapshot.store.receipts[span.eventId]?
    (integrity "lease capture receipt missing"))
  charge 1 (receiptBytes receipt)
  .lift (ensure (receipt.eventId == span.eventId && receipt.databaseId == service.databaseId &&
      receipt.workspaceId.display == context.request.workspaceId &&
      receipt.domain == nativeCaptureDomain && receipt.payloadDigest == some span.payloadDigest)
    (integrity "lease source version differs from its native receipt"))

def checkLeasePolicy : Budgeted Unit := do
  charge 1 0
  let workspace := context.request.workspaceId
  .lift (snapshot.requireSuppressionCurrent service workspace)
  .lift (ensure ((snapshot.store.rows workspace).authorizationEpoch == record.fence.authorizationEpoch)
    (changed "source permissions changed after preparation"))
  forM record.originals (checkCapturedPayloadVersion service receiptBytes snapshot context)

/-- Whether each scope still has the epoch of the preparation; the first that has not ends
the comparison. -/
def scopesCurrent (epochs : BTreeMap String Nat) : List (ScopeId × Nat) → Budgeted Bool
  | [] => pure true
  | (scope, epoch) :: rest => do
      charge 1 0
      if (epochs[scope.display]?).getD 0 = epoch then scopesCurrent epochs rest
      else pure false

def leaseScopesCurrent : Budgeted Bool :=
  scopesCurrent (snapshot.store.rows context.request.workspaceId).scopeEpochs record.fence.scopes.toList

/-! ### Registration -/

def sealedRecord (prepared : PreparedContext) : Budgeted LeaseRecord := do
  .lift (requireCapability service.toCallers context .runtime)
  charge 1 prepared.outgoing.wire.length
  .lift (ensure (prepared.outgoing.wire.length ≤ 16 * 1024 * 1024 &&
      prepared.assembly.readSet.originals.length ≤ 2048)
        (exhausted "lease exceeds the bounded assembly profile"))
  let sealed ← .lift (sealing.openSeal prepared.admissionToken)
  let binding := prepared.assembly.readSet.binding
  let fence ← .lift (sealing.openFence binding.snapshot)
  let assemblyBytes := sealing.encodeAssembly prepared.assembly
  charge 1 assemblyBytes.length
  .lift (ensure (sealing.fenceDigest fence == sealed.fenceDigest &&
      sealing.digestBytes assemblyBytes == sealed.assemblyDigest &&
      binding.snapshot == binding.authorization && binding.snapshot == binding.state &&
      binding.validUntil == some fence.validUntil &&
        prepared.assembly.wireDigest == sealed.wireDigest &&
      prepared.outgoing.wire.length == sealed.wireBytes &&
        sealing.blake3 prepared.outgoing.wire == sealed.wireDigest &&
      prepared.assembly.readSet.scopes == context.request.scopes &&
      .ofList (fence.scopes.keys.map (·.display)) == context.request.scopes)
    (invalid "prepared assembly differs from its native admission seal"))
  let record : LeaseRecord :=
    { sealed, fence, originals := prepared.assembly.readSet.originals, bytes := assemblyBytes.length, model := none }
  .lift (checkLeasePrincipal service context record)
  pure record

def registrable (context : AuthenticatedRequestContext) (prepared : PreparedContext) :
    Budgeted LeaseRecord := do
  let record ← sealedRecord service sealing context prepared
  checkBudget
  .lift (checkLeaseClock service clock record)
  checkLeasePolicy service receiptBytes snapshot context record
  let current ← leaseScopesCurrent snapshot context record
  .lift (ensure current (changed "scope changed before lease registration"))
  pure record

variable (registry : LeaseRegistry)

/-- The entries whose clock is certain. Every entry is checked at its own reading. -/
def LeaseRegistry.sweep (readings : String → Clock) : LeaseRegistry :=
  registry.filter fun token entry => (checkLeaseClock service (readings token) entry).isOk

def LeaseRegistry.full (registry : LeaseRegistry) (record : LeaseRecord) : Bool :=
  maxLeases ≤ registry.size || maxLeaseBytes < min ((registry.values.map
    (·.bytes)).sum + record.bytes) maxCounter

/-- Expired entries leave the registry even when it has no room for the new one. -/
def registerContextLease (readings : String → Clock)
    (token : String) (context : AuthenticatedRequestContext) (prepared : PreparedContext)
    (registry : LeaseRegistry) (budget : Context.QueryBudget) :
    ServiceResult ContextLease × LeaseRegistry :=
  match (registrable service sealing receiptBytes snapshot clock context prepared budget).1 with
  | .error error => (.error error, registry)
  | .ok record =>
    let swept := registry.sweep service readings
    if swept.full record then
      (.error (exhausted "release unused context leases before registering more"), swept)
    else (.ok ⟨token, record.fence.validUntil⟩, swept.insert token record)

/-! ### Status and release -/

inductive ContextLeaseStatus
  | current | invalidated | expired
deriving DecidableEq

def contextLeaseStatus (registry : LeaseRegistry) (context : AuthenticatedRequestContext)
    (lease : ContextLease) :
    Budgeted ContextLeaseStatus := do
  .lift (requireCapability service.toCallers context .runtime)
  checkBudget
  match registry[lease.token]? with
  | none => pure .expired
  | some record => do
      .lift (checkLeasePrincipal service context record)
      if (checkLeaseClock service clock record).isOk then do
        let current ← leaseScopesCurrent snapshot context record
        if current then fun budget =>
          match checkLeasePolicy service receiptBytes snapshot context record budget with
          | (.ok _, after) => (.ok .current, after)
          | (.error error, after) =>
            if error.code = .indexTooStale ∨ error.code = .permissionDenied then
              (.ok .invalidated, after)
            else (.error error, after)
        else pure .invalidated
      else pure .expired

def releaseContextLease (registry : LeaseRegistry) (context : AuthenticatedRequestContext)
    (lease : ContextLease) : Budgeted LeaseRegistry := do
  .lift (requireCapability service.toCallers context .runtime)
  checkBudget
  .lift (forM registry[lease.token]?.toList (checkLeasePrincipal service context))
  pure (registry.erase lease.token)

/-! ### Admission -/

def EventPayload.sends (payload : EventPayload) (call : ModelCallId) (sealed : PreparationSeal) :
    Bool :=
  match payload with
  | .assembly manifest =>
    manifest.modelCallId == call && manifest.wireDigest == sealed.wireDigest &&
      manifest.byteLength == sealed.wireBytes
  | _ => false

def dispatchState (context : AuthenticatedRequestContext)
    (record : LeaseRecord) (checkpoint : CaptureReceipt) (call : ModelCallId)
    (request : CaptureReceipt) : Budgeted OwnedRunCheckpoint := do
  .lift (checkLeasePrincipal service context record)
  .lift (checkLeaseClock service clock record)
  checkLeasePolicy service receiptBytes snapshot context record
  let current ← leaseScopesCurrent snapshot context record
  .lift (ensure current (changed "decision context changed before model handoff"))
  charge 2 0
  let state ← .lift (snapshot.currentOwnedCheckpoint service context checkpoint)
  let _ ← .lift (snapshot.authorizedCapturePolicy service context request.eventId)
  .lift (snapshot.authorizeDerivedCustody service context request.eventId)
  let original ← .lift (snapshot.loadCapturedOriginal service request.eventId)
  let pending ← .lift (requireSome state.pendingModel (invalid "run has no planned model attempt"))
  .lift (ensure (original.receipt == request && original.event.kind == .modelRequested &&
      original.event.runId == some state.identity.runId && pending.callId == call &&
      pending.requestEvent == request.eventId && pending.wireDigest.isNone &&
      pending.interruptedOutput.isNone && original.event.producerSequence == state.nextSequence &&
      original.event.payload.sends call record.sealed)
    (invalid "model dispatch differs from the checkpoint and sealed request"))
  pure state

def LeaseRecord.admits (request : ObservationId) : Bool :=
  record.model.any (·.request == request)

def LeaseRegistry.admits (registry : LeaseRegistry) (request : ObservationId) : Bool :=
  registry.toList.any (·.2.admits request)

def LeaseRegistry.retain (token : String) (run : AgentRunId) : LeaseRegistry :=
  registry.filter fun other entry => other == token || entry.model.all (·.run != run)

def admitModel (registry : LeaseRegistry)
    (context : AuthenticatedRequestContext) (lease : ContextLease) (checkpoint : CaptureReceipt)
    (call : ModelCallId) (request : CaptureReceipt) : Budgeted LeaseRegistry := do
  .lift (requireCapability service.toCallers context .runtime)
  checkBudget
  let record ← .lift (requireSome registry[lease.token]?
    (expired "model lease is no longer registered"))
  let state ← dispatchState service receiptBytes snapshot clock context record checkpoint call request
  .lift (ensure (!registry.admits request.eventId)
    { code := .idempotencyConflict
      message := "model request was already admitted; reconcile instead of sending again"
      retryable := false })
  let admission : ModelAdmission :=
    { request := request.eventId, call, run := state.identity.runId,
      workingDigest := sealing.workingDigest state }
  pure ((registry.retain lease.token state.identity.runId).insert lease.token
    { record with model := some admission })

end ContextDb.Native
