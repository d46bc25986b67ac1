import ContextDb.Lib.OrderedEntries
import ContextDb.Native.SuppressionRuns

/-! Owned runs. A checkpoint is captured at the producer position right before the next event of
its run and becomes the head of the run with the same commit. Positions are never reused, so a
request has one checkpoint under which it can be admitted, and the record of its admission
matters only while that checkpoint is the head. -/

set_option autoImplicit false

namespace ContextDb.Native

open Std Lib ContextDb.Core Store Snapshot BTreeMap ExtTreeMap LeaseRegistry

/-! ### Saving a checkpoint -/

structure SaveRunCheckpointRequest where
  context : AuthenticatedRequestContext
  idempotencyKey : String
  eventId : ObservationId
  expectedRevision : Nat
  checkpoint : OwnedRunCheckpoint

/-- What saving takes from elsewhere: the bounds and the serialization of a checkpoint, the
digest of a producer, and what is checked of the sources of a checkpoint and of the sources,
streams and gaps of a capture. -/
structure Checkpointing (service : Service) where
  valid : OwnedRunCheckpoint → Bool
  encode : OwnedRunCheckpoint → List UInt8
  canonical : ∀ checkpoint, valid checkpoint = true →
    service.decodeCheckpoint (encode checkpoint) = .ok checkpoint
  producerDigest : (workspace subject actor agent : String) → StreamId → String
  sourcesAdmissible : Snapshot → SaveRunCheckpointRequest → ServiceResult Unit
  admissible : Snapshot → AuthenticatedRequestContext → EventEnvelope → ServiceResult Unit

/-- The accepted events by producer and producer sequence. -/
abbrev Positions := BTreeMap String (BTreeMap Nat ObservationId)

def Positions.taken (positions : Positions) (producer : String) (sequence : Nat) : Bool :=
  (positions[producer]?.getD ∅).contains sequence

def Positions.put (positions : Positions) (producer : String) (sequence : Nat)
    (id : ObservationId) : Positions :=
  updateEntry positions producer ∅ (·.insert sequence id)

section

variable {positions : Positions} {producer other : String} {sequence number : Nat}
  {id : ObservationId}

theorem Positions.taken_put_self :
    (positions.put producer sequence id).taken producer sequence = true := by
  simp [taken, put, getElem?_updateEntry]

theorem Positions.taken_put (known : positions.taken other number = true) :
    (positions.put producer sequence id).taken other number = true := by
  rw [taken, put, getElem?_updateEntry]
  split
  · next same =>
    subst same
    simpa [ExtTreeMap.contains_insert] using .inr known
  · exact known

end

structure RunSystem extends LeaseSystem where
  positions : Positions

section

variable (service : Service) (sizes : Sizes) (saving : Checkpointing service)

def producerKey (context : AuthenticatedRequestContext) (producer : StreamId) : String :=
  saving.producerDigest context.request.workspaceId context.request.subjectId context.actorId
    context.agentId producer

def checkPrevious (snapshot : Snapshot) (request : SaveRunCheckpointRequest) (head : RunHead) :
    ServiceResult Unit := do
  checkIdentity request.context head.identity
  let _ ← snapshot.authorizedCapturePolicy service request.context head.receipt.eventId
  ensure (head.status == .active && head.producerId == request.checkpoint.producerId)
    (invalid "terminal runs cannot advance or change capture producer")

def validateCheckpointPublication (snapshot : Snapshot) (request : SaveRunCheckpointRequest) :
    ServiceResult Unit := do
  requireCapability service.toCallers request.context .runtime
  requireCapability service.toCallers request.context .readEvidence
  requireCapability service.toCallers request.context .rawEvidence
  checkIdentity request.context request.checkpoint.identity
  let previous := (snapshot.store.rows
    request.context.request.workspaceId).runHeads[request.checkpoint.identity.runId]?
  previous.elim (.ok ()) (checkPrevious service snapshot request)
  ensure (previous.elim 0 (·.revision) == request.expectedRevision)
    (stale "owned run changed before checkpoint publication")
  saving.sourcesAdmissible snapshot request

/-- Only the port of owned runs binds a checkpoint to the head of its run. -/
def ownedPort (event : EventEnvelope) : Option SaveRunCheckpointRequest → Bool
  | some request =>
    event.provenance == some (.ownedCheckpoint request.expectedRevision
      (service.checkpointDigest request.checkpoint)) && event.eventId == request.eventId
  | none => !(event.provenance matches some (.ownedCheckpoint _ _))

/-- The checks of a capture that its rows do not depend on, and its producer position. -/
def captureAdmissible (system : RunSystem) (checkpoint : Option SaveRunCheckpointRequest)
    (snapshot : Snapshot) (context : AuthenticatedRequestContext) (event : EventEnvelope) :
    ServiceResult Unit := do
  checkpoint.elim (.ok ()) (validateCheckpointPublication service saving snapshot)
  saving.admissible snapshot context event
  ensure (!system.positions.taken (producerKey service saving context event.producerId)
      event.producerSequence)
    { code := .idempotencyConflict
      message := "event identity or producer position was already accepted; use its original key"
      retryable := false }

def checkpointHead (request : SaveRunCheckpointRequest) (receipt : CaptureReceipt) : RunHead where
  identity := request.checkpoint.identity
  revision := request.checkpoint.revision
  stateDigest := service.checkpointDigest request.checkpoint
  receipt
  producerId := request.checkpoint.producerId
  status := request.checkpoint.status

def publishCheckpointHead (store : Store) (request : SaveRunCheckpointRequest)
    (receipt : CaptureReceipt) : Store :=
  let rows := store.rows request.context.request.workspaceId
  store.setRows request.context.request.workspaceId
    { rows with
      runHeads := rows.runHeads.insert request.checkpoint.identity.runId
        (checkpointHead service request receipt) }

/-- The first attempt of a capture. One with the key of an earlier capture returns the earlier
receipt and changes nothing. -/
def appendOwnedCapture (system : RunSystem) (context : AuthenticatedRequestContext) (key : String)
    (event : EventEnvelope) (checkpoint : Option SaveRunCheckpointRequest) (token : String) :
    Budgeted (CaptureReceipt × RunSystem) := do
  .lift (requireCapability service.toCallers context .observe)
  .lift (if hostRequestEcho event || checkpoint.isSome ||
      (event.provenance matches some (.modelOutput _ _ _ _)) then
    requireCapability service.toCallers context .runtime else .ok ())
  .lift (ensure (ownedPort service event checkpoint)
    (invalid "checkpoint publication requires the owned-run port"))
  .lift (service.validateIdentifier key "capture idempotency key")
  let (receipt, store) ← appendCapture service sizes
    (captureAdmissible service saving system checkpoint) system.snapshot context event token
  let store := checkpoint.elim store fun request =>
    publishCheckpointHead service store request receipt
  pure (receipt, { system with
    snapshot := { system.snapshot with store }
    positions := system.positions.put (producerKey service saving context event.producerId)
      event.producerSequence event.eventId })

def captureMaxInlineBytes : Nat := 256 * 1024

def checkpointEvent (request : SaveRunCheckpointRequest) : EventEnvelope :=
  let checkpoint := request.checkpoint
  let digest := service.checkpointDigest checkpoint
  { eventId := request.eventId
    workspaceId := checkpoint.identity.workspaceId
    scopeIds := checkpoint.identity.scopes
    producerId := checkpoint.producerId
    producerSequence := checkpoint.nextSequence - 1
    kind := .runCheckpointed
    role := .host
    sourceId := ⟨checkpoint.identity.runId.uuid, checkpoint.identity.runId.notNil⟩
    sessionId := some checkpoint.identity.sessionId
    runId := some checkpoint.identity.runId
    taskId := none
    parentEventIds := ∅
    supersedesEventId := none
    payload := .inlineBytes (saving.encode checkpoint) "application/json" digest
    provenance := some (.ownedCheckpoint request.expectedRevision digest) }

def saveRunCheckpoint (system : RunSystem) (request : SaveRunCheckpointRequest) (token : String) :
    Budgeted (CaptureReceipt × RunSystem) := do
  let checkpoint := request.checkpoint
  .lift (requireCapability service.toCallers request.context .runtime)
  .lift (checkIdentity request.context checkpoint.identity)
  .lift (ensure (saving.valid checkpoint) (invalid "invalid owned checkpoint"))
  .lift (ensure (request.expectedRevision + 1 == checkpoint.revision)
    (invalid "checkpoint does not advance exactly one run revision"))
  let bytes := saving.encode checkpoint
  .lift (ensure (bytes.length ≤ captureMaxInlineBytes)
    (exhausted "operational checkpoint exceeds 256 KiB of source references"))
  charge 1 (bytes.length + (checkpoint.requiredSources.map fun span => span.finish - span.start).sum)
  appendOwnedCapture service sizes saving system request.context request.idempotencyKey
    (checkpointEvent service saving request) (some request) token

end

/-! ### What a publication leaves -/

section

variable {service : Service} {sizes : Sizes} {saving : Checkpointing service}

def Checkpointing.keyOf (saving : Checkpointing service) (head : RunHead) : String :=
  saving.producerDigest head.identity.workspaceId.display head.identity.subjectId
    head.identity.actorId head.identity.agentId head.producerId

def Store.headOf (store : Store) (workspace : String) (run : AgentRunId) : Option RunHead :=
  (store.rows workspace).runHeads[run]?

/-- The checkpoint of the head expects the event with this sequence next. -/
def Store.Expects (service : Service) (store : Store) (head : RunHead) (sequence : Nat) : Prop :=
  ∃ event checkpoint, store.originals[head.receipt.eventId]? = some event ∧
    decodeCheckpoint service.toCodec event = .ok checkpoint ∧ checkpoint.nextSequence = sequence

/-- The original of a captured request and the head of the run it belongs to. -/
structure Store.RunOf (store : Store) (request : ObservationId) (event : EventEnvelope)
    (head : RunHead) : Prop where
  captured : store.originals[request]? = some event
  placed : ∃ run, event.runId = some run ∧ store.headOf event.workspaceId.display run = some head

/-- The request is the event that the head of its run expects. -/
def Store.Plans (service : Service) (store : Store) (request : ObservationId) : Prop :=
  ∃ event head, store.RunOf request event head ∧
    store.Expects service head event.producerSequence

variable {store : Store} {head other : RunHead} {request : ObservationId}
  {event found : EventEnvelope} {sequence number : Nat}

theorem Store.Expects.unique (expects : store.Expects service head sequence)
    (again : store.Expects service head number) : sequence = number := by
  obtain ⟨event, checkpoint, stored, decoded, rfl⟩ := expects
  obtain ⟨_, _, same, decodes, rfl⟩ := again
  rw [stored] at same
  cases same
  rw [decoded] at decodes
  cases decodes
  rfl

theorem Store.RunOf.unique (first : store.RunOf request event head)
    (second : store.RunOf request found other) : event = found ∧ head = other := by
  obtain ⟨captured, run, belongs, placed⟩ := first
  obtain ⟨again, _, names, stands⟩ := second
  rw [captured] at again
  cases again
  rw [belongs] at names
  cases names
  rw [placed] at stands
  cases stands
  exact ⟨rfl, rfl⟩

/-- Every captured event has a policy, and the head of every run is a captured checkpoint whose
position is taken. -/
structure RunSystem.Sound (saving : Checkpointing service) (system : RunSystem) : Prop where
  originals : ∀ (id : ObservationId) (event : EventEnvelope),
    system.snapshot.store.originals[id]? = some event →
      system.snapshot.store.policies.contains id.display = true
  heads : ∀ workspace run head, system.snapshot.store.headOf workspace run = some head →
    ∃ sequence, system.snapshot.store.Expects service head sequence ∧
      system.positions.taken (saving.keyOf head) (sequence - 1) = true

/-- The position right before the request is taken under the producer of its run, so that no
later checkpoint can be put there. -/
def RunSystem.Settled (saving : Checkpointing service) (system : RunSystem)
    (request : ObservationId) : Prop :=
  ∃ event head, system.snapshot.store.RunOf request event head ∧
    system.positions.taken (saving.keyOf head) (event.producerSequence - 1) = true

/-- The run moves on to a checkpoint of the same producer at a position that was free. -/
def RunSystem.Moves (saving : Checkpointing service) (before after : RunSystem)
    (workspace : String) (run : AgentRunId) : Prop :=
  ∃ later sequence, after.snapshot.store.headOf workspace run = some later ∧
    after.snapshot.store.Expects service later sequence ∧
    before.positions.taken (saving.keyOf later) (sequence - 1) = false ∧
    after.positions.taken (saving.keyOf later) (sequence - 1) = true ∧
    ∀ head, before.snapshot.store.headOf workspace run = some head →
      saving.keyOf head = saving.keyOf later

/-- The rows that runs and admissions rest on are only added to. -/
structure RunSystem.Advances (saving : Checkpointing service) (before after : RunSystem) :
    Prop where
  originals : BTreeMap.Extends before.snapshot.store.originals after.snapshot.store.originals
  covered : ∀ (id : ObservationId) (event : EventEnvelope),
    after.snapshot.store.originals[id]? = some event →
      after.snapshot.store.policies.contains id.display = true
  taken : ∀ producer sequence, before.positions.taken producer sequence = true →
    after.positions.taken producer sequence = true
  heads : ∀ workspace run, after.snapshot.store.headOf workspace run =
    before.snapshot.store.headOf workspace run ∨ before.Moves saving after workspace run

variable {before after : RunSystem}

theorem RunSystem.Sound.settled (sound : before.Sound saving)
    (plans : before.snapshot.store.Plans service request) : before.Settled saving request := by
  obtain ⟨event, head, runOf, expects⟩ := plans
  obtain ⟨run, _, placed⟩ := runOf.placed
  obtain ⟨sequence, expected, taken⟩ := sound.heads event.workspaceId.display run head placed
  have same : sequence = event.producerSequence := expected.unique expects
  subst same
  exact ⟨event, head, runOf, taken⟩

section

variable (advances : before.Advances saving after)
include advances

theorem RunSystem.Advances.expects (expects : before.snapshot.store.Expects service head sequence) :
    after.snapshot.store.Expects service head sequence := by
  obtain ⟨event, checkpoint, stored, decoded⟩ := expects
  exact ⟨event, checkpoint, advances.originals _ _ stored, decoded⟩

theorem RunSystem.Advances.sound (sound : before.Sound saving) : after.Sound saving where
  originals := advances.covered
  heads workspace run head stands := by
    rcases advances.heads workspace run with same | ⟨later, sequence, placed, expects, _, taken, _⟩
    · rw [same] at stands
      obtain ⟨sequence, expects, taken⟩ := sound.heads workspace run head stands
      exact ⟨sequence, advances.expects expects, advances.taken _ _ taken⟩
    · rw [placed] at stands
      cases stands
      exact ⟨sequence, expects, taken⟩

theorem RunSystem.Settled.advance (settled : before.Settled saving request) :
    after.Settled saving request := by
  obtain ⟨event, head, ⟨captured, run, belongs, placed⟩, taken⟩ := settled
  have stored := advances.originals _ _ captured
  rcases advances.heads event.workspaceId.display run with same | ⟨later, _, stands, _, _, _, key⟩
  · exact ⟨event, head, ⟨stored, run, belongs, same.trans placed⟩, advances.taken _ _ taken⟩
  · refine ⟨event, later, ⟨stored, run, belongs, stands⟩, ?_⟩
    rw [← key head placed]
    exact advances.taken _ _ taken

/-- A run that has left the checkpoint before the request never comes back to it. -/
theorem RunSystem.Advances.not_plans (sound : before.Sound saving)
    (settled : before.Settled saving request)
    (past : ¬ before.snapshot.store.Plans service request) :
    ¬ after.snapshot.store.Plans service request := by
  rintro ⟨_, _, planned, expects⟩
  obtain ⟨event, head, runOf, taken⟩ := settled
  obtain ⟨run, belongs, placed⟩ := runOf.placed
  have stored := advances.originals _ _ runOf.captured
  rcases advances.heads event.workspaceId.display run with
    same | ⟨later, sequence, stands, expected, free, _, key⟩
  · obtain ⟨rfl, rfl⟩ := planned.unique ⟨stored, run, belongs, same.trans placed⟩
    obtain ⟨sequence, expected, _⟩ := sound.heads _ _ _ placed
    have next := (advances.expects expected).unique expects
    exact past ⟨_, _, runOf, next ▸ expected⟩
  · obtain ⟨rfl, rfl⟩ := planned.unique ⟨stored, run, belongs, stands⟩
    rw [expected.unique expects, ← key head placed, taken] at free
    cases free

end

/-! ### Captures and checkpoints -/

variable {context : AuthenticatedRequestContext} {receipt : CaptureReceipt} {token key : String}
  {first last : Store} {policy : StoredObservationPolicy}

theorem CaptureRows.new (rows : CaptureRows first last context event receipt policy)
    {id : ObservationId}
    (covered : first.policies.contains id.display = true) : event.eventId ≠ id := by
  rintro rfl
  rw [rows.fresh] at covered
  cases covered

theorem CaptureRows.covers (rows : CaptureRows first last context event receipt policy)
    {name : String}
    (covered : first.policies.contains name = true ∨ event.eventId.display = name) :
    last.policies.contains name = true := by
  rw [rows.policies, ExtTreeMap.contains_insert, Bool.or_eq_true]
  rcases covered with covered | rfl
  · exact .inr covered
  · exact .inl (by simp)

variable {checkpoint : Option SaveRunCheckpointRequest}

/-- A capture adds one event at a position of its producer that was free. Whether it moves the
head of a run is left open. -/
structure Accepts (saving : Checkpointing service) (before after : RunSystem)
    (context : AuthenticatedRequestContext) (event : EventEnvelope) (receipt : CaptureReceipt)
    (store : Store) (policy : StoredObservationPolicy) : Prop where
  rows : CaptureRows before.snapshot.store store context event receipt policy
  free : before.positions.taken (producerKey service saving context event.producerId)
    event.producerSequence = false
  positions : after.positions = before.positions.put
    (producerKey service saving context event.producerId) event.producerSequence event.eventId
  registry : after.registry = before.registry
  originals : after.snapshot.store.originals = store.originals
  policies : after.snapshot.store.policies = store.policies

theorem appendOwnedCapture_accepts
    (ran : (appendOwnedCapture service sizes saving before context key event checkpoint
      token).Yields (receipt, after)) :
    ∃ store policy, Accepts saving before after context event receipt store policy ∧
      checkpoint.elim (.ok ()) (validateCheckpointPublication service saving before.snapshot) =
        .ok () ∧
      after.snapshot.store = checkpoint.elim store fun request =>
        publishCheckpointHead service store request receipt := by
  rw [appendOwnedCapture] at ran
  have ran := ran.rest
  have ran := ran.rest
  have ran := ran.rest
  have ran := ran.rest
  obtain ⟨⟨accepted, store⟩, appended, ran⟩ := ran.bind
  cases ran.pure
  obtain ⟨checked, policy, rows⟩ := appendCapture_yields appended
  rw [captureAdmissible] at checked
  obtain ⟨validated, checked⟩ := unit_ok checked
  obtain ⟨_, checked⟩ := unit_ok checked
  refine ⟨store, policy, ⟨rows, ?_, rfl, rfl, ?_, ?_⟩, validated, rfl⟩
  · simpa using checked
  · cases checkpoint <;> rfl
  · cases checkpoint <;> rfl

section

variable {store : Store}
  (accepts : Accepts saving before after context event receipt store policy)
include accepts

theorem Accepts.advances (sound : before.Sound saving)
    (heads : ∀ workspace run, after.snapshot.store.headOf workspace run =
      before.snapshot.store.headOf workspace run ∨ before.Moves saving after workspace run) :
    before.Advances saving after where
  originals id found stored := by
    have different := accepts.rows.new (sound.originals id found stored)
    rw [accepts.originals, accepts.rows.originals, BTreeMap.getElem?_insert_of_ne different]
    exact stored
  covered id found stored := by
    rw [accepts.originals, accepts.rows.originals] at stored
    rw [accepts.policies]
    rcases getElem?_insert_cases stored with ⟨rfl, _⟩ | ⟨_, earlier⟩
    · exact accepts.rows.covers (.inr rfl)
    · exact accepts.rows.covers (.inl (sound.originals id found earlier))
  taken producer sequence known := by
    rw [accepts.positions]
    exact Positions.taken_put known
  heads := heads

end

/-- A capture that is no checkpoint leaves the head of every run. -/
theorem appendOwnedCapture_step (sound : before.Sound saving)
    (ran : (appendOwnedCapture service sizes saving before context key event none
      token).Yields (receipt, after)) :
    before.Advances saving after ∧ after.registry = before.registry := by
  obtain ⟨store, _, accepts, _, published⟩ := appendOwnedCapture_accepts ran
  refine ⟨accepts.advances sound fun workspace run => .inl ?_, accepts.registry⟩
  rw [published, headOf, headOf, Option.elim, accepts.rows.heads]

theorem checkIdentity_ok {identity : OwnedRunIdentity}
    (checked : checkIdentity context identity = .ok ()) :
    context.request.workspaceId = identity.workspaceId.display ∧
      context.actorId = identity.actorId ∧ context.agentId = identity.agentId ∧
      context.request.subjectId = identity.subjectId := by
  rw [checkIdentity, ensure_ok_iff] at checked
  simp only [Bool.and_eq_true, beq_iff_eq] at checked
  obtain ⟨⟨⟨⟨⟨workspace, _⟩, actor⟩, agent⟩, subject⟩, _⟩ := checked
  exact ⟨workspace, actor, agent, subject⟩

/-- The producer of a run is the caller's, for as long as the caller has the run's identity. -/
theorem keyOf_eq_producerKey (checked : checkIdentity context head.identity = .ok ()) :
    saving.keyOf head = producerKey service saving context head.producerId := by
  obtain ⟨workspace, actor, agent, subject⟩ := checkIdentity_ok checked
  rw [Checkpointing.keyOf, producerKey, workspace, actor, agent, subject]

variable {saved : SaveRunCheckpointRequest} {workspace : String} {run : AgentRunId}

theorem headOf_publishCheckpointHead :
    (publishCheckpointHead service first saved receipt).headOf workspace run =
      if workspace = saved.context.request.workspaceId ∧ run = saved.checkpoint.identity.runId then
        some (checkpointHead service saved receipt) else first.headOf workspace run := by
  rw [headOf, publishCheckpointHead]
  by_cases here : workspace = saved.context.request.workspaceId
  · subst here
    rw [rows_setRows]
    by_cases same : run = saved.checkpoint.identity.runId
    · subst same
      simp
    · rw [BTreeMap.getElem?_insert_of_ne (Ne.symm same), if_neg (fun both => same both.2), headOf]
  · rw [rows_setRows_of_ne _ _ here, if_neg (fun both => here both.1), headOf]

/-- A head can only be followed by a checkpoint of the same producer. -/
theorem keyOf_of_validated {snapshot : Snapshot}
    (validated : validateCheckpointPublication service saving snapshot saved = .ok ())
    (stands : snapshot.store.headOf saved.context.request.workspaceId
      saved.checkpoint.identity.runId = some head) :
    saving.keyOf head = producerKey service saving saved.context saved.checkpoint.producerId := by
  rw [validateCheckpointPublication] at validated
  obtain ⟨_, validated⟩ := unit_ok validated
  obtain ⟨_, validated⟩ := unit_ok validated
  obtain ⟨_, validated⟩ := unit_ok validated
  obtain ⟨_, validated⟩ := unit_ok validated
  dsimp only at validated
  obtain ⟨previous, _⟩ := unit_ok validated
  rw [headOf] at stands
  rw [stands, Option.elim, checkPrevious] at previous
  obtain ⟨identity, previous⟩ := unit_ok previous
  obtain ⟨_, _, active⟩ := bind_ok previous
  rw [ensure_ok_iff, Bool.and_eq_true, beq_iff_eq, beq_iff_eq] at active
  rw [keyOf_eq_producerKey identity, active.2]

theorem decodeCheckpoint_checkpointEvent (valid : saving.valid saved.checkpoint = true) :
    decodeCheckpoint service.toCodec (checkpointEvent service saving saved) =
      .ok saved.checkpoint :=
  saving.canonical saved.checkpoint valid

/-- A saved checkpoint is the head of its run, at a position that was free. -/
theorem saveRunCheckpoint_step (sound : before.Sound saving)
    (ran : (saveRunCheckpoint service sizes saving before saved token).Yields (receipt, after)) :
    before.Advances saving after ∧ after.registry = before.registry := by
  rw [saveRunCheckpoint] at ran
  have ran := ran.rest
  obtain ⟨_, identity, ran⟩ := ran.bind
  obtain ⟨_, valid, ran⟩ := ran.bind
  have ran := ran.rest
  have ran := ran.rest
  have ran := ran.rest
  obtain ⟨store, _, accepts, validated, published⟩ := appendOwnedCapture_accepts ran
  have key : saving.keyOf (checkpointHead service saved receipt) =
      producerKey service saving saved.context saved.checkpoint.producerId :=
    keyOf_eq_producerKey identity.lift
  rw [Option.elim] at validated published
  have expects : after.snapshot.store.Expects service (checkpointHead service saved receipt)
      saved.checkpoint.nextSequence := by
    refine ⟨checkpointEvent service saving saved, saved.checkpoint, ?_,
      decodeCheckpoint_checkpointEvent (ensure_ok_iff.mp valid.lift), rfl⟩
    have named : (checkpointHead service saved receipt).receipt.eventId =
        (checkpointEvent service saving saved).eventId := accepts.rows.named
    rw [accepts.originals, accepts.rows.originals, named]
    exact getElem?_insert_self
  refine ⟨accepts.advances sound fun workspace run => ?_, accepts.registry⟩
  have stands := @headOf_publishCheckpointHead service receipt store saved workspace run
  rw [← published] at stands
  split at stands
  · next here =>
    obtain ⟨rfl, rfl⟩ := here
    refine .inr ⟨_, _, stands, expects, ?_, ?_, fun head previous => ?_⟩
    · rw [key]
      exact accepts.free
    · rw [key, accepts.positions]
      exact Positions.taken_put_self
    · rw [key]
      exact keyOf_of_validated validated previous
  · left
    rw [stands, headOf, headOf, accepts.rows.heads]

/-! ### Admissions -/

theorem loadCapturedOriginal_ok {snapshot : Snapshot} {id : ObservationId}
    {original : CapturedOriginal}
    (success : snapshot.loadCapturedOriginal service id = .ok original) :
    snapshot.store.originals[id]? = some original.event ∧
      snapshot.store.receipts[id]? = some original.receipt ∧
      original.receipt.workspaceId = original.event.workspaceId := by
  rw [loadCapturedOriginal] at success
  obtain ⟨receipt, received, success⟩ := bind_ok success
  obtain ⟨_, _, success⟩ := bind_ok success
  obtain ⟨event, stored, success⟩ := bind_ok success
  obtain ⟨bound, success⟩ := unit_ok success
  cases success
  simp only [ensure_ok_iff, Bool.and_eq_true, beq_iff_eq] at bound
  exact ⟨requireSome_ok stored, requireSome_ok received, bound.1.1.2⟩

/-- Custody ties a captured event to the workspace of its receipt. -/
theorem authorizeDerivedCustody_ok {snapshot : Snapshot} {id : ObservationId}
    (success : snapshot.authorizeDerivedCustody service context id = .ok ())
    (received : snapshot.store.receipts[id]? = some receipt) :
    receipt.workspaceId.display = context.request.workspaceId := by
  rw [authorizeDerivedCustody] at success
  obtain ⟨_, success⟩ := unit_ok success
  obtain ⟨record, recorded, allowed⟩ := bind_ok success
  rw [ensure_ok_iff, Bool.and_eq_true, beq_iff_eq] at allowed
  rw [custodyRecord] at recorded
  obtain ⟨_, _, recorded⟩ := bind_ok recorded
  obtain ⟨known, metadata, recorded⟩ := bind_ok recorded
  obtain ⟨bound, recorded⟩ := unit_ok recorded
  obtain ⟨_, _, recorded⟩ := bind_ok recorded
  obtain ⟨_, recorded⟩ := unit_ok recorded
  cases recorded
  rw [((capturedReceiptMetadata_ok snapshot.ledger).mp metadata).1] at received
  cases received
  simp only [ensure_ok_iff, Bool.and_eq_true, beq_iff_eq] at bound
  rw [← allowed.1, bound.1.1.1.1.2]

theorem currentOwnedCheckpoint_ok {snapshot : Snapshot} {checkpoint : CaptureReceipt}
    {owned : OwnedRunCheckpoint}
    (success : snapshot.currentOwnedCheckpoint service context checkpoint = .ok owned) :
    ∃ head, snapshot.store.headOf context.request.workspaceId owned.identity.runId = some head ∧
      snapshot.store.Expects service head owned.nextSequence := by
  rw [currentOwnedCheckpoint] at success
  obtain ⟨_, _, success⟩ := bind_ok success
  obtain ⟨_, success⟩ := unit_ok success
  obtain ⟨original, loaded, success⟩ := bind_ok success
  obtain ⟨decoded, decodes, success⟩ := bind_ok success
  obtain ⟨_, success⟩ := unit_ok success
  obtain ⟨head, stands, success⟩ := bind_ok success
  obtain ⟨current, success⟩ := unit_ok success
  cases success
  simp only [ensure_ok_iff, Bool.and_eq_true, beq_iff_eq] at current
  refine ⟨head, requireSome_ok stands, original.event, owned, ?_, decodes, rfl⟩
  rw [current.1.1.1.1.2]
  exact (loadCapturedOriginal_ok loaded).1

variable {sealing : Sealing} {receiptBytes : CaptureReceipt → Nat} {clock : Clock}

/-- Only the event that the head of its run expects is dispatched. -/
theorem dispatchState_plans {snapshot : Snapshot} {record : LeaseRecord}
    {checkpoint : CaptureReceipt} {call : ModelCallId} {owned : OwnedRunCheckpoint}
    (ran : (dispatchState service receiptBytes snapshot clock context record checkpoint call
      receipt).Yields owned) : snapshot.store.Plans service receipt.eventId := by
  rw [dispatchState] at ran
  have ran := ran.rest
  have ran := ran.rest
  have ran := ran.rest
  obtain ⟨_, _, ran⟩ := ran.bind
  have ran := ran.rest
  have ran := ran.rest
  obtain ⟨state, current, ran⟩ := ran.bind
  obtain ⟨_, _, ran⟩ := ran.bind
  obtain ⟨_, custody, ran⟩ := ran.bind
  obtain ⟨original, loaded, ran⟩ := ran.bind
  obtain ⟨_, _, ran⟩ := ran.bind
  obtain ⟨_, matching, _⟩ := ran.bind
  obtain ⟨head, stands, expects⟩ := currentOwnedCheckpoint_ok current.lift
  obtain ⟨stored, received, placed⟩ := loadCapturedOriginal_ok loaded.lift
  have facts := ensure_ok_iff.mp matching.lift
  simp only [Bool.and_eq_true, beq_iff_eq] at facts
  obtain ⟨⟨⟨⟨⟨⟨⟨_, belongs⟩, _⟩, _⟩, _⟩, _⟩, next⟩, _⟩ := facts
  refine ⟨original.event, head, ⟨stored, state.identity.runId, belongs, ?_⟩, ?_⟩
  · rw [← placed, authorizeDerivedCustody_ok custody.lift received]
    exact stands
  · rw [next]
    exact expects

theorem admitModel_plans {registry after : LeaseRegistry} {snapshot : Snapshot}
    {lease : ContextLease} {checkpoint : CaptureReceipt} {call : ModelCallId}
    {budget : Context.QueryBudget}
    (success : (admitModel service sealing receiptBytes snapshot clock registry context lease
      checkpoint call receipt budget).1 = .ok after) :
    snapshot.store.Plans service receipt.eventId := by
  have ran := Stateful.Yields.of_run success
  rw [admitModel] at ran
  have ran := ran.rest
  have ran := ran.rest
  obtain ⟨_, _, ran⟩ := ran.bind
  obtain ⟨_, dispatched, _⟩ := ran.bind
  exact dispatchState_plans dispatched

end

/-! ### Whole runs -/

inductive RunOperation
  | lease (operation : LeaseOperation)
  | capture (context : AuthenticatedRequestContext) (key : String) (event : EventEnvelope)
      (token : String) (budget : Context.QueryBudget)
  | saveRunCheckpoint (request : SaveRunCheckpointRequest) (token : String)
      (budget : Context.QueryBudget)

section

variable (service : Service) (sizes : Sizes) (saving : Checkpointing service) (sealing : Sealing)
  (receiptBytes : CaptureReceipt → Nat) (request : ObservationId) (system : RunSystem)

def RunSystem.answer (outcome : Except ServiceError (CaptureReceipt × RunSystem)) :
    Bool × RunSystem :=
  match outcome with
  | .ok (_, next) => (true, next)
  | .error _ => (false, system)

def RunOperation.perform : RunOperation → Bool × RunSystem
  | .lease operation =>
    let (success, next) := operation.perform service sealing receiptBytes system.toLeaseSystem
    (success, { system with toLeaseSystem := next })
  | .capture context key event token budget =>
    system.answer (appendOwnedCapture service sizes saving system context key event none token
      budget).1
  | .saveRunCheckpoint request token budget =>
    system.answer (Native.saveRunCheckpoint service sizes saving system request token budget).1

/-- What every publication other than a capture leaves alone. -/
structure Store.Keeps (before after : Store) : Prop where
  originals : after.originals = before.originals
  policies : ∀ name, before.policies.contains name = true → after.policies.contains name = true
  heads : ∀ workspace, (after.rows workspace).runHeads = (before.rows workspace).runHeads

def RunOperation.Sanctioned : RunOperation → Prop
  | .lease (.publish snapshot) => system.snapshot.store.Keeps snapshot.store
  | .lease operation => operation.Fresh system.toLeaseSystem
  | .capture _ _ _ _ _ | .saveRunCheckpoint _ _ _ => True

def RunStep (label : RunOperation × Bool) (next : RunSystem) : Prop :=
  label.1.Sanctioned system ∧
    label.1.perform service sizes saving sealing receiptBytes system = (label.2, next)

/-- The call would lose a recorded admission of the request while the head of its run still
expects the request. -/
def RunOperation.Loses : RunOperation → Prop
  | .lease operation => operation.Forgets service request system.toLeaseSystem ∧
      system.snapshot.store.Plans service request
  | .capture _ _ _ _ _ | .saveRunCheckpoint _ _ _ => False

def RunKeepingStep (label : RunOperation × Bool) (next : RunSystem) : Prop :=
  RunStep service sizes saving sealing receiptBytes system label next ∧
    ¬ label.1.Loses service request system

def admits : RunOperation × Bool → Bool
  | (.lease operation, success) => admitted request (operation, success)
  | _ => false

def RunSystem.Recorded : Prop := ∃ token entry, system.registry.Records request token entry

end

section

variable {service : Service} {sizes : Sizes} {saving : Checkpointing service} {sealing : Sealing}
  {receiptBytes : CaptureReceipt → Nat} {request : ObservationId} {system next : RunSystem}
  {success : Bool}

theorem Store.Keeps.advances (sound : system.Sound saving)
    (keeps : system.snapshot.store.Keeps next.snapshot.store)
    (positions : next.positions = system.positions) : system.Advances saving next where
  originals id event stored := by
    rw [keeps.originals]
    exact stored
  covered id event stored := by
    rw [keeps.originals] at stored
    exact keeps.policies _ (sound.originals id event stored)
  taken producer sequence known := by
    rw [positions]
    exact known
  heads workspace run := by
    left
    rw [headOf, headOf, keeps.heads]

theorem Store.Keeps.refl (store : Store) : store.Keeps store :=
  ⟨rfl, fun _ known => known, fun _ => rfl⟩

theorem keeps_perform {operation : LeaseOperation}
    (sanctioned : (RunOperation.lease operation).Sanctioned system) :
    system.snapshot.store.Keeps
      (operation.perform service sealing receiptBytes system.toLeaseSystem).2.snapshot.store := by
  cases operation with
  | publish snapshot => exact sanctioned
  | register | status => exact .refl _
  | release | admitModel =>
    rw [LeaseOperation.perform]
    split <;> exact .refl _

theorem RunSystem.answer_cases {outcome : Except ServiceError (CaptureReceipt × RunSystem)}
    (answered : system.answer outcome = (success, next)) :
    next = system ∨ ∃ receipt, outcome = .ok (receipt, next) := by
  cases outcome with
  | error =>
    cases answered
    exact .inl rfl
  | ok accepted =>
    cases answered
    exact .inr ⟨accepted.1, rfl⟩

theorem RunStep.advances {operation : RunOperation} (request : ObservationId)
    (sound : system.Sound saving)
    (step : RunStep service sizes saving sealing receiptBytes system (operation, success) next) :
    system.Advances saving next ∧ ((∃ call, operation = .lease call ∧
        LeaseStep service sealing receiptBytes system.toLeaseSystem (call, success)
          next.toLeaseSystem) ∨
      admits request (operation, success) = false ∧ next.registry = system.registry) := by
  obtain ⟨sanctioned, performed⟩ := step
  have idle : system.Advances saving system := Store.Keeps.advances sound (.refl _) rfl
  cases operation with
  | lease call =>
    cases performed
    refine ⟨Store.Keeps.advances sound (keeps_perform sanctioned) rfl, .inl ⟨call, rfl, ?_, rfl⟩⟩
    cases call with
    | publish => trivial
    | _ => exact sanctioned
  | capture context key event token budget =>
    rcases RunSystem.answer_cases performed with rfl | ⟨receipt, ran⟩
    · exact ⟨idle, .inr ⟨rfl, rfl⟩⟩
    · obtain ⟨advances, kept⟩ := appendOwnedCapture_step sound (.of_run ran)
      exact ⟨advances, .inr ⟨rfl, kept⟩⟩
  | saveRunCheckpoint saved token budget =>
    rcases RunSystem.answer_cases performed with rfl | ⟨receipt, ran⟩
    · exact ⟨idle, .inr ⟨rfl, rfl⟩⟩
    · obtain ⟨advances, kept⟩ := saveRunCheckpoint_step sound (.of_run ran)
      exact ⟨advances, .inr ⟨rfl, kept⟩⟩

theorem LeaseStep.plans {call : LeaseOperation} {state later : LeaseSystem}
    (step : LeaseStep service sealing receiptBytes state (call, success) later)
    (admits : admitted request (call, success) = true) :
    state.snapshot.store.Plans service request := by
  cases call with
  | admitModel context lease checkpoint id receipt clock budget =>
    rw [admitted, Bool.and_eq_true, beq_iff_eq] at admits
    obtain ⟨rfl, rfl⟩ := admits
    have performed := step.2
    rw [LeaseOperation.perform] at performed
    split at performed
    · next registry accepted => exact admitModel_plans accepted
    · cases performed
  | register | status | release | publish => cases admits

/-- From an admission on the request is recorded or its run has moved past it, and in neither
case is it admitted again. -/
theorem countP_admits_of_settled {first last : RunSystem} {labels : List (RunOperation × Bool)}
    (run : Runs (RunKeepingStep service sizes saving sealing receiptBytes request) first labels last)
    (sound : first.Sound saving) (settled : first.Settled saving request)
    (done : first.Recorded request ∨ ¬ first.snapshot.store.Plans service request) :
    labels.countP (admits request) = 0 := by
  induction run with
  | nil state => rfl
  | @cons state between last label labels head tail ih =>
    obtain ⟨operation, success⟩ := label
    obtain ⟨step, keeps⟩ := head
    obtain ⟨advances, performed⟩ := step.advances request sound
    have after := advances.sound sound
    have past := advances.not_plans sound settled
    rw [List.countP_cons, ih after (settled.advance advances)]
    · rcases performed with ⟨call, rfl, lease⟩ | ⟨silent, _⟩
      · have silent : admits request (.lease call, success) = false := by
          by_contra admitted
          rw [Bool.not_eq_false] at admitted
          rcases done with recorded | unplanned
          · exact (records_admitted lease admitted).1 recorded
          · exact unplanned (lease.plans admitted)
        simp [silent]
      · simp [silent]
    · rcases done with recorded | unplanned
      · rcases performed with ⟨call, rfl, lease⟩ | ⟨_, same⟩
        · by_cases forgets : call.Forgets service request state.toLeaseSystem
          · exact .inr (past fun plans => keeps ⟨forgets, plans⟩)
          · exact .inl (records_perform lease forgets recorded)
        · rw [RunSystem.Recorded, same]
          exact .inl recorded
      · exact .inr (past unplanned)

end

/-! ### Two model calls of one run -/

def RunSystem.empty : RunSystem := ⟨⟨⟨{}, none⟩, ∅⟩, ∅⟩

theorem RunSystem.sound_empty {service : Service} (saving : Checkpointing service) :
    empty.Sound saving where
  originals id event stored := by simp [empty] at stored
  heads workspace run head stands := by simp [empty, headOf, rows] at stands

namespace Desk

def laterId : ObservationId := .numbered 10

/-- Revision two plans the next model call. -/
def laterPlan : OwnedRunCheckpoint :=
  { plan with
    revision := 2
    nextSequence := 4
    pendingModel := some ⟨.numbered 12, .numbered 11, none, none⟩ }

def laterRequest : EventEnvelope :=
  event (.numbered 11) 4 .modelRequested
    (.assembly ⟨.numbered 12, "host", digest 2, 2, [.novel wire]⟩) (.modelRequest (.numbered 12))

def runService : Service :=
  { service with
    decodeCheckpoint := fun bytes => .ok (if bytes = [1] then plan else laterPlan) }

def saving : Checkpointing runService where
  valid checkpoint := checkpoint == plan || checkpoint == laterPlan
  encode checkpoint := [.ofNat checkpoint.revision]
  canonical checkpoint valid := by
    rw [Bool.or_eq_true, beq_iff_eq, beq_iff_eq] at valid
    rcases valid with rfl | rfl <;> rfl
  producerDigest _ _ _ _ _ := "producer"
  sourcesAdmissible _ _ := .ok ()
  admissible _ _ _ := .ok ()

/-- The preparation names the epoch of its scope. -/
def runSealing : Sealing :=
  { sealing with
    openFence := fun text => .ok { fence with scopes := .ofList [(scope, text.length)] } }

def preparedAt (epoch : String) : PreparedContext :=
  let reads := { prepared.assembly.readSet with binding := ⟨epoch, epoch, epoch, some 30000000⟩ }
  { prepared with assembly := { prepared.assembly with readSet := reads } }

def save (id : ObservationId) (expectedRevision : Nat) (checkpoint : OwnedRunCheckpoint) :
    SaveRunCheckpointRequest := ⟨host, "save", id, expectedRevision, checkpoint⟩

def savedReceipt (id : ObservationId) (revision : Nat) (checkpoint : OwnedRunCheckpoint)
    (commit : Nat) : CaptureReceipt :=
  receipt (Native.checkpointEvent runService saving (save id revision checkpoint)) commit

def runSizes : Sizes := ⟨fun _ => 1, fun _ => 1, fun _ => 1, fun _ => 1, fun _ => 1⟩

def operation : Nat → RunOperation
  | 0 => .saveRunCheckpoint (save checkpointId 0 plan) "receipt" budget
  | 1 => .capture host "request" requestEvent "receipt" budget
  | 2 => .lease (.register host (preparedAt "1") clock (fun _ => clock) "first" budget)
  | 3 => .lease (.admitModel host (lease "first") (savedReceipt checkpointId 0 plan 1) call
      (receipt requestEvent 2) clock budget)
  | 4 => .saveRunCheckpoint (save laterId 1 laterPlan) "receipt" budget
  | 5 => .capture host "later" laterRequest "receipt" budget
  | 6 => .lease (.register host (preparedAt "123") clock (fun _ => clock) "second" budget)
  | _ => .lease (.admitModel host (lease "second") (savedReceipt laterId 1 laterPlan 3)
      (.numbered 12) (receipt laterRequest 4) clock budget)

def performed (system : RunSystem) (count : Nat) : Bool × RunSystem :=
  (operation count).perform runService runSizes saving runSealing (fun _ => 1) system

def states : Nat → RunSystem
  | 0 => .empty
  | count + 1 => (performed (states count) count).2

def answers (count : Nat) : List (RunOperation × Bool) :=
  (List.range count).map fun index => (operation index, (performed (states index) index).1)

theorem runs_states (count : Nat)
    (allowed : ∀ index < count, (operation index).Sanctioned (states index) ∧
      ¬ (operation index).Loses runService requestId (states index)) :
    Runs (RunKeepingStep runService runSizes saving runSealing (fun _ => 1) requestId) .empty
      (answers count) (states count) := by
  induction count with
  | zero => exact .nil _
  | succ count ih =>
    obtain ⟨sanctioned, keeps⟩ := allowed count (Nat.lt_succ_self count)
    rw [answers, List.range_succ, List.map_append]
    exact (ih fun index below => allowed index (Nat.lt_succ_of_lt below)).append
      (.single ⟨⟨sanctioned, rfl⟩, keeps⟩)

def movedOn (store : Store) : Prop :=
  store.originals[requestId]? = some requestEvent ∧
    store.headOf workspace.display run = some (checkpointHead runService
      (save laterId 1 laterPlan) (savedReceipt laterId 1 laterPlan 3)) ∧
    store.originals[laterId]? = some (Native.checkpointEvent runService saving
      (save laterId 1 laterPlan))

instance (store : Store) : Decidable (movedOn store) := inferInstanceAs (Decidable (_ ∧ _))

theorem not_plans_of_movedOn {store : Store} (moved : movedOn store) :
    ¬ store.Plans runService requestId := by
  rintro ⟨event, head, runOf, expects⟩
  obtain ⟨captured, stands, stored⟩ := moved
  obtain ⟨rfl, rfl⟩ := runOf.unique ⟨captured, _, rfl, stands⟩
  have same := expects.unique ⟨_, laterPlan, stored, rfl, rfl⟩
  exact absurd same (by decide)

end Desk

open Desk

end ContextDb.Native
