import ContextDb.Native.Lease

/-! How often a model request is admitted. The registry is the only record of an admission,
so a request is admitted once for as long as the lease that was admitted keeps it. -/

set_option autoImplicit false

namespace ContextDb.Native

open Std Lib ContextDb.Core LeaseRegistry ExtTreeMap

/-! ### One step of the lease registry -/

structure LeaseSystem where
  snapshot : Snapshot
  registry : LeaseRegistry

/-- The calls on one instance. Every other operation, of this service or of the replicas of
its ledger, is a `publish`: it may leave any rows and does not touch the registry. -/
inductive LeaseOperation
  | register (context : AuthenticatedRequestContext) (prepared : PreparedContext) (clock : Clock)
      (readings : String → Clock) (token : String) (budget : Context.QueryBudget)
  | status (context : AuthenticatedRequestContext) (lease : ContextLease) (clock : Clock)
    (budget : Context.QueryBudget)
  | release (context : AuthenticatedRequestContext) (lease : ContextLease)
    (budget : Context.QueryBudget)
  | admitModel (context : AuthenticatedRequestContext) (lease : ContextLease)
      (checkpoint : CaptureReceipt) (call : ModelCallId) (request : CaptureReceipt) (clock : Clock)
      (budget : Context.QueryBudget)
  | publish (snapshot : Snapshot)

section

variable (service : Service) (sealing : Sealing) (receiptBytes : CaptureReceipt → Nat)
variable (state : LeaseSystem)

def LeaseOperation.perform : LeaseOperation → Bool × LeaseSystem
  | .register context prepared clock readings token budget =>
    let (outcome, registry) := registerContextLease service sealing receiptBytes state.snapshot
      clock readings token context prepared state.registry budget
    (outcome.isOk, { state with registry })
  | .status context lease clock budget =>
    ((contextLeaseStatus service receiptBytes state.snapshot clock state.registry context lease budget).1.isOk, state)
  | .release context lease budget =>
    match (releaseContextLease service state.registry context lease budget).1 with
    | .ok registry => (true, { state with registry })
    | .error _ => (false, state)
  | .admitModel context lease checkpoint call request clock budget =>
    match (Native.admitModel service sealing receiptBytes state.snapshot clock state.registry
        context lease checkpoint call request budget).1 with
    | .ok registry => (true, { state with registry })
    | .error _ => (false, state)
  | .publish snapshot => (true, { state with snapshot })

def LeaseOperation.Fresh : LeaseOperation → Prop
  | .register _ _ _ _ token _ => token ∉ state.registry
  | _ => True

def LeaseStep (label : LeaseOperation × Bool) (next : LeaseSystem) : Prop :=
  label.1.Fresh state ∧ label.1.perform service sealing receiptBytes state = (label.2, next)

end

def admitted (request : ObservationId) : LeaseOperation × Bool → Bool
  | (.admitModel _ _ _ _ receipt _ _, success) => success && receipt.eventId == request
  | _ => false

/-! ### What the registry records -/

def LeaseRegistry.Records (registry : LeaseRegistry) (request : ObservationId) (token : String)
    (entry : LeaseRecord) : Prop :=
  registry[token]? = some entry ∧ entry.admits request = true

variable {request : ObservationId}

theorem LeaseRegistry.admits_iff {registry : LeaseRegistry} :
    registry.admits request = true ↔ ∃ token entry, registry.Records request token entry := by
  rw [admits, List.any_eq_true]
  constructor
  · intro ⟨⟨token, entry⟩, listed, admits⟩
    exact ⟨token, entry, mem_toList_iff_getElem?_eq_some.mp listed, admits⟩
  · intro ⟨token, entry, found, admits⟩
    exact ⟨(token, entry), mem_toList_iff_getElem?_eq_some.mpr found, admits⟩

/-- The call would lose a recorded admission of the request: it releases the admitted lease,
it registers a lease and finds the admitted one expired, or it admits another request under
the same lease or for the same run. -/
def LeaseOperation.Forgets (service : Service) (request : ObservationId) (state : LeaseSystem) :
    LeaseOperation → Prop
  | .register _ _ _ readings _ _ =>
    ∃ token entry, state.registry.Records request token entry ∧
      (checkLeaseClock service (readings token) entry).isOk = false
  | .release _ lease _ => ∃ entry, state.registry.Records request lease.token entry
  | .admitModel context lease checkpoint _ other _ _ =>
    other.eventId ≠ request ∧ ∃ token entry, state.registry.Records request token entry ∧
        (token = lease.token ∨ ∃ run, entry.model.any (·.run == run.identity.runId) = true ∧
          state.snapshot.currentOwnedCheckpoint service context checkpoint = .ok run)
  | _ => False

variable {state : LeaseSystem}

section

variable {service : Service} {sealing : Sealing} {receiptBytes : CaptureReceipt → Nat}
  {state next : LeaseSystem} {token : String} {entry : LeaseRecord} {registry : LeaseRegistry}
  {readings : String → Clock}

theorem LeaseRegistry.Records.sweep (recorded : registry.Records request token entry)
    (certain : (checkLeaseClock service (readings token) entry).isOk = true) :
    (registry.sweep service readings).Records request token entry := by
  refine ⟨?_, recorded.2⟩
  rw [LeaseRegistry.sweep, ExtTreeMap.getElem?_filter', recorded.1]
  simp [certain]

variable {other : String}

theorem LeaseRegistry.Records.insert {added : LeaseRecord}
    (recorded : registry.Records request token entry)
    (different : other ≠ token) : LeaseRegistry.Records
    (registry.insert other added) request token entry :=
  ⟨(BTreeMap.getElem?_insert_of_ne different).trans recorded.1, recorded.2⟩

variable {context : AuthenticatedRequestContext} {clock : Clock} {budget : Context.QueryBudget}

theorem records_register {prepared : PreparedContext} {fresh : String}
    (recorded : registry.Records request token entry) (unused : fresh ∉ registry)
    (certain : (checkLeaseClock service (readings token) entry).isOk = true) :
    (registerContextLease service sealing receiptBytes state.snapshot clock readings fresh context
      prepared registry budget).2.Records request token entry := by
  have different : fresh ≠ token := by
    intro same
    apply unused
    rw [same, ← isSome_getElem?_iff_mem, recorded.1]
    rfl
  rw [registerContextLease]
  split
  · exact recorded
  · dsimp only
    split
    · exact recorded.sweep certain
    · exact (recorded.sweep certain).insert different

variable {snapshot : Snapshot} {checkpoint receipt : CaptureReceipt} {call : ModelCallId}

theorem dispatchState_yields {record : LeaseRecord} {run : OwnedRunCheckpoint}
    (ran : (dispatchState service receiptBytes snapshot clock context record checkpoint call receipt).Yields run) :
    snapshot.currentOwnedCheckpoint service context checkpoint = .ok run := by
  rw [dispatchState] at ran
  have ran := ran.rest
  have ran := ran.rest
  have ran := ran.rest
  obtain ⟨_, _, ran⟩ := ran.bind
  have ran := ran.rest
  have ran := ran.rest
  obtain ⟨owned, current, ran⟩ := ran.bind
  obtain ⟨_, _, ran⟩ := ran.bind
  have ran := ran.rest
  obtain ⟨_, _, ran⟩ := ran.bind
  obtain ⟨_, _, ran⟩ := ran.bind
  have ran := ran.rest
  cases ran.pure
  exact current.lift

theorem admitModel_ok {after : LeaseRegistry} {lease : ContextLease}
    (success : (admitModel service sealing receiptBytes snapshot clock registry context lease
      checkpoint call receipt budget).1 =
        .ok after) : ∃ record run admission, registry[lease.token]? = some record ∧
      snapshot.currentOwnedCheckpoint service context checkpoint = .ok run ∧
      registry.admits receipt.eventId = false ∧ admission.request = receipt.eventId ∧
      after = (registry.retain lease.token run.identity.runId).insert lease.token
        { record with model := some admission } := by
  have ran := Stateful.Yields.of_run success
  rw [admitModel] at ran
  have ran := ran.rest
  have ran := ran.rest
  obtain ⟨record, registered, ran⟩ := ran.bind
  obtain ⟨run, dispatched, ran⟩ := ran.bind
  obtain ⟨_, unadmitted, ran⟩ := ran.bind
  refine ⟨record, run, _, requireSome_ok registered.lift, dispatchState_yields dispatched, ?_, ?_,
    ran.pure.symm⟩
  · simpa using unadmitted.lift
  · rfl

theorem LeaseRegistry.Records.retain {run : AgentRunId}
    (recorded : registry.Records request token entry)
    (separate : entry.model.any (·.run == run) = false) :
    (registry.retain other run).Records request token entry := by
  refine ⟨?_, recorded.2⟩
  rw [LeaseRegistry.retain, ExtTreeMap.getElem?_filter', recorded.1]
  cases model : entry.model with
  | none => simp [model]
  | some admission => simp_all

theorem records_perform {operation : LeaseOperation} {success : Bool}
    (step : LeaseStep service sealing receiptBytes state (operation, success) next)
    (kept : ¬ operation.Forgets service request state) (recorded : ∃ token entry,
      state.registry.Records request token entry) :
    ∃ token entry, next.registry.Records request token entry := by
  obtain ⟨fresh, performed⟩ := step
  obtain ⟨token, entry, recorded⟩ := recorded
  cases operation with
  | register context prepared clock readings other budget =>
    have certain : (checkLeaseClock service (readings token) entry).isOk = true := by
      by_contra uncertain
      exact kept ⟨token, entry, recorded, Bool.eq_false_iff.mpr uncertain⟩
    cases performed
    exact ⟨token, entry, records_register recorded fresh certain⟩
  | status context lease clock budget =>
    cases performed
    exact ⟨token, entry, recorded⟩
  | release context lease budget =>
    have different : lease.token ≠ token := by
      intro same
      exact kept ⟨entry, same ▸ recorded⟩
    rw [LeaseOperation.perform] at performed
    split at performed
    · next registry released =>
      cases performed
      have ran := Stateful.Yields.of_run released
      rw [releaseContextLease] at ran
      have ran := ran.rest
      have ran := ran.rest
      have ran := ran.rest
      cases ran.pure
      refine ⟨token, entry, ?_, recorded.2⟩
      simpa [getElem?_erase, different] using recorded.1
    · cases performed
      exact ⟨token, entry, recorded⟩
  | admitModel context lease checkpoint call receipt clock budget =>
    rw [LeaseOperation.perform] at performed
    split at performed
    · next registry admittedNow =>
      cases performed
      obtain ⟨record, run, admission, _, current, unadmitted, _, rfl⟩ := admitModel_ok admittedNow
      have other : receipt.eventId ≠ request := by
        intro same
        rw [same, ← Bool.not_eq_true] at unadmitted
        exact unadmitted (admits_iff.mpr ⟨token, entry, recorded⟩)
      have different : lease.token ≠ token := by
        intro same
        exact kept ⟨other, token, entry, recorded, .inl same.symm⟩
      have separate : entry.model.any (·.run == run.identity.runId) = false := by
        by_contra same
        exact kept ⟨other, token, entry, recorded, .inr ⟨run, by simpa using same, current⟩⟩
      exact ⟨token, entry, (recorded.retain separate).insert different⟩
    · cases performed
      exact ⟨token, entry, recorded⟩
  | publish snapshot =>
    cases performed
    exact ⟨token, entry, recorded⟩

theorem records_admitted {label : LeaseOperation × Bool}
    (step : LeaseStep service sealing receiptBytes state label next)
    (admits : admitted request label = true) :
    (¬ ∃ token entry, state.registry.Records request token entry) ∧
      ∃ token entry, next.registry.Records request token entry := by
  obtain ⟨operation, success⟩ := label
  obtain ⟨_, performed⟩ := step
  cases operation with
  | admitModel context lease checkpoint call receipt clock budget =>
    rw [admitted, Bool.and_eq_true, beq_iff_eq] at admits
    obtain ⟨rfl, rfl⟩ := admits
    rw [LeaseOperation.perform] at performed
    split at performed
    · next registry admittedNow =>
      cases performed
      obtain ⟨record, run, admission, _, _, unadmitted, named, rfl⟩ := admitModel_ok admittedNow
      refine ⟨?_, lease.token, _, getElem?_insert_self, ?_⟩
      · rw [← admits_iff, unadmitted]
        exact Bool.false_ne_true
      · simp [LeaseRecord.admits, named]
    · cases performed
  | register | status | release | publish => cases admits

/-! ### Whole runs -/

def KeepingStep (service : Service) (sealing : Sealing) (receiptBytes : CaptureReceipt → Nat)
    (request : ObservationId) (state : LeaseSystem) (label : LeaseOperation × Bool)
    (next : LeaseSystem) : Prop :=
  LeaseStep service sealing receiptBytes state label next ∧ ¬ label.1.Forgets service request state

theorem countP_admitted_of_records {first last : LeaseSystem}
    {labels : List (LeaseOperation × Bool)}
    (run : Runs (KeepingStep service sealing receiptBytes request) first labels last)
    (recorded : ∃ token entry, first.registry.Records request token entry) :
    labels.countP (admitted request) = 0 := by
  induction run with
  | nil state => rfl
  | @cons state between last label labels head tail ih =>
    rw [List.countP_cons, ih (records_perform head.1 head.2 recorded)]
    cases admits : admitted request label with
    | false => rfl
    | true => exact absurd recorded (records_admitted head.1 admits).1

theorem not_forgets_of_unrecorded (operation : LeaseOperation)
    (unrecorded : state.registry.admits request = false) :
    ¬ operation.Forgets service request state := by
  have nothing : ∀ token entry, ¬ state.registry.Records request token entry := by
    intro token entry recorded
    rw [admits_iff.mpr ⟨token, entry, recorded⟩] at unrecorded
    cases unrecorded
  cases operation with
  | register context prepared clock readings token budget =>
    intro ⟨token, entry, recorded, _⟩
    exact nothing token entry recorded
  | status context lease clock budget => exact id
  | release context lease budget =>
    intro ⟨entry, recorded⟩
    exact nothing lease.token entry recorded
  | admitModel context lease checkpoint call receipt clock budget =>
    intro ⟨_, token, entry, recorded, _⟩
    exact nothing token entry recorded
  | publish snapshot => exact id

/-- For every interleaving of registrations, polls, releases, admissions and publications, a
request is admitted at most once as long as no call loses the record of its admission. -/
theorem admitted_at_most_once {service : Service} {sealing : Sealing}
    {receiptBytes : CaptureReceipt → Nat} {request : ObservationId} {first last : LeaseSystem}
    {labels : List (LeaseOperation × Bool)}
    (run : Runs (KeepingStep service sealing receiptBytes request) first labels last) :
    labels.countP (admitted request) ≤ 1 := by
  induction run with
  | nil state => exact Nat.zero_le 1
  | @cons state between last label labels head tail ih =>
    rw [List.countP_cons]
    cases admits : admitted request label with
    | false => simpa using ih
    | true =>
      rw [countP_admitted_of_records tail (records_admitted head.1 admits).2]
      exact Nat.le_refl 1

/-! ### A released lease is registered again -/

def performAll (service : Service) (sealing : Sealing) (receiptBytes : CaptureReceipt → Nat)
    (state : LeaseSystem) : List LeaseOperation → List (LeaseOperation × Bool) × LeaseSystem
  | [] => ([], state)
  | operation :: rest =>
    let (success, next) := operation.perform service sealing receiptBytes state
    let (labels, last) := performAll service sealing receiptBytes next rest
    ((operation, success) :: labels, last)

def freshAll (service : Service) (sealing : Sealing) (receiptBytes : CaptureReceipt → Nat)
    (state : LeaseSystem) : List LeaseOperation → Prop
  | [] => True
  | operation :: rest =>
    operation.Fresh state ∧ freshAll service sealing receiptBytes
        (operation.perform service sealing receiptBytes state).2 rest

instance (state : LeaseSystem) : (operation : LeaseOperation) → Decidable (operation.Fresh state)
  | .register _ _ _ _ token _ => inferInstanceAs (Decidable (token ∉ state.registry))
  | .status _ _ _ _ | .release _ _ _ | .admitModel _ _ _ _ _ _ _ | .publish _ => .isTrue trivial

instance decidableFreshAll (service : Service) (sealing : Sealing)
    (receiptBytes : CaptureReceipt → Nat) (state : LeaseSystem) :
    (operations : List LeaseOperation) →
      Decidable (freshAll service sealing receiptBytes state operations)
  | [] => .isTrue trivial
  | operation :: rest =>
    have := decidableFreshAll service sealing receiptBytes
      (operation.perform service sealing receiptBytes state).2 rest
    inferInstanceAs (Decidable (_ ∧ _))

theorem runs_performAll {operations : List LeaseOperation}
    (fresh : freshAll service sealing receiptBytes state operations) :
    Runs (LeaseStep service sealing receiptBytes) state
      (performAll service sealing receiptBytes state operations).1
      (performAll service sealing receiptBytes state operations).2 := by
  induction operations generalizing state with
  | nil => exact .nil state
  | cons operation rest ih => exact .cons ⟨fresh.1, rfl⟩ (ih fresh.2)

end

namespace Desk

def workspace : WorkspaceId := .numbered 1
def scope : ScopeId := .numbered 2
def session : SessionId := .numbered 3
def run : AgentRunId := .numbered 4
def producer : StreamId := .numbered 5
def checkpointId : ObservationId := .numbered 6
def requestId : ObservationId := .numbered 7
def call : ModelCallId := .numbered 8
def instanceId : Uuid := ⟨9⟩

def digest (byte : UInt8) : Context.Digest := .replicate 32 byte

def host : AuthenticatedRequestContext where
  request :=
    { requestId := "request", workspaceId := workspace.display, subjectId := "sam", audiences := ∅,
      scopes := .ofList [scope.display], purpose := "assist", clearance := .private }
  actorId := "host"
  agentId := "agent"
  sessionId := some session.display
  capabilityGrants := .ofList [Capability.observe, Capability.readEvidence, Capability.runtime,
    Capability.rawEvidence]
  authentication := .authenticatedChannel "channel" "host" "binding"

/-- Revision one of the run plans the model call and has not seen its wire. -/
def plan : OwnedRunCheckpoint where
  identity :=
    { workspaceId := workspace, sessionId := session, runId := run, actorId := "host",
      agentId := "agent", subjectId := "sam", scopes := .ofList [scope] }
  revision := 1
  producerId := producer
  nextSequence := 2
  requiredSources := []
  pendingModel := some { callId := call, requestEvent := requestId, wireDigest := none, interruptedOutput := none }
  pendingTool := none
  lastModelOutput := none
  status := .active

def wire : List UInt8 := [104, 105]

def event (id : ObservationId) (sequence : Nat) (kind : EventKind) (payload : EventPayload)
    (provenance : EventProvenance) : EventEnvelope where
  eventId := id
  workspaceId := workspace
  scopeIds := .ofList [scope]
  producerId := producer
  producerSequence := sequence
  kind
  role := .host
  sourceId := .numbered 4
  sessionId := some session
  runId := some run
  taskId := none
  parentEventIds := ∅
  supersedesEventId := none
  payload
  provenance := some provenance

def checkpointEvent : EventEnvelope :=
  event checkpointId 1 .runCheckpointed (.inlineBytes [1] "application/json" (digest 1))
    (.ownedCheckpoint 0 (digest 1))

def requestEvent : EventEnvelope :=
  event requestId 2 .modelRequested (.assembly
      { modelCallId := call, renderer := "host", wireDigest := digest 2, byteLength := 2, parts := [.novel wire] })
    (.modelRequest call)

def receipt (event : EventEnvelope) (commit : Nat) : CaptureReceipt where
  domain := nativeCaptureDomain
  databaseId := "desk"
  workspaceId := workspace
  eventId := event.eventId
  workspaceCommit := commit
  eventDigest := digest 3
  payloadDigest := event.payload.digest
  token := "receipt"

def custody (event : EventEnvelope) (commit : Nat) : CustodyRecord where
  eventId := event.eventId
  workspace := workspace.display
  commit
  eventDigest := digest 3
  inputs := {}
  policies := [trustedStructuredPolicy host.request]

def policy (event : EventEnvelope) (commit : Nat) : StoredObservationPolicy :=
  ⟨event.eventId.display, commit, trustedStructuredPolicy host.request⟩

def head : RunHead :=
  ⟨plan.identity, 1, digest 1, receipt checkpointEvent 1, producer, .active⟩

def rows : WorkspaceRows where
  journal := 2
  scopeEpochs := .ofList [(scope.display, 1)]
  custody := some ⟨2, 0, false⟩
  runHeads := .ofList [(run, head)]

/-- The rows after the checkpoint and the request were captured. The request only records a
disclosure, so the epoch of the scope is that of the checkpoint. -/
def store : Store where
  globalHead := 2
  policies := .ofList [(checkpointId.display, policy checkpointEvent 1),
    (requestId.display, policy requestEvent 2)]
  originals := .ofList [(checkpointId, checkpointEvent), (requestId, requestEvent)]
  receipts := .ofList [(checkpointId, receipt checkpointEvent 1),
    (requestId, receipt requestEvent 2)]
  custody := .ofList [(checkpointId, custody checkpointEvent 1),
    (requestId, custody requestEvent 2)]
  workspaces := .ofList [(workspace.display, rows)]

def fence : PrepareFence where
  principal := "sam of desk"
  knownAt := 1
  scopes := .ofList [(scope, 1)]
  authorizationEpoch := 0
  validUntil := 30000000

/-- The digests are stand-ins: every one of them is compared with itself. -/
def service : Service where
  validateAuthentication _ := .ok ()
  authorizationBindingDigest _ := "sam of desk"
  grantsDigest _ := "grants"
  validateIdentifier _ _ := .ok ()
  eventDigest _ := digest 3
  policyDigest _ := "policy"
  decodeCheckpoint _ := .ok plan
  checkpointDigest _ := digest 1
  genesisDigest _ _ := "genesis"
  denialDigest _ _ := "denial"
  databaseId := "desk"
  leaseInstance := instanceId

def sealing : Sealing where
  openSeal _ := .ok
    { leaseInstance := instanceId, issuedTick := 0, issuedWall := 0, fenceDigest := "fence",
      assemblyDigest := "assembly", wireDigest := digest 2, wireBytes := 2, external := false,
      capabilityDigest := "grants" }
  openFence _ := .ok fence
  fenceDigest _ := "fence"
  encodeAssembly _ := [1]
  digestBytes _ := "assembly"
  blake3 _ := digest 2
  workingDigest _ := "working"

def prepared : PreparedContext where
  admissionToken := "seal"
  outgoing :=
    { protocol := "json", tokenizer := "words", countKind := .exact, inputTokens := 1, wire }
  assembly :=
    { layout := "", encoder := "", modelProfileDigest := digest 0, baseDigest := digest 0,
      packDigest := "", scorer := "", occurrences := [], readSet :=
        { scopes := .ofList [scope.display], originals := [], selectedBlocks := ∅, binding :=
            { snapshot := "fence", authorization := "fence", state := "fence", validUntil := some 30000000 } }
      inputTokens := 1, countKind := .exact, reservedOutputTokens := 0, safetyTokens := 0, wireDigest := digest 2 }

def clock : Clock := ⟨.ok 1000, .ok 1000⟩

def budget : Context.QueryBudget := ⟨1000, 100000, fun _ => none, 0⟩

def lease (token : String) : ContextLease := ⟨token, 30000000⟩

def register (token : String) : LeaseOperation :=
  .register host prepared clock (fun _ => clock) token budget

def admitModel (token : String) : LeaseOperation :=
  .admitModel host (lease token) (receipt checkpointEvent 1) call
    (receipt requestEvent 2) clock budget

/-- The host gives its lease back after the first admission and registers the same prepared
context again. -/
def calls : List LeaseOperation :=
  [register "first", admitModel "first", .release host (lease "first") budget, register "second",
    admitModel "second"]

def start : LeaseSystem := ⟨⟨store, none⟩, ∅⟩

def after (state : LeaseSystem) (operation : LeaseOperation) : Bool × LeaseSystem :=
  operation.perform service sealing (fun _ => 1) state

def registered : LeaseSystem := (after start (register "first")).2

def labels : List (LeaseOperation × Bool) :=
  (performAll service sealing (fun _ => 1) start calls).1

def final : LeaseSystem :=
  (performAll service sealing (fun _ => 1) start calls).2

end Desk

open Desk

/-- Five calls on one instance, which starts with an empty registry, admit one request twice. -/
theorem released_request_admitted_again :
    start.registry = ∅ ∧
      Runs (LeaseStep service sealing fun _ => 1) start labels final ∧
      labels.countP (admitted requestId) = 2 := by
  have facts : freshAll service sealing (fun _ => 1) start calls ∧
      labels.countP (admitted requestId) = 2 := by
    decide +kernel
  exact ⟨rfl, runs_performAll facts.1, facts.2⟩

/-- Retrying the admission under the lease that holds it. -/
theorem admitted_at_most_once_desk :
    ∃ labels last, Runs (KeepingStep service sealing (fun _ => 1) requestId)
        start labels last ∧
      labels.map (·.2) = [true, true, false] ∧ labels.countP (admitted requestId) ≤ 1 := by
  have step (state : LeaseSystem) (operation : LeaseOperation) (fresh : operation.Fresh state)
      (keeps : ¬operation.Forgets service requestId state) :
      KeepingStep service sealing (fun _ => 1) requestId state
        (operation, (after state operation).1) (after state operation).2 :=
    ⟨⟨fresh, rfl⟩, keeps⟩
  have registers := step start (register "first") (by decide +kernel)
    (not_forgets_of_unrecorded _ (by decide +kernel))
  have admits := step registered (Desk.admitModel "first") trivial
    (not_forgets_of_unrecorded _ (by decide +kernel))
  have retries := step (after registered (Desk.admitModel "first")).2
    (Desk.admitModel "first") trivial fun forgets => forgets.1 rfl
  have run := Runs.cons registers (.cons admits (.single retries))
  exact ⟨_, _, run, by decide +kernel, admitted_at_most_once run⟩

end ContextDb.Native
