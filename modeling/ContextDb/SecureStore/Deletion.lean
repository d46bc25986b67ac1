import ContextDb.Lib.Collections
import ContextDb.Lib.Execution
import Mathlib.Data.List.Pairwise

/-! The hard-delete workflow: its closure inventory, the dispositions of the inventoried targets,
and the calls that move it from prepared to complete. Commitments are hashes of canonical JSON;
the records they bind are written out, the hash itself is a parameter. -/

set_option autoImplicit false

namespace ContextDb.SecureStore

open Std Lib ExtTreeSet List

inductive SecureStoreError where
  | invalidInput (message : String)
  | integrity (message : String)
  | stateConflict (message : String)
  | keyUnavailable
  | deletionIncomplete (message : String)
  | cryptographicFailure | serialization
deriving DecidableEq, Repr

abbrev Result (Value : Type) := Except SecureStoreError Value

abbrev DeletionHandle := String

abbrev DeletionTargetHandle := String

abbrev EvidenceHandle := String

abbrev KeyHandle := String

abbrev StateRoot := String

structure StateNamespace where
  (authorityNamespace databaseId workspaceId partitionId : String)
deriving DecidableEq, Repr

def secureStoreFormatVersion : Nat := 2

def maxDeletionClosureTargets : Nat := 65536

def maxRevision : Nat := 0xffffffffffffffff

/-! ### Closure inventory -/

inductive DeletionClosureClass where
  | primaryContent | episode | evidence | semanticMemory | summary | embedding | annIndex
  | lexicalIndex | cache | checkpointOrHandoff | providerCopy | export | backup
deriving DecidableEq, Ord, Repr

def DeletionClosureClass.isManagedCopy : DeletionClosureClass → Bool
  | .providerCopy | .export | .backup => true
  | _ => false

def allDeletionClosureClasses : List DeletionClosureClass :=
  [.primaryContent, .episode, .evidence, .semanticMemory, .summary, .embedding, .annIndex,
    .lexicalIndex, .cache, .checkpointOrHandoff, .providerCopy, .export, .backup]

local instance lawfulBEqTargets : LawfulBEq (BTreeSet DeletionTargetHandle) := inferInstance

structure ClassInventory where
  closureClass : DeletionClosureClass
  targets : BTreeSet DeletionTargetHandle
  absentEvidence : Option EvidenceHandle
deriving DecidableEq

def ClassInventory.validate (inventory : ClassInventory) : Result Unit := do
  ensure (inventory.targets.size ≤ maxDeletionClosureTargets)
    (.invalidInput "deletion class exceeds the target bound")
  ensure (inventory.targets.isEmpty == inventory.absentEvidence.isSome)
    (.deletionIncomplete "each closure class needs targets or exact absence evidence, exclusively")

def insertTarget (targets : BTreeSet DeletionTargetHandle) (target : DeletionTargetHandle) :
    Result (BTreeSet DeletionTargetHandle) := do
  ensure (targets.size != maxDeletionClosureTargets)
    (.invalidInput "deletion closure exceeds the target bound")
  ensure (!targets.contains target) (.integrity "closure target appears in more than one class")
  pure (targets.insert target)

def closureTargets (classes : List ClassInventory) : List DeletionTargetHandle :=
  classes.flatMap fun inventory => inventory.targets.toList

/-- A canonical closure: the 13 classes in order, each valid, with targets that no two of them
share. -/
structure DeletionClosureInventory where
  classes : List ClassInventory
  validated : ∀ inventory ∈ classes, inventory.validate = .ok ()
  complete : classes.map (·.closureClass) = allDeletionClosureClasses
  unshared : (closureTargets classes).Nodup
deriving DecidableEq

theorem closureTargets_nodup {classes : List ClassInventory}
    {targets : BTreeSet DeletionTargetHandle}
    (inserted : (closureTargets classes).foldlM insertTarget ∅ = .ok targets) :
    (closureTargets classes).Nodup := by
  have general : ∀ (listed : List DeletionTargetHandle)
    (seen final : BTreeSet DeletionTargetHandle),
      listed.foldlM insertTarget seen = .ok final → listed.Nodup ∧
        ∀ target ∈ listed, target ∉ seen := by
    intro listed
    induction listed with
    | nil => exact fun _ _ _ => ⟨nodup_nil, fun _ member => by cases member⟩
    | cons target rest ih =>
      intro seen final success
      rw [foldlM_cons] at success
      obtain ⟨next, stepped, remaining⟩ := bind_ok success
      have stepped := rest_ok stepped
      obtain ⟨fresh, stepped⟩ := unit_ok stepped
      cases stepped
      have fresh : target ∉ seen := by
        intro held
        simp [contains_iff_mem.mpr held] at fresh
      obtain ⟨distinct, apart⟩ := ih _ _ remaining
      refine ⟨nodup_cons.mpr ⟨fun again => ?_, distinct⟩, fun other member => ?_⟩
      · exact apart target again mem_insert_self
      · cases mem_cons.mp member with
        | inl same => exact same ▸ fresh
        | inr later => exact fun held => apart other later (mem_insert.mpr (.inr held))
  exact (general _ _ _ inserted).1

namespace DeletionClosureInventory

def tryNew (classes : List ClassInventory) : Result DeletionClosureInventory :=
  match checked : forM classes ClassInventory.validate with
  | .error error => .error error
  | .ok _ =>
    let sorted := sortBy (compareOn ClassInventory.closureClass) classes
    if complete : sorted.map (·.closureClass) = allDeletionClosureClasses then
      match inserted : (closureTargets sorted).foldlM insertTarget ∅ with
      | .error error => .error error
      | .ok _ => .ok {
          classes := sorted
          validated := fun inventory member =>
            forM_ok_iff.mp checked inventory (mem_sortBy.mp member)
          complete
          unshared := closureTargets_nodup inserted }
    else .error (.deletionIncomplete
      "authoritative inventory must contain each of the 13 classes exactly once")

variable (inventory : DeletionClosureInventory)

def classOf (target : DeletionTargetHandle) : Option DeletionClosureClass :=
  (inventory.classes.find? (·.targets.contains target)).map (·.closureClass)

def requireExact (inventory authoritative : DeletionClosureInventory) : Result Unit :=
  ensure (inventory == authoritative)
    (.deletionIncomplete "deletion closure differs from authoritative inventory")

def targetCount : Nat :=
  inventory.classes.foldl (fun total member => total + member.targets.size) 0

theorem classOf_eq {inventory : DeletionClosureInventory} {member : ClassInventory}
    (listed : member ∈ inventory.classes) {target : DeletionTargetHandle}
    (held : target ∈ member.targets) : inventory.classOf target = some member.closureClass := by
  have disjoint := (nodup_flatMap.mp inventory.unshared).2
  have : Std.Symm (Function.onFun List.Disjoint fun inventory : ClassInventory => inventory.targets.toList) :=
    ⟨fun _ _ apart _ here there => apart there here⟩
  unfold classOf
  cases found : inventory.classes.find? (·.targets.contains target) with
  | none =>
    have missing := find?_eq_none.mp found member listed
    exact absurd (contains_iff_mem.mpr held) missing
  | some other =>
    have inside := mem_of_find?_eq_some found
    have shared := find?_some found
    by_cases same : other = member
    · rw [same]
      rfl
    · have apart := disjoint.forall inside listed same
      exact absurd (mem_toList.mpr held) (apart (mem_toList.mpr (contains_iff_mem.mp shared)))

end DeletionClosureInventory

/-! ### Dispositions -/

inductive LocalDeletionDisposition where
  | suppressed (evidence : EvidenceHandle)
  | purged (evidence : EvidenceHandle)
  | cryptographicallyErased (keyHandle : KeyHandle) (keyGeneration : Nat)
    (evidence : EvidenceHandle)
  | rebuilt (evidence : EvidenceHandle)
  | provenAbsent (evidence : EvidenceHandle)
deriving DecidableEq, Repr

def LocalDeletionDisposition.rank : LocalDeletionDisposition → Nat
  | .suppressed _ => 1
  | .purged _ | .cryptographicallyErased .. | .rebuilt _ | .provenAbsent _ => 2

def LocalDeletionDisposition.validate : LocalDeletionDisposition → Result Unit
  | .cryptographicallyErased _ keyGeneration _ =>
    ensure (3 ≤ keyGeneration) (.deletionIncomplete "cryptographic erasure requires a destroyed key generation")
  | _ => .ok ()

inductive ManagedCopyDisposition where
  | suppressionPending
  | deletionRequested (request : EvidenceHandle)
  | deleted (receipt : EvidenceHandle)
  | provenAbsent (evidence : EvidenceHandle)
  | outsideControl (evidence : EvidenceHandle)
deriving DecidableEq, Repr

def ManagedCopyDisposition.rank : ManagedCopyDisposition → Nat
  | .suppressionPending => 0
  | .deletionRequested _ | .outsideControl _ => 1
  | .deleted _ | .provenAbsent _ => 2

inductive DeletionTargetDisposition where
  | local (value : LocalDeletionDisposition)
  | managed (value : ManagedCopyDisposition)
deriving DecidableEq, Repr

namespace DeletionTargetDisposition

def rank : DeletionTargetDisposition → Nat
  | .local value => value.rank
  | .managed value => value.rank

variable (disposition : DeletionTargetDisposition)

def isComplete : Bool :=
  disposition.rank == 2

def validateForClass (closureClass : DeletionClosureClass) : Result Unit :=
  match closureClass.isManagedCopy, disposition with
  | false, .local value => value.validate
  | true, .managed _ => .ok ()
  | _, _ => .error (.integrity "deletion disposition does not match target control class")

def sameControl : DeletionTargetDisposition → DeletionTargetDisposition → Bool
  | .local _, .local _ => true
  | .managed _, .managed _ => true
  | _, _ => false

def recordsTerminalOutsideControl : DeletionTargetDisposition → DeletionTargetDisposition → Bool
  | .managed (.deletionRequested _), .managed (.outsideControl _) => true
  | _, _ => false

def replaceable (previous disposition : DeletionTargetDisposition) : Bool :=
  !(!sameControl previous disposition || previous.isComplete ||
    (disposition.rank ≤ previous.rank && !recordsTerminalOutsideControl previous disposition))

end DeletionTargetDisposition

abbrev Dispositions := BTreeMap DeletionTargetHandle DeletionTargetDisposition

structure DeletionEvidenceVerifier where
  verifyAbsentClass : StateNamespace → DeletionClosureClass → EvidenceHandle → Result Unit
  verifyTarget : StateNamespace → DeletionHandle → DeletionTargetHandle → DeletionClosureClass →
    DeletionTargetDisposition → Result Unit

abbrev SuppressionCommitmentVerifier :=
  StateNamespace → DeletionHandle → StateRoot → StateRoot → StateRoot → Result Unit

/-! ### Workflow -/

inductive DeletionWorkflowState where
  | prepared | suppressionPending | suppressed | purging | awaitingExternal | verified
  | receiptPending | complete
deriving DecidableEq, Ord, Repr

namespace DeletionWorkflowState

def next : DeletionWorkflowState → Option DeletionWorkflowState
  | .prepared => some .suppressionPending
  | .suppressionPending => some .suppressed
  | .suppressed => some .purging
  | .purging => some .awaitingExternal
  | .awaitingExternal => some .verified
  | .verified => some .receiptPending
  | .receiptPending => some .complete
  | .complete => none

def minimumRevision : DeletionWorkflowState → Nat
  | .prepared => 1
  | .suppressionPending => 2
  | .suppressed => 3
  | .purging => 4
  | .awaitingExternal => 5
  | .verified => 6
  | .receiptPending => 7
  | .complete => 8

def exactEarlyRevision : DeletionWorkflowState → Option Nat
  | .prepared => some 1
  | .suppressionPending => some 2
  | .suppressed => some 3
  | _ => none

def reached (state stage : DeletionWorkflowState) : Bool :=
  (compare stage state).isLE

end DeletionWorkflowState

structure UnsignedDeletionReceipt where
  formatVersion : Nat
  deletion : DeletionHandle
  namespace_ : StateNamespace
  (workflowRoot closureInventoryRoot verificationCommitment : StateRoot)
  (requestedAtMicros completedAtMicros : Nat)
deriving DecidableEq, Repr

structure SignedDeletionReceipt where
  unsigned : UnsignedDeletionReceipt
  keyId : String
  keyGeneration : Nat
  signature : List UInt8
deriving DecidableEq, Repr

structure WorkflowBinding where
  formatVersion : Nat
  handle : DeletionHandle
  namespace_ : StateNamespace
  state : DeletionWorkflowState
  (revision requestedAtMicros updatedAtMicros : Nat)
  inventory : DeletionClosureInventory
  dispositions : Dispositions
  (suppressionCommitment verificationCommitment signedReceiptCommitment : Option StateRoot)

structure VerifiedClosure where
  deletion : DeletionHandle
  namespace_ : StateNamespace
  inventory : DeletionClosureInventory
  dispositions : Dispositions

structure SuppressionPendingBinding where
  formatVersion : Nat
  deletion : DeletionHandle
  namespace_ : StateNamespace
  state : DeletionWorkflowState
  (revision requestedAtMicros updatedAtMicros : Nat)
  closureRoot : StateRoot

/-- `StateRootV2::commit` over the canonical JSON of each committed record, in its domain. -/
structure Commitments where
  closure : DeletionClosureInventory → Result StateRoot
  workflow : WorkflowBinding → Result StateRoot
  verifiedClosure : VerifiedClosure → Result StateRoot
  suppressionPending : SuppressionPendingBinding → Result StateRoot
  signedReceipt : SignedDeletionReceipt → Result StateRoot

structure DeletionWorkflow where
  formatVersion : Nat
  handle : DeletionHandle
  namespace_ : StateNamespace
  state : DeletionWorkflowState
  (revision requestedAtMicros updatedAtMicros : Nat)
  inventory : DeletionClosureInventory
  dispositions : Dispositions
  suppressionPendingRoot : Option StateRoot
  suppressionPendingAtMicros : Option Nat
  (suppressionCommitment verificationCommitment receiptPendingRoot : Option StateRoot)
  receiptPendingAtMicros : Option Nat
  signedReceipt : Option SignedDeletionReceipt

def orError {Value : Type} (value : Option Value) (error : SecureStoreError) : Result Value :=
  value.elim (.error error) .ok

namespace DeletionWorkflow

variable (commitments : Commitments) (self : DeletionWorkflow)

def bindingRootFor (state : DeletionWorkflowState) (revision updatedAtMicros : Nat) :
    Result StateRoot := do
  let signedReceiptCommitment ←
    if state = .complete then do
      let receipt ← orError self.signedReceipt
        (.integrity "complete workflow lacks a signed receipt")
      some <$> commitments.signedReceipt receipt
    else pure none
  commitments.workflow {
    formatVersion := self.formatVersion
    handle := self.handle
    namespace_ := self.namespace_
    state
    revision
    requestedAtMicros := self.requestedAtMicros
    updatedAtMicros
    inventory := self.inventory
    dispositions := self.dispositions
    suppressionCommitment := self.suppressionCommitment
    verificationCommitment := self.verificationCommitment
    signedReceiptCommitment }

def root : Result StateRoot :=
  self.bindingRootFor commitments self.state self.revision self.updatedAtMicros

def computedVerificationCommitment : Result StateRoot :=
  commitments.verifiedClosure ⟨self.handle, self.namespace_, self.inventory, self.dispositions⟩

def computedSuppressionPendingRoot (atMicros : Nat) : Result StateRoot := do
  let closureRoot ← commitments.closure self.inventory
  commitments.suppressionPending {
    formatVersion := self.formatVersion
    deletion := self.handle
    namespace_ := self.namespace_
    state := .suppressionPending
    revision := 2
    requestedAtMicros := self.requestedAtMicros
    updatedAtMicros := atMicros
    closureRoot }

def forDispositions (onClass : ClassInventory → Result Unit)
    (onTarget : ClassInventory → DeletionTargetHandle → DeletionTargetDisposition → Result Unit) :
    Result Unit :=
  forM self.inventory.classes fun inventory => do
    onClass inventory
    forM inventory.targets.toList fun target => do
      let disposition ← orError self.dispositions[target]?
        (.deletionIncomplete "inventoried target has no disposition")
      onTarget inventory target disposition

def verifyAllEvidence (verifier : DeletionEvidenceVerifier) : Result Unit :=
  self.forDispositions (fun inventory => inventory.absentEvidence.elim (.ok ()) fun evidence =>
      verifier.verifyAbsentClass self.namespace_ inventory.closureClass evidence)
    fun inventory target disposition => do
      ensure disposition.isComplete (.deletionIncomplete "inventoried target is not complete")
      verifier.verifyTarget self.namespace_ self.handle target inventory.closureClass disposition

def validateAwaitingConditions : Result Unit :=
  self.forDispositions (fun _ => .ok ()) fun inventory _ disposition => do
    ensure (inventory.closureClass.isManagedCopy || disposition.isComplete)
      (.deletionIncomplete "local target remains incomplete")
    ensure (!inventory.closureClass.isManagedCopy || disposition.rank != 0)
      (.deletionIncomplete "managed copy lacks a durable external disposition")

def validateDisposition (entry : DeletionTargetHandle × DeletionTargetDisposition) :
    Result Unit := do
  let closureClass ← orError (self.inventory.classOf entry.1)
    (.integrity "workflow disposition is outside its inventory")
  entry.2.validateForClass closureClass

def validateSuppressionPending : Result Unit := do
  let pendingAt ← orError self.suppressionPendingAtMicros
    (.integrity "workflow lacks suppression-pending time")
  ensure (self.requestedAtMicros ≤ pendingAt && pendingAt ≤ self.updatedAtMicros)
    (.integrity "workflow suppression-pending time is invalid")
  let expected ← self.computedSuppressionPendingRoot commitments pendingAt
  ensure (self.suppressionPendingRoot == some expected)
    (.integrity "workflow suppression-pending root is not exact")

def validateReceiptPending : Result Unit := do
  let pendingAt ← orError self.receiptPendingAtMicros
    (.integrity "workflow lacks receipt-pending time")
  let pendingRevision ← if self.state = .complete then
      if self.revision = 0 then
        .error (.integrity "complete workflow revision cannot reconstruct pending state")
      else pure (self.revision - 1)
    else pure self.revision
  let expected ← self.bindingRootFor commitments .receiptPending pendingRevision pendingAt
  ensure (self.receiptPendingRoot == some expected)
    (.integrity "receipt-pending workflow root is not exact")

def validateSignedReceipt (receipt : SignedDeletionReceipt) : Result Unit := do
  let unsigned := receipt.unsigned
  let message := .integrity "signed receipt does not bind the recovered complete workflow"
  ensure (unsigned.deletion == self.handle && unsigned.namespace_ == self.namespace_ &&
    some unsigned.workflowRoot == self.receiptPendingRoot) message
  let closureRoot ← commitments.closure self.inventory
  ensure (unsigned.closureInventoryRoot == closureRoot &&
    some unsigned.verificationCommitment == self.verificationCommitment &&
    unsigned.requestedAtMicros == self.requestedAtMicros &&
      unsigned.completedAtMicros == self.updatedAtMicros) message

def validate : Result Unit := do
  ensure (self.formatVersion == secureStoreFormatVersion &&
    self.state.minimumRevision ≤ self.revision && self.requestedAtMicros ≤ self.updatedAtMicros)
    (.integrity "deletion workflow version, revision, or time is invalid")
  ensure (self.state.exactEarlyRevision.all (self.revision == ·))
    (.integrity "early deletion workflow revision is not exact")
  let _ ← DeletionClosureInventory.tryNew self.inventory.classes
  forM self.dispositions.toList self.validateDisposition
  let inventoriedCount := self.inventory.targetCount
  ensure (self.dispositions.size ≤ inventoriedCount && inventoriedCount ≤ maxDeletionClosureTargets)
    (.integrity "workflow disposition cardinality is invalid")
  ensure (self.state.reached .purging || self.dispositions.isEmpty)
    (.integrity "workflow has target work before purging")
  if self.state.reached .awaitingExternal then self.validateAwaitingConditions
  let suppressionRequired := self.state.reached .suppressed
  let suppressionStarted := self.state.reached .suppressionPending
  ensure (suppressionStarted == self.suppressionPendingRoot.isSome &&
    suppressionStarted == self.suppressionPendingAtMicros.isSome)
    (.integrity "workflow suppression-pending root disagrees with state")
  if suppressionStarted then self.validateSuppressionPending commitments
  ensure (suppressionRequired == self.suppressionCommitment.isSome)
    (.integrity "workflow suppression commitment disagrees with state")
  ensure (self.state.reached .verified == self.verificationCommitment.isSome)
    (.integrity "workflow verification commitment disagrees with state")
  forM self.verificationCommitment.toList fun commitment => do
    let computed ← self.computedVerificationCommitment commitments
    ensure (commitment == computed) (.integrity "workflow verification commitment is not exact")
  let receiptStage := self.state.reached .receiptPending
  ensure (receiptStage == self.receiptPendingRoot.isSome &&
    receiptStage == self.receiptPendingAtMicros.isSome &&
    (self.state == .complete) == self.signedReceipt.isSome)
    (.integrity "workflow receipt fields disagree with state")
  if receiptStage then self.validateReceiptPending commitments
  if self.state.reached .verified then
    ensure (self.dispositions.toList.all (·.2.isComplete))
      (.deletionIncomplete "verified workflow contains an incomplete target")
    ensure (inventoriedCount == self.dispositions.size)
      (.deletionIncomplete "verified workflow does not cover every target")
  forM self.signedReceipt.toList (self.validateSignedReceipt commitments)

def prepare (handle : DeletionHandle) (namespace_ : StateNamespace)
    (inventory : DeletionClosureInventory) (requestedAtMicros : Nat) : Result DeletionWorkflow := do
  let workflow : DeletionWorkflow := {
    formatVersion := secureStoreFormatVersion
    handle
    namespace_
    state := .prepared
    revision := 1
    requestedAtMicros
    updatedAtMicros := requestedAtMicros
    inventory
    dispositions := ∅
    suppressionPendingRoot := none
    suppressionPendingAtMicros := none
    suppressionCommitment := none
    verificationCommitment := none
    receiptPendingRoot := none
    receiptPendingAtMicros := none
    signedReceipt := none }
  workflow.validate commitments
  pure workflow

def requireTransition (expectedRevision : Nat) (next : DeletionWorkflowState) : Result Unit := do
  ensure (self.state.next == some next)
    (.stateConflict "deletion workflow transition is non-monotonic")
  ensure (self.revision == expectedRevision) (.stateConflict "deletion workflow revision is stale")

def requireRevisionAndTime (expectedRevision atMicros : Nat) : Result Unit :=
  ensure (self.revision == expectedRevision && self.updatedAtMicros ≤ atMicros)
    (.stateConflict "deletion workflow revision or time is stale")

def bumpRevision (atMicros : Nat) : Result DeletionWorkflow := do
  ensure (self.revision < maxRevision) (.stateConflict "deletion workflow revision exhausted")
  pure { self with revision := self.revision + 1, updatedAtMicros := atMicros }

def finishTransition (atMicros : Nat) (next : DeletionWorkflowState) : Result DeletionWorkflow := do
  ensure (self.updatedAtMicros ≤ atMicros) (.stateConflict "deletion workflow time regressed")
  let candidate ← bumpRevision { self with state := next } atMicros
  candidate.validate commitments
  pure candidate

end DeletionWorkflow

/-! ### Calls -/

/-- A call on `&mut DeletionWorkflow`: what it assigned before failing stays. -/
abbrev Mutation := Stateful DeletionWorkflow SecureStoreError Unit

section

open Stateful DeletionWorkflow

variable (commitments : Commitments) (expectedRevision atMicros : Nat)

def beginSuppression : Mutation := do
  let self ← get
  lift (self.requireTransition expectedRevision .suppressionPending)
  lift (self.requireRevisionAndTime expectedRevision atMicros)
  let bumped ← lift (bumpRevision { self with state := .suppressionPending } atMicros)
  let pending := { bumped with suppressionPendingAtMicros := some atMicros }
  let root ← lift (pending.computedSuppressionPendingRoot commitments atMicros)
  let candidate := { pending with suppressionPendingRoot := some root }
  lift (candidate.validate commitments)
  set candidate

def confirmSuppressed (suppressionCommitment : StateRoot)
    (verifier : SuppressionCommitmentVerifier) : Mutation := do
  let self ← get
  lift (self.requireTransition expectedRevision .suppressed)
  lift (self.requireRevisionAndTime expectedRevision atMicros)
  let pendingRoot ← lift (orError self.suppressionPendingRoot
    (.integrity "suppression workflow root is unavailable"))
  let closureRoot ← lift (commitments.closure self.inventory)
  lift (verifier self.namespace_ self.handle pendingRoot closureRoot suppressionCommitment)
  let candidate ← lift (finishTransition commitments
    { self with suppressionCommitment := some suppressionCommitment } atMicros .suppressed)
  set candidate

def beginPurging : Mutation := do
  let self ← get
  lift (self.requireTransition expectedRevision .purging)
  let candidate ← lift (self.finishTransition commitments atMicros .purging)
  set candidate

def recordDisposition (target : DeletionTargetHandle) (disposition : DeletionTargetDisposition) :
    Mutation := do
  let self ← get
  lift (self.requireRevisionAndTime expectedRevision atMicros)
  lift (ensure (self.state == .purging || self.state == .awaitingExternal) (.stateConflict
    "target dispositions can change only while purging or awaiting external work"))
  let closureClass ← lift (orError (self.inventory.classOf target)
    (.deletionIncomplete "target is outside the authoritative closure"))
  lift (disposition.validateForClass closureClass)
  if self.dispositions[target]? = some disposition then pure ()
  else do
    lift (ensure (self.dispositions[target]?.all (·.replaceable disposition))
      (.stateConflict "target disposition regressed or rewrote terminal evidence"))
    let candidate ← lift (bumpRevision
      { self with dispositions := self.dispositions.insert target disposition } atMicros)
    lift (candidate.validate commitments)
    set candidate

def awaitExternal : Mutation := do
  let self ← get
  lift (self.requireTransition expectedRevision .awaitingExternal)
  lift self.validateAwaitingConditions
  let candidate ← lift (self.finishTransition commitments atMicros .awaitingExternal)
  set candidate

def verifyClosure (authoritative : DeletionClosureInventory) (verifier : DeletionEvidenceVerifier) :
    Mutation := do
  let self ← get
  lift (self.requireTransition expectedRevision .verified)
  lift (self.requireRevisionAndTime expectedRevision atMicros)
  lift (self.inventory.requireExact authoritative)
  lift (self.verifyAllEvidence verifier)
  let commitment ← lift (self.computedVerificationCommitment commitments)
  let candidate ← lift (finishTransition commitments
    { self with verificationCommitment := some commitment } atMicros .verified)
  set candidate

def beginReceipt : Mutation := do
  let self ← get
  lift (self.requireTransition expectedRevision .receiptPending)
  lift (self.requireRevisionAndTime expectedRevision atMicros)
  let bumped ← lift (bumpRevision { self with state := .receiptPending } atMicros)
  let pending := { bumped with receiptPendingAtMicros := some atMicros }
  let root ← lift (pending.root commitments)
  let candidate := { pending with receiptPendingRoot := some root }
  lift (candidate.validate commitments)
  set candidate

def completeWithReceipt (signedReceipt : SignedDeletionReceipt) : Mutation := do
  let self ← get
  lift (self.requireTransition expectedRevision .complete)
  lift (self.requireRevisionAndTime expectedRevision atMicros)
  let candidate ← lift (finishTransition commitments
    { self with signedReceipt := some signedReceipt } atMicros .complete)
  set candidate

end

end ContextDb.SecureStore
