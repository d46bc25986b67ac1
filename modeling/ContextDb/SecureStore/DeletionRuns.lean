import ContextDb.SecureStore.Deletion
import Mathlib.Data.List.Induction

/-! What the calls of a hard-delete workflow can do to it, one by one and over whole runs. -/

set_option autoImplicit false

namespace ContextDb.SecureStore

open Std Lib Stateful DeletionWorkflow

inductive DeletionCall where
  | beginSuppression (expectedRevision atMicros : Nat)
  | confirmSuppressed (expectedRevision atMicros : Nat) (suppressionCommitment : StateRoot)
      (verifier : SuppressionCommitmentVerifier)
  | beginPurging (expectedRevision atMicros : Nat)
  | recordDisposition (expectedRevision atMicros : Nat) (target : DeletionTargetHandle)
      (disposition : DeletionTargetDisposition)
  | awaitExternal (expectedRevision atMicros : Nat)
  | verifyClosure (expectedRevision atMicros : Nat) (authoritative : DeletionClosureInventory)
      (verifier : DeletionEvidenceVerifier)
  | beginReceipt (expectedRevision atMicros : Nat)
  | completeWithReceipt (expectedRevision atMicros : Nat) (signedReceipt : SignedDeletionReceipt)

variable (commitments : Commitments)

def DeletionCall.perform : DeletionCall → Mutation
  | .beginSuppression revision time => SecureStore.beginSuppression commitments revision time
  | .confirmSuppressed revision time commitment verifier =>
    SecureStore.confirmSuppressed commitments revision time commitment verifier
  | .beginPurging revision time => SecureStore.beginPurging commitments revision time
  | .recordDisposition revision time target disposition =>
    SecureStore.recordDisposition commitments revision time target disposition
  | .awaitExternal revision time => SecureStore.awaitExternal commitments revision time
  | .verifyClosure revision time authoritative verifier =>
    SecureStore.verifyClosure commitments revision time authoritative verifier
  | .beginReceipt revision time => SecureStore.beginReceipt commitments revision time
  | .completeWithReceipt revision time receipt =>
    SecureStore.completeWithReceipt commitments revision time receipt

def afterCalls (workflow : DeletionWorkflow) (calls : List DeletionCall) : DeletionWorkflow :=
  calls.foldl (fun workflow call => (call.perform commitments workflow).2) workflow

/-! ### One call -/

structure SameDeletion (before after : DeletionWorkflow) : Prop where
  handle : after.handle = before.handle
  namespace_ : after.namespace_ = before.namespace_
  inventory : after.inventory = before.inventory

/-- A transition to the next state. Only the first two set what the suppression is bound to. -/
structure Moves (commitments : Commitments) (before : DeletionWorkflow)
    (next : DeletionWorkflowState) (after : DeletionWorkflow) : Prop
    extends SameDeletion before after where
  successor : before.state.next = some next
  state : after.state = next
  dispositions : after.dispositions = before.dispositions
  pendingRoot : next ≠ .suppressionPending → after.suppressionPendingRoot =
    before.suppressionPendingRoot
  commitment : next ≠ .suppressed → after.suppressionCommitment = before.suppressionCommitment
  valid : after.validate commitments = .ok ()

/-- A disposition recorded while work is open; those that were complete stay. -/
structure Records (before after : DeletionWorkflow) : Prop extends SameDeletion before after where
  working : before.state = .purging ∨ before.state = .awaitingExternal
  state : after.state = before.state
  kept : ∀ (target : DeletionTargetHandle) disposition,
    before.dispositions[target]? = some disposition → disposition.isComplete = true →
      after.dispositions[target]? = some disposition
  pendingRoot : after.suppressionPendingRoot = before.suppressionPendingRoot
  commitment : after.suppressionCommitment = before.suppressionCommitment

def AcceptsSuppression (verifier : SuppressionCommitmentVerifier)
    (workflow : DeletionWorkflow) (commitment : StateRoot) : Prop :=
  ∃ pendingRoot closureRoot, workflow.suppressionPendingRoot = some pendingRoot ∧
    commitments.closure workflow.inventory = .ok closureRoot ∧
    verifier workflow.namespace_ workflow.handle pendingRoot closureRoot commitment = .ok ()

inductive Effect (commitments : Commitments) (before : DeletionWorkflow) : DeletionCall →
    DeletionWorkflow → Prop
  | unchanged (call : DeletionCall) : Effect commitments before call before
  | recorded (call : DeletionCall) {after : DeletionWorkflow}
      (records : Records before after) : Effect commitments before call after
  | moved {call : DeletionCall} (next : DeletionWorkflowState) {after : DeletionWorkflow}
      (moves : Moves commitments before next after)
      (confirmed : next = .suppressed → ∃ revision time commitment verifier,
        call = .confirmSuppressed revision time commitment verifier ∧
        AcceptsSuppression commitments verifier before commitment ∧
          after.suppressionCommitment = some commitment)
      (verified : next = .verified → ∃ revision time authoritative verifier,
        call = .verifyClosure revision time authoritative verifier ∧
          before.verifyAllEvidence verifier = .ok ()) :
      Effect commitments before call after

variable {commitments : Commitments} {next : DeletionWorkflowState} {call : DeletionCall}
  {verifier : DeletionEvidenceVerifier} {target : DeletionTargetHandle}
  {disposition : DeletionTargetDisposition} {before after : DeletionWorkflow}

theorem orError_ok {Value : Type} {value : Option Value} {error : SecureStoreError} {found : Value}
    (success : orError value error = .ok found) : value = some found := by
  cases value with
  | none => cases success
  | some held =>
    cases success
    rfl

variable {self : DeletionWorkflow} {done : Unit} {revision : Nat}

theorem requireTransition_ok (success : self.requireTransition revision next = .ok done) :
    self.state.next = some next := by
  obtain ⟨successor, _⟩ := unit_ok success
  exact eq_of_beq (ensure_ok_iff.mp successor)

variable {time : Nat}

theorem bumpRevision_ok {bumped : DeletionWorkflow} (success : self.bumpRevision time =
    .ok bumped) :
    bumped = { self with revision := self.revision + 1, updatedAtMicros := time } := by
  have success := rest_ok success
  cases success
  rfl

theorem finishTransition_ok {finished : DeletionWorkflow}
    (success : self.finishTransition commitments time next = .ok finished) : finished = { self with
      state := next, revision := self.revision + 1, updatedAtMicros := time } ∧
        finished.validate commitments = .ok () := by
  have success := rest_ok success
  obtain ⟨candidate, bumped, success⟩ := bind_ok success
  obtain ⟨valid, success⟩ := unit_ok success
  cases success
  exact ⟨bumpRevision_ok bumped, valid⟩

/-- The later transitions add at most a verification commitment and a receipt. -/
theorem finishTransition_moves {verification : Option StateRoot}
    {receipt : Option SignedDeletionReceipt}
    (transition : before.requireTransition revision next = .ok done) (carried : self =
      { before with verificationCommitment := verification, signedReceipt := receipt })
    (finished : self.finishTransition commitments time next = .ok after) :
    Moves commitments before next after := by
  cases carried
  obtain ⟨rfl, valid⟩ := finishTransition_ok finished
  exact ⟨⟨rfl, rfl, rfl⟩, requireTransition_ok transition, rfl, rfl, fun _ => rfl, fun _ => rfl,
    valid⟩

theorem beginSuppression_effect (ran : beginSuppression commitments revision time before = (.ok (),
    after)) :
    Effect commitments before (.beginSuppression revision time) after := by
  unfold beginSuppression at ran
  rw [run_get_bind] at ran
  obtain ⟨_, transition, ran⟩ := run_lift_bind_ok ran
  obtain ⟨_, _, ran⟩ := run_lift_bind_ok ran
  obtain ⟨bumped, revised, ran⟩ := run_lift_bind_ok ran
  obtain ⟨root, _, ran⟩ := run_lift_bind_ok ran
  obtain ⟨_, valid, ran⟩ := run_lift_bind_ok ran
  cases ran
  cases bumpRevision_ok revised
  refine .moved .suppressionPending ?_ (fun same => by cases same)
    fun same => by cases same
  exact ⟨⟨rfl, rfl, rfl⟩, requireTransition_ok transition, rfl, rfl, fun other => absurd rfl other,
    fun _ => rfl, valid⟩

theorem confirmSuppressed_effect {commitment : StateRoot} {verifier : SuppressionCommitmentVerifier}
    (ran : confirmSuppressed commitments revision time commitment verifier before = (.ok (),
      after)) :
    Effect commitments before (.confirmSuppressed revision time commitment verifier) after := by
  unfold confirmSuppressed at ran
  rw [run_get_bind] at ran
  obtain ⟨_, transition, ran⟩ := run_lift_bind_ok ran
  obtain ⟨_, _, ran⟩ := run_lift_bind_ok ran
  obtain ⟨pendingRoot, pending, ran⟩ := run_lift_bind_ok ran
  obtain ⟨closureRoot, closure, ran⟩ := run_lift_bind_ok ran
  obtain ⟨_, accepted, ran⟩ := run_lift_bind_ok ran
  obtain ⟨candidate, finished, ran⟩ := run_lift_bind_ok ran
  cases ran
  obtain ⟨rfl, valid⟩ := finishTransition_ok finished
  refine .moved .suppressed ?_ (fun _ => ⟨revision, time, commitment, verifier, rfl, ?_, rfl⟩)
    fun same => by cases same
  · exact ⟨⟨rfl, rfl, rfl⟩, requireTransition_ok transition, rfl, rfl, fun _ => rfl,
      fun other => absurd rfl other, valid⟩
  · exact ⟨pendingRoot, closureRoot, orError_ok pending, closure, accepted⟩

theorem verifyClosure_effect {authoritative : DeletionClosureInventory}
    (ran : verifyClosure commitments revision time authoritative verifier before = (.ok (),
      after)) :
    Effect commitments before (.verifyClosure revision time authoritative verifier) after := by
  unfold verifyClosure at ran
  rw [run_get_bind] at ran
  obtain ⟨_, transition, ran⟩ := run_lift_bind_ok ran
  obtain ⟨_, _, ran⟩ := run_lift_bind_ok ran
  obtain ⟨_, _, ran⟩ := run_lift_bind_ok ran
  obtain ⟨_, accepted, ran⟩ := run_lift_bind_ok ran
  obtain ⟨commitment, _, ran⟩ := run_lift_bind_ok ran
  obtain ⟨candidate, finished, ran⟩ := run_lift_bind_ok ran
  cases ran
  exact .moved .verified (finishTransition_moves transition rfl finished)
    (fun same => by cases same)
    fun _ => ⟨revision, time, authoritative, verifier, rfl, accepted⟩

theorem recordDisposition_effect
    (ran : recordDisposition commitments revision time target disposition before =
      (.ok (), after)) : Effect commitments before
        (.recordDisposition revision time target disposition) after := by
  unfold recordDisposition at ran
  rw [run_get_bind] at ran
  obtain ⟨_, _, ran⟩ := run_lift_bind_ok ran
  obtain ⟨_, working, ran⟩ := run_lift_bind_ok ran
  obtain ⟨_, _, ran⟩ := run_lift_bind_ok ran
  obtain ⟨_, _, ran⟩ := run_lift_bind_ok ran
  split at ran
  · cases ran
    exact .unchanged _
  · obtain ⟨_, replaces, ran⟩ := run_lift_bind_ok ran
    obtain ⟨candidate, bumped, ran⟩ := run_lift_bind_ok ran
    obtain ⟨_, valid, ran⟩ := run_lift_bind_ok ran
    cases ran
    cases bumpRevision_ok bumped
    refine .recorded _ ⟨⟨rfl, rfl, rfl⟩, ?_, rfl, ?_, rfl, rfl⟩
    · simpa using working
    · intro other held found complete
      have apart : other ≠ target := by
        intro same
        rw [same] at found
        rw [found] at replaces
        simp [DeletionTargetDisposition.replaceable, complete] at replaces
      exact (BTreeMap.getElem?_insert_of_ne (Ne.symm apart)).trans found

/-- A successful call leaves the workflow alone, records a disposition or takes one step. -/
theorem perform_effect (ran : call.perform commitments before = (.ok (), after)) :
    Effect commitments before call after := by
  cases call with
  | beginSuppression revision time => exact beginSuppression_effect ran
  | confirmSuppressed revision time commitment verifier => exact confirmSuppressed_effect ran
  | recordDisposition revision time target disposition => exact recordDisposition_effect ran
  | verifyClosure revision time authoritative verifier => exact verifyClosure_effect ran
  | beginPurging revision time =>
    change beginPurging commitments revision time before = _ at ran
    unfold beginPurging at ran
    rw [run_get_bind] at ran
    obtain ⟨_, transition, ran⟩ := run_lift_bind_ok ran
    obtain ⟨candidate, finished, ran⟩ := run_lift_bind_ok ran
    cases ran
    exact .moved .purging (finishTransition_moves transition rfl finished)
      (fun same => by cases same) fun same => by cases same
  | awaitExternal revision time =>
    change awaitExternal commitments revision time before = _ at ran
    unfold awaitExternal at ran
    rw [run_get_bind] at ran
    obtain ⟨_, transition, ran⟩ := run_lift_bind_ok ran
    obtain ⟨_, _, ran⟩ := run_lift_bind_ok ran
    obtain ⟨candidate, finished, ran⟩ := run_lift_bind_ok ran
    cases ran
    exact .moved .awaitingExternal (finishTransition_moves transition rfl finished)
      (fun same => by cases same) fun same => by cases same
  | beginReceipt revision time =>
    change beginReceipt commitments revision time before = _ at ran
    unfold beginReceipt at ran
    rw [run_get_bind] at ran
    obtain ⟨_, transition, ran⟩ := run_lift_bind_ok ran
    obtain ⟨_, _, ran⟩ := run_lift_bind_ok ran
    obtain ⟨bumped, revised, ran⟩ := run_lift_bind_ok ran
    obtain ⟨root, _, ran⟩ := run_lift_bind_ok ran
    obtain ⟨_, valid, ran⟩ := run_lift_bind_ok ran
    cases ran
    cases bumpRevision_ok revised
    refine .moved .receiptPending ?_ (fun same => by cases same)
      fun same => by cases same
    exact ⟨⟨rfl, rfl, rfl⟩, requireTransition_ok transition, rfl, rfl, fun _ => rfl, fun _ => rfl,
      valid⟩
  | completeWithReceipt revision time receipt =>
    change completeWithReceipt commitments revision time receipt before = _ at ran
    unfold completeWithReceipt at ran
    rw [run_get_bind] at ran
    obtain ⟨_, transition, ran⟩ := run_lift_bind_ok ran
    obtain ⟨_, _, ran⟩ := run_lift_bind_ok ran
    obtain ⟨candidate, finished, ran⟩ := run_lift_bind_ok ran
    cases ran
    exact .moved .complete (finishTransition_moves transition rfl finished)
      (fun same => by cases same) fun same => by cases same

/-- Every call assigns its clone last, so a failed one changes nothing. -/
theorem perform_atomic (commitments : Commitments) (call : DeletionCall) :
    Atomic (call.perform commitments) := by
  cases call
  case recordDisposition revision time target disposition =>
    refine atomic_get_bind fun self => atomic_lift_bind fun _ => atomic_lift_bind fun _ =>
      atomic_lift_bind fun _ => atomic_lift_bind fun _ => ?_
    split
    · intro before error after ran
      cases congrArg Prod.fst ran
    · exact atomic_lift_bind fun _ => atomic_lift_bind fun _ => atomic_lift_bind fun _ =>
        atomic_set _
  all_goals
    refine atomic_get_bind fun self => ?_
    repeat refine atomic_lift_bind fun _ => ?_
    exact atomic_set _

/-- What any call leaves behind, whether it succeeds or fails. -/
theorem perform_leaves (commitments : Commitments) (before : DeletionWorkflow)
    (call : DeletionCall) :
    Effect commitments before call (call.perform commitments before).2 := by
  cases ran : call.perform commitments before with
  | mk result after =>
    cases result with
    | error error =>
      rw [perform_atomic commitments call before error after ran]
      exact .unchanged call
    | ok done => exact perform_effect ran

theorem Effect.steps (effect : Effect commitments before call after) :
    after.state = before.state ∨ before.state.next = some after.state := by
  cases effect with
  | unchanged => exact .inl rfl
  | recorded records => exact .inl records.state
  | moved next moves => exact .inr (moves.successor.trans (congrArg some moves.state.symm))

theorem Effect.keeps (effect : Effect commitments before call after)
    (target : DeletionTargetHandle) (disposition : DeletionTargetDisposition)
    (found : before.dispositions[target]? = some disposition)
    (complete : disposition.isComplete = true) :
    after.dispositions[target]? = some disposition := by
  cases effect with
  | unchanged => exact found
  | recorded records => exact records.kept target disposition found complete
  | moved next moves =>
    rw [moves.dispositions]
    exact found

/-! ### Runs -/

/-- Every class and target of the closure passed the verifier, with a complete disposition of
the control its class asks for. -/
structure ClosureAccepted (verifier : DeletionEvidenceVerifier) (workflow : DeletionWorkflow) :
    Prop where
  absent : ∀ member ∈ workflow.inventory.classes, ∀ evidence, member.absentEvidence =
    some evidence →
      verifier.verifyAbsentClass workflow.namespace_ member.closureClass evidence = .ok ()
  targets : ∀ member ∈ workflow.inventory.classes, ∀ target ∈ member.targets,
    ∃ disposition, workflow.dispositions[target]? = some disposition ∧
      disposition.isComplete = true ∧
      disposition.validateForClass member.closureClass = .ok () ∧
      verifier.verifyTarget workflow.namespace_ workflow.handle target member.closureClass disposition = .ok ()

theorem validate_dispositions {workflow : DeletionWorkflow}
    (valid : workflow.validate commitments = .ok ()) {member : ClassInventory}
    (listed : member ∈ workflow.inventory.classes) (held : target ∈ member.targets)
    (found : workflow.dispositions[target]? = some disposition) :
    disposition.validateForClass member.closureClass = .ok () := by
  have valid := rest_ok valid
  have valid := rest_ok valid
  obtain ⟨_, _, valid⟩ := bind_ok valid
  obtain ⟨each, _⟩ := unit_ok valid
  have checked := forM_ok_iff.mp each (target, disposition)
    (ExtTreeMap.mem_toList_iff_getElem?_eq_some.mpr found)
  obtain ⟨closureClass, class_, checked⟩ := bind_ok checked
  have inventoried := orError_ok class_
  rw [DeletionClosureInventory.classOf_eq listed held] at inventoried
  cases inventoried
  exact checked

theorem verifyAllEvidence_accepts (accepted : before.verifyAllEvidence verifier = .ok ())
    (moves : Moves commitments before .verified after) : ClosureAccepted verifier before := by
  have each := forM_ok_iff.mp accepted
  constructor
  · intro member listed evidence proven
    obtain ⟨absent, _⟩ := unit_ok (each member listed)
    dsimp only at absent
    rw [proven] at absent
    exact absent
  · intro member listed target held
    have targets := rest_ok (each member listed)
    have checked := forM_ok_iff.mp targets target (ExtTreeSet.mem_toList.mpr held)
    obtain ⟨disposition, found, checked⟩ := bind_ok checked
    obtain ⟨complete, verified⟩ := unit_ok checked
    have found := orError_ok found
    refine ⟨disposition, found, ensure_ok_iff.mp complete, ?_, verified⟩
    have valid := moves.valid
    refine validate_dispositions valid ?_ held ?_
    · rw [moves.inventory]
      exact listed
    · rw [moves.dispositions]
      exact found

/-- Some call of the run confirmed the suppression the workflow is bound to. -/
def SuppressionConfirmed (commitments : Commitments) (start : DeletionWorkflow)
    (calls : List DeletionCall) (workflow : DeletionWorkflow) : Prop :=
  ∃ early late revision time commitment verifier,
    calls = early ++ .confirmSuppressed revision time commitment verifier :: late ∧
    AcceptsSuppression commitments verifier (afterCalls commitments start early) commitment ∧
    workflow.suppressionPendingRoot = (afterCalls commitments start early).suppressionPendingRoot ∧
    workflow.suppressionCommitment = some commitment

/-- Some `verifyClosure` of the run succeeded on exactly the dispositions the workflow has. -/
def ClosureVerified (commitments : Commitments) (start : DeletionWorkflow)
    (calls : List DeletionCall) (workflow : DeletionWorkflow) : Prop :=
  ∃ early late revision time authoritative verifier,
    calls = early ++ .verifyClosure revision time authoritative verifier :: late ∧
    (verifyClosure commitments revision time authoritative verifier
      (afterCalls commitments start early)).1 = .ok () ∧
    ClosureAccepted verifier (afterCalls commitments start early) ∧
    workflow.dispositions = (afterCalls commitments start early).dispositions

structure Progress (commitments : Commitments) (start : DeletionWorkflow)
    (calls : List DeletionCall) (workflow : DeletionWorkflow) : Prop
    extends SameDeletion start workflow where
  suppressed : workflow.state.reached .suppressed = true →
    SuppressionConfirmed commitments start calls workflow
  verified : workflow.state.reached .verified = true →
    ClosureVerified commitments start calls workflow

variable {start workflow after : DeletionWorkflow} {calls : List DeletionCall}

theorem SuppressionConfirmed.later
    (confirmed : SuppressionConfirmed commitments start calls workflow)
    (root : after.suppressionPendingRoot = workflow.suppressionPendingRoot)
    (bound : after.suppressionCommitment = workflow.suppressionCommitment) :
    SuppressionConfirmed commitments start (calls ++ [call]) after := by
  obtain ⟨early, late, revision, time, commitment, verifier, split, accepted, pending, held⟩ :=
    confirmed
  refine ⟨early, late ++ [call], revision, time, commitment, verifier, ?_, accepted,
    root.trans pending, bound.trans held⟩
  rw [split, List.append_assoc, List.cons_append]

theorem ClosureVerified.later (verified : ClosureVerified commitments start calls workflow)
    (kept : after.dispositions = workflow.dispositions) :
    ClosureVerified commitments start (calls ++ [call]) after := by
  obtain ⟨early, late, revision, time, authoritative, verifier, split, ran, accepted, same⟩ :=
    verified
  refine ⟨early, late ++ [call], revision, time, authoritative, verifier, ?_, ran, accepted,
    kept.trans same⟩
  rw [split, List.append_assoc, List.cons_append]

theorem afterCalls_append (calls : List DeletionCall) (call : DeletionCall) :
    afterCalls commitments start (calls ++ [call]) =
      (call.perform commitments (afterCalls commitments start calls)).2 := by
  simp [afterCalls]

theorem Progress.unchanged (progress : Progress commitments start calls workflow) :
    Progress commitments start (calls ++ [call]) workflow :=
  ⟨progress.toSameDeletion, fun reached => (progress.suppressed reached).later rfl rfl,
    fun reached => (progress.verified reached).later rfl⟩

theorem SameDeletion.trans (first : SameDeletion start workflow)
    (second : SameDeletion workflow after) : SameDeletion start after :=
  ⟨second.handle.trans first.handle, second.namespace_.trans first.namespace_,
    second.inventory.trans first.inventory⟩

theorem Progress.recorded (progress : Progress commitments start calls workflow)
    (records : Records workflow after) : Progress commitments start (calls ++ [call]) after := by
  refine ⟨progress.toSameDeletion.trans records.toSameDeletion, fun reached => ?_,
    fun reached => ?_⟩
  · rw [records.state] at reached
    exact (progress.suppressed reached).later records.pendingRoot records.commitment
  · -- Work is open, so the workflow is not verified.
    rw [records.state] at reached
    cases records.working with
    | inl purging =>
      rw [purging] at reached
      cases reached
    | inr awaiting =>
      rw [awaiting] at reached
      cases reached

theorem reached_of_next {state stage : DeletionWorkflowState} (successor : state.next = some next)
    (reached : next.reached stage = true)
    (other : next ≠ stage) : state.reached stage = true := by
  revert reached other
  cases state <;> cases successor <;> cases stage <;> decide

theorem Progress.moved (progress : Progress commitments start calls
    (afterCalls commitments start calls))
    (moves : Moves commitments (afterCalls commitments start calls) next after)
    (confirmed : next = .suppressed → ∃ revision time commitment verifier,
      call = .confirmSuppressed revision time commitment verifier ∧
      AcceptsSuppression commitments verifier (afterCalls commitments start calls) commitment ∧
      after.suppressionCommitment = some commitment) (verified : next = .verified →
        ∃ revision time authoritative verifier,
      call = .verifyClosure revision time authoritative verifier ∧
        (afterCalls commitments start calls).verifyAllEvidence verifier = .ok ())
    (ran : (call.perform commitments (afterCalls commitments start calls)).1 = .ok ()) :
    Progress commitments start (calls ++ [call]) after := by
  refine ⟨progress.toSameDeletion.trans moves.toSameDeletion, fun reached => ?_, fun reached => ?_⟩
  · rw [moves.state] at reached
    by_cases here : next = .suppressed
    · obtain ⟨revision, time, commitment, verifier, rfl, accepted, bound⟩ := confirmed here
      exact ⟨calls, [], revision, time, commitment, verifier, rfl, accepted,
        moves.pendingRoot (by rw [here]; decide), bound⟩
    · have early : next ≠ .suppressionPending := by
        intro same
        rw [same] at reached
        cases reached
      exact (progress.suppressed (reached_of_next moves.successor reached here)).later
        (moves.pendingRoot early) (moves.commitment here)
  · rw [moves.state] at reached
    by_cases here : next = .verified
    · subst here
      obtain ⟨revision, time, authoritative, verifier, rfl, accepted⟩ := verified rfl
      exact ⟨calls, [], revision, time, authoritative, verifier, rfl, ran,
        verifyAllEvidence_accepts accepted moves, moves.dispositions⟩
    · exact (progress.verified (reached_of_next moves.successor reached here)).later moves.dispositions

theorem progress_run {handle : DeletionHandle} {namespace_ : StateNamespace}
    {inventory : DeletionClosureInventory} {requestedAt : Nat}
    (prepared : prepare commitments handle namespace_ inventory requestedAt = .ok start)
    (calls : List DeletionCall) : Progress commitments start calls
    (afterCalls commitments start calls) := by
  induction calls using List.reverseRecOn with
  | nil =>
    have success := rest_ok prepared
    cases success
    refine ⟨⟨rfl, rfl, rfl⟩, fun reached => ?_, fun reached => ?_⟩
    · change DeletionWorkflowState.prepared.reached .suppressed = true at reached
      cases reached
    · change DeletionWorkflowState.prepared.reached .verified = true at reached
      cases reached
  | append_singleton calls call ih =>
    rw [afterCalls_append]
    cases ran : call.perform commitments (afterCalls commitments start calls) with
    | mk result after =>
      cases result with
      | error error =>
        rw [perform_atomic commitments call _ error after ran]
        exact ih.unchanged
      | ok done =>
        have succeeded := congrArg Prod.fst ran
        cases perform_effect ran with
        | unchanged => exact ih.unchanged
        | recorded records => exact ih.recorded records
        | moved next moves confirmed verified =>
          exact ih.moved moves confirmed verified succeeded

/-- From any state a run reaches, a call fails without a change or takes at most one step, and
keeps every complete disposition. A workflow in state verified or later was confirmed
suppressed, and all its targets have the complete dispositions that `verifyClosure` accepted. -/
theorem deletion_never_completes_early {commitments : Commitments} {handle : DeletionHandle}
    {namespace_ : StateNamespace} {inventory : DeletionClosureInventory} {requestedAt : Nat}
    {start : DeletionWorkflow} (prepared : prepare commitments handle namespace_ inventory requestedAt = .ok start)
    (calls : List DeletionCall) (call : DeletionCall) :
    let before := afterCalls commitments start calls
    let result := call.perform commitments before
    (∀ error, result.1 = .error error → result.2 = before) ∧
    (result.2.state = before.state ∨ before.state.next = some result.2.state) ∧
    (∀ (target : DeletionTargetHandle) disposition,
      before.dispositions[target]? = some disposition → disposition.isComplete = true →
        result.2.dispositions[target]? = some disposition) ∧
          (before.state.reached .verified = true →
      before.inventory = inventory ∧ inventory.classes.map
        (·.closureClass) = allDeletionClosureClasses ∧
      SuppressionConfirmed commitments start calls before ∧
        ClosureVerified commitments start calls before) := by
  intro before result
  have progress := progress_run prepared calls
  have effect := perform_leaves commitments before call
  refine ⟨fun error failed => ?_, ?_, ?_, fun reached => ?_⟩
  · exact perform_atomic commitments call before error result.2 (Prod.ext failed rfl)
  · exact effect.steps
  · exact effect.keeps
  · have suppressed : before.state.reached .suppressed = true := by
      revert reached
      cases before.state <;> decide
    have same : start.inventory = inventory := by
      have success := rest_ok prepared
      cases success
      rfl
    exact ⟨progress.inventory.trans same, inventory.complete, progress.suppressed suppressed,
      progress.verified reached⟩

def sampleClasses : List ClassInventory :=
  allDeletionClosureClasses.map fun closureClass =>
    match closureClass with
    | .primaryContent => ⟨closureClass, .ofList ["page"], none⟩
    | .backup => ⟨closureClass, .ofList ["copy"], none⟩
    | _ => ⟨closureClass, ∅, some "absent"⟩

def sampleInventory : DeletionClosureInventory where
  classes := sampleClasses
  validated := by decide +kernel
  complete := rfl
  unshared := by decide +kernel

def sampleNamespace : StateNamespace := ⟨"authority", "database", "workspace", "partition"⟩

def sampleCommitments : Commitments where
  closure _ := .ok "closure"
  workflow _ := .ok "workflow"
  verifiedClosure _ := .ok "verified"
  suppressionPending _ := .ok "pending"
  signedReceipt _ := .ok "receipt"

def sampleCalls : List DeletionCall :=
  [.beginSuppression 1 10, .confirmSuppressed 2 10 "overlay" fun _ _ _ _ _ => .ok (),
    .beginPurging 3 11,
    .recordDisposition 4 12 "page" (.local (.purged "wiped")),
    .recordDisposition 5 12 "copy" (.managed (.deletionRequested "asked")), .awaitExternal 6 13,
    .recordDisposition 7 14 "copy" (.managed (.deleted "gone")),
    .verifyClosure 8 15 sampleInventory ⟨fun _ _ _ => .ok (), fun _ _ _ _ _ => .ok ()⟩]

theorem sample_run : yields (prepare sampleCommitments "deletion" sampleNamespace sampleInventory 5)
    (fun start => (afterCalls sampleCommitments start sampleCalls).state == .verified) = true := by
  decide +kernel

theorem deletion_never_completes_early_sample :
    ∃ start, prepare sampleCommitments "deletion" sampleNamespace sampleInventory 5 = .ok start ∧
      ClosureVerified sampleCommitments start sampleCalls
        (afterCalls sampleCommitments start sampleCalls) := by
  obtain ⟨start, prepared, verified⟩ := yields_iff.mp sample_run
  refine ⟨start, prepared, ?_⟩
  have facts := (deletion_never_completes_early prepared sampleCalls (.beginReceipt 9 16)).2.2.2
  have reached : (afterCalls sampleCommitments start sampleCalls).state.reached .verified =
    true := by
    rw [eq_of_beq verified]
    rfl
  exact (facts reached).2.2.2

end ContextDb.SecureStore
