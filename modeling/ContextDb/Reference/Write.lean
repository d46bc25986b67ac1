import ContextDb.Reference.Model
import ContextDb.Lib.Saturation

/-! The oracle's state, its revision lookup and the authorization indexes that
every publication rebuilds and compares. -/

set_option autoImplicit false

namespace ContextDb.Reference

open Lib Std ContextDb.Core

def maxWorkspaceCandidates : Nat := 100000

def maxWorkspaceJournalPage : Nat := 4096

structure WorkspaceEventIndexEntry where
  (workspaceSeq ordinal journalIndex : Nat)
  kind : WorkspaceEventCandidateKind
deriving DecidableEq

structure SecurityIndexes where
  (historiesByWorkspace observationsByWorkspace : BTreeMap LogicalId (BTreeSet LogicalId))
  journalByWorkspace : BTreeMap LogicalId (List Nat)
  eventsByWorkspace : BTreeMap LogicalId (List WorkspaceEventIndexEntry)

-- Equal maps may be stored differently, so the comparison must not cast along them.
instance : DecidableEq SecurityIndexes := fun left right =>
  decidable_of_iff (left.historiesByWorkspace = right.historiesByWorkspace ∧
      left.observationsByWorkspace = right.observationsByWorkspace ∧
      left.journalByWorkspace = right.journalByWorkspace ∧ left.eventsByWorkspace = right.eventsByWorkspace)
    (by cases left; cases right; simp)

def SecurityIndexes.default : SecurityIndexes :=
  ⟨∅, ∅, ∅, ∅⟩

structure State where
  databaseId : String
  head : Nat
  watermarks : Watermarks
  histories : BTreeMap LogicalId (List StoredRevision)
  observations : BTreeMap LogicalId ObservationRecord
  tombstones : BTreeMap LogicalId DeletionTombstone
  journal : List JournalRecord
  idempotency : BTreeMap String IdempotencyRecord
  contents : BTreeMap String Value
  securityIndexes : SecurityIndexes

def State.new (databaseId : String) : Result State := do
  ensure (!isBlank databaseId) (.invariant "database identifier must not be empty")
  pure
    { databaseId
      head := 0
      watermarks := .default
      histories := ∅
      observations := ∅
      tombstones := ∅
      journal := []
      idempotency := ∅
      contents := ∅
      securityIndexes := .default }

def notFound (kind id : String) : ReferenceError :=
  .notFound kind id

def StoredRevision.visibleAt (revision : StoredRevision) (commitSeq : Nat) : Bool :=
  revision.transactionFrom ≤ commitSeq && revision.transactionTo.all (commitSeq < ·)

def revisionAt (history : List StoredRevision) (commitSeq : Nat) : Option StoredRevision :=
  history.reverse.find? (·.visibleAt commitSeq)

namespace State

def lookup (state : State) (id : LogicalId) (commitSeq : Nat) : Option StoredRevision :=
  state.histories[id]?.bind (revisionAt · commitSeq)

def deleted (state : State) (id : LogicalId) : Bool :=
  state.tombstones.contains id

end State

/-- Value of a 32-bit counter, or the budget error of the source's conversion. -/
def ordinal (length : Nat) : Result Nat := do
  ensure (length < 2 ^ 32) .resourceExhausted
  pure length

abbrev WorkspaceCandidates := BTreeMap LogicalId (List (Nat × WorkspaceEventCandidateKind))

variable (state : State) (commitSeq : Nat)

def affectedWorkspace (id : LogicalId) : Result LogicalId :=
  match state.lookup id commitSeq with
  | some revision => .ok revision.record.access.workspace
  | none =>
    match state.observations[id]? with
    | some observation => .ok observation.access.workspace
    | none => .error (.invariant ("journal target " ++ id ++ " is missing authorization metadata"))

def addCandidate (workspaces : WorkspaceCandidates) (id : LogicalId) : Result WorkspaceCandidates := do
  let workspace ← affectedWorkspace state commitSeq id
  let candidates := workspaces[workspace]?.getD []
  ensure (candidates.length < maxWorkspaceCandidates) .resourceExhausted
  let position ← ordinal candidates.length
  pure (workspaces.insert workspace (candidates ++ [(position, .semanticRecordChanged id)]))

def addWatermark (workspaces : WorkspaceCandidates) (entry : LogicalId × List (Nat × WorkspaceEventCandidateKind)) :
    Result WorkspaceCandidates := do
  let position ← ordinal entry.2.length
  pure (workspaces.insert entry.1 (entry.2 ++ [(position, .semanticWatermark)]))

def journalEventWorkspaceCandidates : JournalEvent → Result WorkspaceCandidates
  | .observationAccepted observationId _ _ =>
    match state.observations[observationId]? with
    | none => .error (.invariant "journal observation is missing authorization metadata")
    | some observation => do
        ensure (observation.acceptedSeq ≤ commitSeq)
          (.invariant "journal observation predates its authorization metadata")
        pure ((∅ : WorkspaceCandidates).insert observation.access.workspace [(0, .observationAccepted observationId)])
  | .semanticPublished _ _ affectedIds => do
      let workspaces ← affectedIds.toList.foldlM (addCandidate state commitSeq) ∅
      workspaces.toList.foldlM addWatermark workspaces

/-- Append one publication's candidates of one workspace. The workspace sequence is
the number of publications indexed for it so far. -/
def SecurityIndexes.addPublication (journalIndex : Nat) (indexes : SecurityIndexes)
    (entry : LogicalId × List (Nat × WorkspaceEventCandidateKind)) : SecurityIndexes :=
  let positions := indexes.journalByWorkspace[entry.1]?.getD [] ++ [journalIndex]
  let added := entry.2.map fun candidate =>
    { workspaceSeq := positions.length, ordinal := candidate.1, journalIndex, kind := candidate.2 }
  { indexes with
    journalByWorkspace := indexes.journalByWorkspace.insert entry.1 positions
    eventsByWorkspace := indexes.eventsByWorkspace.insert entry.1
      (indexes.eventsByWorkspace[entry.1]?.getD [] ++ added) }

variable (index : BTreeMap LogicalId (BTreeSet LogicalId))

def indexHistory (entry : LogicalId × List StoredRevision) : BTreeMap LogicalId (BTreeSet LogicalId) :=
  if state.deleted entry.1 then index
  else
    match revisionAt entry.2 state.head with
    | none => index
    | some revision =>
      BTreeMap.updateEntry index revision.record.access.workspace ∅ (·.insert entry.1)

def indexObservation (entry : LogicalId × ObservationRecord) : BTreeMap LogicalId (BTreeSet LogicalId) :=
  if state.deleted entry.1 then index
  else BTreeMap.updateEntry index entry.2.access.workspace ∅ (·.insert entry.1)

def indexPublication (indexes : SecurityIndexes) (entry : JournalRecord × Nat) : Result SecurityIndexes := do
  let workspaces ← journalEventWorkspaceCandidates state entry.1.commitSeq entry.1.event
  pure (workspaces.toList.foldl (·.addPublication entry.2) indexes)

def rebuildSecurityIndexes : Result SecurityIndexes :=
  state.journal.zipIdx.foldlM (indexPublication state) { SecurityIndexes.default with
      historiesByWorkspace := state.histories.toList.foldl (indexHistory state) ∅
      observationsByWorkspace := state.observations.toList.foldl (indexObservation state) ∅ }

def verifySecurityIndexes : Result Unit := do
  let expected ← rebuildSecurityIndexes state
  ensure (state.securityIndexes = expected)
    (.invariant "workspace authorization index membership diverged from primary metadata")

/-! Checks on observations, records and complete states. Link targets are resolved
at the commit being written, so a record may name another one of its transaction. -/

def validateAccess (access : AccessLabel) : Result Unit := do
  ensure (!(isBlank access.workspace || access.owners.isEmpty))
    (.invariant "access label requires a workspace and at least one owner")
  ensure (!(BTreeSet.anyElement access.owners isBlank || BTreeSet.anyElement access.audience isBlank ||
      BTreeSet.anyElement access.scopes isBlank || BTreeSet.anyElement access.purposes isBlank))
    (.invariant "policy identifiers must not be empty")

def validateObservation (input : ObservationInput) : Result Unit := do
  ensure (!(isBlank input.idempotencyKey || isBlank input.observationId))
    (.invariant "observation and idempotency identifiers must not be empty")
  validateAccess input.access

def required {Item : Type} (item : Option Item) (error : ReferenceError) : Result Item :=
  match item with
  | some item => .ok item
  | none => .error error

def requireKind (kind : RecordKind) (atSeq : Nat) (id : LogicalId) : Result Unit := do
  ensure (!state.deleted id) (notFound "record" id)
  let revision ← required (state.lookup id atSeq) (notFound "record" id)
  ensure (revision.record.kind = kind && revision.record.lifecycle = .active)
    (.invariant ("record " ++ id ++ " is not an active " ++ kind.debug))

def requirePredicate (predicate : Option LogicalId) (text : String) : Result Unit :=
  ensure (predicate.any (!·.isEmpty)) (.invariant text)

def sameSlot (candidate : LogicalRecordMetadata) (other : LogicalRecordMetadata) : Bool :=
  other.kind = .claim && other.lifecycle = .active && other.links.singleValued &&
    other.links.subject = candidate.links.subject && other.links.predicate = candidate.links.predicate &&
    other.access.workspace = candidate.access.workspace && other.access.scopes = candidate.access.scopes

def sameConflict (candidate other : LogicalRecordMetadata) : Bool :=
  candidate.links.conflictSet.isSome && candidate.links.conflictSet = other.links.conflictSet

def validateCardinality (candidate : LogicalRecord) (atSeq : Nat) : Result Unit :=
  if !candidate.links.singleValued || candidate.lifecycle != .active then
    .ok ()
  else
    forM state.histories.toList fun (id, history) =>
      if id = candidate.id || state.deleted id then
        .ok ()
      else
        match revisionAt history atSeq with
        | none => .ok ()
        | some other =>
          ensure (!(sameSlot candidate.metadata other.record && !sameConflict candidate.metadata other.record))
            (.invariant ("single-valued claim " ++ candidate.id ++ " conflicts with " ++ id ++
              " without a conflict set"))

abbrev ConflictSignature :=
  Option LogicalId × Option LogicalId × LogicalId × BTreeSet LogicalId

def conflictSignature (record : LogicalRecordMetadata) : ConflictSignature :=
  (record.links.subject, record.links.predicate, record.access.workspace, record.access.scopes)

variable (record : LogicalRecord) (atSeq : Nat)

def checkMember (signature : Option ConflictSignature) (member : LogicalId) : Result (Option ConflictSignature) := do
  requireKind state .claim atSeq member
  let claim ← required (state.lookup member atSeq) (notFound "claim" member)
  ensure (signature.all (· = conflictSignature claim.record))
    (.invariant "conflict members must share subject, predicate, workspace, and scope")
  pure (some (conflictSignature claim.record))

def validateConflict : Result Unit := do
  ensure (2 ≤ record.links.conflictMembers.size) (.invariant "conflict set requires at least two claim members")
  let _ ← record.links.conflictMembers.toList.foldlM (checkMember state atSeq) none
  pure ()

def validateClaim : Result Unit := do
  let subject ← required record.links.subject (.invariant "claim requires a subject")
  requireKind state .node atSeq subject
  requirePredicate record.links.predicate "claim requires a predicate"
  validateCardinality state record atSeq

def validateEdge : Result Unit := do
  let source ← required record.links.source (.invariant "edge requires a source")
  let target ← required record.links.target (.invariant "edge requires a target")
  requireKind state .node atSeq source
  requireKind state .node atSeq target
  requirePredicate record.links.predicate "edge requires a predicate"

def validateLinks : Result Unit :=
  match record.kind with
  | .claim => validateClaim state record atSeq
  | .edge => validateEdge state record atSeq
  | .conflict => validateConflict state record atSeq
  | _ => .ok ()

def validateRecord : Result Unit := do
  ensure (!isBlank record.id && record.validTime.isValid)
    (.invariant "record identifier and valid-time interval must be valid")
  validateAccess record.access
  ensure (record.vector.all fun vector => !vector.isEmpty && vector.all (·.isFinite))
    (.invariant "record vector must be non-empty and finite")
  forM record.links.evidence.toList (requireKind state .evidence atSeq)
  validateLinks state record atSeq

/-- The back link of a claim. Deleted conflict sets keep their history, so this
lookup finds them too. -/
def validateConflictSetLink (id : LogicalId) (record : LogicalRecordMetadata) : Result Unit :=
  match record.links.conflictSet with
  | none => .ok ()
  | some conflictId => do
      let conflict ← required ((state.lookup conflictId atSeq).filter fun conflict =>
          conflict.record.kind = .conflict && conflict.record.lifecycle = .active)
        (.invariant ("claim " ++ id ++ " refers to missing active conflict set " ++ conflictId))
      ensure (conflict.record.links.conflictMembers.contains id)
        (.invariant ("conflict set " ++ conflictId ++ " does not contain referring claim " ++ id))

def validateMemberLink (id member : LogicalId) : Result Unit := do
  let claim ← required (state.lookup member atSeq) (notFound "claim" member)
  ensure (claim.record.links.conflictSet = some id)
    (.invariant ("conflict member " ++ member ++ " does not refer back to " ++ id))

def validateCompleteEntry (entry : LogicalId × List StoredRevision) : Result Unit :=
  if state.deleted entry.1 then
    .ok ()
  else
    match revisionAt entry.2 atSeq with
    | none => .ok ()
    | some revision =>
      match revision.record.kind with
      | .claim => validateConflictSetLink state atSeq entry.1 revision.record
      | .conflict =>
        forM revision.record.links.conflictMembers.toList (validateMemberLink state atSeq entry.1)
      | _ => .ok ()

def validateCompleteState : Result Unit :=
  forM state.histories.toList (validateCompleteEntry state atSeq)

/-! Mutations and publication. A transaction is applied to a private draft of the
state; the head stays at the base commit until the draft is published, so lookups
at the head see the base revisions while validation sees the draft's. -/

variable (codec : Codec)

structure Draft where
  state : State
  affectedIds : BTreeSet LogicalId

variable (state : State) (id : LogicalId)

def checkExpectedRevision : Option Nat → Option Nat → Result Unit
  | none, _ => .ok ()
  | some 0, none => .ok ()
  | some expected, some actual =>
    ensure (expected = actual) (.invariant ("revision precondition failed for " ++ id ++
      ": expected " ++ toString expected ++ ", current " ++ toString actual))
  | some expected, none =>
    .error (.invariant ("revision precondition failed for " ++ id ++ ": expected " ++
      toString expected ++ ", record is absent"))

/-- Successor of a 32-bit revision number, saturating as the source does. -/
def nextRevision (current : Option StoredRevision) : Nat :=
  current.elim 1 fun revision => min (revision.revision + 1) (2 ^ 32 - 1)

variable (input : ObservationInput) (commitSeq : Nat)

def closeLast (history : List StoredRevision) : List StoredRevision :=
  match history.getLast? with
  | none => history
  | some last => history.dropLast ++ [{ last with transactionTo := some commitSeq }]

def State.storeRevision (revision : StoredRevision) (content : Value) : State :=
  { state with
    histories := BTreeMap.updateEntry state.histories revision.id []
      (closeLast revision.transactionFrom · ++ [revision])
    contents := state.contents.insert revision.content.id content, securityIndexes := { state.securityIndexes with
      historiesByWorkspace := BTreeMap.updateEntry state.securityIndexes.historiesByWorkspace
        revision.record.access.workspace ∅ (·.insert revision.id) } }

variable (draft : Draft)

def putRecord (record : LogicalRecord) (expectedRevision : Option Nat)
    (commitSeq : Nat) : Result Draft := do
  let state := draft.state
  validateRecord state record commitSeq
  ensure (!(state.deleted record.id || state.observations.contains record.id))
    (.invariant ("external identifier " ++ record.id ++ " cannot be reused"))
  let current := state.lookup record.id state.head
  checkExpectedRevision record.id expectedRevision (current.map (·.revision))
  ensure (current.all (·.record.kind = record.kind))
    (.invariant ("record kind cannot change for " ++ record.id))
  ensure (current.all (·.record.access.workspace = record.access.workspace))
    (.invariant ("record workspace cannot change for " ++ record.id))
  ensure (nextRevision current != 2 ^ 32 - 1)
    (.invariant ("revision sequence exhausted for " ++ record.id))
  let (reference, value) ← codec.makeContentRef "record" record.id commitSeq
    (codec.contentToValue record.content)
  pure
    { state := state.storeRevision
        { id := record.id
          revision := nextRevision current
          transactionFrom := commitSeq
          transactionTo := none
          record := record.metadata
          content := reference } value
      affectedIds := draft.affectedIds.insert record.id }

def contentForRevision (revision : StoredRevision) : Result RecordContent := do
  let value ← required state.contents[revision.content.id]? (notFound "content" revision.content.id)
  let actualDigest ← codec.digest (.ok value)
  ensure (actualDigest = revision.content.digest) (.invariant ("content digest mismatch for " ++ revision.id))
  (codec.contentFromValue value).mapError .serialization

def StoredRevision.withLifecycle (current : StoredRevision) (lifecycle : Lifecycle)
    (content : RecordContent) : LogicalRecord where
  id := current.id
  kind := current.record.kind
  access := current.record.access
  validTime := current.record.validTime
  lifecycle
  links := current.record.links
  value := content.value
  searchText := content.searchText
  vector := content.vector
  attributes := content.attributes

def reviseLifecycle (target : LogicalId) (lifecycle : Lifecycle) (commitSeq : Nat) : Result Draft := do
  ensure (!draft.state.deleted target) (notFound "record" target)
  let current ← required (draft.state.lookup target draft.state.head) (notFound "record" target)
  let content ← contentForRevision codec draft.state current
  putRecord codec draft (current.withLifecycle lifecycle content) (some current.revision) commitSeq

def SemanticLinks.dependencies (links : SemanticLinks) : List LogicalId :=
  links.subject.toList ++ links.source.toList ++ links.target.toList ++ links.evidence.toList ++
    links.supersedes.toList ++ links.conflictMembers.toList

def State.dependsOn (closure : BTreeSet LogicalId) : Bool :=
  !state.deleted id && (state.lookup id state.head).any fun current =>
    current.record.links.dependencies.any closure.contains

/-- The target with everything that depends on it at the head. There are at most as
many productive rounds as histories. -/
def State.deletionClosure (target : LogicalId) : BTreeSet LogicalId :=
  saturate state.dependsOn state.histories.keys state.histories.keys.length {target}

def JournalEvent.requestFor : JournalEvent → Option String
  | .observationAccepted observationId _ requestContent =>
    if observationId = id then some requestContent.id else none
  | .semanticPublished _ requestContent affectedIds =>
    if affectedIds.contains id then some requestContent.id else none

def State.erasedContentRefs : List String :=
  (state.histories[id]?.getD []).map (·.content.id) ++ (state.observations[id]?.map (·.content.id)).toList ++
    state.journal.filterMap (·.event.requestFor id)

/-- Remove an id from a workspace's index set, and the set once it is empty. -/
def removeFromWorkspace (index : BTreeMap LogicalId (BTreeSet LogicalId))
    (workspace : Option LogicalId) (id : LogicalId) : BTreeMap LogicalId (BTreeSet LogicalId) :=
  match workspace with
  | none => index
  | some workspace =>
    match index[workspace]? with
    | none => index
    | some ids =>
      if (ids.erase id).isEmpty then index.erase workspace
      else index.insert workspace (ids.erase id)

def State.removeSecurityCandidate : SecurityIndexes :=
  { state.securityIndexes with
    historiesByWorkspace := removeFromWorkspace state.securityIndexes.historiesByWorkspace
      ((state.lookup id state.head).map (·.record.access.workspace)) id
    observationsByWorkspace := removeFromWorkspace state.securityIndexes.observationsByWorkspace
      (state.observations[id]?.map (·.access.workspace)) id }

/-- Erase the content of one id and publish its tombstone. -/
def State.eraseRecord (target requestedBy : LogicalId) (reason : String) (commitSeq : Nat)
    (state : State) (id : LogicalId) : State :=
  { state with
    contents := (state.erasedContentRefs id).foldl (·.erase ·) state.contents
    securityIndexes := state.removeSecurityCandidate id
    tombstones := state.tombstones.insert id
      { target := id
        requestedBy
        reason := if id = target then reason else "dependency_of:" ++ target
        effectiveSeq := commitSeq
        erasedContentRefs := .ofList (state.erasedContentRefs id) } }

def hardDelete (target requestedBy : LogicalId) (reason : String)
    (commitSeq : Nat) : Result Draft := do
  let state := draft.state
  ensure (!(isBlank target || isBlank requestedBy || isBlank reason))
    (.invariant "deletion target, actor, and reason must not be empty")
  ensure (!(state.deleted target ||
      (!state.histories.contains target && !state.observations.contains target)))
    (notFound "deletion target" target)
  let closure := (state.deletionClosure target).toList
  pure
    { state := closure.foldl (State.eraseRecord target requestedBy reason commitSeq) state
      affectedIds := draft.affectedIds.insertMany closure }

def applyMutation : Mutation → Result Draft
  | .put record expectedRevision => putRecord codec draft record expectedRevision commitSeq
  | .correct target replacement => do
      ensure (replacement.links.supersedes.contains target)
        (.invariant "correction replacement must identify its superseded target")
      let revised ← reviseLifecycle codec draft target .superseded commitSeq
      putRecord codec revised replacement (some 0) commitSeq
  | .retract target => reviseLifecycle codec draft target .retracted commitSeq
  | .delete target requestedBy reason => hardDelete draft target requestedBy reason commitSeq

def replayOrConflict (keyDigest requestDigest : String) : Result (Option CommitReceipt) :=
  match state.idempotency[keyDigest]? with
  | none => .ok none
  | some existing => do
      ensure (existing.requestDigest = requestDigest) (.idempotencyConflict keyDigest)
      pure (some { existing.receipt with replayed := true })

def nextCommit (head : Nat) : Result Nat := do
  ensure (head + 1 < 2 ^ 64) (.invariant "commit sequence exhausted")
  pure (head + 1)

def appendJournal (event : JournalEvent) : Result State := do
  let previousDigest := state.journal.getLast?.map (·.recordDigest)
  let recordDigest ← codec.journalDigest commitSeq previousDigest event
  let workspaces ← journalEventWorkspaceCandidates state commitSeq event
  pure { state with
      journal := state.journal ++ [{ commitSeq, previousDigest, recordDigest, event }], securityIndexes :=
        workspaces.toList.foldl (·.addPublication state.journal.length) state.securityIndexes }

/-- A validated write: either the replay of an earlier receipt, or the next state
with its receipt. -/
inductive Prepared
  | replay (receipt : CommitReceipt)
  | publish (next : State) (receipt : CommitReceipt)

def finishPublication (keyDigest requestDigest : String) (watermarks : Watermarks) : Result Prepared := do
  let receipt : CommitReceipt := { commitSeq, replayed := false, requestDigest, watermarks }
  let next : State :=
    { state with
      head := commitSeq
      watermarks, idempotency := state.idempotency.insert keyDigest { requestDigest, receipt } }
  verifySecurityIndexes next
  pure (.publish next receipt)

def State.keepRequest (reference : ContentRef) (request : Value) : State :=
  { state with contents := state.contents.insert reference.id request }

def State.capture (content : ContentRef) (value : Value) : State :=
  { state with
    contents := state.contents.insert content.id value, observations := state.observations.insert input.observationId
      { observationId := input.observationId, acceptedSeq := commitSeq, access := input.access
        content, metadata := input.metadata }, securityIndexes := { state.securityIndexes with
      observationsByWorkspace := BTreeMap.updateEntry state.securityIndexes.observationsByWorkspace
        input.access.workspace ∅ (·.insert input.observationId) } }

def prepareObservation : Result Prepared := do
  validateObservation input
  let requestDigest ← codec.operationDigest "observe" (codec.observationToValue input)
  let keyDigest := codec.keyDigest input.idempotencyKey
  match ← replayOrConflict state keyDigest requestDigest with
  | some receipt => pure (.replay receipt)
  | none => do
      ensure (!(state.observations.contains input.observationId ||
          state.histories.contains input.observationId || state.deleted input.observationId))
        (.invariant ("external identifier " ++ input.observationId ++ " has already been used"))
      let commitSeq ← nextCommit state.head
      let (content, value) ← codec.makeContentRef "observation" input.observationId commitSeq (.ok input.content)
      let (requestContent, requestValue) ← codec.makeContentRef "journal-observation"
        input.observationId commitSeq (codec.observationToValue input)
      let captured := state.capture input commitSeq content value
      let journaled ← appendJournal codec (captured.keepRequest requestContent requestValue)
        commitSeq (.observationAccepted input.observationId requestDigest requestContent)
      finishPublication journaled commitSeq keyDigest requestDigest { journaled.watermarks with journal := commitSeq }

def applyMutations (mutations : List Mutation) : Result Draft :=
  mutations.foldlM (applyMutation codec commitSeq) { state, affectedIds := ∅ }

/-- The shared body of the semantic commits. They differ in the operation name that
enters the digest, the content class and the request kept in the journal. -/
def prepareTransaction (operation contentClass : String) (request : Except String Value)
    (state : State) (transaction : SemanticTransaction) : Result Prepared := do
  let requestDigest ← codec.operationDigest operation request
  let keyDigest := codec.keyDigest transaction.idempotencyKey
  match ← replayOrConflict state keyDigest requestDigest with
  | some receipt => pure (.replay receipt)
  | none => do
      ensure (transaction.baseSeq = state.head) (.snapshotConflict transaction.baseSeq state.head)
      let commitSeq ← nextCommit state.head
      let draft ← applyMutations codec state commitSeq transaction.mutations
      validateCompleteState draft.state commitSeq
      let (requestContent, requestValue) ← codec.makeContentRef contentClass requestDigest commitSeq request
      let journaled ← appendJournal codec (draft.state.keepRequest requestContent requestValue)
        commitSeq (.semanticPublished requestDigest requestContent draft.affectedIds)
      finishPublication journaled commitSeq keyDigest requestDigest
        ⟨commitSeq, commitSeq, commitSeq, commitSeq, commitSeq⟩

/-- Publish unless the failpoint strikes first; the second failpoint loses only the
response. -/
def publish (guard : State) (failpoint : Failpoint) : Result Prepared → Result CommitReceipt × State
  | .error error => (.error error, guard)
  | .ok (.replay receipt) => (.ok receipt, guard)
  | .ok (.publish next receipt) =>
    match failpoint with
    | .none => (.ok receipt, next)
    | .beforePublish => (.error (.injectedCrash "before_publish"), guard)
    | .afterPublish => (.error (.injectedCrash "after_publish"), next)

def observeWithFailpoint (failpoint : Failpoint) : Result CommitReceipt × State :=
  publish state failpoint (prepareObservation codec state input)

variable (transaction : SemanticTransaction)

def commitWithFailpoint (failpoint : Failpoint) : Result CommitReceipt × State :=
  publish state failpoint do
    ensure (!isBlank transaction.idempotencyKey) (.invariant "idempotency key must not be empty")
    ensure (!transaction.mutations.isEmpty) (.invariant "semantic transaction must contain at least one mutation")
    prepareTransaction codec "semantic" "journal-semantic" (codec.transactionToValue transaction) state transaction

/-- The commit behind the canonical mutation contract. The journal keeps the canonical
request instead of the transaction it was translated to. -/
def commitWithCanonicalRequest (canonicalRequest : Except String Value) : Result CommitReceipt × State :=
  publish state .none do
    ensure (!transaction.mutations.isEmpty) (.invariant "canonical mutation has no material primary-state writes")
    prepareTransaction codec "semantic-core" "journal-semantic-core" canonicalRequest state transaction

end ContextDb.Reference
