import ContextDb.Reference.Write

/-! Authorized reads. Candidates come from the caller's workspace index; every
candidate passes the label of the selected revision and the current-use policy at
the head before its content is loaded. -/

set_option autoImplicit false

namespace ContextDb.Reference

open Lib Std ContextDb.Core

def JournalEvent.isSemantic : JournalEvent → Bool
  | .semanticPublished _ _ _ => true
  | .observationAccepted _ _ _ => false

def advanceWatermarks (watermarks : Watermarks) (record : JournalRecord) : Watermarks :=
  if record.event.isSemantic then
    ⟨record.commitSeq, record.commitSeq, record.commitSeq, record.commitSeq, record.commitSeq⟩
  else
    { watermarks with journal := record.commitSeq }

variable (state : State) (commitSeq : Nat)

def watermarksAt : Watermarks :=
  (state.journal.takeWhile (·.commitSeq ≤ commitSeq)).foldl advanceWatermarks .default

def snapshotFor : Snapshot where
  databaseId := state.databaseId
  commitSeq
  semanticGeneration := (watermarksAt state commitSeq).semantic
  storageGeneration := 0

def snapshot : Snapshot :=
  snapshotFor state state.head

def validateSnapshot : Result Unit :=
  ensure (commitSeq ≤ state.head) (.snapshotNotFound commitSeq state.head)

def validateSnapshotHandle (snapshot : Snapshot) : Result Unit := do
  ensure (snapshot.databaseId = state.databaseId)
    (.invariant "snapshot belongs to a different database")
  validateSnapshot state snapshot.commitSeq

variable (workspace : LogicalId)

def workspaceJournalLen : Nat :=
  state.securityIndexes.journalByWorkspace[workspace]?.elim 0 (·.length)

/-- Count the indexed publications up to the commit, stopping at the first later one
or at a position outside the journal. -/
def countPublications (journal : List JournalRecord) (commitSeq : Nat) : Watermarks → List Nat →
    Watermarks
  | watermarks, [] => watermarks
  | watermarks, position :: rest =>
    match journal[position]? with
    | none => watermarks
    | some record =>
      if commitSeq < record.commitSeq then
        watermarks else if record.event.isSemantic then
        let semantic := watermarks.semantic + 1
        countPublications journal commitSeq ⟨watermarks.journal + 1, semantic, semantic, semantic,
          semantic⟩ rest
      else
        countPublications journal commitSeq
          { watermarks with journal := watermarks.journal + 1 } rest

def workspaceWatermarksAt (commitSeq : Nat) : Watermarks :=
  match state.securityIndexes.journalByWorkspace[workspace]? with
  | none => .default
  | some positions => countPublications state.journal commitSeq .default positions

def trace (operation : String) (authorizedCandidates : Nat) (selectedIds : List LogicalId) :
    ReadTrace :=
  let watermarks := workspaceWatermarksAt state workspace commitSeq
  { snapshotSeq := watermarks.journal, operation, authorizedCandidates, selectedIds, watermarks }

def currentUsePolicyAllows (id : LogicalId) (principal : Principal) : Bool :=
  !state.deleted id && (state.lookup id state.head).any fun revision =>
    !(revision.record.lifecycle = .suppressed || revision.record.lifecycle = .retracted) &&
      principal.allows revision.record.access

def currentAuthorizedMetadata (id : LogicalId) (commitSeq : Nat) (principal : Principal) :
    Option StoredRevision :=
  if currentUsePolicyAllows state id principal then
    (state.lookup id commitSeq).filter fun revision =>
      revision.record.lifecycle = .active && principal.allows revision.record.access
  else
    none

def ensureWorkspaceCandidateBudget (candidateIds : Option (BTreeSet LogicalId)) : Result Unit :=
  ensure (candidateIds.all (·.size ≤ maxWorkspaceCandidates)) .resourceExhausted

def workspaceCandidates : Option (BTreeSet LogicalId) :=
  state.securityIndexes.historiesByWorkspace[workspace]?

def authorizedCandidate (principal : Principal) (id : LogicalId) :
    Result (Option StoredRevision) := do
  let history ← required state.histories[id]?
    (.invariant "workspace history index refers to a missing record")
  if state.deleted id then
    pure none
  else
    pure ((revisionAt history commitSeq).filter fun revision =>
      revision.record.lifecycle = .active && principal.allows revision.record.access &&
        currentUsePolicyAllows state id principal)

section

variable (codec : Codec)

def materializeRevision (state : State) (revision : StoredRevision) :
    Result MaterializedRecord := do
  let content ← contentForRevision codec state revision
  pure { revision, content }

def materializeAt (state : State) (id : LogicalId) (commitSeq : Nat)
    (principal : Principal) : Result MaterializedRecord := do
  ensure (!state.deleted id) (notFound "record" id)
  let revision ← required (state.lookup id commitSeq) (notFound "record" id)
  ensure (currentUsePolicyAllows state id principal) .unauthorized
  ensure (principal.allows revision.record.access) .unauthorized
  materializeRevision codec state revision

def get (state : State) (id : LogicalId) (snapshot : Snapshot) (principal : Principal) :
    Result MaterializedRecord := do
  validateSnapshotHandle state snapshot
  materializeAt codec state id snapshot.commitSeq principal

def scanCandidate (state : State) (kind : RecordKind) (commitSeq : Nat)
    (principal : Principal) (records : List MaterializedRecord) (id : LogicalId) :
    Result (List MaterializedRecord) := do
  match ← authorizedCandidate state commitSeq principal id with
  | none => pure records
  | some revision =>
    if revision.record.kind = kind then
      let record ← materializeRevision codec state revision
      pure (records ++ [record])
    else
      pure records

def scanKind (state : State) (kind : RecordKind) (snapshot : Snapshot) (principal : Principal) :
    Result (Traced (List MaterializedRecord)) := do
  validateSnapshotHandle state snapshot
  let candidateIds := workspaceCandidates state principal.workspace
  ensureWorkspaceCandidateBudget candidateIds
  let records ← (candidateIds.elim [] (·.toList)).foldlM
    (scanCandidate codec state kind snapshot.commitSeq principal) []
  pure
    { value := records
      trace := trace state snapshot.commitSeq principal.workspace "exact_scan" records.length
        (records.map (·.revision.id)) }

end

section

structure Scoring where
  tokens : String → BTreeSet String
  ratio : Nat → Nat → F32
  dot : List F32 → List F32 → F32

variable (codec : Codec) (scoring : Scoring)

def hitBefore (left right : SearchHit) : Bool :=
  right.score.totalRank < left.score.totalRank || (left.score.totalRank = right.score.totalRank &&
    left.id ≤ right.id)

def sortHits (hits : List SearchHit) : List SearchHit :=
  hits.mergeSort hitBefore

def scoreCandidate (state : State) (commitSeq : Nat) (principal : Principal)
    (score : RecordContent → Option F32) (progress : Nat × List SearchHit) (id : LogicalId) :
    Result (Nat × List SearchHit) := do
  match ← authorizedCandidate state commitSeq principal id with
  | none => pure progress
  | some revision => do
      let content ← contentForRevision codec state revision
      match score content with
      | none => pure (progress.1 + 1, progress.2)
      | some score => pure (progress.1 + 1, progress.2 ++ [⟨id, score⟩])

def exactSearch (state : State) (operation : String) (score : RecordContent → Option F32)
    (limit : Nat) (snapshot : Snapshot) (principal : Principal) :
    Result (Traced (List SearchHit)) := do
  let candidateIds := workspaceCandidates state principal.workspace
  ensureWorkspaceCandidateBudget candidateIds
  let (authorized, hits) ← (candidateIds.elim [] (·.toList)).foldlM
    (scoreCandidate codec state snapshot.commitSeq principal score) (0, [])
  let selected := (sortHits hits).take limit
  pure
    { value := selected
      trace := trace state snapshot.commitSeq principal.workspace operation authorized
        (selected.map (·.id)) }

def emptySearch (state : State) (operation : String) (snapshot : Snapshot)
    (principal : Principal) : Traced (List SearchHit) where
  value := []
  trace := trace state snapshot.commitSeq principal.workspace operation 0 []

def lexicalScore (queryTokens : BTreeSet String) (content : RecordContent) : Option F32 :=
  content.searchText.bind fun text =>
    let documentTokens := scoring.tokens text
    let matched := queryTokens.toList.countP documentTokens.contains
    if 0 < matched then some (scoring.ratio matched queryTokens.size) else none

def lexicalSearch (state : State) (query : String) (limit : Nat) (snapshot : Snapshot)
    (principal : Principal) : Result (Traced (List SearchHit)) := do
  validateSnapshotHandle state snapshot
  let queryTokens := scoring.tokens query
  if queryTokens.isEmpty || limit = 0 then
    pure (emptySearch state "exact_lexical" snapshot principal)
  else
    exactSearch codec state "exact_lexical"
      (lexicalScore scoring queryTokens) limit snapshot principal

def vectorScore (query : List F32) (content : RecordContent) : Option F32 :=
  content.vector.bind fun vector =>
    if vector.length = query.length then some (scoring.dot vector query) else none

def vectorSearch (state : State) (query : List F32) (limit : Nat) (snapshot : Snapshot)
    (principal : Principal) : Result (Traced (List SearchHit)) := do
  ensure (!(query.isEmpty || query.any (!·.isFinite)))
    (.invariant "query vector must be non-empty and finite")
  validateSnapshotHandle state snapshot
  if limit = 0 then
    pure (emptySearch state "exact_vector" snapshot principal)
  else
    exactSearch codec state "exact_vector" (vectorScore scoring query) limit snapshot principal

end

end ContextDb.Reference
