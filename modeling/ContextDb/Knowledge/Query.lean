import ContextDb.Knowledge.Ledger

/-! Bitemporal queries over the knowledge ledger. Sources are authorized by their latest known
revision; of each matching claim the last readable revision that holds at the queried instant
decides whether the claim supports the answer. -/

set_option autoImplicit false

namespace ContextDb.Knowledge

open Std Lib ContextDb.Core Recall

inductive SourceConstraint
  | anyAuthorized
  | source (id : SourceId)
  | family (name : String)
deriving DecidableEq

structure KnowledgeQuery where
  (subjectKey predicateKey : String)
  validAt : Int
  knownAt : Nat
  source : SourceConstraint
  (includeHistory discloseConflicts includeExcerpts : Bool)
  principal : RecallPrincipal

structure KnowledgeCitation where
  claimId : ClaimId
  sourceId : SourceId
  artifactId : ArtifactId
  (nativeLocator nativeRevision sourceFamily : String)
  evidenceId : EvidenceId
  selector : EvidenceSelector
  quoteHash : ContentDigest
  excerpt : Option String
  trust : TrustClass
  revisionLineage : List ArtifactId
deriving DecidableEq

structure KnowledgeAlternative where
  object : ClaimObject
  validTime : TimeRange
  claimIds : BTreeSet ClaimId
  independentSourceFamilies : BTreeSet String
  citations : List KnowledgeCitation
  confidenceMicros : Nat

inductive UnknownReason
  | noAuthorizedSource | noMatchingClaim | allSupportRetracted | onlyDerivedHypotheses
  | openQuestion
deriving DecidableEq

inductive KnowledgeAnswerState
  | supported (answer : KnowledgeAlternative)
  | disputed (conflictSetId : ConflictSetId) (canonicalConflict : Bool) (alternatives : List KnowledgeAlternative)
  | unknown (reason : UnknownReason) (searchedSources : List SourceId) (openQuestions : List String)

def KnowledgeAnswerState.alternatives : KnowledgeAnswerState → List KnowledgeAlternative
  | .supported answer => [answer]
  | .disputed _ _ alternatives => alternatives
  | .unknown _ _ _ => []

structure KnowledgeTimelineEntry where
  claimId : ClaimId
  revision : RevisionNumber
  object : ClaimObject
  validTime : TimeRange
  systemStart : Nat
  systemEnd : Option Nat
  lifecycle : LifecycleState
  reason : SourceClaimRevisionReason
  citations : List KnowledgeCitation

structure KnowledgeQueryResult where
  knownAt : Nat
  validAt : Int
  (subjectKey predicateKey : String)
  state : KnowledgeAnswerState
  history : List KnowledgeTimelineEntry
  hypotheses : List KnowledgeHypothesis
  sourceRevisionWatermark : Nat

/-! ### Authorization -/

def sensitivityOf : SecurityClassification → RecallSensitivity
  | .public => .public
  | .internal => .internal
  | .confidential => .confidential
  | .restricted => .restricted

def audienceKey : Audience → String
  | .public => "*"
  | .owner => "@owner"
  | .subject id | .group id => id.display
  | .memorySpace id => id.display

def retrieveGrants (grants : List AudienceGrant) : BTreeMap String (BTreeSet String) :=
  (grants.filter (·.capabilities.contains .retrieve)).foldl (fun granted grant =>
    granted.insert (audienceKey grant.audience) (((granted[audienceKey grant.audience]?).getD ∅).insertMany
        (grant.purposes.toList.map purposeKey))) ∅

def accessConsent (consent : ConsentPolicy) : AccessConsent :=
  if !consent.required || consent.decisions.all (·.status == .granted) then .granted
  else if consent.decisions.any (·.status == .denied) then .denied
  else .unknown

def accessRule (workspace : WorkspaceId) (envelope : SemanticEnvelope) : AccessRule where
  workspace := workspace.display
  scopes := .ofList (envelope.scopes.toList.map (·.id.display))
  owners := .ofList (envelope.ownership.owners.toList.map (·.display))
  audiencePurposeGrants := retrieveGrants envelope.ownership.audienceGrants
  sensitivity := sensitivityOf envelope.security.classification
  requiredCompartments := .ofList (envelope.security.requiredCompartments.toList.map (·.display))
  consent := accessConsent envelope.consent
  retrievable := envelope.usePolicy.retrieve == .allow

def principalAllowsEnvelope (principal : RecallPrincipal) (workspace : WorkspaceId)
    (envelope : SemanticEnvelope) : Bool :=
  principal.allows (accessRule workspace envelope)

def principalAllows (principal : RecallPrincipal) (revision : SourceRevision) : Bool :=
  principalAllowsEnvelope principal revision.source.workspaceId revision.envelope

def SourceConstraint.accepts (constraint : SourceConstraint) (revision : SourceRevision) : Bool :=
  match constraint with
  | .anyAuthorized => true
  | .source id => id == revision.source.id
  | .family name => name == revision.sourceFamily

def validateQuery (query : KnowledgeQuery) : Result Unit := do
  ensure (!isBlank query.subjectKey && !isBlank query.predicateKey &&
      !containsNul query.subjectKey && !containsNul query.predicateKey)
    (.invalidInput "knowledge_query.slot" "subject and predicate keys must not be blank or contain NUL")
  match query.source with
  | .family name =>
    ensure (!isBlank name && !containsNul name)
      (.invalidInput "knowledge_query.source.family" "must not be blank or contain NUL")
  | _ => .ok ()
  query.principal.validate.mapError .recall

/-! ### Citations -/

/-- The ancestors of an artifact, oldest first. Every step leaves a revision behind, so only a
cycle outlasts the fuel. -/
def sourceLineage (revisions : List SourceRevision) : Nat → List ArtifactId → ArtifactId → Result (List ArtifactId)
  | 0, _, _ => .error (.invalidInput "source_revision.lineage" "artifact ancestry contains a cycle")
  | fuel + 1, lineage, artifact =>
    if lineage.contains artifact then
      .error (.invalidInput "source_revision.lineage" "artifact ancestry contains a cycle")
    else match (revisions.reverse.find? (·.artifact.id == artifact)).bind (·.supersedes) with
      | some parent => sourceLineage revisions fuel (artifact :: lineage) parent
      | none => .ok (artifact :: lineage)

def citation (ledger : KnowledgeLedger) (includeExcerpt : Bool) (claimId : ClaimId)
    (sourceId : SourceId) (evidenceId : EvidenceId) : Result KnowledgeCitation := do
  let evidence ← match ledger.evidence[evidenceId]? with
    | some span => .ok span
    | none => .error (.invalidInput "knowledge.evidence" "claim cites unknown evidence")
  let revisions ← match ledger.sources[sourceId]? with
    | some revisions => .ok revisions
    | none => .error (.invalidInput "knowledge.source" "citation source is unknown")
  let revision ← match evidence.artifactId.bind fun artifact =>
      revisions.find? (·.artifact.id == artifact) with
    | some revision => .ok revision
    | none => .error (.invalidInput "knowledge.evidence.artifact"
        "evidence artifact is absent from source history")
  let revisionLineage ← sourceLineage revisions (revisions.length + 2) [] revision.artifact.id
  pure
    { claimId
      sourceId
      artifactId := revision.artifact.id
      nativeLocator := revision.source.nativeLocator
      nativeRevision := revision.nativeRevision
      sourceFamily := revision.sourceFamily
      evidenceId
      selector := evidence.selector
      quoteHash := evidence.quoteHash
      excerpt := if includeExcerpt then evidence.extractedText else none
      trust := evidence.trust
      revisionLineage }

def orderCitations (citations : List KnowledgeCitation) : List KnowledgeCitation :=
  let sorted := sortBy (fun left right : KnowledgeCitation =>
    (compare left.sourceId right.sourceId).then (compare left.evidenceId right.evidenceId)) citations
  (sorted.foldl (fun kept citation => match kept with
    | last :: _ => if last.evidenceId = citation.evidenceId then kept else citation :: kept
    | [] => [citation]) []).reverse

/-! ### Support -/

/-- Round-half-up of a non-negative single-precision value times one million; the product is
exact in double precision. -/
def confidenceMicros (confidence : ConfidenceProfile) : Nat :=
  let bits := confidence.overall.bits.toNat
  let exponent := bits / 0x800000 % 0x100
  let fraction := bits % 0x800000
  let mantissa := if exponent = 0 then fraction else fraction + 0x800000
  let scale := if exponent = 0 then 1 else exponent
  if bits ≥ 0x80000000 then 0
  else if scale ≥ 150 then min (mantissa * 1000000 * 2 ^ (scale - 150)) 0xffffffff
  else min ((2 * mantissa * 1000000 + 2 ^ (150 - scale)) / 2 ^ (151 - scale)) 0xffffffff

def combineIndependentSupport (scores : List Nat) : Nat :=
  let remaining := scores.foldl (fun remaining score =>
    remaining * (1000000 - score) / 1000000) 1000000
  min (1000000 - remaining) 999999

def intersectRanges : List TimeRange → Result TimeRange
  | [] => .error (.invalidInput "knowledge.alternative.valid_time"
      "an answer alternative requires at least one temporal support")
  | first :: rest => do
      let intersection := rest.foldl (fun kept range : TimeRange =>
        (⟨max kept.start range.start, match kept.finish, range.finish with
          | some left, some right => some (min left right)
          | some left, none => some left
          | none, finish => finish⟩ : TimeRange)) first
      validated intersection.validate
      pure intersection

abbrev Support := SourceClaimRecord × ClaimRevision

def familySupport (supports : List Support) : BTreeMap String Nat :=
  supports.foldl (fun scores (record, revision) =>
    let score := confidenceMicros revision.confidence
    scores.insert record.sourceFamily
      ((scores[record.sourceFamily]?).elim score (max · score))) ∅

section

variable (library : Library) (ledger : KnowledgeLedger) (query : KnowledgeQuery)

def alternative (supports : List Support) (object : ClaimObject) : Result KnowledgeAlternative := do
  let validTime ← intersectRanges (supports.map (·.2.temporal.validTime))
  let citations ← (supports.flatMap fun (record, revision) =>
    revision.evidence.map fun evidence => (record, evidence)).mapM fun (record, evidence) =>
      citation ledger query.includeExcerpts record.claim.id record.sourceId evidence
  pure
    { object
      validTime
      claimIds := .ofList (supports.map (·.1.claim.id))
      independentSourceFamilies := .ofList (supports.map (·.1.sourceFamily))
      citations := orderCitations citations
      confidenceMicros := combineIndependentSupport (familySupport supports).values }

variable (active : List Support)

def supportGroups : List (List Support) :=
  let keys : BTreeSet String := .ofList (active.map fun support => objectKey library support.2.object)
  keys.toList.map fun key => active.filter fun support => objectKey library support.2.object == key

def groupAlternative : List Support → Result KnowledgeAlternative
  | support :: rest => alternative ledger query (support :: rest) support.2.object
  | [] => .error (.invalidInput "knowledge.alternative.valid_time"
      "an answer alternative requires at least one temporal support")

def alternatives : Result (List KnowledgeAlternative) :=
  (supportGroups library active).mapM (groupAlternative ledger query)

def conflictForActive : Result (Option ConflictSetId) := do
  let signatures ← active.mapM fun support => policySignature library support.2.envelope
  match (.ofList signatures : BTreeSet String).toList with
  | [signature] =>
    let key := slotKey query.subjectKey query.predicateKey ++ "\x00" ++ signature
    pure <| (ledger.conflicts[key]?).bind fun record =>
      ((record.revisions.toList.reverse.find? (·.transactionTime.start ≤ query.knownAt)).filter
        fun revision => revision.resolution == .unresolved &&
          active.all fun support => revision.members.toList.contains support.1.claim.id).map
        fun _ => record.conflict.id
  | _ => pure none

def answerConflictId (alternatives : List KnowledgeAlternative) : ConflictSetId :=
  let ids : BTreeSet ClaimId := .ofList (alternatives.flatMap (·.claimIds.toList))
  deterministicId library [textBytes "knowledge-answer-conflict", ids.toList.flatMap uuidBytes]

/-! ### Queries -/

def authorizedSources : BTreeSet SourceId :=
  .ofList ((ledger.sources.toList.filter fun entry =>
    (entry.2.reverse.find? (·.publishedAt ≤ query.knownAt)).any fun revision =>
      principalAllows query.principal revision && query.source.accepts revision).map (·.1))

variable (record : SourceClaimRecord)

def readable (revision : ClaimRevision) : Bool :=
  revision.temporal.transactionTime.start ≤ query.knownAt &&
    principalAllowsEnvelope query.principal record.claim.workspaceId revision.envelope

def matchesSlot : Bool :=
  record.revisions.toList.any (fun entry => readable query record entry.1) &&
    record.subjectKey == query.subjectKey && record.predicateKey == query.predicateKey

def revisionAt : Option ClaimRevision :=
  ((record.revisions.toList.filter fun entry =>
    readable query record entry.1 && entry.1.temporal.validTime.contains query.validAt).getLast?).map (·.1)

def ClaimRevision.supports (revision : ClaimRevision) : Bool :=
  revision.epistemic.acceptance.isPublished && revision.epistemic.lifecycle == .active

def matchingRecords : List SourceClaimRecord :=
  ledger.claims.inOrder.filter fun record =>
    (authorizedSources ledger query).contains record.sourceId && matchesSlot query record

def activeSupports : List Support :=
  (matchingRecords ledger query).filterMap fun record =>
    ((revisionAt query record).filter ClaimRevision.supports).map (record, ·)

def timelineEntry
    (entry : ClaimRevision × SourceClaimRevisionReason) : Result KnowledgeTimelineEntry := do
  let revision := entry.1
  let citations ← revision.evidence.mapM
    (citation ledger query.includeExcerpts record.claim.id record.sourceId)
  pure
    { claimId := record.claim.id
      revision := revision.revision
      object := revision.object
      validTime := revision.temporal.validTime
      systemStart := revision.temporal.transactionTime.start
      systemEnd := revision.temporal.transactionTime.finish
      lifecycle := revision.epistemic.lifecycle
      reason := entry.2
      citations := orderCitations citations }

def history : Result (List KnowledgeTimelineEntry) := do
  if query.includeHistory then
    let entries := (matchingRecords ledger query).flatMap fun record =>
      (record.revisions.toList.filter fun entry => readable query record entry.1).map (record, ·)
    let timeline ← entries.mapM fun (record, entry) => timelineEntry ledger query record entry
    pure (sortBy (fun left right : KnowledgeTimelineEntry =>
      ((compare left.systemStart right.systemStart).then (compare left.claimId right.claimId)).then
        (compare left.revision.value right.revision.value)) timeline)
  else pure []

def retainedMatches (sourceId : SourceId) (envelope : SemanticEnvelope) (subjectKey predicateKey : String) : Bool :=
  (authorizedSources ledger query).contains sourceId &&
    ledger.workspaceId.any (principalAllowsEnvelope query.principal · envelope) &&
    subjectKey == query.subjectKey && predicateKey == query.predicateKey

def relevantQuestions : List String :=
  (.ofList ((ledger.openQuestions.filter fun question =>
    retainedMatches ledger query question.sourceId question.envelope question.subjectKey
      question.predicateKey && question.publishedAt ≤ query.knownAt).map (·.question)) : BTreeSet String).toList

def relevantHypotheses : List KnowledgeHypothesis :=
  sortBy (fun left right : KnowledgeHypothesis =>
      ((compare left.sourceId right.sourceId).then
        (compare left.statementKey right.statementKey)).then
        (compare left.publishedAt right.publishedAt))
    (ledger.hypotheses.filter fun hypothesis =>
      retainedMatches ledger query hypothesis.sourceId hypothesis.envelope hypothesis.subjectKey
        hypothesis.predicateKey && hypothesis.publishedAt ≤ query.knownAt)

def unknownReason : UnknownReason :=
  if (authorizedSources ledger query).isEmpty then .noAuthorizedSource
  else if !(relevantQuestions ledger query).isEmpty then .openQuestion
  else if !(relevantHypotheses ledger query).isEmpty then .onlyDerivedHypotheses
  else if (matchingRecords ledger query).any fun record =>
      (revisionAt query record).any (·.epistemic.lifecycle == .retracted) then .allSupportRetracted
  else .noMatchingClaim

def answerState : Result KnowledgeAnswerState := do
  let active := activeSupports ledger query
  let searched := (authorizedSources ledger query).toList
  if active.isEmpty then
    pure (.unknown (unknownReason ledger query) searched (relevantQuestions ledger query))
  else
    let found ← alternatives library ledger query active
    match found with
    | [answer] => pure (.supported answer)
    | _ =>
      if query.discloseConflicts then
        let canonical ← conflictForActive library ledger query active
        pure (.disputed (canonical.getD (answerConflictId library found)) canonical.isSome found)
      else
        pure (.unknown .noMatchingClaim searched ["authorized sources disagree and conflict disclosure was disabled"])

def authorizedSlotWatermark : Nat :=
  let claimCommits := (ledger.claims.inOrder.filter fun record =>
      (authorizedSources ledger query).contains record.sourceId &&
        record.subjectKey == query.subjectKey && record.predicateKey == query.predicateKey).flatMap
    fun record => (record.revisions.toList.filter fun entry =>
      principalAllowsEnvelope query.principal record.claim.workspaceId entry.1.envelope).map
        (·.1.temporal.transactionTime.start)
  let questionCommits := (ledger.openQuestions.filter fun question =>
    retainedMatches ledger query question.sourceId question.envelope question.subjectKey
      question.predicateKey).map (·.publishedAt)
  let hypothesisCommits := (ledger.hypotheses.filter fun hypothesis =>
    retainedMatches ledger query hypothesis.sourceId hypothesis.envelope hypothesis.subjectKey
      hypothesis.predicateKey).map (·.publishedAt)
  ((claimCommits ++ questionCommits ++ hypothesisCommits).filter (· ≤ query.knownAt)).foldl max 0

end

def query (library : Library) (ledger : KnowledgeLedger) (query : KnowledgeQuery) :
    Result KnowledgeQueryResult := do
  validateQuery query
  ensure (query.knownAt ≤ ledger.commitSeq) .futureSnapshot
  let history ← history ledger query
  let state ← answerState library ledger query
  pure
    { knownAt := query.knownAt
      validAt := query.validAt
      subjectKey := query.subjectKey
      predicateKey := query.predicateKey
      state
      history
      hypotheses := relevantHypotheses ledger query
      sourceRevisionWatermark := authorizedSlotWatermark ledger query }

end ContextDb.Knowledge
