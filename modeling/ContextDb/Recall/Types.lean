import ContextDb.Core.Semantic

/-! The records of deterministic recall: provider snapshots, principals and access rules,
labelled documents, requests, continuation tokens and results. Counters and limits keep
the source's 32-bit width; scores are fixed-point naturals saturating at 64 bits. -/

set_option autoImplicit false

namespace ContextDb.Recall

open Std Lib ContextDb.Core

def planVersion : String := "contextdb-deterministic-recall-v1"

inductive RecallError
  | invalidRequest (reason : String)
  | provider (reason : String)
  | invalidContinuation | deadlineExceeded
deriving DecidableEq

/-- Violations of a core record surface as invalid requests with their own text. -/
def liftValidation (checked : ValidationResult) : Except RecallError Unit :=
  match checked with
  | .ok () => .ok ()
  | .error violation => .error (.invalidRequest violation.display)

structure DocumentId where
  text : String
  notBlank : isBlank text = false
deriving DecidableEq

namespace DocumentId

theorem text_injective (left right : DocumentId) (equal : left.text = right.text) :
    left = right := by
  cases left; cases right
  simpa using equal

instance : Ord DocumentId := ⟨compareOn text⟩

instance : TransOrd DocumentId :=
  inferInstanceAs (TransCmp (compareOn text))

instance : LawfulEqOrd DocumentId :=
  lawfulEqCmp_compareOn text text_injective

end DocumentId

structure RecallWatermarks where
  (journal semantic lexical : Nat)
  vector : BTreeMap String Nat
  graph : Nat
  hierarchy : BTreeMap String Nat
deriving DecidableEq

structure ProviderSnapshot where
  databaseId : String
  commitSeq : Nat
  watermarks : RecallWatermarks
deriving DecidableEq

def RecallWatermarks.validateFor (watermarks : RecallWatermarks) (snapshot : ProviderSnapshot) :
    Except RecallError Unit :=
  ensure (watermarks.journal ≤ snapshot.commitSeq && watermarks.semantic ≤ snapshot.commitSeq &&
      watermarks.lexical ≤ snapshot.commitSeq && watermarks.graph ≤ snapshot.commitSeq &&
      watermarks.vector.values.all (· ≤ snapshot.commitSeq) &&
        watermarks.hierarchy.values.all (· ≤ snapshot.commitSeq))
    (.provider "provider watermark is newer than its snapshot")

def ProviderSnapshot.validate (snapshot : ProviderSnapshot) : Except RecallError Unit := do
  ensure (!isBlank snapshot.databaseId) (.provider "provider database ID must not be blank")
  snapshot.watermarks.validateFor snapshot

inductive RecallSensitivity
  | «public»
  | internal | confidential | restricted
deriving DecidableEq

def RecallSensitivity.rank : RecallSensitivity → Nat
  | .public => 0
  | .internal => 1
  | .confidential => 2
  | .restricted => 3

structure RecallPrincipal where
  subject : String
  audiences : BTreeSet String
  workspace : String
  scopes : BTreeSet String
  purpose : String
  clearance : RecallSensitivity

variable (principal : RecallPrincipal)

def RecallPrincipal.validate : Except RecallError Unit := do
  forM [("principal.subject", principal.subject), ("principal.workspace", principal.workspace),
      ("principal.purpose", principal.purpose)] fun (name, value) =>
    ensure (!isBlank value) (.invalidRequest (name ++ " must not be blank"))
  ensure (!(principal.audiences.toList ++ principal.scopes.toList).any isBlank)
    (.invalidRequest "principal audience and scope identifiers must not be blank")

inductive AccessConsent
  | granted | unknown | denied
deriving DecidableEq

structure AccessRule where
  workspace : String
  (scopes owners : BTreeSet String)
  audiencePurposeGrants : BTreeMap String (BTreeSet String)
  sensitivity : RecallSensitivity
  requiredCompartments : BTreeSet String
  consent : AccessConsent
  retrievable : Bool

variable (access : AccessRule)

/-- An empty grant map is a valid rule that grants nobody. -/
def AccessRule.validate : Except RecallError Unit := do
  ensure (!isBlank access.workspace && !access.owners.isEmpty)
    (.provider "access rule requires a workspace and at least one owner")
  ensure (!(access.scopes.toList ++ access.owners.toList ++ access.audiencePurposeGrants.keys ++
        access.requiredCompartments.toList).any isBlank &&
          !(access.audiencePurposeGrants.values.flatMap (·.toList)).any isBlank)
    (.provider "access rule identifiers and purposes must not be blank")

def RecallPrincipal.grantKeys : BTreeSet String :=
  let keys := ((∅ : BTreeSet String).insertMany [principal.subject,
    "*"]).insertMany principal.audiences.toList
  if access.owners.contains principal.subject then keys.insert "@owner" else keys

def RecallPrincipal.allows : Bool :=
  access.workspace == principal.workspace && access.consent == .granted && access.retrievable &&
    access.sensitivity.rank ≤ principal.clearance.rank &&
      access.requiredCompartments.isSubset principal.scopes &&
    (access.scopes.isEmpty || access.scopes.anyElement principal.scopes.contains) &&
    (principal.grantKeys access).anyElement fun key =>
      (access.audiencePurposeGrants[key]?).any fun purposes =>
        purposes.contains principal.purpose || purposes.contains "*"

structure ProviderRequest where
  snapshot : ProviderSnapshot
  principal : RecallPrincipal
  filterDigest : String

inductive RecallDocumentKind
  | entity | claim | relationship | sharedReference | episode | observation | preference | boundary
  | goal | commitment | procedure | decision | reflection | knowledge | conflict | unknown | domain
deriving DecidableEq

structure DocumentTemporalState where
  validTime : Option TimeRange
  transactionTime : CommitRange
deriving DecidableEq

def DocumentTemporalState.validate (temporal : DocumentTemporalState) :
    Except RecallError Unit := do
  forM temporal.validTime.toList fun range => liftValidation range.validate
  liftValidation temporal.transactionTime.validate

structure DocumentPerspective where
  (knower narrator : Option String)
  role : String
deriving DecidableEq

inductive RecallConflictState
  | none
  | unresolved (setId : String)
  | resolvedWinner (setId : String)
  | resolvedLoser (setId : String) (winner : DocumentId)
  | superseded (successor : DocumentId)
deriving DecidableEq

def RecallConflictState.setId : RecallConflictState → Option String
  | .unresolved set | .resolvedWinner set | .resolvedLoser set _ => some set
  | .none | .superseded _ => Option.none

structure DocumentUseProfile where
  (influence mention externalModelUse : PolicyDecision)
  (sharedWithPrincipal personalDetail constraintOnly styleOnly : Bool)
deriving DecidableEq

def validateUnit (value : F32) (field : String) : Except RecallError Unit :=
  ensure (value.isFinite && value.inUnitRange) (.invalidRequest
    (field ++ " must be finite and within [0, 1]"))

structure RecallEvidence where
  id : String
  (sourceObservation excerpt : Option String)
  primary : Bool
  trust : F32
  estimatedTokens : UInt32
deriving DecidableEq

def RecallEvidence.validate (evidence : RecallEvidence) : Except RecallError Unit := do
  ensure (!isBlank evidence.id && evidence.estimatedTokens != 0)
    (.invalidRequest "evidence requires a non-empty ID and positive token cost")
  ensure (!(evidence.sourceObservation.toList ++ evidence.excerpt.toList).any isBlank)
    (.invalidRequest "evidence source and excerpt must not be blank when present")
  validateUnit evidence.trust "evidence.trust"

structure SuppliedVector where
  space : String
  values : List F32
deriving DecidableEq

def SuppliedVector.validate (vector : SuppliedVector) : Except RecallError Unit :=
  ensure (!isBlank vector.space && !vector.values.isEmpty && vector.values.all (·.isFinite))
    (.invalidRequest "supplied vector requires a space and finite non-empty values")

structure RecallDocument where
  id : DocumentId
  kind : RecallDocumentKind
  canonicalName : Option String
  aliases : List String
  text : String
  (facets subjects participants activeKeys : BTreeSet String)
  temporal : DocumentTemporalState
  perspective : DocumentPerspective
  conflict : RecallConflictState
  evidence : List RecallEvidence
  vector : Option SuppliedVector
  (sourceTrust importance : F32)
  estimatedTokens : UInt32
  useProfile : DocumentUseProfile
deriving DecidableEq

def RecallDocument.validate (document : RecallDocument) : Except RecallError Unit := do
  ensure (document.estimatedTokens != 0)
    (.invalidRequest "recall document token cost must be positive")
  ensure (!isBlank document.text || document.canonicalName.isSome)
    (.invalidRequest "recall document needs text or a canonical name")
  ensure (!isBlank document.perspective.role && !(document.perspective.knower.toList ++
    document.perspective.narrator.toList).any isBlank)
    (.invalidRequest "document perspective identifiers and role must not be blank")
  ensure (!(document.useProfile.constraintOnly && document.useProfile.styleOnly))
    (.invalidRequest "memory cannot be both constraint-only and style-only")
  ensure (!document.conflict.setId.any isBlank)
    (.invalidRequest "conflict set ID must not be blank")
  ensure (!document.canonicalName.any isBlank) (.invalidRequest "canonical name must not be blank")
  ensure (!(document.aliases ++ document.activeKeys.toList).any isBlank)
    (.invalidRequest "aliases and active keys must not be blank")
  document.temporal.validate
  validateUnit document.sourceTrust "document.source_trust"
  validateUnit document.importance "document.importance"
  forM document.evidence RecallEvidence.validate
  forM document.vector.toList SuppliedVector.validate

inductive RecallRelationKind
  | contains | partOf | about | relatedTo | supports | refines | similarTo | occurredIn
  | participantIn | precededBy | followedBy | triggered | resultedIn | supersedes | correctedBy
  | contradicts | sharedWith | sharedHistory | runningJoke | hasBoundary | committedTo | motivatedBy
  | causedBy | requires | verifiedBy | learnedFrom | hierarchyParent
  | domain (name : String)
deriving DecidableEq

def RecallRelationKind.domainName : RecallRelationKind → Option String
  | .domain name => some name
  | _ => none

structure RecallRelation where
  id : String
  (source target : DocumentId)
  kind : RecallRelationKind
  weight : F32
  validTime : Option TimeRange
  trust : F32
deriving DecidableEq

def RecallRelation.validate (relation : RecallRelation) : Except RecallError Unit := do
  ensure (!isBlank relation.id) (.invalidRequest "relation ID must not be blank")
  ensure (relation.source != relation.target)
    (.invalidRequest "self-relations are not useful for bounded activation")
  validateUnit relation.weight "relation.weight"
  validateUnit relation.trust "relation.trust"
  forM relation.validTime.toList fun range => liftValidation range.validate
  ensure (!relation.kind.domainName.any isBlank)
    (.invalidRequest "domain relation name must not be blank")

structure ProviderEvidence where
  access : AccessRule
  evidence : RecallEvidence

structure ProviderDocument where
  access : AccessRule
  document : RecallDocument
  evidence : List ProviderEvidence

structure ProviderRelation where
  access : AccessRule
  relation : RecallRelation

inductive RecallMode
  | never | optional | auto | required | implicitContinuity | explicit | associative | relational
  | historical | forensic
deriving DecidableEq

inductive RecallDepth
  | none | hot | standard | deep
deriving DecidableEq

inductive GateReason
  | modeNever | requiredByCaller | explicitMemoryLanguage | vagueReference | activeReferent
  | activeTopic | temporalLanguage | historicalIntent | relationshipIntent | evidenceRequired
  | selfContained | insufficientBudget
deriving DecidableEq

instance : Ord GateReason := ⟨compareOn GateReason.ctorIdx⟩

instance : TransOrd GateReason :=
  inferInstanceAs (TransCmp (compareOn GateReason.ctorIdx))

inductive RecallRoute
  | activeContext | exactAlias | relationship | episodic | temporal | structural | lexical
  | suppliedVector
deriving DecidableEq

instance : Ord RecallRoute := ⟨compareOn RecallRoute.ctorIdx⟩

instance : TransOrd RecallRoute :=
  inferInstanceAs (TransCmp (compareOn RecallRoute.ctorIdx))

structure MemoryGateDecision where
  runRecall : Bool
  depth : RecallDepth
  reasons : List GateReason
  mandatoryFacets : BTreeSet String
  preferredRoutes : List RecallRoute
deriving DecidableEq

structure RecallLimits where
  (maxNodesExamined maxSeedCandidates : UInt32)
  maxGraphHops : UInt8
  (maxFrontierPerHop maxEvidenceUnits maxContextTokens : UInt32)
  deadlineMicros : UInt64
deriving DecidableEq

def RecallLimits.validate (limits : RecallLimits) : Except RecallError Unit :=
  ensure (limits.maxNodesExamined != 0 && limits.maxSeedCandidates != 0 &&
    limits.maxGraphHops != 0 && limits.maxFrontierPerHop != 0 &&
      limits.maxEvidenceUnits != 0 && limits.maxContextTokens != 0 && limits.deadlineMicros != 0)
    (.invalidRequest "all recall limits must be positive")

structure BudgetUsage where
  (nodesExamined graphEdgesExamined : UInt32)
  maxHopReached : UInt8
  (evidenceUnits contextTokens : UInt32)
deriving DecidableEq

def BudgetUsage.initial : BudgetUsage :=
  ⟨0, 0, 0, 0, 0⟩

structure RecallContinuationToken where
  snapshot : ProviderSnapshot
  (planVersion filterDigest : String)
  nextOffset : UInt32
  visitedDigest : String
  (coveredFacetDigests selectedEvidenceDigests : BTreeSet String)
  consumed : BudgetUsage
  bindingDigest : String
deriving DecidableEq

structure DeterministicRecallRequest where
  request : RecallRequest
  principal : RecallPrincipal
  mode : RecallMode
  limits : RecallLimits
  queryVector : Option SuppliedVector
  continuation : Option RecallContinuationToken

def purposeKey : Purpose → String
  | .conversation => "conversation"
  | .personalisation => "personalisation"
  | .taskExecution => "task_execution"
  | .knowledgeRecall => "knowledge_recall"
  | .safety => "safety"
  | .audit => "audit"
  | .export => "export"
  | .migration => "migration"
  | .userSpecified label => "user:" ++ label

namespace DeterministicRecallRequest

def validate (request : DeterministicRecallRequest) : Except RecallError Unit := do
  liftValidation request.request.validate
  request.principal.validate
  request.limits.validate
  ensure (purposeKey request.request.purpose == request.principal.purpose)
    (.invalidRequest "request purpose differs from authorization purpose")
  ensure (request.request.scopes.toList.all fun scope =>
      request.principal.scopes.contains scope.id.display)
    (.invalidRequest "request scopes exceed principal grants")
  forM request.queryVector.toList SuppliedVector.validate

def maxContextTokens (request : DeterministicRecallRequest) : UInt32 :=
  min request.limits.maxContextTokens request.request.budgets.maxTokens

def maxNodesExamined (request : DeterministicRecallRequest) : UInt32 :=
  min request.limits.maxNodesExamined request.request.budgets.maxCandidates

def maxEvidenceUnits (request : DeterministicRecallRequest) : UInt32 :=
  min request.limits.maxEvidenceUnits request.request.budgets.maxEvidenceItems

end DeterministicRecallRequest

structure RouteContribution where
  route : RecallRoute
  (rank rrfMicros : Nat)
deriving DecidableEq

structure ScoreBreakdown where
  (rrfMicros activationMicros modifierMicros finalMicros : Nat)
  routes : List RouteContribution
deriving DecidableEq

inductive MemoryUseDecision
  | includeAndMention | includeSilently | includeOnlyAsConstraint | includeOnlyAsStyleSignal
  | withholdDueToUncertainty | withholdDueToPrivacy | withholdAsIrrelevant
deriving DecidableEq

def MemoryUseDecision.isIncluded : MemoryUseDecision → Bool
  | .includeAndMention | .includeSilently | .includeOnlyAsConstraint
  | .includeOnlyAsStyleSignal => true
  | _ => false

structure SelectedEvidence where
  documentId : DocumentId
  evidence : RecallEvidence
deriving DecidableEq

structure RecallItem where
  documentId : DocumentId
  kind : RecallDocumentKind
  content : Option String
  score : ScoreBreakdown
  coveredFacets : BTreeSet String
  useDecision : MemoryUseDecision
  estimatedTokens : UInt32
deriving DecidableEq

structure SufficiencyReport where
  sufficient : Bool
  (coveredFacets missingFacets unresolvedConflicts : BTreeSet String)
  unsupportedDocuments : BTreeSet DocumentId
  confidenceMicros : Nat
deriving DecidableEq

inductive CountBucket
  | zero | one | few | several | many
deriving DecidableEq

def CountBucket.fromAuthorized (value : Nat) : CountBucket :=
  if value = 0 then .zero else if value = 1 then .one else if value ≤ 4 then .few
  else if value ≤ 16 then .several else .many

inductive WorkBucket
  | constant | small | medium | large
deriving DecidableEq

def WorkBucket.fromUnits (value : Nat) : WorkBucket :=
  if value ≤ 1 then .constant else if value ≤ 32 then .small else if value ≤ 256 then .medium
  else .large

structure RecallTraceStep where
  stage : String
  route : Option RecallRoute
  (authorizedInput output : CountBucket)
  work : WorkBucket
  selectedIds : List DocumentId
  explanation : String
deriving DecidableEq

structure RecallTrace where
  (planVersion filterDigest : String)
  snapshot : Option ProviderSnapshot
  steps : List RecallTraceStep
deriving DecidableEq

inductive StopReason
  | gateSkipped | sufficient | nodeBudget | graphBudget | hopBudget | tokenBudget | deadline
  | noUsefulCandidates | unknownOrConflicted | continuationBoundary
deriving DecidableEq

inductive RecallStatus
  | skipped | complete | partialResult | unknown
deriving DecidableEq

structure DeterministicRecallResult where
  status : RecallStatus
  snapshot : Option ProviderSnapshot
  gate : MemoryGateDecision
  items : List RecallItem
  evidence : List SelectedEvidence
  sufficiency : SufficiencyReport
  stopReason : StopReason
  usage : BudgetUsage
  trace : RecallTrace
  continuation : Option RecallContinuationToken
  freshnessWarnings : List String
deriving DecidableEq

def evidenceSatisfies (policy : EvidencePolicy) (evidence : List RecallEvidence) : Bool :=
  if policy.requirePrimaryEvidence then evidence.any (·.primary)
  else policy.permitDerivedOnly || !evidence.isEmpty

def isExplicitIntent (intent : RecallIntent) (mode : RecallMode) : Bool :=
  mode matches .explicit | .historical | .forensic || intent matches .historicalTruth | .forensic

/-! The authorization boundary. The policy check is the first operation on every record:
rejected content takes no part in validation, deduplication, endpoint checks or sorting. -/

structure AuthorizedCorpus where
  snapshot : ProviderSnapshot
  filterDigest : String
  documents : List RecallDocument
  relations : List RecallRelation
deriving DecidableEq

def ProviderEvidence.unlabel (labelled : ProviderEvidence) : Except RecallError RecallEvidence := do
  labelled.access.validate
  labelled.evidence.validate
  pure labelled.evidence

def ProviderDocument.unlabel (principal : RecallPrincipal) (labelled : ProviderDocument) :
    Except RecallError RecallDocument := do
  labelled.access.validate
  ensure labelled.document.evidence.isEmpty
    (.provider "provider documents must submit evidence through labelled evidence records")
  let evidence ← (labelled.evidence.filter
    (principal.allows ·.access)).mapM ProviderEvidence.unlabel
  let evidence := sortBy (compareOn RecallEvidence.id) evidence
  ensure (!adjacentRepeat RecallEvidence.id evidence)
    (.provider "authorized document contains duplicate evidence IDs")
  let document := { labelled.document with evidence }
  document.validate
  pure document

def ProviderRelation.unlabel (labelled : ProviderRelation) : Except RecallError RecallRelation := do
  labelled.access.validate
  labelled.relation.validate
  pure labelled.relation

/-- The only transition from labelled provider records to planner-visible content. -/
def AuthorizedCorpus.authorize (request : ProviderRequest) (documents : List ProviderDocument)
    (relations : List ProviderRelation) : Except RecallError AuthorizedCorpus := do
  let principal := request.principal
  request.snapshot.validate
  principal.validate
  ensure (!isBlank request.filterDigest) (.provider "authorized corpus requires a filter digest")
  let admitted ← (documents.filter (principal.allows ·.access)).mapM
    (ProviderDocument.unlabel principal)
  let admitted := sortBy (compareOn RecallDocument.id) admitted
  ensure (!adjacentRepeat RecallDocument.id admitted)
    (.provider "authorized corpus contains duplicate document IDs")
  let endpoints : BTreeSet DocumentId := (∅ : BTreeSet DocumentId).insertMany (admitted.map (·.id))
  let connected ← (relations.filter (principal.allows ·.access)).mapM ProviderRelation.unlabel
  let connected := sortBy (compareOn RecallRelation.id) (connected.filter fun relation =>
    endpoints.contains relation.source && endpoints.contains relation.target)
  ensure (!adjacentRepeat RecallRelation.id connected)
    (.provider "authorized corpus contains duplicate relation IDs")
  pure { snapshot := request.snapshot, filterDigest := request.filterDigest, documents := admitted, relations := connected }

def AuthorizedCorpus.verifyBinding (corpus : AuthorizedCorpus) (request : ProviderRequest) :
    Except RecallError Unit :=
  ensure (corpus.snapshot == request.snapshot && corpus.filterDigest == request.filterDigest)
    (.provider "authorized corpus is not bound to the requested snapshot and filters")

structure RecallProvider where
  snapshot : Option Nat → Except RecallError ProviderSnapshot
  authorizedCorpus : ProviderRequest → Except RecallError AuthorizedCorpus

end ContextDb.Recall
