import ContextDb.Recall.Routes

/-! Context selection: the memory-use decision of each ranked candidate, one unit of fresh
evidence for it, the evidence and token budgets, and the sufficiency report. -/

set_option autoImplicit false

namespace ContextDb.Recall

open Std Lib ContextDb.Core

structure RankedCandidate where
  document : RecallDocument
  score : CandidateScore
deriving DecidableEq

structure Selection where
  items : List RecallItem
  evidence : List SelectedEvidence
  unresolvedConflicts : BTreeSet String
  unsupportedDocuments : BTreeSet DocumentId
  coveredFacets : BTreeSet String
  processed : Nat
  (tokenLimited deadline : Bool)

variable (request : DeterministicRecallRequest) (engine : RecallEngine) (gate : MemoryGateDecision)
  (selection : Selection) (document : RecallDocument)

def memoryUseDecision (request : DeterministicRecallRequest) : MemoryUseDecision :=
  let profile := document.useProfile
  let explicit := isExplicitIntent request.request.intent request.mode
  if profile.influence = .deny || (request.request.targetModel.isSome &&
    profile.externalModelUse != .allow) then
    .withholdDueToPrivacy
  else if profile.influence = .conditional then .withholdDueToUncertainty
  else if profile.personalDetail && !profile.sharedWithPrincipal && !explicit then
    .withholdDueToPrivacy
  else if profile.constraintOnly then .includeOnlyAsConstraint
  else if profile.styleOnly then .includeOnlyAsStyleSignal
  else if profile.mention = .allow && explicit then .includeAndMention
  else .includeSilently

def requiresEvidence (kind : RecallDocumentKind) : Bool :=
  !(kind matches .entity | .domain)

/-- Primary before derived, then most trusted, then cheapest, then by identifier. -/
def evidenceOrder (left right : RecallEvidence) : Ordering :=
  (compare right.primary left.primary).then
    ((compare right.trust.totalRank left.trust.totalRank).then
      ((compare left.estimatedTokens right.estimatedTokens).then (compare left.id right.id)))

def chooseEvidence (request : DeterministicRecallRequest) : List RecallEvidence :=
  let ordered := sortBy evidenceOrder document.evidence
  let admissible := if request.request.evidencePolicy.requirePrimaryEvidence then
      ordered.filter (·.primary) else ordered
  admissible.take 1

/-- The set of an unresolved conflict; other states do not withhold a document. -/
def unresolvedSet : Option String :=
  match document.conflict with
  | .unresolved set => some set
  | _ => none

def lacksEvidence : Bool :=
  !evidenceSatisfies request.request.evidencePolicy document.evidence &&
    requiresEvidence document.kind

def qualifiedDecision : MemoryUseDecision :=
  if (unresolvedSet document).isSome || lacksEvidence request document then
    .withholdDueToUncertainty
  else memoryUseDecision document request

namespace RecallEngine

variable (engine : RecallEngine)

def facetMeetsConfidence (facet : String) (document : RecallDocument)
    (request : DeterministicRecallRequest) : Bool :=
  (request.request.requiredFacets.filter (engine.normalize ·.name = facet)).all fun requirement =>
    document.sourceTrust.atLeast requirement.minimumConfidence

def coveredBy (document : RecallDocument) (request : DeterministicRecallRequest) : List String :=
  (document.facets.toList.map engine.normalize).filter fun facet =>
    !facet.isEmpty && engine.facetMeetsConfidence facet document request

def evidenceDigest (evidence : RecallEvidence) : String :=
  engine.sensitiveDigest "evidence" evidence.id

def freshEvidence (request : DeterministicRecallRequest) (used : BTreeSet String)
    (document : RecallDocument) : List RecallEvidence :=
  if (qualifiedDecision request document).isIncluded then
    (chooseEvidence document request).filter fun evidence =>
      !used.contains (engine.evidenceDigest evidence)
  else []

end RecallEngine

structure Choice where
  decision : MemoryUseDecision
  evidence : List RecallEvidence
  newEvidenceCount : UInt32
  unsupported : Bool
  contextCost : UInt32

/-- Derived-only recall keeps an item whose evidence does not fit. -/
def keepsWithoutEvidence (policy : EvidencePolicy) : Bool :=
  !policy.requirePrimaryEvidence && policy.permitDerivedOnly

def evidenceOverflows (consumed count : UInt32) : Bool :=
  request.maxEvidenceUnits < saturatingAdd32 consumed count

def RecallEngine.choose (request : DeterministicRecallRequest)
    (consumed : UInt32) (used : BTreeSet String) (document : RecallDocument) : Choice :=
  let fresh := engine.freshEvidence request used document
  let newEvidenceCount := UInt32.ofNat (min fresh.length 0xffffffff)
  let overflow := evidenceOverflows request consumed newEvidenceCount
  let withheld := overflow && !keepsWithoutEvidence request.request.evidencePolicy
  let decision := if withheld then .withholdDueToUncertainty
    else qualifiedDecision request document
  let evidence := if overflow then [] else fresh
  { decision
    evidence
    newEvidenceCount, unsupported := lacksEvidence request document || withheld
    contextCost := if decision.isIncluded then
        saturatingAdd32 document.estimatedTokens (evidence.foldl
          (fun total item => total + item.estimatedTokens) 0)
      else 0 }

structure SelectionState where
  selection : Selection
  usage : BudgetUsage
  usedEvidence : BTreeSet String
  clock : Clock

def mandatoryCovered (covered : BTreeSet String) : Bool :=
  gate.mandatoryFacets.isSubset covered

def Selection.hasIncluded : Bool :=
  selection.items.any (·.useDecision.isIncluded)

/-- The loop stops as soon as the report would be sufficient. -/
def Selection.suffices (gate : MemoryGateDecision) : Bool :=
  mandatoryCovered gate selection.coveredFacets && selection.unresolvedConflicts.isEmpty &&
    selection.unsupportedDocuments.isEmpty && selection.hasIncluded

def RecallEngine.recallItem (candidate : RankedCandidate) (choice : Choice) : RecallItem where
  documentId := candidate.document.id
  kind := candidate.document.kind
  content := if choice.decision.isIncluded then some candidate.document.text else none
  score := candidate.score.breakdown
  coveredFacets := (∅ : BTreeSet String).insertMany
    (candidate.document.facets.toList.map engine.normalize)
  useDecision := choice.decision
  estimatedTokens := choice.contextCost

def selectedEvidence (evidence : List RecallEvidence) : List SelectedEvidence :=
  evidence.map fun item =>
    { documentId := document.id, evidence := { item with
        excerpt := if request.request.evidencePolicy.includeQuotes then item.excerpt else none } }

/-- Open conflicts, missing support and used evidence are recorded before the token check. -/
def RecallEngine.record (choice : Choice) (state : SelectionState) : SelectionState :=
  { state with
    selection := { state.selection with
      unresolvedConflicts := state.selection.unresolvedConflicts.insertMany
        (unresolvedSet document).toList
      unsupportedDocuments := if choice.unsupported then
          state.selection.unsupportedDocuments.insert document.id else state.selection.unsupportedDocuments }
    usedEvidence := state.usedEvidence.insertMany (choice.evidence.map engine.evidenceDigest)
    clock := state.clock.tick }

/-- Take a candidate that fits. The evidence counter advances by the fresh evidence found,
also when the evidence itself was dropped. -/
def RecallEngine.accept (request : DeterministicRecallRequest)
    (candidate : RankedCandidate) (choice : Choice) (state : SelectionState) : SelectionState :=
  let selection := state.selection
  let document := candidate.document
  let included := choice.decision.isIncluded
  { state with
    selection := { selection with
      items := selection.items ++ [engine.recallItem candidate choice]
      evidence := if included then
          selection.evidence ++ selectedEvidence request document choice.evidence
        else selection.evidence
      coveredFacets := if included then
          selection.coveredFacets.insertMany (engine.coveredBy document request)
        else selection.coveredFacets
      processed := selection.processed + 1 }
    usage := if included then
        { state.usage with
          contextTokens := saturatingAdd32 state.usage.contextTokens choice.contextCost
          evidenceUnits := saturatingAdd32 state.usage.evidenceUnits choice.newEvidenceCount }
      else state.usage }

def RecallEngine.choiceAt (request : DeterministicRecallRequest)
    (state : SelectionState) (candidate : RankedCandidate) : Choice :=
  engine.choose request state.usage.evidenceUnits state.usedEvidence candidate.document

def RecallEngine.tokensExceeded (request : DeterministicRecallRequest)
    (state : SelectionState) (candidate : RankedCandidate) : Bool :=
  request.maxContextTokens < saturatingAdd32 state.usage.contextTokens
    (engine.choiceAt request state candidate).contextCost

def RecallEngine.afterTaking (request : DeterministicRecallRequest)
    (state : SelectionState) (candidate : RankedCandidate) : SelectionState :=
  let choice := engine.choiceAt request state candidate
  engine.accept request candidate choice (engine.record candidate.document choice state)

def RecallEngine.selectContext (engine : RecallEngine) (request : DeterministicRecallRequest)
    (gate : MemoryGateDecision) : List RankedCandidate → SelectionState → SelectionState
  | [], state => state
  | candidate :: rest, state =>
    if state.clock.expired then
      { state with selection := { state.selection with deadline := true } }
    else if engine.tokensExceeded request state candidate then
      let recorded := engine.record candidate.document
        (engine.choiceAt request state candidate) state
      { recorded with selection := { recorded.selection with tokenLimited := true } }
    else
      let taken := engine.afterTaking request state candidate
      if taken.selection.suffices gate then taken
      else engine.selectContext request gate rest taken

/-- Mandatory facets whose digest the continuation carries count as covered. -/
def RecallEngine.restoredFacets (digests : BTreeSet String) : List String :=
  gate.mandatoryFacets.toList.filter fun facet =>
    digests.contains (engine.sensitiveDigest "facet" facet)

def RecallEngine.initialSelection (coveredDigests : BTreeSet String) : Selection where
  items := []
  evidence := []
  unresolvedConflicts := ∅
  unsupportedDocuments := ∅
  coveredFacets := (∅ : BTreeSet String).insertMany (engine.restoredFacets gate coveredDigests)
  processed := 0
  tokenLimited := false
  deadline := false

def facetConfidence : Nat :=
  if gate.mandatoryFacets.isEmpty then
    if selection.hasIncluded then scoreScale else 0
  else
    saturate64 (overlapCount gate.mandatoryFacets selection.coveredFacets * scoreScale) / gate.mandatoryFacets.size

def assessSufficiency : SufficiencyReport :=
  let missingFacets := gate.mandatoryFacets.filter (!selection.coveredFacets.contains ·)
  let evidencePenalty := if request.request.evidencePolicy.requirePrimaryEvidence &&
    !selection.unsupportedDocuments.isEmpty then 400000 else 0
  let conflictPenalty := if selection.unresolvedConflicts.isEmpty then 0 else 500000
  { sufficient := missingFacets.isEmpty && selection.unresolvedConflicts.isEmpty &&
      selection.unsupportedDocuments.isEmpty &&
        selection.hasIncluded, coveredFacets := selection.coveredFacets
    missingFacets, unresolvedConflicts := selection.unresolvedConflicts
    unsupportedDocuments := selection.unsupportedDocuments
    confidenceMicros := min (facetConfidence gate selection -
      (evidencePenalty + conflictPenalty)) 0xffffffff }

/-! The executor: admission of a request and its continuation, ranking over one authorized
corpus, selection, and the authenticated token a token-limited page hands back. -/

def verifyBudgetIntegrity (consumed : BudgetUsage) (request : DeterministicRecallRequest) :
    Except RecallError Unit :=
  ensure (consumed.nodesExamined ≤ request.maxNodesExamined &&
      consumed.graphEdgesExamined ≤ request.request.budgets.maxGraphVisits &&
      consumed.maxHopReached ≤ request.limits.maxGraphHops &&
        consumed.evidenceUnits ≤ request.maxEvidenceUnits &&
      consumed.contextTokens ≤ request.maxContextTokens)
    .invalidContinuation

def freshnessWarnings (snapshot : ProviderSnapshot) : List String :=
  let lagging := fun (watermark : Nat) => watermark < snapshot.commitSeq
  let projections := [("semantic", snapshot.watermarks.semantic),
    ("lexical", snapshot.watermarks.lexical), ("graph", snapshot.watermarks.graph)]
  sortBy compare ((projections.filter (lagging ·.2)).map
    (fun (name, _) => name ++ " projection lags snapshot") ++
      (snapshot.watermarks.vector.toList.filter (lagging ·.2)).map fun (space, _) =>
        "vector projection " ++ space ++ " lags snapshot")

def skippedResult (gate : MemoryGateDecision) (filterDigest : String) :
    DeterministicRecallResult where
  status := .skipped
  snapshot := none
  gate := gate
  items := []
  evidence := []
  sufficiency :=
    { sufficient := true, coveredFacets := ∅, missingFacets := ∅, unresolvedConflicts := ∅
      unsupportedDocuments := ∅, confidenceMicros := scoreScale }
  stopReason := .gateSkipped
  usage := .initial
  trace :=
    { planVersion
      filterDigest, snapshot := none, steps :=
        [ { stage := "memory_gate", route := none, authorizedInput := .zero, output := .zero, work := .constant
            selectedIds := [], explanation := "Memory gate skipped provider access" } ] }
  continuation := none
  freshnessWarnings := []

structure Admission where
  gate : MemoryGateDecision
  snapshot : ProviderSnapshot
  filterDigest : String
  prior : BudgetUsage
  corpus : AuthorizedCorpus

variable (engine : RecallEngine) (request : DeterministicRecallRequest) (admission : Admission)

def deadlineResult (usage : BudgetUsage) (steps : List RecallTraceStep) :
    DeterministicRecallResult where
  status := .partialResult
  snapshot := some admission.snapshot
  gate := admission.gate
  items := []
  evidence := []
  sufficiency :=
    { sufficient := false, coveredFacets := ∅, missingFacets := ∅, unresolvedConflicts := ∅
      unsupportedDocuments := ∅, confidenceMicros := 0 }
  stopReason := .deadline
  usage := usage
  trace :=
    { planVersion, filterDigest := admission.filterDigest, snapshot := some admission.snapshot, steps := steps ++
        [ { stage := "deadline", route := none, authorizedInput := .zero, output := .zero, work := .constant
            selectedIds := [], explanation := "Execution deadline exhausted after policy authorization" } ] }
  continuation := none
  freshnessWarnings := freshnessWarnings admission.snapshot

def RecallContinuationToken.binding (token : RecallContinuationToken) : TokenBinding where
  snapshot := token.snapshot
  planVersion := token.planVersion
  filterDigest := token.filterDigest
  nextOffset := token.nextOffset
  visitedDigest := token.visitedDigest
  coveredFacetDigests := token.coveredFacetDigests
  selectedEvidenceDigests := token.selectedEvidenceDigests
  consumed := token.consumed

namespace RecallEngine

variable (engine : RecallEngine)

def verifyContinuationAuthenticator (token : RecallContinuationToken) (filterDigest : String) :
    Except RecallError Unit :=
  ensure (token.planVersion == planVersion && token.filterDigest == filterDigest &&
      token.bindingDigest == engine.bindingDigest token.binding)
    .invalidContinuation

def verifyContinuation (token : RecallContinuationToken) (request : DeterministicRecallRequest)
    (snapshot : ProviderSnapshot) (filterDigest : String) : Except RecallError BudgetUsage := do
  ensure (token.planVersion == planVersion && token.snapshot == snapshot &&
    token.filterDigest == filterDigest &&
      token.bindingDigest == engine.bindingDigest token.binding)
    .invalidContinuation
  verifyBudgetIntegrity token.consumed request
  pure token.consumed

def priorUsage (request : DeterministicRecallRequest) (snapshot : ProviderSnapshot)
    (filterDigest : String) : Except RecallError BudgetUsage :=
  match request.continuation with
  | some token => engine.verifyContinuation token request snapshot filterDigest
  | none => pure .initial

/-- Everything before the execution clock starts. A continuation is authenticated before
the provider is asked for its snapshot. -/
def prepare (provider : RecallProvider) (request : DeterministicRecallRequest)
    (gate : MemoryGateDecision) (filterDigest : String) : Except RecallError Admission := do
  forM request.continuation.toList fun token =>
    engine.verifyContinuationAuthenticator token filterDigest
  let requestedCommit := (request.continuation.map (·.snapshot.commitSeq)).or
    (temporalSnapshot request)
  let snapshot ← provider.snapshot requestedCommit
  snapshot.validate
  let prior ← engine.priorUsage request snapshot filterDigest
  verifyBudgetIntegrity prior request
  let providerRequest : ProviderRequest :=
    { snapshot, principal := request.principal, filterDigest }
  let corpus ← provider.authorizedCorpus providerRequest
  corpus.verifyBinding providerRequest
  pure { gate, snapshot, filterDigest, prior, corpus }

end RecallEngine

def remainingNodes (prior : BudgetUsage) : Nat :=
  request.maxNodesExamined.toNat - prior.nodesExamined.toNat

def RecallEngine.documentVisible (snapshot : ProviderSnapshot) (document : RecallDocument) : Bool :=
  temporalVisible document request snapshot.commitSeq &&
    engine.perspectiveVisible document (participantKeys request) (engine.queryText request)

def RecallEngine.scanNodes (clock : Clock) (request : DeterministicRecallRequest)
    (admission : Admission) : NodeScan :=
  examineNodes (engine.documentVisible request admission.snapshot)
    (remainingNodes request admission.prior) admission.corpus.documents
    { visible := [], nodesExamined := admission.prior.nodesExamined, hitNodeBudget := false, deadline := false, clock }

structure Ranking where
  ranked : List RankedCandidate
  usage : BudgetUsage
  graphStop : Option StopReason
  trace : List RecallTraceStep
  clock : Clock

def candidateOrder (left right : RankedCandidate) : Ordering :=
  (compare right.score.finalScore left.score.finalScore).then
    (compare left.document.id right.document.id)

def filterStep (scan : NodeScan) : RecallTraceStep where
  stage := "temporal_perspective_filter"
  route := none
  authorizedInput := .fromAuthorized admission.corpus.documents.length
  output := .fromAuthorized scan.visible.length
  work := .fromUnits (scan.nodesExamined.toNat - admission.prior.nodesExamined.toNat)
  selectedIds := scan.visible.map (·.id)
  explanation := "Applied explicit temporal mode and participant perspective after authorization"

def rankedCandidates (visible : List RecallDocument) (scores : Scores) : List RankedCandidate :=
  sortBy candidateOrder (scores.toList.filterMap fun (id, score) =>
    (visible.find? (·.id = id)).map fun document => { document, score })

def RecallEngine.routeSeeds (cues : RouteCues)
    (documents : List RecallDocument) (route : RecallRoute) : List (DocumentId × Nat) :=
  (engine.routeRanking cues documents route).take cues.seedLimit

def RecallEngine.fuse (cues : RouteCues) (documents : List RecallDocument) : Scores :=
  RecallRoute.all.foldl (fun scores route => seedRoute route
    (engine.routeSeeds cues documents route) scores) ∅

def RecallEngine.rank (scan : NodeScan) : Ranking :=
  let cues := engine.routeCues request admission.gate
  let routed := routedDocuments scan.clock scan.visible
  let scores := engine.applyModifiers cues scan.visible (engine.fuse cues routed.processed)
  let seeded : Spread :=
    { scores, frontier := [], visited := ∅, usage := { admission.prior with nodesExamined := scan.nodesExamined }
      trace := filterStep admission scan :: RecallRoute.all.map fun route =>
        seedStep route scan.visible.length
          (engine.routeSeeds cues routed.processed route), clock := routed.clock
      stop := none }
  let spread := if routed.deadline then { seeded with stop := some .deadline }
    else spreadActivation request scan.visible admission.corpus.relations seeded
  { ranked := rankedCandidates scan.visible spread.scores, usage := spread.usage, graphStop := spread.stop
    trace := spread.trace, clock := spread.clock }

def DeterministicRecallRequest.offset : Nat :=
  request.continuation.elim 0 (·.nextOffset.toNat)

def DeterministicRecallRequest.coveredDigests : BTreeSet String :=
  request.continuation.elim ∅ (·.coveredFacetDigests)

def DeterministicRecallRequest.evidenceDigests : BTreeSet String :=
  request.continuation.elim ∅ (·.selectedEvidenceDigests)

def visitedIds (ranked : List RankedCandidate) : List String :=
  ranked.map (·.document.id.text)

def stopReason (sufficiency : SufficiencyReport) (selection : Selection)
    (graphStop : Option StopReason) (hitNodeBudget : Bool) : StopReason :=
  if sufficiency.sufficient then .sufficient
  else if selection.deadline then .deadline
  else if selection.tokenLimited then .tokenBudget
  else match graphStop with
    | some reason => reason
    | none =>
      if hitNodeBudget then .nodeBudget
      else if !sufficiency.unresolvedConflicts.isEmpty ||
        !sufficiency.unsupportedDocuments.isEmpty then .unknownOrConflicted
      else .noUsefulCandidates

def recallStatus (sufficiency : SufficiencyReport) (selection : Selection) : RecallStatus :=
  if sufficiency.sufficient then .complete
  else if selection.hasIncluded then .partialResult
  else .unknown

def sufficiencyStep (ranked : List RankedCandidate) (selection : Selection) : RecallTraceStep where
  stage := "sufficiency_and_use"
  route := none
  authorizedInput := .fromAuthorized ranked.length
  output := .fromAuthorized selection.items.length
  work := .fromUnits selection.processed
  selectedIds := selection.items.map (·.documentId)
  explanation := "Applied conflict, evidence, privacy-use, facet, and context budgets"

namespace RecallEngine

variable (engine : RecallEngine) (request : DeterministicRecallRequest) (admission : Admission)

def makeContinuation (ranked : List RankedCandidate) (nextOffset : Nat) (final : SelectionState) :
    Except RecallError RecallContinuationToken := do
  ensure (nextOffset < UInt32.size) (.invalidRequest "continuation offset exceeds u32")
  let token : RecallContinuationToken :=
    { snapshot := admission.snapshot
      planVersion, filterDigest := admission.filterDigest, nextOffset := UInt32.ofNat nextOffset
      visitedDigest := engine.visitedDigest (visitedIds (ranked.take nextOffset))
      coveredFacetDigests := (∅ : BTreeSet String).insertMany
        (final.selection.coveredFacets.toList.map (engine.sensitiveDigest "facet"))
      selectedEvidenceDigests := request.evidenceDigests.insertMany
        (final.selection.evidence.map fun item => engine.evidenceDigest item.evidence), consumed := final.usage
      bindingDigest := "" }
  pure { token with bindingDigest := engine.bindingDigest token.binding }

/-- What the selection loop starts from: the facets and evidence the continuation restores. -/
def selectionStart (ranking : Ranking) : SelectionState where
  selection := engine.initialSelection admission.gate request.coveredDigests
  usage := ranking.usage
  usedEvidence := request.evidenceDigests
  clock := ranking.clock

def select (ranking : Ranking) : SelectionState :=
  engine.selectContext request admission.gate (ranking.ranked.drop request.offset)
    (engine.selectionStart request admission ranking)

/-- The continuation of a page that the token budget cut short. -/
def continuation (ranked : List RankedCandidate) (stop : StopReason) (final : SelectionState) :
    Except RecallError (Option RecallContinuationToken) :=
  let nextOffset := request.offset + final.selection.processed
  if nextOffset < ranked.length && stop = .tokenBudget then
    some <$> engine.makeContinuation request admission ranked nextOffset final
  else pure none

def conclude (hitNodeBudget : Bool)
    (ranking : Ranking) : Except RecallError DeterministicRecallResult := do
  ensure (request.offset ≤ ranking.ranked.length) .invalidContinuation
  forM request.continuation.toList fun token =>
    ensure (engine.visitedDigest (visitedIds (ranking.ranked.take request.offset)) ==
        token.visitedDigest)
      .invalidContinuation
  let final := engine.select request admission ranking
  let sufficiency := assessSufficiency request admission.gate final.selection
  let stop := stopReason sufficiency final.selection ranking.graphStop hitNodeBudget
  let continuation ← engine.continuation request admission ranking.ranked stop final
  pure
    { status := recallStatus sufficiency final.selection
      snapshot := some admission.snapshot
      gate := admission.gate
      items := final.selection.items
      evidence := final.selection.evidence
      sufficiency
      stopReason := stop
      usage := final.usage
      trace :=
        { planVersion
          filterDigest := admission.filterDigest
          snapshot := some admission.snapshot
          steps := ranking.trace ++ [sufficiencyStep ranking.ranked final.selection] }
      continuation
      freshnessWarnings := freshnessWarnings admission.snapshot }

def execute (clock : Clock) (request : DeterministicRecallRequest) (admission : Admission) :
    Except RecallError DeterministicRecallResult :=
  let scan := engine.scanNodes clock request admission
  if scan.deadline then
    pure (deadlineResult admission { admission.prior with nodesExamined := scan.nodesExamined } [])
  else engine.conclude request admission scan.hitNodeBudget (engine.rank request admission scan)

end RecallEngine

def RecallEngine.recall (engine : RecallEngine) (clock : Clock) (provider : RecallProvider)
    (request : DeterministicRecallRequest) : Except RecallError DeterministicRecallResult := do
  request.validate
  let gate := engine.memoryGate request
  let filterDigest := engine.filterDigest request.filter
  if gate.runRecall then
    let admission ← engine.prepare provider request gate filterDigest
    engine.execute clock request admission
  else pure (skippedResult gate filterDigest)

namespace RecallEngine

variable (engine : RecallEngine)

def admitted (provider : RecallProvider) (request : DeterministicRecallRequest) :
    Except RecallError Admission :=
  engine.prepare provider request (engine.memoryGate request) (engine.filterDigest request.filter)

variable {engine}

theorem recall_ok_iff {clock : Clock} {provider : RecallProvider}
    {request : DeterministicRecallRequest} {result : DeterministicRecallResult} :
    engine.recall clock provider request = .ok result ↔ request.validate = .ok () ∧
        (((engine.memoryGate request).runRecall = true ∧ ∃ admission,
          engine.admitted provider request = .ok admission ∧
              engine.execute clock request admission = .ok result) ∨
          ((engine.memoryGate request).runRecall = false ∧
            result = skippedResult (engine.memoryGate request)
              (engine.filterDigest request.filter))) := by
  rw [RecallEngine.recall, bind_ok_iff, admitted]
  cases running : (engine.memoryGate request).runRecall with
  | true =>
    simp only [running, if_true, bind_ok_iff, Bool.true_eq_false, false_and, or_false, true_and]
    exact ⟨fun ⟨_, valid, ran⟩ => ⟨valid, ran⟩, fun ⟨valid, ran⟩ => ⟨(), valid, ran⟩⟩
  | false =>
    simp only [running, Bool.false_eq_true, if_false, false_and, false_or, true_and]
    constructor
    · rintro ⟨_, valid, skipped⟩
      exact ⟨valid, (Except.ok.inj skipped).symm⟩
    · rintro ⟨valid, rfl⟩
      exact ⟨(), valid, rfl⟩

end RecallEngine

/-! ### A small corpus

An agent asks for "ping" over two documents. The engine's digests are those of BLAKE3 keyed
with thirty-two bytes of value 7. -/

def sampleEngine : RecallEngine where
  lowercase text := text.map Char.toLower
  isAlphanumeric := Char.isAlphanum
  jsonText _ := "null"
  cosineStrength _ _ := none
  filterDigest _ := "15c21fc1a4995e11876b171c35a58601d3a9144ebdd51f9c92e50733bbe9b3e2"
  visitedDigest _ := "f92c8d5b405b3c05779cc2859af725ad630f2642c7f8be86b7af115d467a038f"
  sensitiveDigest _ _ := "e4104d23a04b83096afd5b0a03675b4990ecffaa00b763c3212239c42635f20a"
  bindingDigest _ := "a9f9481ca5021e8c40a00bc066b49cfc6a7c2ec8c27c6622899ffc7c6058f482"

def sampleScope : ScopeRef where
  kind := .project
  id := .numbered 5
  inheritance := .exact

def samplePrincipal : RecallPrincipal where
  subject := "agent"
  audiences := ∅
  workspace := "lab"
  scopes := (∅ : BTreeSet String).insert sampleScope.id.display
  purpose := "conversation"
  clearance := .internal

def sampleRequest (maxNodes maxTokens : UInt32) : DeterministicRecallRequest where
  request :=
    { cues :=
        { currentInput := .text "ping", recentObservations := [], participants := ⟨[.numbered 3], by simp⟩
          activeReferents := [], activeTopics := []
          temporalContext := { now := 0, referencedValidTime := none, knownAt := none }, locationContext := none
          conversationMode := .casual, goal := none, interactionSignals := [] }, intent := .continuity
      scopes := ⟨[sampleScope], by simp⟩, temporal := .current, requiredFacets := [], budgets :=
        { maxTokens := 10, maxLatencyMicros := 1000, maxCandidates := 10, maxGraphVisits := 10
          maxEvidenceItems := 10 }, evidencePolicy :=
        { requirePrimaryEvidence := true, includeQuotes := false, permitDerivedOnly := false }
      memoryUsePolicy := .numbered 6, purpose := .conversation, targetModel := none }
  principal := samplePrincipal
  mode := .required
  limits :=
    { maxNodesExamined := maxNodes, maxSeedCandidates := 8, maxGraphHops := 2, maxFrontierPerHop := 8
      maxEvidenceUnits := 4, maxContextTokens := maxTokens, deadlineMicros := 1000 }
  queryVector := none
  continuation := none

def sampleAccess : AccessRule where
  workspace := "lab"
  scopes := ∅
  owners := (∅ : BTreeSet String).insert "agent"
  audiencePurposeGrants :=
    (∅ : BTreeMap String (BTreeSet String)).insert "*" ((∅ : BTreeSet String).insert "*")
  sensitivity := .internal
  requiredCompartments := ∅
  consent := .granted
  retrievable := true

def sampleDocument (id : DocumentId) (kind : RecallDocumentKind) (start : Nat) :
    RecallDocument where
  id
  kind
  canonicalName := none
  aliases := []
  text := "ping"
  facets := ∅
  subjects := ∅
  participants := ∅
  activeKeys := ∅
  temporal := { validTime := none, transactionTime := { start, finish := none } }
  perspective := { knower := none, narrator := none, role := "narrator" }
  conflict := .none
  evidence := []
  vector := none
  sourceTrust := ⟨0x3f800000⟩
  importance := ⟨0x3f800000⟩
  estimatedTokens := 4
  useProfile :=
    { influence := .allow, mention := .allow, externalModelUse := .allow, sharedWithPrincipal := true
      personalDetail := false, constraintOnly := false, styleOnly := false }

def sampleEntity : RecallDocument :=
  sampleDocument ⟨"a", by decide⟩ .entity 1

def sampleClaim : ProviderDocument where
  access := sampleAccess
  document := sampleDocument ⟨"b", by decide⟩ .claim 1
  evidence :=
    [ { access := sampleAccess, evidence :=
          { id := "note", sourceObservation := none, excerpt := none, primary := true, trust := ⟨0x3f800000⟩
            estimatedTokens := 1 } } ]

def sampleSnapshot : ProviderSnapshot where
  databaseId := "db"
  commitSeq := 3
  watermarks :=
    { journal := 3, semantic := 3, lexical := 3, vector := ∅, graph := 3, hierarchy := ∅ }

def sampleProvider (entity : RecallDocument) : RecallProvider where
  snapshot _ := .ok sampleSnapshot
  authorizedCorpus request := AuthorizedCorpus.authorize request
    [{ access := sampleAccess, document := entity, evidence := [] }, sampleClaim] []

end ContextDb.Recall
