import ContextDb.Recall.Types

/-! What the planner reads off a request before it ranks anything: normalized query text,
active identifiers, the memory gate, and the temporal and perspective filters. -/

set_option autoImplicit false

namespace ContextDb.Recall

open Std Lib ContextDb.Core

/-- The non-content fields and cues that a filter digest covers. Limits, budgets and the
continuation are left out. -/
structure RecallFilter where
  cues : CueBundle
  intent : RecallIntent
  scopes : NonEmptyVec ScopeRef
  temporal : TemporalConstraint
  requiredFacets : List FacetRequirement
  evidencePolicy : EvidencePolicy
  memoryUsePolicy : PolicyId
  purpose : Purpose
  targetModel : Option ModelProfileId
  principal : RecallPrincipal
  mode : RecallMode
  queryVector : Option SuppliedVector
  planVersion : String

structure TokenBinding where
  snapshot : ProviderSnapshot
  (planVersion filterDigest : String)
  nextOffset : UInt32
  visitedDigest : String
  (coveredFacetDigests selectedEvidenceDigests : BTreeSet String)
  consumed : BudgetUsage

/-- An engine, with the library functions it calls: the Unicode tables behind
`to_lowercase` and `is_alphanumeric`, JSON text, double-precision cosine similarity, and
BLAKE3 under the engine's continuation key. -/
structure RecallEngine where
  lowercase : String → String
  isAlphanumeric : Char → Bool
  jsonText : Value → String
  cosineStrength : List F32 → List F32 → Option Nat
  filterDigest : RecallFilter → String
  visitedDigest : List String → String
  sensitiveDigest : String → String → String
  bindingDigest : TokenBinding → String

variable (request : DeterministicRecallRequest)

def DeterministicRecallRequest.filter : RecallFilter where
  cues := request.request.cues
  intent := request.request.intent
  scopes := request.request.scopes
  temporal := request.request.temporal
  requiredFacets := request.request.requiredFacets
  evidencePolicy := request.request.evidencePolicy
  memoryUsePolicy := request.request.memoryUsePolicy
  purpose := request.request.purpose
  targetModel := request.request.targetModel
  principal := request.principal
  mode := request.mode
  queryVector := request.queryVector
  planVersion := planVersion

namespace RecallEngine

variable (engine : RecallEngine)

def normalize (value : String) : String :=
  " ".intercalate (splitWhitespace (String.ofList ((engine.lowercase value).toList.map
    fun character => if engine.isAlphanumeric character then character else ' ')))

def tokens (value : String) : BTreeSet String :=
  (∅ : BTreeSet String).insertMany
    ((splitWhitespace (engine.normalize value)).filter fun token => token.toList.length ≥ 2)

def queryText (request : DeterministicRecallRequest) : String :=
  match request.request.cues.currentInput with
  | .text content => content
  | .artifact id => id.display
  | .structured value => engine.jsonText value

end RecallEngine

def containsAny (value : String) (needles : List String) : Bool :=
  needles.any (containsText value)

def participantKeys : BTreeSet String :=
  ((∅ : BTreeSet String).insertMany (request.request.cues.participants.toList.map
    (·.display))).insert
    request.principal.subject

def activeIds : BTreeSet String :=
  let cues := request.request.cues
  (∅ : BTreeSet String).insertMany ((cues.activeTopics ++ cues.interactionSignals).map
    (·.display) ++
      cues.recentObservations.map (·.display) ++ cues.locationContext.toList.map (·.display) ++
      cues.activeReferents.flatMap fun referent =>
        referent.candidates.toList.map (·.nodeId.display) ++
          referent.resolved.toList.map (·.display))

namespace RecallEngine

variable (engine : RecallEngine)

/-- The gate's observations in source order: what was noticed, the reason it gives and the
routes it prefers. -/
def gateSignals (request : DeterministicRecallRequest) :
    List (Bool × GateReason × List RecallRoute) :=
  let query := engine.normalize (engine.queryText request)
  let core := request.request
  [ (request.mode matches .required | .explicit, .requiredByCaller, []), (containsAny query
        ["remember", "recall", "memory", "помнишь", "вспомни", "раньше", "тогда"],
      .explicitMemoryLanguage, [.exactAlias, .lexical]),
    (containsAny query ["это", "этот", "эта", "там", "он", "она", "they", "it", "that"] ||
        (splitWhitespace query).length ≤ 3, .vagueReference, [.activeContext]),
    (!core.cues.activeReferents.isEmpty, .activeReferent, [.activeContext, .structural]),
    (!core.cues.activeTopics.isEmpty, .activeTopic, [.activeContext,
      .structural]), (core.temporal != .current ||
        containsAny query ["when", "before", "after", "когда", "раньше",
          "прошл"], .temporalLanguage, [.temporal]),
    (core.intent matches .historicalTruth | .forensic ||
      request.mode matches .historical | .forensic,
      .historicalIntent, [.temporal, .episodic]),
    (core.intent matches .relational || request.mode matches .relational ||
        containsAny query ["we", "us", "our", "together", "мы", "нам", "наш", "вместе"],
      .relationshipIntent, [.relationship, .episodic]),
    (core.evidencePolicy.requirePrimaryEvidence, .evidenceRequired, []) ]

def mandatoryFacets (request : DeterministicRecallRequest) : BTreeSet String :=
  (∅ : BTreeSet String).insertMany
    ((request.request.requiredFacets.filter
      (·.required)).map fun facet => engine.normalize facet.name)

def gateDepth (mode : RecallMode) (runRecall : Bool) (reasons : BTreeSet GateReason) :
    RecallDepth :=
  if !runRecall then .none
  else if mode matches .historical | .forensic then .deep
  else if reasons.contains .vagueReference && reasons.contains .activeReferent then .standard
  else .hot

def memoryGate (request : DeterministicRecallRequest) : MemoryGateDecision :=
  let mandatoryFacets := engine.mandatoryFacets request
  if request.mode = .never then
    { runRecall := false, depth := .none, reasons := [.modeNever], mandatoryFacets, preferredRoutes := [] }
  else
    let noticed := (engine.gateSignals request).filter (·.1)
    let reasons := (∅ : BTreeSet GateReason).insertMany (noticed.map (·.2.1))
    let preferred := (∅ : BTreeSet RecallRoute).insertMany (noticed.flatMap (·.2.2))
    let mandatory := request.mode matches .required | .explicit | .implicitContinuity |
      .associative | .relational | .historical | .forensic
    let runRecall := mandatory || (request.mode matches .auto | .optional && !reasons.isEmpty)
    let reasons := if runRecall then reasons else reasons.insert .selfContained
    let preferred := if preferred.isEmpty && runRecall then
        preferred.insertMany [.exactAlias, .lexical, .structural] else preferred
    let preferred := if request.queryVector.isSome then preferred.insert .suppliedVector
      else preferred
    { runRecall, depth := gateDepth request.mode runRecall reasons, reasons := reasons.toList,
      mandatoryFacets, preferredRoutes := preferred.toList }

end RecallEngine

def temporalSnapshot : Option Nat :=
  match request.request.temporal with
  | .knownAt commitSeq | .bitemporal _ commitSeq => some commitSeq
  | .current | .validDuring _ => none

/-- Whether the valid time of a record meets the temporal constraint. An open valid time
always does. -/
def validTimeVisible (validTime : Option TimeRange) (request : DeterministicRecallRequest) : Bool :=
  match request.request.temporal with
  | .current => validTime.all (·.contains request.request.cues.temporalContext.now)
  | .validDuring range | .bitemporal range _ => validTime.all (·.overlaps range)
  | .knownAt _ => true

def temporalVisible (document : RecallDocument) (request : DeterministicRecallRequest)
    (snapshotCommit : Nat) : Bool :=
  document.temporal.transactionTime.contains ((temporalSnapshot request).getD snapshotCommit) &&
    validTimeVisible document.temporal.validTime request && match document.conflict with
    | .resolvedLoser _ _ | .superseded _ =>
      (request.request.intent matches .historicalTruth | .forensic)
    | _ => true

def relationTemporalVisible (relation : RecallRelation) (request : DeterministicRecallRequest) :
    Bool :=
  validTimeVisible relation.validTime request

namespace RecallEngine

variable (engine : RecallEngine)

/-- A document about somebody is visible to its participants, or when the query names it. -/
def perspectiveVisible (document : RecallDocument) (participants : BTreeSet String)
    (query : String) : Bool :=
  let qualifiedSubjects := document.subjects.toList ++ document.participants.toList ++
    document.perspective.knower.toList
  qualifiedSubjects.isEmpty || qualifiedSubjects.any participants.contains ||
    (document.canonicalName.toList ++ document.aliases).any fun name =>
      !isBlank name && containsText (engine.normalize query) (engine.normalize name)

end RecallEngine

/-! Candidate generation: the node scan, the eight seed routes and their reciprocal-rank
fusion, score modifiers and typed spreading activation. Scores are fixed-point with six
decimals and every sum saturates. -/

def rrfK : Nat := 60

def scoreScale : Nat := 1000000

def saturate64 (value : Nat) : Nat :=
  min value 0xffffffffffffffff

def saturatingAdd32 (left right : UInt32) : UInt32 :=
  UInt32.ofNat (min (left.toNat + right.toNat) 0xffffffff)

/-- The execution clock, as the answers its deadline checks will give: that many checks
pass and every later one finds the deadline reached. `none` never reaches it. -/
structure Clock where
  checksLeft : Option Nat
deriving DecidableEq

namespace Clock

def never : Clock := ⟨none⟩

def expired (clock : Clock) : Bool :=
  clock.checksLeft == some 0

def tick (clock : Clock) : Clock :=
  ⟨clock.checksLeft.map (· - 1)⟩

end Clock

/-! ### Node scan -/

structure NodeScan where
  visible : List RecallDocument
  nodesExamined : UInt32
  (hitNodeBudget deadline : Bool)
  clock : Clock

/-- The node budget is compared with the documents kept, while every document read is
counted. -/
def examineNodes (keep : RecallDocument → Bool) (remaining : Nat) : List RecallDocument → NodeScan →
    NodeScan
  | [], scan => scan
  | document :: rest, scan =>
    if scan.clock.expired then { scan with deadline := true }
    else if remaining ≤ scan.visible.length then
      { scan with hitNodeBudget := true, clock := scan.clock.tick }
    else
      examineNodes keep remaining rest { scan with
          visible := if keep document then scan.visible ++ [document] else scan.visible
          nodesExamined := saturatingAdd32 scan.nodesExamined 1, clock := scan.clock.tick }

/-! ### Seed routes -/

structure RouteCues where
  temporal : TemporalConstraint
  now : Int
  queryVector : Option SuppliedVector
  seedLimit : Nat
  (activeIds activeSurfaces mandatoryFacets : BTreeSet String)
  normalizedQuery : String
  (queryTokens participants : BTreeSet String)

def overlapCount (left right : BTreeSet String) : Nat :=
  (left.toList.filter right.contains).length

def RecallRoute.all : List RecallRoute :=
  [.activeContext, .exactAlias, .relationship, .episodic, .temporal, .structural, .lexical,
    .suppliedVector]

def nameStrength (query name : String) : Nat :=
  if query = name then scoreScale
  else if !name.isEmpty && containsText query name then 900000
  else if !query.isEmpty && containsText name query then 700000
  else 0

def temporalStrength (document : RecallDocument) (temporal : TemporalConstraint) (now : Int) :
    Nat :=
  match temporal, document.temporal.validTime with
  | .current, some range => if range.contains now then 700000 else 0
  | .current, none => 0
  | .validDuring range, some documentRange | .bitemporal range _, some documentRange =>
    if documentRange.overlaps range then scoreScale else 0
  | .validDuring _, none | .bitemporal _ _, none => 500000
  | .knownAt _, _ => 600000

namespace RecallEngine

variable (engine : RecallEngine)

def documentTokens (document : RecallDocument) : BTreeSet String :=
  (∅ : BTreeSet String).insertMany ((document.text :: document.canonicalName.toList ++
    document.aliases ++
      document.facets.toList).flatMap fun value => (engine.tokens value).toList)

def routeCues (request : DeterministicRecallRequest) (gate : MemoryGateDecision) : RouteCues where
  temporal := request.request.temporal
  now := request.request.cues.temporalContext.now
  queryVector := request.queryVector
  seedLimit := request.limits.maxSeedCandidates.toNat
  activeIds := activeIds request
  activeSurfaces := (∅ : BTreeSet String).insertMany
    (request.request.cues.activeReferents.map fun referent => engine.normalize referent.surface)
  mandatoryFacets := gate.mandatoryFacets
  normalizedQuery := engine.normalize (engine.queryText request)
  queryTokens := engine.tokens (engine.queryText request)
  participants := participantKeys request

def documentNames (document : RecallDocument) : List String :=
  ((document.canonicalName.toList ++ document.aliases).map engine.normalize).filter (!·.isEmpty)

def activeMatch (cues : RouteCues) (document : RecallDocument) : Bool :=
  document.activeKeys.anyElement cues.activeIds.contains ||
    cues.activeIds.contains document.id.text ||
    (engine.documentNames document).any cues.activeSurfaces.contains

/-- Strength of a document on a route; a document with strength zero is not on it. -/
def routeStrength (cues : RouteCues) (document : RecallDocument) : RecallRoute → Nat
  | .activeContext =>
    if engine.activeMatch cues document then
      if cues.activeIds.contains document.id.text then scoreScale else 800000 else 0
  | .exactAlias =>
    ((engine.documentNames document).map (nameStrength cues.normalizedQuery)).foldl max 0
  | .relationship =>
    let overlap := overlapCount document.participants cues.participants
    if document.kind matches .relationship | .sharedReference then
      if overlap > 0 || engine.activeMatch cues document then
        if overlap ≥ 2 then scoreScale else 750000
      else 0
    else 0
  | .episodic =>
    let participant := document.participants.anyElement cues.participants.contains
    let lexical := overlapCount cues.queryTokens (engine.documentTokens document)
    if document.kind matches .episode | .observation then
      if participant || lexical > 0 || engine.activeMatch cues document then
        if participant && lexical > 0 then scoreScale else 700000
      else 0
    else 0
  | .temporal => temporalStrength document cues.temporal cues.now
  | .structural =>
    let facetOverlap := ((document.facets.toList.map engine.normalize).filter cues.mandatoryFacets.contains).length
    let keyOverlap := overlapCount document.activeKeys cues.activeIds
    if facetOverlap > 0 || keyOverlap > 0 then
      500000 + min (facetOverlap + keyOverlap) 4 * 125000
    else 0
  | .lexical =>
    let overlap := overlapCount cues.queryTokens (engine.documentTokens document)
    if overlap > 0 && !cues.queryTokens.isEmpty then
      saturate64 (overlap * scoreScale) / cues.queryTokens.size
    else 0
  | .suppliedVector =>
    match cues.queryVector, document.vector with
    | some query, some vector =>
      if query.space = vector.space && query.values.length = vector.values.length then
        (engine.cosineStrength query.values vector.values).getD 0
      else 0
    | _, _ => 0

end RecallEngine

structure RouteScan where
  processed : List RecallDocument
  deadline : Bool
  clock : Clock

/-- The deadline is checked before and after each document. -/
def routedDocuments (clock : Clock) : List RecallDocument → RouteScan
  | [] => { processed := [], deadline := false, clock }
  | document :: rest =>
    if clock.expired then { processed := [], deadline := true, clock }
    else if clock.tick.expired then
      { processed := [document], deadline := true, clock := clock.tick }
    else
      let scan := routedDocuments clock.tick.tick rest
      { scan with processed := document :: scan.processed }

variable (engine : RecallEngine) (route : RecallRoute) (cues : RouteCues)
variable (documents : List RecallDocument)

def RecallEngine.routeRanking (route : RecallRoute) : List (DocumentId × Nat) :=
  sortBy descending ((documents.map fun document =>
    (document.id, engine.routeStrength cues document route)).filter (·.2 > 0))

/-! ### Fusion and modifiers -/

structure CandidateScore where
  (rrfMicros activationMicros modifierMicros routeStrength : Nat)
  routes : List RouteContribution
deriving DecidableEq

namespace CandidateScore

def initial : CandidateScore :=
  ⟨0, 0, 0, 0, []⟩

def finalScore (score : CandidateScore) : Nat :=
  saturate64 (saturate64 (score.rrfMicros + score.activationMicros) + score.modifierMicros)

def breakdown (score : CandidateScore) : ScoreBreakdown where
  rrfMicros := score.rrfMicros
  activationMicros := score.activationMicros
  modifierMicros := score.modifierMicros
  finalMicros := score.finalScore
  routes := score.routes

end CandidateScore

abbrev Scores := BTreeMap DocumentId CandidateScore

def routeWeight : RecallRoute → Nat
  | .activeContext => 1300
  | .exactAlias => 1250
  | .relationship => 1150
  | .episodic => 1050
  | .temporal => 950
  | .structural => 900
  | .lexical => 800
  | .suppliedVector => 850

def rrfContribution (rank : Nat) : Nat :=
  routeWeight route * scoreScale / (rrfK + rank)

def routeExplanation : RecallRoute → String
  | .activeContext =>
    "Matched authorized active referents, topics, participants, or observations"
  | .exactAlias => "Matched an authorized canonical name or alias"
  | .relationship => "Matched an authorized relationship/shared-reference perspective"
  | .episodic => "Matched an authorized episode or observation cue"
  | .temporal => "Matched the explicit valid/system-time constraint"
  | .structural => "Matched required facets or active structural keys"
  | .lexical => "Matched normalized query tokens in authorized text"
  | .suppliedVector => "Matched a caller-supplied vector in the same declared space"

def addContribution (scores : Scores) (ranked : (DocumentId × Nat) × Nat) : Scores :=
  let ((id, strength), position) := ranked
  let rank := min (position + 1) 0xffffffff
  let contribution := rrfContribution route rank
  scores.updateEntry id .initial fun score =>
    { score with
      rrfMicros := saturate64 (score.rrfMicros + contribution), routeStrength := max score.routeStrength strength
      routes := score.routes ++ [{ route, rank, rrfMicros := contribution }] }

def seedRoute (selected : List (DocumentId × Nat)) (scores : Scores) : Scores :=
  selected.zipIdx.foldl (addContribution route) scores

def seedStep (visible : Nat) (selected : List (DocumentId × Nat)) : RecallTraceStep where
  stage := "seed_route"
  route := some route
  authorizedInput := .fromAuthorized visible
  output := .fromAuthorized selected.length
  work := .fromUnits visible
  selectedIds := selected.map (·.1)
  explanation := routeExplanation route

/-- Fixed-point value of a unit number: clamped to the unit interval and rounded half
up at six decimals. The exponent field counts from the subnormal scale. -/
def quantizeUnit (value : F32) : Nat :=
  if value.isNan || value.bits.toNat ≥ 0x80000000 then 0
  else if value.bits.toNat ≥ 0x3f800000 then scoreScale
  else
    let exponent := value.bits.toNat / 0x800000
    let fraction := value.bits.toNat % 0x800000
    let significand := if exponent = 0 then fraction else fraction + 0x800000
    let denominator := 2 ^ (150 - max exponent 1)
    (2 * significand * scoreScale + denominator) / (2 * denominator)

def RecallEngine.modifier (document : RecallDocument) (score : CandidateScore) : Nat :=
  let exact := (document.canonicalName.toList ++ document.aliases).any fun name =>
    engine.normalize name == cues.normalizedQuery
  let participantMatch := (document.subjects.toList ++
    document.participants.toList).any cues.participants.contains
  let temporalMatch := document.temporal.validTime.all (·.contains cues.now)
  [quantizeUnit document.sourceTrust / 2, quantizeUnit document.importance / 3,
    score.routeStrength / 5, if exact then 500000 else 0, if participantMatch then 300000 else 0,
    if temporalMatch then 150000 else 0].foldl (fun total part => saturate64 (total + part))
      score.modifierMicros

def RecallEngine.applyModifiers (scores : Scores) : Scores :=
  scores.map fun id score =>
    match documents.find? (·.id = id) with
    | some document => { score with modifierMicros := engine.modifier cues document score }
    | none => score

/-! ### Spreading activation -/

def relationBase : RecallRelationKind → Nat
  | .contains | .partOf | .hierarchyParent => 650000
  | .about | .relatedTo | .similarTo => 600000
  | .supports | .refines | .verifiedBy | .learnedFrom => 800000
  | .occurredIn | .participantIn | .precededBy | .followedBy => 750000
  | .triggered | .resultedIn | .motivatedBy | .causedBy => 700000
  | .supersedes | .correctedBy => 850000
  | .contradicts => 300000
  | .sharedWith | .sharedHistory | .runningJoke => 900000
  | .hasBoundary | .committedTo | .requires => 850000
  | .domain _ => 550000

def relationBoost (kind : RecallRelationKind) : RecallIntent → Nat
  | .relational =>
    if kind matches .sharedWith | .sharedHistory | .runningJoke | .relatedTo then 200000 else 0
  | .historicalTruth | .forensic =>
    if kind matches .occurredIn | .precededBy | .followedBy | .supersedes | .correctedBy |
      .contradicts then 150000 else 0
  | .procedural => if kind matches .requires | .verifiedBy | .learnedFrom then 150000 else 0
  | _ => 0

def relationWeight (kind : RecallRelationKind) (intent : RecallIntent) : Nat :=
  min (relationBase kind + relationBoost kind intent) scoreScale

/-- Product of fixed-point factors; the running product saturates at 128 bits. -/
def fixedProduct (first : Nat) (factors : List Nat) : Nat :=
  saturate64 (factors.foldl (fun product factor => min (product * factor)
    (2 ^ 128 - 1) / scoreScale) first)

def fixedDecay (factor : Nat) : Nat → Nat
  | 0 => scoreScale
  | exponent + 1 => saturate64 (fixedDecay factor exponent * factor) / scoreScale

def adjacency (relations : List RecallRelation) (id : DocumentId) : List RecallRelation :=
  let allowed := (∅ : BTreeSet DocumentId).insertMany (documents.map (·.id))
  sortBy (compareOn RecallRelation.id) ((relations.filter fun relation =>
        allowed.contains relation.source &&
          allowed.contains relation.target).flatMap fun relation =>
        (if relation.source = id then [relation] else []) ++
        (if relation.target = id then [relation] else []))

def activation (hop : Nat) (visited : BTreeSet DocumentId)
    (source : DocumentId) (strength : Nat) (relation : RecallRelation) :
    Option (DocumentId × Nat) :=
  let neighbour := if relation.source = source then relation.target else relation.source
  let typeWeight := relationWeight relation.kind request.request.intent
  let contribution := fixedProduct (min strength 100000000)
    [typeWeight, quantizeUnit relation.weight, quantizeUnit relation.trust, fixedDecay 700000 hop]
  if !relationTemporalVisible relation request || visited.contains neighbour || typeWeight = 0 ||
    contribution < 10000 then none
  else some (neighbour, contribution)

structure EdgeScan where
  next : BTreeMap DocumentId Nat
  edgesExamined : UInt32
  clock : Clock
  stop : Option StopReason

def EdgeScan.receive (next : BTreeMap DocumentId Nat) : Option (DocumentId × Nat) →
    BTreeMap DocumentId Nat
  | some (neighbour, contribution) =>
    next.updateEntry neighbour 0 fun value => saturate64 (value + contribution)
  | none => next

def spreadEdges (request : DeterministicRecallRequest) (hop : Nat) (visited : BTreeSet DocumentId)
    (source : DocumentId) (strength : Nat) : List RecallRelation → EdgeScan → EdgeScan
  | [], scan => scan
  | relation :: rest, scan =>
    if request.request.budgets.maxGraphVisits ≤ scan.edgesExamined then
      { scan with stop := some .graphBudget }
    else if scan.clock.expired then { scan with stop := some .deadline }
    else
      spreadEdges request hop visited source strength rest { scan with
          next := EdgeScan.receive scan.next
            (activation request hop visited source strength relation)
          edgesExamined := saturatingAdd32 scan.edgesExamined 1, clock := scan.clock.tick }

def spreadFrontier (request : DeterministicRecallRequest) (edges : DocumentId → List RecallRelation)
    (hop : Nat) (visited : BTreeSet DocumentId) : List (DocumentId × Nat) → EdgeScan → EdgeScan
  | [], scan => scan
  | (source, strength) :: rest, scan =>
    let scan := spreadEdges request hop visited source strength (edges source) scan
    if scan.stop.isSome then scan else spreadFrontier request edges hop visited rest scan

structure Spread where
  scores : Scores
  frontier : List (DocumentId × Nat)
  visited : BTreeSet DocumentId
  usage : BudgetUsage
  trace : List RecallTraceStep
  clock : Clock
  stop : Option StopReason

def hopStep (hop : Nat) (frontier next : List (DocumentId × Nat)) (edges : UInt32) :
    RecallTraceStep where
  stage := "typed_activation_hop_" ++ toString hop
  route := none
  authorizedInput := .fromAuthorized frontier.length
  output := .fromAuthorized next.length
  work := .fromUnits edges.toNat
  selectedIds := next.map (·.1)
  explanation := "Spread activation only over typed, authorized endpoints with trust and temporal constraints"

def limitFrontier (candidates : List (DocumentId × Nat)) : List (DocumentId × Nat) :=
  (sortBy descending candidates).take request.limits.maxFrontierPerHop.toNat

def activate (scores : Scores) (frontier : List (DocumentId × Nat)) : Scores :=
  frontier.foldl (fun scores (id, strength) => scores.updateEntry id .initial fun score =>
    { score with activationMicros := saturate64 (score.activationMicros + strength) }) scores

def spreadHop (edges : DocumentId → List RecallRelation) (hop : Nat) (spread : Spread) : Spread :=
  let scan := spreadFrontier request edges hop spread.visited spread.frontier
    { next := ∅
      edgesExamined := spread.usage.graphEdgesExamined
      clock := spread.clock.tick
      stop := none }
  let next := limitFrontier request scan.next.toList
  { scores := activate spread.scores next
    frontier := next
    visited := spread.visited.insertMany (next.map (·.1))
    usage := { spread.usage with
      maxHopReached := max spread.usage.maxHopReached (UInt8.ofNat hop)
      graphEdgesExamined := scan.edgesExamined }
    trace := spread.trace ++ [hopStep hop spread.frontier next scan.edgesExamined]
    clock := scan.clock
    stop := scan.stop }

/-- The hops still allowed, counting `hop` upwards. -/
def spreadHops (request : DeterministicRecallRequest) (edges : DocumentId → List RecallRelation) :
    Nat → Nat → Spread → Spread
  | 0, _, spread => spread
  | remaining + 1, hop, spread =>
    if spread.frontier.isEmpty then spread
    else if spread.clock.expired then { spread with stop := some .deadline }
    else
      let reached := spreadHop request edges hop spread
      if reached.stop.isSome then reached
      else if hop = request.limits.maxGraphHops.toNat && !reached.frontier.isEmpty then
        { reached with stop := some .hopBudget }
      else spreadHops request edges remaining (hop + 1) reached

def spreadActivation (relations : List RecallRelation) (spread : Spread) : Spread :=
  if spread.scores.isEmpty || relations.isEmpty then spread
  else
    let frontier := limitFrontier request (spread.scores.toList.map fun (id, score) =>
      (id, score.finalScore))
    spreadHops request (adjacency documents relations) request.limits.maxGraphHops.toNat 1
      { spread with
        frontier, visited := (∅ : BTreeSet DocumentId).insertMany (frontier.map (·.1)) }

end ContextDb.Recall
