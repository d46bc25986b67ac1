import ContextDb.Context.Rendering

/-! The two-phase provider boundary. Labels carry no content; payloads are loaded only for
labels the compiler has authorized. The in-memory provider keeps records under their own
identity, and a provider bound to a recall result exposes exactly what recall selected. -/

set_option autoImplicit false

namespace ContextDb.Context

open Std Lib ContextDb.Core Recall

structure CandidatePolicyLabel where
  id : BlockId
  access : AccessRule
  usePolicy : CandidateUsePolicy

def CandidatePolicyLabel.validate (label : CandidatePolicyLabel) : Result Unit :=
  liftRecall label.access.validate .provider

def decisionAllows (decision : PolicyDecision) (explicit : Bool) : Bool :=
  decision == .allow || (explicit && decision == .conditional)

def CandidateUsePolicy.action (policy : CandidateUsePolicy) (explicit : Bool) : Option UseAction :=
  match policy.disclosure with
  | .mayMention =>
    some (if decisionAllows policy.mention explicit then .mentionNaturally else .useSilently)
  | .mentionOnlyWhenExplicit =>
    some (if explicit && decisionAllows policy.mention explicit then .mentionNaturally else .useSilently)
  | .useSilently => some .useSilently
  | .doNotDisclose => none

def CandidatePolicyLabel.authorize (label : CandidatePolicyLabel) (principal : RecallPrincipal)
    (externalProcessing explicitMemoryRequest : Bool) : Option UseAction :=
  if !principal.allows label.access ||
    !decisionAllows label.usePolicy.influence explicitMemoryRequest ||
      label.usePolicy.disclosure == .doNotDisclose ||
      (externalProcessing && label.usePolicy.externalModelUse != .allow) then none
  else label.usePolicy.action explicitMemoryRequest

structure EvidencePolicyLabel where
  id : EvidenceHandle
  access : AccessRule
  externalModelUse : PolicyDecision

def EvidencePolicyLabel.validate (label : EvidencePolicyLabel) : Result Unit :=
  liftRecall label.access.validate .provider

def EvidencePolicyLabel.authorize (label : EvidencePolicyLabel) (principal : RecallPrincipal)
    (externalProcessing : Bool) : Bool :=
  principal.allows label.access && (!externalProcessing || label.externalModelUse == .allow)

/-- Policy-first data provider: labels first, payloads for authorized labels only. -/
structure ContextProvider where
  snapshot : Result ProviderSnapshot
  candidateLabels : Result (List CandidatePolicyLabel)
  materializeCandidate : BlockId → Result PackCandidate
  evidenceLabels : List EvidenceHandle → Result (List EvidencePolicyLabel)
  materializeEvidence : EvidenceHandle → Result PackEvidence

structure ProviderCandidate where
  access : AccessRule
  usePolicy : CandidateUsePolicy
  candidate : PackCandidate

structure ProviderEvidence where
  access : AccessRule
  externalModelUse : PolicyDecision
  evidence : PackEvidence

def ProviderCandidate.label (entry : ProviderCandidate) (id : BlockId) : CandidatePolicyLabel :=
  ⟨id, entry.access, entry.usePolicy⟩

def ProviderEvidence.label (entry : ProviderEvidence) (id : EvidenceHandle) : EvidencePolicyLabel :=
  ⟨id, entry.access, entry.externalModelUse⟩

/-- Deterministic in-memory provider; every record stands under its own identity. -/
structure InMemoryContextProvider where
  snapshot : ProviderSnapshot
  candidates : BTreeMap BlockId ProviderCandidate
  evidence : BTreeMap EvidenceHandle ProviderEvidence
  candidatesKeyed : ∀ (id : BlockId) (entry : ProviderCandidate), candidates[id]? = some entry →
    entry.candidate.id = id
  evidenceKeyed : ∀ (id : EvidenceHandle) (entry : ProviderEvidence), evidence[id]? = some entry →
    entry.evidence.id = id

namespace InMemoryContextProvider

def insertVacant {Key Entry : Type} [Ord Key] [TransOrd Key] (identity : Entry → Key)
    (duplicate : Key → ContextError) (map : BTreeMap Key Entry) (entry : Entry) :
    Result (BTreeMap Key Entry) := do
  ensure (!map.contains (identity entry)) (duplicate (identity entry))
  .ok (map.insert (identity entry) entry)

theorem insertVacant_keyed {Key Entry : Type} [Ord Key] [TransOrd Key] [LawfulEqOrd Key]
    {identity : Entry → Key} {duplicate : Key → ContextError} {entries : List Entry}
    {map : BTreeMap Key Entry}
    (built : entries.foldlM (insertVacant identity duplicate) ∅ = .ok map) :
    ∀ key entry, map[key]? = some entry → identity entry = key := by
  refine foldlM_preserves built (fun map => ∀ key entry, map[key]? = some entry →
    identity entry = key) (by simp) ?_
  intro map entry next _ keyed inserted key found present
  have inserted := rest_ok inserted
  cases inserted
  rw [ExtTreeMap.getElem?_insert] at present
  split at present
  · next same =>
    cases present
    exact Std.compare_eq_iff_eq.mp same
  · exact keyed key found present

/-- Creates a provider without validating payloads: they are validated after
authorization only, so malformed forbidden content remains inert. -/
def new (snapshot : ProviderSnapshot) (candidates : List ProviderCandidate)
    (evidence : List ProviderEvidence) : Result InMemoryContextProvider := do
  liftRecall snapshot.validate .provider
  match candidateMap : candidates.foldlM (insertVacant (·.candidate.id)
      fun id => .provider ("duplicate provider candidate " ++ id.text)) ∅ with
  | .error error => .error error
  | .ok candidateMap' =>
    match evidenceMap : evidence.foldlM (insertVacant (·.evidence.id)
        fun id => .provider ("duplicate provider evidence " ++ id.text)) ∅ with
    | .error error => .error error
    | .ok evidenceMap' =>
      .ok ⟨snapshot, candidateMap', evidenceMap', insertVacant_keyed candidateMap,
        insertVacant_keyed evidenceMap⟩

def toProvider (provider : InMemoryContextProvider) : ContextProvider where
  snapshot := .ok provider.snapshot
  candidateLabels := .ok (provider.candidates.toList.map fun entry => entry.2.label entry.1)
  materializeCandidate id :=
    match provider.candidates[id]? with
    | some entry => .ok entry.candidate
    | none => .error (.provider ("candidate " ++ id.text ++ " is unavailable"))
  evidenceLabels requested := .ok (requested.filterMap fun id =>
    provider.evidence[id]?.map fun entry => entry.label id)
  materializeEvidence id :=
    match provider.evidence[id]? with
    | some entry => .ok entry.evidence
    | none => .error (.provider ("evidence " ++ id.text ++ " is unavailable"))

end InMemoryContextProvider

structure RecallContextBinding where
  documents : BTreeMap DocumentId BlockId
  evidence : BTreeMap String EvidenceHandle

structure ResolvedBinding where
  blocks : BTreeMap BlockId MemoryUseDecision
  evidence : BTreeSet EvidenceHandle

namespace RecallContextBinding

variable (recalled : DeterministicRecallResult)

/-- Identity-style binding for providers whose document IDs are also block IDs. -/
def identity : Result RecallContextBinding := do
  let documents ← (recalled.items.filter (·.useDecision.isIncluded)).mapM fun item => do
    pure (item.documentId, ← Handle.new .block item.documentId.text)
  let evidence ← recalled.evidence.mapM fun item => do
    pure (item.evidence.id, ← Handle.new .evidence item.evidence.id)
  pure ⟨(∅ : BTreeMap DocumentId BlockId).insertMany documents,
    (∅ : BTreeMap String EvidenceHandle).insertMany evidence⟩

/-- The included documents with their decisions; a repeated document keeps the last. -/
def includedDocuments : BTreeMap DocumentId MemoryUseDecision :=
  (∅ : BTreeMap DocumentId MemoryUseDecision).insertMany
    ((recalled.items.filter (·.useDecision.isIncluded)).map fun item =>
      (item.documentId, item.useDecision))

variable (binding : RecallContextBinding)

def bindDocument (blocks : BTreeMap BlockId MemoryUseDecision)
    (document : DocumentId × MemoryUseDecision) : Result (BTreeMap BlockId MemoryUseDecision) :=
  match binding.documents[document.1]? with
  | none => .error (.invalidRequest ("recall document " ++ document.1.text ++ " has no ContextPack binding"))
  | some block => do
      ensure (!blocks.contains block)
        (.invalidRequest "multiple recalled documents map to one ContextPack block")
      .ok (blocks.insert block document.2)

def bindEvidence (evidence : BTreeSet EvidenceHandle) (id : String) :
    Result (BTreeSet EvidenceHandle) :=
  match binding.evidence[id]? with
  | none => .error (.invalidRequest ("recalled evidence " ++ id ++ " has no ContextPack binding"))
  | some handle => do
      ensure (!evidence.contains handle)
        (.invalidRequest "multiple recalled evidence units map to one ContextPack handle")
      .ok (evidence.insert handle)

def selectedEvidenceIds : BTreeSet String :=
  (∅ : BTreeSet String).insertMany
    ((recalled.evidence.filter fun item =>
      (includedDocuments recalled).contains item.documentId).map (·.evidence.id))

def resolve (recalled : DeterministicRecallResult) : Result ResolvedBinding := do
  let blocks ← (includedDocuments recalled).toList.foldlM binding.bindDocument ∅
  let evidence ← (selectedEvidenceIds recalled).toList.foldlM binding.bindEvidence ∅
  .ok ⟨blocks, evidence⟩

end RecallContextBinding

structure RecallBoundProvider where
  inner : ContextProvider
  snapshot : ProviderSnapshot
  binding : ResolvedBinding

namespace RecallBoundProvider

def new (inner : ContextProvider) (recalled : DeterministicRecallResult)
    (binding : RecallContextBinding) : Result RecallBoundProvider := do
  match recalled.snapshot with
  | none => .error (.invalidRequest "recall result has no fixed snapshot")
  | some recallSnapshot => do
      let providerSnapshot ← inner.snapshot
      ensure (recallSnapshot == providerSnapshot)
        (.invalidRequest "recall and ContextPack provider snapshots differ")
      ensure (!recalled.items.any fun item => item.useDecision.isIncluded && item.content.isNone)
        (.invalidRequest "included recall item is missing its authorized content marker")
      let resolved ← binding.resolve recalled
      .ok ⟨inner, recallSnapshot, resolved⟩

def relabel (provider : RecallBoundProvider) (label : CandidatePolicyLabel) :
    Option CandidatePolicyLabel :=
  match provider.binding.blocks[label.id]? with
  | none => none
  | some .includeAndMention => some label
  | some .includeSilently | some .includeOnlyAsConstraint | some .includeOnlyAsStyleSignal =>
    some { label with usePolicy :=
      { label.usePolicy with mention := .deny, disclosure := .useSilently } }
  | some .withholdDueToUncertainty | some .withholdDueToPrivacy | some .withholdAsIrrelevant =>
    none

def materializeCandidate (provider : RecallBoundProvider) (id : BlockId) : Result PackCandidate :=
  match provider.binding.blocks[id]? with
  | none => .error (.authorization "candidate was not selected by the bound recall result")
  | some decision => do
      let candidate ← provider.inner.materializeCandidate id
      match decision with
      | .includeOnlyAsConstraint =>
        if candidate.interpretation = .constraintData then .ok candidate
        else .error (.invalidRequest "recall constraint-only decision is incompatible with candidate semantics")
      | .includeOnlyAsStyleSignal =>
        if candidate.interpretation = .styleSignal then .ok candidate
        else .error (.invalidRequest "recall style-only decision is incompatible with candidate semantics")
      | .withholdDueToUncertainty | .withholdDueToPrivacy | .withholdAsIrrelevant =>
        .error (.authorization "withheld recall item cannot be materialized")
      | .includeAndMention | .includeSilently => .ok candidate

def toProvider (provider : RecallBoundProvider) : ContextProvider where
  snapshot := .ok provider.snapshot
  candidateLabels := do
    let labels ← provider.inner.candidateLabels
    .ok (labels.filterMap provider.relabel)
  materializeCandidate := provider.materializeCandidate
  evidenceLabels requested :=
    provider.inner.evidenceLabels (requested.filter provider.binding.evidence.contains)
  materializeEvidence id :=
    if provider.binding.evidence.contains id then provider.inner.materializeEvidence id
    else .error (.authorization "evidence was not selected by the bound recall result")

end RecallBoundProvider

/-! Policy-first materialization and the preparation of one candidate: labels are authorized
before any payload is read, evidence is reduced to a minimal covering set, and the cheapest
representation that keeps every required facet becomes the block. -/

def maxBy {Item : Type} (order : Item → Item → Ordering) : List Item → Option Item
  | [] => none
  | first :: rest => some (rest.foldl (fun best item => if order best item = .gt then best else item) first)

structure Prospect where
  candidate : PackCandidate
  useAction : UseAction
  directiveReason : DirectiveReason
deriving DecidableEq

structure Materialized where
  candidates : List Prospect
  evidence : BTreeMap EvidenceHandle PackEvidence
  omissions : List Omission
  authorizedCandidates : Nat

structure Intake where
  seen : BTreeSet BlockId
  candidates : List Prospect
  omissions : List Omission
  authorizedCandidates : Nat

variable (request : CompileRequest) (candidate : PackCandidate)

def exclusion : Option OmissionReason :=
  if !candidate.scopes.isSubset request.scopes then some .outsideRequestedScope
  else if request.snapshot.commitSeq < candidate.knownAtCommit then some .futureTransaction
  else if candidate.epistemic.acceptance == .rejected ||
      !(candidate.epistemic.lifecycle matches .active | .historical) then
    some .epistemicallyInactive
  else none

def directiveReasonOf (label : CandidatePolicyLabel) (action : UseAction) : DirectiveReason :=
  if action = .mentionNaturally then .policyAllowsMention
  else if label.usePolicy.disclosure = .mentionOnlyWhenExplicit then .explicitRequestRequired
  else .mentionDenied

/-- One authorized label: load its payload, check identity and content, and keep or omit it. -/
def takeCandidate (provider : ContextProvider) (intake : Intake)
    (entry : CandidatePolicyLabel × UseAction) : Result Intake := do
  let label := entry.1
  label.validate
  ensure (!intake.seen.contains label.id)
    (.provider ("duplicate authorized candidate policy label " ++ label.id.text))
  let candidate ← provider.materializeCandidate label.id
  ensure (candidate.id == label.id)
    (.provider "materialized candidate identity differs from authorized label")
  candidate.validate
  let intake := { intake with
    seen := intake.seen.insert label.id, authorizedCandidates := intake.authorizedCandidates + 1 }
  match exclusion request candidate with
  | some reason => .ok { intake with omissions := intake.omissions ++ [⟨candidate.id, reason⟩] }
  | none => .ok { intake with
      candidates := intake.candidates ++ [⟨candidate, entry.2, directiveReasonOf label entry.2⟩] }

def authorizedLabels (labels : List CandidatePolicyLabel) :
    List (CandidatePolicyLabel × UseAction) :=
  labels.filterMap fun label =>
    (label.authorize request.principal request.modelProfile.externalProcessing
      request.explicitMemoryRequest).map fun action => (label, action)

def requestedEvidence (candidates : List Prospect) : BTreeSet EvidenceHandle :=
  (∅ : BTreeSet EvidenceHandle).insertMany
    (candidates.flatMap fun entry => entry.candidate.evidenceHandles.toList)

variable (blake3 : List UInt8 → Digest)

/-- One evidence label: only requested handles may appear, and only authorized ones load. -/
def takeEvidence (request : CompileRequest) (provider : ContextProvider)
    (requested : BTreeSet EvidenceHandle)
    (evidence : BTreeMap EvidenceHandle PackEvidence) (label : EvidencePolicyLabel) :
    Result (BTreeMap EvidenceHandle PackEvidence) := do
  ensure (requested.contains label.id) (.provider "provider returned an unrequested evidence label")
  if label.authorize request.principal request.modelProfile.externalProcessing then do
    label.validate
    ensure (!evidence.contains label.id)
      (.provider ("duplicate authorized evidence policy label " ++ label.id.text))
    let item ← provider.materializeEvidence label.id
    ensure (item.id == label.id) (.provider "materialized evidence identity differs from authorized label")
    item.validate blake3
    .ok (evidence.insert item.id item)
  else .ok evidence

def takeCandidates (provider : ContextProvider) : Result Intake := do
  let labels ← provider.candidateLabels
  (authorizedLabels request (sortBy (compareOn (·.id)) labels)).foldlM
    (takeCandidate request provider) ⟨∅, [], [], 0⟩

def takeAllEvidence (request : CompileRequest) (provider : ContextProvider)
    (requested : BTreeSet EvidenceHandle) :
    Result (BTreeMap EvidenceHandle PackEvidence) := do
  let labels ← provider.evidenceLabels requested.toList
  (sortBy (compareOn (·.id)) labels).foldlM (takeEvidence blake3 request provider requested) ∅

def materializePolicyFirst (request : CompileRequest)
    (provider : ContextProvider) : Result Materialized := do
  let intake ← takeCandidates request provider
  let evidence ← takeAllEvidence blake3 request provider (requestedEvidence intake.candidates)
  .ok
    { candidates := intake.candidates
      evidence
      omissions := intake.omissions
      authorizedCandidates := intake.authorizedCandidates }

structure PreparedCandidate where
  candidate : PackCandidate
  block : ContextBlock
  evidence : List PackEvidence
  useAction : UseAction
  directiveReason : DirectiveReason
  (blockTokens evidenceTokens : UInt32)
  generated : Bool

def ContextBlock.effectiveFacets (block : ContextBlock) : BTreeSet String :=
  block.facets.difference block.representation.omittedFacets

def PreparedCandidate.effectiveFacets (prepared : PreparedCandidate) : BTreeSet String :=
  prepared.block.effectiveFacets

def PreparedCandidate.costTokens (prepared : PreparedCandidate) : UInt32 :=
  clampU32 (prepared.blockTokens.toNat + prepared.evidenceTokens.toNat)

structure EvidenceOffer where
  item : PackEvidence
  coverage : Nat
  cost : UInt32

def evidenceBetter (offer current : EvidenceOffer) : Bool :=
  (((((compare offer.item.primary current.item.primary).then
    (compare offer.coverage current.coverage)).then
    (compare offer.item.trustMicros current.item.trustMicros)).then
    (compare current.cost offer.cost)).then
    (compare current.item.id offer.item.id)) == .gt

def coverageOf (item : PackEvidence) (uncovered : BTreeSet ClaimId) : Nat :=
  (item.claimIds.toList.filter uncovered.contains).length

variable (library : Libraries) (tokenizer : TokenCounter)

def excerptCost (item : PackEvidence) : Result UInt32 :=
  match item.excerpt with
  | none => .ok 1
  | some excerpt => do
      let cost ← tokenizer.countTokens excerpt
      .ok (if cost = 0 then 1 else cost)

def considerEvidence (uncovered : BTreeSet ClaimId)
    (best : Option EvidenceOffer) (item : PackEvidence) : Result (Option EvidenceOffer) :=
  if coverageOf item uncovered = 0 then .ok best
  else do
    let cost ← excerptCost tokenizer item
    let offer : EvidenceOffer := ⟨item, coverageOf item uncovered, cost⟩
    match best with
    | none => .ok (some offer)
    | some current => .ok (some (if evidenceBetter offer current then offer else current))

/-- Greedy cover of the claims still uncovered. `available` holds the evidence not used yet
and shrinks every round, so `rounds` starting at its length never cuts the search short. -/
def coverClaims (tokenizer : TokenCounter) : Nat → List PackEvidence → BTreeSet ClaimId →
    List PackEvidence → Result (Option (List PackEvidence × List PackEvidence))
  | 0, available, uncovered, selected =>
    .ok (if uncovered.isEmpty then some (selected, available) else none)
  | rounds + 1, available, uncovered, selected =>
    if uncovered.isEmpty then .ok (some (selected, available)) else do
      match ← available.foldlM (considerEvidence tokenizer uncovered) none with
      | none => .ok none
      | some offer =>
        coverClaims tokenizer rounds (available.filter (·.id ≠ offer.item.id))
          (uncovered.difference offer.item.claimIds) (selected ++ [offer.item])

def trustOrder (left right : PackEvidence) : Ordering :=
  (compare left.trustMicros right.trustMicros).then (compare right.id left.id)

/-- The smallest evidence found that covers every claim; empty when there is none. -/
def minimalEvidence (candidate : PackCandidate)
    (evidence : BTreeMap EvidenceHandle PackEvidence) (requirePrimary : Bool) :
    Result (List PackEvidence) := do
  let available := candidate.evidenceHandles.toList.filterMap fun handle => evidence[handle]?
  match ← coverClaims tokenizer available.length available candidate.claimIds [] with
  | none => .ok []
  | some (selected, unused) =>
    if requirePrimary && !selected.any (·.primary) then
      match maxBy trustOrder (unused.filter (·.primary)) with
      | none => .ok []
      | some primary => .ok (sortBy (compareOn (·.id)) (selected ++ [primary]))
    else .ok (sortBy (compareOn (·.id)) selected)

def toBlock (representation : BlockRepresentation) : ContextBlock where
  toMemoryContent := { candidate.toMemoryContent with instructionCapability := .none }
  representation

def usableHandles (evidence : BTreeMap EvidenceHandle PackEvidence) : List EvidenceHandle :=
  candidate.evidenceHandles.toList.filter fun handle =>
    match evidence[handle]? with
    | some item =>
      candidate.kind == .rawObservation || !item.claimIds.isDisjoint candidate.claimIds
    | none => false

def PackCandidate.withHandles (handles : List EvidenceHandle) : PackCandidate :=
  { candidate with evidenceHandles := (∅ : BTreeSet EvidenceHandle).insertMany handles }

/-- The evidence a supported candidate is shown with; `none` when it has too little. -/
def supportingEvidence (request : CompileRequest)
    (candidate : PackCandidate) (evidence : BTreeMap EvidenceHandle PackEvidence) :
    Result (Option (List PackEvidence)) :=
  match candidate.support with
  | .unsupported _ => .ok (some [])
  | .supported =>
    if candidate.kind = .rawObservation then
      let selected := (candidate.evidenceHandles.toList.filterMap fun handle =>
        evidence[handle]?).filter (·.originalSpan.isSome)
      .ok (if selected.isEmpty then none else some selected)
    else if candidate.kind.isFactual then do
      let selected ← minimalEvidence tokenizer candidate evidence request.requirePrimaryEvidence
      .ok (if selected.isEmpty then none else some selected)
    else .ok (some [])

/-- Replace the cheapest block so far when this representation is cheaper and keeps every
protected facet. -/
def considerRepresentation (candidate : PackCandidate)
    (keepFacets : BTreeSet String) (best : Option (UInt32 × ContextBlock))
    (representation : BlockRepresentation) : Result (Option (UInt32 × ContextBlock)) :=
  if !representation.omittedFacets.isDisjoint keepFacets then .ok best
  else do
    let block := toBlock candidate representation
    let json ← library.canonicalString (.block block)
    let tokens ← tokenizer.countTokens json
    match best with
    | none => .ok (some (tokens, block))
    | some (bestTokens, bestBlock) =>
      .ok (some (if tokens < bestTokens || (tokens == bestTokens &&
          representation.level.ctorIdx < bestBlock.representation.level.ctorIdx)
        then (tokens, block) else (bestTokens, bestBlock)))

/-- Token cost of the evidence records, failing with `overflow` past 32 bits. -/
def evidenceCost (evidence : List PackEvidence) (overflow : String) : Result UInt32 :=
  evidence.foldlM (fun total item => do
    let json ← library.canonicalString (.evidence item)
    let tokens ← tokenizer.countTokens json
    match checkedAdd total tokens with
    | some total => .ok total
    | none => .error (.tokenizer overflow)) 0

def interpretedUse (interpretation : InterpretationRule) (action : UseAction)
    (reason : DirectiveReason) : UseAction × DirectiveReason :=
  match interpretation with
  | .constraintData => (.constraintOnly, .constraintSemantics)
  | .styleSignal => (.styleOnly, .styleSemantics)
  | _ => (action, reason)

def prepareCandidate (request : CompileRequest) (prospect : Prospect)
    (authorizedEvidence : BTreeMap EvidenceHandle PackEvidence) (requiredNames : BTreeSet String) :
    Result (Option PreparedCandidate) := do
  let usable := prospect.candidate.withHandles (usableHandles prospect.candidate authorizedEvidence)
  match ← supportingEvidence tokenizer request usable authorizedEvidence with
  | none => .ok none
  | some evidence => do
      let candidate := usable.withHandles (evidence.map (·.id))
      let keepFacets := candidate.facets.intersection requiredNames
      match ← candidate.representations.foldlM
          (considerRepresentation library tokenizer candidate keepFacets) none with
      | none => .ok none
      | some (blockTokens, block) => do
          let evidenceTokens ← evidenceCost library tokenizer evidence "evidence token count overflow"
          let use := interpretedUse candidate.interpretation prospect.useAction
            prospect.directiveReason
          .ok (some
            { candidate, block, evidence
              useAction := use.1
              directiveReason := use.2
              blockTokens, evidenceTokens
              generated := false })

def missingUnknown (facet : String) (id : BlockId) : PackCandidate where
  id
  kind := .unknown
  exactFragments := []
  memoryRefs := []
  claimIds := ∅
  evidenceHandles := ∅
  facets := ∅
  scopes := request.scopes
  validTime := none
  knownAtCommit := request.snapshot.commitSeq
  perspective := none
  epistemic := ⟨.deterministicDerivation, .validated, .none, .active⟩
  confidenceMicros := 1000000
  trust := .trustedSource
  instructionCapability := .none
  sourceClass := .deterministicDerivation
  taints := []
  interpretation := .unknownMarker
  support := .supported
  conflict := none
  unknown := some ⟨"What is the value of required facet " ++ "\x60" ++ facet ++ "\x60?",
      "no authorized supported candidate met the facet threshold", true⟩
  representations :=
    [⟨.orientation, "Required knowledge is not established under the effective policy.",
      (∅ : BTreeMap String String).insert "missing_facet" facet, ∅⟩]
  utilityMicros := 1000000
  mandatory := true

def unknownIdText (facet : String) : String :=
  "unknown:" ++ String.ofList ((Continuation.encodeHex (blake3
    (bytesOf facet)).toList).toList.take 16)

def prepareMissingUnknown (request : CompileRequest) (facet : String) :
    Result PreparedCandidate := do
  let id ← Handle.new .block (unknownIdText library.blake3 facet)
  let candidate := missingUnknown request facet id
  candidate.validate
  let block := toBlock candidate
    ⟨.orientation, "Required knowledge is not established under the effective policy.",
      (∅ : BTreeMap String String).insert "missing_facet" facet, ∅⟩
  let json ← library.canonicalString (.block block)
  let blockTokens ← tokenizer.countTokens json
  .ok
    { candidate, block
      evidence := []
      useAction := .mentionNaturally
      directiveReason := .policyAllowsMention
      blockTokens
      evidenceTokens := 0
      generated := true }

/-! Mandatory and greedy selection over prepared candidates: the intrinsic blocks, one block
per required facet, the conflict blocks they need, and the order in which optional blocks
are offered. -/

variable (item : PreparedCandidate)

def PreparedCandidate.isIntrinsic : Bool :=
  item.candidate.mandatory || item.block.kind matches .situation | .boundary ||
    item.block.conflict.any (·.blocking) || item.block.unknown.any (·.blocking)

variable (prepared : List PreparedCandidate)

def intrinsicMandatoryIds : BTreeSet BlockId :=
  (∅ : BTreeSet BlockId).insertMany ((prepared.filter (·.isIntrinsic)).map (·.block.id))

variable (selected : BTreeSet BlockId)

def coveredFacets : BTreeSet String :=
  (∅ : BTreeSet String).insertMany
    ((prepared.filter fun item => selected.contains item.block.id).flatMap fun item =>
      item.effectiveFacets.toList)

def blockSatisfiesRequirement (block : ContextBlock) (requirement : PackFacetRequirement) : Bool :=
  requirement.minimumConfidenceMicros ≤ block.confidenceMicros &&
    (!requirement.requireEvidence || !block.evidenceHandles.isEmpty) &&
    (block.epistemic.acceptance matches .accepted | .consolidated) &&
    (block.epistemic.lifecycle matches .active | .historical) &&
    (block.epistemic.conflict matches .none | .resolved _) &&
    !(block.interpretation matches .hypothesisOnly | .unknownMarker | .conflictAlternatives)

variable (requirement : PackFacetRequirement)

def PreparedCandidate.meets : Bool :=
  item.effectiveFacets.contains requirement.name && blockSatisfiesRequirement item.block requirement

def requirementSatisfied (prepared : List PreparedCandidate) (selected : BTreeSet BlockId) : Bool :=
  prepared.any fun item => selected.contains item.block.id && item.meets requirement

variable (covered : BTreeSet String) (library : Libraries) (tokenizer : TokenCounter)
  (request : CompileRequest) (left right : PreparedCandidate)

def facetOrder : Ordering :=
  ((compare left.block.confidenceMicros right.block.confidenceMicros).then
    (compare left.candidate.utilityMicros right.candidate.utilityMicros)).then
    (compare right.block.id left.block.id)

structure FacetProgress where
  selected : BTreeSet BlockId
  covered : BTreeSet String

/-- One required facet: skipped when already covered, met by the best block otherwise. -/
def selectFacet (progress : FacetProgress) (requirement : PackFacetRequirement) : FacetProgress :=
  if progress.covered.contains requirement.name then progress
  else match maxBy facetOrder (prepared.filter (·.meets requirement)) with
    | none => progress
    | some best =>
      ⟨progress.selected.insert best.block.id,
        progress.covered.insertMany best.effectiveFacets.toList⟩

def selectRequiredFacets (requirements : List PackFacetRequirement)
    (prepared : List PreparedCandidate) (selected : BTreeSet BlockId) : BTreeSet BlockId :=
  (requirements.foldl (selectFacet prepared) ⟨selected, coveredFacets prepared selected⟩).selected

def describes (set : ConflictSetId) (item : PreparedCandidate) : Bool :=
  item.block.conflict.any (·.setId = set)

def missingConflict (item : PreparedCandidate) : Result (List BlockId) :=
  match item.block.epistemic.conflict with
  | .inConflict set =>
    match prepared.find? (describes set) with
    | none => .error (.invalidRequest ("selected candidate " ++ item.block.id.text ++
        " lacks visible conflict manifest"))
    | some conflict =>
      .ok (if selected.contains conflict.block.id then [] else [conflict.block.id])
  | _ => .ok []

def conflictAdditions : Result (List BlockId) := do
  let additions ← (prepared.filter fun item => selected.contains item.block.id).mapM
    (missingConflict prepared selected)
  .ok additions.flatten

/-- Conflict blocks are added until none is missing. Every round adds a prepared block that
was not selected, so as many rounds as there are prepared blocks always suffice. -/
def closeConflicts (prepared : List PreparedCandidate) : Nat → BTreeSet BlockId →
    Result (BTreeSet BlockId)
  | 0, selected => do
      let _ ← conflictAdditions prepared selected
      .ok selected
  | rounds + 1, selected => do
      let missing ← conflictAdditions prepared selected
      if missing.isEmpty then .ok selected
      else closeConflicts prepared rounds (selected.insertMany missing)

def saturatingMul (left right : Nat) : Nat :=
  min (left * right) (2 ^ 128 - 1)

def marginalValue : Nat :=
  let newFacets := (item.effectiveFacets.toList.filter fun facet => !covered.contains facet).length
  saturatingMul item.candidate.utilityMicros (if newFacets = 0 then 1 else 2 * newFacets + 1)

def PreparedCandidate.positiveCost : Nat :=
  max item.costTokens.toNat 1

def compareMarginal : Ordering :=
  (compare (marginalValue left covered * right.positiveCost)
    (marginalValue right covered * left.positiveCost)).then
    (compare right.block.id left.block.id)

def marginalDensity : Nat :=
  marginalValue item covered / item.positiveCost

def minMarginalDensityMicrosPerToken : Nat := 100

/-- Optional candidates by marginal value per token, each judged against the facets of those
before it. One candidate leaves the pool per round. -/
def greedyRounds : Nat → BTreeSet String → List PreparedCandidate → List PreparedCandidate
  | 0, _, _ => []
  | rounds + 1, covered, pool =>
    match maxBy (fun left right => compareMarginal covered left.1 right.1) pool.zipIdx with
    | none => []
    | some (best, index) =>
      best :: greedyRounds rounds (covered.insertMany best.effectiveFacets.toList)
        (pool.eraseIdx index)

def greedyOrder (pool : List PreparedCandidate) : List PreparedCandidate :=
  greedyRounds pool.length ∅ pool

/-! Assembling a pack from a selection and fitting it into the budgets. The recorded size is
part of the serialized pack, so it is recomputed until it describes itself. -/

structure FitOutput where
  pack : ContextPack
  rendered : RenderedContext
  protobuf : List UInt8

def ContextBlock.meets (block : ContextBlock) (requirement : PackFacetRequirement) : Bool :=
  block.facets.contains requirement.name &&
    !block.representation.omittedFacets.contains requirement.name &&
    blockSatisfiesRequirement block requirement

def assessSufficiency (sections : PackSections) : PackSufficiencyReport :=
  let missingFacets := (∅ : BTreeSet String).insertMany
    ((request.requiredFacets.filter fun requirement =>
      !sections.iter.any (·.meets requirement)).map (·.name))
  let unresolvedConflicts := (∅ : BTreeSet ConflictSetId).insertMany
    ((sections.blocksOf .conflict).filterMap fun block =>
      block.conflict.bind fun conflict =>
        if conflict.blocking && conflict.resolution == .unresolved then some conflict.setId else none)
  let blockingUnknowns := (∅ : BTreeSet BlockId).insertMany
    (((sections.blocksOf .unknown).filter fun block => block.unknown.any (·.blocking)).map (·.id))
  let unsupportedBlocks := (∅ : BTreeSet BlockId).insertMany
    ((sections.iter.filter (·.support != .supported)).map (·.id))
  { sufficient := missingFacets.isEmpty && unresolvedConflicts.isEmpty &&
      blockingUnknowns.isEmpty && unsupportedBlocks.isEmpty, coveredFacets := (∅ : BTreeSet String).insertMany
      (sections.iter.flatMap fun block => block.effectiveFacets.toList)
    missingFacets, unresolvedConflicts, blockingUnknowns, unsupportedBlocks }

def PreparedCandidate.directive : UseDirective :=
  ⟨item.block.id, item.useAction, item.directiveReason⟩

def PreparedCandidate.provenance : BlockProvenance :=
  ⟨item.block.id, item.block.memoryRefs, item.block.evidenceHandles, [item.block.sourceClass]⟩

def freshnessWarnings (snapshot : ProviderSnapshot) : List String :=
  (if snapshot.watermarks.semantic < snapshot.commitSeq then ["semantic_projection_lag"] else []) ++
  (if snapshot.watermarks.lexical < snapshot.commitSeq then ["lexical_projection_lag"] else []) ++
  (if snapshot.watermarks.graph < snapshot.commitSeq then ["graph_projection_lag"] else [])

def dedupNeighbours {Item : Type} [DecidableEq Item] : List Item → List Item
  | first :: second :: rest =>
    if first = second then dedupNeighbours (second :: rest) else first :: dedupNeighbours
      (second :: rest)
  | items => items

def canonicalOmissions (omissions : List Omission) : List Omission :=
  dedupNeighbours (sortBy Omission.order omissions)

def noMemoryResult (sourceCount authorizedCandidates : Nat) (omissions : List Omission)
    (missingFacets : BTreeSet String) : Option NoMemoryResult :=
  if sourceCount = 0 then
    some
      { reason :=
          if authorizedCandidates = 0 then .noAuthorizedCandidates
          else if omissions.any (·.reason.isBudget) then .budgetCouldNotAdmitOptionalMemory
          else .noRelevantCandidates
        missingFacets }
  else none

def sectionsOf (selected : List PreparedCandidate) : PackSections :=
  ((selected.map (·.block)).foldl PackSections.push PackSections.empty).sorted

def assemblePack (selected : List PreparedCandidate)
    (evidence : List PackEvidence) (omissions : List Omission) (selectionEvaluations : UInt32)
    (authorizedCandidates : Nat) (continuation : Option ContextContinuationToken)
    (usage : ContextBudgetUsage) (selectedSourceCount : Nat) : ContextPack :=
  let sections := sectionsOf selected
  let evidence := sortBy (compareOn (·.id)) evidence
  let sufficiency := assessSufficiency request sections
  let noMemory := noMemoryResult selectedSourceCount authorizedCandidates omissions sufficiency.missingFacets
  { schemaVersion := contextPackSchemaVersion, id := request.packId, status := if noMemory.isSome then .noMemory
      else if sufficiency.sufficient then .sufficient else .incomplete, snapshot := request.snapshot
    purpose := request.purpose, scopeManifest :=
      { workspace := request.principal.workspace, subject := request.principal.subject, scopes := request.scopes
        purpose := request.purpose, temporalView := request.temporalView, filterDigest := request.filterDigest }
    sections
    evidence, useDirectives := sortBy (compareOn (·.blockId)) (selected.map (·.directive))
    graphManifest := sections.graphManifest, freshness := ⟨request.snapshot,
      freshnessWarnings request.snapshot⟩
    provenance :=
      { compilerVersion := contextCompilerVersion, policyFilterDigest := request.filterDigest
        blocks := sortBy (compareOn (·.blockId)) (selected.map (·.provenance))
        evidenceSources := (∅ : BTreeMap EvidenceHandle SourceHandle).insertMany
          (evidence.map fun item => (item.id, item.source)) }
    continuation, compilation :=
      { compilerVersion := contextCompilerVersion, schemaVersion := contextPackSchemaVersion
        modelProfile := request.modelProfile.id, tokenizer := request.modelProfile.tokenizerId
        renderer := request.modelProfile.renderer, budget := request.budgets
        usage := { usage with selectionEvaluations }, softBudgetExceeded := false
        selectedBlocks := selected.map
          (·.block.id), omissions := canonicalOmissions omissions, sufficiency }
    noMemory }

variable (pack : ContextPack)

def ContextPack.withUsage (usage : ContextBudgetUsage) : ContextPack :=
  { pack with compilation := { pack.compilation with usage } }

def encodeForFit : Except OmissionReason (List UInt8) :=
  match CanonicalSerializer.encodeProtobufUnchecked library pack with
  | .ok bytes => .ok bytes
  | .error _ => .error .serializationBudget

/-- Record the size of the encoding until it describes itself, within the given rounds. -/
def settleSize : Nat → ContextPack → List UInt8 → Except OmissionReason ContextPack
  | 0, _, _ => .error .serializationBudget
  | rounds + 1, pack, protobuf =>
    if pack.compilation.usage.serializedBytes = clampU32 protobuf.length then .ok pack else do
      let resized := pack.withUsage { pack.compilation.usage with
        serializedBytes := clampU32 protobuf.length }
      let protobuf ← encodeForFit library resized
      settleSize rounds resized protobuf

def ContextPack.withRendered (request : CompileRequest) (rendered : RenderedContext) :
    ContextPack :=
  { pack with compilation := { pack.compilation with
      usage := { pack.compilation.usage with
        renderedTokens := rendered.totalTokens, controlTokens := rendered.controlTokens
        dataTokens := rendered.dataTokens }, softBudgetExceeded := request.budgets.softTokens <
          rendered.totalTokens } }

def finalizePack (rendered : RenderedContext) : Except OmissionReason FitOutput := do
  ensure (rendered.totalTokens ≤ request.budgets.hardTokens) .tokenBudget
  let pack := pack.withRendered request rendered
  let protobuf ← encodeForFit library pack
  let pack ← settleSize library 16 pack protobuf
  let protobuf ← encodeForFit library pack
  ensure (pack.compilation.usage.serializedBytes ≤
    request.budgets.maxSerializedBytes) .serializationBudget
  .ok ⟨pack, rendered, protobuf⟩

/-- Kind first, then identifier: the order of the selected-block manifest. -/
def packOrder : Ordering :=
  (compare left.block.kind right.block.kind).then (compare left.block.id right.block.id)

/-- The evidence of a selection by handle; the first record of a handle stays. -/
def evidenceOf (selected : List PreparedCandidate) : BTreeMap EvidenceHandle PackEvidence :=
  (selected.flatMap (·.evidence)).foldl (fun known item =>
    if known.contains item.id then known else known.insert item.id item) ∅

/-- Sum of 32-bit costs, failing with `reason` on overflow. -/
def sumCosts (reason : OmissionReason) (costs : List UInt32) : Except OmissionReason UInt32 :=
  costs.foldlM (fun total cost =>
    match checkedAdd total cost with
    | some total => .ok total
    | none => .error reason) 0

def rawEvidenceTokens (evidence : List PackEvidence) : Except OmissionReason UInt32 :=
  match (evidence.filterMap (·.excerpt)).mapM tokenizer.countTokens with
  | .error _ => .error .evidenceBudget
  | .ok costs => sumCosts .evidenceBudget costs

def measureUsage (selected : List PreparedCandidate) (selectionEvaluations : UInt32) :
    Except OmissionReason ContextBudgetUsage := do
  ensure (selected.length ≤ request.budgets.maxBlocks.toNat) .blockBudget
  ensure (selectionEvaluations ≤ request.budgets.maxSelectionEvaluations) .selectionEvaluationBudget
  let evidence := evidenceOf selected
  ensure (evidence.size ≤ request.budgets.maxEvidenceBlocks.toNat) .evidenceBudget
  let rawEvidenceTokens ← rawEvidenceTokens tokenizer evidence.inOrder
  ensure (rawEvidenceTokens ≤ request.budgets.maxRawEvidenceTokens) .evidenceBudget
  let historyTokens ← sumCosts .historyBudget
    ((selected.filter (·.block.kind.isHistory)).map (·.costTokens))
  ensure (historyTokens ≤ request.budgets.maxHistoryTokens) .historyBudget
  let conflictTokens ← sumCosts .conflictBudget
    ((selected.filter (·.block.kind = .conflict)).map (·.costTokens))
  ensure (conflictTokens ≤ request.budgets.maxConflictTokens) .conflictBudget
  .ok
    { blocks := clampU32 selected.length
      evidenceBlocks := clampU32 evidence.size
      rawEvidenceTokens, historyTokens, conflictTokens, selectionEvaluations }

def fitPack (selected : List PreparedCandidate) (omissions : List Omission)
    (selectionEvaluations : UInt32)
    (authorizedCandidates : Nat) (continuation : Option ContextContinuationToken) :
    Except OmissionReason FitOutput := do
  let selected := sortBy packOrder selected
  let usage ← measureUsage tokenizer request selected selectionEvaluations
  let pack := assemblePack request selected (evidenceOf selected).inOrder omissions
    selectionEvaluations authorizedCandidates continuation usage
    (selected.filter (!·.generated)).length
  match ContextRenderer.renderUnchecked library pack request.modelProfile tokenizer with
  | .error _ => .error .tokenBudget
  | .ok rendered => finalizePack library request pack rendered

end ContextDb.Context
