import ContextDb.Recall.Types

/-! The records a context compilation reads: block and evidence handles, candidates with
their loss-declared representations, evidence, facet requirements, budgets and the compile
request. Counters and budgets keep the source's 32-bit width. -/

set_option autoImplicit false

namespace ContextDb.Context

open Std Lib ContextDb.Core Recall

inductive ContextError
  | invalidRequest (reason : String)
  | provider (reason : String)
  | authorization (reason : String)
  | budgetExceeded (reason : String)
  | invalidContinuation (reason : String)
  | tokenizer (reason : String)
  | serialization (reason : String)
deriving DecidableEq

abbrev Result (Value : Type) := Except ContextError Value

def displayRecall : RecallError → String
  | .invalidRequest reason => "invalid recall request: " ++ reason
  | .provider reason => "recall provider failed: " ++ reason
  | .invalidContinuation => "recall continuation does not match the request snapshot or filters"
  | .deadlineExceeded => "recall deadline was exhausted"

/-- A recall check surfaced under another error, `wrap` receiving its text. -/
def liftRecall (checked : Except RecallError Unit) (wrap : String → ContextError) : Result Unit :=
  match checked with
  | .ok () => .ok ()
  | .error error => .error (wrap (displayRecall error))

def liftCore (checked : ValidationResult) : Result Unit :=
  match checked with
  | .ok () => .ok ()
  | .error violation => .error (.invalidRequest violation.display)

def validateNonBlank (value field : String) : Result Unit :=
  ensure (!isBlank value) (.invalidRequest (field ++ " must not be blank"))

def isControl (character : Char) : Bool :=
  character.toNat < 0x20 || (0x7f ≤ character.toNat && character.toNat ≤ 0x9f)

inductive HandleKind
  | block | evidence | source
deriving DecidableEq

def HandleKind.label : HandleKind → String
  | .block => "context block"
  | .evidence => "evidence handle"
  | .source => "source handle"

@[ext] structure Handle (kind : HandleKind) where
  text : String
  notBlank : isBlank text = false
  noControl : text.toList.any isControl = false

abbrev BlockId := Handle .block
abbrev EvidenceHandle := Handle .evidence
abbrev SourceHandle := Handle .source

namespace Handle

variable {kind : HandleKind}

instance : DecidableEq (Handle kind) :=
  fun _ _ => decidable_of_iff _ Handle.ext_iff.symm

def new (kind : HandleKind) (text : String) : Result (Handle kind) :=
  if notBlank : isBlank text = false then
    if noControl : text.toList.any isControl = false then .ok ⟨text, notBlank, noControl⟩
    else .error (.invalidRequest (kind.label ++ " ID must not contain control characters"))
  else .error (.invalidRequest (kind.label ++ " ID must not be blank"))

/-- The handle with a given text, for worked examples; an invalid text yields a dash. -/
def named (text : String) : Handle kind :=
  if valid : isBlank text = false ∧ text.toList.any isControl = false then ⟨text, valid.1, valid.2⟩
  else ⟨"-", by decide, by decide⟩

instance : Ord (Handle kind) := ⟨compareOn text⟩

instance : TransOrd (Handle kind) :=
  inferInstanceAs (TransCmp (compareOn text))

instance : LawfulEqOrd (Handle kind) :=
  lawfulEqCmp_compareOn text fun _ _ equal => Handle.ext equal

theorem new_text {text : String} {id : Handle kind} (created : new kind text = .ok id) :
    id.text = text := by
  unfold new at created
  split at created
  · split at created
    · cases created
      rfl
    · cases created
  · cases created

end Handle

inductive PackPurpose
  | conversation | continuity | autobiographical | knowledge | historical | reflective | action
  | handoff | bootstrap
deriving DecidableEq

def PackPurpose.corePurpose : PackPurpose → Purpose
  | .conversation | .continuity | .bootstrap => .conversation
  | .autobiographical | .reflective => .personalisation
  | .knowledge | .historical => .knowledgeRecall
  | .action => .taskExecution
  | .handoff => .export

inductive PackBlockKind
  | situation | selfContext | participant | sharedHistory | episode | fact | relationship
  | preference | boundary | goal | decision | timeline | procedure | constraint | openLoop
  | conflict | unknown | rawObservation
deriving DecidableEq

def PackBlockKind.isFactual : PackBlockKind → Bool
  | .sharedHistory | .episode | .fact | .relationship | .preference | .boundary | .goal
  | .decision | .timeline | .procedure | .constraint | .openLoop | .conflict => true
  | _ => false

def PackBlockKind.isHistory : PackBlockKind → Bool
  | .sharedHistory | .episode | .timeline | .rawObservation => true
  | _ => false

inductive CompressionLevel
  | orientation | summary | structured | evidence | raw
deriving DecidableEq

structure ExactFragment where
  (label value : String)
deriving DecidableEq

def ExactFragment.validate (fragment : ExactFragment) : Result Unit := do
  validateNonBlank fragment.label "exact fragment label"
  validateNonBlank fragment.value "exact fragment value"

structure BlockRepresentation where
  level : CompressionLevel
  summary : String
  fields : BTreeMap String String
  omittedFacets : BTreeSet String
deriving DecidableEq

def BlockRepresentation.validate (representation : BlockRepresentation) : Result Unit := do
  ensure (!isBlank representation.summary || !representation.fields.isEmpty)
    (.invalidRequest "block representation needs a summary or structured fields")
  forM representation.fields.toList fun entry => do
    validateNonBlank entry.1 "representation field name"
    validateNonBlank entry.2 "representation field value"
  forM representation.omittedFacets.toList fun facet => validateNonBlank facet "omitted facet"

inductive SupportState
  | supported
  | unsupported (reason : String)
deriving DecidableEq

inductive ContentTrust
  | trustedSource | mixed | untrusted | unknown
deriving DecidableEq

inductive InstructionCapability
  | none | hostTrusted
deriving DecidableEq

inductive SourceClass
  | userStatement | sharedConversation | repository | toolOutput | externalDocument | sensor
  | deterministicDerivation | modelGenerated | imported
  | other (label : String)
deriving DecidableEq

def SourceClass.validate (source : SourceClass) (field : String) : Result Unit :=
  match source with
  | .other label => validateNonBlank label field
  | _ => .ok ()

inductive ContentTaint
  | untrustedInstructions | externalContent | userControlled | generated | secretLike
  | personallySensitive
  | other (label : String)
deriving DecidableEq

def ContentTaint.validate (taint : ContentTaint) (field : String) : Result Unit :=
  match taint with
  | .other label => validateNonBlank label field
  | _ => .ok ()

inductive InterpretationRule
  | factualData | historicalData | constraintData | styleSignal | hypothesisOnly | unknownMarker
  | conflictAlternatives
deriving DecidableEq

inductive PackConflictResolution
  | unresolved
  | resolved (winner : ClaimId) (rationale : String)
deriving DecidableEq

/-- Explicit conflict semantics; unresolved alternatives are never flattened. -/
structure ConflictDescriptor where
  setId : ConflictSetId
  alternatives : BTreeSet ClaimId
  resolution : PackConflictResolution
  blocking : Bool
deriving DecidableEq

def ConflictDescriptor.validate (descriptor : ConflictDescriptor) : Result Unit := do
  ensure (2 ≤ descriptor.alternatives.size)
    (.invalidRequest "conflict must preserve at least two alternatives")
  match descriptor.resolution with
  | .unresolved => .ok ()
  | .resolved winner rationale => do
      ensure (descriptor.alternatives.contains winner)
        (.invalidRequest "resolved conflict winner is absent from alternatives")
      validateNonBlank rationale "conflict resolution rationale"

structure UnknownDescriptor where
  (question reason : String)
  blocking : Bool
deriving DecidableEq

def UnknownDescriptor.validate (descriptor : UnknownDescriptor) : Result Unit := do
  validateNonBlank descriptor.question "unknown question"
  validateNonBlank descriptor.reason "unknown reason"

inductive MemoryRef
  | observation (id : ObservationId)
  | episodeView (id : EpisodeViewId)
  | artifact (id : ArtifactId)
  | evidence (id : EvidenceId)
  | node (id : NodeId)
  | claim (id : ClaimId)
  | edge (id : EdgeId)
  | conflictSet (id : ConflictSetId)
deriving DecidableEq

structure MemoryContent where
  id : BlockId
  kind : PackBlockKind
  exactFragments : List ExactFragment
  memoryRefs : List MemoryRef
  claimIds : BTreeSet ClaimId
  evidenceHandles : BTreeSet EvidenceHandle
  (facets scopes : BTreeSet String)
  validTime : Option TimeRange
  knownAtCommit : Nat
  perspective : Option Perspective
  epistemic : EpistemicState
  confidenceMicros : UInt32
  trust : ContentTrust
  instructionCapability : InstructionCapability
  sourceClass : SourceClass
  taints : List ContentTaint
  interpretation : InterpretationRule
  support : SupportState
  conflict : Option ConflictDescriptor
  unknown : Option UnknownDescriptor
deriving DecidableEq

structure PackCandidate extends MemoryContent where
  representations : List BlockRepresentation
  utilityMicros : Nat
  mandatory : Bool
deriving DecidableEq

structure ContextBlock extends MemoryContent where
  representation : BlockRepresentation
deriving DecidableEq

variable (content : MemoryContent)

def MemoryContent.isRawWithClaims : Bool :=
  content.kind == .rawObservation && (!content.claimIds.isEmpty ||
    content.evidenceHandles.isEmpty ||
      content.interpretation != .historicalData || content.support != .supported)

def EpistemicBasis.mayLackSupport (basis : EpistemicBasis) : Bool :=
  basis matches .actorAssertion | .hypothesis

def MemoryContent.validateSupport (unsupportedFact unsupportedBasis : String) : Result Unit :=
  match content.support with
  | .supported =>
    ensure (!(content.kind.isFactual && content.evidenceHandles.isEmpty))
      (.invalidRequest unsupportedFact)
  | .unsupported reason => do
      validateNonBlank reason "unsupported marker reason"
      ensure (EpistemicBasis.mayLackSupport content.epistemic.basis)
        (.invalidRequest unsupportedBasis)

/-- Conflict and unknown metadata belong to their own kinds, exclusively. -/
def MemoryContent.validateMarkers
    (missingAlternative malformedConflict malformedUnknown misplaced : String) : Result Unit :=
  match content.kind, content.conflict, content.unknown with
  | .conflict, some conflict, none => do
      conflict.validate
      ensure (conflict.alternatives.isSubset content.claimIds) (.invalidRequest missingAlternative)
  | .unknown, none, some unknown => unknown.validate
  | .conflict, _, _ => .error (.invalidRequest malformedConflict)
  | .unknown, _, _ => .error (.invalidRequest malformedUnknown)
  | _, none, none => .ok ()
  | _, _, _ => .error (.invalidRequest misplaced)

def validatePerspective (perspective : Option Perspective) (factual : Bool) (missing : String) :
    Result Unit :=
  match perspective with
  | some perspective => liftCore perspective.validate
  | none => ensure (!factual) (.invalidRequest missing)

namespace PackCandidate

/-- One representation after `levels`, the compression levels of those before it. -/
def validateRepresentation (candidate : PackCandidate) (levels : List CompressionLevel)
    (representation : BlockRepresentation) : Result (List CompressionLevel) := do
  representation.validate
  ensure (!levels.contains representation.level)
    (.invalidRequest ("candidate " ++ candidate.id.text ++ " repeats a compression level"))
  ensure (representation.omittedFacets.isSubset candidate.facets)
    (.invalidRequest ("candidate " ++ candidate.id.text ++ " omits a facet it never declared"))
  .ok (representation.level :: levels)

def validate (candidate : PackCandidate) : Result Unit := do
  ensure (!candidate.representations.isEmpty) (.invalidRequest
    ("candidate " ++ candidate.id.text ++ " has no representations"))
  let _ ← candidate.representations.foldlM candidate.validateRepresentation []
  ensure (candidate.representations.any (·.omittedFacets.isEmpty))
    (.invalidRequest ("candidate " ++ candidate.id.text ++ " has no facet-complete representation"))
  forM candidate.exactFragments ExactFragment.validate
  ensure (!candidate.scopes.isEmpty) (.invalidRequest ("candidate " ++ candidate.id.text ++
    " has no explicit scope"))
  forM (candidate.facets.toList ++ candidate.scopes.toList) fun value =>
    validateNonBlank value "candidate facet or scope"
  forM candidate.validTime.toList fun range => liftCore range.validate
  ensure (candidate.confidenceMicros ≤ 1000000) (.invalidRequest
    ("candidate " ++ candidate.id.text ++ " confidence exceeds one"))
  validatePerspective candidate.perspective candidate.kind.isFactual
    ("factual candidate " ++ candidate.id.text ++ " has no explicit perspective")
  ensure (candidate.utilityMicros != 0) (.invalidRequest
    ("candidate " ++ candidate.id.text ++ " utility must be positive"))
  ensure (!candidate.isRawWithClaims)
    (.invalidRequest "raw observations require original support and cannot assert current claims")
  ensure (candidate.instructionCapability == .none) (.invalidRequest
    ("retrieved candidate " ++ candidate.id.text ++
      " attempted to gain instruction capability"))
  candidate.sourceClass.validate "source class"
  forM candidate.taints fun taint => taint.validate "content taint"
  candidate.validateSupport ("supported factual candidate " ++ candidate.id.text ++
    " has no evidence handle")
    ("candidate " ++ candidate.id.text ++ " may be unsupported only as assertion or hypothesis")
  ensure (!(candidate.kind.isFactual && candidate.claimIds.isEmpty))
    (.invalidRequest ("factual candidate " ++ candidate.id.text ++ " has no stable claim ID"))
  candidate.validateMarkers ("conflict candidate " ++ candidate.id.text ++
    " does not carry every alternative claim ID")
    ("conflict candidate " ++ candidate.id.text ++ " lacks exclusive conflict semantics")
    ("unknown candidate " ++ candidate.id.text ++ " lacks exclusive unknown semantics")
    ("candidate " ++ candidate.id.text ++ " carries conflict/unknown metadata in the wrong section")

end PackCandidate

def ContextBlock.validate (block : ContextBlock) : Result Unit := do
  block.representation.validate
  ensure (!block.isRawWithClaims)
    (.invalidRequest "raw observations require original support and cannot assert current claims")
  forM block.exactFragments ExactFragment.validate
  ensure (!block.scopes.isEmpty && !block.scopes.toList.any isBlank)
    (.invalidRequest ("block " ++ block.id.text ++ " requires explicit non-blank scopes"))
  forM block.validTime.toList fun range => liftCore range.validate
  ensure (block.confidenceMicros ≤ 1000000) (.invalidRequest
    ("block " ++ block.id.text ++ " confidence exceeds one"))
  validatePerspective block.perspective block.kind.isFactual
    ("factual block " ++ block.id.text ++ " has no explicit perspective")
  ensure (block.instructionCapability == .none) (.invalidRequest
    ("block " ++ block.id.text ++ " gained instruction capability"))
  ensure (!(block.kind.isFactual && block.claimIds.isEmpty))
    (.invalidRequest ("factual block " ++ block.id.text ++ " has no stable claim ID"))
  block.validateSupport ("supported factual block " ++ block.id.text ++ " has no evidence")
    ("block " ++ block.id.text ++ " may be unsupported only as assertion or hypothesis")
  block.sourceClass.validate "block source class"
  forM block.taints fun taint => taint.validate "block taint"
  block.validateMarkers ("conflict block " ++ block.id.text ++
    " does not carry every alternative claim ID")
    ("block " ++ block.id.text ++ " has malformed conflict/unknown semantics")
    ("block " ++ block.id.text ++ " has malformed conflict/unknown semantics")
    ("block " ++ block.id.text ++ " carries conflict/unknown metadata in the wrong section")

inductive DisclosureRule
  | mayMention | useSilently | mentionOnlyWhenExplicit | doNotDisclose
deriving DecidableEq

structure CandidateUsePolicy where
  (influence mention externalModelUse : PolicyDecision)
  disclosure : DisclosureRule
deriving DecidableEq

inductive UseAction
  | mentionNaturally | useSilently | constraintOnly | styleOnly
deriving DecidableEq

inductive DirectiveReason
  | policyAllowsMention | mentionDenied | explicitRequestRequired | constraintSemantics
  | styleSemantics
deriving DecidableEq

structure UseDirective where
  blockId : BlockId
  action : UseAction
  reasonCode : DirectiveReason
deriving DecidableEq

inductive PackSelector
  | textBytes (start finish : Nat)
  | lines (start finish : Nat)
  | timeMicros (start finish : Nat)
  | jsonPointer (pointer : String)
  | whole
deriving DecidableEq

def PackSelector.validate : PackSelector → Result Unit
  | .textBytes start finish | .lines start finish | .timeMicros start finish =>
    ensure (start < finish) (.invalidRequest "evidence selector end must exceed start")
  | .jsonPointer pointer => validateNonBlank pointer "JSON pointer"
  | .whole => .ok ()

abbrev Digest := Vector UInt8 32

def bytesOf (text : String) : List UInt8 :=
  text.toByteArray.data.toList

structure OriginalSourceSpan where
  eventId : ObservationId
  payloadDigest : Digest
  (start finish : Nat)
  spanDigest : Digest
deriving DecidableEq

structure PackEvidence where
  id : EvidenceHandle
  source : SourceHandle
  selector : PackSelector
  excerpt : Option String
  claimIds : BTreeSet ClaimId
  provenanceFamily : String
  primary : Bool
  trustMicros : UInt32
  sourceClass : SourceClass
  taints : List ContentTaint
  lineage : List SourceHandle
  originalSpan : Option OriginalSourceSpan
deriving DecidableEq

def PackEvidence.spanAgrees (blake3 : List UInt8 → Digest) (evidence : PackEvidence)
    (span : OriginalSourceSpan) (excerpt : String) : Bool :=
  span.start < span.finish && span.finish - span.start == (bytesOf excerpt).length &&
    blake3 (bytesOf excerpt) == span.spanDigest &&
      evidence.selector == .textBytes span.start span.finish

def PackEvidence.validate (blake3 : List UInt8 → Digest) (evidence : PackEvidence) :
    Result Unit := do
  evidence.selector.validate
  ensure (evidence.excerpt != some "") (.invalidRequest ("evidence " ++ evidence.id.text ++
    " excerpt must not be empty when present"))
  ensure (!(evidence.taints.contains .secretLike && evidence.excerpt.isSome))
    (.invalidRequest ("secret-like evidence " ++ evidence.id.text ++
      " must not carry a raw excerpt"))
  ensure (!(evidence.claimIds.isEmpty && evidence.originalSpan.isNone))
    (.invalidRequest ("evidence " ++ evidence.id.text ++ " supports no claim"))
  match evidence.originalSpan, evidence.excerpt with
  | none, _ => .ok ()
  | some _, none => .error (.invalidRequest "exact evidence requires original text")
  | some span, some excerpt =>
    ensure (evidence.spanAgrees blake3 span excerpt)
      (.invalidRequest "original span and exact excerpt disagree")
  validateNonBlank evidence.provenanceFamily "provenance family"
  ensure (evidence.trustMicros ≤ 1000000) (.invalidRequest
    ("evidence " ++ evidence.id.text ++ " trust exceeds one"))
  ensure (!evidence.lineage.contains evidence.source)
    (.invalidRequest ("evidence " ++ evidence.id.text ++ " lineage directly repeats its source"))
  evidence.sourceClass.validate "evidence source class"
  forM evidence.taints fun taint => taint.validate "evidence taint"

structure PackFacetRequirement where
  name : String
  minimumConfidenceMicros : UInt32
  requireEvidence : Bool
deriving DecidableEq

def PackFacetRequirement.validate (requirement : PackFacetRequirement) : Result Unit := do
  validateNonBlank requirement.name "facet requirement"
  ensure (requirement.minimumConfidenceMicros ≤ 1000000)
    (.invalidRequest ("facet " ++ requirement.name ++ " confidence exceeds one"))

structure ContextBudgets where
  (hardTokens softTokens maxBlocks maxEvidenceBlocks maxRawEvidenceTokens maxHistoryTokens : UInt32)
  (maxConflictTokens maxSerializedBytes maxSelectionEvaluations : UInt32)
deriving DecidableEq

def ContextBudgets.validate (budgets : ContextBudgets) : Result Unit := do
  ensure (!([budgets.hardTokens, budgets.softTokens, budgets.maxBlocks, budgets.maxEvidenceBlocks,
        budgets.maxRawEvidenceTokens, budgets.maxHistoryTokens, budgets.maxConflictTokens,
        budgets.maxSerializedBytes, budgets.maxSelectionEvaluations].contains 0))
    (.invalidRequest "all ContextPack budgets must be positive")
  ensure (budgets.softTokens ≤ budgets.hardTokens)
    (.invalidRequest "soft token budget exceeds hard token budget")

inductive RendererKind
  | compact | hostedStructured | chat | coding | canonicalJson
deriving DecidableEq

inductive StructuredFormat
  | compactText | json | markdown | toolResult
deriving DecidableEq

inductive PositionProfile
  | balanced | criticalFirst | evidenceAdjacent | smallModelExplicit
deriving DecidableEq

inductive InstructionHierarchy
  | separatedChannels | singlePromptDelimited
deriving DecidableEq

structure ModelProfile where
  (id family tokenizerId : String)
  renderer : RendererKind
  (maxContextTokens reservedOutputTokens : UInt32)
  preferredStructuredFormat : StructuredFormat
  (supportsToolResults supportsNativeCitations supportsPromptCaching : Bool)
  positionProfile : PositionProfile
  instructionHierarchy : InstructionHierarchy
  maxSchemaComplexity : UInt32
  externalProcessing : Bool
deriving DecidableEq

variable (profile : ModelProfile)

def ModelProfile.rendererMatchesFormat : Bool :=
  match profile.renderer, profile.preferredStructuredFormat with
  | .compact, .compactText | .hostedStructured, .toolResult | .chat, .markdown
  | .coding, .markdown | .canonicalJson, .json => true
  | _, _ => false

def ModelProfile.validate : Result Unit := do
  validateNonBlank profile.id "model profile ID"
  validateNonBlank profile.family "model family"
  validateNonBlank profile.tokenizerId "tokenizer ID"
  ensure (profile.maxContextTokens != 0)
    (.invalidRequest "model profile context limit must be positive")
  ensure (profile.reservedOutputTokens < profile.maxContextTokens)
    (.invalidRequest "reserved output must leave positive input context")
  ensure (profile.maxSchemaComplexity != 0)
    (.invalidRequest "model profile schema complexity must be positive")
  ensure (profile.preferredStructuredFormat != .toolResult || profile.supportsToolResults)
    (.invalidRequest "tool-result format requires tool-result support")
  ensure profile.rendererMatchesFormat
    (.invalidRequest "renderer differs from the model profile structured format")

def ModelProfile.availableInputTokens : UInt32 :=
  profile.maxContextTokens - profile.reservedOutputTokens

structure ContextContinuationToken where
  sealed : String
deriving DecidableEq

structure CompileRequest where
  packId : ContextPackId
  snapshot : ProviderSnapshot
  principal : RecallPrincipal
  filterDigest : String
  purpose : PackPurpose
  scopes : BTreeSet String
  temporalView : TemporalConstraint
  requiredFacets : List PackFacetRequirement
  budgets : ContextBudgets
  modelProfile : ModelProfile
  (explicitMemoryRequest requirePrimaryEvidence : Bool)
  continuation : Option ContextContinuationToken

def CompileRequest.validateFacet (seen : List String) (facet : PackFacetRequirement) :
    Result (List String) := do
  facet.validate
  ensure (!seen.contains facet.name) (.invalidRequest ("duplicate required facet " ++ facet.name))
  .ok (facet.name :: seen)

def CompileRequest.validate (request : CompileRequest) : Result Unit := do
  liftRecall request.snapshot.validate fun text => .invalidRequest ("invalid snapshot: " ++ text)
  liftRecall request.principal.validate fun text => .invalidRequest ("invalid principal: " ++ text)
  validateNonBlank request.filterDigest "filter digest"
  ensure (!request.scopes.isEmpty && !request.scopes.toList.any isBlank)
    (.invalidRequest "compile request requires explicit non-blank scopes")
  ensure (request.scopes.isSubset request.principal.scopes)
    (.authorization "pack scopes exceed principal authorization")
  liftCore request.temporalView.validate
  ensure (purposeKey request.purpose.corePurpose == request.principal.purpose)
    (.authorization "pack purpose differs from authorization purpose")
  request.budgets.validate
  request.modelProfile.validate
  ensure (request.budgets.hardTokens ≤ request.modelProfile.availableInputTokens)
    (.invalidRequest "hard token budget exceeds model input capacity after reserved output")
  let _ ← request.requiredFacets.foldlM CompileRequest.validateFacet []

end ContextDb.Context
