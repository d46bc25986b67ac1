import ContextDb.Context.Packing

/-! The deterministic policy-first compiler: prepare what the principal may use, select the
mandatory blocks, offer the optional ones in greedy order while the pack keeps fitting, and
hand out a continuation for those not reached. -/

set_option autoImplicit false

namespace ContextDb.Context

open Std Lib ContextDb.Core Recall

structure CompiledContext where
  pack : ContextPack
  rendered : RenderedContext
  (canonicalJson canonicalProtobuf : List UInt8)
  canonicalDigest : String

/-- A compiler with its continuation authentication key, which is not all zeroes. -/
structure ContextCompiler where
  continuationKey : Digest
  nonZero : continuationKey ≠ Vector.replicate 32 0

variable (library : Libraries) (request : CompileRequest)

def requiredNames : BTreeSet String :=
  (∅ : BTreeSet String).insertMany (request.requiredFacets.map (·.name))

structure Prepared where
  candidates : List PreparedCandidate
  omissions : List Omission

variable (tokenizer : TokenCounter)

def prepareNext (request : CompileRequest)
    (evidence : BTreeMap EvidenceHandle PackEvidence) (prepared : Prepared) (prospect : Prospect) :
    Result Prepared :=
  if prospect.candidate.taints.contains .secretLike then
    .ok { prepared with omissions := prepared.omissions ++ [⟨prospect.candidate.id, .secretRedacted⟩] }
  else do
    match ← prepareCandidate library tokenizer request prospect evidence (requiredNames request) with
    | some value => .ok { prepared with candidates := prepared.candidates ++ [value] }
    | none => .ok { prepared with omissions := prepared.omissions ++
        [⟨prospect.candidate.id, .unsupportedUnderEvidencePolicy⟩] }

def blockIdOrder (left right : PreparedCandidate) : Ordering :=
  compare left.block.id right.block.id

def prepareAll (request : CompileRequest) (materialized : Materialized) : Result Prepared := do
  let prepared ← materialized.candidates.foldlM
    (prepareNext library tokenizer request materialized.evidence) ⟨[], materialized.omissions⟩
  .ok { prepared with candidates := sortBy blockIdOrder prepared.candidates }

variable (prepared : List PreparedCandidate)

def visibleConflicts : BTreeSet ConflictSetId :=
  (∅ : BTreeSet ConflictSetId).insertMany (prepared.filterMap fun item => item.block.conflict.map
    (·.setId))

def lacksManifest (conflicts : BTreeSet ConflictSetId) (item : PreparedCandidate) : Bool :=
  match item.block.epistemic.conflict with
  | .inConflict set => !conflicts.contains set
  | .disputed => item.block.kind != .conflict
  | .none | .resolved _ => false

def retainManifested (prepared : Prepared) : Prepared :=
  let conflicts := visibleConflicts prepared.candidates
  { candidates := prepared.candidates.filter fun item => !lacksManifest conflicts item
    omissions := prepared.omissions ++ (prepared.candidates.filter (lacksManifest conflicts)).map
      fun item => ⟨item.block.id, .unresolvedConflictWithoutManifest⟩ }

def mandatoryIds (prepared : List PreparedCandidate) : Result (BTreeSet BlockId) :=
  closeConflicts prepared prepared.length
    (selectRequiredFacets request.requiredFacets prepared (intrinsicMandatoryIds prepared))

def missingRequirements (prepared : List PreparedCandidate) (selected : BTreeSet BlockId) :
    List PackFacetRequirement :=
  request.requiredFacets.filter fun requirement =>
    !requirementSatisfied requirement prepared selected

structure Mandatory where
  prepared : List PreparedCandidate
  selected : BTreeMap BlockId PreparedCandidate

def byId (items : List PreparedCandidate) : BTreeMap BlockId PreparedCandidate :=
  (∅ : BTreeMap BlockId PreparedCandidate).insertMany (items.map fun item => (item.block.id, item))

def selectMandatory (request : CompileRequest)
    (prepared : List PreparedCandidate) : Result Mandatory := do
  let selectedIds ← mandatoryIds request prepared
  let generated ← (missingRequirements request prepared selectedIds).mapM fun requirement =>
    prepareMissingUnknown library tokenizer request requirement.name
  let selectedIds := selectedIds.insertMany (generated.map (·.block.id))
  let prepared := sortBy blockIdOrder (prepared ++ generated)
  .ok
    { prepared
      selected := (∅ : BTreeMap BlockId PreparedCandidate).insertMany
        (selectedIds.toList.filterMap fun id => (byId prepared)[id]?.map fun item => (id, item)) }

structure Progress where
  selected : BTreeMap BlockId PreparedCandidate
  fit : FitOutput
  omissions : List Omission
  evaluations : UInt32

variable (selected : BTreeMap BlockId PreparedCandidate)

def conflictBundle (candidate : PreparedCandidate) : List PreparedCandidate :=
  match candidate.block.epistemic.conflict with
  | .inConflict set =>
    match prepared.find? (describes set) with
    | some conflict => if selected.contains conflict.block.id then [] else [conflict]
    | none => []
  | _ => []

def Progress.passOver (progress : Progress) (candidate : PreparedCandidate)
    (reason : OmissionReason) : Progress :=
  { progress with
    evaluations := progress.evaluations + 1, omissions := progress.omissions ++
      [⟨candidate.block.id, reason⟩] }

def trialSelection (candidate : PreparedCandidate) : BTreeMap BlockId PreparedCandidate :=
  (candidate :: conflictBundle prepared selected candidate).foldl
    (fun selected item => selected.insert item.block.id item) selected

/-- Offer one optional candidate: too thin, taken when the trial pack fits, or omitted. -/
def offerOptional (request : CompileRequest)
    (prepared : List PreparedCandidate) (authorizedCandidates : Nat) (progress : Progress)
    (candidate : PreparedCandidate) : Progress :=
  if marginalDensity candidate progress.fit.pack.compilation.sufficiency.coveredFacets <
      minMarginalDensityMicrosPerToken then progress.passOver candidate .redundant
  else
    let trial := trialSelection prepared progress.selected candidate
    match fitPack library tokenizer request trial.inOrder progress.omissions
        (progress.evaluations + 1) authorizedCandidates none with
    | .ok fit => { progress with selected := trial, fit, evaluations := progress.evaluations + 1 }
    | .error reason => progress.passOver candidate reason

/-- Whether the loop stops before the candidate at `index`: the evaluations are used up, or
the soft budget is reached and this is not the candidate a continued page must advance past. -/
def stopsBefore (startOffset index : Nat) (progress : Progress) : Bool :=
  request.budgets.maxSelectionEvaluations ≤ progress.evaluations ||
    (request.budgets.softTokens ≤ progress.fit.pack.compilation.usage.renderedTokens &&
      (request.continuation.isNone || startOffset < index))

/-- The optional loop from `index` on; it returns the offset of the next page. -/
def selectOptional (tokenizer : TokenCounter) (request : CompileRequest)
    (prepared : List PreparedCandidate) (authorizedCandidates startOffset : Nat) :
    Nat → Progress → List PreparedCandidate → Progress × Nat
  | index, progress, [] => (progress, index)
  | index, progress, candidate :: rest =>
    if stopsBefore request startOffset index progress then (progress, index)
    else selectOptional tokenizer request prepared authorizedCandidates startOffset (index + 1)
      (offerOptional library tokenizer request prepared authorizedCandidates progress candidate) rest

def chainDigest (request : CompileRequest) (prior : ContinuationState) (protobuf : List UInt8) :
    Digest :=
  let current := library.blake3 protobuf
  if request.continuation.isSome then library.blake3 (prior.chainDigest.toList ++ current.toList)
  else current

def checkedCounter (prior : Nat) (added : UInt32) (field : String) : Result Nat :=
  if prior + added.toNat < 2 ^ 64 then .ok (prior + added.toNat)
  else .error (.invalidContinuation ("cumulative continuation " ++ field ++ " budget overflow"))

namespace ContextCompiler

variable (compiler : ContextCompiler)

def issueContinuation (request : CompileRequest)
    (prior : ContinuationState) (fit : FitOutput) (nextOffset optionalCount : Nat) :
    Result (Option ContextContinuationToken) :=
  if nextOffset < optionalCount then do
    ensure (nextOffset < 2 ^ 32) (.invalidContinuation "candidate offset exceeds u32")
    let usage := fit.pack.compilation.usage
    let cumulativeTokens ← checkedCounter prior.cumulativeTokens usage.renderedTokens "token"
    let cumulativeBlocks ← checkedCounter prior.cumulativeBlocks usage.blocks "block"
    let cumulativeEvidence ← checkedCounter prior.cumulativeEvidence usage.evidenceBlocks "evidence"
    let token ← Continuation.issue library compiler.continuationKey request
      { nextOffset, cumulativeTokens, cumulativeBlocks, cumulativeEvidence
        chainDigest := chainDigest library request prior fit.protobuf }
    .ok (some token)
  else .ok none

/-- The pack that is returned. A token that does not fit is dropped with its page kept. -/
def finalFit (tokenizer : TokenCounter) (request : CompileRequest) (progress : Progress)
    (authorizedCandidates : Nat) (continuation : Option ContextContinuationToken) :
    Except OmissionReason FitOutput :=
  let fit := fitPack library tokenizer request progress.selected.inOrder progress.omissions
    progress.evaluations authorizedCandidates
  match fit continuation with
  | .ok output => .ok output
  | .error reason =>
    if continuation.isSome && reason == .serializationBudget then fit none else .error reason

def publish (fit : FitOutput) : Result CompiledContext := do
  fit.pack.validate library.blake3
  let canonicalJson ← CanonicalSerializer.toJson library fit.pack
  let canonicalProtobuf ← CanonicalSerializer.toProtobuf library fit.pack
  .ok
    { pack := fit.pack
      rendered := fit.rendered
      canonicalJson
      canonicalProtobuf
      canonicalDigest := Continuation.encodeHex (library.blake3 canonicalProtobuf).toList }

def fitError (message : String) (outcome : Except OmissionReason FitOutput) : Result FitOutput :=
  match outcome with
  | .ok fit => .ok fit
  | .error reason => .error (.budgetExceeded (message ++ reason.name))

def checkBinding (request : CompileRequest) (provider : ContextProvider)
    (tokenizer : TokenCounter) : Result Unit := do
  request.validate
  ensure (tokenizer.id == request.modelProfile.tokenizerId)
    (.invalidRequest ("tokenizer " ++ tokenizer.id ++
      " differs from requested profile tokenizer " ++
      request.modelProfile.tokenizerId))
  let providerSnapshot ← provider.snapshot
  ensure (providerSnapshot == request.snapshot)
    (.provider "provider snapshot differs from compile request")

def priorState (request : CompileRequest) : Result ContinuationState :=
  match request.continuation with
  | none => .ok .initial
  | some token => Continuation.verify library compiler.continuationKey request token

def candidatesFor (tokenizer : TokenCounter) (request : CompileRequest)
    (materialized : Materialized) : Result Prepared := do
  let prepared ← prepareAll library tokenizer request materialized
  .ok (retainManifested prepared)

def optionalOrder (mandatory : Mandatory) : List PreparedCandidate :=
  greedyOrder (mandatory.prepared.filter fun item => !mandatory.selected.contains item.block.id)

def compilePrepared (tokenizer : TokenCounter)
    (request : CompileRequest) (prior : ContinuationState) (authorizedCandidates : Nat)
    (prepared : Prepared) : Result CompiledContext := do
  let mandatory ← selectMandatory library tokenizer request prepared.candidates
  let fit ← fitError "mandatory ContextPack content does not fit: "
    (fitPack library tokenizer request mandatory.selected.inOrder prepared.omissions 0
      authorizedCandidates none)
  let ordered := optionalOrder mandatory
  ensure (prior.nextOffset ≤ ordered.length) (.invalidContinuation
    "continuation offset exceeds authorized deterministic candidate order")
  let reached := selectOptional library tokenizer request mandatory.prepared authorizedCandidates
    prior.nextOffset prior.nextOffset ⟨mandatory.selected, fit, prepared.omissions, 0⟩
    (ordered.drop prior.nextOffset)
  let continuation ← compiler.issueContinuation library request prior reached.1.fit reached.2
    ordered.length
  let final ← fitError "final ContextPack does not fit: "
    (finalFit library tokenizer request reached.1 authorizedCandidates continuation)
  publish library final

def compile (request : CompileRequest) (provider : ContextProvider)
    (tokenizer : TokenCounter) : Result CompiledContext := do
  checkBinding request provider tokenizer
  let prior ← compiler.priorState library request
  let materialized ← materializePolicyFirst library.blake3 request provider
  let prepared ← candidatesFor library tokenizer request materialized
  compiler.compilePrepared library tokenizer request prior materialized.authorizedCandidates prepared

def compileRecall (request : CompileRequest) (recalled : DeterministicRecallResult)
    (binding : RecallContextBinding)
    (provider : ContextProvider) (tokenizer : TokenCounter) : Result CompiledContext := do
  ensure (recalled.trace.filterDigest == request.filterDigest)
    (.authorization "recall and ContextPack policy filter digests differ")
  let bound ← RecallBoundProvider.new provider recalled binding
  compiler.compile library request bound.toProvider tokenizer

end ContextCompiler

/-! ### A small desk

An assistant at a desk compiles a pack under budgets no example comes near, so neither the
length of a text nor that of a message matters: texts and messages are as short as can be.
Of the hash, the digest that names the unknown for the facet "color" is the real one. -/

def deskLibraries : Libraries where
  toJson _ := .ok "\x7b\x7d"
  encodeToVec _ := [0]
  blake3 bytes :=
    if bytes = bytesOf "color" then
      #v[0xca, 0x86, 0x4f, 0x5f, 0xe8, 0xf0, 0x08, 0xd0, 0xc8, 0xe9, 0xfd, 0xfd, 0x71, 0xfb,
      0x9f, 0xc4, 0x24, 0xf5, 0xb5, 0xd6, 0x46, 0x9d, 0x70, 0x08, 0xc4, 0x79, 0xb8, 0x80, 0x1b, 0xde, 0xf4, 0x22]
    else Vector.replicate 32 0
  keyedHash _ _ := Vector.replicate 32 0

def deskTokenizer : TokenCounter where
  id := "one-token"
  countTokens _ := .ok 1

def deskKey : Digest := Vector.replicate 32 7

def deskCompiler : ContextCompiler where
  continuationKey := deskKey
  nonZero := by decide

def deskSnapshot : ProviderSnapshot where
  databaseId := "db"
  commitSeq := 1
  watermarks := ⟨1, 1, 1, ∅, 1, ∅⟩

def deskScopes : BTreeSet String := (∅ : BTreeSet String).insert "desk"

def deskPrincipal : RecallPrincipal where
  subject := "assistant"
  audiences := ∅
  workspace := "lab"
  scopes := deskScopes
  purpose := "conversation"
  clearance := .internal

def deskBudgets : ContextBudgets where
  hardTokens := 1000000
  softTokens := 1000000
  maxBlocks := 1000
  maxEvidenceBlocks := 1000
  maxRawEvidenceTokens := 1000000
  maxHistoryTokens := 1000000
  maxConflictTokens := 1000000
  maxSerializedBytes := 100000000
  maxSelectionEvaluations := 1000

def deskProfile : ModelProfile where
  id := "profile"
  family := "family"
  tokenizerId := "one-token"
  renderer := .compact
  maxContextTokens := 2000000
  reservedOutputTokens := 1000
  preferredStructuredFormat := .compactText
  supportsToolResults := false
  supportsNativeCitations := false
  supportsPromptCaching := false
  positionProfile := .balanced
  instructionHierarchy := .separatedChannels
  maxSchemaComplexity := 1
  externalProcessing := false

def deskRequest (requiredFacets : List PackFacetRequirement) : CompileRequest where
  packId := .numbered 1
  snapshot := deskSnapshot
  principal := deskPrincipal
  filterDigest := "filter"
  purpose := .conversation
  scopes := deskScopes
  temporalView := .current
  requiredFacets
  budgets := deskBudgets
  modelProfile := deskProfile
  explicitMemoryRequest := false
  requirePrimaryEvidence := false
  continuation := none

def deskAccess : AccessRule where
  workspace := "lab"
  scopes := ∅
  owners := (∅ : BTreeSet String).insert "assistant"
  audiencePurposeGrants :=
    (∅ : BTreeMap String (BTreeSet String)).insert "*" ((∅ : BTreeSet String).insert "*")
  sensitivity := .internal
  requiredCompartments := ∅
  consent := .granted
  retrievable := true

def deskUse : CandidateUsePolicy := ⟨.allow, .allow, .allow, .mayMention⟩

def deskCandidate (name : String) (kind : PackBlockKind) (facets : List String)
    (confidenceMicros : UInt32) (utilityMicros : Nat) : PackCandidate where
  id := .named name
  kind
  exactFragments := []
  memoryRefs := []
  claimIds := ∅
  evidenceHandles := ∅
  facets := (∅ : BTreeSet String).insertMany facets
  scopes := deskScopes
  validTime := none
  knownAtCommit := 1
  perspective := none
  epistemic := ⟨.actorAssertion, .accepted, .none, .active⟩
  confidenceMicros
  trust := .trustedSource
  instructionCapability := .none
  sourceClass := .userStatement
  taints := []
  interpretation := .factualData
  support := .supported
  conflict := none
  unknown := none
  representations := [⟨.summary, "text", ∅, ∅⟩]
  utilityMicros
  mandatory := false

def deskEntry (candidate : PackCandidate) : ProviderCandidate := ⟨deskAccess, deskUse, candidate⟩

def deskProvider (candidates : List PackCandidate) : ContextProvider :=
  match InMemoryContextProvider.new deskSnapshot (candidates.map deskEntry) [] with
  | .ok provider => provider.toProvider
  | .error error => ⟨.error error, .error error, fun _ => .error error, fun _ => .error error, fun _ => .error error⟩

end ContextDb.Context
