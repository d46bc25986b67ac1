import ContextDb.Core.Provenance

/-! The mandatory policy envelope of semantic revisions and the check that an
automatically derived envelope does not broaden its source. -/

set_option autoImplicit false

namespace ContextDb.Core

open Lib Std BTreeSet

inductive ScopeKind
  | workspace | memorySpace | subject | relationship | project | repository | organisation | team
  | session | task | place | timeRegion | securityCompartment | domain
  | other (label : String)
deriving DecidableEq

inductive ScopeInheritance
  | exact | descendants
deriving DecidableEq

structure ScopeRef where
  kind : ScopeKind
  id : ScopeId
  inheritance : ScopeInheritance
deriving DecidableEq

def ScopeRef.validate (scope : ScopeRef) : ValidationResult :=
  match scope.kind with
  | .other label => validateNonBlank label "scope.kind"
  | _ => .ok ()

inductive EpistemicRole
  | experiencer | witness | asserter | interpreter | verifier | externalReporter | fictionalNarrator
  | other (label : String)
deriving DecidableEq

structure Perspective where
  knower : MemorySubjectId
  experiencer : Option MemorySubjectId
  narrator : ActorId
  role : EpistemicRole
deriving DecidableEq

def Perspective.validate (perspective : Perspective) : ValidationResult :=
  match perspective.role with
  | .other label => validateNonBlank label "perspective.role"
  | _ => .ok ()

inductive Purpose
  | conversation | personalisation | taskExecution | knowledgeRecall | safety | audit | export
  | migration
  | userSpecified (label : String)
deriving DecidableEq

namespace Purpose

/-- Purposes are ordered by declaration, user-specified ones by their label. -/
def position : Purpose → Nat
  | .conversation => 0
  | .personalisation => 1
  | .taskExecution => 2
  | .knowledgeRecall => 3
  | .safety => 4
  | .audit => 5
  | .export => 6
  | .migration => 7
  | .userSpecified _ => 8

def label : Purpose → String
  | .userSpecified label => label
  | _ => ""

instance : Ord Purpose := ⟨compareLex (compareOn position) (compareOn label)⟩

instance : TransOrd Purpose :=
  inferInstanceAs (TransCmp (compareLex (compareOn position) (compareOn label)))

instance : LawfulEqOrd Purpose where
  eq_of_compare := by
    intro left right equal
    obtain ⟨samePosition, sameLabel⟩ := Ordering.then_eq_eq.mp equal
    have position : left.position = right.position :=
      (Std.compare_eq_iff_eq (a := left.position) (b := right.position)).mp samePosition
    have label : left.label = right.label :=
      (Std.compare_eq_iff_eq (a := left.label) (b := right.label)).mp sameLabel
    cases left <;> cases right <;> simp_all [Purpose.position, Purpose.label]

def validate : Purpose → ValidationResult
  | .userSpecified label => validateNonBlank label "purpose"
  | _ => .ok ()

end Purpose

inductive Audience
  | «public»
  | owner
  | subject (id : MemorySubjectId)
  | group (id : MemorySubjectId)
  | memorySpace (id : MemorySpaceId)
deriving DecidableEq

def Audience.covers (audience narrower : Audience) : Bool :=
  audience == .public || audience == narrower

inductive AccessCapability
  | retrieve | influenceResponse | mention | export | derive | modify
deriving DecidableEq

namespace AccessCapability

def position : AccessCapability → Nat
  | .retrieve => 0
  | .influenceResponse => 1
  | .mention => 2
  | .export => 3
  | .derive => 4
  | .modify => 5

instance : Ord AccessCapability := ⟨compareOn position⟩

instance : TransOrd AccessCapability := inferInstanceAs (TransCmp (compareOn position))

instance : LawfulEqOrd AccessCapability :=
  lawfulEqCmp_compareOn position (by intro left right; cases left <;> cases right <;> simp [position])

end AccessCapability

structure AudienceGrant where
  audience : Audience
  purposes : BTreeSet Purpose
  capabilities : BTreeSet AccessCapability
deriving DecidableEq

def AudienceGrant.validate (grant : AudienceGrant) : ValidationResult := do
  ensure (!grant.purposes.isEmpty) (.emptyCollection "audience_grant.purposes")
  ensure (!grant.capabilities.isEmpty) (.emptyCollection "audience_grant.capabilities")
  forM grant.purposes.toList Purpose.validate

structure ModificationPolicy where
  (ownersMayModify delegatesMayModify systemMayDerive : Bool)
deriving DecidableEq

structure OwnershipPolicy where
  owners : NonEmptyVec MemorySubjectId
  audienceGrants : List AudienceGrant
  allowedPurposes : BTreeSet Purpose
  modification : ModificationPolicy
deriving DecidableEq

def OwnershipPolicy.validate (policy : OwnershipPolicy) : ValidationResult := do
  ensureDistinct policy.owners.toList "ownership.owners"
  ensure (!policy.allowedPurposes.isEmpty) (.emptyCollection "ownership.allowed_purposes")
  forM policy.allowedPurposes.toList Purpose.validate
  forM policy.audienceGrants fun grant => do
    grant.validate
    ensure (isSubset grant.purposes policy.allowedPurposes) (.invalidState "grant purpose is not allowed by ownership policy")

inductive MemoryClass
  | rawExperience | personalFact | relationship | sensitive | procedural | operational | artifact
  | other (label : String)
deriving DecidableEq

/-- Explicit consent state. Unknown never means granted. -/
inductive ConsentStatus
  | denied | unknown | granted
deriving DecidableEq

def ConsentStatus.rank : ConsentStatus → Nat
  | .denied => 0
  | .unknown => 1
  | .granted => 2

structure ConsentState where
  subject : MemorySubjectId
  memoryClass : MemoryClass
  status : ConsentStatus
  validTime : TimeRange
deriving DecidableEq

def ConsentState.validate (decision : ConsentState) : ValidationResult := do
  match decision.memoryClass with
  | .other label => validateNonBlank label "consent.memory_class"
  | _ => .ok ()
  decision.validTime.validate

structure ConsentPolicy where
  required : Bool
  decisions : List ConsentState
deriving DecidableEq

def ConsentPolicy.validate (policy : ConsentPolicy) : ValidationResult := do
  ensure (!(policy.required && policy.decisions.isEmpty)) (.emptyCollection "consent.decisions")
  forM policy.decisions ConsentState.validate

inductive PolicyDecision
  | deny | conditional | allow
deriving DecidableEq

def PolicyDecision.rank : PolicyDecision → Nat
  | .deny => 0
  | .conditional => 1
  | .allow => 2

inductive RetentionPolicy
  | ephemeral | session
  | duration (microseconds : Nat)
  | indefinite
deriving DecidableEq

def RetentionPolicy.permitsAtMost : RetentionPolicy → RetentionPolicy → Bool
  | _, .indefinite => true
  | .ephemeral, _ => true
  | .session, .session => true
  | .session, .duration _ => true
  | .duration derived, .duration original => derived ≤ original
  | left, right => left == right

structure MemoryUsePolicy where
  (retrieve influenceResponse mentionExplicitly externalModelUse : PolicyDecision)
  retention : RetentionPolicy
deriving DecidableEq

inductive SecurityClassification
  | «public»
  | internal | confidential | restricted
deriving DecidableEq

def SecurityClassification.rank : SecurityClassification → Nat
  | .public => 0
  | .internal => 1
  | .confidential => 2
  | .restricted => 3

structure SecurityPolicy where
  classification : SecurityClassification
  labels : BTreeSet String
  requiredCompartments : BTreeSet ScopeId
  allowExternalProcessing : Bool
deriving DecidableEq

def SecurityPolicy.validate (policy : SecurityPolicy) : ValidationResult :=
  forM policy.labels.toList fun label => validateNonBlank label "security.label"

structure SemanticEnvelope where
  scopes : NonEmptyVec ScopeRef
  perspective : Perspective
  ownership : OwnershipPolicy
  consent : ConsentPolicy
  usePolicy : MemoryUsePolicy
  security : SecurityPolicy
  derivation : DerivationRef
deriving DecidableEq

def SemanticEnvelope.validate (envelope : SemanticEnvelope) : ValidationResult := do
  forM envelope.scopes.toList ScopeRef.validate
  envelope.perspective.validate
  envelope.ownership.validate
  envelope.consent.validate
  envelope.security.validate
  envelope.derivation.validate

def SemanticEnvelope.validateForTarget (envelope : SemanticEnvelope) (target : LineageNode) : ValidationResult := do
  envelope.validate
  envelope.derivation.validateFor target

def modificationIsBroader (derived source : ModificationPolicy) : Bool :=
  (derived.ownersMayModify && !source.ownersMayModify) || (derived.delegatesMayModify && !source.delegatesMayModify) ||
    (derived.systemMayDerive && !source.systemMayDerive)

/-- The most permissive of the listed statuses, as an option over their ranks. -/
def maxStatus : List ConsentStatus → Option Nat
  | [] => none
  | status :: rest => some ((maxStatus rest).elim status.rank (max status.rank))

def validateConsentDerivation (derived source : ConsentPolicy) : ValidationResult := do
  ensure (!(source.required && !derived.required)) (.policyWeakening "derived memory removed consent requirement")
  forM derived.decisions fun decision =>
    -- Only source decisions about the same subject and memory class are compared.
    let sourceStatus := maxStatus ((source.decisions.filter fun item =>
      item.subject == decision.subject && item.memoryClass == decision.memoryClass).map (·.status))
    ensure (sourceStatus.any (decision.status.rank ≤ ·)) (.policyWeakening "derived memory broadened consent")

def AudienceGrant.coveredBy (derived source : AudienceGrant) : Bool :=
  source.audience.covers derived.audience && isSubset derived.purposes source.purposes &&
    isSubset derived.capabilities source.capabilities

def MemoryUsePolicy.isBroader (derived source : MemoryUsePolicy) : Bool :=
  source.retrieve.rank < derived.retrieve.rank || source.influenceResponse.rank < derived.influenceResponse.rank ||
    source.mentionExplicitly.rank < derived.mentionExplicitly.rank ||
    source.externalModelUse.rank < derived.externalModelUse.rank || !derived.retention.permitsAtMost source.retention

def SecurityPolicy.isWeaker (derived source : SecurityPolicy) : Bool :=
  derived.classification.rank < source.classification.rank || !isSubset source.labels derived.labels ||
    !isSubset source.requiredCompartments derived.requiredCompartments ||
    (derived.allowExternalProcessing && !source.allowExternalProcessing)

/-- Reject an automatic derived envelope that broadens access, purpose, use,
retention, consent or security relative to its source. -/
def SemanticEnvelope.validateDerivedFrom (derived source : SemanticEnvelope) : ValidationResult := do
  derived.validate
  source.validate
  ensure (derived.scopes.toList.all (source.scopes.toList.contains ·))
    (.policyWeakening "derived scope is not constrained by the source")
  ensure (derived.ownership.owners.toList.all (source.ownership.owners.toList.contains ·) &&
      source.ownership.owners.toList.all (derived.ownership.owners.toList.contains ·))
    (.policyWeakening "derived ownership differs from source ownership")
  ensure (isSubset derived.ownership.allowedPurposes source.ownership.allowedPurposes)
    (.policyWeakening "derived purpose set is broader")
  ensure (!modificationIsBroader derived.ownership.modification source.ownership.modification)
    (.policyWeakening "derived modification permissions are broader")
  forM derived.ownership.audienceGrants fun derivedGrant =>
    ensure (source.ownership.audienceGrants.any derivedGrant.coveredBy)
      (.policyWeakening "derived audience grant is broader")
  ensure (!derived.usePolicy.isBroader source.usePolicy) (.policyWeakening "derived memory-use policy is broader")
  ensure (!derived.security.isWeaker source.security) (.policyWeakening "derived security policy is weaker")
  validateConsentDerivation derived.consent source.consent

end ContextDb.Core
