import ContextDb.Reference.Model
import ContextDb.Core.PolicyProperties

/-! Translation of a canonical policy envelope into an access label. -/

set_option autoImplicit false

namespace ContextDb.Reference

open Lib Std ContextDb.Core List Principal BTreeMap StableId ExtTreeSet BTreeSet

def audienceKey : Audience → String
  | .public => "*"
  | .owner => "@owner"
  | .subject id => id.display
  | .group id => "group:" ++ id.display
  | .memorySpace id => "space:" ++ id.display

def purpose : Purpose → String
  | .conversation => "conversation"
  | .personalisation => "personalisation"
  | .taskExecution => "task_execution"
  | .knowledgeRecall => "knowledge_recall"
  | .safety => "safety"
  | .audit => "audit"
  | .export => "export"
  | .migration => "migration"
  | .userSpecified label => "user:" ++ label

def consent (envelope : SemanticEnvelope) : Consent :=
  if !envelope.consent.required then
    .granted
  else if envelope.consent.decisions.any (·.status == .denied) then
    .denied
  else if !envelope.consent.decisions.isEmpty && envelope.consent.decisions.all
    (·.status == .granted) then
    .granted
  else
    .unknown

def retrieveGrants (envelope : SemanticEnvelope) : List AudienceGrant :=
  envelope.ownership.audienceGrants.filter (·.capabilities.contains .retrieve)

def audiencePurposeGrants (grants : List AudienceGrant) : BTreeMap LogicalId (BTreeSet String) :=
  grants.foldl (fun map grant =>
    updateEntry map (audienceKey grant.audience) ∅ (·.insertMany
      (grant.purposes.toList.map purpose))) ∅

def sensitivity : SecurityClassification → Sensitivity
  | .public => .public
  | .internal => .internal
  | .confidential => .private
  | .restricted => .restricted

def accessLabel (workspace : String) (envelope : SemanticEnvelope) : AccessLabel where
  workspace
  scopes := .ofList (envelope.scopes.toList.map (·.id.display))
  owners := .ofList (envelope.ownership.owners.toList.map (·.display))
  audience := .ofList ((retrieveGrants envelope).map (audienceKey ·.audience))
  audiencePurposeGrants := audiencePurposeGrants (retrieveGrants envelope)
  purposes := .ofList (envelope.ownership.allowedPurposes.toList.map purpose)
  sensitivity := sensitivity envelope.security.classification
  consent := consent envelope
  retrievable := envelope.usePolicy.retrieve == .allow

/-! Derivation against authorization. The derivation check compares envelopes; the
gate reads labels flattened from them, with a separate branch for labels without
retrieval grants. The results below say exactly when an accepted derivation is
readable by no one who could not read its source. -/

/-- The leading characters separate user-specified purposes from the built-in ones. -/
private def purposeTag (text : String) : List Char :=
  text.toList.take 5

private theorem purposeTag_user (label : String) : purposeTag
    ("user:" ++ label) = ['u', 's', 'e', 'r', ':'] := by
  simp only [purposeTag, String.toList_append]
  rfl

theorem purpose_injective {left right : Purpose} (equal : purpose left = purpose right) :
    left = right := by
  cases left with
  | userSpecified leftLabel =>
    cases right with
    | userSpecified rightLabel =>
      simp only [purpose, String.append_right_inj] at equal
      rw [equal]
    | _ => exact absurd ((purposeTag_user leftLabel).symm.trans (congrArg purposeTag equal)) (by decide)
  | _ =>
    cases right with
    | userSpecified rightLabel =>
      exact absurd ((congrArg purposeTag equal).trans (purposeTag_user rightLabel)) (by decide)
    | _ => first | rfl | exact absurd equal (by decide)

private theorem head_group (text : String) : ("group:" ++ text).toList.head? = some 'g' := by
  rw [String.toList_append]
  rfl

private theorem head_space (text : String) : ("space:" ++ text).toList.head? = some 's' := by
  rw [String.toList_append]
  rfl

variable {audience : Audience}

theorem audienceKey_eq_star (key : audienceKey audience = "*") : audience = .public := by
  cases audience with
  | «public» => rfl
  | owner => exact absurd key (by decide)
  | subject id =>
    have star : '*' ∈ "*".toList := by decide
    exact absurd key (display_ne star (by decide) (by decide))
  | group id =>
    exact absurd ((head_group _).symm.trans (congrArg (·.toList.head?) key)) (by decide)
  | memorySpace id =>
    exact absurd ((head_space _).symm.trans (congrArg (·.toList.head?) key)) (by decide)

theorem audienceKey_eq_owner (key : audienceKey audience = "@owner") : audience = .owner := by
  cases audience with
  | «public» => exact absurd key (by decide)
  | owner => rfl
  | subject id =>
    have sign : '@' ∈ "@owner".toList := by decide
    exact absurd key (display_ne sign (by decide) (by decide))
  | group id =>
    exact absurd ((head_group _).symm.trans (congrArg (·.toList.head?) key)) (by decide)
  | memorySpace id =>
    exact absurd ((head_space _).symm.trans (congrArg (·.toList.head?) key)) (by decide)

theorem audienceKey_eq_display {id : MemorySubjectId} (key : audienceKey audience = id.display) :
    audience = .subject id := by
  have prefixed : ∀ text suffix : String, ':' ∈ text.toList → text ++ suffix ≠ id.display := by
    intro text suffix colon same
    have member : ':' ∈ (text ++ suffix).toList := by
      rw [String.toList_append]
      exact mem_append_left _ colon
    exact display_ne member (by decide) (by decide) same.symm
  cases audience with
  | «public» =>
    have star : '*' ∈ "*".toList := by decide
    exact absurd key.symm (display_ne star (by decide) (by decide))
  | owner =>
    have sign : '@' ∈ "@owner".toList := by decide
    exact absurd key.symm (display_ne sign (by decide) (by decide))
  | subject other => rw [display_injective key]
  | group other => exact absurd key (prefixed "group:" _ (by decide))
  | memorySpace other => exact absurd key (prefixed "space:" _ (by decide))

variable {text : String}

def Granted (grants : List AudienceGrant) (key purposeText : String) : Prop :=
  ∃ grant ∈ grants, audienceKey grant.audience = key ∧ ∃ allowed ∈ grant.purposes, purpose allowed =
    purposeText

private theorem any_updateEntry {map : BTreeMap LogicalId (BTreeSet String)} {key other : LogicalId}
    {texts : List String} : ((updateEntry map key ∅ (·.insertMany texts))[other]?.any
      (·.contains text)) = true ↔
      (map[other]?.any (·.contains text)) = true ∨ (key = other ∧ text ∈ texts) := by
  rw [getElem?_updateEntry]
  by_cases same : key = other
  · subst other
    cases found : map[key]? with
    | none => simp [contains_insertMany_list]
    | some set => simp [contains_insertMany_list]
  · simp [same]

variable {grants : List AudienceGrant}

theorem audiencePurposeGrants_any {key : String} :
    (audiencePurposeGrants grants)[key]?.any (·.contains text) = true ↔
      Granted grants key text := by
  -- The accumulated map always answers for the grants folded so far.
  have folded : ∀ (grants : List AudienceGrant) (map : BTreeMap LogicalId (BTreeSet String)),
      (grants.foldl (fun map grant => updateEntry map (audienceKey grant.audience) ∅
        (·.insertMany (grant.purposes.toList.map purpose))) map)[key]?.any
          (·.contains text) = true ↔
      map[key]?.any (·.contains text) = true ∨ Granted grants key text := by
    intro grants
    induction grants with
    | nil => intro map; simp [Granted]
    | cons grant rest ih =>
      intro map
      rw [foldl_cons, ih, any_updateEntry, or_assoc]
      refine or_congr_right ?_
      simp [Granted]
  rw [audiencePurposeGrants, folded]
  simp

theorem audiencePurposeGrants_isEmpty : (audiencePurposeGrants grants).isEmpty =
    grants.isEmpty := by
  have grown : ∀ (grants : List AudienceGrant) (map : BTreeMap LogicalId (BTreeSet String)),
      (grants.foldl (fun map grant => updateEntry map (audienceKey grant.audience) ∅
        (·.insertMany (grant.purposes.toList.map purpose))) map).isEmpty = (map.isEmpty &&
          grants.isEmpty) := by
    intro grants
    induction grants with
    | nil => intro map; simp
    | cons grant rest ih => intro map; rw [foldl_cons, ih]; simp [updateEntry]
  rw [audiencePurposeGrants, grown]
  simp

section

variable {envelope derived source : SemanticEnvelope}

def IsOwner (principal : Principal) (envelope : SemanticEnvelope) : Prop :=
  ∃ owner ∈ envelope.ownership.owners.toList, owner.display = principal.subject

variable {principal : Principal} {workspace key : String}

theorem accessLabel_owner_iff : (accessLabel workspace envelope).owners.contains principal.subject =
    true ↔ IsOwner principal envelope := by
  simp [accessLabel, IsOwner]

/-- The audience decision of the gate, in terms of the envelope. Without retrieval
grants the owners are admitted for every allowed purpose. -/
def AudienceAdmits (principal : Principal) (envelope : SemanticEnvelope) : Prop :=
  if retrieveGrants envelope = [] then
    IsOwner principal envelope ∧ ∃ allowed ∈ envelope.ownership.allowedPurposes, purpose allowed =
      principal.purpose
  else
    ∃ key ∈ principal.audienceKeys
      ((accessLabel principal.workspace envelope).owners.contains principal.subject),
      Granted (retrieveGrants envelope) key principal.purpose

theorem hasAudienceGrant_accessLabel_iff (valid : envelope.Valid) :
    principal.hasAudienceGrant (accessLabel workspace envelope) = true ↔
      AudienceAdmits principal envelope := by
  have noGrants : (accessLabel workspace envelope).audiencePurposeGrants.isEmpty =
      (retrieveGrants envelope).isEmpty := audiencePurposeGrants_isEmpty
  have purposes : principal.purposeAdmitted (accessLabel workspace envelope) = true ↔
      ∃ allowed ∈ envelope.ownership.allowedPurposes, purpose allowed = principal.purpose := by
    obtain ⟨some, member⟩ := valid.somePurpose
    have occupied : (accessLabel workspace envelope).purposes.isEmpty = false := by
      have listed : (purpose some) ∈ (accessLabel workspace envelope).purposes := by
        simp only [accessLabel, mem_ofList, List.contains_iff_mem, List.mem_map]
        exact ⟨some, by simpa using member, rfl⟩
      exact isEmpty_eq_false_iff_exists_mem.mpr ⟨_, listed⟩
    simp only [purposeAdmitted, occupied, Bool.false_or]
    simp [accessLabel]
  simp only [Principal.hasAudienceGrant, AudienceAdmits, noGrants, List.isEmpty_iff]
  split
  · rename_i vacant
    have noAudience : ∀ key, (accessLabel workspace envelope).audience.contains key = false := by
      intro key
      simp [accessLabel, vacant]
    simp only [noAudience, Bool.or_self, Bool.false_and, Bool.false_or, Bool.and_eq_true, purposes,
      accessLabel_owner_iff]
  · simp only [any_eq_true]
    refine exists_congr fun key => and_congr Iff.rfl ?_
    exact audiencePurposeGrants_any

theorem hasScope_accessLabel_iff : principal.hasScope (accessLabel workspace envelope) = true ↔
      ∃ scope ∈ envelope.scopes.toList, scope.id.display ∈ principal.scopes := by
  obtain ⟨scope, member⟩ := envelope.scopes.exists_mem
  have occupied : (accessLabel workspace envelope).scopes.isEmpty = false := by
    have listed : scope.id.display ∈ (accessLabel workspace envelope).scopes := by
      simp only [accessLabel, mem_ofList, List.contains_iff_mem, List.mem_map]
      exact ⟨scope, member, rfl⟩
    exact isEmpty_eq_false_iff_exists_mem.mpr ⟨_, listed⟩
  simp only [hasScope, occupied, Bool.false_or, anyElement_iff]
  simp [accessLabel]

theorem allows_accessLabel_iff (valid : envelope.Valid) :
    principal.allows (accessLabel workspace envelope) = true ↔
      workspace = principal.workspace ∧ consent envelope = .granted ∧
        envelope.usePolicy.retrieve = .allow ∧
        (sensitivity envelope.security.classification).rank ≤ principal.clearance.rank ∧
        AudienceAdmits principal envelope ∧
          ∃ scope ∈ envelope.scopes.toList, scope.id.display ∈ principal.scopes := by
  rw [allows_iff, hasAudienceGrant_accessLabel_iff valid, hasScope_accessLabel_iff]
  simp [accessLabel]

def ConsentGranted (policy : ConsentPolicy) : Prop :=
  policy.required = true → policy.decisions ≠ [] ∧ ∀ decision ∈ policy.decisions, decision.status =
    .granted

theorem consent_eq_granted_iff : consent envelope = .granted ↔ ConsentGranted envelope.consent := by
  simp only [consent, ConsentGranted]
  cases required : envelope.consent.required with
  | false => simp
  | true =>
    simp only [Bool.not_true, Bool.false_eq_true, ↓reduceIte, forall_const]
    split
    · rename_i denied
      obtain ⟨decision, member, status⟩ := any_eq_true.mp denied
      simp only [reduceCtorEq, false_iff, not_and, not_forall]
      intro _
      exact ⟨decision, member, by simp_all⟩
    · split
      · rename_i granted
        simpa [List.isEmpty_iff] using granted
      · rename_i missing
        simpa [List.isEmpty_iff] using missing

def Readable (envelope : SemanticEnvelope) : Prop :=
  envelope.usePolicy.retrieve = .allow ∧ ConsentGranted envelope.consent

/-- The source grants every owner, by name or collectively, every purpose that the
derived envelope allows. -/
def OwnersCovered (derived source : SemanticEnvelope) : Prop :=
  ∀ owner ∈ source.ownership.owners.toList, ∀ allowed ∈ derived.ownership.allowedPurposes,
    ∃ grant ∈ retrieveGrants source,
      (grant.audience = .public ∨ grant.audience = .owner ∨ grant.audience = .subject owner) ∧
        allowed ∈ grant.purposes

/-- The condition under which a derivation keeps access within its source. A
derivation may drop consent decisions, and it may drop every retrieval grant and
thereby hand the decision to the owner branch of the gate. -/
def KeepsAccess (derived source : SemanticEnvelope) : Prop :=
  Readable derived → ConsentGranted source.consent ∧
    (retrieveGrants derived = [] → retrieveGrants source = [] ∨ OwnersCovered derived source)

theorem sensitivity_rank_mono {left right : SecurityClassification}
    (ordered : left.rank ≤ right.rank) : (sensitivity left).rank ≤ (sensitivity right).rank := by
  cases left <;> cases right <;> simp_all [SecurityClassification.rank, sensitivity, Sensitivity.rank]

theorem isOwner_iff_of_derivedFrom (derivation : derived.DerivedFrom source) :
    IsOwner principal derived ↔ IsOwner principal source := by
  simp only [IsOwner, derivation.owners]

/-- A retrieval grant of the derivation stays covered by a retrieval grant of the
source, under the caller's own key or the public one. -/
theorem granted_of_derivedFrom (derivation : derived.DerivedFrom source)
    (granted : Granted (retrieveGrants derived) key text) :
    Granted (retrieveGrants source) key text ∨ Granted (retrieveGrants source) "*" text := by
  obtain ⟨grant, member, rfl, allowed, purposeMember, rfl⟩ := granted
  simp only [retrieveGrants, mem_filter] at member
  obtain ⟨sourceGrant, sourceMember, covers, purposes, capabilities⟩ :=
    derivation.grants grant member.1
  have retrieve : sourceGrant ∈ retrieveGrants source :=
    mem_filter.mpr ⟨sourceMember, capabilities _ member.2⟩
  rcases Audience.covers_iff.mp covers with collective | same
  · exact .inr ⟨sourceGrant, retrieve, by rw [collective]; rfl, allowed, purposes _ purposeMember, rfl⟩
  · exact .inl ⟨sourceGrant, retrieve, by rw [same], allowed, purposes _ purposeMember, rfl⟩

theorem audienceAdmits_of_granted (held : key ∈ principal.audienceKeys
      ((accessLabel principal.workspace envelope).owners.contains principal.subject))
    (granted : Granted (retrieveGrants envelope) key principal.purpose) :
    AudienceAdmits principal envelope := by
  have occupied : retrieveGrants envelope ≠ [] := by
    obtain ⟨grant, member, _⟩ := granted
    exact ne_nil_of_mem member
  simp only [AudienceAdmits, occupied, ↓reduceIte]
  exact ⟨key, held, granted⟩

theorem star_mem_audienceKeys (principal : Principal) (isOwner : Bool) :
    "*" ∈ principal.audienceKeys isOwner := by
  simp [audienceKeys]

section

variable (derivation : derived.DerivedFrom source)
include derivation

/-- Dropping every retrieval grant admits the owners for all derived purposes; a
source that covers its owners admits them as well. -/
theorem audienceAdmits_of_ownersCovered (covered : OwnersCovered derived source)
    (owner : IsOwner principal derived)
    (allowed : ∃ allowed ∈ derived.ownership.allowedPurposes, purpose allowed = principal.purpose) :
    AudienceAdmits principal source := by
  obtain ⟨id, member, display⟩ := (isOwner_iff_of_derivedFrom derivation).mp owner
  obtain ⟨allowed, purposeMember, purposeText⟩ := allowed
  obtain ⟨grant, grantMember, audience, included⟩ := covered id member allowed purposeMember
  have isOwner : (accessLabel principal.workspace source).owners.contains principal.subject =
    true :=
    accessLabel_owner_iff.mpr ⟨id, member, display⟩
  have granted : Granted (retrieveGrants source) (audienceKey grant.audience) principal.purpose :=
    ⟨grant, grantMember, rfl, allowed, included, purposeText⟩
  refine audienceAdmits_of_granted ?_ granted
  rw [isOwner]
  rcases audience with collective | owners | subject
  · rw [collective]
    exact star_mem_audienceKeys principal true
  · rw [owners]
    simp [audienceKey, audienceKeys]
  · rw [subject]
    simp [audienceKey, audienceKeys, display]

theorem audienceAdmits_of_keepsAccess (kept : retrieveGrants derived = [] →
    retrieveGrants source = [] ∨ OwnersCovered derived source)
    (admitted : AudienceAdmits principal derived) : AudienceAdmits principal source := by
  by_cases vacant : retrieveGrants derived = []
  · simp only [AudienceAdmits, vacant, ↓reduceIte] at admitted
    obtain ⟨owner, allowed⟩ := admitted
    rcases kept vacant with sourceVacant | covered
    · simp only [AudienceAdmits, sourceVacant, ↓reduceIte]
      obtain ⟨allowed, member, text⟩ := allowed
      exact ⟨(isOwner_iff_of_derivedFrom derivation).mp owner, allowed,
        derivation.purposes allowed member, text⟩
    · exact audienceAdmits_of_ownersCovered derivation covered owner allowed
  · simp only [AudienceAdmits, vacant, ↓reduceIte] at admitted
    obtain ⟨key, held, granted⟩ := admitted
    have sameOwner : (accessLabel principal.workspace derived).owners.contains principal.subject =
        (accessLabel principal.workspace source).owners.contains principal.subject := by
      rw [Bool.eq_iff_iff, accessLabel_owner_iff, accessLabel_owner_iff]
      exact isOwner_iff_of_derivedFrom derivation
    rcases granted_of_derivedFrom derivation granted with own | collective
    · exact audienceAdmits_of_granted (sameOwner ▸ held) own
    · exact audienceAdmits_of_granted (star_mem_audienceKeys _ _) collective

theorem allows_source_of_keepsAccess (kept : KeepsAccess derived source) {workspace : String}
    (allowed : principal.allows (accessLabel workspace derived) = true) :
    principal.allows (accessLabel workspace source) = true := by
  rw [allows_accessLabel_iff derivation.derivedValid] at allowed
  rw [allows_accessLabel_iff derivation.sourceValid]
  obtain ⟨inWorkspace, granted, retrieve, clearance, audience, scope, scopeMember, held⟩ := allowed
  obtain ⟨consented, audienceKept⟩ := kept ⟨retrieve, consent_eq_granted_iff.mp granted⟩
  refine ⟨inWorkspace, consent_eq_granted_iff.mpr consented, ?_, ?_,
    audienceAdmits_of_keepsAccess derivation audienceKept audience, scope, derivation.scopes scope scopeMember, held⟩
  · have ordered := derivation.retrieve
    rw [retrieve] at ordered
    cases decision : source.usePolicy.retrieve <;> simp_all [PolicyDecision.rank]
  · exact Nat.le_trans (sensitivity_rank_mono derivation.classification) clearance

end

/-- A fully cleared caller with the given subject, audience key and purpose. -/
private def reader (subject : String) (audiences : List String) (scope : ScopeRef)
    (purposeText : String) : Principal where
  subject
  audiences := .ofList audiences
  workspace := ""
  scopes := {scope.id.display}
  purpose := purposeText
  clearance := .restricted

variable {scope : ScopeRef}

private theorem reader_allowed (valid : envelope.Valid) (readable : Readable envelope)
    {subject : String} {audiences : List String} (member : scope ∈ envelope.scopes.toList)
    (admitted : AudienceAdmits (reader subject audiences scope text) envelope) :
    (reader subject audiences scope text).allows (accessLabel "" envelope) = true := by
  rw [allows_accessLabel_iff valid]
  refine ⟨rfl, consent_eq_granted_iff.mpr readable.2, readable.1, ?_, admitted, scope, member, ?_⟩
  · change _ ≤ Sensitivity.restricted.rank
    cases envelope.security.classification <;> decide
  · simp [reader]

variable {allowed : Purpose} {owner : MemorySubjectId}

private theorem ownerReader_allowed (valid : envelope.Valid) (readable : Readable envelope)
    (vacant : retrieveGrants envelope = []) (owned : owner ∈ envelope.ownership.owners.toList)
    (purposeMember : allowed ∈ envelope.ownership.allowedPurposes)
    (member : scope ∈ envelope.scopes.toList) :
    (reader owner.display [] scope (purpose allowed)).allows (accessLabel "" envelope) = true := by
  refine reader_allowed valid readable member ?_
  simp only [AudienceAdmits, vacant, ↓reduceIte]
  exact ⟨⟨owner, owned, rfl⟩, allowed, purposeMember, rfl⟩

private theorem exists_reader (valid : envelope.Valid) (readable : Readable envelope) :
    ∃ principal : Principal, principal.allows (accessLabel "" envelope) = true := by
  obtain ⟨scope, member⟩ := envelope.scopes.exists_mem
  cases grants : retrieveGrants envelope with
  | nil =>
    obtain ⟨owner, owned⟩ := envelope.ownership.owners.exists_mem
    obtain ⟨allowed, purposeMember⟩ := valid.somePurpose
    exact ⟨_, ownerReader_allowed valid readable grants owned purposeMember member⟩
  | cons grant rest =>
    have grantMember : grant ∈ retrieveGrants envelope := by simp [grants]
    obtain ⟨allowed, purposeMember⟩ :=
      valid.grantPurpose grant (mem_of_mem_filter grantMember)
    refine ⟨reader "" [audienceKey grant.audience] scope (purpose allowed),
      reader_allowed valid readable member ?_⟩
    refine audienceAdmits_of_granted (?_ : audienceKey grant.audience ∈ _)
      ⟨grant, grantMember, rfl, allowed, purposeMember, rfl⟩
    simp [audienceKeys, reader]

/-- An owner without further audiences is admitted only through a grant to the
public, to the owners or to that owner. -/
private theorem ownerReader_covered (occupied : retrieveGrants envelope ≠ [])
    (admitted : AudienceAdmits (reader owner.display [] scope (purpose allowed)) envelope) :
    ∃ grant ∈ retrieveGrants envelope,
      (grant.audience = .public ∨ grant.audience = .owner ∨ grant.audience = .subject owner) ∧
        allowed ∈ grant.purposes := by
  simp only [AudienceAdmits, occupied, ↓reduceIte] at admitted
  obtain ⟨key, held, grant, grantMember, keyed, other, purposeMember, text⟩ := admitted
  have same : other = allowed := purpose_injective text
  subst other
  refine ⟨grant, grantMember, ?_, purposeMember⟩
  have keys : key = owner.display ∨ key = "*" ∨ key = "@owner" := by
    have noAudiences : (reader owner.display [] scope (purpose allowed)).audiences.toList =
      [] := rfl
    simp only [audienceKeys, noAudiences, append_nil, mem_cons] at held
    rcases held with subject | star | rest
    · exact .inl subject
    · exact .inr (.inl star)
    · split at rest
      · exact .inr (.inr (mem_singleton.mp rest))
      · exact absurd rest not_mem_nil
  rcases keys with subject | star | owners
  · exact .inr (.inr (audienceKey_eq_display (keyed.trans subject)))
  · exact .inl (audienceKey_eq_star (keyed.trans star))
  · exact .inr (.inl (audienceKey_eq_owner (keyed.trans owners)))

theorem keepsAccess_of_allows (derivation : derived.DerivedFrom source)
    (contained : ∀ principal : Principal, principal.allows (accessLabel "" derived) = true →
      principal.allows (accessLabel "" source) = true) : KeepsAccess derived source := by
  intro readable
  constructor
  · obtain ⟨principal, allowed⟩ := exists_reader derivation.derivedValid readable
    have sourceAllowed := contained principal allowed
    rw [allows_accessLabel_iff derivation.sourceValid] at sourceAllowed
    exact consent_eq_granted_iff.mp sourceAllowed.2.1
  · intro vacant
    by_cases sourceVacant : retrieveGrants source = []
    · exact .inl sourceVacant
    · right
      intro owner owned allowed purposeMember
      obtain ⟨scope, member⟩ := derived.scopes.exists_mem
      have ownedByDerived : owner ∈ derived.ownership.owners.toList :=
        (derivation.owners owner).mpr owned
      have sourceAllowed := contained _
        (ownerReader_allowed derivation.derivedValid readable vacant ownedByDerived purposeMember member)
      rw [allows_accessLabel_iff derivation.sourceValid] at sourceAllowed
      exact ownerReader_covered sourceVacant sourceAllowed.2.2.2.2.1

/-- An accepted derivation keeps every label of the derived envelope within the
labels of its source exactly when it keeps access. -/
theorem derived_label_contained_iff_keepsAccess (accepted : derived.validateDerivedFrom source = .ok
    ()) :
    (∀ (workspace : LogicalId) (principal : Principal), principal.allows
      (accessLabel workspace derived) = true →
        principal.allows (accessLabel workspace source) = true) ↔ KeepsAccess derived source := by
  have derivation := SemanticEnvelope.derivedFrom_of_validateDerivedFrom accepted
  constructor
  · intro contained
    exact keepsAccess_of_allows derivation (contained "")
  · intro kept workspace principal allowed
    exact allows_source_of_keepsAccess derivation kept allowed

end

/-- An audit-only envelope of one owner, with the given consent decisions. -/
private def auditEnvelope (decisions : List ConsentState) : SemanticEnvelope where
  scopes := ⟨[⟨.project, .numbered 1, .exact⟩], by simp⟩
  perspective := ⟨.numbered 2, none, .numbered 3, .asserter⟩
  ownership :=
    { owners := ⟨[.numbered 2], by simp⟩, audienceGrants := [], allowedPurposes := {Purpose.audit}
      modification := ⟨true, false, true⟩ }
  consent := ⟨true, decisions⟩
  usePolicy := ⟨.allow, .allow, .deny, .deny, .session⟩
  security := ⟨.internal, ∅, ∅, false⟩
  derivation := ⟨.numbered 4, .deterministicProjector, none, none, ⟨"p", "1", "1"⟩, []⟩

private def ownerDecision (status : ConsentStatus) : ConsentState :=
  ⟨.numbered 2, .personalFact, status, ⟨0, none⟩⟩

private def grantedDecision : ConsentState :=
  ⟨.numbered 5, .relationship, .granted, ⟨0, none⟩⟩

private def auditOwner : Principal where
  subject := "00000000-0000-0000-0000-000000000002"
  audiences := ∅
  workspace := "w"
  scopes := {"00000000-0000-0000-0000-000000000001"}
  purpose := "audit"
  clearance := .restricted

/-- A derivation that only drops a denied decision is accepted, and readable by an
owner who may not read the source. -/
theorem dropped_denial_broadens_access :
    ¬ ∀ derived source : SemanticEnvelope, derived.validateDerivedFrom source = .ok () →
      ∀ (workspace : LogicalId) (principal : Principal), principal.allows
        (accessLabel workspace derived) = true →
          principal.allows (accessLabel workspace source) = true := by
  intro contained
  have broadened := contained (auditEnvelope [grantedDecision])
    (auditEnvelope [ownerDecision .denied, grantedDecision]) (by decide) "w" auditOwner (by decide)
  exact absurd broadened (by decide)

/-- Dropping a granted decision keeps access, on a readable derivation. -/
theorem dropped_grant_keeps_access : auditOwner.allows (accessLabel "w"
    (auditEnvelope [grantedDecision])) = true ∧
      ∀ (workspace : LogicalId) (principal : Principal),
        principal.allows (accessLabel workspace (auditEnvelope [grantedDecision])) = true →
          principal.allows (accessLabel workspace
            (auditEnvelope [ownerDecision .granted, grantedDecision])) = true := by
  refine ⟨by decide, (derived_label_contained_iff_keepsAccess (by decide)).mpr fun _ => ?_⟩
  exact ⟨fun _ => by decide, fun _ => .inl (by decide)⟩

end ContextDb.Reference
