import ContextDb.Graph.Lookup
import ContextDb.Reference.CoreAdapterProperties

/-! The graph's authorization decision in terms of the envelope it was derived from. The
decision reads every audience grant whatever its capabilities, and an item without memory
spaces restricts no one to a space. -/

set_option autoImplicit false

namespace ContextDb.Graph

open Lib Std ContextDb.Core List ExtTreeSet BTreeSet ReadPrincipal StableId AccessCapability

open ContextDb.Reference (ConsentGranted Readable)

structure Caller where
  subject : MemorySubjectId
  groups : BTreeSet MemorySubjectId
  spaces : BTreeSet MemorySpaceId

def ReadPrincipal.caller (principal : ReadPrincipal) : Caller :=
  ⟨principal.subject, principal.audienceSubjects, principal.memorySpaces⟩

/-- Whether an audience of an item with the given owners includes the caller. -/
def Caller.In (caller : Caller) (owners : List MemorySubjectId) : Audience → Prop
  | .public => True
  | .owner => caller.subject ∈ owners
  | .subject id => id = caller.subject
  | .group id => id ∈ caller.groups
  | .memorySpace id => id ∈ caller.spaces

def Caller.Addressed (caller : Caller) (envelope : SemanticEnvelope) (purpose : Purpose)
    (grant : AudienceGrant) : Prop :=
  purpose ∈ grant.purposes ∧ caller.In envelope.ownership.owners.toList grant.audience

variable {principal : ReadPrincipal} {purpose : Purpose}

theorem group_ne_space (left right : String) : "group:" ++ left ≠ "space:" ++ right := by
  intro equal
  have heads := congrArg (·.toList.head?) equal
  simp only [String.toList_append] at heads
  exact absurd (show some 'g' = some 's' from heads) (by decide)

theorem prefixed_ne_reserved {text suffix reserved : String} (colon : ':' ∈ text.toList)
    (absent : ':' ∉ reserved.toList) : text ++ suffix ≠ reserved := by
  intro equal
  refine absent (equal ▸ ?_)
  rw [String.toList_append]
  exact mem_append_left _ colon

theorem prefixed_ne_display (text suffix : String) (colon : ':' ∈ text.toList)
    (id : MemorySubjectId) : text ++ suffix ≠ id.display := by
  intro equal
  have member : ':' ∈ (text ++ suffix).toList := by
    rw [String.toList_append]
    exact mem_append_left _ colon
  exact StableId.display_ne member (by decide) (by decide) equal.symm

variable {policy : PolicyIndexEntry} {owners : List MemorySubjectId} {audience : Audience}

theorem audienceMatches_audienceKey (owned : ∀ id, policy.owners.contains id = true ↔ id ∈ owners) :
    audienceMatches policy principal (audienceKey audience) = true ↔
      principal.caller.In owners audience := by
  cases audience with
  | «public» => simp [audienceMatches, audienceKey, Caller.In]
  | owner => simpa [audienceMatches, audienceKey, Caller.In, ReadPrincipal.caller] using owned principal.subject
  | subject id =>
    have notPublic : id.display ≠ "public" := by
      have letter : 'p' ∈ "public".toList := by decide
      exact StableId.display_ne letter (by decide) (by decide)
    have notOwner : id.display ≠ "owner" := by
      have letter : 'w' ∈ "owner".toList := by decide
      exact StableId.display_ne letter (by decide) (by decide)
    have notGroup : ∀ text, id.display ≠ "group:" ++ text := fun text equal =>
      prefixed_ne_display "group:" text (by decide) id equal.symm
    have notSpace : ∀ text, id.display ≠ "space:" ++ text := fun text equal =>
      prefixed_ne_display "space:" text (by decide) id equal.symm
    have same : id.display = principal.subject.display ↔ id = principal.subject :=
      ⟨StableId.display_injective, congrArg _⟩
    simp [audienceMatches, audienceKey, Caller.In, ReadPrincipal.caller, notPublic, notOwner,
      notGroup, notSpace, same, anyElement]
  | group id =>
    have notPublic : "group:" ++ id.display ≠ "public" :=
      prefixed_ne_reserved (by decide) (by decide)
    have notOwner : "group:" ++ id.display ≠ "owner" :=
      prefixed_ne_reserved (by decide) (by decide)
    have notSubject : "group:" ++ id.display ≠ principal.subject.display :=
      prefixed_ne_display _ _ (by decide) _
    have same : ∀ other : MemorySubjectId, id.display = other.display ↔ id = other := fun other =>
      ⟨StableId.display_injective, congrArg _⟩
    simp [audienceMatches, audienceKey, Caller.In, ReadPrincipal.caller, notPublic, notOwner,
      notSubject, group_ne_space, String.append_right_inj, same, anyElement]
  | memorySpace id =>
    have notPublic : "space:" ++ id.display ≠ "public" :=
      prefixed_ne_reserved (by decide) (by decide)
    have notOwner : "space:" ++ id.display ≠ "owner" :=
      prefixed_ne_reserved (by decide) (by decide)
    have notSubject : "space:" ++ id.display ≠ principal.subject.display :=
      prefixed_ne_display _ _ (by decide) _
    have notGroup : ∀ text, "space:" ++ id.display ≠ "group:" ++ text := fun text equal =>
      group_ne_space _ _ equal.symm
    have same : ∀ other : MemorySpaceId, id.display = other.display ↔ id = other := fun other =>
      ⟨StableId.display_injective, congrArg _⟩
    simp [audienceMatches, audienceKey, Caller.In, ReadPrincipal.caller, notPublic, notOwner,
      notSubject, notGroup, String.append_right_inj, same, anyElement]

theorem audiencePurposes_any {grants : List AudienceGrant} {key : String} :
    (audiencePurposes grants)[key]?.any (·.contains purpose) = true ↔
      ∃ grant ∈ grants, audienceKey grant.audience = key ∧ purpose ∈ grant.purposes := by
  have folded : ∀ (grants : List AudienceGrant) (map : BTreeMap String (BTreeSet Purpose)),
      (grants.foldl (fun map grant => BTreeMap.updateEntry map (audienceKey grant.audience) ∅
        (·.insertMany grant.purposes.toList)) map)[key]?.any (·.contains purpose) = true ↔
          map[key]?.any (·.contains purpose) = true ∨
        ∃ grant ∈ grants, audienceKey grant.audience = key ∧ purpose ∈ grant.purposes := by
    intro grants
    induction grants with
    | nil => intro map; simp
    | cons grant rest ih =>
      intro map
      rw [foldl_cons, ih, BTreeMap.getElem?_updateEntry]
      by_cases same : audienceKey grant.audience = key
      · subst same
        cases found : map[audienceKey grant.audience]? with
        | none => simp [contains_insertMany_list]
        | some set => simp [contains_insertMany_list, or_assoc]
      · simp [same]
  rw [audiencePurposes, folded]
  simp

variable {caller : Caller} {envelope : SemanticEnvelope} {workspace : WorkspaceId}

def HoldsSpace (envelope : SemanticEnvelope) (spaces : BTreeSet MemorySpaceId) : Prop :=
  itemSpaces envelope = [] ∨ ∃ space ∈ itemSpaces envelope, space ∈ spaces

theorem consentGranted_iff {policy : ConsentPolicy} : consentGranted policy = true ↔
    ConsentGranted policy := by
  unfold consentGranted ConsentGranted
  cases policy.required <;> simp

private theorem meets_ofList {Key : Type} [Ord Key] [TransOrd Key] [LawfulEqOrd Key]
    {items : List Key} {required held : BTreeSet Key} (listed : required = .ofList items) :
    (required.isEmpty || !isDisjoint required held) = true ↔ items = [] ∨
      ∃ item ∈ items, item ∈ held := by
  classical
  subst listed
  simp [isDisjoint]

/-- What a principal admitted to an item of the workspace has passed. -/
structure Admits (workspace : WorkspaceId) (envelope : SemanticEnvelope)
    (principal : ReadPrincipal) : Prop where
  workspace : workspace = principal.workspaceId
  readable : Readable envelope
  clearance : envelope.security.classification.rank ≤ principal.clearance.rank
  compartments : ∀ compartment ∈ envelope.security.requiredCompartments, compartment ∈ principal.compartments
  purpose : principal.purpose ∈ envelope.ownership.allowedPurposes
  scope : ∃ scope ∈ envelope.scopes.toList, scope.id ∈ principal.scopes
  space : HoldsSpace envelope principal.memorySpaces
  grant : ∃ grant ∈ envelope.ownership.audienceGrants, principal.caller.Addressed envelope principal.purpose grant

private theorem grants_any_iff :
    ((audiencePurposes envelope.ownership.audienceGrants).toList.any fun grant =>
      grant.2.contains principal.purpose && audienceMatches
        (buildPolicy workspace envelope) principal grant.1) = true ↔
      ∃ grant ∈ envelope.ownership.audienceGrants, principal.caller.Addressed envelope principal.purpose grant := by
  have owned : ∀ id, (buildPolicy workspace envelope).owners.contains id = true ↔
    id ∈ envelope.ownership.owners.toList := by
    intro id
    simp [buildPolicy]
  simp only [any_eq_true, Bool.and_eq_true]
  constructor
  · rintro ⟨⟨key, purposes⟩, member, contained, matched⟩
    have found := ExtTreeMap.mem_toList_iff_getElem?_eq_some.mp member
    have listed : (audiencePurposes envelope.ownership.audienceGrants)[key]?.any
      (·.contains principal.purpose) = true := by
      rw [found]
      exact contained
    obtain ⟨grant, granted, rfl, purpose⟩ := audiencePurposes_any.mp listed
    exact ⟨grant, granted, purpose, (audienceMatches_audienceKey owned).mp matched⟩
  · rintro ⟨grant, granted, purpose, included⟩
    have listed := audiencePurposes_any.mpr ⟨grant, granted, rfl, purpose⟩
    obtain ⟨purposes, found, contained⟩ := (Option.any_eq_true _ _).mp listed
    exact ⟨(audienceKey grant.audience, purposes),
      ExtTreeMap.mem_toList_iff_getElem?_eq_some.mpr found, contained,
      (audienceMatches_audienceKey owned).mpr included⟩

theorem allows_buildPolicy_iff : allows (buildPolicy workspace envelope) principal = true ↔
    Admits workspace envelope principal := by
  have scopes : ((buildPolicy workspace envelope).scopes.isEmpty ||
      !isDisjoint (buildPolicy workspace envelope).scopes principal.scopes) = true ↔
      ∃ scope ∈ envelope.scopes.toList, scope.id ∈ principal.scopes := by
    obtain ⟨scope, member⟩ := envelope.scopes.exists_mem
    have listed : (buildPolicy workspace envelope).scopes = .ofList
      (envelope.scopes.toList.map (·.id)) := rfl
    rw [meets_ofList listed]
    simp only [map_eq_nil_iff, mem_map]
    constructor
    · rintro (vacant | ⟨_, ⟨scope, member, rfl⟩, held⟩)
      · simp [vacant] at member
      · exact ⟨scope, member, held⟩
    · rintro ⟨scope, member, held⟩
      exact .inr ⟨scope.id, ⟨scope, member, rfl⟩, held⟩
  have spaces : ((buildPolicy workspace envelope).memorySpaces.isEmpty ||
      !isDisjoint (buildPolicy workspace envelope).memorySpaces principal.memorySpaces) = true ↔
      HoldsSpace envelope principal.memorySpaces :=
    meets_ofList rfl
  have retrievable : (buildPolicy workspace envelope).retrievable = true ↔
    envelope.usePolicy.retrieve = .allow := by simp [buildPolicy]
  unfold allows
  simp only [Bool.and_eq_true, scopes, spaces, retrievable, decide_eq_true_eq]
  constructor
  · rintro ⟨⟨⟨⟨⟨⟨⟨⟨inWorkspace, retrieve⟩, consented⟩, cleared⟩, compartments⟩, purpose⟩, scope⟩,
      space⟩, granted⟩
    exact ⟨inWorkspace, ⟨retrieve, consentGranted_iff.mp consented⟩, cleared,
      isSubset_iff.mp compartments, contains_iff_mem.mp purpose, scope, space, grants_any_iff.mp granted⟩
  · intro admitted
    exact ⟨⟨⟨⟨⟨⟨⟨⟨admitted.workspace, admitted.readable.1⟩,
      consentGranted_iff.mpr admitted.readable.2⟩, admitted.clearance⟩, isSubset_iff.mpr admitted.compartments⟩,
      contains_iff_mem.mpr admitted.purpose⟩, admitted.scope⟩, admitted.space⟩, grants_any_iff.mpr admitted.grant⟩

/-- A fully cleared principal of the item's scopes with the given audience attributes. -/
def reader (workspace : WorkspaceId) (envelope : SemanticEnvelope) (caller : Caller)
    (purpose : Purpose) : ReadPrincipal where
  subject := caller.subject
  workspaceId := workspace
  scopes := .ofList (envelope.scopes.toList.map (·.id))
  memorySpaces := caller.spaces
  audienceSubjects := caller.groups
  purpose
  clearance := .restricted
  compartments := envelope.security.requiredCompartments

theorem reader_admitted (valid : envelope.Valid) (readable : Readable envelope)
    {grant : AudienceGrant} (granted : grant ∈ envelope.ownership.audienceGrants)
    (addressed : caller.Addressed envelope purpose grant)
    (space : HoldsSpace envelope caller.spaces) :
    Admits workspace envelope (reader workspace envelope caller purpose) := by
  obtain ⟨scope, member⟩ := envelope.scopes.exists_mem
  refine
    { workspace := rfl
      readable
      clearance := ?_
      compartments := fun _ required => required
      purpose := valid.grantAllowed grant granted purpose addressed.1
      scope := ⟨scope, member, ?_⟩
      space
      grant := ⟨grant, granted, addressed⟩ }
  · cases envelope.security.classification <;> simp [reader, SecurityClassification.rank]
  · classical
    simpa [reader] using ⟨scope, member, rfl⟩

variable {derived source : SemanticEnvelope}

/-- Deriving an item may drop consent decisions, drop its memory spaces, and narrow a
public grant to a memory space the source is not restricted to. Access stays within the
source exactly when this leaves consent granted and the spaces within those of the source. -/
def KeepsGraphAccess (derived source : SemanticEnvelope) : Prop :=
  Readable derived → derived.ownership.audienceGrants ≠ [] → ConsentGranted source.consent ∧
      (itemSpaces source = [] ∨ itemSpaces derived ≠ [] ∧ ∀ space ∈ itemSpaces derived,
        space ∈ itemSpaces source)

theorem requiredCompartments_of_validateDerivedFrom (accepted : derived.validateDerivedFrom source =
    .ok ()) :
    ∀ compartment ∈ source.security.requiredCompartments, compartment ∈ derived.security.requiredCompartments := by
  obtain ⟨_, _, _, _, _, _, _, _, security, _⟩ :=
    SemanticEnvelope.validateDerivedFrom_ok_iff.mp accepted
  simp only [SecurityPolicy.isWeaker, Bool.or_eq_false_iff, Bool.not_eq_false'] at security
  exact isSubset_iff.mp security.1.2

variable {grant : AudienceGrant}

theorem addressed_of_derivedFrom (derivation : derived.DerivedFrom source)
    (granted : grant ∈ derived.ownership.audienceGrants)
    (addressed : caller.Addressed derived purpose grant) :
    ∃ sourceGrant ∈ source.ownership.audienceGrants, caller.Addressed source purpose sourceGrant := by
  obtain ⟨sourceGrant, member, covers, purposes, _⟩ := derivation.grants grant granted
  refine ⟨sourceGrant, member, purposes _ addressed.1, ?_⟩
  rcases Audience.covers_iff.mp covers with collective | same
  · rw [collective]
    trivial
  · have included := addressed.2
    rw [same]
    cases audience : grant.audience with
    | owner =>
      rw [audience] at included
      exact (derivation.owners _).mp included
    | _ =>
      rw [audience] at included
      exact included

theorem admits_source_of_keepsGraphAccess (accepted : derived.validateDerivedFrom source = .ok ())
    (kept : KeepsGraphAccess derived source) (admitted : Admits workspace derived principal) :
    Admits workspace source principal := by
  have derivation := SemanticEnvelope.derivedFrom_of_validateDerivedFrom accepted
  obtain ⟨grant, granted, addressed⟩ := admitted.grant
  obtain ⟨consented, spaces⟩ := kept admitted.readable (ne_nil_of_mem granted)
  obtain ⟨scope, member, held⟩ := admitted.scope
  refine
    { workspace := admitted.workspace
      readable := ⟨?_, consented⟩
      clearance := Nat.le_trans derivation.classification admitted.clearance
      compartments := fun compartment required => admitted.compartments compartment
        (requiredCompartments_of_validateDerivedFrom accepted compartment required)
      purpose := derivation.purposes _ admitted.purpose
      scope := ⟨scope, derivation.scopes scope member, held⟩
      space := ?_
      grant := addressed_of_derivedFrom derivation granted addressed }
  · have ordered := derivation.retrieve
    rw [admitted.readable.1] at ordered
    cases decision : source.usePolicy.retrieve <;> simp_all [PolicyDecision.rank]
  · rcases spaces with unrestricted | ⟨occupied, included⟩
    · exact .inl unrestricted
    · rcases admitted.space with vacant | ⟨space, listed, holds⟩
      · exact absurd vacant occupied
      · exact .inr ⟨space, included space listed, holds⟩

private theorem grantSpace_mem {space : MemorySpaceId}
    (granted : grant ∈ envelope.ownership.audienceGrants)
    (audience : grant.audience = .memorySpace space) : space ∈ itemSpaces envelope := by
  refine mem_append_right _ (mem_filterMap.mpr ⟨grant, granted, ?_⟩)
  rw [audience]

private theorem exists_addressed (envelope : SemanticEnvelope) (listed : purpose ∈ grant.purposes)
    (spaces : BTreeSet MemorySpaceId) (included : ∀ space, grant.audience = .memorySpace space →
      space ∈ spaces) :
    ∃ caller : Caller, caller.spaces = spaces ∧ caller.Addressed envelope purpose grant := by
  obtain ⟨owner, owned⟩ := envelope.ownership.owners.exists_mem
  cases audience : grant.audience with
  | «public» => exact ⟨⟨owner, ∅, spaces⟩, rfl, listed, by rw [audience]; trivial⟩
  | owner => exact ⟨⟨owner, ∅, spaces⟩, rfl, listed, by rw [audience]; exact owned⟩
  | subject id => exact ⟨⟨id, ∅, spaces⟩, rfl, listed, by rw [audience]; rfl⟩
  | group id =>
    refine ⟨⟨owner, {id}, spaces⟩, rfl, listed, ?_⟩
    rw [audience]
    exact mem_insert_self
  | memorySpace id => exact ⟨⟨owner, ∅, spaces⟩, rfl, listed, by rw [audience]; exact included id audience⟩

theorem keepsGraphAccess_of_contained (derivation : derived.DerivedFrom source)
    (contained : ∀ (workspace : WorkspaceId) (principal : ReadPrincipal),
      Admits workspace derived principal →
        Admits workspace source principal) : KeepsGraphAccess derived source := by
  intro readable occupied
  obtain ⟨grant, granted⟩ := exists_mem_of_ne_nil _ occupied
  obtain ⟨purpose, listed⟩ := derivation.derivedValid.grantPurpose grant granted
  let workspace : WorkspaceId := ⟨⟨1⟩, by decide⟩
  -- A reader with the given spaces is admitted to the derivation, hence to the source.
  have admitted : ∀ (grant : AudienceGrant) (purpose : Purpose) (spaces : BTreeSet MemorySpaceId),
      grant ∈ derived.ownership.audienceGrants → purpose ∈ grant.purposes →
      (∀ space, grant.audience = .memorySpace space → space ∈ spaces) →
      HoldsSpace derived spaces → Readable source ∧ HoldsSpace source spaces := by
    intro grant purpose spaces granted listed included holds
    obtain ⟨caller, rfl, addressed⟩ := exists_addressed derived listed spaces included
    have inSource := contained workspace _
      (reader_admitted derivation.derivedValid readable granted addressed holds)
    exact ⟨inSource.readable, inSource.space⟩
  constructor
  · have every := admitted grant purpose (.ofList (itemSpaces derived)) granted listed
      (fun space audience => by
        classical
        simpa using grantSpace_mem granted audience) ?_
    · exact every.1.2
    · cases spaces : itemSpaces derived with
      | nil => exact .inl spaces
      | cons space rest =>
        refine .inr ⟨space, by simp [spaces], ?_⟩
        classical
        simp
  · by_cases restricted : itemSpaces source = []
    · exact .inl restricted
    · refine .inr ⟨?_, ?_⟩
      · intro vacant
        have anywhere := admitted grant purpose ∅ granted listed (fun space audience => by
            have member := grantSpace_mem granted audience
            simp [vacant] at member) (.inl vacant)
        rcases anywhere.2 with none | ⟨space, _, held⟩
        · exact restricted none
        · simp at held
      · intro space member
        rcases mem_append.mp member with fromScope | audience
        · obtain ⟨scope, scopeMember, rfl⟩ := mem_map.mp fromScope
          obtain ⟨scopeMember, kind⟩ := mem_filter.mp scopeMember
          refine mem_append_left _ (mem_map.mpr ⟨scope, ?_, rfl⟩)
          exact mem_filter.mpr ⟨derivation.scopes scope scopeMember, kind⟩
        · obtain ⟨narrowed, narrowedGranted, isSpace⟩ := mem_filterMap.mp audience
          obtain ⟨narrowedPurpose, narrowedListed⟩ :=
            derivation.derivedValid.grantPurpose narrowed narrowedGranted
          have audienceIs : narrowed.audience = .memorySpace space := by
            revert isSpace
            cases narrowed.audience <;> simp
          have holder := admitted narrowed narrowedPurpose {space} narrowedGranted narrowedListed
            (fun other same => by
              rw [audienceIs] at same
              cases same
              exact mem_insert_self) (.inr ⟨space, member, mem_insert_self⟩)
          rcases holder.2 with none | ⟨other, otherListed, held⟩
          · exact absurd none restricted
          · have same : space = other := by simpa using held
            rw [same]
            exact otherListed

/-- An accepted derivation keeps the graph readers of the derived envelope within those of
its source exactly when it keeps graph access. -/
theorem derived_policy_contained_iff_keepsGraphAccess
    (accepted : derived.validateDerivedFrom source = .ok ()) :
    (∀ (workspace : WorkspaceId) (principal : ReadPrincipal),
      allows (buildPolicy workspace derived) principal = true →
        allows (buildPolicy workspace source) principal = true) ↔
          KeepsGraphAccess derived source := by
  simp only [allows_buildPolicy_iff]
  constructor
  · intro contained
    exact keepsGraphAccess_of_contained
      (SemanticEnvelope.derivedFrom_of_validateDerivedFrom accepted) contained
  · intro kept workspace principal admitted
    exact admits_source_of_keepsGraphAccess accepted kept admitted

private def projectScope : ScopeRef := ⟨.project, .numbered 1, .exact⟩

private def spaceScope : ScopeRef := ⟨.memorySpace, .numbered 6, .exact⟩

/-- A note with the given further scopes that everyone may read for audits. -/
private def sharedNote (further : List ScopeRef) : SemanticEnvelope where
  scopes := ⟨projectScope :: further, cons_ne_nil _ _⟩
  perspective := ⟨.numbered 2, none, .numbered 3, .asserter⟩
  ownership :=
    { owners := ⟨[.numbered 2], cons_ne_nil _ _⟩
      audienceGrants := [⟨.public, {Purpose.audit}, {AccessCapability.retrieve}⟩]
      allowedPurposes := {Purpose.audit}, modification := ⟨true, false, true⟩ }
  consent := ⟨false, []⟩
  usePolicy := ⟨.allow, .allow, .deny, .deny, .session⟩
  security := ⟨.internal, ∅, ∅, false⟩
  derivation := ⟨.numbered 4, .deterministicProjector, none, none, ⟨"p", "1", "1"⟩, []⟩

private def noteWorkspace : WorkspaceId := .numbered 7

/-- An auditor of the project that holds no memory space. -/
private def outsideAuditor : ReadPrincipal where
  subject := .numbered 5
  workspaceId := noteWorkspace
  scopes := {projectScope.id}
  memorySpaces := ∅
  audienceSubjects := ∅
  purpose := .audit
  clearance := .internal
  compartments := ∅

/-- A derivation that only drops the memory-space scope is accepted, and readable by a
principal outside the memory space of the source. -/
theorem dropped_space_broadens_access :
    ¬ ∀ derived source : SemanticEnvelope, derived.validateDerivedFrom source = .ok () →
      ∀ (workspace : WorkspaceId) (principal : ReadPrincipal), allows
        (buildPolicy workspace derived) principal = true →
          allows (buildPolicy workspace source) principal = true := by
  intro contained
  have broadened := contained (sharedNote []) (sharedNote [spaceScope]) (by decide) noteWorkspace
    outsideAuditor (by decide)
  exact absurd broadened (by decide)

private def teamScope : ScopeRef := ⟨.team, .numbered 8, .exact⟩

/-- Dropping a scope that is no memory space keeps access, on a readable note. -/
theorem dropped_team_keeps_access : allows (buildPolicy noteWorkspace
    (sharedNote [])) outsideAuditor = true ∧
      ∀ (workspace : WorkspaceId) (principal : ReadPrincipal),
        allows (buildPolicy workspace (sharedNote [])) principal = true →
          allows (buildPolicy workspace (sharedNote [teamScope])) principal = true := by
  refine ⟨by decide, (derived_policy_contained_iff_keepsGraphAccess (by decide)).mpr ?_⟩
  exact fun _ _ => ⟨fun required => by simp [sharedNote] at required, .inl (by decide)⟩

/-! The graph's decision against the correctness oracle. Both project the same envelope;
the oracle counts only grants with the retrieval capability, the graph counts every grant. -/

open ContextDb.Reference (ConsentGranted Readable Principal accessLabel retrieveGrants)

def ReadPrincipal.oracle (principal : ReadPrincipal) : Principal where
  subject := principal.subject.display
  audiences := .ofList (principal.audienceSubjects.toList.map ("group:" ++ ·.display) ++
    principal.memorySpaces.toList.map ("space:" ++ ·.display))
  workspace := principal.workspaceId.display
  scopes := .ofList (principal.scopes.toList.map (·.display))
  purpose := Reference.purpose principal.purpose
  clearance := Reference.sensitivity principal.clearance

theorem mem_audienceKeys_oracle {isOwner : Bool} (owned : isOwner = true ↔
    principal.subject ∈ owners) :
    Reference.audienceKey audience ∈ principal.oracle.audienceKeys isOwner ↔
      principal.caller.In owners audience := by
  have keys : ∀ key, key ∈ principal.oracle.audienceKeys isOwner ↔
      key = principal.subject.display ∨ key = "*" ∨ (isOwner = true ∧ key = "@owner") ∨
        (∃ id ∈ principal.audienceSubjects, "group:" ++ id.display = key) ∨
        ∃ id ∈ principal.memorySpaces, "space:" ++ id.display = key := by
    intro key
    classical
    cases isOwner <;> simp [Principal.audienceKeys, oracle]
  rw [keys]
  cases audience with
  | «public» => simp [Reference.audienceKey, Caller.In]
  | owner =>
    have notSubject : "@owner" ≠ principal.subject.display := by
      have sign : '@' ∈ "@owner".toList := by decide
      exact (display_ne sign (by decide) (by decide)).symm
    have notGroup : ∀ text, "group:" ++ text ≠ "@owner" := fun text =>
      prefixed_ne_reserved (by decide) (by decide)
    have notSpace : ∀ text, "space:" ++ text ≠ "@owner" := fun text =>
      prefixed_ne_reserved (by decide) (by decide)
    simp [Reference.audienceKey, Caller.In, notSubject, notGroup, notSpace, owned, caller]
  | subject id =>
    have notStar : id.display ≠ "*" := by
      have star : '*' ∈ "*".toList := by decide
      exact display_ne star (by decide) (by decide)
    have notOwner : id.display ≠ "@owner" := by
      have sign : '@' ∈ "@owner".toList := by decide
      exact display_ne sign (by decide) (by decide)
    have notGroup : ∀ text, "group:" ++ text ≠ id.display := fun text =>
      prefixed_ne_display "group:" text (by decide) id
    have notSpace : ∀ text, "space:" ++ text ≠ id.display := fun text =>
      prefixed_ne_display "space:" text (by decide) id
    have same : id.display = principal.subject.display ↔ id = principal.subject :=
      ⟨display_injective, congrArg _⟩
    simp [Reference.audienceKey, Caller.In, notStar, notOwner, notGroup, notSpace, same, caller]
  | group id =>
    have notStar : "group:" ++ id.display ≠ "*" := prefixed_ne_reserved (by decide) (by decide)
    have notOwner : "group:" ++ id.display ≠ "@owner" := prefixed_ne_reserved (by decide)
      (by decide)
    have notSubject := prefixed_ne_display "group:" id.display (by decide) principal.subject
    have same : ∀ other : MemorySubjectId, other.display = id.display ↔ other = id := fun other =>
      ⟨display_injective, congrArg _⟩
    have notSpace : ∀ text, "space:" ++ text ≠ "group:" ++ id.display := fun text equal =>
      group_ne_space _ _ equal.symm
    simp [Reference.audienceKey, Caller.In, notStar, notOwner, notSubject, notSpace,
      String.append_right_inj, same, caller]
  | memorySpace id =>
    have notStar : "space:" ++ id.display ≠ "*" := prefixed_ne_reserved (by decide) (by decide)
    have notOwner : "space:" ++ id.display ≠ "@owner" := prefixed_ne_reserved (by decide)
      (by decide)
    have notSubject := prefixed_ne_display "space:" id.display (by decide) principal.subject
    have same : ∀ other : MemorySpaceId, other.display = id.display ↔ other = id := fun other =>
      ⟨display_injective, congrArg _⟩
    simp [Reference.audienceKey, Caller.In, notStar, notOwner, notSubject, group_ne_space,
      String.append_right_inj, same, caller]

theorem isOwner_oracle : Reference.IsOwner principal.oracle envelope ↔
    principal.subject ∈ envelope.ownership.owners.toList := by
  constructor
  · rintro ⟨owner, member, display⟩
    rw [← display_injective (show owner.display = principal.subject.display from display)]
    exact member
  · exact fun member => ⟨principal.subject, member, rfl⟩

theorem audienceAdmits_oracle : Reference.AudienceAdmits principal.oracle envelope ↔
      (∃ grant ∈ retrieveGrants envelope,
        principal.caller.Addressed envelope principal.purpose grant) ∨
      retrieveGrants envelope = [] ∧ principal.subject ∈ envelope.ownership.owners.toList ∧
        principal.purpose ∈ envelope.ownership.allowedPurposes := by
  have purposes : ∀ set : BTreeSet Purpose,
      (∃ allowed ∈ set, Reference.purpose allowed = principal.oracle.purpose) ↔
        principal.purpose ∈ set := by
    intro set
    constructor
    · rintro ⟨allowed, member, same⟩
      rw [← Reference.purpose_injective (show Reference.purpose allowed = _ from same)]
      exact member
    · exact fun member => ⟨_, member, rfl⟩
  unfold Reference.AudienceAdmits
  split
  · rename_i vacant
    simp [vacant, purposes, isOwner_oracle]
  · rename_i occupied
    have owned : (accessLabel principal.oracle.workspace envelope).owners.contains principal.oracle.subject = true ↔
        principal.subject ∈ envelope.ownership.owners.toList :=
      Reference.accessLabel_owner_iff.trans isOwner_oracle
    simp only [occupied, false_and, or_false]
    constructor
    · rintro ⟨key, held, grant, granted, rfl, purpose⟩
      exact ⟨grant, granted, (purposes _).mp purpose, (mem_audienceKeys_oracle owned).mp held⟩
    · rintro ⟨grant, granted, purpose, included⟩
      exact ⟨_, (mem_audienceKeys_oracle owned).mpr included, grant, granted, rfl,
        (purposes _).mpr purpose⟩

/-- Grants without the retrieval capability open the graph to no one whom the oracle would
refuse: every caller such a grant addresses, who holds a memory space of the item if it
has any, is addressed for the same purpose by a retrieval grant, or is an owner of an item
without retrieval grants. -/
def RetrievalCovers (envelope : SemanticEnvelope) : Prop :=
  Readable envelope → ∀ grant ∈ envelope.ownership.audienceGrants, retrieve ∉ grant.capabilities →
    ∀ (caller : Caller) (purpose : Purpose), HoldsSpace envelope caller.spaces →
      caller.Addressed envelope purpose grant →
        (∃ retrieval ∈ retrieveGrants envelope, caller.Addressed envelope purpose retrieval) ∨
          retrieveGrants envelope = [] ∧ caller.subject ∈ envelope.ownership.owners.toList

private theorem sensitivity_rank (classification : SecurityClassification) :
    (Reference.sensitivity classification).rank = classification.rank := by
  cases classification <;> rfl

theorem oracle_allows_iff_of_admits (valid : envelope.Valid)
    (admitted : Admits workspace envelope principal) :
    principal.oracle.allows (accessLabel workspace.display envelope) = true ↔
      Reference.AudienceAdmits principal.oracle envelope := by
  rw [Reference.allows_accessLabel_iff valid]
  constructor
  · exact fun allowed => allowed.2.2.2.2.1
  · intro audience
    obtain ⟨scope, member, held⟩ := admitted.scope
    refine ⟨congrArg _ admitted.workspace,
      Reference.consent_eq_granted_iff.mpr admitted.readable.2, admitted.readable.1, ?_, audience, scope, member, ?_⟩
    · have cleared := admitted.clearance
      simpa [oracle, sensitivity_rank] using cleared
    · classical
      simpa [oracle] using ⟨scope.id, held, rfl⟩

/-- On a valid envelope the oracle grants whatever the graph grants exactly when the
retrieval grants cover the other ones. -/
theorem graph_within_oracle_iff_retrievalCovers (valid : envelope.validate = .ok ()) :
    (∀ (workspace : WorkspaceId) (principal : ReadPrincipal),
      allows (buildPolicy workspace envelope) principal = true →
        principal.oracle.allows (accessLabel workspace.display envelope) = true) ↔
          RetrievalCovers envelope := by
  have valid := SemanticEnvelope.valid_of_validate valid
  constructor
  · intro contained readable grant granted _ caller purpose space addressed
    let workspace : WorkspaceId := ⟨⟨1⟩, by decide⟩
    have admitted : Admits workspace envelope (reader workspace envelope caller purpose) :=
      reader_admitted valid readable granted addressed space
    have allowed := contained workspace _ (allows_buildPolicy_iff.mpr admitted)
    rw [oracle_allows_iff_of_admits valid admitted, audienceAdmits_oracle] at allowed
    rcases allowed with retrieval | ⟨vacant, owner, _⟩
    · exact .inl retrieval
    · exact .inr ⟨vacant, owner⟩
  · intro covers workspace principal allowed
    have admitted := allows_buildPolicy_iff.mp allowed
    rw [oracle_allows_iff_of_admits valid admitted, audienceAdmits_oracle]
    obtain ⟨grant, granted, addressed⟩ := admitted.grant
    by_cases retrieval : retrieve ∈ grant.capabilities
    · refine .inl ⟨grant, List.mem_filter.mpr ⟨granted, ?_⟩, addressed⟩
      exact ExtTreeSet.contains_iff_mem.mpr retrieval
    · rcases covers admitted.readable grant granted retrieval principal.caller principal.purpose
        admitted.space addressed with retrieval | ⟨vacant, owner⟩
      · exact .inl retrieval
      · exact .inr ⟨vacant, owner, admitted.purpose⟩

private def noteOwner : MemorySubjectId := .numbered 2

/-- A note of one owner with the given audience grants. -/
private def publishedNote (grants : List AudienceGrant) : SemanticEnvelope where
  scopes := ⟨[⟨.project, .numbered 1, .exact⟩], List.cons_ne_nil _ _⟩
  perspective := ⟨.numbered 2, none, .numbered 3, .asserter⟩
  ownership :=
    { owners := ⟨[noteOwner], List.cons_ne_nil _ _⟩, audienceGrants := grants, allowedPurposes := {Purpose.audit}
      modification := ⟨true, false, true⟩ }
  consent := ⟨false, []⟩
  usePolicy := ⟨.allow, .allow, .deny, .deny, .session⟩
  security := ⟨.internal, ∅, ∅, false⟩
  derivation := ⟨.numbered 4, .deterministicProjector, none, none, ⟨"p", "1", "1"⟩, []⟩

private def deriveGrant : AudienceGrant := ⟨.public, {Purpose.audit}, {derive}⟩

private def retrieveGrant : AudienceGrant := ⟨.public, {Purpose.audit}, {retrieve}⟩

private def publicWorkspace : WorkspaceId := .numbered 7

private def stranger : ReadPrincipal where
  subject := .numbered 5
  workspaceId := publicWorkspace
  scopes := {.numbered 1}
  memorySpaces := ∅
  audienceSubjects := ∅
  purpose := .audit
  clearance := .internal
  compartments := ∅

/-- A public grant that only permits deriving opens the graph to a stranger, whom the
oracle refuses. -/
theorem derive_grant_opens_graph :
    ¬ ∀ (workspace : WorkspaceId) (envelope : SemanticEnvelope) (principal : ReadPrincipal),
      envelope.validate = .ok () → allows (buildPolicy workspace envelope) principal = true →
        principal.oracle.allows (accessLabel workspace.display envelope) = true := by
  intro contained
  have opened := contained publicWorkspace (publishedNote [deriveGrant]) stranger (by decide)
    (by decide)
  exact absurd opened (by decide)

/-- A public retrieval grant covers a public grant that only permits deriving. -/
theorem retrieve_grant_covers_derive_grant :
    allows (buildPolicy publicWorkspace (publishedNote [deriveGrant,
      retrieveGrant])) stranger = true ∧
      ∀ (workspace : WorkspaceId) (principal : ReadPrincipal),
        allows (buildPolicy workspace (publishedNote [deriveGrant,
          retrieveGrant])) principal = true →
          principal.oracle.allows (accessLabel workspace.display
            (publishedNote [deriveGrant, retrieveGrant])) = true := by
  refine ⟨by decide, (graph_within_oracle_iff_retrievalCovers (by decide)).mpr ?_⟩
  intro _ grant granted _ caller purpose _ addressed
  have derived : grant.purposes = {Purpose.audit} := by
    rcases List.mem_cons.mp granted with rfl | rest
    · rfl
    · rw [List.mem_singleton.mp rest]
      rfl
  refine .inl ⟨retrieveGrant, by decide, ?_, trivial⟩
  have listed := addressed.1
  rw [derived] at listed
  exact listed

end ContextDb.Graph
