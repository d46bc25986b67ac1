import ContextDb.Core.Policy

/-! What an accepted envelope and an accepted derivation have passed. -/

set_option autoImplicit false

namespace ContextDb.Core

open Lib Std BTreeSet Bool AudienceGrant MemoryUsePolicy SecurityPolicy List

/-- The facts of a validated envelope that authorization depends on. -/
structure SemanticEnvelope.Valid (envelope : SemanticEnvelope) : Prop where
  somePurpose : ∃ purpose, purpose ∈ envelope.ownership.allowedPurposes
  grantPurpose : ∀ grant ∈ envelope.ownership.audienceGrants, ∃ purpose, purpose ∈ grant.purposes
  grantAllowed : ∀ grant ∈ envelope.ownership.audienceGrants, ∀ purpose ∈ grant.purposes,
    purpose ∈ envelope.ownership.allowedPurposes
  someDecision : envelope.consent.required = true → envelope.consent.decisions ≠ []

theorem AudienceGrant.validate_purpose {grant : AudienceGrant}
    (accepted : grant.validate = .ok ()) :
    ∃ purpose, purpose ∈ grant.purposes := by
  obtain ⟨occupied, _⟩ := unit_ok accepted
  exact isEmpty_eq_false_iff_exists_mem.mp (by simpa using occupied)

theorem SemanticEnvelope.valid_of_validate {envelope : SemanticEnvelope}
    (accepted : envelope.validate = .ok ()) : envelope.Valid := by
  have accepted := rest_ok accepted
  have accepted := rest_ok accepted
  obtain ⟨ownership, accepted⟩ := unit_ok accepted
  obtain ⟨consent, _⟩ := unit_ok accepted
  have ownership := rest_ok ownership
  obtain ⟨occupied, ownership⟩ := unit_ok ownership
  have grants := rest_ok ownership
  obtain ⟨decisions, _⟩ := unit_ok consent
  have eachGrant : ∀ grant ∈ envelope.ownership.audienceGrants, grant.validate = .ok () ∧
      isSubset grant.purposes envelope.ownership.allowedPurposes = true := by
    intro grant member
    obtain ⟨validated, included⟩ := unit_ok (forM_ok_iff.mp grants grant member)
    exact ⟨validated, ensure_ok_iff.mp included⟩
  refine ⟨isEmpty_eq_false_iff_exists_mem.mp (by simpa using occupied), ?_, ?_, ?_⟩
  · intro grant member
    exact validate_purpose (eachGrant grant member).1
  · intro grant member
    exact isSubset_iff.mp (eachGrant grant member).2
  · intro required vacant
    simp [required, vacant] at decisions

structure SemanticEnvelope.DerivedFrom (derived source : SemanticEnvelope) : Prop where
  derivedValid : derived.Valid
  sourceValid : source.Valid
  scopes : ∀ scope ∈ derived.scopes.toList, scope ∈ source.scopes.toList
  owners : ∀ owner, owner ∈ derived.ownership.owners.toList ↔ owner ∈ source.ownership.owners.toList
  purposes : ∀ purpose ∈ derived.ownership.allowedPurposes, purpose ∈ source.ownership.allowedPurposes
  grants : ∀ grant ∈ derived.ownership.audienceGrants, ∃ sourceGrant ∈ source.ownership.audienceGrants,
      sourceGrant.audience.covers grant.audience = true ∧
        (∀ purpose ∈ grant.purposes, purpose ∈ sourceGrant.purposes) ∧
        ∀ capability ∈ grant.capabilities, capability ∈ sourceGrant.capabilities
  retrieve : derived.usePolicy.retrieve.rank ≤ source.usePolicy.retrieve.rank
  classification : source.security.classification.rank ≤ derived.security.classification.rank
  consentRequired : source.consent.required = true → derived.consent.required = true

variable {derived source : SemanticEnvelope}

theorem SemanticEnvelope.validateDerivedFrom_ok_iff : derived.validateDerivedFrom source = .ok () ↔
      derived.validate = .ok () ∧ source.validate = .ok () ∧
        (∀ scope ∈ derived.scopes.toList, scope ∈ source.scopes.toList) ∧
      (∀ owner, owner ∈ derived.ownership.owners.toList ↔ owner ∈ source.ownership.owners.toList) ∧
      (∀ purpose ∈ derived.ownership.allowedPurposes, purpose ∈ source.ownership.allowedPurposes) ∧
      modificationIsBroader derived.ownership.modification source.ownership.modification = false ∧
      (∀ grant ∈ derived.ownership.audienceGrants, ∃ sourceGrant ∈ source.ownership.audienceGrants,
        grant.coveredBy sourceGrant = true) ∧
      derived.usePolicy.isBroader source.usePolicy = false ∧
        derived.security.isWeaker source.security = false ∧
      validateConsentDerivation derived.consent source.consent = .ok () := by
  simp only [validateDerivedFrom, bind_ok_iff, ensure_ok_iff, forM_ok_iff, and_eq_true,
    not_eq_true', all_eq_true, any_eq_true, contains_iff_mem, isSubset_iff, exists_const]
  grind

theorem SemanticEnvelope.derivedFrom_of_validateDerivedFrom
    (accepted : derived.validateDerivedFrom source = .ok ()) : derived.DerivedFrom source := by
  obtain ⟨derivedValid, sourceValid, scopes, owners, purposes, _, grants, use, security, consent⟩ :=
    validateDerivedFrom_ok_iff.mp accepted
  obtain ⟨required, _⟩ := unit_ok consent
  simp only [isBroader, or_eq_false_iff, decide_eq_false_iff_not, Nat.not_lt] at use
  simp only [SecurityPolicy.isWeaker, Bool.or_eq_false_iff, decide_eq_false_iff_not,
    Nat.not_lt] at security
  refine ⟨valid_of_validate derivedValid, valid_of_validate sourceValid, scopes, owners, purposes,
    ?_, use.1.1.1.1, security.1.1.1, ?_⟩
  · intro grant member
    obtain ⟨sourceGrant, sourceMember, covers⟩ := grants grant member
    simp only [coveredBy, and_eq_true, isSubset_iff] at covers
    exact ⟨sourceGrant, sourceMember, covers.1.1, covers.1.2, covers.2⟩
  · intro sourceRequired
    simpa [sourceRequired] using ensure_ok_iff.mp required

theorem Audience.covers_iff {audience narrower : Audience} :
    audience.covers narrower = true ↔ audience = .public ∨ audience = narrower := by
  simp [Audience.covers]

theorem modificationIsBroader_trans {derived middle source : ModificationPolicy}
    (first : modificationIsBroader derived middle = false)
    (second : modificationIsBroader middle source = false) :
    modificationIsBroader derived source = false := by
  simp only [modificationIsBroader, or_eq_false_iff, and_eq_false_imp,
    not_eq_false'] at first second ⊢
  grind

theorem AudienceGrant.coveredBy_trans {derived middle source : AudienceGrant}
    (first : derived.coveredBy middle = true) (second : middle.coveredBy source = true) :
    derived.coveredBy source = true := by
  simp only [coveredBy, and_eq_true, isSubset_iff, Audience.covers_iff] at first second ⊢
  grind

theorem RetentionPolicy.permitsAtMost_trans {derived middle source : RetentionPolicy}
    (first : derived.permitsAtMost middle = true) (second : middle.permitsAtMost source = true) :
    derived.permitsAtMost source = true := by
  cases derived <;> cases middle <;> cases source <;> simp [permitsAtMost] at first second ⊢
  omega

theorem MemoryUsePolicy.isBroader_trans {derived middle source : MemoryUsePolicy}
    (first : derived.isBroader middle = false) (second : middle.isBroader source = false) :
    derived.isBroader source = false := by
  simp only [isBroader, Bool.or_eq_false_iff, decide_eq_false_iff_not, Nat.not_lt,
    Bool.not_eq_false'] at first second ⊢
  have retention := RetentionPolicy.permitsAtMost_trans first.2 second.2
  grind

theorem SecurityPolicy.isWeaker_trans {derived middle source : SecurityPolicy}
    (first : derived.isWeaker middle = false) (second : middle.isWeaker source = false) :
    derived.isWeaker source = false := by
  simp only [isWeaker, Bool.or_eq_false_iff, decide_eq_false_iff_not, Nat.not_lt,
    Bool.not_eq_false', isSubset_iff, Bool.and_eq_false_imp] at first second ⊢
  grind

/-- Some source decision about the same subject and class is at least as permissive. -/
theorem validateConsentDerivation_ok_iff {derived source : ConsentPolicy} :
    validateConsentDerivation derived source = .ok () ↔ (source.required = true →
      derived.required = true) ∧
      ∀ decision ∈ derived.decisions, ∃ other ∈ source.decisions,
        other.subject = decision.subject ∧ other.memoryClass = decision.memoryClass ∧
          decision.status.rank ≤ other.status.rank := by
  have permits : ∀ (rank : Nat) (listed : List ConsentStatus),
      (maxStatus listed).any (rank ≤ ·) = true ↔ ∃ status ∈ listed, rank ≤ status.rank := by
    intro rank listed
    induction listed with
    | nil => simp [maxStatus]
    | cons status rest ih =>
      rw [maxStatus, exists_mem_cons_iff, ← ih]
      cases maxStatus rest with
      | none => simp
      | some most => simp
  simp only [validateConsentDerivation, bind_ok_iff, ensure_ok_iff, forM_ok_iff, permits,
    mem_map, mem_filter, and_eq_true, beq_iff_eq, not_eq_true', and_eq_false_imp, not_eq_false', exists_const]
  refine and_congr Iff.rfl (forall₂_congr fun decision _ => ?_)
  constructor
  · rintro ⟨_, ⟨other, ⟨listed, subject, kind⟩, rfl⟩, most⟩
    exact ⟨other, listed, subject, kind, most⟩
  · rintro ⟨other, listed, subject, kind, most⟩
    exact ⟨_, ⟨other, ⟨listed, subject, kind⟩, rfl⟩, most⟩

namespace SemanticEnvelope

variable {derived middle source : SemanticEnvelope}

theorem validateDerivedFrom_refl (valid : source.validate = .ok ()) :
    source.validateDerivedFrom source = .ok () := by
  refine validateDerivedFrom_ok_iff.mpr ⟨valid, valid, fun _ => id, fun _ => .rfl, fun _ => id, ?_,
    ?_, ?_, ?_, ?_⟩
  · simp [modificationIsBroader]
  · intro grant member
    refine ⟨grant, member, ?_⟩
    simp [coveredBy, Audience.covers_iff, isSubset_iff]
  · have retained : source.usePolicy.retention.permitsAtMost source.usePolicy.retention = true := by
      cases source.usePolicy.retention <;> simp [RetentionPolicy.permitsAtMost]
    simp [isBroader, retained]
  · simp [isWeaker, isSubset_iff]
  · exact validateConsentDerivation_ok_iff.mpr ⟨id, fun decision member =>
      ⟨decision, member, rfl, rfl, Nat.le_refl _⟩⟩

theorem validateDerivedFrom_trans (first : derived.validateDerivedFrom middle = .ok ())
    (second : middle.validateDerivedFrom source = .ok ()) :
    derived.validateDerivedFrom source = .ok () := by
  rw [validateDerivedFrom_ok_iff, validateConsentDerivation_ok_iff] at *
  obtain ⟨valid, _, scopes, owners, purposes, modification, grants, use, security, consent⟩ := first
  obtain ⟨_, valid', scopes', owners', purposes', modification', grants', use', security',
    consent'⟩ := second
  refine ⟨valid, valid', fun scope member => scopes' scope (scopes scope member),
    fun owner => (owners owner).trans (owners' owner), fun purpose member => purposes' purpose
      (purposes purpose member),
    modificationIsBroader_trans modification modification', ?_, isBroader_trans use use', isWeaker_trans security security', ?_⟩
  · intro grant member
    obtain ⟨between, listed, covered⟩ := grants grant member
    obtain ⟨sourceGrant, sourceListed, covered'⟩ := grants' between listed
    exact ⟨sourceGrant, sourceListed, coveredBy_trans covered covered'⟩
  · refine ⟨fun required => consent.1 (consent'.1 required), fun decision member => ?_⟩
    obtain ⟨between, listed, subject, kind, rank⟩ := consent.2 decision member
    obtain ⟨other, otherListed, subject', kind', rank'⟩ := consent'.2 between listed
    exact ⟨other, otherListed, subject'.trans subject, kind'.trans kind, Nat.le_trans rank rank'⟩

/-- Every valid envelope derives from itself, and along a chain of accepted derivations of any
length the first envelope derives from the last. -/
theorem derivation_preorder : (∀ envelope : SemanticEnvelope, envelope.validate = .ok () →
      envelope.validateDerivedFrom envelope = .ok ()) ∧
        ∀ derived source : SemanticEnvelope, Relation.TransGen
      (fun derived source => SemanticEnvelope.validateDerivedFrom derived source = .ok ())
      derived source → derived.validateDerivedFrom source = .ok () := by
  refine ⟨fun _ => validateDerivedFrom_refl, fun derived source chain => ?_⟩
  induction chain with
  | single accepted => exact accepted
  | tail _ accepted ih => exact validateDerivedFrom_trans ih accepted

end SemanticEnvelope

end ContextDb.Core
