import ContextDb.Native.Store

/-! Resolution of the assertions about one state slot at separate knowledge and valid times. -/

set_option autoImplicit false

namespace ContextDb.Native

open Std Lib ContextDb.Core List

open Context (OriginalSourceSpan)

structure StateKey where
  subject : NodeId
  predicate : PredicateId
  scope : ScopeId
deriving DecidableEq

structure SourceAuthority where
  (adapterId actorId : String)
  role : EventRole
deriving DecidableEq

inductive AssertionStance
  | reported | proposed | inferred | observed | decision
deriving DecidableEq

structure AssertionGrant where
  source : SourceAuthority
  stance : AssertionStance
deriving DecidableEq

structure AuthorityPolicy where
  key : StateKey
  version : RevisionNumber
  grants : List AssertionGrant

namespace AuthorityPolicy

variable (policy : AuthorityPolicy)

def allows (source : SourceAuthority) (stance : AssertionStance) : Bool :=
  policy.grants.any fun grant => grant.source = source && grant.stance = stance

def permitted (grant : AssertionGrant) : Bool :=
  match grant.stance with
  | .decision => [.user, .host].contains grant.source.role
  | .observed => [.tool, .externalSource].contains grant.source.role
  | .reported => [.user, .externalSource, .import].contains grant.source.role
  | .proposed | .inferred => false

def checkGrant (entry : AssertionGrant × Nat) : ValidationResult := do
  let source := entry.1.source
  ensure (!(isBlank source.actorId || isBlank source.adapterId ||
    1024 < source.actorId.utf8ByteSize || 2048 < source.adapterId.utf8ByteSize ||
    (policy.grants.take entry.2).contains entry.1))
    (.invalidState "authority grant identity is invalid")
  ensure (permitted entry.1) (.invalidState "a proposal or inference cannot be granted resolution authority")

def validate : ValidationResult := do
  ensure (!(policy.grants.isEmpty || 64 < policy.grants.length))
    (.invalidState "authority policy requires 1..64 explicit grants")
  forM policy.grants.zipIdx policy.checkGrant

end AuthorityPolicy

def validateOriginalSupport (origin : ObservationId) (evidence : List OriginalSourceSpan) :
    ValidationResult :=
  ensure (!(evidence.isEmpty || 64 < evidence.length || !evidence.any (·.eventId = origin) ||
    evidence.any fun span => span.finish ≤ span.start))
    (.invalidState "assertion requires bounded original spans including its source")

structure SourceAssertion where
  key : StateKey
  claim : Claim
  revision : ClaimRevision
  stance : AssertionStance
  source : SourceAuthority
  originatingEvent : ObservationId
  originalEvidence : List OriginalSourceSpan

namespace SourceAssertion

variable (assertion : SourceAssertion)

def matchesClaim : Bool :=
  let revision := assertion.revision
  assertion.claim.id = revision.claimId && assertion.claim.subject = assertion.key.subject &&
    assertion.claim.predicate = assertion.key.predicate && revision.revision = .first &&
    assertion.claim.createdSeq = revision.temporal.transactionTime.start &&
    revision.temporal.transactionTime.finish.isNone && revision.epistemic.lifecycle = .active &&
    revision.envelope.scopes.toList.any (fun scope =>
      scope.id = assertion.key.scope && scope.inheritance = .exact) &&
    !revision.supersedes.contains assertion.claim.id && revision.supersedes.length ≤ 64 &&
    decide revision.supersedes.Nodup

def basis : EpistemicBasis :=
  match assertion.stance with
  | .observed => .observation
  | .inferred => .modelInference
  | _ => .actorAssertion

def tentative : Bool :=
  [.proposed, .inferred].contains assertion.stance

def validate : ValidationResult := do
  let revision := assertion.revision
  revision.validate
  ensure assertion.matchesClaim (.invalidState "assertion does not match its canonical claim revision")
  ensure (revision.epistemic.basis = assertion.basis && revision.epistemic.acceptance =
      if assertion.tentative then .proposed else .accepted)
    (.invalidState "assertion stance and epistemic state disagree")
  ensure (!(assertion.tentative && !revision.supersedes.isEmpty))
    (.invalidState "a proposal or inference cannot supersede accepted state")
  validateOriginalSupport assertion.originatingEvent assertion.originalEvidence
  ensure (revision.evidence.length = assertion.originalEvidence.length &&
    decide revision.evidence.Nodup)
    (.invalidState "canonical evidence IDs must map one-to-one to original spans")

end SourceAssertion

structure AssertionRetraction where
  key : StateKey
  target : ClaimId
  temporal : BitemporalRange
  source : SourceAuthority
  originatingEvent : ObservationId
  originalEvidence : List OriginalSourceSpan

def AssertionRetraction.validate (retraction : AssertionRetraction) : ValidationResult := do
  retraction.temporal.validate
  ensure retraction.temporal.transactionTime.finish.isNone
    (.invalidState "accepted retraction requires an open transaction interval")
  validateOriginalSupport retraction.originatingEvent retraction.originalEvidence

structure StateAlternative where
  value : ClaimObject
  supportingClaims : BTreeSet ClaimId

inductive ResolvedState
  | known (answer : StateAlternative)
  | conflict (alternatives : List StateAlternative)
  | unknown | incomplete

structure StateResolution where
  state : ResolvedState
  retiredClaims : BTreeSet ClaimId
  validUntil : Option Int
  policyVersion : RevisionNumber

/-- What retires claims: an assertion the ones it supersedes, a retraction its target. -/
structure Transition where
  knownFrom : Nat
  validTime : TimeRange
  targets : List ClaimId

def SourceAssertion.transition (assertion : SourceAssertion) : Transition :=
  ⟨assertion.claim.createdSeq, assertion.revision.temporal.validTime, assertion.revision.supersedes⟩

def AssertionRetraction.transition (retraction : AssertionRetraction) : Transition :=
  ⟨retraction.temporal.transactionTime.start, retraction.temporal.validTime, [retraction.target]⟩

def collectBoundaries (range : TimeRange) (now : Int) : List Int :=
  (range.start :: range.finish.toList).filter (now < ·)

section

variable (same : ClaimObject → ClaimObject → Bool) (policy : AuthorityPolicy)
  (assertions : List SourceAssertion) (retractions : List AssertionRetraction) (knownAt : Nat)
    (validAt : Int)

/-- The loops of the source check and gather at once; gathering never fails. -/
def checkInputs : ValidationResult := do
  policy.validate
  forM assertions fun assertion => do
    assertion.validate
    ensure (assertion.key = policy.key)
      (.invalidState "resolver input crosses a predicate or branch scope")
  forM retractions fun retraction => do
    retraction.validate
    ensure (retraction.key = policy.key) (.invalidState "retraction crosses a state slot")

def considered : List Transition :=
  (assertions.map (·.transition) ++ retractions.map (·.transition)).filter (·.knownFrom ≤ knownAt)

def retiredClaims : BTreeSet ClaimId :=
  (∅ : BTreeSet ClaimId).insertMany (((considered assertions retractions knownAt).filter
    (·.validTime.contains validAt)).flatMap (·.targets))

def boundaries : List Int :=
  (considered assertions retractions knownAt).flatMap (collectBoundaries ·.validTime validAt)

def supports (retired : BTreeSet ClaimId) (assertion : SourceAssertion) : Bool :=
  !(knownAt < assertion.claim.createdSeq || retired.contains assertion.claim.id ||
    !assertion.revision.temporal.validTime.contains validAt ||
      !policy.allows assertion.source assertion.stance)

def addSupport (assertion : SourceAssertion) : List StateAlternative → List StateAlternative
  | [] => [⟨assertion.revision.object, {assertion.claim.id}⟩]
  | existing :: rest =>
    if same existing.value assertion.revision.object then
      { existing with
        supportingClaims := existing.supportingClaims.insert assertion.claim.id } :: rest
    else existing :: addSupport assertion rest

def alternatives : List StateAlternative :=
  sortBy (compareOn (·.supportingClaims.min?)) ((assertions.filter (supports policy knownAt validAt
      (retiredClaims assertions retractions knownAt validAt))).foldl
        (fun alternatives assertion => addSupport same assertion alternatives) [])

def resolvedState (complete : Bool) (alternatives : List StateAlternative) : ResolvedState :=
  if !complete then .incomplete
  else
    match alternatives with
    | [] => .unknown
    | [answer] => .known answer
    | alternatives => .conflict alternatives

def resolveAssertions (complete : Bool) : Except ValidationError StateResolution := do
  checkInputs policy assertions retractions
  .ok
    { state := resolvedState complete
        (alternatives same policy assertions retractions knownAt validAt)
      retiredClaims := retiredClaims assertions retractions knownAt validAt
      validUntil := (boundaries assertions retractions knownAt validAt).min?
      policyVersion := policy.version }

end

variable {same : ClaimObject → ClaimObject → Bool} {policy : AuthorityPolicy}
  {assertions : List SourceAssertion} {retractions : List AssertionRetraction} {knownAt : Nat}
  {validAt time : Int} {complete : Bool} {resolution : StateResolution}

/-- Between its boundaries a range applies throughout or not at all. -/
theorem contains_stable {range : TimeRange} (later : validAt ≤ time)
    (before : ∀ boundary ∈ collectBoundaries range validAt, time < boundary) :
    range.contains time = range.contains validAt := by
  have start : range.start ≤ time ↔ range.start ≤ validAt := by
    refine ⟨fun reached => ?_, fun reached => by omega⟩
    by_contra ahead
    have passed := before range.start (by simp [collectBoundaries]; omega)
    omega
  have finish : range.finish.all (time < ·) = range.finish.all (validAt < ·) := by
    cases ends : range.finish with
    | none => rfl
    | some finish =>
      have open_ : time < finish ↔ validAt < finish := by
        refine ⟨fun reached => by omega, fun reached => ?_⟩
        exact before finish (by simp [collectBoundaries, ends]; omega)
      simp [open_]
  simp [TimeRange.contains, start, finish]

/-- The answer holds until its next boundary, and that is the boundary of a range considered. -/
theorem resolution_stable (resolved : resolveAssertions same policy assertions retractions knownAt
      validAt complete = .ok resolution) :
    (∀ time, validAt ≤ time → (∀ boundary, resolution.validUntil = some boundary →
        time < boundary) →
      ∃ later, resolveAssertions same policy assertions retractions knownAt time complete =
        .ok later ∧ later.state = resolution.state ∧
        later.retiredClaims = resolution.retiredClaims) ∧
    ∀ boundary, resolution.validUntil = some boundary → validAt < boundary ∧
      ∃ transition ∈ considered assertions retractions knownAt,
        transition.validTime.start = boundary ∨ transition.validTime.finish = some boundary := by
  obtain ⟨checked, resolved⟩ := unit_ok resolved
  cases resolved
  refine ⟨fun time later before => ?_, fun boundary next => ?_⟩
  · have stable : ∀ transition ∈ considered assertions retractions knownAt,
        transition.validTime.contains time = transition.validTime.contains validAt := by
      intro transition member
      refine contains_stable later fun boundary listed => ?_
      have bounds : boundary ∈ boundaries assertions retractions knownAt validAt :=
        mem_flatMap.mpr ⟨transition, member, listed⟩
      obtain ⟨least, found⟩ := Option.isSome_iff_exists.mp (isSome_min?_of_mem bounds)
      have first := (min?_eq_some_iff.mp found).2 boundary bounds
      have early := before least found
      omega
    have retired : retiredClaims assertions retractions knownAt time =
        retiredClaims assertions retractions knownAt validAt := by
      rw [retiredClaims, retiredClaims, filter_congr stable]
    have supported : assertions.filter (supports policy knownAt time
        (retiredClaims assertions retractions knownAt validAt)) =
      assertions.filter (supports policy knownAt validAt
        (retiredClaims assertions retractions knownAt validAt)) := by
      refine filter_congr fun assertion listed => ?_
      by_cases known : assertion.claim.createdSeq ≤ knownAt
      · have member : assertion.transition ∈ considered assertions retractions knownAt := by
          simp only [considered, mem_filter, mem_append, mem_map]
          exact ⟨.inl ⟨assertion, listed, rfl⟩, decide_eq_true known⟩
        have same := stable _ member
        simp only [SourceAssertion.transition] at same
        simp only [supports, same]
      · simp [supports, Nat.lt_of_not_le known]
    refine ⟨_, bind_ok_iff.mpr ⟨_, checked, rfl⟩, ?_, retired⟩
    simp only [alternatives, retired, supported]
  · obtain ⟨transition, member, listed⟩ := mem_flatMap.mp (min?_mem next)
    simp only [collectBoundaries, mem_filter, mem_cons, Option.mem_toList,
      decide_eq_true_eq] at listed
    refine ⟨listed.2, transition, member, ?_⟩
    rcases listed.1 with start | finish
    · exact .inl start.symm
    · exact .inr finish

/-! ### An office that moves

One source reports the office of a colleague, and later, from the tenth instant on, another
one in its place; the second report is taken back from the twentieth to the thirtieth. -/

private def officeKey : StateKey := ⟨.numbered 1, .numbered 2, .numbered 3⟩

private def deskUser : SourceAuthority := ⟨"cli", "ada", .user⟩

private def officeSpan : OriginalSourceSpan := ⟨.numbered 4, default, 0, 1, default⟩

private def officeEnvelope : SemanticEnvelope where
  scopes := ⟨[⟨.workspace, .numbered 3, .exact⟩], by simp⟩
  perspective := ⟨.numbered 10, none, .numbered 11, .asserter⟩
  ownership := ⟨⟨[.numbered 10], by simp⟩, [⟨.owner, {Purpose.audit}, {AccessCapability.retrieve}⟩],
    {Purpose.audit}, ⟨true, false, true⟩⟩
  consent := ⟨false, []⟩
  usePolicy := ⟨.allow, .allow, .deny, .deny, .session⟩
  security := ⟨.internal, ∅, ∅, false⟩
  derivation := ⟨.numbered 12, .actorAssertion, some (.numbered 11), none, ⟨"p", "1", "1"⟩, []⟩

/-- A decision on the office from an instant on, in place of earlier ones. -/
private def officeIn (id : ClaimId) (office : String) (since : Int) (supersedes : List ClaimId) :
    SourceAssertion where
  key := officeKey
  claim := ⟨id, .numbered 13, .numbered 1, .numbered 2, 1⟩
  revision :=
    { claimId := id, revision := .first, object := .string office, temporal := ⟨⟨since, none⟩, ⟨1, none⟩⟩
      epistemic := ⟨.actorAssertion, .accepted, .none, .active⟩
      confidence := ⟨⟨0⟩, ⟨0⟩, ⟨0⟩, ⟨0⟩⟩
      sourceFamilies := ∅, evidence := [.numbered 14], supersedes, envelope := officeEnvelope }
  stance := .decision
  source := deskUser
  originatingEvent := .numbered 4
  originalEvidence := [officeSpan]

private def moved : List SourceAssertion :=
  [officeIn (.numbered 5) "north" 0 [], officeIn (.numbered 6) "south" 10 [.numbered 5]]

private def takenBack : List AssertionRetraction :=
  [⟨officeKey, .numbered 6, ⟨⟨20, some 30⟩, ⟨1, none⟩⟩, deskUser, .numbered 4, [officeSpan]⟩]

private def officeAt (time : Int) : Except ValidationError StateResolution :=
  resolveAssertions ClaimObject.equal ⟨officeKey, .first,
    [⟨deskUser, .decision⟩]⟩ moved takenBack 1 time true

/-- The second office is the answer until its report is taken back. -/
theorem resolution_stable_until_retraction : (∃ later, officeAt 19 = .ok later ∧
      later.state = .known ⟨.string "south", {.numbered 6}⟩) ∧
    (∃ before, officeAt 9 = .ok before ∧ before.state = .known ⟨.string "north", {.numbered 5}⟩) ∧
    ∃ after, officeAt 20 = .ok after ∧ after.state = .unknown := by
  have resolved : officeAt 10 = .ok ⟨.known ⟨.string "south", {.numbered 6}⟩, {.numbered 5},
    some 20, .first⟩ := by
    rfl
  obtain ⟨later, reached, state, _⟩ := (resolution_stable resolved).1 19 (by decide)
    fun boundary next => by cases next; decide
  exact ⟨⟨later, reached, state⟩, ⟨_, rfl, rfl⟩, ⟨_, rfl, rfl⟩⟩

end ContextDb.Native
