import ContextDb.Lib.Collections
import ContextDb.Lib.Text
import ContextDb.Lib.Fallible

/-! Stable external identifiers. Every identifier family wraps a non-nil UUID and
is displayed in the hyphenated lowercase form, which determines the UUID and never
contains the characters reserved for audience keys. -/

set_option autoImplicit false

namespace ContextDb.Core

open Lib Std List

structure Uuid where
  bits : BitVec 128
deriving DecidableEq

namespace Uuid

/-- UUIDs are ordered by their bytes, as their hyphenated texts are. -/
def rank (uuid : Uuid) : Nat :=
  uuid.bits.toNat

theorem rank_injective (left right : Uuid) (equal : left.rank = right.rank) : left = right := by
  cases left; cases right
  simpa [rank, BitVec.toNat_inj] using equal

instance : Ord Uuid := ⟨compareOn rank⟩

instance : TransOrd Uuid := inferInstanceAs (TransCmp (compareOn rank))

instance : LawfulEqOrd Uuid := lawfulEqCmp_compareOn rank rank_injective

end Uuid

variable (uuid : Uuid)

def Uuid.digits : List Char :=
  hexDigits 32 uuid.bits.toNat

def Uuid.display : String :=
  String.ofList (uuid.digits.take 8 ++ '-' :: ((uuid.digits.drop 8).take 4 ++
    '-' :: ((uuid.digits.drop 12).take 4 ++ '-' :: ((uuid.digits.drop 16).take 4 ++ '-' :: uuid.digits.drop 20))))

variable {left right : Uuid}

theorem Uuid.digits_injective (equal : left.digits = right.digits) : left = right := by
  have bounded : ∀ uuid : Uuid, uuid.bits.toNat < 16 ^ 32 := fun uuid =>
    lt_of_lt_of_eq uuid.bits.isLt (by decide)
  have same := hexDigits_injective (bounded left) (bounded right) equal
  cases left; cases right
  simpa using BitVec.eq_of_toNat_eq same

theorem Uuid.hyphen_not_mem_digits : '-' ∉ uuid.digits := by
  intro member
  exact absurd (hexDigits_isHexDigit member) (by decide)

theorem Uuid.filter_display : uuid.display.toList.filter (· != '-') = uuid.digits := by
  have kept : ∀ part : List Char, (∀ character ∈ part, character ∈ uuid.digits) → part.filter (· != '-') = part := by
    intro part included
    refine filter_eq_self.mpr fun character member => ?_
    simpa using fun same : character = '-' =>
      uuid.hyphen_not_mem_digits (same ▸ included character member)
  have hyphen : ('-' != '-') = false := rfl
  simp only [display, String.toList_ofList, filter_append, filter_cons, hyphen, Bool.false_eq_true, ↓reduceIte]
  rw [kept _ fun _ member => mem_of_mem_take member, kept _ fun _ member => mem_of_mem_drop (mem_of_mem_take member),
    kept _ fun _ member => mem_of_mem_drop (mem_of_mem_take member),
    kept _ fun _ member => mem_of_mem_drop (mem_of_mem_take member), kept _ fun _ member => mem_of_mem_drop member]
  have rejoin : ∀ count, (uuid.digits.drop count).take 4 ++ uuid.digits.drop (count + 4) = uuid.digits.drop count := by
    intro count
    rw [← drop_drop, take_append_drop]
  rw [rejoin 16, rejoin 12, rejoin 8, take_append_drop]

theorem Uuid.display_injective (equal : left.display = right.display) : left = right := by
  apply digits_injective
  rw [← filter_display, ← filter_display, equal]

variable {character : Char}

theorem Uuid.display_characters {uuid : Uuid} (member : character ∈ uuid.display.toList) :
    isHexDigit character = true ∨ character = '-' := by
  by_cases hyphen : character = '-'
  · exact .inr hyphen
  · left
    have digit : character ∈ uuid.digits := by
      rw [← uuid.filter_display]
      exact mem_filter.mpr ⟨member, by simpa using hyphen⟩
    exact hexDigits_isHexDigit digit

inductive IdKind
  | workspace | memorySpace | memorySubject | actor | observation | episodeView | artifact
  | evidence | node | predicate | claim | edge | edgeType | conflictSet | candidate
  | continuityProfile | contextPack | modelCall | derivation | summary | scope | policy | mutation
  | publication | modelProfile | source | contentBlock | stream | agentRun | session | task
  | toolCall
deriving DecidableEq

/-- A stable identifier of one family. The nil UUID is not an identifier. -/
structure StableId (kind : IdKind) where
  uuid : Uuid
  notNil : uuid.bits ≠ 0
deriving DecidableEq

/-- The identifier with a given number, for worked examples; zero has none and yields one. -/
def StableId.numbered {kind : IdKind} (number : Nat) : StableId kind :=
  if notNil : BitVec.ofNat 128 number ≠ 0 then ⟨⟨BitVec.ofNat 128 number⟩, notNil⟩
  else ⟨⟨1⟩, by decide⟩

abbrev WorkspaceId := StableId .workspace
abbrev MemorySpaceId := StableId .memorySpace
abbrev MemorySubjectId := StableId .memorySubject
abbrev ActorId := StableId .actor
abbrev ObservationId := StableId .observation
abbrev EpisodeViewId := StableId .episodeView
abbrev ArtifactId := StableId .artifact
abbrev EvidenceId := StableId .evidence
abbrev NodeId := StableId .node
abbrev PredicateId := StableId .predicate
abbrev ClaimId := StableId .claim
abbrev EdgeId := StableId .edge
abbrev EdgeTypeId := StableId .edgeType
abbrev ConflictSetId := StableId .conflictSet
abbrev CandidateId := StableId .candidate
abbrev ContinuityProfileId := StableId .continuityProfile
abbrev ContextPackId := StableId .contextPack
abbrev ModelCallId := StableId .modelCall
abbrev DerivationId := StableId .derivation
abbrev SummaryId := StableId .summary
abbrev ScopeId := StableId .scope
abbrev PolicyId := StableId .policy
abbrev MutationId := StableId .mutation
abbrev PublicationId := StableId .publication
abbrev ModelProfileId := StableId .modelProfile
abbrev SourceId := StableId .source
abbrev ContentBlockId := StableId .contentBlock
abbrev StreamId := StableId .stream
abbrev AgentRunId := StableId .agentRun
abbrev SessionId := StableId .session
abbrev TaskId := StableId .task
abbrev ToolCallId := StableId .toolCall

namespace StableId

variable {kind : IdKind} {left right : StableId kind}

/-- The identifier of another family with the same UUID. The source's conversion
rejects only the nil UUID, which no identifier has. -/
def recast (target : IdKind) (id : StableId kind) : StableId target :=
  ⟨id.uuid, id.notNil⟩

def display (id : StableId kind) : String :=
  id.uuid.display

theorem uuid_injective (equal : left.uuid = right.uuid) : left = right := by
  cases left; cases right
  simpa using equal

theorem display_injective (equal : left.display = right.display) : left = right :=
  uuid_injective (Uuid.display_injective equal)

def rank (id : StableId kind) : Nat :=
  id.uuid.bits.toNat

theorem rank_injective (left right : StableId kind) (equal : left.rank = right.rank) : left = right := by
  apply uuid_injective
  cases hleft : left.uuid; cases hright : right.uuid
  simpa [rank, hleft, hright, BitVec.toNat_inj] using equal

instance : Ord (StableId kind) := ⟨compareOn rank⟩

instance : TransOrd (StableId kind) :=
  inferInstanceAs (TransCmp (compareOn rank))

instance : LawfulEqOrd (StableId kind) :=
  lawfulEqCmp_compareOn rank rank_injective

/-- A displayed identifier starts with a hexadecimal digit or a hyphen, hence is
different from any text with another character in it. -/
theorem display_ne {id : StableId kind} {text : String} (member : character ∈ text.toList)
    (foreign : isHexDigit character = false) (notHyphen : character ≠ '-') : id.display ≠ text := by
  intro equal
  have included : character ∈ id.uuid.display.toList := by
    change character ∈ id.display.toList
    rw [equal]
    exact member
  rcases Uuid.display_characters included with digit | hyphen
  · simp [foreign] at digit
  · exact notHyphen hyphen

end StableId

/-! Validation errors, non-empty vectors and time intervals shared by the
canonical records. -/

inductive ValidationError
  | emptyCollection (field : String)
  | blankText (field : String)
  | invalidTimeRange (start finish : Int)
  | invalidCommitRange (start finish : Nat)
  | duplicateIdentifier (field : String)
  | missingEvidence (basis : String)
  | invalidAssertionDerivation | selfSupportingLineage | hierarchyCycle
  | invalidNumber (field : String)
  | invalidEvidenceSelector (reason : String)
  | invalidConflictSet
  | policyWeakening (reason : String)
  | invalidState (reason : String)
  | missingObservationContent | lineageCycle | invalidRevisionSequence
  | overlappingTransactionIntervals | predicateTypeMismatch
deriving DecidableEq

namespace ValidationError

def display : ValidationError → String
  | .emptyCollection field => field ++ " must not be empty"
  | .blankText field => field ++ " must not be blank"
  | .invalidTimeRange start finish =>
    "invalid time range: start " ++ toString start ++ " must be before end " ++ toString finish
  | .invalidCommitRange start finish =>
    "invalid commit range: start " ++ toString start ++ " must be before end " ++ toString finish
  | .duplicateIdentifier field => field ++ " contains a duplicate identifier"
  | .missingEvidence basis => "semantic memory requires evidence for epistemic basis " ++ basis
  | .invalidAssertionDerivation =>
    "actor assertion basis requires an actor-assertion derivation"
  | .selfSupportingLineage => "an item cannot support itself through its own lineage"
  | .hierarchyCycle => "a hierarchy view cannot contain a cycle"
  | .invalidNumber field =>
    "numeric value " ++ field ++ " must be finite and within the documented range"
  | .invalidEvidenceSelector reason => "invalid evidence selector: " ++ reason
  | .invalidConflictSet => "conflict set must contain at least two distinct claims"
  | .policyWeakening reason => "derived policy is more permissive than its source: " ++ reason
  | .invalidState reason => "invalid state transition: " ++ reason
  | .missingObservationContent =>
    "observation must reference at least one content block or artifact"
  | .lineageCycle => "lineage contains a cycle"
  | .invalidRevisionSequence => "revision numbers must start at one and be contiguous"
  | .overlappingTransactionIntervals =>
    "transaction-time intervals overlap in a revision chain"
  | .predicateTypeMismatch => "predicate domain or range is incompatible with the claim"

end ValidationError

abbrev ValidationResult := Except ValidationError Unit

structure NonEmptyVec (Element : Type) where
  toList : List Element
  nonEmpty : toList ≠ []
deriving DecidableEq

instance {Element : Type} : Membership Element (NonEmptyVec Element) where
  mem values value := value ∈ values.toList

theorem NonEmptyVec.exists_mem {Element : Type} (values : NonEmptyVec Element) : ∃ value, value ∈ values.toList := by
  cases elements : values.toList with
  | nil => exact absurd elements values.nonEmpty
  | cons value rest => exact ⟨value, by simp⟩

def validateNonBlank (value field : String) : ValidationResult :=
  ensure (!isBlank value) (.blankText field)

structure TimeRange where
  start : Int
  finish : Option Int
deriving DecidableEq

def TimeRange.validate (range : TimeRange) : ValidationResult :=
  match range.finish with
  | some finish => ensure (range.start < finish) (.invalidTimeRange range.start finish)
  | none => .ok ()

def TimeRange.overlaps (range other : TimeRange) : Bool :=
  other.finish.all (range.start < ·) && range.finish.all (other.start < ·)

def TimeRange.contains (range : TimeRange) (instant : Int) : Bool :=
  range.start ≤ instant && range.finish.all (instant < ·)

structure CommitRange where
  start : Nat
  finish : Option Nat
deriving DecidableEq

def CommitRange.contains (range : CommitRange) (commit : Nat) : Bool :=
  range.start ≤ commit && range.finish.all (commit < ·)

def CommitRange.validate (range : CommitRange) : ValidationResult :=
  match range.finish with
  | some finish => ensure (range.start < finish) (.invalidCommitRange range.start finish)
  | none => .ok ()

structure BitemporalRange where
  validTime : TimeRange
  transactionTime : CommitRange
deriving DecidableEq

def BitemporalRange.validate (range : BitemporalRange) : ValidationResult := do
  range.validTime.validate
  range.transactionTime.validate

def ensureDistinct {Element : Type} [DecidableEq Element] (values : List Element) (field : String) : ValidationResult :=
  ensure (decide values.Nodup) (.duplicateIdentifier field)

/-! Provenance attached to a semantic revision. -/

structure RevisionNumber where
  value : Nat
  positive : 0 < value
  bounded : value < 2 ^ 32
deriving DecidableEq

structure PipelineIdentity where
  (name version schemaVersion : String)
deriving DecidableEq

def PipelineIdentity.validate (pipeline : PipelineIdentity) : ValidationResult := do
  validateNonBlank pipeline.name "pipeline.name"
  validateNonBlank pipeline.version "pipeline.version"
  validateNonBlank pipeline.schemaVersion "pipeline.schema_version"

inductive DerivationKind
  | actorAssertion | deterministicProjector | modelExtraction | consolidation | humanAdjudication
  | migration | import
deriving DecidableEq

inductive LineageNode
  | observation (id : ObservationId)
  | episodeView (id : EpisodeViewId) (revision : RevisionNumber)
  | artifact (id : ArtifactId)
  | evidence (id : EvidenceId)
  | nodeRevision (id : NodeId) (revision : RevisionNumber)
  | claimRevision (id : ClaimId) (revision : RevisionNumber)
  | edgeRevision (id : EdgeId) (revision : RevisionNumber)
  | conflictRevision (id : ConflictSetId) (revision : RevisionNumber)
  | continuityProfile (id : ContinuityProfileId) (revision : RevisionNumber)
  | candidate (id : CandidateId)
  | summary (id : SummaryId)
  | contextPack (id : ContextPackId)
  | external (space identifier : String)
deriving DecidableEq

def LineageNode.validate : LineageNode → ValidationResult
  | .external space identifier => do
      validateNonBlank space "lineage.namespace"
      validateNonBlank identifier "lineage.identifier"
  | _ => .ok ()

structure DerivationRef where
  id : DerivationId
  kind : DerivationKind
  actor : Option ActorId
  modelCall : Option ModelCallId
  pipeline : PipelineIdentity
  inputs : List LineageNode
deriving DecidableEq

def DerivationRef.validate (derivation : DerivationRef) : ValidationResult := do
  derivation.pipeline.validate
  forM derivation.inputs LineageNode.validate
  ensure (!(derivation.kind == .actorAssertion && derivation.actor.isNone)) .invalidAssertionDerivation
  ensure (!(derivation.kind == .modelExtraction && derivation.modelCall.isNone))
    (.invalidState "model extraction requires model_call")

def DerivationRef.validateFor (derivation : DerivationRef) (target : LineageNode) : ValidationResult := do
  derivation.validate
  ensure (!derivation.inputs.contains target) .selfSupportingLineage

end ContextDb.Core
