import ContextDb.Lib.OrderedEntries
import ContextDb.Core.Policy
import Mathlib.Data.List.Perm.Subperm

/-! The lexical index: a published base, a delta staged over it, and searches through a universe
of authorized document identifiers. A version staged under the identifier of another hides it at
every snapshot, also at those before its own projection. -/

set_option autoImplicit false

namespace ContextDb.Index

open Std Lib ContextDb.Core ExtTreeMap BTreeSet List Option

abbrev RepresentationId := Uuid

inductive IndexError
  | invalid (reason : String)
  | futureWatermark (watermark snapshot : Nat)
  | unknownRepresentation (id : RepresentationId)
  | staleAuthorization | invalidBudget
deriving DecidableEq

structure IndexPolicy where
  workspaceId : WorkspaceId
  memorySpaces : BTreeSet MemorySpaceId
  (subjects owners : BTreeSet MemorySubjectId)
  scopes : BTreeSet ScopeId
  purposes : BTreeSet Purpose
  securityLabels : BTreeSet String
  requiredCompartments : BTreeSet ScopeId
  retrieveAllowed : Bool
  deletedAt : Option Nat

structure IndexPrincipal where
  workspaceId : WorkspaceId
  memorySpaces : BTreeSet MemorySpaceId
  (subjects ownerIdentities : BTreeSet MemorySubjectId)
  scopes : BTreeSet ScopeId
  purpose : Purpose

namespace IndexPolicy

def validate (policy : IndexPolicy) : Except IndexError Unit := do
  ensure (!(policy.memorySpaces.isEmpty || policy.owners.isEmpty || policy.purposes.isEmpty))
    (.invalid "index policy requires memory space, owner, and purpose")
  forM policy.purposes.toList fun purpose =>
    purpose.validate.mapError fun _ => .invalid "index purpose is invalid"
  ensure (!anyElement policy.securityLabels isBlank) (.invalid "security label must not be blank")

def authorizes (policy : IndexPolicy) (principal : IndexPrincipal) (snapshot : Nat) : Bool :=
  policy.retrieveAllowed && policy.workspaceId == principal.workspaceId &&
    !isDisjoint policy.memorySpaces principal.memorySpaces &&
    (policy.subjects.isEmpty || !isDisjoint policy.subjects principal.subjects) &&
    !isDisjoint policy.owners principal.ownerIdentities &&
      policy.purposes.contains principal.purpose &&
    isSubset policy.scopes principal.scopes &&
      isSubset policy.requiredCompartments principal.scopes &&
    policy.deletedAt.all (snapshot < ·)

end IndexPolicy

structure LexicalDocument where
  id : RepresentationId
  target : LineageNode
  text : String
  aliases : List String
  policy : IndexPolicy
  validTime : TimeRange
  projectedAt : Nat
  tombstoneAt : Option Nat

namespace LexicalDocument

def validate (document : LexicalDocument) : Except IndexError Unit := do
  document.policy.validate
  ensure (!isBlank document.text) (.invalid "lexical text must not be blank")
  ensure (!document.aliases.any isBlank) (.invalid "lexical alias must not be blank")
  ensure (document.tombstoneAt.all (document.projectedAt ≤ ·))
    (.invalid "lexical tombstone precedes its projection")

/-- Projected by the snapshot, not deleted at it, and open to the principal. -/
def visible (document : LexicalDocument) (principal : IndexPrincipal) (snapshot : Nat) : Bool :=
  document.projectedAt ≤ snapshot && document.tombstoneAt.all (snapshot < ·) &&
    document.policy.authorizes principal snapshot

def valid (document : LexicalDocument) (validAt : Option Int) : Bool :=
  validAt.all document.validTime.contains

end LexicalDocument

abbrev Documents := BTreeMap RepresentationId LexicalDocument

abbrev Entry := RepresentationId × LexicalDocument

structure AuthorizedLexicalUniverse where
  (snapshot generation : Nat)
  documentIds : BTreeSet RepresentationId

structure LexicalHit where
  representationId : RepresentationId
  target : LineageNode
  score : Float32

structure LexicalTrace where
  (snapshot generation authorizedExamined returned watermark : Nat)
deriving DecidableEq

structure LexicalSearchResult where
  hits : List LexicalHit
  trace : LexicalTrace

structure LexicalIndex where
  (generation watermark : Nat)
  (base delta : Documents)

structure Platform where
  lowercase : String → String
  isAlphanumeric : Char → Bool

/-- The position of a score in the total order of floats, as `total_cmp` reads it off the bits. -/
def totalRank (score : Float32) : Int :=
  let bits := score.toBits.toNat
  if bits < 0x80000000 then bits else 0x7fffffff - bits

namespace Platform

variable (platform : Platform)

def tokens (value : String) : List String :=
  ((value.splitToList (!platform.isAlphanumeric ·)).filter (!·.isEmpty)).map platform.lowercase

def exactScore (query document : List String) : Float32 :=
  (query.map fun term => Float32.ofNat (document.count term)).foldl (· + ·) 0 /
    (Float32.ofNat (max document.length 1)).sqrt

def hit (query : List String) (entry : Entry) : Option LexicalHit :=
  let terms := platform.tokens entry.2.text ++ entry.2.aliases.flatMap platform.tokens
  let score := exactScore query terms
  if score > 0 then some ⟨entry.1, entry.2.target, score⟩ else none

def ranked (query : List String) (limit : Nat) (examined : List Entry) : List LexicalHit :=
  (sortBy (compareLex (fun left right => compare (totalRank right.score) (totalRank left.score))
    (compareOn (·.representationId))) (examined.filterMap (platform.hit query))).take limit

def result (query : List String) (limit snapshot generation watermark : Nat)
    (examined : List Entry) : LexicalSearchResult :=
  let hits := platform.ranked query limit examined
  ⟨hits, snapshot, generation, examined.length, hits.length, watermark⟩

end Platform

namespace LexicalIndex

variable (index : LexicalIndex)

def documents : Documents :=
  index.base ∪ index.delta

def upsert (document : LexicalDocument) : Except IndexError LexicalIndex := do
  document.validate
  return { index with delta := index.delta.insert document.id document }

def authorize (principal : IndexPrincipal) (snapshot : Nat) :
    Except IndexError AuthorizedLexicalUniverse := do
  ensure (index.watermark ≤ snapshot) (.futureWatermark index.watermark snapshot)
  let visible := index.documents.toList.filter (·.2.visible principal snapshot)
  return ⟨snapshot, index.generation, (∅ : BTreeSet RepresentationId).insertMany
    (visible.map (·.1))⟩

def validateUniverse (authorized : AuthorizedLexicalUniverse) : Except IndexError Unit :=
  ensure (authorized.generation == index.generation && index.watermark ≤
    authorized.snapshot) .staleAuthorization

def entries (ids : BTreeSet RepresentationId) (validAt : Option Int) : List Entry :=
  ids.toList.filterMap fun id => ((index.documents[id]?).filter (·.valid validAt)).map (id, ·)

/-- The documents a search examines; it stops at the first identifier without a document. -/
def examine (ids : BTreeSet RepresentationId) (validAt : Option Int) :
    Except IndexError (List Entry) :=
  match ids.toList.find? (!index.documents.contains ·) with
  | some id => .error (.unknownRepresentation id)
  | none => .ok (index.entries ids validAt)

def searchExact (platform : Platform) (index : LexicalIndex)
    (authorized : AuthorizedLexicalUniverse)
    (query : String) (validAt : Option Int) (limit : Nat) :
    Except IndexError LexicalSearchResult := do
  index.validateUniverse authorized
  ensure (limit != 0) .invalidBudget
  ensure (!(platform.tokens query).isEmpty) (.invalid "lexical query has no searchable terms")
  let examined ← index.examine authorized.documentIds validAt
  return platform.result (platform.tokens query) limit authorized.snapshot authorized.generation
    index.watermark examined

def answer (platform : Platform) (index : LexicalIndex) (principal : IndexPrincipal)
    (snapshot : Nat) (query : String) (validAt : Option Int) (limit : Nat) :
    Except IndexError LexicalSearchResult := do
  let authorized ← index.authorize principal snapshot
  index.searchExact platform authorized query validAt limit

def visibleEntries (principal : IndexPrincipal) (snapshot : Nat) (validAt : Option Int) :
    List Entry :=
  index.documents.toList.filter fun entry =>
    entry.2.visible principal snapshot && entry.2.valid validAt

end LexicalIndex

variable {platform : Platform} {index after : LexicalIndex} {principal : IndexPrincipal}
  {snapshot limit : Nat} {query : String} {validAt : Option Int} {documents : List LexicalDocument}
variable {ids : BTreeSet RepresentationId} {entry : Entry}

theorem mem_entries : entry ∈ index.entries ids validAt ↔
      entry.1 ∈ ids ∧ index.documents[entry.1]? = some entry.2 ∧ entry.2.valid validAt = true := by
  obtain ⟨id, document⟩ := entry
  simp only [LexicalIndex.entries, mem_filterMap, ExtTreeSet.mem_toList, map_eq_some_iff,
    filter_eq_some_iff, Prod.mk.injEq]
  constructor
  · intro listed
    obtain ⟨_, known, _, ⟨found, valid⟩, rfl, rfl⟩ := listed
    exact ⟨known, found, valid⟩
  · intro read
    obtain ⟨known, found, valid⟩ := read
    exact ⟨id, known, document, ⟨found, valid⟩, rfl, rfl⟩

theorem entries_ordered : Ordered (index.entries ids validAt) := by
  refine List.Pairwise.filterMap _ ?_ ExtTreeSet.ordered_toList
  intro left right before first firstRead second secondRead
  obtain ⟨_, _, rfl⟩ := map_eq_some_iff.mp firstRead
  obtain ⟨_, _, rfl⟩ := map_eq_some_iff.mp secondRead
  exact before

theorem authorize_ok {authorized : AuthorizedLexicalUniverse}
    (issued : index.authorize principal snapshot = .ok authorized) :
    authorized.snapshot = snapshot ∧ authorized.generation = index.generation ∧
      ∀ id : RepresentationId, id ∈ authorized.documentIds ↔ ∃ document,
        index.documents[id]? = some document ∧ document.visible principal snapshot = true := by
  have issued := rest_ok issued
  cases issued
  refine ⟨rfl, rfl, fun id => ?_⟩
  simp [mem_toList_iff_getElem?_eq_some]

theorem mem_visibleEntries : entry ∈ index.visibleEntries principal snapshot validAt ↔
      index.documents[entry.1]? = some entry.2 ∧ entry.2.visible principal snapshot = true ∧
        entry.2.valid validAt = true := by
  obtain ⟨id, document⟩ := entry
  simp [LexicalIndex.visibleEntries, mem_toList_iff_getElem?_eq_some]

theorem answer_eq (current : index.watermark ≤ snapshot) :
    index.answer platform principal snapshot query validAt limit = if limit =
      0 then .error .invalidBudget
      else if platform.tokens query = [] then
        .error (.invalid "lexical query has no searchable terms")
      else .ok (platform.result (platform.tokens query) limit snapshot index.generation
        index.watermark (index.visibleEntries principal snapshot validAt)) := by
  have permitted : ensure (index.watermark ≤ snapshot)
      (IndexError.futureWatermark index.watermark snapshot) = .ok () := by simp [current]
  obtain ⟨authorized, issued⟩ : ∃ authorized, index.authorize principal snapshot =
    .ok authorized := by
    rw [LexicalIndex.authorize, permitted]
    exact ⟨_, rfl⟩
  obtain ⟨rfl, generation, member⟩ := authorize_ok issued
  have known : authorized.documentIds.toList.find? (!index.documents.contains ·) = none := by
    refine find?_eq_none.mpr fun id listed => ?_
    obtain ⟨document, found, _⟩ := (member id).mp (ExtTreeSet.mem_toList.mp listed)
    simp [contains_eq_isSome_getElem?, found]
  have read : index.entries authorized.documentIds validAt =
    index.visibleEntries principal authorized.snapshot validAt := by
    refine entries_ordered.eq_of_mem_iff ((ordered_toList _).filter _) fun entry => ?_
    rw [mem_entries, mem_visibleEntries, member]
    constructor
    · intro listed
      obtain ⟨⟨held, stored, visible⟩, found, valid⟩ := listed
      cases stored.symm.trans found
      exact ⟨found, visible, valid⟩
    · intro seen
      obtain ⟨found, visible, valid⟩ := seen
      exact ⟨⟨entry.2, found, visible⟩, found, valid⟩
  have usable : index.validateUniverse authorized = .ok () :=
    ensure_ok_iff.mpr (by simp [generation, current])
  rw [LexicalIndex.answer, issued, ok_bind, LexicalIndex.searchExact, usable, ok_bind,
    LexicalIndex.examine, known, read, generation]
  cases limit with
  | zero => rfl
  | succ limit => cases platform.tokens query <;> rfl

theorem documents_upsert {document : LexicalDocument} {next : LexicalIndex}
    (upserted : index.upsert document = .ok next) :
    next.generation = index.generation ∧ next.watermark = index.watermark ∧
      ∀ id, next.documents[id]? =
        if document.id = id then some document else index.documents[id]? := by
  have upserted := rest_ok upserted
  cases upserted
  refine ⟨rfl, rfl, fun id => ?_⟩
  rw [LexicalIndex.documents, LexicalIndex.documents, getElem?_union, getElem?_union]
  by_cases same : document.id = id
  · rw [if_pos same, same, getElem?_insert_self, some_or]
  · rw [if_neg same, BTreeMap.getElem?_insert_of_ne same]

/-- Under each identifier the last version upserted is read, or what was there. -/
theorem documents_upserts (upserted : documents.foldlM LexicalIndex.upsert index = .ok after) :
    after.generation = index.generation ∧ after.watermark = index.watermark ∧
      ∀ id, (∃ document ∈ documents, after.documents[id]? = some document ∧ document.id = id) ∨
        after.documents[id]? = index.documents[id]? ∧ ∀ document ∈ documents, document.id ≠ id := by
  induction documents generalizing index with
  | nil =>
    cases upserted
    exact ⟨rfl, rfl, fun id => .inr ⟨rfl, fun document listed => by cases listed⟩⟩
  | cons document rest ih =>
    rw [foldlM_cons] at upserted
    obtain ⟨next, staged, upserted⟩ := bind_ok upserted
    obtain ⟨nextGeneration, nextWatermark, nextRead⟩ := documents_upsert staged
    obtain ⟨generation, watermark, read⟩ := ih upserted
    refine ⟨generation.trans nextGeneration, watermark.trans nextWatermark, fun id => ?_⟩
    cases read id with
    | inl later =>
      obtain ⟨other, listed, stored⟩ := later
      exact .inl ⟨other, mem_cons_of_mem _ listed, stored⟩
    | inr untouched =>
      rw [untouched.1, nextRead]
      by_cases same : document.id = id
      · exact .inl ⟨document, mem_cons_self, if_pos same, same⟩
      · exact .inr ⟨if_neg same, forall_mem_cons.mpr ⟨same, untouched.2⟩⟩

/-- A staged version is not visible yet, so only unstaged identifiers are still read. -/
theorem mem_visibleEntries_upserts (upserted : documents.foldlM LexicalIndex.upsert index =
    .ok after)
    (later : ∀ document ∈ documents, snapshot < document.projectedAt) :
    entry ∈ after.visibleEntries principal snapshot validAt ↔
      entry ∈ index.visibleEntries principal snapshot validAt ∧
        ∀ document ∈ documents, document.id ≠ entry.1 := by
  rw [mem_visibleEntries, mem_visibleEntries]
  cases (documents_upserts upserted).2.2 entry.1 with
  | inl staged =>
    obtain ⟨document, listed, stored, same⟩ := staged
    have unseen : document.visible principal snapshot = false := by
      simp [LexicalDocument.visible, Nat.not_le.mpr (later document listed)]
    rw [stored]
    constructor
    · intro seen
      obtain ⟨found, visible, _⟩ := seen
      cases some.inj found
      rw [unseen] at visible
      cases visible
    · intro held
      exact absurd same (held.2 document listed)
  | inr untouched =>
    rw [untouched.1]
    exact (and_iff_left untouched.2).symm

/-- Upserts of later projections leave an answer alone exactly if the answer is an error anyway or
none of them has the identifier of a document that the answer reads. -/
theorem later_upserts_unnoticed_iff (current : index.watermark ≤ snapshot)
    (upserted : documents.foldlM LexicalIndex.upsert index = .ok after)
    (later : ∀ document ∈ documents, snapshot < document.projectedAt) :
    after.answer platform principal snapshot query validAt limit =
        index.answer platform principal snapshot query validAt limit ↔
      limit = 0 ∨ platform.tokens query = [] ∨ ∀ document ∈ documents, ∀ held,
        index.documents[document.id]? = some held → held.visible principal snapshot = true →
          held.valid validAt = false := by
  obtain ⟨generation, watermark, _⟩ := documents_upserts upserted
  rw [answer_eq current, answer_eq (watermark ▸ current), generation, watermark]
  by_cases noLimit : limit = 0
  · simp [noLimit]
  by_cases noTerms : platform.tokens query = []
  · simp [noTerms]
  simp only [noLimit, noTerms, if_false, false_or]
  constructor
  · intro same document listed held stored visible
    have counted := congrArg (fun result => result.trace.authorizedExamined) (Except.ok.inj same)
    have fewer : (after.visibleEntries principal snapshot validAt).Subperm
        (index.visibleEntries principal snapshot validAt) :=
      subperm_of_subset ((ordered_toList _).filter _).nodup fun entry read =>
        ((mem_visibleEntries_upserts upserted later).mp read).1
    have permuted := fewer.perm_of_length_le (Nat.le_of_eq counted.symm)
    by_contra valid
    have read : (document.id, held) ∈ index.visibleEntries principal snapshot validAt :=
      mem_visibleEntries.mpr ⟨stored, visible, Bool.not_eq_false _ ▸ valid⟩
    have unstaged := (mem_visibleEntries_upserts upserted later).mp (permuted.mem_iff.mpr read)
    exact unstaged.2 document listed rfl
  · intro untouched
    have same : after.visibleEntries principal snapshot validAt =
      index.visibleEntries principal snapshot validAt := by
      refine ((ordered_toList _).filter _).eq_of_mem_iff
        ((ordered_toList _).filter _) fun entry => ?_
      refine (mem_visibleEntries_upserts upserted later).trans (and_iff_left_of_imp ?_)
      intro read document listed same
      obtain ⟨found, visible, valid⟩ := mem_visibleEntries.mp read
      rw [← same] at found
      rw [untouched document listed _ found visible] at valid
      cases valid
    rw [same]

private def plain : Platform := ⟨id, Char.isAlphanum⟩

private def reader : IndexPrincipal :=
  ⟨.numbered 1, {.numbered 2}, ∅, {.numbered 3}, ∅, .audit⟩

private def notice : LexicalDocument where
  id := ⟨4⟩
  target := .observation (.numbered 5)
  text := "gate open"
  aliases := []
  policy := ⟨.numbered 1, {.numbered 2}, ∅, {.numbered 3}, ∅, {.audit}, ∅, ∅, true, none⟩
  validTime := ⟨0, none⟩
  projectedAt := 1
  tombstoneAt := none

private def indexed : LexicalIndex :=
  ⟨0, 0, ∅, (∅ : Documents).insert notice.id notice⟩

private def revised : LexicalDocument :=
  { notice with projectedAt := 2 }

/-- A revision projected at commit 2 takes the notice out of the answers at commit 1. -/
theorem revision_hides_notice : ¬ ∀ (platform : Platform) (index after : LexicalIndex)
    (principal : IndexPrincipal)
      (snapshot : Nat) (query : String) (validAt : Option Int) (limit : Nat)
      (documents : List LexicalDocument), index.watermark ≤ snapshot →
      documents.foldlM LexicalIndex.upsert index = .ok after →
      (∀ document ∈ documents, snapshot < document.projectedAt) →
      after.answer platform principal snapshot query validAt limit =
        index.answer platform principal snapshot query validAt limit := by
  intro claim
  have before : yields (indexed.answer plain reader 1 "gate" none 1)
    (·.trace.authorizedExamined == 1) = true := by
    decide +kernel
  have staged : yields ([revised].foldlM LexicalIndex.upsert indexed) (fun after =>
      yields (after.answer plain reader 1 "gate" none 1)
        (·.trace.authorizedExamined == 0)) = true := by
    decide +kernel
  obtain ⟨after, upserted, hidden⟩ := yields_iff.mp staged
  rw [claim plain indexed after reader 1 "gate" none 1 [revised] (by decide +kernel) upserted
    (by simp [revised])] at hidden
  obtain ⟨result, answered, one⟩ := yields_iff.mp before
  rw [answered] at hidden
  rw [yields, eq_of_beq one] at hidden
  cases hidden

/-- A later document with an identifier of its own. -/
theorem later_upserts_unnoticed_iff_addendum : ∃ after,
    [{ revised with id := ⟨6⟩ }].foldlM LexicalIndex.upsert indexed = .ok after ∧
      after.answer plain reader 1 "gate" none 1 = indexed.answer plain reader 1 "gate" none 1 := by
  have staged : yields ([{ revised with id := ⟨6⟩ }].foldlM LexicalIndex.upsert indexed)
    (fun _ => true) = true := by
    decide +kernel
  obtain ⟨after, upserted, _⟩ := yields_iff.mp staged
  refine ⟨after, upserted, (later_upserts_unnoticed_iff ?_ upserted ?_).mpr (.inr (.inr ?_))⟩
  · decide +kernel
  · simp [revised]
  · have absent : indexed.documents[(⟨6⟩ : RepresentationId)]?.isNone = true := by decide +kernel
    intro document listed held stored
    rw [mem_singleton.mp listed] at stored
    rw [stored] at absent
    cases absent

end ContextDb.Index
