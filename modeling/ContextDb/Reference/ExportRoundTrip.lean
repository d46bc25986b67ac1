import ContextDb.Reference.PlainCodec
import ContextDb.Reference.Soundness
import ContextDb.Reference.Read

/-! Revision chains. A write numbers its revision after the one current at the base
head, so chains stay well formed as long as no transaction writes an id twice. -/

set_option autoImplicit false

namespace ContextDb.Reference

open Lib Std ContextDb.Core List State

variable {codec : Codec} {state base next : State} {draft final : Draft} {id : LogicalId}
  {front history : List StoredRevision} {last revision : StoredRevision}

/-- Revisions numbered from one, of one family, with adjacent system-time intervals
of which only the last is open. -/
structure RevisionChain (history : List StoredRevision) : Prop where
  numbered : ∀ (index : Nat) (revision : StoredRevision), history[index]? = some revision →
    revision.revision = index + 1
  family : ∀ revision ∈ history, ∀ other ∈ history, revision.record.kind = other.record.kind ∧
    revision.record.access.workspace = other.record.access.workspace
  increasing : ∀ (index : Nat) (earlier later : StoredRevision), history[index]? = some earlier →
    history[index + 1]? = some later → earlier.transactionFrom < later.transactionFrom
  adjacent : ∀ (index : Nat) (earlier later : StoredRevision), history[index]? = some earlier →
    history[index + 1]? = some later → earlier.transactionTo = some later.transactionFrom
  openEnd : ∀ (index : Nat) (revision : StoredRevision), history[index]? = some revision →
    (revision.transactionTo = none ↔ index + 1 = history.length)

private theorem getElem?_snoc {index : Nat} {found : StoredRevision}
    (present : (front ++ [last])[index]? = some found) :
    (index < front.length ∧ front[index]? = some found) ∨
    (index = front.length ∧ found = last) := by
  rcases Nat.lt_trichotomy index front.length with inside | same | outside
  · rw [getElem?_append_left inside] at present
    exact .inl ⟨inside, present⟩
  · subst index
    rw [getElem?_concat_length] at present
    exact .inr ⟨rfl, (Option.some.inj present).symm⟩
  · rw [getElem?_eq_none (by simp; omega)] at present
    cases present

theorem RevisionChain.singleton (number : revision.revision = 1)
    (opened : revision.transactionTo = none) : RevisionChain [revision] := by
  have only : ∀ (index : Nat) (found : StoredRevision), [revision][index]? = some found →
    index = 0 ∧ found = revision := by
    intro index found present
    have split := getElem?_snoc (show ([] ++ [revision])[index]? = some found from present)
    simpa using split
  constructor
  · intro index found present
    obtain ⟨rfl, rfl⟩ := only index found present
    exact number
  · intro first firstMember second secondMember
    rw [mem_singleton.mp firstMember, mem_singleton.mp secondMember]
    exact ⟨rfl, rfl⟩
  · intro index earlier later _ present
    have impossible := (only (index + 1) later present).1
    omega
  · intro index earlier later _ present
    have impossible := (only (index + 1) later present).1
    omega
  · intro index found present
    obtain ⟨rfl, rfl⟩ := only index found present
    simp [opened]

theorem RevisionChain.extend (chain : RevisionChain (front ++ [last]))
    (number : revision.revision = last.revision + 1) (kind : last.record.kind =
      revision.record.kind)
    (workspace : last.record.access.workspace = revision.record.access.workspace)
    (later : last.transactionFrom < revision.transactionFrom)
    (opened : revision.transactionTo = none) :
    RevisionChain (front ++ [{ last with transactionTo := some revision.transactionFrom }] ++
      [revision]) := by
  have lastFound : (front ++ [last])[front.length]? = some last := getElem?_concat_length
  have earlierFound : ∀ (index : Nat) (found : StoredRevision), front[index]? = some found →
    (front ++ [last])[index]? = some found := by
    intro index found present
    have inside : index < front.length := (List.getElem?_eq_some_iff.mp present).1
    rwa [List.getElem?_append_left inside]
  -- Every position is in front, the closed predecessor, or the new revision.
  have positions : ∀ (index : Nat) (found : StoredRevision),
      (front ++ [{ last with transactionTo := some revision.transactionFrom }] ++
        [revision])[index]? = some found →
      (index < front.length ∧ front[index]? = some found) ∨ (index = front.length ∧
        found = { last with transactionTo := some revision.transactionFrom }) ∨
          (index = front.length + 1 ∧ found = revision) := by
    intro index found present
    rcases getElem?_snoc present with ⟨_, closed⟩ | ⟨position, same⟩
    · rcases getElem?_snoc closed with inside | closing
      · exact .inl inside
      · exact .inr (.inl closing)
    · exact .inr (.inr ⟨by simpa using position, same⟩)
  have members : ∀ found ∈ front ++
    [{ last with transactionTo := some revision.transactionFrom }] ++
      [revision], found.record.kind = last.record.kind ∧
        found.record.access.workspace = last.record.access.workspace := by
    intro found member
    rw [append_assoc, mem_append] at member
    rcases member with earlier | recent
    · exact chain.family found (mem_append_left _ earlier) last (by simp)
    · rcases mem_cons.mp recent with rfl | newest
      · exact ⟨rfl, rfl⟩
      · rw [mem_singleton.mp newest]
        exact ⟨kind.symm, workspace.symm⟩
  constructor
  · intro index found present
    rcases positions index found present with ⟨_, inside⟩ | ⟨rfl, rfl⟩ | ⟨rfl, rfl⟩
    · exact chain.numbered index found (earlierFound index found inside)
    · exact chain.numbered front.length last lastFound
    · rw [number, chain.numbered front.length last lastFound]
  · intro first firstMember second secondMember
    obtain ⟨firstKind, firstWorkspace⟩ := members first firstMember
    obtain ⟨secondKind, secondWorkspace⟩ := members second secondMember
    exact ⟨firstKind.trans secondKind.symm, firstWorkspace.trans secondWorkspace.symm⟩
  · intro index earlier next earlierAt nextAt
    rcases positions index earlier earlierAt with ⟨_, inside⟩ | ⟨rfl, rfl⟩ | ⟨rfl, rfl⟩
    · rcases positions (index + 1) next nextAt with ⟨_, following⟩ | ⟨position, rfl⟩ |
        ⟨position, rfl⟩
      · exact chain.increasing index earlier next (earlierFound _ _ inside)
          (earlierFound _ _ following)
      · exact chain.increasing index earlier last (earlierFound _ _ inside) (position ▸ lastFound)
      · omega
    · rcases positions _ next nextAt with ⟨bound, _⟩ | ⟨position, _⟩ | ⟨_, rfl⟩
      · omega
      · omega
      · exact later
    · rcases positions _ next nextAt with ⟨bound, _⟩ | ⟨position, _⟩ | ⟨position, _⟩ <;> omega
  · intro index earlier next earlierAt nextAt
    rcases positions index earlier earlierAt with ⟨_, inside⟩ | ⟨rfl, rfl⟩ | ⟨rfl, rfl⟩
    · rcases positions (index + 1) next nextAt with ⟨_, following⟩ | ⟨position, rfl⟩ |
        ⟨position, rfl⟩
      · exact chain.adjacent index earlier next (earlierFound _ _ inside)
          (earlierFound _ _ following)
      · exact chain.adjacent index earlier last (earlierFound _ _ inside) (position ▸ lastFound)
      · omega
    · rcases positions _ next nextAt with ⟨bound, _⟩ | ⟨position, _⟩ | ⟨_, rfl⟩
      · omega
      · omega
      · rfl
    · rcases positions _ next nextAt with ⟨bound, _⟩ | ⟨position, _⟩ | ⟨position, _⟩ <;> omega
  · intro index found present
    simp only [length_append, length_singleton]
    rcases positions index found present with ⟨bound, inside⟩ | ⟨rfl, rfl⟩ | ⟨rfl, rfl⟩
    · have closed := chain.openEnd index found (earlierFound _ _ inside)
      simp only [length_append, length_singleton] at closed
      rw [closed]
      omega
    · simp
    · simp [opened]

def Mutation.writtenIds : Mutation → List LogicalId
  | .put record _ => [record.id]
  | .correct target replacement => [target, replacement.id]
  | .retract target => [target]
  | .delete _ _ _ => []

def writesOnce (_ : State) (operation : Operation) : Prop :=
  ∀ transaction, operation.transaction = some transaction →
    (transaction.mutations.flatMap (·.writtenIds)).Nodup

def Effect.writtenId : Effect → Option LogicalId
  | .write id _ => some id
  | .delete _ => none

variable {effects : List Effect}

theorem writtenIds_write {metadata : LogicalRecordMetadata} :
    (Effect.write id metadata :: effects).filterMap (·.writtenId) = id :: effects.filterMap
    (·.writtenId) := rfl

theorem writtenIds_delete : (Effect.delete id :: effects).filterMap
    (·.writtenId) = effects.filterMap (·.writtenId) := rfl

theorem Mutation.effects_writtenIds (mutation : Mutation) :
    ((mutation.effects base).filterMap (·.writtenId)).Sublist mutation.writtenIds := by
  have lifecycle : ∀ target lifecycle, ((base.lifecycleWrite target lifecycle).filterMap
    (·.writtenId)).Sublist [target] := by
    intro target lifecycle
    rw [lifecycleWrite]
    cases base.lookup target base.head with
    | none => exact nil_sublist _
    | some current => exact List.Sublist.refl _
  cases mutation with
  | put record expected => exact List.Sublist.refl _
  | correct target replacement =>
    simp only [Mutation.effects, filterMap_append]
    exact (lifecycle target .superseded).append (List.Sublist.refl _)
  | retract target => exact lifecycle target .retracted
  | delete target requestedBy reason => exact nil_sublist _

theorem writtenIds_nodup {transaction : SemanticTransaction}
    (unique : (transaction.mutations.flatMap (·.writtenIds)).Nodup) :
    ((transaction.effects base).filterMap (·.writtenId)).Nodup := by
  refine unique.sublist ?_
  rw [SemanticTransaction.effects]
  induction transaction.mutations with
  | nil => exact nil_sublist _
  | cons mutation rest ih =>
    simp only [flatMap_cons, filterMap_append]
    exact (mutation.effects_writtenIds).append ih

def AllChains (state : State) : Prop :=
  ∀ (id : LogicalId) (history : List StoredRevision), state.histories[id]? = some history →
    RevisionChain history

variable {record : LogicalRecord}

theorem WriteFacts.successor {commitSeq : Nat} {current : StoredRevision}
    (facts : WriteFacts commitSeq draft record revision)
    (found : draft.state.lookup record.id draft.state.head = some current) :
    revision.revision = current.revision + 1 := by
  have number := facts.number
  have exhausted := facts.notExhausted
  rw [found] at number
  simp only [nextRevision, Option.elim_some] at number
  omega

theorem AllChains.write {value : Value} (chains : AllChains draft.state)
    (sound : SoundHistories base.head base) (drafting : Drafting base draft)
    (facts : WriteFacts (base.head + 1) draft record revision)
    (untouched : draft.state.histories[record.id]? = base.histories[record.id]?) :
    AllChains (draft.write revision value).state := by
  intro id history stored
  change (draft.state.storeRevision revision value).histories[id]? = some history at stored
  rw [histories_storeRevision] at stored
  by_cases same : revision.id = id
  · have written : record.id = id := facts.id.symm.trans same
    rw [written] at untouched
    simp only [same, ↓reduceIte, Option.some.injEq] at stored
    subst history
    cases earlier : draft.state.histories[id]? with
    | none =>
      have absent : draft.state.lookup record.id draft.state.head = none := by
        rw [written, State.lookup, earlier]
        rfl
      have number := facts.number
      rw [absent] at number
      exact .singleton number facts.opened
    | some history =>
      rw [earlier] at untouched
      obtain ⟨front, last, rfl, started, _⟩ := (sound.settled id history untouched.symm).split
      have current : draft.state.lookup record.id draft.state.head = some last := by
        rw [written, drafting.head, State.lookup, earlier, Option.bind_some,
          (sound.settled id _ untouched.symm).revisionAt (Nat.le_refl _), List.getLast?_concat]
      rw [Option.getD_some, closeLast_append]
      refine (chains id _ earlier).extend (facts.successor current) ?_ ?_ ?_ facts.opened
      · rw [facts.metadata]
        exact facts.sameKind last current
      · rw [facts.metadata]
        exact facts.sameWorkspace last current
      · rw [facts.start]
        omega
  · simp only [same, ↓reduceIte] at stored
    exact chains id history stored

theorem AllChains.runs (sound : SoundHistories base.head base)
    (run : Runs (Performs (base.head + 1)) draft effects final) (drafting : Drafting base draft)
    (unique : (effects.filterMap (·.writtenId)).Nodup) (untouched : ∀ id ∈ effects.filterMap
      (·.writtenId),
      draft.state.histories[id]? = base.histories[id]?) (chains :
        AllChains draft.state) : AllChains final.state := by
  induction run with
  | nil state => exact chains
  | cons performed tail ih =>
    have following := performed.drafting drafting
    cases performed with
    | write value facts =>
      rename_i record revision
      rw [writtenIds_write] at unique untouched
      rw [nodup_cons] at unique
      rw [forall_mem_cons] at untouched
      refine ih following unique.2 ?_ (chains.write sound drafting facts untouched.1)
      intro id member
      have different : revision.id ≠ id := by
        rintro rfl
        exact unique.1 (facts.id ▸ member)
      change (storeRevision _ revision value).histories[id]? = _
      rw [histories_storeRevision, if_neg different]
      exact untouched.2 id member
    | delete requestedBy reason live known =>
      rw [writtenIds_delete] at unique untouched
      refine ih following unique ?_ ?_
      · intro id member
        rw [Draft.sameRecords_erase.histories]
        exact untouched id member
      · intro id history stored
        rw [Draft.sameRecords_erase.histories] at stored
        exact chains id history stored

theorem AllChains.published {operation : Operation} (sound : Sound codec state)
    (published : Published codec state operation next) (once : writesOnce state operation)
    (chains : AllChains state) : AllChains next := by
  cases published with
  | observation captures reference publishes =>
    intro id history stored
    rw [publishes.histories, captures.histories] at stored
    exact chains id history stored
  | transaction carries run complete kind reference publishes =>
    intro id history stored
    rw [publishes.histories] at stored
    have unique := once _ carries
    exact AllChains.runs sound.histories run (.start sound.histories) (writtenIds_nodup unique)
      (fun _ _ => rfl) chains id history stored

theorem reachable_allChains (reachable : ReachableBy codec writesOnce state) : AllChains state := by
  refine reachable.invariant AllChains ?_ ?_
  · rintro initial ⟨databaseId, created⟩ id history stored
    have created := rest_ok created
    cases created
    simp at stored
  · rintro before operation after reached chains ⟨once, rfl⟩
    have sound := reachable_sound reached
    rcases execute_cases sound.histories operation with unchanged | published
    · rw [unchanged]
      exact chains
    · exact chains.published sound published once

/-- In every run whose transactions write no id twice, every history of every state
reached is a chain. -/
theorem reachable_revisionChain (reachable : ReachableBy codec writesOnce state)
    (stored : state.histories[id]? = some history) : RevisionChain history :=
  reachable_allChains reachable id history stored

/-- Two writes of one id in a transaction are both numbered after the base head. -/
theorem double_put_breaks_chain :
    ¬ ∀ (codec : Codec) (state : State), ReachableBy codec anyOperation state →
      ∀ (id : LogicalId) (history : List StoredRevision), state.histories[id]? = some history →
        RevisionChain history := by
  intro chains
  have reachable : ReachableBy plainCodec anyOperation
      ((empty "db").commits plainCodec [[plainNode "n" "w", plainNode "n" "w"]]) :=
    (ReachableBy.empty (by decide)).commits fun _ _ _ _ => trivial
  have numbers : ((empty "db").commits plainCodec
      [[plainNode "n" "w", plainNode "n" "w"]]).histories["n"]?.map (·.map (·.revision)) = some
        [1, 1] := by
    decide +kernel
  obtain ⟨history, stored, listed⟩ := Option.map_eq_some_iff.mp numbers
  have second : (history.map (·.revision))[1]? = some 1 := by rw [listed]; rfl
  rw [getElem?_map] at second
  obtain ⟨revision, found, number⟩ := Option.map_eq_some_iff.mp second
  have expected := (chains _ _ reachable "n" history stored).numbered 1 revision found
  omega

/-- Writing the id in two transactions makes a chain of two revisions. -/
theorem separate_puts_chain : ∃ history, ((empty "db").commits plainCodec
      [[plainNode "n" "w"], [plainNode "n" "w"]]).histories["n"]? = some history ∧
        history.length = 2 ∧ RevisionChain history := by
  have reachable : ReachableBy plainCodec writesOnce
      ((empty "db").commits plainCodec [[plainNode "n" "w"], [plainNode "n" "w"]]) := by
    refine (ReachableBy.empty (by decide)).commits ?_
    intro state mutations key member transaction carries
    cases carries
    simp only [mem_cons, not_mem_nil, or_false, or_self] at member
    subst mutations
    change ([plainNode "n" "w"].flatMap (·.writtenIds)).Nodup
    decide
  have lengths : ((empty "db").commits plainCodec
      [[plainNode "n" "w"], [plainNode "n" "w"]]).histories["n"]?.map (·.length) = some 2 := by
    decide +kernel
  obtain ⟨history, stored, length⟩ := Option.map_eq_some_iff.mp lengths
  exact ⟨history, stored, length, reachable_revisionChain reachable stored⟩

/-! Logical export and import. -/

variable (codec : Codec)

def exportFormat : String := "contextdb.logical.v1"

def logicalExport (state : State) : LogicalExport where
  format := exportFormat
  databaseId := state.databaseId
  head := state.head
  watermarks := state.watermarks
  histories := state.histories
  observations := state.observations
  tombstones := state.tombstones
  journal := state.journal
  idempotency := state.idempotency
  contents := state.contents

def checkJournalRecord (previousDigest : Option String) (entry : JournalRecord × Nat) :
    Result (Option String) := do
  let (record, index) := entry
  ensure (index + 1 < 2 ^ 64) (.invalidImport "journal sequence overflow")
  ensure (record.commitSeq = index + 1 && record.previousDigest = previousDigest)
    (.invalidImport "journal sequence or digest chain is invalid")
  let actual ← codec.journalDigest record.commitSeq record.previousDigest record.event
  ensure (actual = record.recordDigest) (.invalidImport "journal record digest mismatch")
  pure (some record.recordDigest)

variable (exported : LogicalExport)

def checkRevision (id : LogicalId) (previousTo : Option Nat) (entry : StoredRevision × Nat) :
    Result (Option Nat) := do
  let (revision, index) := entry
  ensure (index < 2 ^ 32) (.invalidImport "out of range integral type conversion attempted")
  ensure (index + 1 < 2 ^ 32) (.invalidImport "revision overflow")
  ensure (!(revision.id != id || revision.revision != index + 1 || revision.transactionFrom = 0 ||
      exported.head < revision.transactionFrom || (previousTo != some revision.transactionFrom &&
        0 < index)))
    (.invalidImport ("invalid revision chain for " ++ id))
  ensure revision.record.validTime.isValid (.invalidImport
    ("invalid domain-time interval for " ++ id))
  ensure (exported.tombstones.contains id || exported.contents.contains revision.content.id)
    (.invalidImport ("missing content " ++ revision.content.id ++ " for " ++ id))
  pure revision.transactionTo

def checkHistory (entry : LogicalId × List StoredRevision) : Result Unit := do
  let _ ← entry.2.zipIdx.foldlM (checkRevision exported entry.1) none
  pure ()

def validateExport : Result Unit := do
  ensure (exported.format = exportFormat) (.invalidImport
    ("unsupported export format " ++ exported.format))
  ensure (!isBlank exported.databaseId) (.invalidImport "database identifier is empty")
  ensure (exported.head = exported.journal.length) (.invalidImport "head does not match contiguous journal length")
  let _ ← exported.journal.zipIdx.foldlM (checkJournalRecord codec) none
  forM exported.histories.toList (checkHistory exported)

def exportState (state : State) : Result (List UInt8) :=
  codec.canonicalVec (codec.exportToValue (logicalExport state))

def importState (fromSlice : List UInt8 → Except String LogicalExport) (bytes : List UInt8) :
    Result State := do
  let exported ← (fromSlice bytes).mapError .invalidImport
  validateExport codec exported
  let state : State :=
    { databaseId := exported.databaseId, head := exported.head, watermarks := exported.watermarks
      histories := exported.histories, observations := exported.observations, tombstones := exported.tombstones
      journal := exported.journal, idempotency := exported.idempotency, contents := exported.contents
      securityIndexes := .default }
  let securityIndexes ← rebuildSecurityIndexes state
  let indexed := { state with securityIndexes }
  verifySecurityIndexes indexed
  pure indexed

/-! Importing an export restores the state. The importer checks the digest chain, the
revision chains and the presence of content, and rebuilds the indexes; all of these
are invariants of the runs that write each id once per transaction. -/

variable {codec : Codec} {state : State} {history : List StoredRevision}

def Codec.RoundTrips (codec : Codec) (fromSlice : List UInt8 → Except String LogicalExport)
    (exported : LogicalExport) : Prop :=
  ∃ bytes, codec.canonicalVec (codec.exportToValue exported) = .ok bytes ∧
    fromSlice bytes = .ok exported

theorem DigestChain.checked {journal : List JournalRecord} (chain : DigestChain codec journal)
    (bounded : journal.length < 2 ^ 64) : journal.zipIdx.foldlM (checkJournalRecord codec) none =
      .ok (journal.getLast?.map (·.recordDigest)) := by
  induction chain with
  | nil => rfl
  | snoc chain computed ih =>
    rename_i journal digest event
    simp only [length_append, length_singleton] at bounded
    rw [zipIdx_append, foldlM_append, ih (by omega)]
    have checked : checkJournalRecord codec (journal.getLast?.map (·.recordDigest))
        (⟨journal.length + 1, journal.getLast?.map (·.recordDigest), digest, event⟩,
          journal.length) = .ok (some digest) := by
      refine bind_ok_iff.mpr ⟨(), ensure_ok_iff.mpr (by simpa using bounded), ?_⟩
      refine bind_ok_iff.mpr ⟨(), ensure_ok_iff.mpr (by simp), ?_⟩
      refine bind_ok_iff.mpr ⟨digest, computed, ?_⟩
      exact bind_ok_iff.mpr ⟨(), ensure_ok_iff.mpr (by simp), rfl⟩
    simp only [Nat.zero_add, zipIdx_singleton, getLast?_concat, Option.map_some]
    exact bind_ok_iff.mpr ⟨_, rfl, bind_ok_iff.mpr ⟨some digest, checked, rfl⟩⟩

theorem checkRevision_ok (sound : Sound codec state) (chain : RevisionChain history)
    (stored : state.histories[id]? = some history) {index : Nat} {revision : StoredRevision}
    (found : history[index]? = some revision) {previousTo : Option Nat}
    (previous : 0 < index → previousTo = some revision.transactionFrom) :
    checkRevision (logicalExport state) id previousTo (revision,
      index) = .ok revision.transactionTo := by
  have member : revision ∈ history := mem_of_getElem? found
  have facts := sound.histories.revisions id history stored revision member
  have number := chain.numbered index revision found
  have bound : revision.revision < 2 ^ 32 - 1 := facts.number
  have adjacent : (previousTo != some revision.transactionFrom && decide (0 < index)) = false := by
    cases index with
    | zero => simp
    | succ index => simp [previous (Nat.succ_pos _)]
  have kept : (state.tombstones.contains id || state.contents.contains revision.content.id) =
    true := by
    cases deleted : state.deleted id with
    | true =>
      rw [State.deleted] at deleted
      rw [deleted, Bool.true_or]
    | false => rw [sound.present id history deleted stored revision member, Bool.or_true]
  have owner : revision.id = id := facts.owner
  have positive : 0 < revision.transactionFrom := facts.positive
  have started : revision.transactionFrom ≤ state.head := facts.bounded
  refine bind_ok_iff.mpr ⟨(), ensure_ok_iff.mpr (by simp; omega), ?_⟩
  refine bind_ok_iff.mpr ⟨(), ensure_ok_iff.mpr (by simp; omega), ?_⟩
  refine bind_ok_iff.mpr ⟨(), ensure_ok_iff.mpr ?_, ?_⟩
  · rw [adjacent]
    simp [owner, number, logicalExport, Nat.ne_of_gt positive]
    exact decide_eq_false (Nat.not_lt.mpr started)
  · refine bind_ok_iff.mpr ⟨(), ensure_ok_iff.mpr facts.validTime, ?_⟩
    exact bind_ok_iff.mpr ⟨(), ensure_ok_iff.mpr kept, rfl⟩

theorem checkHistory_ok (sound : Sound codec state) (chain : RevisionChain history)
    (stored : state.histories[id]? = some history) : checkHistory (logicalExport state)
    (id, history) = .ok () := by
  -- Before each position the loop holds the closing bound of the position before.
  let reached (index : Nat) (previousTo : Option Nat) : Prop :=
    ∀ revision, history[index]? = some revision → 0 < index →
      previousTo = some revision.transactionFrom
  have passes : ∃ final, history.zipIdx.foldlM (checkRevision
    (logicalExport state) id) none = .ok final := by
    refine foldlM_zipIdx_ok reached ?_ ?_
    · intro revision _ impossible
      omega
    · intro index revision previousTo found held
      refine ⟨revision.transactionTo, checkRevision_ok sound chain stored found
        (held revision found), ?_⟩
      intro following next _
      exact chain.adjacent index revision following found next
  obtain ⟨final, finished⟩ := passes
  exact bind_ok_iff.mpr ⟨final, finished, rfl⟩

theorem validateExport_ok (sound : Sound codec state) (chains : AllChains state) :
    validateExport codec (logicalExport state) = .ok () := by
  have journal := sound.chain.checked (by rw [sound.length]; exact sound.bounded)
  have histories : forM state.histories.toList (checkHistory (logicalExport state)) = .ok () := by
    refine forM_ok_iff.mpr ?_
    rintro ⟨id, history⟩ member
    have stored := ExtTreeMap.mem_toList_iff_getElem?_eq_some.mp member
    exact checkHistory_ok sound (chains id history stored) stored
  refine bind_ok_iff.mpr ⟨(), ensure_ok_iff.mpr (by simp [logicalExport]), ?_⟩
  refine bind_ok_iff.mpr ⟨(), ensure_ok_iff.mpr (by simp [logicalExport, sound.named]), ?_⟩
  refine bind_ok_iff.mpr ⟨(), ensure_ok_iff.mpr (by simp [logicalExport, sound.length]), ?_⟩
  exact bind_ok_iff.mpr ⟨_, journal, histories⟩

/-- In every run whose transactions write no id twice, importing the export of a state
restores that state, so that exporting it again gives the same bytes. -/
theorem import_export_restores (reachable : ReachableBy codec writesOnce state)
    {fromSlice : List UInt8 → Except String LogicalExport}
    (roundTrips : codec.RoundTrips fromSlice (logicalExport state)) :
    ∃ bytes, exportState codec state = .ok bytes ∧
      importState codec fromSlice bytes = .ok state := by
  obtain ⟨bytes, encoded, decoded⟩ := roundTrips
  have sound := reachable_sound reachable
  have chains := reachable_allChains reachable
  refine ⟨bytes, encoded, ?_⟩
  refine bind_ok_iff.mpr ⟨logicalExport state, by rw [decoded]; rfl, ?_⟩
  refine bind_ok_iff.mpr ⟨(), validateExport_ok sound chains, ?_⟩
  refine bind_ok_iff.mpr ⟨state.securityIndexes, sound.indexes, ?_⟩
  refine bind_ok_iff.mpr ⟨(), ?_, rfl⟩
  exact bind_ok_iff.mpr ⟨state.securityIndexes, sound.indexes, by simp⟩

theorem plainCodec_roundTrips : plainCodec.RoundTrips (plainParser [exported]) exported :=
  ⟨_, rfl, plainParser_rendered exported⟩

/-- A state with an id written twice in one transaction exports, but its export is
refused. -/
theorem double_put_export_refused :
    ¬ ∀ (codec : Codec) (fromSlice : List UInt8 → Except String LogicalExport) (state : State),
      ReachableBy codec anyOperation state → codec.RoundTrips fromSlice (logicalExport state) →
      ∃ bytes, exportState codec state = .ok bytes ∧ importState codec fromSlice bytes =
        .ok state := by
  intro restores
  have reachable : ReachableBy plainCodec anyOperation
      ((State.empty "db").commits plainCodec [[plainNode "n" "w", plainNode "n" "w"]]) :=
    (ReachableBy.empty (by decide)).commits fun _ _ _ _ => trivial
  have refused : validateExport plainCodec (logicalExport
      ((State.empty "db").commits plainCodec [[plainNode "n" "w", plainNode "n" "w"]])) =
        .error (.invalidImport "invalid revision chain for n") := by
    decide +kernel
  obtain ⟨bytes, exported, imported⟩ := restores _ _ _ reachable (plainCodec_roundTrips _)
  cases exported
  obtain ⟨parsed, decoded, imported⟩ := bind_ok imported
  rw [plainParser_rendered] at decoded
  cases decoded
  obtain ⟨accepted, _⟩ := unit_ok imported
  rw [refused] at accepted
  cases accepted

/-- A state after a dispute and a deletion is restored. -/
theorem deleted_dispute_restored : ((State.empty "db").commits plainCodec
      [plainDispute, [.delete "n" "actor" "request"]]).deleted "c" = true ∧
    ∃ bytes, exportState plainCodec ((State.empty "db").commits plainCodec
        [plainDispute, [.delete "n" "actor" "request"]]) = .ok bytes ∧
      importState plainCodec (plainParser [logicalExport ((State.empty "db").commits plainCodec
        [plainDispute, [.delete "n" "actor" "request"]])]) bytes = .ok
          ((State.empty "db").commits plainCodec
          [plainDispute, [.delete "n" "actor" "request"]]) := by
  refine ⟨by decide +kernel, import_export_restores ?_ (plainCodec_roundTrips _)⟩
  refine (ReachableBy.empty (by decide)).commits ?_
  intro state mutations key member transaction carries
  cases carries
  simp only [mem_cons, not_mem_nil, or_false] at member
  rcases member with rfl | rfl
  · change (plainDispute.flatMap (·.writtenIds)).Nodup
    decide
  · exact nodup_nil

end ContextDb.Reference
