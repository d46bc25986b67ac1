import ContextDb.Reference.CurrentView
import ContextDb.Reference.Read

/-! Historical reads. Later operations may close an interval, but a retained snapshot
keeps its revisions and, unless the record is deleted, their content. -/

set_option autoImplicit false

namespace ContextDb.Reference

open Lib Std ContextDb.Core

variable {codec : Codec} {state base middle next later : State} {draft : Draft} {id : LogicalId}

structure Extends (state later : State) : Prop where
  databaseId : later.databaseId = state.databaseId
  head : state.head ≤ later.head
  past : ∀ id atSeq, atSeq ≤ state.head →
    (later.lookup id atSeq).map (·.settled) = (state.lookup id atSeq).map (·.settled)
  deleted : ∀ id, later.deleted id = false → state.deleted id = false
  contents : ∀ (id : LogicalId) (commitSeq : Nat)
    (key : String), ContentKey "record" id commitSeq key →
    commitSeq ≤ state.head → later.deleted id = false → later.contents[key]? = state.contents[key]?

theorem Extends.refl (state : State) : Extends state state where
  databaseId := rfl
  head := Nat.le_refl _
  past _ _ _ := rfl
  deleted _ live := live
  contents _ _ _ _ _ _ := rfl

theorem Extends.trans (first : Extends state middle) (second : Extends middle later) :
    Extends state later where
  databaseId := second.databaseId.trans first.databaseId
  head := first.head.trans second.head
  past id atSeq bounded :=
    (second.past id atSeq (bounded.trans first.head)).trans (first.past id atSeq bounded)
  deleted id live := first.deleted id (second.deleted id live)
  contents id commitSeq key shape bounded live :=
    (second.contents id commitSeq key shape (bounded.trans first.head) live).trans
      (first.contents id commitSeq key shape bounded (second.deleted id live))

/-- The record content of the base that a draft keeps. -/
def KeepsContents (base : State) (draft : Draft) : Prop :=
  ∀ (id : LogicalId) (commitSeq : Nat) (key : String), ContentKey "record" id commitSeq key →
    commitSeq ≤ base.head → draft.state.deleted id = false →
      draft.state.contents[key]? = base.contents[key]?

variable {revision : StoredRevision}

theorem KeepsContents.write {record : LogicalRecord} {value : Value}
    (keeps : KeepsContents base draft) (facts : WriteFacts (base.head + 1) draft record revision) :
    KeepsContents base (draft.write revision value) := by
  intro id commitSeq key shape bounded live
  rw [← keeps id commitSeq key shape bounded live]
  refine BTreeMap.getElem?_insert_of_ne ?_
  rintro rfl
  have same := (facts.content.key.inj shape (by decide) (by decide)).2.2
  omega

theorem KeepsContents.erase {target requestedBy : LogicalId} {reason : String}
    (sound : Sound codec base) (held : DraftSound base draft) (keeps : KeepsContents base draft) :
    KeepsContents base (draft.erase target requestedBy reason (base.head + 1)) := by
  intro id commitSeq key shape bounded live
  obtain ⟨outside, earlier⟩ := Draft.live_of_erase live
  rw [← keeps id commitSeq key shape bounded earlier, Draft.erase,
    contents_eraseAll (SameRecords.refl draft.state), if_neg]
  rintro ⟨erased, closed, member⟩
  have different : id ≠ erased := by
    rintro rfl
    exact outside (mem_deletionClosure_iff.mp (ExtTreeSet.mem_toList.mp closed))
  exact (held.ownedKey sound member).ne_record shape different rfl

theorem KeepsContents.runs {effects : List Effect} (sound : Sound codec base)
    (run : Runs (Performs (base.head + 1)) { state := base, affectedIds := ∅ } effects draft) :
    KeepsContents base draft := by
  have both : DraftSound base draft ∧ KeepsContents base draft := by
    refine run.preserves (fun draft => DraftSound base draft ∧ KeepsContents base draft)
      ⟨.start sound, fun _ _ _ _ _ _ => rfl⟩ ?_
    rintro before effect after _ ⟨held, keeps⟩ performed
    cases performed with
    | write value facts => exact ⟨held.write sound facts, keeps.write facts⟩
    | delete requestedBy reason live known => exact ⟨held.erase sound live, keeps.erase sound held⟩
  exact both.2

theorem Published.extends {operation : Operation} (sound : Sound codec state)
    (published : Published codec state operation next) : Extends state next := by
  cases published with
  | observation captures reference publishes =>
    obtain ⟨record, _, _, content, _, value, contents⟩ := captures.observation
    refine ⟨?_, ?_, ?_, ?_, ?_⟩
    · rw [publishes.databaseId, captures.databaseId]
    · rw [publishes.head, captures.head]
      omega
    · intro id atSeq _
      rw [publishes.lookup, captures.lookup]
    · intro id live
      rwa [publishes.deleted, captures.deleted] at live
    · intro id commitSeq key shape _ _
      rw [publishes.keeps_record (.inl rfl) reference.key shape, contents]
      refine BTreeMap.getElem?_insert_of_ne ?_
      rintro rfl
      exact absurd (content.key.inj shape (by decide) (by decide)).1 (by decide)
  | transaction carries run complete kind reference publishes =>
    have drafting := (Drafting.start sound.histories).runs run
    refine ⟨?_, ?_, ?_, ?_, ?_⟩
    · rw [publishes.databaseId, drafting.databaseId]
    · rw [publishes.head, drafting.head]
      omega
    · intro id atSeq bounded
      rw [publishes.lookup]
      exact drafting.past id atSeq bounded
    · intro id live
      rw [publishes.deleted] at live
      by_contra deleted
      rw [Bool.not_eq_false, State.deleted, ← ExtTreeMap.isSome_getElem?_eq_contains] at deleted
      obtain ⟨tombstone, found⟩ := Option.isSome_iff_exists.mp deleted
      rw [deleted_of_tombstone (drafting.kept id tombstone found)] at live
      cases live
    · intro id commitSeq key shape bounded live
      rw [publishes.keeps_record (.inr kind) reference.key shape]
      rw [publishes.deleted] at live
      exact KeepsContents.runs sound run id commitSeq key shape bounded live

theorem runs_extends {admits : State → Operation → Prop} {operations : List Operation}
    (sound : Sound codec state)
    (run : Runs (Operation.Executes codec admits) state operations later) :
    Extends state later := by
  have both : Sound codec later ∧ Extends state later := by
    refine run.preserves (fun later => Sound codec later ∧ Extends state later)
      ⟨sound, .refl state⟩ ?_
    rintro before operation after _ ⟨held, extension⟩ ⟨_, rfl⟩
    rcases execute_cases held.histories operation with unchanged | published
    · rw [unchanged]
      exact ⟨held, extension⟩
    · exact ⟨published.sound held, extension.trans (published.extends held)⟩
  exact both.2

variable {snapshot : Snapshot} {principal : Principal} {record : MaterializedRecord}

structure ReadFacts (codec : Codec) (state : State) (id : LogicalId) (snapshot : Snapshot)
    (principal : Principal) (record : MaterializedRecord) : Prop where
  database : snapshot.databaseId = state.databaseId
  bounded : snapshot.commitSeq ≤ state.head
  found : state.lookup id snapshot.commitSeq = some record.revision
  policy : currentUsePolicyAllows state id principal = true
  allowed : principal.allows record.revision.record.access = true
  content : contentForRevision codec state record.revision = .ok record.content

theorem get_ok_iff : get codec state id snapshot principal = .ok record ↔
      ReadFacts codec state id snapshot principal record := by
  constructor
  · intro read
    obtain ⟨handle, read⟩ := unit_ok read
    obtain ⟨database, bounded⟩ := unit_ok handle
    have read := rest_ok read
    obtain ⟨revision, found, read⟩ := bind_ok read
    obtain ⟨policy, read⟩ := unit_ok read
    obtain ⟨allowed, read⟩ := unit_ok read
    obtain ⟨content, loaded, success⟩ := bind_ok read
    cases success
    exact ⟨of_decide_eq_true (ensure_ok_iff.mp database),
      of_decide_eq_true (ensure_ok_iff.mp bounded), required_ok found,
      ensure_ok_iff.mp policy, ensure_ok_iff.mp allowed, loaded⟩
  · intro facts
    have live : (!state.deleted id) = true := (Bool.and_eq_true_iff.mp facts.policy).1
    refine bind_ok_iff.mpr ⟨(), bind_ok_iff.mpr ⟨(), ensure_ok_iff.mpr
      (decide_eq_true facts.database),
      ensure_ok_iff.mpr (decide_eq_true facts.bounded)⟩, ?_⟩
    refine bind_ok_iff.mpr ⟨(), ensure_ok_iff.mpr live, ?_⟩
    refine bind_ok_iff.mpr ⟨record.revision, by rw [facts.found]; rfl, ?_⟩
    refine bind_ok_iff.mpr ⟨(), ensure_ok_iff.mpr facts.policy, ?_⟩
    refine bind_ok_iff.mpr ⟨(), ensure_ok_iff.mpr facts.allowed, ?_⟩
    exact bind_ok_iff.mpr ⟨record.content, facts.content, rfl⟩

theorem ReadFacts.live (facts : ReadFacts codec state id snapshot principal record) :
    state.deleted id = false := by
  have live : (!state.deleted id) = true := (Bool.and_eq_true_iff.mp facts.policy).1
  simpa only [Bool.not_eq_true'] using live

theorem contentForRevision_congr {revision again : StoredRevision}
    (settled : again.settled = revision.settled)
    (stored : later.contents[revision.content.id]? = state.contents[revision.content.id]?) :
    contentForRevision codec later again = contentForRevision codec state revision := by
  have sameContent : again.settled.content = revision.settled.content := by rw [settled]
  have sameId : again.settled.id = revision.settled.id := by rw [settled]
  change again.content = revision.content at sameContent
  change again.id = revision.id at sameId
  simp only [contentForRevision, sameContent, sameId, stored]

/-- The revision a snapshot selects keeps its metadata and, while the record lives,
its content. -/
theorem Extends.selected {atSeq : Nat} (sound : Sound codec state) (extension : Extends state later)
    (bounded : atSeq ≤ state.head) (found : state.lookup id atSeq = some revision)
    (live : later.deleted id = false) :
    ∃ again, later.lookup id atSeq = some again ∧ again.settled = revision.settled ∧
      contentForRevision codec later again = contentForRevision codec state revision := by
  have past := extension.past id atSeq bounded
  rw [found, Option.map_some, Option.map_eq_some_iff] at past
  obtain ⟨again, foundAgain, settled⟩ := past
  obtain ⟨history, stored, member⟩ := State.lookup_mem found
  have facts := sound.histories.revisions id history stored revision member
  refine ⟨again, foundAgain, settled, contentForRevision_congr settled ?_⟩
  exact extension.contents id revision.transactionFrom _ facts.content.key facts.bounded live

theorem policy_refused {atSeq : Nat} (sound : Sound codec state) (live : state.deleted id = false)
    (found : state.lookup id atSeq = some revision)
    (refused : currentUsePolicyAllows state id principal ≠ true) :
    ∃ current, state.lookup id state.head = some current ∧
      (current.record.lifecycle = .suppressed ∨ current.record.lifecycle = .retracted ∨
        principal.allows current.record.access = false) := by
  obtain ⟨history, stored, _⟩ := State.lookup_mem found
  obtain ⟨current, last, _⟩ := sound.histories.settled id history stored
  have atHead : state.lookup id state.head = some current := by
    rw [sound.histories.lookup_of_le (Nat.le_refl _), stored]
    exact last
  refine ⟨current, atHead, ?_⟩
  by_contra usable
  push Not at usable
  obtain ⟨notSuppressed, notRetracted, allowed⟩ := usable
  rw [Ne, Bool.not_eq_false] at allowed
  apply refused
  simp [currentUsePolicyAllows, live, atHead, notSuppressed, notRetracted, allowed]

/-- A read that succeeded stays the same at its snapshot; it can only be lost to a
deletion, or to the lifecycle and label of the revision at the later head. -/
theorem get_stable (reachable : ReachableBy codec anyOperation state) {operations : List Operation}
    (run : Runs (Operation.Executes codec anyOperation) state operations later)
    (read : get codec state id snapshot principal = .ok record) :
    (∀ again, get codec later id snapshot principal = .ok again →
      again.revision.settled = record.revision.settled ∧ again.content = record.content) ∧
    ((get codec later id snapshot principal = .error .unauthorized ∨
        ∃ kind key, get codec later id snapshot principal = .error (notFound kind key)) →
          later.deleted id = true ∨
        ∃ current, later.lookup id later.head = some current ∧
          (current.record.lifecycle = .suppressed ∨ current.record.lifecycle = .retracted ∨
            principal.allows current.record.access = false)) := by
  have sound := reachable_sound reachable
  have extension := runs_extends sound run
  have facts := get_ok_iff.mp read
  constructor
  · intro again readAgain
    have factsAgain := get_ok_iff.mp readAgain
    obtain ⟨revision, found, settled, content⟩ :=
      extension.selected sound facts.bounded facts.found factsAgain.live
    rw [factsAgain.found, Option.some.injEq] at found
    rw [← found] at settled content
    rw [factsAgain.content, facts.content, Except.ok.injEq] at content
    exact ⟨settled, content⟩
  · intro failed
    cases live : later.deleted id with
    | true => exact .inl rfl
    | false =>
      right
      obtain ⟨revision, found, settled, content⟩ :=
        extension.selected sound facts.bounded facts.found live
      refine policy_refused (reachable_sound (reachable.extend run)) live found ?_
      intro policy
      -- With the policy still in favour the read would have succeeded.
      have readAgain : get codec later id snapshot principal = .ok
        { revision, content := record.content } := by
        refine get_ok_iff.mpr ⟨?_, facts.bounded.trans extension.head, found, policy, ?_, ?_⟩
        · rw [extension.databaseId, facts.database]
        · rw [StoredRevision.settled_record settled, facts.allowed]
        · rw [content, facts.content]
      rcases failed with failed | ⟨kind, key, failed⟩ <;> rw [readAgain] at failed <;> cases failed

def nodeOnce : State :=
  (State.empty "db").commits plainCodec [[plainNode "n" "w"]]

def nodeTwice : State :=
  nodeOnce.commits plainCodec [[plainNode "n" "w"]]

theorem replaced_node_read_stable : ∃ record again : MaterializedRecord,
      get plainCodec nodeOnce "n" (snapshotFor nodeOnce 1) (plainPrincipal "w") = .ok record ∧
      get plainCodec nodeTwice "n" (snapshotFor nodeOnce 1) (plainPrincipal "w") = .ok again ∧
      again.revision.transactionTo = some 2 ∧ again.revision.settled = record.revision.settled ∧
      again.content = record.content := by
  have reachable : ReachableBy plainCodec anyOperation nodeOnce :=
    (ReachableBy.empty (by decide)).commits fun _ _ _ _ => trivial
  obtain ⟨operations, run⟩ : ∃ operations, Runs (Operation.Executes plainCodec anyOperation)
      nodeOnce operations nodeTwice := State.runs_commits fun _ _ _ _ => trivial
  have ends : (get plainCodec nodeOnce "n" (snapshotFor nodeOnce 1) (plainPrincipal "w")).map
          (·.revision.transactionTo) = .ok none ∧
        (get plainCodec nodeTwice "n" (snapshotFor nodeOnce 1) (plainPrincipal "w")).map
          (·.revision.transactionTo) = .ok (some 2) := by decide +kernel
  cases read : get plainCodec nodeOnce "n" (snapshotFor nodeOnce 1) (plainPrincipal "w") with
  | error failure => rw [read] at ends; cases ends.1
  | ok record =>
    cases readAgain : get plainCodec nodeTwice "n" (snapshotFor nodeOnce 1)
      (plainPrincipal "w") with
    | error failure => rw [readAgain] at ends; cases ends.2
    | ok again =>
      have closed := ends.2
      rw [readAgain, Except.map, Except.ok.injEq] at closed
      exact ⟨record, again, rfl, rfl, closed, (get_stable reachable run read).1 again readAgain⟩

end ContextDb.Reference
