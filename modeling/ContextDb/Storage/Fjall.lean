import Mathlib.Algebra.Order.Ring.Nat
import ContextDb.Lib.Collections
import ContextDb.Lib.Execution

/-! Fjall commits in two steps. The physical commit is serialized; the snapshot that is retained
under its sequence is taken only afterwards, when other commits may have come in between. -/

set_option autoImplicit false

namespace ContextDb.Storage

open Lib Std ExtTreeMap BTreeMap

abbrev Bytes := List UInt8

inductive StorageError
  | snapshotUnavailable (requested head : Nat)
  | writeConflict (base head : Nat)
  | backend (backend message : String)
deriving DecidableEq

inductive SnapshotSelector
  | latest
  | at (sequence : Nat)

namespace Fjall

abbrev Tables := BTreeMap Bytes (BTreeMap Bytes Bytes)

inductive Change
  | put (value : Bytes)
  | delete

/-- What a read transaction of the database sees, the head sequence of its metadata included. -/
structure Snapshot where
  head : Nat
  tables : Tables

variable (snapshot : Snapshot)

def Snapshot.get (space key : Bytes) : Option Bytes :=
  snapshot.tables[space]?.bind (·[key]?)

structure FjallStorage where
  database : Snapshot
  retained : BTreeMap Nat Snapshot

/-- The changes by keyspace and key, in the order the hash map yields them. -/
structure FjallTransaction where
  baseSequence : Nat
  changes : List ((Bytes × Bytes) × Change)

structure FjallSnapshot where
  sequence : Nat
  snapshot : Snapshot

def maxRetainedSnapshots : Nat := 64

/-- A keyspace that is missing is created, also to delete from it. -/
def Change.apply (tables : Tables) : (Bytes × Bytes) × Change → Tables
  | ((space, key), .put value) => updateEntry tables space ∅ (·.insert key value)
  | ((space, key), .delete) => updateEntry tables space ∅ (·.erase key)

def popFirst (retained : BTreeMap Nat Snapshot) : BTreeMap Nat Snapshot :=
  match retained.minKey? with
  | some first => retained.erase first
  | none => retained

namespace FjallStorage

variable (storage : FjallStorage)

/-- The serialized part of a commit. -/
def publish (transaction : FjallTransaction) : Except StorageError (Nat × FjallStorage) := do
  let current := storage.database.head
  ensure (current = transaction.baseSequence) (.writeConflict transaction.baseSequence current)
  ensure (current + 1 < 2 ^ 64) (.backend "fjall" "commit sequence exhausted")
  pure (current + 1, { storage with
    database := ⟨current + 1, transaction.changes.foldl Change.apply storage.database.tables⟩ })

/-- The rest of a commit: retain what the database shows now under the commit's sequence. -/
def capture (sequence : Nat) : FjallStorage :=
  let retained := storage.retained.insert sequence storage.database
  { storage with retained := Nat.repeat popFirst (retained.size - maxRetainedSnapshots) retained }

def beginRead : SnapshotSelector → Except StorageError FjallSnapshot
  | .latest => .ok ⟨storage.database.head, storage.database⟩
  | .at requested =>
    match storage.retained[requested]? with
    | some snapshot => .ok ⟨requested, snapshot⟩
    | none => .error (.snapshotUnavailable requested storage.database.head)

end FjallStorage

/-- A storage, the commits between their two steps, and what each commit produced. -/
structure System where
  storage : FjallStorage
  capturing : List Nat
  produced : BTreeMap Nat Tables

inductive Event
  | publish (transaction : FjallTransaction)
  | capture (sequence : Nat)

inductive Step (system : System) : Event → System → Prop
  | publish {transaction : FjallTransaction} {sequence : Nat} {next : FjallStorage}
      (published : system.storage.publish transaction = .ok (sequence, next)) :
      Step system (.publish transaction) ⟨next, sequence :: system.capturing,
        system.produced.insert sequence next.database.tables⟩
  | capture {sequence : Nat} (waiting : sequence ∈ system.capturing) :
      Step system (.capture sequence) ⟨system.storage.capture sequence,
        system.capturing.erase sequence, system.produced⟩

def opened : System :=
  ⟨⟨snapshot, (∅ : BTreeMap Nat Snapshot).insert snapshot.head snapshot⟩, [],
    (∅ : BTreeMap Nat Tables).insert snapshot.head snapshot.tables⟩

variable (system : System)

/-- No other commit is published before a commit takes its snapshot. -/
def PromptStep (event : Event) (next : System) : Prop :=
  Step system event next ∧ ∀ sequence, event = .capture sequence →
    system.storage.database.head = sequence

theorem getElem?_popFirst {retained : BTreeMap Nat Snapshot} {rounds sequence : Nat}
    {snapshot : Snapshot} (found : (Nat.repeat popFirst rounds retained)[sequence]? =
      some snapshot) :
    retained[sequence]? = some snapshot := by
  induction rounds with
  | zero => exact found
  | succ rounds ih =>
    refine ih ?_
    rw [Nat.repeat, popFirst] at found
    split at found
    · rw [getElem?_erase] at found
      split at found
      · cases found
      · exact found
    · exact found

/-- A snapshot that shows what the commit of its sequence produced. -/
def Exact (sequence : Nat) (snapshot : Snapshot) : Prop :=
  sequence ≤ system.storage.database.head ∧ snapshot.head = sequence ∧
    system.produced[sequence]? = some snapshot.tables

/-- The database and every retained snapshot are exact. -/
def AllExact : Prop :=
  Exact system system.storage.database.head system.storage.database ∧
    ∀ (sequence : Nat) (snapshot : Snapshot),
      system.storage.retained[sequence]? = some snapshot → Exact system sequence snapshot

theorem AllExact.opened : AllExact (opened snapshot) := by
  have current : Exact (Fjall.opened snapshot) snapshot.head snapshot :=
    ⟨Nat.le_refl _, rfl, getElem?_insert_self⟩
  refine ⟨current, fun sequence found listed => ?_⟩
  by_cases same : snapshot.head = sequence
  · subst same
    cases getElem?_insert_self.symm.trans listed
    exact current
  · simp [Fjall.opened, getElem?_insert_of_ne same] at listed

theorem AllExact.step {system next : System} {event : Event} (held : AllExact system)
    (step : PromptStep system event next) : AllExact next := by
  obtain ⟨step, prompt⟩ := step
  cases step with
  | publish published =>
    have published := rest_ok published
    have published := rest_ok published
    cases published
    refine ⟨⟨Nat.le_refl _, rfl, getElem?_insert_self⟩, fun sequence snapshot found => ?_⟩
    obtain ⟨behind, labelled, produced⟩ := held.2 sequence snapshot found
    refine ⟨Nat.le_succ_of_le behind, labelled, ?_⟩
    rw [getElem?_insert_of_ne (by omega), produced]
  | @capture sequence waiting =>
    refine ⟨held.1, fun other snapshot found => ?_⟩
    have inserted := getElem?_popFirst found
    by_cases same : sequence = other
    · subst same
      cases getElem?_insert_self.symm.trans inserted
      exact prompt sequence rfl ▸ held.1
    · rw [getElem?_insert_of_ne same] at inserted
      exact held.2 other snapshot inserted

abbrev ReachedBy (step : System → Event → System → Prop) : System → Prop :=
  Reachable (fun system => ∃ snapshot, system = opened snapshot) step

/-- While every commit takes its snapshot before the next commit is published, a historical read
shows exactly what the commit of its sequence produced. -/
theorem retained_snapshots_exact {system : System} (reached : ReachedBy PromptStep system)
    {requested : Nat} {view : FjallSnapshot} (read : system.storage.beginRead
      (.at requested) = .ok view) :
    view.sequence = requested ∧ view.snapshot.head = requested ∧
      system.produced[requested]? = some view.snapshot.tables := by
  have held := reached.invariant AllExact (fun _ ⟨snapshot, start⟩ => start ▸ .opened snapshot)
    fun _ _ _ _ held step => held.step step
  simp only [FjallStorage.beginRead] at read
  split at read
  · next snapshot found =>
    cases read
    exact ⟨rfl, (held.2 requested snapshot found).2⟩
  · cases read

/-! ### Two commits -/

def setting (baseSequence : Nat) (value : UInt8) : FjallTransaction :=
  ⟨baseSequence, [(([110], [0]), .put [value])]⟩

theorem beginRead_capture {storage : FjallStorage} {sequence : Nat}
    (room : storage.retained.size < maxRetainedSnapshots) :
    (storage.capture sequence).beginRead (.at sequence) = .ok ⟨sequence, storage.database⟩ := by
  have size := size_insert_le (t := storage.retained) (k := sequence) (v := storage.database)
  have kept : (storage.retained.insert sequence storage.database).size - maxRetainedSnapshots =
    0 := by
    omega
  simp [FjallStorage.beginRead, FjallStorage.capture, kept, Nat.repeat]

theorem opened_room : (opened snapshot).storage.retained.size < maxRetainedSnapshots := by
  simp [opened, size_insert, maxRetainedSnapshots]

/-- The snapshot of the first commit is still retained after that of the second. -/
theorem beginRead_first (first second : Tables) :
    FjallStorage.beginRead (FjallStorage.capture ⟨⟨2, second⟩,
      (FjallStorage.capture ⟨⟨1, first⟩, .insert ∅ 0 ⟨0, ∅⟩⟩ 1).retained⟩ 2) (.at 1) = .ok
        ⟨1, ⟨1, first⟩⟩ := by
  simp [FjallStorage.beginRead, FjallStorage.capture, size_insert, maxRetainedSnapshots, Nat.repeat]
  rw [ExtTreeMap.getElem_insert, dif_neg (by decide), ExtTreeMap.getElem_insert_self]

/-- Two commits that each take their snapshot at once: reading at the first still shows the first. -/
theorem retained_snapshots_exact_first : ∃ system view, ReachedBy PromptStep system ∧
    system.storage.database.head = 2 ∧
      system.storage.beginRead (.at 1) = .ok view ∧ view.snapshot.get [110] [0] = some [1] ∧
      system.produced[1]? = some view.snapshot.tables := by
  have run : Runs PromptStep (opened ⟨0, ∅⟩)
      [.publish (setting 0 1), .capture 1, .publish (setting 1 2), .capture 2] _ :=
    .cons ⟨.publish rfl, by simp⟩ (.cons ⟨.capture List.mem_cons_self, by simp [opened]⟩
      (.cons ⟨.publish rfl, by simp⟩ (.single ⟨.capture List.mem_cons_self, by simp [opened, FjallStorage.capture]⟩)))
  have reached : ReachedBy PromptStep _ := ⟨_, _, ⟨⟨0, ∅⟩, rfl⟩, run⟩
  exact ⟨_, _, reached, rfl, beginRead_first _ _, by simp [Snapshot.get, setting, Change.apply, updateEntry],
    (retained_snapshots_exact reached (beginRead_first _ _)).2.2⟩

/-- The second commit is published before the first takes its snapshot: reading at the first
shows the second. -/
theorem late_snapshot_shows_next_commit : ∃ system view tables, ReachedBy Step system ∧
      system.storage.beginRead (.at 1) = .ok view ∧ view.snapshot.get [110] [0] = some [2] ∧
      system.produced[1]? = some tables ∧ (Snapshot.mk 1 tables).get [110] [0] = some [1] := by
  have run : Runs Step (opened ⟨0, ∅⟩) [.publish (setting 0 1), .publish (setting 1 2),
    .capture 1] _ :=
    .cons (.publish rfl) (.cons (.publish rfl) (.single (.capture
      (List.mem_cons_of_mem _ List.mem_cons_self))))
  refine ⟨_, _, _, ⟨_, _, ⟨⟨0, ∅⟩, rfl⟩, run⟩, beginRead_capture (opened_room ⟨0, ∅⟩), ?_,
    (getElem?_insert_of_ne (by decide)).trans getElem?_insert_self, ?_⟩
  · simp [Snapshot.get, setting, Change.apply, updateEntry]
  · simp [Snapshot.get, setting, Change.apply, updateEntry]

end Fjall

end ContextDb.Storage
