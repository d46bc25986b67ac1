import ContextDb.Native.Suppression

/-! When reconciliation goes through. A call applies the next denials of the ledger; it needs
every one of them that the store has a policy row for to be the capture that was denied. -/

set_option autoImplicit false

namespace ContextDb.Native

open Std Lib ContextDb.Core Store Snapshot StoredObservationPolicy List ExtTreeMap

/-! ### The chain of denials -/

def denialsAfter (ledger : SuppressionLedger) (workspace : String) : Nat → Nat → List Denial
  | 0, _ => []
  | limit + 1, epoch =>
    match (ledger.rows workspace).entries[epoch + 1]? with
    | none => []
    | some entry => entry :: denialsAfter ledger workspace limit (epoch + 1)

/-- The denials of a workspace form one chain from its genesis to its head. -/
structure SuppressionLedger.Chained (service : Service) (ledger : SuppressionLedger)
    (workspace : String) : Prop where
  linked : ∀ previous : Checkpoint, previous.epoch <
    (ledger.current service.toChaining workspace).epoch →
    checkpointAt service ledger workspace previous.epoch = .ok previous →
    ∃ entry, ledger.readEntry service.toChaining workspace (previous.epoch + 1) = .ok entry ∧
      entry.previous = previous.digest
  last : checkpointAt service ledger workspace (ledger.current service.toChaining workspace).epoch =
    .ok (ledger.current service.toChaining workspace)
  bounded : ∀ epoch, (ledger.current service.toChaining workspace).epoch < epoch →
    (ledger.rows workspace).entries[epoch]? = none

variable {service : Service} {sizes : ReconciliationSizes} {workspace : String} {entry : Denial}

section

variable {ledger : SuppressionLedger} {epoch : Nat}

theorem readEntry_ok (read : ledger.readEntry service.toChaining workspace epoch = .ok entry) :
    (ledger.rows workspace).entries[epoch]? = some entry ∧ entry.epoch = epoch ∧ epoch ≠ 0 := by
  rw [SuppressionLedger.readEntry] at read
  obtain ⟨found, stored, read⟩ := bind_ok read
  obtain ⟨checked, read⟩ := unit_ok read
  cases read
  rw [ensure_ok_iff] at checked
  simp only [Bool.and_eq_true, beq_iff_eq, bne_iff_ne] at checked
  exact ⟨requireSome_ok stored, checked.1.1.2, checked.1.2⟩

theorem checkpointAt_entry (read : ledger.readEntry service.toChaining workspace epoch =
    .ok entry) :
    checkpointAt service ledger workspace epoch = .ok entry.checkpoint := by
  rw [checkpointAt, if_neg (readEntry_ok read).2.2, read]
  rfl

variable {previous : Checkpoint}

section

variable (chained : ledger.Chained service workspace)
include chained

/-- With a large enough budget the batch from a known checkpoint on is the list of denials after
it. -/
theorem affordable_batchFrom (limit : Nat)
    (known : checkpointAt service ledger workspace previous.epoch = .ok previous)
    (within : previous.epoch ≤ (ledger.current service.toChaining workspace).epoch) :
    Affordable (batchFrom service sizes ledger workspace
        (ledger.current service.toChaining workspace).epoch limit previous)
      (denialsAfter ledger workspace limit previous.epoch) := by
  induction limit generalizing previous with
  | zero => exact .pure _
  | succ limit ih =>
    rw [batchFrom, denialsAfter]
    split
    · next finished =>
      rw [chained.bounded _ (by omega)]
      exact .pure _
    · next unfinished =>
      obtain ⟨entry, read, linked⟩ := chained.linked previous (by omega) known
      obtain ⟨stored, epoch, _⟩ := readEntry_ok read
      rw [stored]
      have rest := @ih entry.checkpoint
        (by rw [show entry.checkpoint.epoch = previous.epoch + 1 from epoch]
            exact checkpointAt_entry read)
        (by rw [show entry.checkpoint.epoch = previous.epoch + 1 from epoch]; omega)
      rw [show entry.checkpoint.epoch = previous.epoch + 1 from epoch] at rest
      exact .bind (.lift read) (.bind (.charge _ _)
        (.bind (.ensure (beq_iff_eq.mpr linked)) (.bind rest (.pure _))))

theorem yields_batchFrom (limit : Nat) {entries : List Denial}
    (ran : (batchFrom service sizes ledger workspace
      (ledger.current service.toChaining workspace).epoch limit previous).Yields entries) :
    entries = denialsAfter ledger workspace limit previous.epoch := by
  induction limit generalizing previous entries with
  | zero => exact ran.pure.symm
  | succ limit ih =>
    rw [batchFrom] at ran
    split at ran
    · next finished =>
      rw [denialsAfter, chained.bounded _ (by omega)]
      exact ran.pure.symm
    · obtain ⟨entry, read, ran⟩ := ran.bind
      have ran := ran.rest
      have ran := ran.rest
      obtain ⟨rest, later, ran⟩ := ran.bind
      obtain ⟨stored, epoch, _⟩ := readEntry_ok read.lift
      cases ran.pure
      rw [denialsAfter, stored, ih later, show entry.checkpoint.epoch =
        previous.epoch + 1 from epoch]

theorem affordable_batch (limit : Nat) {applied : Checkpoint}
    (known : checkpointAt service ledger workspace applied.epoch = .ok applied)
    (within : applied.epoch ≤ (ledger.current service.toChaining workspace).epoch) :
    Affordable (batch service sizes ledger workspace applied limit)
      (denialsAfter ledger workspace limit applied.epoch) := by
  refine .bind (.lift known) (.bind (.ensure ?_) (affordable_batchFrom chained limit known within))
  simpa using within

/-- A store that is behind always gets a batch that moves it forward. -/
theorem getLast_denialsAfter (limit : Nat)
    (known : checkpointAt service ledger workspace previous.epoch = .ok previous)
    (behind : previous.epoch < (ledger.current service.toChaining workspace).epoch) :
    ∃ last, (denialsAfter ledger workspace (limit + 1) previous.epoch).getLast? = some last ∧
      previous.epoch < last.epoch ∧ last.epoch ≤
        (ledger.current service.toChaining workspace).epoch ∧
      checkpointAt service ledger workspace last.epoch = .ok last.checkpoint := by
  induction limit generalizing previous with
  | zero =>
    obtain ⟨entry, read, _⟩ := chained.linked previous behind known
    obtain ⟨stored, epoch, _⟩ := readEntry_ok read
    refine ⟨entry, by simp [denialsAfter, stored], by omega, by omega, ?_⟩
    rw [epoch]
    exact checkpointAt_entry read
  | succ limit ih =>
    obtain ⟨entry, read, _⟩ := chained.linked previous behind known
    obtain ⟨stored, epoch, _⟩ := readEntry_ok read
    rw [denialsAfter, stored]
    dsimp only
    by_cases more : entry.epoch < (ledger.current service.toChaining workspace).epoch
    · obtain ⟨last, found, later, within, recorded⟩ := @ih entry.checkpoint
        (by rw [show entry.checkpoint.epoch = previous.epoch + 1 from epoch]
            exact checkpointAt_entry read) more
      rw [show entry.checkpoint.epoch = previous.epoch + 1 from epoch] at found later
      refine ⟨last, ?_, by omega, within, recorded⟩
      rw [getLast?_cons, found]
      rfl
    · have finished : denialsAfter ledger workspace (limit + 1) (previous.epoch + 1) = [] := by
        rw [denialsAfter, chained.bounded _ (by omega)]
      refine ⟨entry, by rw [finished]; rfl, by omega, by omega, ?_⟩
      rw [epoch]
      exact checkpointAt_entry read

end

end

/-! ### Rows a denial can be applied to -/

/-- A policy row under the id of the denial belongs to the capture that was denied. -/
def Matches (service : Service) (store : Store) (workspace : String) (entry : Denial) : Prop :=
  store.policies.contains entry.eventId.display = true →
    ∃ receipt, store.receipts[entry.eventId]? = some receipt ∧ receipt.eventId = entry.eventId ∧
      receipt.databaseId = service.databaseId ∧ receipt.domain = nativeCaptureDomain ∧
      receipt.eventDigest = entry.eventDigest ∧ receipt.workspaceId.display = workspace

def StoredObservationPolicy.owner (policy : StoredObservationPolicy) : String :=
  policy.access.workspaceId

/-- What every operation of the service keeps: a capture has a policy row, which is labelled with
its own workspace, and custody follows the authorization epoch. -/
structure Store.Tidy (store : Store) (workspace : String) : Prop where
  labelled : ∀ (id : ObservationId) (receipt : CaptureReceipt) (policy : StoredObservationPolicy),
    store.receipts[id]? = some receipt → store.policies[id.display]? = some policy →
    policy.owner = receipt.workspaceId.display
  covered : ∀ (id : ObservationId) (receipt : CaptureReceipt), store.receipts[id]? = some receipt →
    store.policies.contains id.display = true
  epochs : ∀ state, (store.rows workspace).custody = some state →
    state.authorizationEpoch = (store.rows workspace).authorizationEpoch

structure Store.HasRoom (store : Store) (workspace : String) (count : Nat) : Prop where
  global : store.globalHead + count ≤ maxCounter
  journal : (store.rows workspace).journal + count ≤ maxCounter
  epoch : (store.rows workspace).authorizationEpoch + count ≤ maxCounter

theorem Store.HasRoom.less {store : Store} {count : Nat}
    (room : store.HasRoom workspace (count + 1)) : store.HasRoom workspace count :=
  ⟨Nat.le_of_succ_le room.global, Nat.le_of_succ_le room.journal, Nat.le_of_succ_le room.epoch⟩

structure Store.Reconciles (workspace : String) (before after : Store) : Prop where
  receipts : after.receipts = before.receipts
  policies : ∀ key : String, (after.policies[key]?).map owner = (before.policies[key]?).map owner
  applied : (after.rows workspace).applied = (before.rows workspace).applied
  others : ∀ other, other ≠ workspace → after.rows other = before.rows other

namespace Store.Reconciles

variable {before between after : Store}

theorem refl (store : Store) : Store.Reconciles workspace store store :=
  ⟨rfl, fun _ => rfl, rfl, fun _ _ => rfl⟩

theorem trans (first : Store.Reconciles workspace before between)
    (second : Store.Reconciles workspace between after) : Store.Reconciles workspace before after :=
  ⟨second.receipts.trans first.receipts, fun key => (second.policies key).trans
    (first.policies key),
    second.applied.trans first.applied, fun other different => (second.others other different).trans
      (first.others other different)⟩

theorem contains_policies (same : Store.Reconciles workspace before after) (key : String) :
    after.policies.contains key = before.policies.contains key := by
  have mapped := congrArg Option.isSome (same.policies key)
  simpa only [Option.isSome_map, isSome_getElem?_eq_contains] using mapped

/-- A reconciliation of the store does not change which denials match it. -/
theorem matches_iff (same : Store.Reconciles workspace before after) :
    Matches service after workspace entry ↔ Matches service before workspace entry := by
  rw [Matches, Matches, same.contains_policies, same.receipts]

end Store.Reconciles

variable {id : ObservationId} {store after : Store} {ledger : Option SuppressionLedger}
    {count : Nat}

/-- One revocation uses one place in the journal and leaves the workspace tidy. -/
theorem revokeRows_ok (count : Nat) {receipt : OriginalRevocationReceipt}
    (success : revokeRows service ⟨store, ledger⟩ workspace id = .ok (receipt, after)) :
    Store.Reconciles workspace store after ∧ (store.Tidy workspace → after.Tidy workspace) ∧
      (store.HasRoom workspace (count + 1) → after.HasRoom workspace count) := by
  rw [revokeRows] at success
  obtain ⟨policy, found, success⟩ := bind_ok success
  obtain ⟨owned, success⟩ := unit_ok success
  obtain ⟨original, _, success⟩ := bind_ok success
  obtain ⟨commit, framed, success⟩ := bind_ok success
  have success := rest_ok success
  obtain ⟨custody, invalidated, success⟩ := bind_ok success
  have left : after = _ := (congrArg Prod.snd (Except.ok.inj success)).symm
  have stored := requireSome_ok found
  have counted : commit = (store.rows workspace).journal + 1 := by
    rw [beginFrame] at framed
    have framed := rest_ok framed
    have framed := rest_ok framed
    cases framed
    rfl
  have epoch : custody.authorizationEpoch = (store.rows workspace).authorizationEpoch + 1 := by
    rw [invalidateCustody] at invalidated
    obtain ⟨_, _, invalidated⟩ := bind_ok invalidated
    cases invalidated
    rfl
  have relabelled : ∀ key : String, ((store.policies.insert id.display
        { policy with access := { policy.access with retrievable := false } })[key]?).map owner =
          (store.policies[key]?).map owner := by
    intro key
    by_cases same : id.display = key
    · rw [← same, getElem?_insert_self, stored]
      rfl
    · rw [BTreeMap.getElem?_insert_of_ne same]
  have reconciles : Store.Reconciles workspace store after := by
    rw [left]
    refine ⟨rfl, relabelled, ?_, ?_⟩
    · simp [finishFrame, advanceScopes]
    · intro other different
      rw [rows_finishFrame_of_ne _ _ different, rows_advanceScopes_of_ne _ _ _ different,
        rows_setRows_of_ne _ _ different]
      rfl
  subst left
  refine ⟨reconciles, ?_, ?_⟩
  · intro tidy
    refine ⟨?_, ?_, ?_⟩
    · intro other receipt kept received held
      have mapped := relabelled other.display
      rw [show (store.policies.insert id.display
        { policy with access := { policy.access with retrievable := false } })[other.display]? =
          some kept from held] at mapped
      obtain ⟨earlier, known, same⟩ := Option.map_eq_some_iff.mp mapped.symm
      rw [← same]
      exact tidy.labelled other receipt earlier received known
    · intro other receipt received
      rw [reconciles.contains_policies]
      exact tidy.covered other receipt received
    · intro state current
      simp only [finishFrame, advanceScopes, rows_setRows, Option.some.injEq] at current ⊢
      rw [← current, epoch]
  · intro room
    refine ⟨?_, ?_, ?_⟩
    · simp only [finishFrame, advanceScopes, setRows]
      have := room.global
      omega
    · simp only [finishFrame, advanceScopes, rows_setRows]
      have := room.journal
      omega
    · simp only [finishFrame, advanceScopes, rows_setRows]
      have := room.epoch
      omega

theorem beginFrame_of_room (room : store.HasRoom workspace (count + 1)) :
    store.beginFrame workspace = .ok ((store.rows workspace).journal + 1) := by
  have global : store.globalHead < maxCounter := by
    have := room.global
    omega
  have journal : (store.rows workspace).journal < maxCounter := by
    have := room.journal
    omega
  simp [beginFrame, ensure, global, journal]
  rfl

variable {policy : StoredObservationPolicy} {receipt : CaptureReceipt}

/-- A revocation succeeds on a tidy store with room, for a capture it owns and has a receipt of. -/
theorem exists_revokeRows (tidy : store.Tidy workspace) (room : store.HasRoom workspace (count + 1))
    (held : store.policies[id.display]? = some policy) (owned : policy.owner = workspace)
    (known : capturedReceiptMetadata service ⟨store, ledger⟩ id = .ok receipt) :
    ∃ answer after, revokeRows service ⟨store, ledger⟩ workspace id = .ok (answer, after) := by
  have epoch : (store.rows workspace).authorizationEpoch < maxCounter := by
    have := room.epoch
    omega
  have custody : custodyState ⟨store, ledger⟩ workspace = .ok (store.rows workspace).custody := by
    have consistent : ((store.rows workspace).custody.all fun state =>
        state.authorizationEpoch == (store.rows workspace).authorizationEpoch) = true := by
      cases stored : (store.rows workspace).custody with
      | none => rfl
      | some state => simpa using tidy.epochs state stored
    simp only [custodyState, ensure, consistent]
    rfl
  have labelled : (policy.access.workspaceId == workspace) = true := beq_iff_eq.mpr owned
  simp only [revokeRows, held, requireSome, Option.elim, ok_bind, labelled, known,
    beginFrame_of_room room, invalidateCustody, custody, ensure, epoch, decide_true, if_true]
  exact ⟨_, _, rfl⟩

theorem revokeDenied_ok (count : Nat) (success : revokeDenied service
    ⟨store, ledger⟩ workspace entry = .ok after) :
    Store.Reconciles workspace store after ∧ (store.Tidy workspace → after.Tidy workspace) ∧
      (store.HasRoom workspace (count + 1) → after.HasRoom workspace count) := by
  rw [revokeDenied] at success
  split at success
  · cases success
    exact ⟨.refl _, id, Store.HasRoom.less⟩
  · obtain ⟨⟨answer, between⟩, revoked, success⟩ := bind_ok success
    cases success
    obtain ⟨same, tidy, room⟩ := revokeRows_ok count revoked
    refine ⟨⟨same.receipts, same.policies, ?_, ?_⟩, ?_, ?_⟩
    · simpa using same.applied
    · intro other different
      rw [rows_setRows_of_ne _ _ different]
      exact same.others other different
    · intro before
      have after := tidy before
      refine ⟨after.labelled, after.covered, ?_⟩
      simpa using after.epochs
    · intro before
      have after := room before
      exact ⟨after.global, by simpa using after.journal, by simpa using after.epoch⟩

theorem exists_revokeDenied (tidy : store.Tidy workspace)
    (room : store.HasRoom workspace (count + 1))
    (held : store.policies[entry.eventId.display]? = some policy) (owned : policy.owner = workspace)
    (known : capturedReceiptMetadata service ⟨store, ledger⟩ entry.eventId = .ok receipt) :
    ∃ after, revokeDenied service ⟨store, ledger⟩ workspace entry = .ok after := by
  rw [revokeDenied]
  split
  · exact ⟨_, rfl⟩
  · obtain ⟨answer, after, revoked⟩ := exists_revokeRows tidy room held owned known
    rw [revoked]
    exact ⟨_, rfl⟩

theorem capturedReceiptMetadata_ok (ledger : Option SuppressionLedger) :
    capturedReceiptMetadata service ⟨store, ledger⟩ id = .ok receipt ↔
      store.receipts[id]? = some receipt ∧ receipt.eventId = id ∧
        receipt.databaseId = service.databaseId ∧ receipt.domain = nativeCaptureDomain := by
  rw [capturedReceiptMetadata]
  constructor
  · intro read
    obtain ⟨found, stored, read⟩ := bind_ok read
    obtain ⟨checked, read⟩ := unit_ok read
    cases read
    rw [ensure_ok_iff] at checked
    simp only [Bool.and_eq_true, beq_iff_eq] at checked
    exact ⟨requireSome_ok stored, checked.1.1, checked.1.2, checked.2⟩
  · intro ⟨stored, event, database, domain⟩
    simp only [stored, requireSome, Option.elim, ok_bind, ensure, event, database, domain,
      beq_self_eq_true, Bool.and_self, if_true]

/-! ### One denial -/

theorem yields_applyDenial (count : Nat)
    (ran : (applyDenial service sizes ledger workspace store entry).Yields after) :
    Matches service store workspace entry ∧ Store.Reconciles workspace store after ∧
      (store.Tidy workspace → after.Tidy workspace) ∧ (store.HasRoom workspace (count + 1) →
        after.HasRoom workspace count) := by
  rw [applyDenial] at ran
  have ran := ran.rest
  have ran := ran.rest
  cases held : store.policies[entry.eventId.display]? with
  | none =>
    rw [held] at ran
    cases ran.pure
    refine ⟨?_, .refl _, id, Store.HasRoom.less⟩
    intro present
    rw [← isSome_getElem?_eq_contains, held] at present
    cases present
  | some policy =>
    rw [held] at ran
    have ran := ran.rest
    obtain ⟨receipt, known, ran⟩ := ran.bind
    have ran := ran.rest
    obtain ⟨_, compared, ran⟩ := ran.bind
    obtain ⟨stored, event, database, domain⟩ := (capturedReceiptMetadata_ok ledger).mp known.lift
    have equal := ensure_ok_iff.mp compared.lift
    simp only [Bool.and_eq_true, beq_iff_eq] at equal
    exact ⟨fun _ => ⟨receipt, stored, event, database, domain, equal.1, equal.2⟩,
      revokeDenied_ok count ran.lift⟩

theorem affordable_applyDenial (sizes : ReconciliationSizes) (ledger : Option SuppressionLedger)
    (tidy : store.Tidy workspace) (room : store.HasRoom workspace (count + 1))
    (matching : Matches service store workspace entry) :
    ∃ after, Affordable (applyDenial service sizes ledger workspace store entry) after := by
  cases held : store.policies[entry.eventId.display]? with
  | none =>
    refine ⟨store, .bind .check (.bind (.charge _ _) ?_)⟩
    rw [held]
    exact .pure store
  | some policy =>
    have present : store.policies.contains entry.eventId.display = true := by
      rw [← isSome_getElem?_eq_contains, held]
      rfl
    obtain ⟨receipt, stored, event, database, domain, digest, owner⟩ := matching present
    have known := (capturedReceiptMetadata_ok ledger).mpr ⟨stored, event, database, domain⟩
    obtain ⟨after, revoked⟩ := exists_revokeDenied tidy room held
      ((tidy.labelled _ _ _ stored held).trans owner) known
    refine ⟨after, .bind .check (.bind (.charge _ _) ?_)⟩
    rw [held]
    refine .bind (.charge _ _) (.bind (.lift known) (.bind (.charge _ _)
      (.bind (.ensure ?_) (.lift revoked))))
    simp [digest, owner]

/-! ### A batch -/

variable {entries : List Denial}

theorem yields_applyDenials (ran : Stateful.Yields (entries.foldlM
    (applyDenial service sizes ledger workspace) store) after) :
    (∀ entry ∈ entries, Matches service store workspace entry) ∧
      Store.Reconciles workspace store after := by
  induction entries generalizing store with
  | nil =>
    rw [foldlM_nil] at ran
    cases ran.pure
    exact ⟨fun _ member => (not_mem_nil member).elim, .refl _⟩
  | cons entry rest ih =>
    rw [foldlM_cons] at ran
    obtain ⟨between, here, later⟩ := ran.bind
    obtain ⟨matching, same, _⟩ := yields_applyDenial 0 here
    obtain ⟨others, kept⟩ := ih later
    refine ⟨?_, same.trans kept⟩
    intro listed member
    cases member with
    | head => exact matching
    | tail _ member => exact same.matches_iff.mp (others listed member)

/-- A batch of matching denials can be applied as a whole; each one uses up one place of the
room. -/
theorem affordable_applyDenials (sizes : ReconciliationSizes) (ledger : Option SuppressionLedger)
    (tidy : store.Tidy workspace) (room : store.HasRoom workspace (count + entries.length))
    (matching : ∀ entry ∈ entries, Matches service store workspace entry) :
    ∃ after, Affordable (entries.foldlM (applyDenial service sizes ledger workspace) store) after ∧
      Store.Reconciles workspace store after ∧ after.Tidy workspace ∧
        after.HasRoom workspace count := by
  induction entries generalizing store with
  | nil => exact ⟨store, .pure store, .refl _, tidy, room⟩
  | cons entry rest ih =>
    have roomier : store.HasRoom workspace (count + rest.length + 1) := room
    obtain ⟨between, here⟩ := affordable_applyDenial sizes ledger tidy roomier
      (matching entry mem_cons_self)
    obtain ⟨budget, ran⟩ := here.run
    obtain ⟨_, same, tidier, smaller⟩ :=
      yields_applyDenial (count + rest.length) (Stateful.Yields.of_run ran)
    obtain ⟨after, later, kept, tidied, left⟩ := ih (tidier tidy) (smaller roomier)
      (fun other member => same.matches_iff.mpr (matching other (mem_cons_of_mem _ member)))
    refine ⟨after, ?_, same.trans kept, tidied, left⟩
    rw [foldlM_cons]
    exact .bind here later

/-! ### One call -/

structure Reconcilable (service : Service) (ledger : SuppressionLedger) (workspace : String)
    (store : Store) (applied : Checkpoint) : Prop where
  chained : ledger.Chained service workspace
  current : suppressionApplied service ⟨store, some ledger⟩ workspace = .ok applied
  known : checkpointAt service ledger workspace applied.epoch = .ok applied
  within : applied.epoch ≤ (ledger.current service.toChaining workspace).epoch
  tidy : store.Tidy workspace

/-- The call that reads the ledger at `ledger` and holds the lock when it is `later`. -/
def reconcileCall (service : Service) (sizes : ReconciliationSizes)
    (ledger later : SuppressionLedger) (read store : Store) (context : AuthenticatedRequestContext)
    (maxEntries : Nat) : Budgeted (SuppressionProgress × Store) :=
  maintainSuppression service sizes ⟨read, some ledger⟩ ⟨store, some later⟩ context maxEntries

variable {ledger later : SuppressionLedger} {read store after : Store}
  {applied through : Checkpoint} {context : AuthenticatedRequestContext} {maxEntries count : Nat}

theorem Store.HasRoom.mono {less more : Nat} (room : store.HasRoom workspace more)
    (fewer : less ≤ more) : store.HasRoom workspace less :=
  ⟨Nat.le_trans (Nat.add_le_add_left fewer _) room.global,
    Nat.le_trans (Nat.add_le_add_left fewer _) room.journal,
    Nat.le_trans (Nat.add_le_add_left fewer _) room.epoch⟩

theorem suppressionApplied_eq (same : later.identity = ledger.identity)
    (kept : (after.rows workspace).applied = (store.rows workspace).applied) :
    suppressionApplied service ⟨after, some later⟩ workspace = suppressionApplied service
      ⟨store, some ledger⟩ workspace := by
  simp only [suppressionApplied, requireSome, Option.elim, ok_bind, kept, SuppressionLedger.genesis,
    same]

theorem exists_publishSuppressionCheckpoint (tidy : store.Tidy workspace)
    (room : store.HasRoom workspace (count + 1))
    (current : suppressionApplied service ⟨store, some later⟩ workspace = .ok applied)
    (ahead : applied.epoch < through.epoch) :
    ∃ after, publishSuppressionCheckpoint service ⟨store,
      some later⟩ workspace through = .ok after ∧
      after.receipts = store.receipts ∧ after.policies = store.policies ∧
      (after.rows workspace).applied = some through ∧ after.Tidy workspace ∧
        after.HasRoom workspace count := by
  have roomy : (store.setRows workspace
    { store.rows workspace with applied := some through }).HasRoom workspace (count + 1) :=
    ⟨room.global, by simpa using room.journal, by simpa using room.epoch⟩
  simp only [publishSuppressionCheckpoint, current, ok_bind, if_neg (Nat.not_le.mpr ahead),
    beginFrame_of_room roomy]
  refine ⟨_, rfl, rfl, rfl, ?_, ⟨tidy.labelled, tidy.covered, ?_⟩, ?_, ?_, ?_⟩
  · simp [finishFrame]
  · simpa [finishFrame] using tidy.epochs
  · have := room.global
    simp only [finishFrame, setRows]
    omega
  · have := room.journal
    simp only [finishFrame, rows_setRows]
    omega
  · have := room.epoch
    simp only [finishFrame, rows_setRows]
    omega

theorem exists_of_mem_denialsAfter {limit epoch : Nat}
    (listed : entry ∈ denialsAfter ledger workspace limit epoch) :
    ∃ later, epoch < later ∧ (ledger.rows workspace).entries[later]? = some entry := by
  induction limit generalizing epoch with
  | zero => cases listed
  | succ limit ih =>
    rw [denialsAfter] at listed
    split at listed
    · cases listed
    · next first stored =>
      cases listed with
      | head => exact ⟨epoch + 1, Nat.lt_succ_self _, stored⟩
      | tail _ listed =>
        obtain ⟨found, beyond, kept⟩ := ih listed
        exact ⟨found, by omega, kept⟩

theorem length_denialsAfter (ledger : SuppressionLedger) (workspace : String) (limit epoch : Nat) :
    (denialsAfter ledger workspace limit epoch).length ≤ limit := by
  induction limit generalizing epoch with
  | zero => exact Nat.le_refl 0
  | succ limit ih =>
    rw [denialsAfter]
    split
    · exact Nat.zero_le _
    · exact Nat.succ_le_succ (ih _)

structure CallReady (service : Service) (ledger later : SuppressionLedger) (read store : Store)
    (context : AuthenticatedRequestContext) (maxEntries : Nat) (applied : Checkpoint) : Prop where
  admin : requireCapability service.toCallers context .admin = .ok ()
  size : 1 ≤ maxEntries ∧ maxEntries ≤ 256
  reconcilable : Reconcilable service ledger context.request.workspaceId store applied
  identity : later.identity = ledger.identity
  -- No other reconciler has applied anything since the batch was read.
  alone : (read.rows context.request.workspaceId).applied =
    (store.rows context.request.workspaceId).applied
  behind : applied.epoch < (ledger.current service.toChaining context.request.workspaceId).epoch

/-- A call that is ready and whose denials match succeeds with some budget. -/
theorem affordable_reconcileCall (sizes : ReconciliationSizes)
    (ready : CallReady service ledger later read store context maxEntries applied)
    (room : store.HasRoom context.request.workspaceId (count + (maxEntries + 1)))
    (matching : ∀ entry ∈ denialsAfter ledger context.request.workspaceId maxEntries applied.epoch,
      Matches service store context.request.workspaceId entry) : ∃ progress after through, Affordable
        (reconcileCall service sizes ledger later read store context maxEntries) (progress, after) ∧
      progress.through = through.epoch ∧ applied.epoch < through.epoch ∧
      through.epoch ≤ (ledger.current service.toChaining context.request.workspaceId).epoch ∧
      checkpointAt service ledger context.request.workspaceId through.epoch = .ok through ∧
      (after.rows context.request.workspaceId).applied = some through ∧
        after.receipts = store.receipts ∧
      (∀ key, after.policies.contains key = store.policies.contains key) ∧
        after.Tidy context.request.workspaceId ∧
      after.HasRoom context.request.workspaceId count := by
  obtain ⟨smaller, bounded⟩ := ready.size
  obtain ⟨limit, rfl⟩ : ∃ limit, maxEntries = limit + 1 := ⟨maxEntries - 1, by omega⟩
  have reconcilable := ready.reconcilable
  obtain ⟨last, found, ahead, within, recorded⟩ :=
    getLast_denialsAfter reconcilable.chained limit reconcilable.known ready.behind
  have current : suppressionApplied service ⟨store, some later⟩ context.request.workspaceId =
    .ok applied :=
    (suppressionApplied_eq ready.identity rfl).trans reconcilable.current
  have readApplied : suppressionApplied service ⟨read, some ledger⟩ context.request.workspaceId =
    .ok applied :=
    (suppressionApplied_eq rfl ready.alone).trans reconcilable.current
  obtain ⟨between, applied_, same, tidy, left⟩ :=
    affordable_applyDenials sizes (some later) reconcilable.tidy (room.mono (by
        have := length_denialsAfter ledger context.request.workspaceId (limit + 1) applied.epoch
        omega) : store.HasRoom _ (count + 1 + _)) matching
  obtain ⟨after, published, receipts, policies, advanced, tidied, kept⟩ :=
    exists_publishSuppressionCheckpoint tidy left
      ((suppressionApplied_eq rfl same.applied).trans current)
      (show applied.epoch < last.checkpoint.epoch from ahead)
  let progress : SuppressionProgress :=
    { through := last.epoch, processed := (denialsAfter ledger context.request.workspaceId (limit + 1) applied.epoch).length
      caughtUp := later.current service.toChaining context.request.workspaceId == last.checkpoint }
  refine ⟨progress, after, last.checkpoint, ?_, rfl, ahead, within, recorded, advanced,
    receipts.trans same.receipts, ?_, tidied, kept⟩
  · refine .bind (.lift ready.admin) (.bind (.ensure (by simp [bounded]))
      (.bind .check (.bind (.lift rfl) (.bind (.lift readApplied)
        (.bind (affordable_batch reconcilable.chained
          (limit + 1) reconcilable.known reconcilable.within) ?_)))))
    rw [found]
    refine .bind ?_ (.pure _)
    exact .bind .check (.bind (.lift current) (.bind (.ensure (beq_self_eq_true _))
      (.bind applied_ (.bind (.lift published) (.bind .check (.pure _))))))
  · intro key
    rw [policies]
    exact same.contains_policies key

/-- A call that succeeds had only denials that match. -/
theorem matches_of_reconcileCall {progress : SuppressionProgress}
    (ready : CallReady service ledger later read store context maxEntries applied)
    (ran : (reconcileCall service sizes ledger later read store context maxEntries).Yields
      (progress, after)) :
    ∀ entry ∈ denialsAfter ledger context.request.workspaceId maxEntries applied.epoch,
      Matches service store context.request.workspaceId entry := by
  rw [reconcileCall, maintainSuppression] at ran
  have ran := ran.rest
  have ran := ran.rest
  have ran := ran.rest
  obtain ⟨_, bound, ran⟩ := ran.bind
  obtain ⟨found, readApplied, ran⟩ := ran.bind
  obtain ⟨entries, listed, ran⟩ := ran.bind
  cases requireSome_ok bound.lift
  have same : found = applied := by
    have both := readApplied.lift.symm.trans
      ((suppressionApplied_eq rfl ready.alone).trans ready.reconcilable.current)
    cases both
    rfl
  rw [batch] at listed
  obtain ⟨_, _, listed⟩ := listed.bind
  have listed := listed.rest
  rw [yields_batchFrom ready.reconcilable.chained maxEntries listed, same] at ran
  cases last : (denialsAfter ledger context.request.workspaceId maxEntries applied.epoch).getLast? with
  | none =>
    rw [getLast?_eq_none_iff] at last
    rw [last]
    intro entry member
    cases member
  | some entry =>
    rw [last] at ran
    obtain ⟨_, stored, _⟩ := ran.bind
    rw [applyBatch] at stored
    have stored := stored.rest
    obtain ⟨_, _, stored⟩ := stored.bind
    obtain ⟨_, _, stored⟩ := stored.bind
    obtain ⟨_, folded, _⟩ := stored.bind
    exact (yields_applyDenials folded).1

/-- Calls that go through, one after the other, while the ledger stays as it is. -/
def Reconciliation (service : Service) (sizes : ReconciliationSizes) (ledger : SuppressionLedger)
    (context : AuthenticatedRequestContext) (maxEntries : Nat) (before after : Store) : Prop :=
  ∃ progress, Affordable (reconcileCall service sizes ledger ledger before before context maxEntries) (progress, after)

theorem requireSuppressionCurrent_of_applied (applied_ : suppressionApplied service
    ⟨store, some ledger⟩ workspace = .ok applied)
    (caught : applied = ledger.current service.toChaining workspace) :
    requireSuppressionCurrent service ⟨store, some ledger⟩ workspace = .ok () := by
  simp only [requireSuppressionCurrent, applied_, ok_bind, caught, ensure_ok_iff, beq_self_eq_true]

def OutstandingMatch (service : Service) (ledger : SuppressionLedger) (workspace : String)
    (store : Store) (applied : Checkpoint) : Prop :=
  ∀ epoch entry, applied.epoch < epoch → (ledger.rows workspace).entries[epoch]? = some entry →
    Matches service store workspace entry

/-- Repeated calls reach the head of the ledger. The induction is on the number of epochs
outstanding, of which every call settles one at least. -/
theorem reopens (outstanding : Nat) (admin : requireCapability service.toCallers context .admin =
    .ok ())
    (size : 1 ≤ maxEntries ∧ maxEntries ≤ 256)
    (reconcilable : Reconcilable service ledger context.request.workspaceId store applied)
    (fewer : (ledger.current service.toChaining context.request.workspaceId).epoch ≤
      applied.epoch + outstanding)
    (room : store.HasRoom context.request.workspaceId (outstanding * (maxEntries + 1)))
    (matching : OutstandingMatch service ledger context.request.workspaceId store applied) :
    ∃ after, Relation.ReflTransGen
      (Reconciliation service sizes ledger context maxEntries) store after ∧
      requireSuppressionCurrent service ⟨after, some ledger⟩ context.request.workspaceId = .ok
        () := by
  induction outstanding generalizing store applied with
  | zero =>
    refine ⟨store, .refl, requireSuppressionCurrent_of_applied reconcilable.current ?_⟩
    have same : applied.epoch = (ledger.current service.toChaining
        context.request.workspaceId).epoch := Nat.le_antisymm reconcilable.within fewer
    have both := reconcilable.known.symm.trans (same ▸ reconcilable.chained.last)
    cases both
    rfl
  | succ outstanding ih =>
    by_cases behind : applied.epoch <
      (ledger.current service.toChaining context.request.workspaceId).epoch
    · have ready : CallReady service ledger ledger store store context maxEntries applied :=
        ⟨admin, size, reconcilable, rfl, rfl, behind⟩
      have roomy : store.HasRoom context.request.workspaceId
        (outstanding * (maxEntries + 1) + (maxEntries + 1)) := by
        rw [← Nat.succ_mul]
        exact room
      obtain ⟨progress, between, through, call, _, ahead, within, known, advanced, receipts,
        policies, tidy, left⟩ := affordable_reconcileCall sizes ready roomy (by
          intro entry listed
          obtain ⟨epoch, beyond, stored⟩ := exists_of_mem_denialsAfter listed
          exact matching epoch entry beyond stored)
      have current : suppressionApplied service ⟨between,
        some ledger⟩ context.request.workspaceId = .ok through := by
        simp only [suppressionApplied, requireSome, Option.elim, ok_bind, advanced,
          Option.getD_some]
      obtain ⟨after, calls, reopened⟩ := ih ⟨reconcilable.chained, current, known, within, tidy⟩
        (by omega) left (by
          intro epoch entry beyond stored
          rw [Matches, policies, receipts]
          exact matching epoch entry (Nat.lt_trans ahead beyond) stored)
      exact ⟨after, .head ⟨progress, call⟩ calls, reopened⟩
    · exact ih reconcilable (by omega)
        (room.mono (Nat.mul_le_mul_right _ (Nat.le_succ _))) matching

end ContextDb.Native
