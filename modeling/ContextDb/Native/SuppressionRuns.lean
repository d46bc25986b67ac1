import ContextDb.Native.Reconciled
import ContextDb.Native.Admission

/-! Reconciliation along whole runs. A store that is written, backed up, restored and reconciled
in any order stays one that the next reconciliation can start from; whether that call goes
through depends on the rows under the denied ids alone. -/

set_option autoImplicit false

namespace ContextDb.Native

open Std Lib ContextDb.Core Store SuppressionLedger List Snapshot BTreeMap ExtTreeMap

/-! ### The ledger only grows -/

structure SuppressionLedger.Grows (service : Service) (before after : SuppressionLedger) :
    Prop where
  identity : after.identity = before.identity
  chained : ∀ workspace, after.Chained service workspace
  known : ∀ workspace epoch, epoch ≤ (before.current service.toChaining workspace).epoch →
    checkpointAt service after workspace epoch = checkpointAt service before workspace epoch
  current : ∀ workspace, (before.current service.toChaining workspace).epoch ≤
    (after.current service.toChaining workspace).epoch

variable {id : ObservationId}

section

variable {service : Service} {ledger between after : SuppressionLedger} {workspace other : String}
  {digest : Context.Digest} {entry : Denial} {expected : Checkpoint}

namespace SuppressionLedger

theorem Grows.refl (chained : ∀ workspace, ledger.Chained service workspace) :
    ledger.Grows service ledger :=
  ⟨rfl, chained, fun _ _ _ => rfl, fun _ => Nat.le_refl _⟩

theorem Grows.trans (first : ledger.Grows service between) (second : between.Grows service after) :
    ledger.Grows service after where
  identity := second.identity.trans first.identity
  chained := second.chained
  known workspace epoch within :=
    (second.known workspace epoch (Nat.le_trans within (first.current workspace))).trans
    (first.known workspace epoch within)
  current workspace := Nat.le_trans (first.current workspace) (second.current workspace)

@[simp] theorem rows_append (ledger : SuppressionLedger) (workspace : String) (entry : Denial) :
    (ledger.append workspace entry).rows workspace =
      { head := some entry.checkpoint
        entries := (ledger.rows workspace).entries.insert entry.epoch entry
        denied := (ledger.rows workspace).denied.insert entry.eventId entry.epoch } := by
  simp [append, rows]

theorem rows_append_of_ne (ledger : SuppressionLedger) (entry : Denial)
    (different : other ≠ workspace) :
    (ledger.append workspace entry).rows other = ledger.rows other := by
  simp only [append, rows]
  rw [getElem?_insert_of_ne (Ne.symm different)]

theorem current_append_of_ne (ledger : SuppressionLedger) (entry : Denial)
    (different : other ≠ workspace) :
    (ledger.append workspace entry).current service.toChaining other =
      ledger.current service.toChaining other := by
  simp only [current, rows_append_of_ne ledger entry different]
  rfl

theorem current_append (ledger : SuppressionLedger) (workspace : String) (entry : Denial) :
    (ledger.append workspace entry).current service.toChaining workspace = entry.checkpoint := by
  simp [current]

variable {epoch : Nat}

theorem readEntry_append (ledger : SuppressionLedger) (entry : Denial)
    (different : other ≠ workspace ∨ entry.epoch ≠ epoch) :
    (ledger.append workspace entry).readEntry service.toChaining other epoch =
      ledger.readEntry service.toChaining other epoch := by
  have same : ((ledger.append workspace entry).rows other).entries[epoch]? =
      (ledger.rows other).entries[epoch]? := by
    by_cases here : other = workspace
    · subst here
      rw [rows_append]
      exact getElem?_insert_of_ne (different.resolve_left fun apart => apart rfl)
    · rw [rows_append_of_ne ledger entry here]
  simp only [readEntry, same]
  rfl

theorem checkpointAt_append (ledger : SuppressionLedger) (entry : Denial)
    (different : other ≠ workspace ∨ entry.epoch ≠ epoch) :
    checkpointAt service (ledger.append workspace entry) other epoch =
      checkpointAt service ledger other epoch := by
  rw [checkpointAt, checkpointAt, readEntry_append ledger entry different]
  rfl

theorem readEntry_nextDenial (ledger : SuppressionLedger) (workspace : String)
    (id : ObservationId) (digest : Context.Digest) :
    (ledger.append workspace (ledger.nextDenial service.toChaining workspace id digest)).readEntry
        service.toChaining workspace ((ledger.current service.toChaining workspace).epoch + 1) =
      .ok (ledger.nextDenial service.toChaining workspace id digest) := by
  have stored : ((ledger.append workspace
      (ledger.nextDenial service.toChaining workspace id digest)).rows workspace).entries[
        (ledger.current service.toChaining workspace).epoch + 1]? =
      some (ledger.nextDenial service.toChaining workspace id digest) := by
    rw [rows_append]
    exact getElem?_insert_self
  simp only [readEntry, stored, requireSome, Option.elim, ok_bind]
  simp [nextDenial, append, ensure]
  rfl

/-- Appending the next denial keeps every chain linked and every checkpoint known. -/
theorem grows_append (chained : ∀ workspace, ledger.Chained service workspace) :
    ledger.Grows service
      (ledger.append workspace (ledger.nextDenial service.toChaining workspace id digest)) := by
  let head := ledger.current service.toChaining workspace
  let entry := ledger.nextDenial service.toChaining workspace id digest
  have place : entry.epoch = head.epoch + 1 := rfl
  have read := @readEntry_nextDenial service ledger workspace id digest
  refine ⟨rfl, ?_, ?_, ?_⟩
  · intro other
    by_cases here : other = workspace
    · subst here
      refine ⟨?_, ?_, ?_⟩
      · intro previous behind known
        rw [current_append] at behind
        have within : previous.epoch ≤ head.epoch := Nat.le_of_lt_succ behind
        rw [checkpointAt_append ledger entry (.inr (by omega))] at known
        by_cases last : previous.epoch = head.epoch
        · -- The new denial follows the old head.
          have same : previous = head := by
            have both := known.symm.trans (last ▸ (chained other).last)
            exact Except.ok.inj both
          subst same
          exact ⟨entry, read, rfl⟩
        · obtain ⟨next, stored, linked⟩ := (chained other).linked previous
            (by change previous.epoch < head.epoch; omega) known
          refine ⟨next, ?_, linked⟩
          rw [readEntry_append ledger entry (.inr (by omega))]
          exact stored
      · rw [current_append]
        exact checkpointAt_entry read
      · intro epoch beyond
        rw [current_append] at beyond
        have past : head.epoch + 1 < epoch := beyond
        rw [rows_append]
        exact (getElem?_insert_of_ne (by change head.epoch + 1 ≠ epoch; omega)).trans
          ((chained other).bounded epoch (by change head.epoch < epoch; omega))
    · refine ⟨?_, ?_, ?_⟩
      · intro previous behind known
        rw [current_append_of_ne ledger entry here] at behind
        rw [checkpointAt_append ledger entry (.inl here)] at known
        obtain ⟨next, stored, linked⟩ := (chained other).linked previous behind known
        exact ⟨next, (readEntry_append ledger entry (.inl here)).trans stored, linked⟩
      · rw [current_append_of_ne ledger entry here, checkpointAt_append ledger entry (.inl here)]
        exact (chained other).last
      · intro epoch beyond
        rw [current_append_of_ne ledger entry here] at beyond
        rw [rows_append_of_ne ledger entry here]
        exact (chained other).bounded epoch beyond
  · intro other epoch within
    apply checkpointAt_append
    by_cases here : other = workspace
    · subst here
      right
      change head.epoch + 1 ≠ epoch
      have : epoch ≤ head.epoch := within
      omega
    · exact .inl here
  · intro other
    by_cases here : other = workspace
    · subst here
      rw [current_append]
      exact Nat.le_succ head.epoch
    · rw [current_append_of_ne ledger _ here]

end SuppressionLedger

/-- A denial returns a checkpoint of the ledger that it leaves. -/
theorem deny_ok (chained : ∀ workspace, ledger.Chained service workspace)
    (accepted : ledger.deny service.toChaining workspace id digest expected = .ok (entry, after)) :
    ledger.Grows service after ∧ checkpointAt service after workspace entry.checkpoint.epoch =
      .ok entry.checkpoint ∧
      entry.checkpoint.epoch ≤ (after.current service.toChaining workspace).epoch := by
  rw [deny] at accepted
  have accepted := rest_ok accepted
  split at accepted
  · next epoch _ =>
    obtain ⟨found, read, accepted⟩ := bind_ok accepted
    have accepted := rest_ok accepted
    cases accepted
    obtain ⟨stored, place, _⟩ := readEntry_ok read
    refine ⟨.refl chained, ?_, ?_⟩
    · rw [show entry.checkpoint.epoch = epoch from place]
      exact checkpointAt_entry read
    · by_contra beyond
      have absent := (chained workspace).bounded epoch (by
        rw [show entry.checkpoint.epoch = epoch from place] at beyond
        omega)
      rw [stored] at absent
      cases absent
  · have accepted := rest_ok accepted
    cases accepted
    refine ⟨grows_append chained, ?_, ?_⟩
    · exact checkpointAt_entry (readEntry_nextDenial ledger workspace id digest)
    · rw [current_append]

end

/-! ### What the operations keep -/

/-- The rows are in order, and every applied checkpoint is one of the ledger. -/
structure Kept (service : Service) (ledger : SuppressionLedger) (store : Store) : Prop where
  tidy : ∀ workspace, store.Tidy workspace
  recorded : ∀ workspace applied, (store.rows workspace).applied = some applied →
    checkpointAt service ledger workspace applied.epoch = .ok applied ∧
      applied.epoch ≤ (ledger.current service.toChaining workspace).epoch

section

variable {service : Service} {ledger later : SuppressionLedger} {before after : Store}
  {workspace : String} {through : Checkpoint}

section

variable (kept : Kept service ledger before)
include kept

theorem Kept.reconcilable (chained : ledger.Chained service workspace) :
    ∃ applied, Reconcilable service ledger workspace before applied := by
  cases stored : (before.rows workspace).applied with
  | none =>
    refine ⟨ledger.genesis service.toChaining workspace, chained, ?_, ?_, Nat.zero_le _,
      kept.tidy workspace⟩
    · simp only [suppressionApplied, requireSome, Option.elim, ok_bind, stored, Option.getD_none]
    · exact if_pos rfl
  | some applied =>
    obtain ⟨known, within⟩ := kept.recorded workspace applied stored
    refine ⟨applied, chained, ?_, known, within, kept.tidy workspace⟩
    simp only [suppressionApplied, requireSome, Option.elim, ok_bind, stored, Option.getD_some]

theorem Kept.grow (grows : ledger.Grows service later) : Kept service later before := by
  refine ⟨kept.tidy, ?_⟩
  intro workspace applied stored
  obtain ⟨known, within⟩ := kept.recorded workspace applied stored
  exact ⟨(grows.known workspace _ within).trans known, Nat.le_trans within
    (grows.current workspace)⟩

/-- Rows of one workspace may change as long as what they record as applied is known. -/
theorem Kept.update (workspace : String) (tidy : after.Tidy workspace)
    (others : ∀ other, other ≠ workspace → after.rows other = before.rows other)
    (recorded : ∀ applied, (after.rows workspace).applied = some applied →
      checkpointAt service ledger workspace applied.epoch = .ok applied ∧
        applied.epoch ≤ (ledger.current service.toChaining workspace).epoch) : Kept service ledger after := by
  refine ⟨?_, ?_⟩
  · intro other
    by_cases here : other = workspace
    · exact here ▸ tidy
    · refine ⟨tidy.labelled, tidy.covered, ?_⟩
      rw [others other here]
      exact (kept.tidy other).epochs
  · intro other
    by_cases here : other = workspace
    · exact here ▸ recorded
    · rw [others other here]
      exact kept.recorded other

theorem Kept.reconciles (same : Store.Reconciles workspace before after)
    (tidy : after.Tidy workspace) : Kept service ledger after := by
  refine kept.update workspace tidy same.others ?_
  rw [same.applied]
  exact kept.recorded workspace

theorem Kept.observe {admissible : RequestContext → String → ServiceResult Unit}
    {context : RequestContext} {observation : String} {access : AccessPolicy}
    (success : Native.observe admissible before context observation access = .ok after) :
    Kept service ledger after := by
  rw [Native.observe] at success
  have success := rest_ok success
  have success := rest_ok success
  obtain ⟨unused, success⟩ := unit_ok success
  obtain ⟨commit, _, success⟩ := bind_ok success
  have left : after = _ := (Except.ok.inj success).symm
  rw [ensure_ok_iff, Bool.not_eq_true'] at unused
  have tidy := kept.tidy context.workspaceId
  subst left
  refine kept.update context.workspaceId ⟨?_, ?_, ?_⟩ (fun other => rows_finishFrame_of_ne _ _) ?_
  · intro id receipt policy received held
    have different : observation ≠ id.display := by
      intro same
      rw [same, tidy.covered id receipt received] at unused
      cases unused
    exact tidy.labelled id receipt policy received
      ((getElem?_insert_of_ne different).symm.trans held)
  · intro id receipt received
    have present := tidy.covered id receipt received
    simp only [Store.finishFrame, Store.setRows, ExtTreeMap.contains_insert, present, Bool.or_true]
  · simp only [Store.finishFrame, Store.rows_setRows]
    exact tidy.epochs
  · simp only [finishFrame, rows_setRows]
    exact kept.recorded context.workspaceId

end

variable {context : AuthenticatedRequestContext} {sizes : Sizes} {event : EventEnvelope}

/-- Publishing the custody of a capture changes the custody rows only. -/
theorem publishCaptureCustody_yields {commit : Nat} {ledger : Option SuppressionLedger}
    (ran : (publishCaptureCustody service sizes ⟨before,
      ledger⟩ context event commit).Yields after) :
    ∃ custody state, after = { before with custody }.putCustody event.workspaceId.display state ∧
      state.authorizationEpoch = (before.rows event.workspaceId.display).authorizationEpoch := by
  rw [publishCaptureCustody] at ran
  obtain ⟨stored, consistent, ran⟩ := ran.bind
  obtain ⟨record, _, ran⟩ := ran.bind
  have ran := ran.rest
  have ran := ran.rest
  refine ⟨_, _, ran.pure.symm, ?_⟩
  have initial : (stored.getD (initialCustody
    ⟨before, ledger⟩ event.workspaceId.display)).authorizationEpoch =
        (before.rows event.workspaceId.display).authorizationEpoch := by
    have checked := consistent.lift
    rw [custodyState] at checked
    obtain ⟨equal, checked⟩ := unit_ok checked
    cases checked
    rw [ensure_ok_iff] at equal
    cases kept : (before.rows event.workspaceId.display).custody with
    | none => rfl
    | some state => simpa [kept] using equal
  split
  · exact initial
  · exact initial

structure CaptureRows (before after : Store) (context : AuthenticatedRequestContext)
    (event : EventEnvelope) (receipt : CaptureReceipt) (policy : StoredObservationPolicy) :
    Prop where
  owned : context.request.workspaceId = event.workspaceId.display
  labelled : policy.owner = context.request.workspaceId
  placed : receipt.workspaceId = event.workspaceId
  named : receipt.eventId = event.eventId
  fresh : before.policies.contains event.eventId.display = false
  originals : after.originals = before.originals.insert event.eventId event
  receipts : after.receipts = before.receipts.insert event.eventId receipt
  policies : after.policies = before.policies.insert event.eventId.display policy
  applied : (after.rows event.workspaceId.display).applied =
    (before.rows event.workspaceId.display).applied
  epochs : ∀ state, (after.rows event.workspaceId.display).custody = some state →
    state.authorizationEpoch = (after.rows event.workspaceId.display).authorizationEpoch
  others : ∀ other, other ≠ event.workspaceId.display → after.rows other = before.rows other
  heads : ∀ workspace, (after.rows workspace).runHeads = (before.rows workspace).runHeads

variable {receipt : CaptureReceipt} {authority : Option SuppressionLedger}

theorem appendCapture_yields {admissible : Snapshot → AuthenticatedRequestContext → EventEnvelope →
    ServiceResult Unit} {token : String}
    (ran : (appendCapture service sizes admissible ⟨before, authority⟩ context event
      token).Yields (receipt, after)) : admissible ⟨before, authority⟩ context event = .ok () ∧
      ∃ policy, CaptureRows before after context event receipt policy := by
  rw [appendCapture] at ran
  have ran := ran.rest
  obtain ⟨_, owned, ran⟩ := ran.bind
  obtain ⟨_, checked, ran⟩ := ran.bind
  obtain ⟨_, unused, ran⟩ := ran.bind
  obtain ⟨commit, _, ran⟩ := ran.bind
  obtain ⟨staged, published, ran⟩ := ran.bind
  obtain ⟨custody, state, rfl, epoch⟩ := publishCaptureCustody_yields published
  have workspace := ensure_ok_iff.mp owned.lift
  rw [Bool.and_eq_true, beq_iff_eq] at workspace
  have answer : _ = receipt := congrArg Prod.fst ran.pure
  have left : _ = after := congrArg Prod.snd ran.pure
  dsimp only at answer left
  let policy : StoredObservationPolicy :=
    ⟨event.eventId.display, before.globalHead + 1, { trustedStructuredPolicy context.request with
      scopes := .ofList (event.scopeIds.toList.map (·.display)) }⟩
  have others : ∀ other, other ≠ event.workspaceId.display → after.rows other =
      before.rows other := by
    intro other different
    rw [← left, rows_finishFrame_of_ne _ _ different, rows_advanceScopes_of_ne _ _ _ different,
      putWork,
      rows_setRows_of_ne _ _ different, putCustody, rows_setRows_of_ne _ _ different]
    rfl
  refine ⟨checked.lift, policy, workspace.1, rfl, ?_, ?_, ?_, ?_, ?_, ?_, ?_, ?_, others, ?_⟩
  · rw [← answer]
  · rw [← answer]
  · simpa using unused.lift
  · rw [← left]
    rfl
  · rw [← left, ← answer]
    rfl
  · rw [← left]
    rfl
  · rw [← left]
    simp only [finishFrame, advanceScopes, putWork, putCustody, rows_setRows]
    rfl
  · intro current stored
    rw [← left] at stored ⊢
    simp only [finishFrame, advanceScopes, putWork, putCustody, rows_setRows,
      Option.some.injEq] at stored ⊢
    rw [← stored]
    exact epoch
  · intro other
    by_cases here : other = event.workspaceId.display
    · subst here
      rw [← left]
      simp only [finishFrame, advanceScopes, putWork, putCustody, rows_setRows]
      rfl
    · rw [others other here]

theorem Kept.capture {policy : StoredObservationPolicy} (kept : Kept service ledger before)
    (rows : CaptureRows before after context event receipt policy) : Kept service ledger after := by
  have tidy := kept.tidy event.workspaceId.display
  refine kept.update event.workspaceId.display ⟨?_, ?_, rows.epochs⟩ rows.others ?_
  · intro id found stored received held
    rw [rows.receipts] at received
    rw [rows.policies] at held
    by_cases here : event.eventId = id
    · subst here
      rw [getElem?_insert_self] at received held
      cases received
      cases held
      rw [rows.labelled, rows.owned, rows.placed]
    · have apart : event.eventId.display ≠ id.display := fun same =>
        here (StableId.display_injective same)
      rw [getElem?_insert_of_ne here] at received
      rw [getElem?_insert_of_ne apart] at held
      exact tidy.labelled id found stored received held
  · intro id found received
    rw [rows.receipts] at received
    rw [rows.policies]
    by_cases here : event.eventId = id
    · subst here
      exact contains_insert_self
    · rw [getElem?_insert_of_ne here] at received
      simp only [ExtTreeMap.contains_insert, tidy.covered id found received, Bool.or_true]
  · rw [rows.applied]
    exact kept.recorded event.workspaceId.display

theorem Kept.checkpoint (kept : Kept service ledger before)
    (known : checkpointAt service ledger workspace through.epoch = .ok through)
    (within : through.epoch ≤ (ledger.current service.toChaining workspace).epoch)
    (success : publishSuppressionCheckpoint service ⟨before,
      authority⟩ workspace through = .ok after) : Kept service ledger after := by
  rw [publishSuppressionCheckpoint] at success
  obtain ⟨_, _, success⟩ := bind_ok success
  split at success
  · cases success
    exact kept
  · obtain ⟨commit, _, success⟩ := bind_ok success
    have left : after = _ := (Except.ok.inj success).symm
    have tidy := kept.tidy workspace
    subst left
    refine kept.update workspace ⟨tidy.labelled, tidy.covered, ?_⟩ ?_ ?_
    · simpa [finishFrame] using tidy.epochs
    · intro other different
      rw [rows_finishFrame_of_ne _ _ different, rows_setRows_of_ne _ _ different]
    · intro applied stored
      simp only [finishFrame, rows_setRows, Option.some.injEq] at stored
      subst stored
      exact ⟨known, within⟩

theorem Kept.custody {analysis : CustodyAnalysis} {progress : CustodyProgress}
    (kept : Kept service ledger before)
    (ran : (publishCustody ⟨before, authority⟩ context analysis).Yields (progress, after)) :
    Kept service ledger after := by
  rw [publishCustody] at ran
  have ran := ran.rest
  obtain ⟨_, _, ran⟩ := ran.bind
  obtain ⟨_, unchanged, ran⟩ := ran.bind
  have ran := ran.rest
  obtain ⟨commit, _, ran⟩ := ran.bind
  have ran := ran.rest
  have left : after = _ := (congrArg Prod.snd ran.pure).symm
  have epoch := ensure_ok_iff.mp unchanged.lift
  simp only [Bool.and_eq_true, beq_iff_eq] at epoch
  have tidy := kept.tidy context.request.workspaceId
  subst left
  refine kept.update context.request.workspaceId ⟨tidy.labelled, tidy.covered, ?_⟩ ?_ ?_
  · intro state stored
    simp only [finishFrame, putCustody, rows_setRows, Option.some.injEq] at stored ⊢
    rw [← stored]
    exact epoch.2.symm
  · intro other different
    rw [rows_finishFrame_of_ne _ _ different, putCustody, rows_setRows_of_ne _ _ different]
    rfl
  · intro applied stored
    simp only [finishFrame, putCustody, rows_setRows] at stored
    exact kept.recorded _ applied stored

theorem Kept.revoke {key : String} {receipt : OriginalRevocationReceipt}
    (kept : Kept service ledger before)
    (known : checkpointAt service ledger context.request.workspaceId through.epoch = .ok through)
    (within : through.epoch ≤ (ledger.current service.toChaining context.request.workspaceId).epoch)
    (ran : (revokeTransaction service ⟨before, some ledger⟩ context id key (some through)).Yields
      (receipt, after)) : Kept service ledger after := by
  rw [revokeTransaction] at ran
  obtain ⟨⟨answer, revoked⟩, performed, ran⟩ := ran.bind
  obtain ⟨published, checkpointed, ran⟩ := ran.bind
  have ran := ran.rest
  cases ran.pure
  obtain ⟨same, tidy, _⟩ := revokeRows_ok 0 performed.lift
  have denied := kept.reconciles same (tidy (kept.tidy _))
  refine Kept.checkpoint ?_ known within checkpointed.lift
  -- The retry record stands beside the rows that reconciliation reads.
  have rows := denied.tidy context.request.workspaceId
  refine denied.update context.request.workspaceId ⟨rows.labelled, rows.covered, ?_⟩
    (fun other => rows_setRows_of_ne _ _) ?_
  · simp only [rows_setRows]
    exact rows.epochs
  · simp only [rows_setRows]
    exact denied.recorded context.request.workspaceId

/-- The checkpoint a revocation returns is one of the ledger it leaves. -/
theorem recordExternalRevocation_yields {external : Option (Checkpoint × SuppressionLedger)}
    (chained : ∀ workspace, ledger.Chained service workspace)
    (ran : (recordExternalRevocation service ⟨before, some ledger⟩ workspace id).Yields external) :
    ∃ through later, external = some (through, later) ∧ ledger.Grows service later ∧
      checkpointAt service later workspace through.epoch = .ok through ∧
      through.epoch ≤ (later.current service.toChaining workspace).epoch := by
  rw [recordExternalRevocation] at ran
  have ran := ran.rest
  obtain ⟨_, _, ran⟩ := ran.bind
  have ran := ran.rest
  obtain ⟨_, _, ran⟩ := ran.bind
  obtain ⟨_, _, ran⟩ := ran.bind
  obtain ⟨⟨denial, later⟩, accepted, ran⟩ := ran.bind
  have recorded := deny_ok chained accepted.lift
  dsimp only at ran
  split at ran
  · exact ⟨denial.checkpoint, later, ran.pure.symm, recorded⟩
  · have ran := ran.rest
    exact ⟨denial.checkpoint, later, ran.pure.symm, recorded⟩

/-- Whether or not a revocation succeeds, the ledger has only grown and the store is kept for it. -/
theorem kept_revokeOriginal (context : AuthenticatedRequestContext) (id : ObservationId)
    (key : String) (budget : Context.QueryBudget)
    (chained : ∀ workspace, ledger.Chained service workspace) (kept : Kept service ledger before) :
    ∃ store later,
      (revokeOriginal service ⟨before, some ledger⟩ context id key budget).2 = ⟨store, some later⟩ ∧
      ledger.Grows service later ∧ Kept service later store := by
  rw [revokeOriginal]
  split
  · exact ⟨_, _, rfl, .refl chained, kept⟩
  · exact ⟨_, _, rfl, .refl chained, kept⟩
  · split
    · exact ⟨_, _, rfl, .refl chained, kept⟩
    · next external remaining recorded =>
      obtain ⟨through, later, rfl, grows, known, within⟩ :=
        recordExternalRevocation_yields chained ⟨_, _, recorded⟩
      dsimp only
      split
      · exact ⟨_, _, rfl, grows, kept.grow grows⟩
      · next receipt store performed =>
        exact ⟨_, _, rfl, grows, (kept.grow grows).revoke known within
          (Stateful.Yields.of_run performed)⟩

/-- Maintenance reads one snapshot and writes to a later store; between the two the ledger may
have grown. -/
theorem Kept.maintain {sizes : ReconciliationSizes}
    {maxEntries : Nat} {progress : SuppressionProgress} {earlier : SuppressionLedger} {read : Store}
    (kept : Kept service ledger before) (chained : ∀ workspace, earlier.Chained service workspace)
    (grows : earlier.Grows service ledger) (ran : (maintainSuppression service sizes
      ⟨read, some earlier⟩ ⟨before, some ledger⟩ context
      maxEntries).Yields (progress, after)) : Kept service ledger after := by
  rw [maintainSuppression] at ran
  have ran := ran.rest
  obtain ⟨_, size, ran⟩ := ran.bind
  have ran := ran.rest
  obtain ⟨_, bound, ran⟩ := ran.bind
  obtain ⟨applied, _, ran⟩ := ran.bind
  obtain ⟨entries, listed, performed⟩ := ran.bind
  cases requireSome_ok bound.lift
  rw [batch] at listed
  obtain ⟨expected, known, prefixed⟩ := listed.bind
  obtain ⟨_, checked, following⟩ := prefixed.bind
  have authority := ensure_ok_iff.mp checked.lift
  simp only [Bool.and_eq_true, beq_iff_eq, decide_eq_true_eq] at authority
  obtain ⟨rfl, behind⟩ := authority
  have counted := ensure_ok_iff.mp size.lift
  simp only [Bool.and_eq_true, decide_eq_true_eq] at counted
  obtain ⟨limit, rfl⟩ : ∃ limit, maxEntries = limit + 1 := ⟨maxEntries - 1, by omega⟩
  have chain := chained context.request.workspaceId
  have listing := yields_batchFrom chain (limit + 1) following
  dsimp only at performed
  split at performed
  · cases performed.pure
    exact kept
  · next last found =>
    -- Something was left to apply, so the batch ends at a checkpoint of the chain.
    have unfinished : applied.epoch <
      (earlier.current service.toChaining context.request.workspaceId).epoch := by
      by_contra finished
      rw [listing, denialsAfter, chain.bounded _ (by omega)] at found
      cases found
    obtain ⟨same, ends, _, within, recorded⟩ :=
      getLast_denialsAfter chain limit known.lift unfinished
    rw [← listing, found] at ends
    cases ends
    obtain ⟨store, performed, returned⟩ := performed.bind
    cases returned.pure
    rw [applyBatch] at performed
    have performed := performed.rest
    obtain ⟨_, _, performed⟩ := performed.bind
    obtain ⟨_, _, performed⟩ := performed.bind
    obtain ⟨revoked, folded, performed⟩ := performed.bind
    obtain ⟨published, checkpointed, performed⟩ := performed.bind
    obtain ⟨_, _, performed⟩ := performed.bind
    cases performed.pure
    refine Kept.checkpoint ?_ ((grows.known _ _ within).trans recorded)
      (Nat.le_trans within (grows.current _)) checkpointed.lift
    refine folded.foldlM (Kept service ledger) ?_ kept
    intro store entry next _ kept applied
    obtain ⟨_, same, tidy, _⟩ := yields_applyDenial 0 applied
    exact kept.reconciles same (tidy (kept.tidy _))

end

/-! ### Runs -/

structure SuppressionSystem where
  store : Store
  ledger : SuppressionLedger
  past : List SuppressionLedger := []
  backups : List Store := []

def SuppressionSystem.start (identity : LedgerIdentity) : SuppressionSystem :=
  ⟨{}, ⟨identity, ∅⟩, [], []⟩

/-- The ledger moves on; a call may still hold what it was. -/
def SuppressionSystem.extend (state : SuppressionSystem) (store : Store)
    (ledger : SuppressionLedger) : SuppressionSystem :=
  { state with store, ledger, past := state.ledger :: state.past }

inductive SuppressionStep (service : Service) (sizes : Sizes) (costs : ReconciliationSizes) :
    SuppressionSystem → SuppressionSystem → Prop
  | observed {state : SuppressionSystem} {after : Store}
      (admissible : RequestContext → String → ServiceResult Unit) (context : RequestContext)
      (observation : String) (access : AccessPolicy)
      (success : observe admissible state.store context observation access = .ok after) :
      SuppressionStep service sizes costs state { state with store := after }
  | captured {state : SuppressionSystem} {after : Store} {receipt : CaptureReceipt}
      (admissible : Snapshot → AuthenticatedRequestContext → EventEnvelope → ServiceResult Unit)
      (context : AuthenticatedRequestContext) (event : EventEnvelope) (token : String)
      (ran : (appendCapture service sizes admissible ⟨state.store, some state.ledger⟩ context event
        token).Yields (receipt, after)) : SuppressionStep service sizes costs state
          { state with store := after }
  | revoked {state : SuppressionSystem} {after : Store} {ledger : SuppressionLedger}
      (context : AuthenticatedRequestContext) (id : ObservationId) (key : String)
      (budget : Context.QueryBudget)
      (left : (revokeOriginal service ⟨state.store, some state.ledger⟩ context id key budget).2 =
        ⟨after, some ledger⟩) : SuppressionStep service sizes costs state
          (state.extend after ledger)
  -- A revocation that stopped after the commit of the ledger, or one of another store.
  | denied {state : SuppressionSystem} {ledger : SuppressionLedger} {entry : Denial}
      (workspace : String) (id : ObservationId) (digest : Context.Digest) (expected : Checkpoint)
      (accepted : state.ledger.deny service.toChaining workspace id digest expected = .ok
        (entry, ledger)) :
      SuppressionStep service sizes costs state (state.extend state.store ledger)
  | reconciled {state : SuppressionSystem} {after : Store} {progress : SuppressionProgress}
      (earlier : SuppressionLedger) (read : Store) (context : AuthenticatedRequestContext)
      (maxEntries : Nat) (seen : earlier ∈ state.ledger :: state.past)
      (ran : (maintainSuppression service costs ⟨read, some earlier⟩
        ⟨state.store, some state.ledger⟩ context maxEntries).Yields (progress, after)) :
      SuppressionStep service sizes costs state { state with store := after }
  | rebuilt {state : SuppressionSystem} {after : Store} {progress : CustodyProgress}
      (context : AuthenticatedRequestContext) (analysis : CustodyAnalysis)
      (ran : (publishCustody ⟨state.store, some state.ledger⟩ context analysis).Yields
        (progress, after)) :
      SuppressionStep service sizes costs state { state with store := after }
  -- Publications of memory and of everything else that is kept in rows of its own.
  | published {state : SuppressionSystem} (after : Store)
    (policies : after.policies = state.store.policies)
      (receipts : after.receipts = state.store.receipts)
      (rows : ∀ workspace, (after.rows workspace).applied = (state.store.rows workspace).applied ∧
        (after.rows workspace).custody = (state.store.rows workspace).custody ∧
        (after.rows workspace).authorizationEpoch =
        (state.store.rows workspace).authorizationEpoch) :
      SuppressionStep service sizes costs state { state with store := after }
  | backedUp {state : SuppressionSystem} : SuppressionStep service sizes costs state
        { state with backups := state.store :: state.backups }
  | restored {state : SuppressionSystem} (backup : Store) (taken : backup ∈ state.backups) :
      SuppressionStep service sizes costs state { state with store := backup }

structure SuppressionSystem.Sound (service : Service) (state : SuppressionSystem) : Prop where
  chained : ∀ ledger ∈ state.ledger :: state.past, ∀ workspace, ledger.Chained service workspace
  grows : ∀ ledger ∈ state.ledger :: state.past, ledger.Grows service state.ledger
  stores : ∀ store ∈ state.store :: state.backups, Kept service state.ledger store

section

variable {service : Service} {sizes : Sizes} {costs : ReconciliationSizes}
    {state next : SuppressionSystem}

theorem SuppressionSystem.sound_start (service : Service) (identity : LedgerIdentity) :
    (SuppressionSystem.start identity).Sound service := by
  have empty : ∀ workspace, rows ⟨identity, ∅⟩ workspace = {} := fun _ => rfl
  have unwritten : ∀ workspace, (SuppressionSystem.start identity).store.rows workspace = {} :=
    fun _ => rfl
  have chained : ∀ workspace, SuppressionLedger.Chained service ⟨identity, ∅⟩ workspace := by
    intro workspace
    refine ⟨?_, rfl, ?_⟩
    · intro previous behind
      exact (Nat.not_lt_zero _ behind).elim
    · intro epoch _
      rw [empty]
      rfl
  refine ⟨?_, ?_, ?_⟩
  · intro ledger listed
    cases mem_singleton.mp listed
    exact chained
  · intro ledger listed
    cases mem_singleton.mp listed
    exact .refl chained
  · intro store listed
    cases mem_singleton.mp listed
    refine ⟨?_, ?_⟩
    · intro workspace
      refine ⟨?_, ?_, ?_⟩
      · intro id receipt policy received
        cases received
      · intro id receipt received
        cases received
      · intro state stored
        rw [unwritten] at stored
        cases stored
    · intro workspace applied stored
      rw [unwritten] at stored
      cases stored

variable {after : Store}

theorem SuppressionSystem.Sound.write (sound : state.Sound service)
    (kept : Kept service state.ledger after) :
    SuppressionSystem.Sound service { state with store := after } := by
  refine ⟨sound.chained, sound.grows, ?_⟩
  intro store listed
  cases listed with
  | head => exact kept
  | tail _ listed => exact sound.stores store (mem_cons_of_mem _ listed)

theorem SuppressionSystem.Sound.extend {ledger : SuppressionLedger}
    (sound : state.Sound service) (grows : state.ledger.Grows service ledger)
    (kept : Kept service ledger after) : (state.extend after ledger).Sound service := by
  refine ⟨?_, ?_, ?_⟩
  · intro earlier listed
    cases listed with
    | head => exact grows.chained
    | tail _ listed => exact sound.chained earlier listed
  · intro earlier listed
    cases listed with
    | head => exact .refl grows.chained
    | tail _ listed => exact (sound.grows earlier listed).trans grows
  · intro store listed
    cases listed with
    | head => exact kept
    | tail _ listed => exact (sound.stores store (mem_cons_of_mem _ listed)).grow grows

/-- The step lemma: captures, revocations, reconciliations, backups and restores all keep the
system sound. -/
theorem SuppressionStep.sound (step : SuppressionStep service sizes costs state next)
    (sound : state.Sound service) : next.Sound service := by
  have chained := sound.chained state.ledger mem_cons_self
  have kept := sound.stores state.store mem_cons_self
  cases step with
  | observed admissible context observation access success =>
    exact sound.write (kept.observe success)
  | captured admissible context event token ran =>
    obtain ⟨_, policy, rows⟩ := appendCapture_yields ran
    exact sound.write (kept.capture rows)
  | revoked context id key budget left =>
    obtain ⟨store, later, reached, grows, kept⟩ :=
      kept_revokeOriginal context id key budget chained kept
    cases left.symm.trans reached
    exact sound.extend grows kept
  | denied workspace id digest expected accepted =>
    obtain ⟨grows, _⟩ := deny_ok chained accepted
    exact sound.extend grows (kept.grow grows)
  | reconciled earlier read context maxEntries seen ran =>
    exact sound.write (kept.maintain (sound.chained earlier seen) (sound.grows earlier seen) ran)
  | rebuilt context analysis ran => exact sound.write (kept.custody ran)
  | published after policies receipts rows =>
    refine sound.write ⟨?_, ?_⟩
    · intro workspace
      have tidy := kept.tidy workspace
      obtain ⟨_, custody, epoch⟩ := rows workspace
      refine ⟨?_, ?_, ?_⟩
      · rw [receipts, policies]
        exact tidy.labelled
      · rw [receipts, policies]
        exact tidy.covered
      · rw [custody, epoch]
        exact tidy.epochs
    · intro workspace
      rw [(rows workspace).1]
      exact kept.recorded workspace
  | backedUp =>
    refine ⟨sound.chained, sound.grows, ?_⟩
    intro store listed
    cases listed with
    | head => exact kept
    | tail _ listed => exact sound.stores store listed
  | restored backup taken => exact sound.write (sound.stores backup (mem_cons_of_mem _ taken))

def SuppressionSystem.Reached (service : Service) (sizes : Sizes) (costs : ReconciliationSizes)
    (state : SuppressionSystem) : Prop :=
  ∃ identity, Relation.ReflTransGen (SuppressionStep service sizes costs) (.start identity) state

/-- Every reachable system is sound. -/
theorem SuppressionSystem.Reached.sound (reached : state.Reached service sizes costs) :
    state.Sound service := by
  obtain ⟨identity, run⟩ := reached
  induction run with
  | refl => exact SuppressionSystem.sound_start service identity
  | tail _ step ih => exact step.sound ih

/-- What a store or a backup has applied is a checkpoint of the ledger in force, and no ledger
ever loses a checkpoint that an earlier one had. -/
theorem applied_checkpoints_survive (reached : state.Reached service sizes costs)
    (workspace : String) :
    (∀ store ∈ state.store :: state.backups, ∀ applied, (store.rows workspace).applied =
      some applied →
      checkpointAt service state.ledger workspace applied.epoch = .ok applied) ∧
    ∀ ledger ∈ state.past, ∀ epoch ≤ (ledger.current service.toChaining workspace).epoch,
      checkpointAt service state.ledger workspace epoch =
        checkpointAt service ledger workspace epoch := by
  have sound := reached.sound
  refine ⟨fun store listed applied stored =>
    ((sound.stores store listed).recorded workspace applied stored).1, ?_⟩
  exact fun ledger listed => (sound.grows ledger (mem_cons_of_mem _ listed)).known workspace

/-- No step loses a ledger: the one in force before is still known after it. -/
theorem SuppressionStep.ledgers (step : SuppressionStep service sizes costs state next) :
    state.ledger :: state.past ⊆ next.ledger :: next.past := by
  cases step with
  | revoked => exact subset_cons_of_subset _ (Subset.refl _)
  | denied => exact subset_cons_of_subset _ (Subset.refl _)
  | _ => exact Subset.refl _

theorem ledger_mem_of_steps (run : Relation.ReflTransGen
    (SuppressionStep service sizes costs) state next) :
    state.ledger ∈ next.ledger :: next.past := by
  induction run with
  | refl => exact mem_cons_self
  | tail _ step ih => exact step.ledgers ih

/-- A call reads its batch in one reachable state and takes the lock in a later one, with any
steps in between that leave the applied checkpoint of the workspace alone. With enough budget it
goes through and advances exactly when, at the lock, no id it has to deny was taken by a row that
is not the denied capture; and when none of the outstanding ids was, finitely many calls reopen
disclosure. -/
theorem reconciliation_proceeds_iff {before : SuppressionSystem}
    {context : AuthenticatedRequestContext}
    {maxEntries : Nat} {applied : Checkpoint} (reached : before.Reached service sizes costs)
    (between : Relation.ReflTransGen (SuppressionStep service sizes costs) before state)
    (alone : (before.store.rows context.request.workspaceId).applied =
      (state.store.rows context.request.workspaceId).applied)
    (admin : requireCapability service.toCallers context .admin = .ok ())
    (size : 1 ≤ maxEntries ∧ maxEntries ≤ 256)
    (current : suppressionApplied service ⟨before.store, some before.ledger⟩
      context.request.workspaceId = .ok applied) (behind : applied.epoch <
      (before.ledger.current service.toChaining context.request.workspaceId).epoch)
    (room : state.store.HasRoom context.request.workspaceId
      ((state.ledger.current service.toChaining context.request.workspaceId).epoch *
        (maxEntries + 1))) :
    ((∃ progress after, Affordable
      (reconcileCall service costs before.ledger state.ledger before.store
          state.store context maxEntries) (progress, after) ∧ applied.epoch < progress.through ∧
        (after.rows context.request.workspaceId).applied.map (·.epoch) = some progress.through) ↔
      ∀ entry ∈ denialsAfter before.ledger context.request.workspaceId maxEntries applied.epoch,
        Matches service state.store context.request.workspaceId entry) ∧
    (OutstandingMatch service state.ledger context.request.workspaceId state.store applied →
      ∃ after, Relation.ReflTransGen (Reconciliation service costs state.ledger context maxEntries)
          state.store after ∧ requireSuppressionCurrent service ⟨after, some state.ledger⟩
          context.request.workspaceId = .ok ()) := by
  have soundBefore := reached.sound
  have reachedLock : state.Reached service sizes costs := by
    obtain ⟨identity, run⟩ := reached
    exact ⟨identity, run.trans between⟩
  have sound := reachedLock.sound
  have grows := sound.grows before.ledger (ledger_mem_of_steps between)
  have kept := sound.stores state.store mem_cons_self
  obtain ⟨found, readable⟩ := (soundBefore.stores before.store mem_cons_self).reconcilable
    (soundBefore.chained before.ledger mem_cons_self context.request.workspaceId)
  cases current.symm.trans readable.current
  -- The applied checkpoint is that of the read, so the ledger of the read knows it.
  have reconcilable : Reconcilable service before.ledger context.request.workspaceId state.store applied :=
    { readable with
      current := (suppressionApplied_eq rfl alone.symm).trans current
      tidy := kept.tidy _ }
  have ready : CallReady service before.ledger state.ledger before.store state.store context
      maxEntries applied := ⟨admin, size, reconcilable, grows.identity, alone, behind⟩
  have further := grows.current context.request.workspaceId
  refine ⟨⟨?_, ?_⟩, ?_⟩
  · intro ⟨progress, after, affordable, _⟩
    obtain ⟨budget, ran⟩ := affordable.run
    exact matches_of_reconcileCall ready (Stateful.Yields.of_run ran)
  · intro matching
    have once : maxEntries + 1 ≤ (state.ledger.current service.toChaining context.request.workspaceId).epoch *
          (maxEntries + 1) := Nat.le_mul_of_pos_left _ (by omega)
    have roomy : state.store.HasRoom context.request.workspaceId (0 + (maxEntries + 1)) :=
      room.mono (by omega)
    obtain ⟨progress, after, through, affordable, same, ahead, _, _, advanced, _⟩ :=
      affordable_reconcileCall costs ready roomy matching
    refine ⟨progress, after, affordable, by omega, ?_⟩
    rw [advanced, same]
    rfl
  · obtain ⟨latest, settled⟩ := kept.reconcilable
      (sound.chained state.ledger mem_cons_self context.request.workspaceId)
    have same : latest = applied := by
      have locked := (suppressionApplied_eq grows.identity alone.symm).trans current
      cases settled.current.symm.trans locked
      rfl
    subst same
    exact reopens _ admin size settled (Nat.le_add_left _ _) room

end

/-! ### An observation under a denied id -/

namespace Desk

def messageId : ObservationId := .numbered 10

def message : EventEnvelope :=
  { event messageId 1 .messageCreated (.inlineBytes [1] "text/plain" (digest 1))
    (.modelRequest call) with
    role := .user, provenance := none }

def administrator : AuthenticatedRequestContext :=
  { host with capabilityGrants := .ofList [Capability.observe, Capability.admin] }

def authority : LedgerIdentity := ⟨⟨11⟩, "desk"⟩

def ledger : SuppressionLedger := ⟨authority, ∅⟩

def sizes : Sizes := ⟨fun _ => 1, fun _ => 1, fun _ => 1, fun _ => 1, fun _ => 1⟩

def costs : ReconciliationSizes := ⟨fun _ => 1, fun _ => 1, fun _ => 1⟩

def unsuppressed (snapshot : Snapshot) (context : AuthenticatedRequestContext)
    (event : EventEnvelope) : ServiceResult Unit :=
  requireUnsuppressedIdentity snapshot context.request.workspaceId event.eventId

def capture : ServiceResult (CaptureReceipt × Store) :=
  (appendCapture service sizes unsuppressed
    ⟨{}, some ledger⟩ administrator message "receipt" budget).1

def accepted : CaptureReceipt × Store := capture.toOption.getD (receipt message 0, {})

def captured : Store := accepted.2

def revocation : ServiceResult OriginalRevocationReceipt × Snapshot :=
  revokeOriginal service ⟨captured, some ledger⟩ administrator messageId "forget" budget

def denials : SuppressionLedger := revocation.2.ledger.getD ledger

def observation : ServiceResult Store :=
  observe (fun _ _ => .ok ()) {} administrator.request messageId.display
    (trustedLegacyPolicy administrator.request)

def observed : Store := observation.toOption.getD {}

def saved : SuppressionSystem := ⟨{}, ledger, [], [{}]⟩

def restored : SuppressionSystem := ⟨{}, denials, [ledger], [{}]⟩

def wedged : SuppressionSystem := { restored with store := observed }

theorem eq_ok_of_isOk {Value : Type} {outcome : ServiceResult Value} (fallback : Value)
    (success : outcome.isOk = true) : outcome = .ok (outcome.toOption.getD fallback) := by
  cases outcome with
  | error error => cases success
  | ok value => rfl

theorem eq_of_bound {snapshot : Snapshot} (fallback : SuppressionLedger)
    (bound : snapshot.ledger.isSome = true) :
    snapshot = ⟨snapshot.store, some (snapshot.ledger.getD fallback)⟩ := by
  obtain ⟨store, ledger⟩ := snapshot
  cases ledger with
  | none => cases bound
  | some ledger => rfl

theorem capture_accepted : capture = .ok (accepted.1, captured) :=
  eq_ok_of_isOk (receipt message 0, {}) (by decide +kernel)

theorem revocation_bound : revocation.2 = ⟨revocation.2.store, some denials⟩ :=
  eq_of_bound ledger (by decide +kernel)

theorem reached_restored : restored.Reached service sizes costs := by
  have first : SuppressionStep service sizes costs (.start authority) saved := .backedUp
  have second : SuppressionStep service sizes costs saved { saved with store := captured } :=
    .captured unsuppressed administrator message "receipt" (Stateful.Yields.of_run capture_accepted)
  have third : SuppressionStep service sizes costs { saved with store := captured }
    { restored with store := revocation.2.store } :=
    .revoked administrator messageId "forget" budget revocation_bound
  have fourth : SuppressionStep service sizes costs
    { restored with store := revocation.2.store } restored :=
    .restored {} mem_cons_self
  exact ⟨authority, .tail (.tail (.tail (.tail .refl first) second) third) fourth⟩

theorem reached_wedged : wedged.Reached service sizes costs := by
  obtain ⟨identity, run⟩ := reached_restored
  have accepted : observation = .ok observed := eq_ok_of_isOk {} (by decide +kernel)
  exact ⟨identity, run.tail (.observed _ _ _ _ accepted)⟩

/-! A second message is captured and denied after the store with the first denial was saved. -/

def revoked : Store := revocation.2.store

def secondId : ObservationId := .numbered 12

def second : EventEnvelope := { message with eventId := secondId, producerSequence := 2 }

def recapture : ServiceResult (CaptureReceipt × Store) :=
  (appendCapture service sizes unsuppressed
    ⟨revoked, some denials⟩ administrator second "second" budget).1

def recaptured : Store := (recapture.toOption.getD (receipt second 0, {})).2

def secondRevocation : ServiceResult OriginalRevocationReceipt × Snapshot :=
  revokeOriginal service ⟨recaptured, some denials⟩ administrator secondId "forget-second" budget

def secondDenials : SuppressionLedger := secondRevocation.2.ledger.getD denials

def rolledBack : SuppressionSystem := ⟨revoked, secondDenials, [denials, ledger], [revoked]⟩

theorem reached_rolledBack : rolledBack.Reached service sizes costs := by
  have again : recapture = .ok (_, recaptured) := eq_ok_of_isOk (receipt second 0, {})
    (by decide +kernel)
  have denied : secondRevocation.2 = ⟨secondRevocation.2.store, some secondDenials⟩ :=
    eq_of_bound denials (by decide +kernel)
  let taken : SuppressionSystem := ⟨revoked, denials, [ledger], [revoked]⟩
  have first : SuppressionStep service sizes costs (.start authority) ⟨captured, ledger, [], []⟩ :=
    .captured unsuppressed administrator message "receipt" (Stateful.Yields.of_run capture_accepted)
  have second_ : SuppressionStep service sizes costs ⟨captured, ledger, [], []⟩
    ⟨revoked, denials, [ledger], []⟩ :=
    .revoked administrator messageId "forget" budget revocation_bound
  have third : SuppressionStep service sizes costs ⟨revoked, denials, [ledger],
    []⟩ taken := .backedUp
  have fourth : SuppressionStep service sizes costs taken { taken with store := recaptured } :=
    .captured unsuppressed administrator second "second" (Stateful.Yields.of_run again)
  have fifth : SuppressionStep service sizes costs { taken with store := recaptured }
      { rolledBack with store := secondRevocation.2.store } :=
    .revoked administrator secondId "forget-second" budget denied
  have sixth : SuppressionStep service sizes costs
    { rolledBack with store := secondRevocation.2.store } rolledBack :=
    .restored revoked mem_cons_self
  exact ⟨authority, .tail (.tail
    (.tail (.tail (.tail (.tail .refl first) second_) third) fourth) fifth) sixth⟩

/-- The restored store has applied the first of two denials, and the ledger still has the same
checkpoint for it. -/
theorem rolled_back_checkpoints_survive : ∃ applied,
    (rolledBack.store.rows administrator.request.workspaceId).applied = some applied ∧
      applied.epoch = 1 ∧
      (secondDenials.current service.toChaining administrator.request.workspaceId).epoch = 2 ∧
      checkpointAt service secondDenials administrator.request.workspaceId 1 = .ok applied ∧
      checkpointAt service secondDenials administrator.request.workspaceId 1 =
        checkpointAt service denials administrator.request.workspaceId 1 := by
  have stored : ((rolledBack.store.rows administrator.request.workspaceId).applied.map
    (·.epoch)) = some 1 := by
    decide +kernel
  obtain ⟨applied, held, epoch⟩ := Option.map_eq_some_iff.mp stored
  obtain ⟨recorded, kept⟩ := applied_checkpoints_survive reached_rolledBack administrator.request.workspaceId
  have known := recorded revoked mem_cons_self applied held
  rw [epoch] at known
  exact ⟨applied, held, epoch, by decide +kernel, known, kept denials mem_cons_self 1 (by decide +kernel)⟩

theorem behind_wedged : (wedged.ledger.current service.toChaining administrator.request.workspaceId).epoch = 1 := by
  decide +kernel

theorem denied_message : ((wedged.ledger.rows administrator.request.workspaceId).entries[0 + 1]?).map (·.eventId) = some messageId := by
  decide +kernel

theorem administers : requireCapability service.toCallers administrator .admin = .ok () := by
  decide +kernel

end Desk

open Desk

/-- An observation takes the id of a denied capture that the restored backup does not have. From
then on every reconciliation fails, whatever its size and its budget. -/
theorem observed_id_wedges_reconciliation : wedged.Reached service sizes costs ∧
      requireCapability service.toCallers administrator .admin = .ok () ∧
      suppressionApplied service ⟨wedged.store, some wedged.ledger⟩
        administrator.request.workspaceId = .ok ⟨0, "genesis"⟩ ∧
      (wedged.ledger.current service.toChaining administrator.request.workspaceId).epoch = 1 ∧
      ∀ maxEntries budget, 1 ≤ maxEntries → maxEntries ≤ 256 →
        (reconcileCall service costs wedged.ledger wedged.ledger
          wedged.store wedged.store administrator maxEntries budget).1.isOk = false := by
  have applied : suppressionApplied service
      ⟨wedged.store, some wedged.ledger⟩ administrator.request.workspaceId = .ok
        ⟨0, "genesis"⟩ := by
    decide +kernel
  refine ⟨reached_wedged, administers, applied, behind_wedged, ?_⟩
  intro maxEntries budget small large
  have sound := reached_wedged.sound
  have chained := sound.chained wedged.ledger mem_cons_self administrator.request.workspaceId
  obtain ⟨found, reconcilable⟩ :=
    (sound.stores wedged.store mem_cons_self).reconcilable chained
  cases applied.symm.trans reconcilable.current
  have ready : CallReady service wedged.ledger wedged.ledger wedged.store
      wedged.store administrator maxEntries ⟨0, "genesis"⟩ := by
    refine ⟨administers, ⟨small, large⟩, reconcilable, rfl, rfl, ?_⟩
    exact Nat.lt_of_lt_of_eq Nat.zero_lt_one behind_wedged.symm
  cases outcome : (reconcileCall service costs wedged.ledger wedged.ledger
      wedged.store wedged.store administrator maxEntries budget).1 with
  | error error => rfl
  | ok answer =>
    obtain ⟨entry, stored, named⟩ := Option.map_eq_some_iff.mp denied_message
    obtain ⟨limit, rfl⟩ : ∃ limit, maxEntries = limit + 1 := ⟨maxEntries - 1, by omega⟩
    have listed : entry ∈ denialsAfter wedged.ledger administrator.request.workspaceId
      (limit + 1) 0 := by
      rw [denialsAfter, stored]
      exact mem_cons_self
    have matching := matches_of_reconcileCall ready (Stateful.Yields.of_run outcome) entry listed
    have taken : wedged.store.policies.contains messageId.display = true := by
      decide +kernel
    have uncaptured : wedged.store.receipts[messageId]? = none := by
      decide +kernel
    obtain ⟨receipt, captured, _⟩ := matching (named ▸ taken)
    rw [named, uncaptured] at captured
    cases captured

namespace Desk

def keptCapture : SuppressionSystem := ⟨captured, denials, [ledger], [captured]⟩

def noted : ServiceResult Store :=
  observe (fun _ _ => .ok ()) captured administrator.request "note"
    (trustedLegacyPolicy administrator.request)

/-- A writer observes something else while the batch is being read. -/
def interleaved : SuppressionSystem := { keptCapture with store := noted.toOption.getD {} }

theorem reached_keptCapture : keptCapture.Reached service sizes costs := by
  have first : SuppressionStep service sizes costs (.start authority) ⟨captured, ledger, [], []⟩ :=
    .captured unsuppressed administrator message "receipt" (Stateful.Yields.of_run capture_accepted)
  have second_ : SuppressionStep service sizes costs ⟨captured, ledger, [], []⟩
    ⟨captured, ledger, [], [captured]⟩ :=
    .backedUp
  have third : SuppressionStep service sizes costs ⟨captured, ledger, [], [captured]⟩
      { keptCapture with store := revoked } :=
    .revoked administrator messageId "forget" budget revocation_bound
  have fourth : SuppressionStep service sizes costs
    { keptCapture with store := revoked } keptCapture :=
    .restored captured mem_cons_self
  exact ⟨authority, .tail (.tail (.tail (.tail .refl first) second_) third) fourth⟩

/-- The denied row of the restored backup is the denied capture. -/
theorem interleaved_matches : ∀ entry ∈ denialsAfter denials administrator.request.workspaceId 1 0,
    Matches service interleaved.store administrator.request.workspaceId entry := by
  have checked : (denialsAfter denials administrator.request.workspaceId 1 0).all (fun entry =>
      (interleaved.store.receipts[entry.eventId]?).any fun receipt => receipt.eventId =
        entry.eventId &&
        receipt.databaseId = service.databaseId && receipt.domain = nativeCaptureDomain &&
        receipt.eventDigest = entry.eventDigest &&
        receipt.workspaceId.display = administrator.request.workspaceId) = true := by
    decide +kernel
  intro entry listed _
  obtain ⟨receipt, stored, agrees⟩ := (Option.any_eq_true _ _).mp
    (all_eq_true.mp checked entry listed)
  simp only [Bool.and_eq_true, decide_eq_true_eq] at agrees
  obtain ⟨⟨⟨⟨same, database⟩, domain⟩, digest⟩, workspace⟩ := agrees
  exact ⟨receipt, stored, same, database, domain, digest, workspace⟩

end Desk

/-- The restored backup holds the denied capture; an observation comes between the read and the
lock. -/
theorem reconciliation_proceeds_interleaved :
    interleaved.store.policies.contains messageId.display = true ∧
      ∃ progress after, Affordable (reconcileCall service costs keptCapture.ledger interleaved.ledger
        keptCapture.store interleaved.store administrator 1) (progress, after) ∧
          0 < progress.through := by
  have observed : noted = .ok interleaved.store := eq_ok_of_isOk {} (by decide +kernel)
  have between : Relation.ReflTransGen
    (SuppressionStep service sizes costs) keptCapture interleaved :=
    .single (.observed _ _ _ _ observed)
  have epoch : (interleaved.ledger.current service.toChaining administrator.request.workspaceId).epoch = 1 := by
    decide +kernel
  have applied : suppressionApplied service ⟨keptCapture.store, some keptCapture.ledger⟩
      administrator.request.workspaceId = .ok ⟨0, "genesis"⟩ := by
    decide +kernel
  have room : interleaved.store.HasRoom administrator.request.workspaceId (1 * (1 + 1)) :=
    ⟨by decide +kernel, by decide +kernel, by decide +kernel⟩
  have proceeds := (reconciliation_proceeds_iff reached_keptCapture between
    (by decide +kernel) administers
    ⟨Nat.le_refl 1, by decide⟩ applied (by decide +kernel) (by rw [epoch]; exact room)).1.mpr interleaved_matches
  obtain ⟨progress, after, affordable, ahead, _⟩ := proceeds
  exact ⟨by decide +kernel, progress, after, affordable, ahead⟩

end ContextDb.Native
