import ContextDb.Lib.Redaction
import ContextDb.Recall.Engine

/-! Forbidden records cannot influence recall. Authorization sees a record only through
the principal's decision on its label; what it keeps is sorted and free of repeated
identifiers, so the corpus does not depend on the order or the company in which the
allowed records arrived. -/

set_option autoImplicit false

namespace ContextDb.Recall

open Std Lib ContextDb.Core AuthorizedCorpus

/-- One change of the labelled documents that the principal may not notice: a hidden edit
of the records, or hidden edits of the evidence inside one record. -/
inductive DocumentEdit (principal : RecallPrincipal) : List ProviderDocument →
    List ProviderDocument → Prop
  | records {left right : List ProviderDocument} :
      HiddenEdit (principal.allows ·.access) left right → DocumentEdit principal left right
  | evidence (before after : List ProviderDocument) (labelled : ProviderDocument)
      {evidence : List ProviderEvidence} :
      HiddenEdits (principal.allows ·.access) labelled.evidence evidence →
      DocumentEdit principal (before ++ labelled :: after)
        (before ++ { labelled with evidence } :: after)

abbrev DocumentEdits (principal : RecallPrincipal) : List ProviderDocument → List ProviderDocument →
    Prop :=
  Relation.ReflTransGen (DocumentEdit principal)

abbrev RelationEdits (principal : RecallPrincipal) : List ProviderRelation → List ProviderRelation →
    Prop :=
  HiddenEdits (principal.allows ·.access)

variable {principal : RecallPrincipal} {left right documents others : List ProviderDocument}

theorem DocumentEdits.symm (edits : DocumentEdits principal left right) :
    DocumentEdits principal right left := by
  induction edits with
  | refl => exact .refl
  | tail _ edit ih =>
    refine .head ?_ ih
    cases edit with
    | records edit => exact .records edit.symm
    | evidence before after labelled edits =>
      exact .evidence before after { labelled with evidence := _ } edits.symm

private theorem sorted_distinct_of_perm {Item Key : Type} [Ord Key] [TransOrd Key]
    [LawfulEqOrd Key] [DecidableEq Key] {key : Item → Key} {left right : List Item}
    (permuted : left.Perm right)
    (distinct : (!adjacentRepeat key (sortBy (compareOn key) left)) = true) :
    sortBy (compareOn key) left = sortBy (compareOn key) right := by
  have unique : (left.map key).Nodup :=
    adjacentRepeat_sortBy_eq_false_iff.mp (Bool.not_eq_true' _ ▸ distinct)
  refine sortBy_eq_of_perm permuted fun first firstMember second secondMember same => ?_
  exact List.inj_on_of_nodup_map unique firstMember secondMember (Std.compare_eq_iff_eq.mp same)

private theorem unlabel_evidence_edit {labelled : ProviderDocument}
    {evidence : List ProviderEvidence} {document : RecallDocument}
    (edits : HiddenEdits (principal.allows ·.access) labelled.evidence evidence)
    (admitted : labelled.unlabel principal = .ok document) :
    ({ labelled with evidence } : ProviderDocument).unlabel principal = .ok document := by
  simp only [ProviderDocument.unlabel, bind_ok_iff, ensure_ok_iff] at admitted ⊢
  obtain ⟨_, valid, _, bare, found, collected, _, distinct, checked⟩ := admitted
  obtain ⟨others, recollected, permuted⟩ := edits.mapM_perm collected
  have same := sorted_distinct_of_perm permuted distinct
  exact ⟨(), valid, (), bare, others, recollected, (), same ▸ distinct, same ▸ checked⟩

theorem DocumentEdits.admitted (edits : DocumentEdits principal left right)
    {documents : List RecallDocument}
    (admitted : (left.filter (principal.allows ·.access)).mapM
      (ProviderDocument.unlabel principal) = .ok documents) :
    ∃ others, (right.filter (principal.allows ·.access)).mapM (ProviderDocument.unlabel principal) =
      .ok others ∧ documents.Perm others := by
  induction edits with
  | refl => exact ⟨documents, admitted, .refl _⟩
  | tail _ edit ih =>
    obtain ⟨middle, reached, permuted⟩ := ih
    cases edit with
    | records edit =>
      obtain ⟨others, passed, reordered⟩ := (HiddenEdits.mapM_perm (.single edit) reached)
      exact ⟨others, passed, permuted.trans reordered⟩
    | evidence before after labelled edits =>
      refine ⟨middle, ?_, permuted⟩
      -- Only the record whose evidence changed is read differently, and it is not.
      by_cases allowed : principal.allows labelled.access = true
      · simp only [List.filter_append, List.filter_cons, allowed, if_true, List.mapM_append,
          List.mapM_cons, bind_ok_iff] at reached ⊢
        obtain ⟨front, frontPassed, back, ⟨document, admitted, rest⟩, joined⟩ := reached
        exact ⟨front, frontPassed, back, ⟨document, unlabel_evidence_edit edits admitted, rest⟩,
          joined⟩
      · simpa [List.filter_cons, allowed] using reached

variable {relations connections : List ProviderRelation}

private theorem authorize_edited {request : ProviderRequest} {corpus : AuthorizedCorpus}
    (documentEdits : DocumentEdits request.principal documents others)
    (relationEdits : RelationEdits request.principal relations connections)
    (authorized : authorize request documents relations = .ok corpus) :
    authorize request others connections = .ok corpus := by
  simp only [authorize, bind_ok_iff, ensure_ok_iff] at authorized ⊢
  obtain ⟨_, snapshotValid, _, principalValid, _, digestPresent, admitted, collected, _, distinct,
    connected, related, _, distinctRelations, same⟩ := authorized
  obtain ⟨readmitted, recollected, permuted⟩ := documentEdits.admitted collected
  obtain ⟨reconnected, rerelated, reordered⟩ := relationEdits.mapM_perm related
  have sameDocuments := sorted_distinct_of_perm permuted distinct
  rw [sameDocuments] at distinct distinctRelations same
  have sameRelations := sorted_distinct_of_perm (reordered.filter _) distinctRelations
  rw [sameRelations] at distinctRelations same
  exact ⟨(), snapshotValid, (), principalValid, (), digestPresent, readmitted, recollected, (),
    distinct, reconnected, rerelated, (), distinctRelations, same⟩

def labelledProvider (snapshot : Option Nat → Except RecallError ProviderSnapshot)
    (documents : List ProviderDocument) (relations : List ProviderRelation) : RecallProvider where
  snapshot := snapshot
  authorizedCorpus request := authorize request documents relations

variable {engine : RecallEngine} {request : DeterministicRecallRequest}

section

variable (transfer : ∀ providerRequest corpus, providerRequest.principal = request.principal →
  authorize providerRequest documents relations = .ok corpus →
    authorize providerRequest others connections = .ok corpus)
include transfer

variable {snapshot : Option Nat → Except RecallError ProviderSnapshot}

private theorem prepare_of_authorized {gate : MemoryGateDecision} {filterDigest : String}
    {admission : Admission}
    (admitted : engine.prepare (labelledProvider snapshot documents relations) request gate filterDigest = .ok admission) :
    engine.prepare (labelledProvider snapshot others connections) request gate filterDigest =
      .ok admission := by
  simp only [RecallEngine.prepare, bind_ok_iff] at admitted ⊢
  obtain ⟨_, authentic, view, taken, _, viewValid, prior, started, _, intact, corpus, authorized,
    rest⟩ := admitted
  exact ⟨(), authentic, view, taken, (), viewValid, prior, started, (), intact, corpus,
    transfer _ _ rfl authorized, rest⟩

private theorem recall_of_authorized {clock : Clock} {result : DeterministicRecallResult}
    (recalled : engine.recall clock (labelledProvider snapshot documents relations) request =
      .ok result) :
    engine.recall clock (labelledProvider snapshot others connections) request = .ok result := by
  obtain ⟨valid, ⟨running, admission, admitted, executed⟩ | skipped⟩ :=
    RecallEngine.recall_ok_iff.mp recalled
  · exact RecallEngine.recall_ok_iff.mpr ⟨valid, .inl ⟨running, admission,
      prepare_of_authorized transfer admitted, executed⟩⟩
  · exact RecallEngine.recall_ok_iff.mpr ⟨valid, .inr skipped⟩

end

/-- Whatever happens to records, evidence and relations that the principal's rule does not
allow, authorization yields the same corpus or fails on both sides, and recall returns
the same result or fails on both sides. -/
theorem forbidden_records_cannot_influence_recall (engine : RecallEngine) (clock : Clock)
    (principal : RecallPrincipal) (snapshot : Option Nat → Except RecallError ProviderSnapshot)
    {documents others : List ProviderDocument} {relations connections : List ProviderRelation}
    (documentEdits : DocumentEdits principal documents others)
    (relationEdits : RelationEdits principal relations connections) :
    (∀ request : ProviderRequest, request.principal = principal → ∀ corpus,
      authorize request documents relations = .ok corpus ↔
        authorize request others connections = .ok corpus) ∧
    (∀ request : DeterministicRecallRequest, request.principal = principal → ∀ result,
      engine.recall clock (labelledProvider snapshot documents relations) request = .ok result ↔
        engine.recall clock (labelledProvider snapshot others connections) request =
          .ok result) := by
  have forward : ∀ request : ProviderRequest, ∀ corpus, request.principal = principal →
      authorize request documents relations = .ok corpus →
        authorize request others connections = .ok corpus := by
    rintro request corpus rfl authorized
    exact authorize_edited documentEdits relationEdits authorized
  have backward : ∀ request : ProviderRequest, ∀ corpus, request.principal = principal →
      authorize request others connections = .ok corpus →
        authorize request documents relations = .ok corpus := by
    rintro request corpus rfl authorized
    exact authorize_edited documentEdits.symm relationEdits.symm authorized
  refine ⟨fun request same corpus => ⟨forward request corpus same, backward request corpus same⟩,
    fun request same result => ⟨recall_of_authorized ?_, recall_of_authorized ?_⟩⟩
  · exact fun providerRequest corpus owned => forward providerRequest corpus (owned.trans same)
  · exact fun providerRequest corpus owned => backward providerRequest corpus (owned.trans same)

def hiddenNamesake : ProviderDocument where
  access := { sampleAccess with workspace := "elsewhere" }
  document := { sampleClaim.document with text := "" }
  evidence := []

theorem forbidden_namesake_cannot_influence_recall : ∃ result, sampleEngine.recall .never
        (labelledProvider (fun _ => .ok sampleSnapshot) [sampleClaim] [])
        (sampleRequest 4 10) = .ok result ∧
      sampleEngine.recall .never (labelledProvider (fun _ => .ok sampleSnapshot)
        [hiddenNamesake, sampleClaim] [])
          (sampleRequest 4 10) = .ok result := by
  have evaluated : yields (sampleEngine.recall .never
      (labelledProvider (fun _ => .ok sampleSnapshot) [sampleClaim] []) (sampleRequest 4 10))
        (fun _ => true) = true := by
    decide +kernel
  obtain ⟨result, ran, _⟩ := yields_iff.mp evaluated
  have hidden : samplePrincipal.allows hiddenNamesake.access = false := by decide +kernel
  have edits : DocumentEdits samplePrincipal [sampleClaim] [hiddenNamesake, sampleClaim] :=
    .single (.records (.insert [] [sampleClaim] hiddenNamesake hidden))
  exact ⟨result, ran, ((forbidden_records_cannot_influence_recall sampleEngine .never
    samplePrincipal (fun _ => .ok sampleSnapshot) edits .refl).2
      (sampleRequest 4 10) rfl result).mp ran⟩

end ContextDb.Recall
