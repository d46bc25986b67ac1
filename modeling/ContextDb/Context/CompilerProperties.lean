import ContextDb.Context.Compiler

/-! What a successful compilation has been through. One inversion per stage: the pack is the
assembled selection with its usage filled in, the selection comes from the prepared
candidates, and prepared candidates come from materialized ones. -/

set_option autoImplicit false

namespace ContextDb.Context

open Std Lib ContextDb.Core Recall List ContextCompiler BTreeMap ExtTreeSet

variable {library : Libraries} {compiler : ContextCompiler} {tokenizer : TokenCounter}
  {request : CompileRequest} {provider : ContextProvider} {result : CompiledContext}
  {item : PackEvidence} {rounds : Nat} {selected : List PreparedCandidate}
  {omissions : List Omission} {evaluations : UInt32} {authorized : Nat}
  {continuation : Option ContextContinuationToken} {output : FitOutput} {pack : ContextPack}

theorem settleSize_ok {settled : ContextPack} {protobuf : List UInt8}
    (success : settleSize library rounds pack protobuf = .ok settled) :
    ∃ usage, settled = pack.withUsage usage := by
  induction rounds generalizing pack protobuf with
  | zero => cases success
  | succ rounds ih =>
    rw [settleSize] at success
    split at success
    · cases success
      exact ⟨_, rfl⟩
    · obtain ⟨encoded, _, remaining⟩ := bind_ok success
      obtain ⟨usage, rfl⟩ := ih remaining
      exact ⟨usage, rfl⟩

theorem finalizePack_ok {rendered : RenderedContext}
    (success : finalizePack library request pack rendered = .ok output) :
    ∃ usage, output.pack = (pack.withRendered request rendered).withUsage usage := by
  have success := rest_ok success
  obtain ⟨_, _, success⟩ := bind_ok success
  obtain ⟨settled, settles, success⟩ := bind_ok success
  obtain ⟨_, _, success⟩ := bind_ok success
  have success := rest_ok success
  cases success
  exact settleSize_ok settles

structure Shows (request : CompileRequest) (selected : List PreparedCandidate)
    (omissions : List Omission) (continuation : Option ContextContinuationToken)
    (pack : ContextPack) : Prop where
  sections : pack.sections = sectionsOf (sortBy packOrder selected)
  evidence : pack.evidence = sortBy (compareOn (·.id)) (evidenceOf
    (sortBy packOrder selected)).inOrder
  useDirectives : pack.useDirectives = sortBy (compareOn (·.blockId))
    ((sortBy packOrder selected).map (·.directive))
  sufficiency : pack.compilation.sufficiency = assessSufficiency request
    (sectionsOf (sortBy packOrder selected))
  omissions : pack.compilation.omissions = canonicalOmissions omissions
  continuation : pack.continuation = continuation

/-- A fitted pack shows what was selected, whatever the encoders and the tokenizer answer. -/
theorem fitPack_shows (success : fitPack library tokenizer request selected omissions evaluations authorized
      continuation = .ok output) : Shows request selected omissions continuation output.pack := by
  obtain ⟨usage, _, success⟩ := bind_ok success
  dsimp only at success
  split at success
  · cases success
  · next rendered _ =>
    obtain ⟨final, finalized⟩ := finalizePack_ok success
    rw [finalized]
    exact ⟨rfl, rfl, rfl, rfl, rfl, rfl⟩

variable {block : ContextBlock}

theorem mem_sectionsOf : block ∈ (sectionsOf selected).iter ↔
    ∃ item ∈ selected, item.block = block := by
  simp [sectionsOf, PackSections.mem_iter_foldl_push]

theorem Shows.mem_sections (shows : Shows request selected omissions continuation pack) :
    block ∈ pack.sections.iter ↔ ∃ item ∈ selected, item.block = block := by
  rw [shows.sections, mem_sectionsOf]
  simp

theorem mem_inOrder_evidenceOf (member : item ∈ (evidenceOf selected).inOrder) :
    ∃ owner ∈ selected, item ∈ owner.evidence := by
  have kept : ∀ (items : List PackEvidence) (known : BTreeMap EvidenceHandle PackEvidence),
      (∀ (handle : EvidenceHandle) value, known[handle]? = some value → ∃ owner ∈ selected,
        value ∈ owner.evidence) →
      (∀ value ∈ items, ∃ owner ∈ selected, value ∈ owner.evidence) →
        ∀ (handle : EvidenceHandle) value, (items.foldl (fun known item =>
          if known.contains item.id then known else known.insert item.id item) known)[handle]? =
        some value → ∃ owner ∈ selected, value ∈ owner.evidence := by
    intro items
    induction items with
    | nil => exact fun known start _ => start
    | cons first rest ih =>
      intro known start listed
      refine ih _ ?_ fun value later => listed value (mem_cons_of_mem _ later)
      intro handle value found
      dsimp only at found
      split at found
      · exact start handle value found
      · rcases getElem?_insert_cases found with ⟨rfl, rfl⟩ | ⟨_, found⟩
        · exact listed first mem_cons_self
        · exact start handle value found
  obtain ⟨handle, found⟩ := mem_inOrder.mp member
  refine kept _ ∅ (by simp) ?_ handle item found
  intro value listed
  exact mem_flatMap.mp listed

theorem Shows.mem_evidence (shows : Shows request selected omissions continuation pack)
    (member : item ∈ pack.evidence) : ∃ owner ∈ selected, item ∈ owner.evidence := by
  rw [shows.evidence, mem_sortBy] at member
  obtain ⟨owner, chosen, listed⟩ := mem_inOrder_evidenceOf member
  exact ⟨owner, mem_sortBy.mp chosen, listed⟩

theorem Shows.mem_useDirectives (shows : Shows request selected omissions continuation pack)
    {directive : UseDirective} :
    directive ∈ pack.useDirectives ↔ ∃ item ∈ selected, item.directive = directive := by
  rw [shows.useDirectives]
  simp

variable {prepared : List PreparedCandidate} {items : List PreparedCandidate}

section

def DrawnFrom (prepared : List PreparedCandidate) (selected : BTreeMap BlockId PreparedCandidate) :
    Prop :=
  ∀ id item, selected[id]? = some item → item ∈ prepared ∧ item.block.id = id

variable {item candidate : PreparedCandidate} {selected : BTreeMap BlockId PreparedCandidate}

theorem DrawnFrom.insert (drawn : DrawnFrom prepared selected) (member : item ∈ prepared) :
    DrawnFrom prepared (selected.insert item.block.id item) := by
  intro id found present
  rcases getElem?_insert_cases present with ⟨same, rfl⟩ | ⟨_, present⟩
  · exact ⟨member, same⟩
  · exact drawn id found present

theorem DrawnFrom.mem (drawn : DrawnFrom prepared selected) (member : item ∈ selected.inOrder) :
    item ∈ prepared := by
  obtain ⟨id, found⟩ := mem_inOrder.mp member
  exact (drawn id item found).1

theorem DrawnFrom.foldl_insert (drawn : DrawnFrom prepared selected)
    (listed : ∀ item ∈ items, item ∈ prepared) :
    DrawnFrom prepared (items.foldl
      (fun selected item => selected.insert item.block.id item) selected) := by
  induction items generalizing selected with
  | nil => exact drawn
  | cons first rest ih =>
    refine ih (drawn.insert (listed first mem_cons_self)) ?_
    exact fun item later => listed item (mem_cons_of_mem _ later)

theorem mem_conflictBundle (member : item ∈ conflictBundle prepared selected candidate) :
    item ∈ prepared := by
  unfold conflictBundle at member
  split at member
  · split at member
    · next conflict found =>
      split at member
      · cases member
      · cases mem_singleton.mp member
        exact mem_of_find?_eq_some found
    · cases member
  · cases member

theorem DrawnFrom.trialSelection (drawn : DrawnFrom prepared selected)
    (member : candidate ∈ prepared) :
    DrawnFrom prepared (trialSelection prepared selected candidate) := by
  refine drawn.foldl_insert ?_
  intro item listed
  rcases mem_cons.mp listed with rfl | bundled
  · exact member
  · exact mem_conflictBundle bundled

/-- The invariant rule of the optional phase: what each offer keeps, the phase keeps. -/
theorem selectOptional_preserves {authorized startOffset : Nat}
    {candidates : List PreparedCandidate} {index : Nat} {progress : Progress}
    (invariant : Progress → Prop) (start : invariant progress)
    (preserved : ∀ progress candidate, candidate ∈ candidates → invariant progress →
      invariant (offerOptional library tokenizer request prepared authorized progress candidate)) :
    invariant (selectOptional library tokenizer request prepared authorized startOffset index progress candidates).1 := by
  induction candidates generalizing index progress with
  | nil => exact start
  | cons candidate rest ih =>
    rw [selectOptional]
    split
    · exact start
    · refine ih (preserved progress candidate mem_cons_self start) ?_
      exact fun progress later member => preserved progress later (mem_cons_of_mem _ member)

/-- An offer either passes over the candidate with a reason or takes a trial that fits. -/
theorem offerOptional_cases (library : Libraries) (tokenizer : TokenCounter)
    (request : CompileRequest) (prepared : List PreparedCandidate) (authorized : Nat)
    (progress : Progress) (candidate : PreparedCandidate) :
    (∃ reason, offerOptional library tokenizer request prepared authorized progress candidate =
        progress.passOver candidate reason) ∨ ∃ fit, fitPack library tokenizer request
          (trialSelection prepared progress.selected candidate).inOrder progress.omissions
          (progress.evaluations + 1) authorized none = .ok fit ∧
        offerOptional library tokenizer request prepared authorized progress candidate =
          { progress with
            selected := trialSelection prepared progress.selected candidate
            fit, evaluations := progress.evaluations + 1 } := by
  unfold offerOptional
  split
  · exact .inl ⟨.redundant, rfl⟩
  · dsimp only
    split
    · next fit fitted => exact .inr ⟨fit, fitted, rfl⟩
    · next reason _ => exact .inl ⟨reason, rfl⟩

theorem mem_maxBy {Item : Type} {order : Item → Item → Ordering} {items : List Item} {best : Item}
    (found : maxBy order items = some best) : best ∈ items := by
  cases items with
  | nil => cases found
  | cons first rest =>
    cases found
    have kept : ∀ (rest : List Item) (start : Item), rest.foldl
      (fun best item => if order best item = .gt then best else item) start =
          start ∨ rest.foldl (fun best item => if order best item = .gt then best else item)
            start ∈ rest := by
      intro rest
      induction rest with
      | nil => exact fun start => .inl rfl
      | cons item later ih =>
        intro start
        rw [foldl_cons]
        rcases ih (if order start item = .gt then start else item) with same | listed
        · rw [same]
          split
          · exact .inl rfl
          · exact .inr mem_cons_self
        · exact .inr (mem_cons_of_mem _ listed)
    rcases kept rest first with same | listed
    · rw [same]
      exact mem_cons_self
    · exact mem_cons_of_mem _ listed

variable {pool : List PreparedCandidate}

theorem mem_greedyRounds {covered : BTreeSet String}
    (member : item ∈ greedyRounds rounds covered pool) : item ∈ pool := by
  induction rounds generalizing covered pool with
  | zero => cases member
  | succ rounds ih =>
    rw [greedyRounds] at member
    split at member
    · cases member
    · next best index found =>
      rcases mem_cons.mp member with rfl | later
      · have listed := mem_maxBy found
        exact fst_mem_of_mem_zipIdx listed
      · exact mem_of_mem_eraseIdx (ih later)

theorem mem_greedyOrder (member : item ∈ greedyOrder pool) : item ∈ pool :=
  mem_greedyRounds member

end

variable {evidence : BTreeMap EvidenceHandle PackEvidence} {candidate : PackCandidate}

theorem considerRepresentation_ok {keepFacets : BTreeSet String} {tokens : UInt32}
    (success : candidate.representations.foldlM
      (considerRepresentation library tokenizer candidate keepFacets) none = .ok
      (some (tokens, block))) :
    ∃ representation ∈ candidate.representations, block = toBlock candidate representation := by
  refine foldlM_preserves success (fun best => ∀ tokens block, best = some (tokens, block) →
      ∃ representation ∈ candidate.representations, block = toBlock candidate representation)
    (by simp) ?_ tokens block rfl
  intro best representation next listed held stepped tokens block same
  subst same
  unfold considerRepresentation at stepped
  split at stepped
  · cases stepped
    exact held tokens block rfl
  · obtain ⟨_, _, stepped⟩ := bind_ok stepped
    obtain ⟨_, _, stepped⟩ := bind_ok stepped
    split at stepped
    · cases stepped
      exact ⟨representation, listed, rfl⟩
    · next bestTokens bestBlock =>
      split at stepped
      · cases stepped
        exact ⟨representation, listed, rfl⟩
      · cases stepped
        exact held _ _ rfl

variable {available : List PackEvidence} {uncovered : BTreeSet ClaimId}

theorem considerEvidence_ok {offer : EvidenceOffer}
    (success : available.foldlM (considerEvidence tokenizer uncovered) none = .ok (some offer)) :
    offer.item ∈ available := by
  refine foldlM_preserves success (fun best => ∀ offer, best = some offer → offer.item ∈ available)
    (by simp) ?_ offer rfl
  intro best item next listed held stepped offer same
  subst same
  unfold considerEvidence at stepped
  split at stepped
  · cases stepped
    exact held offer rfl
  · obtain ⟨_, _, stepped⟩ := bind_ok stepped
    split at stepped
    · cases stepped
      exact listed
    · dsimp only at stepped
      split at stepped
      · cases stepped
        exact listed
      · cases stepped
        exact held _ rfl

variable {selected : List PackEvidence}

/-- The cover of the claims invents no evidence: it only moves items from the available ones. -/
theorem coverClaims_ok {chosen unused : List PackEvidence}
    (success : coverClaims tokenizer rounds available uncovered selected =
      .ok (some (chosen, unused))) (member : item ∈ chosen ∨ item ∈ unused) : item ∈ selected ∨
        item ∈ available := by
  have finished : ∀ {available selected : List PackEvidence},
      (some (selected, available)) = some (chosen, unused) → item ∈ selected ∨
        item ∈ available := by
    intro available selected same
    cases same
    exact member
  induction rounds generalizing available selected uncovered with
  | zero =>
    rw [coverClaims] at success
    split at success
    · exact finished (Except.ok.inj success)
    · cases success
  | succ rounds ih =>
    rw [coverClaims] at success
    split at success
    · exact finished (Except.ok.inj success)
    · obtain ⟨best, found, success⟩ := bind_ok success
      split at success
      · cases success
      · next offer =>
        rcases ih success with listed | listed
        · rcases mem_append.mp listed with before | last
          · exact .inl before
          · cases mem_singleton.mp last
            exact .inr (considerEvidence_ok found)
        · exact .inr (mem_of_mem_filter listed)

theorem minimalEvidence_ok {requirePrimary : Bool}
    (success : minimalEvidence tokenizer candidate evidence requirePrimary = .ok selected)
    (member : item ∈ selected) : ∃ handle ∈ candidate.evidenceHandles, evidence[handle]? =
      some item := by
  have offered : item ∈ candidate.evidenceHandles.toList.filterMap fun handle => evidence[handle]? := by
    obtain ⟨cover, covers, success⟩ := bind_ok success
    split at success
    · cases success
      cases member
    · next chosen unused =>
      have drawn : item ∈ chosen ∨ item ∈ unused → item ∈ _ := fun member =>
        (coverClaims_ok covers member).resolve_left not_mem_nil
      split at success
      · split at success
        · cases success
          cases member
        · next primary found =>
          cases success
          rw [mem_sortBy] at member
          rcases mem_append.mp member with before | last
          · exact drawn (.inl before)
          · cases mem_singleton.mp last
            exact drawn (.inr (mem_of_mem_filter (mem_maxBy found)))
      · cases success
        rw [mem_sortBy] at member
        exact drawn (.inl member)
  obtain ⟨handle, listed, found⟩ := mem_filterMap.mp offered
  exact ⟨handle, mem_toList.mp listed, found⟩

theorem supportingEvidence_ok (success : supportingEvidence tokenizer request candidate evidence =
    .ok (some selected))
    (member : item ∈ selected) : ∃ handle ∈ candidate.evidenceHandles, evidence[handle]? =
      some item := by
  unfold supportingEvidence at success
  split at success
  · cases success
    cases member
  · split at success
    · dsimp only at success
      split at success
      · cases success
      · cases success
        obtain ⟨handle, listed, found⟩ := mem_filterMap.mp (mem_of_mem_filter member)
        exact ⟨handle, mem_toList.mp listed, found⟩
    · split at success
      · obtain ⟨chosen, found, success⟩ := bind_ok success
        split at success
        · cases success
        · cases success
          exact minimalEvidence_ok found member
      · cases success
        cases member

/-- What a prepared candidate keeps of the candidate it was prepared from. -/
structure PreparedFrom (prospect : Prospect) (evidence : BTreeMap EvidenceHandle PackEvidence)
    (item : PreparedCandidate) : Prop where
  content : ∃ handles, item.block.toMemoryContent = { prospect.candidate.toMemoryContent with
      evidenceHandles := handles, instructionCapability := .none }
  mandatory : item.candidate.mandatory = prospect.candidate.mandatory
  evidence : ∀ record ∈ item.evidence, ∃ handle : EvidenceHandle, evidence[handle]? = some record
  useAction : item.useAction =
    (interpretedUse prospect.candidate.interpretation prospect.useAction prospect.directiveReason).1
  generated : item.generated = false

variable {prospect : Prospect} {item : PreparedCandidate}

/-- What preparing a candidate leaves behind: which prospect it comes from and which evidence
backs it. -/
theorem prepareCandidate_ok {names : BTreeSet String}
    (success : prepareCandidate library tokenizer request prospect evidence names =
      .ok (some item)) : PreparedFrom prospect evidence item := by
  obtain ⟨support, supports, success⟩ := bind_ok success
  split at success
  · cases success
  · next records =>
    obtain ⟨best, chosen, success⟩ := bind_ok success
    split at success
    · cases success
    · next blockTokens block =>
      obtain ⟨evidenceTokens, _, success⟩ := bind_ok success
      cases success
      obtain ⟨representation, _, rfl⟩ := considerRepresentation_ok chosen
      refine ⟨⟨_, rfl⟩, rfl, ?_, rfl, rfl⟩
      intro record member
      obtain ⟨handle, _, found⟩ := supportingEvidence_ok supports member
      exact ⟨handle, found⟩

theorem PreparedFrom.id (from' : PreparedFrom prospect evidence item) :
    item.block.id = prospect.candidate.id := by
  obtain ⟨handles, same⟩ := from'.content
  rw [show item.block.id = item.block.toMemoryContent.id from rfl, same]

/-- The preparation loop keeps the order of the prospects and adds at most one item for each. -/
theorem foldlM_prepareNext_ok {prospects : List Prospect} {before after : Prepared}
    (success : prospects.foldlM (prepareNext library tokenizer request evidence) before =
      .ok after) :
    ∃ added, after.candidates = before.candidates ++ added ∧
      (added.map (·.block.id)).Sublist (prospects.map (·.candidate.id)) ∧
      ∀ item ∈ added, ∃ prospect ∈ prospects, PreparedFrom prospect evidence item ∧
        prospect.candidate.taints.contains .secretLike = false := by
  induction prospects generalizing before with
  | nil =>
    cases success
    exact ⟨[], by simp, List.Sublist.refl _, by simp⟩
  | cons prospect rest ih =>
    rw [foldlM_cons] at success
    obtain ⟨between, stepped, success⟩ := bind_ok success
    obtain ⟨added, grown, sublist, origin⟩ := ih success
    have skipped : between.candidates = before.candidates →
      ∃ added, after.candidates = before.candidates ++ added ∧
          (added.map (·.block.id)).Sublist ((prospect :: rest).map (·.candidate.id)) ∧
          ∀ item ∈ added, ∃ other ∈ prospect :: rest, PreparedFrom other evidence item ∧
            other.candidate.taints.contains .secretLike = false := by
      intro same
      refine ⟨added, by rw [grown, same], sublist.cons _, fun item member => ?_⟩
      obtain ⟨other, listed, from'⟩ := origin item member
      exact ⟨other, mem_cons_of_mem _ listed, from'⟩
    unfold prepareNext at stepped
    split at stepped
    · cases stepped
      exact skipped rfl
    · next clean =>
      obtain ⟨outcome, prepares, stepped⟩ := bind_ok stepped
      split at stepped
      · next value =>
        cases stepped
        have from' := prepareCandidate_ok prepares
        refine ⟨value :: added, by simp [grown], ?_, ?_⟩
        · rw [map_cons, map_cons, from'.id]
          exact sublist.cons_cons _
        · intro item member
          rcases mem_cons.mp member with rfl | later
          · exact ⟨prospect, mem_cons_self, from', by simpa using clean⟩
          · obtain ⟨other, listed, from'⟩ := origin item later
            exact ⟨other, mem_cons_of_mem _ listed, from'⟩
      · cases stepped
        exact skipped rfl

variable {intake : Intake}

/-- A materialized candidate has the id its policy label was authorized under and was not seen
before. -/
theorem takeCandidate_ok {next : Intake} {entry : CandidatePolicyLabel × UseAction}
    (success : takeCandidate request provider intake entry = .ok next) :
    ∃ candidate, provider.materializeCandidate entry.1.id = .ok candidate ∧
      candidate.id = entry.1.id ∧ entry.1.id ∉ intake.seen ∧
        next.seen = intake.seen.insert entry.1.id ∧
      (next.candidates = intake.candidates ∨ next.candidates = intake.candidates ++
        [⟨candidate, entry.2, directiveReasonOf entry.1 entry.2⟩]) := by
  have success := rest_ok success
  obtain ⟨fresh, success⟩ := unit_ok success
  obtain ⟨candidate, loads, success⟩ := bind_ok success
  obtain ⟨identified, success⟩ := unit_ok success
  have success := rest_ok success
  have unseen : entry.1.id ∉ intake.seen := by
    simpa [BTreeSet.contains_eq_false_iff] using fresh
  have same : candidate.id = entry.1.id := by simpa using identified
  refine ⟨candidate, loads, same, unseen, ?_⟩
  dsimp only at success
  split at success
  · cases success
    exact ⟨rfl, .inl rfl⟩
  · cases success
    exact ⟨rfl, .inr rfl⟩

/-- No two materialized candidates share an id, since a repeated label is refused. -/
theorem takeCandidates_nodup (success : takeCandidates request provider = .ok intake) :
    (intake.candidates.map (·.candidate.id)).Nodup := by
  obtain ⟨labels, _, success⟩ := bind_ok success
  have held : (intake.candidates.map (·.candidate.id)).Nodup ∧
    ∀ prospect ∈ intake.candidates, prospect.candidate.id ∈ intake.seen := by
    refine foldlM_preserves success (fun intake => (intake.candidates.map (·.candidate.id)).Nodup ∧
        ∀ prospect ∈ intake.candidates, prospect.candidate.id ∈ intake.seen) (by simp) ?_
    rintro intake entry next _ ⟨distinct, inside⟩ stepped
    obtain ⟨candidate, _, same, unseen, seen, kept | taken⟩ := takeCandidate_ok stepped
    · rw [kept, seen]
      exact ⟨distinct, fun prospect member => mem_insert.mpr (.inr (inside prospect member))⟩
    · rw [taken, seen]
      constructor
      · rw [map_append, nodup_append]
        refine ⟨distinct, nodup_singleton _, ?_⟩
        intro id member other last
        obtain ⟨prospect, listed, rfl⟩ := mem_map.mp member
        rw [map_singleton, mem_singleton] at last
        rw [last, same]
        exact fun equal => unseen (equal ▸ inside prospect listed)
      · intro prospect member
        rcases mem_append.mp member with before | last
        · exact mem_insert.mpr (.inr (inside prospect before))
        · cases mem_singleton.mp last
          exact mem_insert.mpr (.inl (by simp [same]))
  exact held.1

/-- A candidate that is taken was authorized under its label and materialized under the same id. -/
theorem mem_takeCandidates (success : takeCandidates request provider = .ok intake)
    (member : prospect ∈ intake.candidates) : ∃ labels label, provider.candidateLabels =
      .ok labels ∧ label ∈ labels ∧
      label.authorize request.principal request.modelProfile.externalProcessing request.explicitMemoryRequest = some prospect.useAction ∧
      provider.materializeCandidate label.id = .ok prospect.candidate ∧
        prospect.candidate.id = label.id := by
  obtain ⟨labels, lists, success⟩ := bind_ok success
  refine foldlM_preserves success (fun intake => ∀ prospect ∈ intake.candidates, ∃ labels label,
      provider.candidateLabels = .ok labels ∧ label ∈ labels ∧
        label.authorize request.principal request.modelProfile.externalProcessing
        request.explicitMemoryRequest = some prospect.useAction ∧
          provider.materializeCandidate label.id = .ok prospect.candidate ∧
      prospect.candidate.id = label.id) (by simp) ?_ prospect member
  intro intake entry next listed held stepped prospect member
  obtain ⟨label, offered, authorized⟩ := mem_filterMap.mp listed
  obtain ⟨action, allowed, rfl⟩ := Option.map_eq_some_iff.mp authorized
  obtain ⟨candidate, loads, same, _, _, kept | taken⟩ := takeCandidate_ok stepped
  · exact held prospect (kept ▸ member)
  · rw [taken] at member
    rcases mem_append.mp member with before | last
    · exact held prospect before
    · cases mem_singleton.mp last
      exact ⟨labels, label, lists, mem_sortBy.mp offered, allowed, loads, same⟩

variable {blake3 : List UInt8 → Digest}

/-- Evidence stands under its handle as the provider materialized it. -/
theorem getElem?_takeAllEvidence {requested : BTreeSet EvidenceHandle}
    (success : takeAllEvidence blake3 request provider requested = .ok evidence)
    {handle : EvidenceHandle} {record : PackEvidence} (found : evidence[handle]? = some record) :
    provider.materializeEvidence record.id = .ok record := by
  obtain ⟨labels, _, success⟩ := bind_ok success
  refine foldlM_preserves success (fun evidence => ∀ (handle : EvidenceHandle)
    (record : PackEvidence),
      evidence[handle]? = some record → provider.materializeEvidence record.id = .ok record)
    (by simp) ?_ handle record found
  intro evidence label next _ held stepped handle record found
  have stepped := rest_ok stepped
  split at stepped
  · have stepped := rest_ok stepped
    have stepped := rest_ok stepped
    obtain ⟨item, loads, stepped⟩ := bind_ok stepped
    obtain ⟨identified, stepped⟩ := unit_ok stepped
    have stepped := rest_ok stepped
    cases stepped
    have same : item.id = label.id := by simpa using identified
    rcases getElem?_insert_cases found with ⟨_, rfl⟩ | ⟨_, found⟩
    · rw [same]
      exact loads
    · exact held handle record found
  · cases stepped
    exact held handle record found

variable {materialized : Materialized}

theorem materializePolicyFirst_ok (success : materializePolicyFirst blake3 request provider =
    .ok materialized) :
    ∃ intake, takeCandidates request provider = .ok intake ∧
      materialized.candidates = intake.candidates ∧
      takeAllEvidence blake3 request provider (requestedEvidence intake.candidates) =
        .ok materialized.evidence := by
  obtain ⟨intake, takes, success⟩ := bind_ok success
  obtain ⟨evidence, loads, success⟩ := bind_ok success
  cases success
  exact ⟨intake, takes, rfl, loads⟩

/-- The candidates compilation selects from: where each comes from, and that none is
contested without the block that says so. -/
theorem candidatesFor_ok {prepared : Prepared}
    (success : candidatesFor library tokenizer request materialized = .ok prepared) :
    (∀ item ∈ prepared.candidates, ∃ prospect ∈ materialized.candidates,
        PreparedFrom prospect materialized.evidence item) ∧
          ((materialized.candidates.map (·.candidate.id)).Nodup →
        (prepared.candidates.map (·.block.id)).Nodup) ∧
      ∃ conflicts, ∀ item ∈ prepared.candidates, lacksManifest conflicts item = false := by
  obtain ⟨sorted, sorts, success⟩ := bind_ok success
  obtain ⟨folded, folds, sorts⟩ := bind_ok sorts
  cases sorts
  cases success
  obtain ⟨added, grown, sublist, origin⟩ := foldlM_prepareNext_ok folds
  have listed : folded.candidates = added := by simpa using grown
  refine ⟨?_, ?_, ⟨_, fun item member => by simpa using (mem_filter.mp member).2⟩⟩
  · intro item member
    have inside : item ∈ folded.candidates := mem_sortBy.mp (mem_of_mem_filter member)
    obtain ⟨prospect, from', prepares, _⟩ := origin item (listed ▸ inside)
    exact ⟨prospect, from', prepares⟩
  · intro distinct
    have nodup : (folded.candidates.map (·.block.id)).Nodup := by
      rw [listed]
      exact sublist.nodup distinct
    have reordered : ((sortBy blockIdOrder folded.candidates).map (·.block.id)).Nodup :=
      ((sortBy_perm blockIdOrder folded.candidates).map _).nodup_iff.mpr nodup
    exact (filter_sublist.map _).nodup reordered

variable {item : PreparedCandidate} {mandatory : Mandatory}

section

theorem requiredFacets_nodup (bound : checkBinding request provider tokenizer = .ok ()) :
    (request.requiredFacets.map (·.name)).Nodup := by
  obtain ⟨valid, _⟩ := unit_ok bound
  iterate 10 obtain ⟨_, _, valid⟩ := bind_ok valid
  obtain ⟨seen, folded, _⟩ := bind_ok valid
  have listed : ∀ (facets : List PackFacetRequirement) (before after : List String),
      facets.foldlM CompileRequest.validateFacet before = .ok after → before.Nodup →
      (facets.map (·.name)).Nodup ∧ ∀ facet ∈ facets, facet.name ∉ before := by
    intro facets
    induction facets with
    | nil => intro _ _ _ _; simp
    | cons facet rest ih =>
      intro before after folded distinct
      rw [foldlM_cons] at folded
      obtain ⟨between, stepped, folded⟩ := bind_ok folded
      have stepped := rest_ok stepped
      obtain ⟨fresh, stepped⟩ := unit_ok stepped
      cases stepped
      have unseen : facet.name ∉ before := by simpa using fresh
      obtain ⟨restDistinct, outside⟩ := ih _ _ folded (nodup_cons.mpr ⟨unseen, distinct⟩)
      refine ⟨?_, ?_⟩
      · rw [map_cons, nodup_cons]
        refine ⟨fun member => ?_, restDistinct⟩
        obtain ⟨other, later, same⟩ := mem_map.mp member
        exact outside other later (same ▸ mem_cons_self)
      · intro other member
        rcases mem_cons.mp member with rfl | later
        · exact unseen
        · exact fun inside => outside other later (mem_cons_of_mem _ inside)
  exact (listed _ _ _ folded nodup_nil).1

structure PageRun where
  prior : ContinuationState
  materialized : Materialized
  prepared : Prepared
  mandatory : Mandatory
  start : FitOutput
  reached : Progress
  nextOffset : Nat
  continuation : Option ContextContinuationToken
  final : FitOutput

structure PageRun.Of (run : PageRun) (library : Libraries) (compiler : ContextCompiler)
    (request : CompileRequest) (provider : ContextProvider) (tokenizer : TokenCounter)
    (result : CompiledContext) : Prop where
  bound : checkBinding request provider tokenizer = .ok ()
  prior : compiler.priorState library request = .ok run.prior
  materialized : materializePolicyFirst library.blake3 request provider = .ok run.materialized
  prepared : candidatesFor library tokenizer request run.materialized = .ok run.prepared
  mandatory : selectMandatory library tokenizer request run.prepared.candidates = .ok run.mandatory
  start : fitPack library tokenizer request run.mandatory.selected.inOrder run.prepared.omissions 0
    run.materialized.authorizedCandidates none = .ok run.start
  offset : run.prior.nextOffset ≤ (optionalOrder run.mandatory).length
  reached : selectOptional library tokenizer request run.mandatory.prepared
      run.materialized.authorizedCandidates run.prior.nextOffset run.prior.nextOffset
      ⟨run.mandatory.selected, run.start, run.prepared.omissions, 0⟩
      ((optionalOrder run.mandatory).drop run.prior.nextOffset) = (run.reached, run.nextOffset)
  continuation : compiler.issueContinuation library request run.prior run.reached.fit run.nextOffset
    (optionalOrder run.mandatory).length = .ok run.continuation
  final : finalFit library tokenizer request run.reached
    run.materialized.authorizedCandidates run.continuation = .ok run.final
  published : publish library run.final = .ok result

variable {fit : FitOutput}

theorem fitError_ok {message : String} {outcome : Except OmissionReason FitOutput}
    (success : fitError message outcome = .ok fit) : outcome = .ok fit := by
  unfold fitError at success
  split at success
  · cases success
    rfl
  · cases success

/-- A successful compilation as one record of its phases, from which the properties below are
read. -/
theorem compile_ok (success : compiler.compile library request provider tokenizer = .ok result) :
    ∃ run : PageRun, run.Of library compiler request provider tokenizer result := by
  obtain ⟨bound, success⟩ := unit_ok success
  obtain ⟨prior, priorRead, success⟩ := bind_ok success
  obtain ⟨materialized, materializes, success⟩ := bind_ok success
  obtain ⟨prepared, prepares, success⟩ := bind_ok success
  obtain ⟨mandatory, selects, success⟩ := bind_ok success
  obtain ⟨start, starts, success⟩ := bind_ok success
  obtain ⟨offset, success⟩ := unit_ok success
  obtain ⟨continuation, continues, success⟩ := bind_ok success
  obtain ⟨final, finishes, published⟩ := bind_ok success
  refine ⟨⟨prior, materialized, prepared, mandatory, start, _, _, continuation, final⟩,
    bound, priorRead, materializes, prepares, selects, fitError_ok starts, ?_, rfl, continues, fitError_ok finishes, published⟩
  simpa using offset

variable {run : PageRun}

theorem publish_ok (success : publish library fit = .ok result) :
    fit.pack.validate library.blake3 = .ok () ∧ result.pack = fit.pack := by
  obtain ⟨valid, success⟩ := unit_ok success
  obtain ⟨_, _, success⟩ := bind_ok success
  obtain ⟨_, _, success⟩ := bind_ok success
  cases success
  exact ⟨valid, rfl⟩

theorem PageRun.Of.shows (of : run.Of library compiler request provider tokenizer result) :
    ∃ continuation, Shows request run.reached.selected.inOrder run.reached.omissions continuation result.pack := by
  have finished := of.final
  unfold finalFit at finished
  dsimp only at finished
  rw [(publish_ok of.published).2]
  split at finished
  · next output fitted =>
    cases finished
    exact ⟨_, fitPack_shows fitted⟩
  · split at finished
    · exact ⟨none, fitPack_shows finished⟩
    · cases finished

variable {id : BlockId}

theorem mem_byId (found : (byId items)[id]? = some item) : item ∈ items ∧ item.block.id = id := by
  rcases getElem?_insertMany_cases found with listed | none
  · obtain ⟨owner, member, same⟩ := mem_map.mp listed
    cases same
    exact ⟨member, rfl⟩
  · simp at none

structure MandatoryOf (library : Libraries) (tokenizer : TokenCounter) (request : CompileRequest)
    (prepared : List PreparedCandidate) (mandatory : Mandatory) (selectedIds : BTreeSet BlockId)
    (generated : List PreparedCandidate) : Prop where
  closed : mandatoryIds request prepared = .ok selectedIds
  generates : (missingRequirements request prepared selectedIds).mapM (fun requirement =>
    prepareMissingUnknown library tokenizer request requirement.name) = .ok generated
  merged : mandatory.prepared = sortBy blockIdOrder (prepared ++ generated)
  selection : mandatory.selected = (∅ : BTreeMap BlockId PreparedCandidate).insertMany
    ((selectedIds.insertMany (generated.map (·.block.id))).toList.filterMap fun id =>
      (byId mandatory.prepared)[id]?.map fun item => (id, item))

/-- The mandatory phase: the candidates it selects, and the unknowns it makes for facets that
nothing covers. -/
theorem selectMandatory_ok (success : selectMandatory library tokenizer request prepared =
    .ok mandatory) :
    ∃ selectedIds generated, MandatoryOf library tokenizer request prepared mandatory selectedIds generated := by
  obtain ⟨selectedIds, selects, success⟩ := bind_ok success
  obtain ⟨generated, generates, success⟩ := bind_ok success
  cases success
  exact ⟨selectedIds, generated, selects, generates, rfl, rfl⟩

section

variable {prepared generated : List PreparedCandidate} {selectedIds : BTreeSet BlockId}

section

variable (of : MandatoryOf library tokenizer request prepared mandatory selectedIds generated)
include of

theorem MandatoryOf.mem_prepared : item ∈ mandatory.prepared ↔ item ∈ prepared ∨
    item ∈ generated := by
  rw [of.merged, mem_sortBy, mem_append]

theorem MandatoryOf.drawn : DrawnFrom mandatory.prepared mandatory.selected := by
  intro id item found
  rw [of.selection] at found
  rcases getElem?_insertMany_cases found with listed | none
  · obtain ⟨other, _, found⟩ := mem_filterMap.mp listed
    obtain ⟨chosen, present, same⟩ := Option.map_eq_some_iff.mp found
    cases same
    exact mem_byId present
  · simp at none

/-- Candidates under selected identifiers and generated unknowns are in the mandatory
selection. -/
theorem MandatoryOf.selects (listed : item ∈ mandatory.prepared)
    (chosen : item.block.id ∈ selectedIds ∨ item ∈ generated) :
    ∃ found, mandatory.selected[item.block.id]? = some found := by
  obtain ⟨found, present⟩ : ∃ found, (byId mandatory.prepared)[item.block.id]? = some found :=
    getElem?_insertMany_isSome (.inl ⟨item, mem_map.mpr ⟨item, listed, rfl⟩⟩)
  rw [of.selection]
  refine getElem?_insertMany_isSome (.inl ⟨found, mem_filterMap.mpr ⟨item.block.id, ?_, ?_⟩⟩)
  · rw [mem_toList, BTreeSet.mem_insertMany]
    exact chosen.imp_right fun fresh => mem_map.mpr ⟨item, fresh, rfl⟩
  · rw [present]
    rfl

end

end

theorem PageRun.Of.drawn (of : run.Of library compiler request provider tokenizer result) :
    DrawnFrom run.mandatory.prepared run.reached.selected := by
  obtain ⟨selectedIds, generated, mandatoryOf⟩ := selectMandatory_ok of.mandatory
  have kept : DrawnFrom run.mandatory.prepared
    (selectOptional library tokenizer request run.mandatory.prepared
        run.materialized.authorizedCandidates run.prior.nextOffset run.prior.nextOffset
        ⟨run.mandatory.selected, run.start, run.prepared.omissions, 0⟩
        ((optionalOrder run.mandatory).drop run.prior.nextOffset)).1.selected := by
    refine selectOptional_preserves
      (fun progress => DrawnFrom run.mandatory.prepared progress.selected) mandatoryOf.drawn ?_
    intro progress candidate member drawn
    have offered : candidate ∈ run.mandatory.prepared :=
      mem_of_mem_filter (mem_greedyOrder (mem_of_mem_drop member))
    rcases offerOptional_cases library tokenizer request run.mandatory.prepared
      run.materialized.authorizedCandidates progress candidate with ⟨reason, passed⟩ |
        ⟨fit, _, taken⟩
    · rw [passed]
      exact drawn
    · rw [taken]
      exact drawn.trialSelection offered
  rw [of.reached] at kept
  exact kept

variable {candidate : PreparedCandidate}

theorem getElem?_trialSelection {selected : BTreeMap BlockId PreparedCandidate}
    (present : selected[id]? = some item)
    (different : candidate.block.id ≠ id) : (trialSelection prepared selected candidate)[id]? =
      some item := by
  have kept : (selected.insert candidate.block.id candidate)[id]? = some item := by
    rw [getElem?_insert_of_ne different]
    exact present
  unfold trialSelection conflictBundle
  split
  · split
    · next conflict _ =>
      split
      · simpa using kept
      · next absent =>
        have other : conflict.block.id ≠ id := by
          rintro rfl
          rw [ExtTreeMap.contains_iff_mem, ExtTreeMap.mem_iff_isSome_getElem?, present] at absent
          exact absent rfl
        rw [foldl_cons, foldl_cons, foldl_nil, getElem?_insert_of_ne other]
        exact kept
    · simpa using kept
  · simpa using kept

theorem mem_optionalOrder (member : candidate ∈ optionalOrder mandatory) :
    candidate ∈ mandatory.prepared ∧ mandatory.selected[candidate.block.id]? = none := by
  obtain ⟨listed, absent⟩ := mem_filter.mp (mem_greedyOrder member)
  refine ⟨listed, ?_⟩
  exact ExtTreeMap.getElem?_eq_none_of_contains_eq_false (by simpa using absent)

/-- The optional phase drops no mandatory candidate. -/
theorem PageRun.Of.keepsMandatory (of : run.Of library compiler request provider tokenizer result)
    (present : run.mandatory.selected[id]? = some item) :
    run.reached.selected[id]? = some item := by
  have kept : (selectOptional library tokenizer request run.mandatory.prepared
      run.materialized.authorizedCandidates run.prior.nextOffset run.prior.nextOffset
      ⟨run.mandatory.selected, run.start, run.prepared.omissions, 0⟩
      ((optionalOrder run.mandatory).drop run.prior.nextOffset)).1.selected[id]? = some item := by
    refine selectOptional_preserves (fun progress => progress.selected[id]? = some item) present ?_
    intro progress candidate member held
    have outside := (mem_optionalOrder (mem_of_mem_drop member)).2
    have different : candidate.block.id ≠ id := by
      rintro rfl
      rw [present] at outside
      cases outside
    rcases offerOptional_cases library tokenizer request run.mandatory.prepared
      run.materialized.authorizedCandidates progress candidate with ⟨reason, passed⟩ |
        ⟨fit, _, taken⟩
    · rw [passed]
      exact held
    · rw [taken]
      exact getElem?_trialSelection held different
  rw [of.reached] at kept
  exact kept

end

end ContextDb.Context
