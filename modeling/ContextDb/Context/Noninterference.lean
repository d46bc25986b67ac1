import ContextDb.Lib.OrderedEntries
import ContextDb.Context.Compiler

/-! What a principal may not use does not exist for the compiler. Labels are filtered before
any payload is read, unauthorized evidence behaves like absent evidence, and everything after
materialization sees the materialized records only. -/

set_option autoImplicit false

namespace ContextDb.Context

open Std Lib ContextDb.Core Recall ContextCompiler List

variable {library : Libraries} {compiler : ContextCompiler} {tokenizer : TokenCounter}
  {request : CompileRequest} {left right : InMemoryContextProvider}

def CandidatePolicyLabel.actionFor (request : CompileRequest) (label : CandidatePolicyLabel) :
    Option UseAction :=
  label.authorize request.principal request.modelProfile.externalProcessing request.explicitMemoryRequest

def EvidencePolicyLabel.allowedFor (request : CompileRequest) (label : EvidencePolicyLabel) :
    Bool :=
  label.authorize request.principal request.modelProfile.externalProcessing

namespace InMemoryContextProvider

def authorizedCandidates (provider : InMemoryContextProvider) (request : CompileRequest) :
    List (BlockId × ProviderCandidate) :=
  provider.candidates.toList.filter fun entry => ((entry.2.label entry.1).actionFor request).isSome

def authorizedEvidence (provider : InMemoryContextProvider) (request : CompileRequest) :
    List (EvidenceHandle × ProviderEvidence) :=
  provider.evidence.toList.filter fun entry => (entry.2.label entry.1).allowedFor request

variable {provider : InMemoryContextProvider}

theorem mem_authorizedCandidates {entry : BlockId × ProviderCandidate} :
    entry ∈ provider.authorizedCandidates request ↔ provider.candidates[entry.1]? = some entry.2 ∧
      ((entry.2.label entry.1).actionFor request).isSome = true := by
  rw [authorizedCandidates, mem_filter, ExtTreeMap.mem_toList_iff_getElem?_eq_some]

theorem mem_authorizedEvidence {entry : EvidenceHandle × ProviderEvidence} :
    entry ∈ provider.authorizedEvidence request ↔ provider.evidence[entry.1]? = some entry.2 ∧
      (entry.2.label entry.1).allowedFor request = true := by
  rw [authorizedEvidence, mem_filter, ExtTreeMap.mem_toList_iff_getElem?_eq_some]

end InMemoryContextProvider

open InMemoryContextProvider

variable (provider : InMemoryContextProvider)

theorem authorizedLabels_eq : authorizedLabels request (sortBy (compareOn (·.id))
        (provider.candidates.toList.map fun entry => entry.2.label entry.1)) =
      (provider.authorizedCandidates request).filterMap fun entry =>
        ((entry.2.label entry.1).actionFor request).map fun action =>
          (entry.2.label entry.1, action) := by
  have sorted : sortBy (compareOn (·.id))
    (provider.candidates.toList.map fun entry => entry.2.label entry.1) =
        provider.candidates.toList.map fun entry => entry.2.label entry.1 := by
    refine sortBy_ordered (pairwise_map.mpr ?_)
    exact ordered_toList provider.candidates
  rw [sorted, authorizedLabels, filterMap_map, authorizedCandidates, filterMap_filter]
  refine filterMap_congr fun entry _ => ?_
  change ((entry.2.label entry.1).actionFor request).map _ = _
  cases (entry.2.label entry.1).actionFor request with
  | none => rfl
  | some action => rfl

theorem takeCandidates_eq (sameCandidates : left.authorizedCandidates request =
    right.authorizedCandidates request) :
    takeCandidates request left.toProvider = takeCandidates request right.toProvider := by
  have listed : ∀ provider : InMemoryContextProvider, takeCandidates request provider.toProvider =
        (authorizedLabels request (sortBy (compareOn (·.id))
          (provider.candidates.toList.map fun entry => entry.2.label entry.1))).foldlM
          (takeCandidate request provider.toProvider) ⟨∅, [], [], 0⟩ := fun _ => rfl
  rw [listed, listed, authorizedLabels_eq, authorizedLabels_eq, ← sameCandidates]
  refine foldlM_congr ?_ _
  intro label member intake
  obtain ⟨entry, authorized, same⟩ := mem_filterMap.mp member
  obtain ⟨action, _, rfl⟩ := Option.map_eq_some_iff.mp same
  -- The payload of an authorized label is the same on both sides.
  have onLeft := (mem_authorizedCandidates.mp authorized).1
  have onRight := (mem_authorizedCandidates.mp (sameCandidates ▸ authorized)).1
  have loaded : left.toProvider.materializeCandidate entry.1 =
    right.toProvider.materializeCandidate entry.1 := by
    simp only [toProvider, onLeft, onRight]
  simp only [takeCandidate, ProviderCandidate.label, loaded]

theorem evidenceLabels_filter (requested : List EvidenceHandle) :
    (requested.filterMap fun id => provider.evidence[id]?.map fun entry => entry.label id).filter
        (·.allowedFor request) = requested.filterMap fun id =>
        (provider.evidence[id]?.filter fun entry =>
        (entry.label id).allowedFor request).map fun entry => entry.label id := by
  rw [filter_filterMap]
  refine filterMap_congr fun id _ => ?_
  cases provider.evidence[id]? with
  | none => rfl
  | some entry =>
    cases allowed : (entry.label id).allowedFor request <;>
      simp [Option.filter_some, allowed]

theorem filtered_evidence_eq (sameEvidence : left.authorizedEvidence request =
    right.authorizedEvidence request)
    (id : EvidenceHandle) : (left.evidence[id]?.filter fun entry =>
      (entry.label id).allowedFor request) =
      right.evidence[id]?.filter fun entry => (entry.label id).allowedFor request := by
  refine Option.ext fun entry => ?_
  rw [Option.filter_eq_some_iff, Option.filter_eq_some_iff]
  have onLeft := @mem_authorizedEvidence request left (id, entry)
  have onRight := @mem_authorizedEvidence request right (id, entry)
  rw [sameEvidence] at onLeft
  exact onLeft.symm.trans onRight

def allowedLabels (request : CompileRequest) (requested : BTreeSet EvidenceHandle) :
    List EvidencePolicyLabel :=
  requested.toList.filterMap fun id => (provider.evidence[id]?.filter fun entry =>
    (entry.label id).allowedFor request).map fun entry => entry.label id

theorem sortBy_evidenceLabels (requested : BTreeSet EvidenceHandle) :
    sortBy (compareOn (·.id)) (requested.toList.filterMap fun id =>
        provider.evidence[id]?.map fun entry => entry.label id) =
          requested.toList.filterMap fun id =>
        provider.evidence[id]?.map fun entry => entry.label id := by
  refine sortBy_ordered ?_
  refine List.Pairwise.filterMap _ ?_ ExtTreeSet.ordered_toList
  intro first second before label found other foundOther
  obtain ⟨_, _, rfl⟩ := Option.map_eq_some_iff.mp found
  obtain ⟨_, _, rfl⟩ := Option.map_eq_some_iff.mp foundOther
  exact before

variable {requested : BTreeSet EvidenceHandle}

theorem takeEvidence_forbidden {label : EvidencePolicyLabel}
    {provider : ContextProvider} (wanted : label.id ∈ requested)
    (forbidden : label.allowedFor request = false)
    (evidence : BTreeMap EvidenceHandle PackEvidence) :
    takeEvidence library.blake3 request provider requested evidence label = .ok evidence := by
  have refused : label.authorize request.principal request.modelProfile.externalProcessing =
    false :=
    forbidden
  have listed : requested.contains label.id = true := ExtTreeSet.contains_iff_mem.mpr wanted
  simp [takeEvidence, listed, ensure, ok_bind, refused]

theorem takeAllEvidence_allowed (requested : BTreeSet EvidenceHandle) :
    takeAllEvidence library.blake3 request provider.toProvider requested =
      (allowedLabels provider request requested).foldlM
        (takeEvidence library.blake3 request provider.toProvider requested) ∅ := by
  have unfolded : takeAllEvidence library.blake3 request provider.toProvider requested =
      (sortBy (compareOn (·.id)) (requested.toList.filterMap fun id =>
        provider.evidence[id]?.map fun entry => entry.label id)).foldlM
        (takeEvidence library.blake3 request provider.toProvider requested) ∅ := rfl
  rw [unfolded, sortBy_evidenceLabels, allowedLabels, ← evidenceLabels_filter]
  refine foldlM_filter ?_ ∅
  intro label member forbidden
  obtain ⟨id, inside, found⟩ := mem_filterMap.mp member
  obtain ⟨entry, _, rfl⟩ := Option.map_eq_some_iff.mp found
  exact takeEvidence_forbidden (ExtTreeSet.mem_toList.mp inside) forbidden

theorem takeAllEvidence_eq (sameEvidence : left.authorizedEvidence request =
    right.authorizedEvidence request) :
    takeAllEvidence library.blake3 request left.toProvider requested =
      takeAllEvidence library.blake3 request right.toProvider requested := by
  have sameLabels : allowedLabels left request requested = allowedLabels right request requested :=
    filterMap_congr fun id _ => by rw [filtered_evidence_eq sameEvidence id]
  rw [takeAllEvidence_allowed, takeAllEvidence_allowed, ← sameLabels]
  refine foldlM_congr ?_ _
  intro label member evidence
  obtain ⟨id, _, found⟩ := mem_filterMap.mp member
  obtain ⟨entry, onLeft, rfl⟩ := Option.map_eq_some_iff.mp found
  have onRight := onLeft
  rw [filtered_evidence_eq sameEvidence id] at onRight
  -- The payload of an allowed label is the same on both sides.
  have storedLeft := (Option.filter_eq_some_iff.mp onLeft).1
  have storedRight := (Option.filter_eq_some_iff.mp onRight).1
  have loaded : left.toProvider.materializeEvidence (entry.label id).id =
    right.toProvider.materializeEvidence (entry.label id).id := by
    simp only [ProviderEvidence.label, toProvider, storedLeft, storedRight]
  unfold takeEvidence
  rw [loaded]

theorem materializePolicyFirst_eq (sameCandidates : left.authorizedCandidates request =
    right.authorizedCandidates request)
    (sameEvidence : left.authorizedEvidence request = right.authorizedEvidence request) :
    materializePolicyFirst library.blake3 request left.toProvider =
      materializePolicyFirst library.blake3 request right.toProvider := by
  rw [materializePolicyFirst, materializePolicyFirst, takeCandidates_eq sameCandidates]
  refine congrArg _ (funext fun intake => ?_)
  rw [takeAllEvidence_eq sameEvidence]

/-- Two in-memory providers that agree on the snapshot and on everything the request is
authorized for give the same compilation, or the same error. -/
theorem unauthorized_records_invisible (sameSnapshot : left.snapshot = right.snapshot)
    (sameCandidates : left.authorizedCandidates request = right.authorizedCandidates request)
    (sameEvidence : left.authorizedEvidence request = right.authorizedEvidence request) :
    compiler.compile library request left.toProvider tokenizer =
      compiler.compile library request right.toProvider tokenizer := by
  have bound : checkBinding request left.toProvider tokenizer =
    checkBinding request right.toProvider tokenizer := by
    simp only [checkBinding, toProvider, sameSnapshot]
  rw [compile, compile, bound, materializePolicyFirst_eq sameCandidates sameEvidence]

/-! ### A hidden note -/

def InMemoryContextProvider.withCandidate (added : ProviderCandidate) : InMemoryContextProvider :=
  { provider with
    candidates := provider.candidates.insert added.candidate.id added, candidatesKeyed := by
      intro id entry found
      rw [ExtTreeMap.getElem?_insert] at found
      split at found
      · next same =>
        cases found
        exact Std.compare_eq_iff_eq.mp same
      · exact provider.candidatesKeyed id entry found }

theorem authorizedCandidates_withCandidate {provider : InMemoryContextProvider}
    {added : ProviderCandidate}
    (forbidden : (added.label added.candidate.id).actionFor request = none)
    (vacant : provider.candidates[added.candidate.id]? = none) :
    (provider.withCandidate added).authorizedCandidates request =
      provider.authorizedCandidates request := by
  refine BTreeMap.toList_filter_congr _ ?_
  intro id entry authorized
  change (provider.candidates.insert added.candidate.id added)[id]? = some entry ↔ _
  rw [ExtTreeMap.getElem?_insert]
  split
  · next same =>
    cases Std.compare_eq_iff_eq.mp same
    rw [vacant]
    constructor
    · intro found
      cases found
      rw [forbidden] at authorized
      cases authorized
    · intro none
      cases none
  · rfl

private def emptyDesk : InMemoryContextProvider where
  snapshot := deskSnapshot
  candidates := ∅
  evidence := ∅
  candidatesKeyed := by simp
  evidenceKeyed := by simp

private def visitorEntry : ProviderCandidate :=
  deskEntry (deskCandidate "visitor" .situation [] 1000000 1)

private def hiddenNote : ProviderCandidate where
  access := { deskAccess with workspace := "vault" }
  usePolicy := deskUse
  candidate := deskCandidate "note" .participant [] 1000000 1

/-- The pack about the visitor does not depend on the hidden note. -/
theorem unauthorized_records_invisible_note : deskCompiler.compile deskLibraries (deskRequest [])
        ((emptyDesk.withCandidate visitorEntry).withCandidate hiddenNote).toProvider deskTokenizer =
      deskCompiler.compile deskLibraries (deskRequest [])
        (emptyDesk.withCandidate visitorEntry).toProvider deskTokenizer ∧
    yields (deskCompiler.compile deskLibraries (deskRequest [])
      (emptyDesk.withCandidate visitorEntry).toProvider deskTokenizer)
      (fun result => result.pack.sections.iter.length == 1) = true := by
  constructor
  · refine unauthorized_records_invisible rfl (authorizedCandidates_withCandidate ?_ ?_) rfl
    · decide +kernel
    · decide +kernel
  · decide +kernel

end ContextDb.Context
