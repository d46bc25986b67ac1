import Mathlib.Data.List.ReduceOption
import ContextDb.Context.Continuous
import ContextDb.Context.RequiredFacets

/-! Contested knowledge in the packs of both compilers: a block in conflict stands beside the
block that describes its conflict set, and disputed content outside conflict blocks is kept
out by one compiler only. -/

set_option autoImplicit false

namespace ContextDb.Context

open Std Lib ContextDb.Core Recall List BTreeSet

/-- Blocks in conflict stand beside the block that describes their conflict set. -/
def Accompanied (pack : ContextPack) : Prop :=
  ∀ block ∈ pack.sections.iter, ∀ set, block.epistemic.conflict = .inConflict set →
    ∃ other ∈ pack.sections.iter, other.kind = .conflict ∧ other.conflict.any (·.setId = set) = true

def Undisputed (pack : ContextPack) : Prop :=
  ∀ block ∈ pack.sections.iter, block.kind ≠ .conflict → block.epistemic.conflict ≠ .disputed

/-! ### Validation -/

variable {block : ContextBlock}

theorem validateLayout_kind {sections : PackSections} (valid : sections.validateLayout = .ok ())
    {kind : PackBlockKind} (member : block ∈ sections.blocksOf kind) : block.kind = kind := by
  have checked := forM_ok_iff.mp valid kind (PackBlockKind.mem_all kind)
  obtain ⟨typed, _⟩ := unit_ok checked
  rw [ensure_ok_iff, Bool.not_eq_true', any_eq_false] at typed
  simpa using typed block member

variable {pack : ContextPack}

/-- A pack that validates shows every block in a conflict together with a block of that
conflict's set. -/
theorem accompanied_of_validate {blake3 : List UInt8 → Digest}
    (valid : pack.validate blake3 = .ok ()) : Accompanied pack := by
  intro block member set contested
  have valid := rest_ok valid
  obtain ⟨ordered, valid⟩ := unit_ok valid
  obtain ⟨evidence, _, valid⟩ := bind_ok valid
  obtain ⟨_, blocks, _⟩ := bind_ok valid
  obtain ⟨layout, _⟩ := unit_ok ordered
  obtain ⟨seen, _, checked⟩ := foldlM_step_ok blocks member
  have checked := rest_ok checked
  have checked := rest_ok checked
  have checked := rest_ok checked
  have checked := rest_ok checked
  have checked := rest_ok checked
  have checked := rest_ok checked
  obtain ⟨visible, _⟩ := unit_ok checked
  rw [ensure_ok_iff, ContextPack.conflictVisible, contested] at visible
  have listed : set ∈ pack.sections.conflictSets := visible
  rw [PackSections.conflictSets, mem_insertMany] at listed
  rcases listed with none | listed
  · simp at none
  · obtain ⟨other, inSection, found⟩ := mem_filterMap.mp listed
    refine ⟨other, PackSections.mem_iter.mpr ⟨_, inSection⟩, validateLayout_kind layout inSection,
      ?_⟩
    obtain ⟨manifest, held, same⟩ := Option.map_eq_some_iff.mp found
    simp [held, same]

/-! ### The deterministic compiler -/

variable {library : Libraries} {tokenizer : TokenCounter} {request : CompileRequest}

theorem prepareMissingUnknown_epistemic {facet : String} {item : PreparedCandidate}
    (success : prepareMissingUnknown library tokenizer request facet = .ok item) :
    item.block.epistemic.conflict = .none := by
  obtain ⟨id, created, success⟩ := bind_ok success
  have success := rest_ok success
  obtain ⟨_, _, success⟩ := bind_ok success
  obtain ⟨_, _, success⟩ := bind_ok success
  cases success
  rfl

theorem compile_undisputed {compiler : ContextCompiler} {provider : ContextProvider}
    {result : CompiledContext}
    (success : compiler.compile library request provider tokenizer = .ok result) :
    Undisputed result.pack := by
  intro block member otherKind disputed
  obtain ⟨run, of⟩ := compile_ok success
  obtain ⟨continuation, shows⟩ := of.shows
  obtain ⟨item, selected, rfl⟩ := shows.mem_sections.mp member
  obtain ⟨selectedIds, generated, mandatoryOf⟩ := selectMandatory_ok of.mandatory
  rcases mandatoryOf.mem_prepared.mp (of.drawn.mem selected) with prepared | fresh
  · obtain ⟨conflicts, manifested⟩ := (candidatesFor_ok of.prepared).2.2
    have kept := manifested item prepared
    rw [lacksManifest, disputed] at kept
    simp [otherKind] at kept
  · obtain ⟨requirement, _, generates⟩ := exists_item_of_mapM_ok mandatoryOf.generates fresh
    rw [prepareMissingUnknown_epistemic generates] at disputed
    cases disputed

/-! ### Units -/

/-- A variant shows the candidate's own content, whatever evidence it cites. -/
structure VariantOf (prospect : Prospect) (item : PreparedCandidate) : Prop where
  content : ∃ handles, item.block.toMemoryContent = { prospect.candidate.toMemoryContent with
      evidenceHandles := handles, instructionCapability := .none }
  mandatory : item.candidate.mandatory = prospect.candidate.mandatory

variable {library : AssemblyLibraries} {context : CompileRequest}
  {evidence : BTreeMap EvidenceHandle PackEvidence} {prospect : Prospect}
    {variants : List PreparedCandidate}

section

variable {item : PreparedCandidate}

section

variable (variant : VariantOf prospect item)
include variant

theorem VariantOf.id : item.block.id = prospect.candidate.id := by
  obtain ⟨handles, same⟩ := variant.content
  rw [show item.block.id = item.block.toMemoryContent.id from rfl, same]

theorem VariantOf.kind : item.block.kind = prospect.candidate.kind := by
  obtain ⟨handles, same⟩ := variant.content
  rw [show item.block.kind = item.block.toMemoryContent.kind from rfl, same]

theorem VariantOf.epistemic : item.block.epistemic = prospect.candidate.epistemic := by
  obtain ⟨handles, same⟩ := variant.content
  rw [show item.block.epistemic = item.block.toMemoryContent.epistemic from rfl, same]

theorem VariantOf.intrinsic : item.isIntrinsic = prospect.candidate.isIntrinsic := by
  obtain ⟨handles, same⟩ := variant.content
  rewrite [PreparedCandidate.isIntrinsic, PackCandidate.isIntrinsic, variant.mandatory,
    variant.kind,
    show item.block.conflict = item.block.toMemoryContent.conflict from rfl,
    show item.block.unknown = item.block.toMemoryContent.unknown from rfl, same]
  rfl

end

theorem prepareVariant_ok {declared : Bool} {support : BTreeSet EvidenceHandle}
    (success : prepareVariant library tokenizer context evidence prospect declared support =
      .ok (some item)) : VariantOf prospect item := by
  unfold prepareVariant at success
  split at success
  · cases success
  · obtain ⟨outcome, prepares, success⟩ := bind_ok success
    split at success
    · cases success
    · next prepared =>
      have from' := prepareCandidate_ok prepares
      obtain ⟨handles, same⟩ := from'.content
      split at success
      · obtain ⟨evidenceTokens, _, success⟩ := bind_ok success
        cases success
        refine ⟨⟨support, ?_⟩, from'.mandatory⟩
        change { prepared.block.toMemoryContent with evidenceHandles := support } = _
        rw [same]
      · cases success
        exact ⟨⟨handles, same⟩, from'.mandatory⟩

theorem prepareVariants_ok {supports : List (BTreeSet EvidenceHandle)}
    (success : prepareVariants library tokenizer context evidence prospect supports = .ok variants)
    (member : item ∈ variants) : VariantOf prospect item := by
  unfold prepareVariants at success
  split at success
  · cases success
    cases member
  · obtain ⟨prepared, prepares, success⟩ := bind_ok success
    cases success
    obtain ⟨support, _, prepares⟩ := exists_item_of_mapM_ok prepares
      (reduceOption_mem_iff.mp member)
    exact prepareVariant_ok prepares

end

/-- The candidate gets a prepared variant. Secret-like content and content without authorized
exact support gets none. -/
def Prospect.Prepares (library : AssemblyLibraries) (tokenizer : TokenCounter)
    (context : CompileRequest)
    (provider : AssemblyProvider) (evidence : BTreeMap EvidenceHandle PackEvidence)
    (prospect : Prospect) : Prop :=
  ∃ dependencies first others, provider.dependencies prospect.candidate.id = .ok dependencies ∧
    prepareVariants library tokenizer context evidence prospect dependencies.supports = .ok
      (first :: others)

theorem Prospect.Prepares.not_secret {tokenizer : TokenCounter} {provider : AssemblyProvider}
    (prepares : prospect.Prepares library tokenizer context provider evidence) :
    prospect.candidate.taints.contains .secretLike = false := by
  obtain ⟨dependencies, first, others, _, variants⟩ := prepares
  unfold prepareVariants at variants
  split at variants
  · cases variants
  · next clean => simpa using clean

def AssemblyUnit.ShowsOneOf (eligible : Prospect → Prop) (prospects : List Prospect) (id : BlockId)
    (unit : AssemblyUnit) : Prop :=
  ∃ prospect ∈ prospects, eligible prospect ∧ prospect.candidate.id = id ∧
    ∀ item ∈ unit.variants, VariantOf prospect item

variable {provider : AssemblyProvider} {id : BlockId}

section

variable {prospects : List Prospect} {frontier next : Frontier}

theorem takeUnit_ok (ran : (takeUnit library tokenizer context provider evidence frontier prospect).Yields next) :
    (prospect.Prepares library tokenizer context provider evidence ∧ ∃ unit : AssemblyUnit,
      next.units = frontier.units.insert prospect.candidate.id unit ∧
        ∀ item ∈ unit.variants, VariantOf prospect item) ∨ next.units = frontier.units ∧
          prospect.candidate.isIntrinsic = false := by
  obtain ⟨_, _, ran⟩ := ran.bind
  have ran := ran.rest
  obtain ⟨dependencies, depends, ran⟩ := ran.bind
  have ran := ran.rest
  obtain ⟨variants, prepares, ran⟩ := ran.bind
  split at ran
  · next first others =>
    cases ran.pure
    exact .inl ⟨⟨dependencies, first, others, depends.lift, prepares.lift⟩, _, rfl,
      fun item member => prepareVariants_ok prepares.lift member⟩
  · split at ran
    · cases ran.lift
    · next optional =>
      cases ran.pure
      exact .inr ⟨rfl, by simpa using optional⟩

variable {omissions : List Omission}

section

variable (ran : (prospects.foldlM (takeUnit library tokenizer context provider evidence)
  ⟨∅, omissions⟩).Yields frontier)
include ran

theorem frontier_shows {unit : AssemblyUnit} (found : frontier.units[id]? = some unit) :
    unit.ShowsOneOf (Prospect.Prepares library tokenizer context provider evidence) prospects id := by
  refine ran.foldlM (fun frontier => ∀ (id : BlockId) unit, frontier.units[id]? = some unit →
    unit.ShowsOneOf (Prospect.Prepares library tokenizer context provider evidence) prospects id) ?_ ?_ id unit found
  · intro value prospect next listed kept stepped id unit found
    rcases takeUnit_ok stepped with ⟨prepares, fresh, grown, variants⟩ | ⟨same, _⟩
    · rw [grown] at found
      rcases BTreeMap.getElem?_insert_cases found with ⟨matching, rfl⟩ | ⟨_, found⟩
      · exact ⟨prospect, listed, prepares, matching, variants⟩
      · exact kept id unit found
    · rw [same] at found
      exact kept id unit found
  · intro id unit found
    simp at found

/-- An intrinsic prospect is never passed over; where none of its variants can be prepared the
frontier fails. -/
theorem frontier_keeps_intrinsic (listed : prospect ∈ prospects)
    (intrinsic : prospect.candidate.isIntrinsic = true) :
    ∃ unit, frontier.units[prospect.candidate.id]? = some unit := by
  refine ran.foldlM_reaches (fun frontier => ∃ unit, frontier.units[prospect.candidate.id]? =
    some unit) listed ?_ ?_
  · intro value next stepped
    rcases takeUnit_ok stepped with ⟨_, fresh, grown, _⟩ | ⟨_, optional⟩
    · exact ⟨fresh, by rw [grown]; simp⟩
    · rw [intrinsic] at optional
      cases optional
  · rintro value other next ⟨unit, held⟩ stepped
    rcases takeUnit_ok stepped with ⟨_, fresh, grown, _⟩ | ⟨same, _⟩
    · rw [grown, ExtTreeMap.getElem?_insert]
      split
      · exact ⟨_, rfl⟩
      · exact ⟨unit, held⟩
    · exact ⟨unit, by rw [same, held]⟩

end

end

/-! ### Mandatory blocks -/

variable {units : Units}

section

variable {seeding next : Seeding}

theorem takeRequirement_ok {requirement : PackFacetRequirement}
    (success : takeRequirement library tokenizer context seeding requirement = .ok next) :
    next = seeding ∨ ∃ unknown,
      prepareMissingUnknown library.toLibraries tokenizer context requirement.name = .ok unknown ∧
      next.units = seeding.units.insert unknown.block.id ⟨unknown, [], {}⟩ ∧
        next.selected = seeding.selected.insert unknown.block.id := by
  unfold takeRequirement at success
  split at success
  · cases success
    exact .inl rfl
  · obtain ⟨unknown, prepares, success⟩ := bind_ok success
    cases success
    exact .inr ⟨unknown, prepares, rfl, rfl⟩

variable {unit : AssemblyUnit}

section

variable (success : seed library tokenizer context units = .ok seeding)
include success

/-- Seeding adds only the unknowns made for missing facets. -/
theorem seed_units (found : seeding.units[id]? = some unit) : units[id]? = some unit ∨
    ∃ unknown facet,
      prepareMissingUnknown library.toLibraries tokenizer context facet = .ok unknown ∧
        unit.variants = [unknown] := by
  refine foldlM_preserves success (fun seeding : Seeding => ∀ (id : BlockId) unit,
    seeding.units[id]? = some unit → units[id]? = some unit ∨ ∃ unknown facet,
      prepareMissingUnknown library.toLibraries tokenizer context facet = .ok unknown ∧
        unit.variants = [unknown]) ?_ ?_ id unit found
  · exact fun id unit found => .inl found
  · intro seeding requirement next _ kept stepped id unit found
    rcases takeRequirement_ok stepped with rfl | ⟨unknown, prepares, grown, _⟩
    · exact kept id unit found
    · rw [grown] at found
      rcases BTreeMap.getElem?_insert_cases found with ⟨_, rfl⟩ | ⟨_, found⟩
      · exact .inr ⟨unknown, _, prepares, rfl⟩
      · exact kept id unit found

theorem seed_keeps (found : units[id]? = some unit) (free : ∀ requirement ∈ context.requiredFacets,
      id.text ≠ unknownIdText library.blake3 requirement.name) : seeding.units[id]? =
        some unit := by
  refine foldlM_preserves success (fun seeding : Seeding => seeding.units[id]? = some unit) found ?_
  intro seeding requirement next listed kept stepped
  rcases takeRequirement_ok stepped with rfl | ⟨unknown, prepares, grown, _⟩
  · exact kept
  · have other : unknown.block.id ≠ id := fun same =>
      free requirement listed (same ▸ prepareMissingUnknown_id prepares)
    rw [grown, BTreeMap.getElem?_insert_of_ne other, kept]

theorem seed_selects_intrinsic (found : units[id]? = some unit)
    (intrinsic : unit.first.isIntrinsic = true) : unit.first.block.id ∈ seeding.selected := by
  refine foldlM_preserves success (fun seeding : Seeding => unit.first.block.id ∈ seeding.selected)
    ?_ ?_
  · have listed : unit.first ∈ units.inOrder.map (·.first) :=
      mem_map.mpr ⟨unit, BTreeMap.mem_inOrder.mpr ⟨id, found⟩, rfl⟩
    refine foldl_selectFacet_keeps ?_
    simp only [intrinsicMandatoryIds, mem_insertMany]
    exact .inr (mem_map.mpr ⟨unit.first, mem_filter.mpr ⟨listed, intrinsic⟩, rfl⟩)
  · intro seeding requirement next _ kept stepped
    rcases takeRequirement_ok stepped with rfl | ⟨unknown, _, _, grown⟩
    · exact kept
    · rw [grown, ExtTreeSet.mem_insert]
      exact .inr kept

end

end

/-! ### Closing and choosing -/

variable {prepared : List PreparedCandidate} {selected closed : BTreeSet BlockId} {rounds : Nat}

theorem closeConflicts_keeps (success : closeConflicts prepared rounds selected = .ok closed)
    (member : id ∈ selected) : id ∈ closed := by
  induction rounds generalizing selected with
  | zero =>
    obtain ⟨_, _, success⟩ := bind_ok success
    cases success
    exact member
  | succ rounds ih =>
    obtain ⟨missing, _, success⟩ := bind_ok success
    split at success
    · cases success
      exact member
    · exact ih success (mem_insertMany.mpr (.inl member))

theorem closureRounds_keeps (success : closureRounds units prepared rounds selected = .ok closed)
    (member : id ∈ selected) : id ∈ closed := by
  induction rounds generalizing selected with
  | zero => cases success
  | succ rounds ih =>
    obtain ⟨extended, extends', success⟩ := bind_ok success
    obtain ⟨next, closes, success⟩ := bind_ok success
    have inside : id ∈ extended := by
      refine foldlM_preserves extends' (fun result : BTreeSet BlockId => id ∈ result) member ?_
      intro result other grown _ kept stepped
      unfold extendHard at stepped
      split at stepped
      · cases stepped
      · cases stepped
        exact mem_insertMany.mpr (.inl kept)
    have kept := closeConflicts_keeps closes inside
    split at success
    · cases success
      exact kept
    · split at success
      · cases success
      · exact ih success kept

/-- Closing a selection drops nothing. -/
theorem closure_keeps (success : closure units prepared selected = .ok closed)
    (member : id ∈ selected) : id ∈ closed :=
  closureRounds_keeps success member

variable {blake3 : List UInt8 → Digest}

theorem cheaperVariant_ok {inventory : OriginalInventory} {shared : BTreeSet EvidenceHandle}
    {best : VariantOffer}
    (success : variants.foldlM (cheaperVariant blake3 inventory shared) none = .ok (some best)) :
    best.variant ∈ variants := by
  refine foldlM_preserves success (fun best : Option VariantOffer => ∀ offer ∈ best,
    offer.variant ∈ variants) ?_ ?_ best rfl
  · intro offer none
    cases none
  · intro best variant next listed kept stepped
    obtain ⟨offer, offers, stepped⟩ := bind_ok stepped
    obtain ⟨_, _, offers⟩ := bind_ok offers
    cases offers
    split at stepped
    · cases stepped
      rintro _ ⟨⟩
      exact listed
    · cases stepped
      rintro _ ⟨⟩
      split
      · exact listed
      · exact kept _ rfl

/-- Every chosen variant belongs to the unit of a selected block, and every selected block has
a chosen variant. -/
theorem chooseVariants_ok {visible : OriginalInventory} {chosen : List PreparedCandidate}
    (success : chooseVariants blake3 units visible selected = .ok chosen) :
    (∀ item ∈ chosen, ∃ id ∈ selected, ∃ unit, units[id]? = some unit ∧ item ∈ unit.variants) ∧
      ∀ id ∈ selected, ∃ unit, units[id]? = some unit ∧ ∃ item ∈ chosen, item ∈ unit.variants := by
  obtain ⟨choice, chooses, success⟩ := bind_ok success
  cases success
  have step : ∀ {choice next : Choice} {id : BlockId},
      chooseVariant blake3 units choice id = .ok next → ∃ unit item, units[id]? = some unit ∧
        item ∈ unit.variants ∧ next.chosen = choice.chosen ++ [item] := by
    intro choice next id stepped
    obtain ⟨best, picks, stepped⟩ := bind_ok stepped
    split at stepped
    · cases stepped
    · next offer =>
      cases stepped
      have member := cheaperVariant_ok picks
      cases found : units[id]? with
      | none =>
        rw [found] at member
        cases member
      | some unit =>
        rw [found] at member
        exact ⟨unit, offer.variant, rfl, member, rfl⟩
  constructor
  · refine foldlM_preserves chooses (fun choice : Choice => ∀ item ∈ choice.chosen, ∃ id ∈ selected,
      ∃ unit, units[id]? = some unit ∧ item ∈ unit.variants) (by simp) ?_
    intro choice id next listed kept stepped item member
    obtain ⟨unit, fresh, found, variant, grown⟩ := step stepped
    rw [grown] at member
    rcases mem_append.mp member with before | last
    · exact kept item before
    · rw [mem_singleton.mp last]
      exact ⟨id, ExtTreeSet.mem_toList.mp listed, unit, found, variant⟩
  · intro id member
    refine foldlM_reaches chooses (ExtTreeSet.mem_toList.mpr member) (fun choice : Choice =>
      ∃ unit, units[id]? = some unit ∧ ∃ item ∈ choice.chosen, item ∈ unit.variants) ?_ ?_
    · intro choice next stepped
      obtain ⟨unit, fresh, found, variant, grown⟩ := step stepped
      exact ⟨unit, found, fresh, by simp [grown], variant⟩
    · rintro choice other next ⟨unit, found, item, held, variant⟩ stepped
      obtain ⟨_, fresh, _, _, grown⟩ := step stepped
      exact ⟨unit, found, item, by simp [grown, held], variant⟩

/-! ### Trials and rounds -/

variable {scorer : ContextScorer} {bench : Workbench} {selected : BTreeSet BlockId}
    {evaluations : UInt32}

theorem fitTrial_ok {rendered : RenderedContext} {fit : FitOutput}
    (success : fitTrial library context pack rendered = .ok fit) :
    fit.pack.sections = pack.sections := by
  unfold fitTrial at success
  split at success
  · next output finalizes =>
    cases success
    obtain ⟨usage, same⟩ := finalizePack_ok finalizes
    rw [same]
    rfl
  · cases success

/-- The blocks of a trial's pack are those of the variants chosen for its selection. -/
theorem trial_ok {best : Trial} (ran : (trial library bench selected evaluations).Yields best) :
    ∃ chosen, chooseVariants library.blake3 bench.units bench.visible selected = .ok chosen ∧
      ∀ block, block ∈ best.fit.pack.sections.iter ↔ ∃ item ∈ chosen, item.block = block := by
  have ran := ran.rest
  obtain ⟨chosen, chooses, ran⟩ := ran.bind
  obtain ⟨draft, drafts, ran⟩ := ran.bind
  obtain ⟨memory, _, ran⟩ := ran.bind
  obtain ⟨_, _, ran⟩ := ran.bind
  obtain ⟨_, _, ran⟩ := ran.bind
  obtain ⟨priced, prices, ran⟩ := ran.bind
  obtain ⟨_, _, ran⟩ := ran.bind
  obtain ⟨_, _, ran⟩ := ran.bind
  obtain ⟨_, _, ran⟩ := ran.bind
  obtain ⟨fit, fits, ran⟩ := ran.bind
  cases ran.pure
  refine ⟨chosen, chooses.lift, fun block => ?_⟩
  have drafted := rest_ok drafts.lift
  cases drafted
  obtain ⟨_, _, prices⟩ := prices.bind
  have prices := prices.rest
  obtain ⟨_, _, prices⟩ := prices.bind
  obtain ⟨_, _, prices⟩ := prices.bind
  have prices := prices.rest
  cases prices.pure
  rw [fitTrial_ok fits.lift]
  change block ∈ (sectionsOf (sortBy packOrder chosen)).iter ↔ _
  rw [mem_sectionsOf]
  simp

variable {selection : AssemblySelection}

theorem scoreSeeds_keeps {scoring next : Scoring} {seeds : List BlockId}
    (ran : (scoreSeeds library bench scorer prepared selection scoring seeds).Yields next)
    (kept : ∀ winner ∈ scoring.winner, ∀ id ∈ selection.selected, id ∈ winner.selected) :
    ∀ winner ∈ next.winner, ∀ id ∈ selection.selected, id ∈ winner.selected := by
  unfold scoreSeeds at ran
  split at ran
  · cases ran.pure
    exact kept
  · have ran := ran.rest
    dsimp only at ran
    split at ran
    · cases ran.pure
      exact kept
    · next trialIds closes =>
      have grown : ∀ id ∈ selection.selected, id ∈ trialIds := fun id member =>
        closure_keeps closes (mem_insertMany.mpr (.inl member))
      obtain ⟨outcome, _, ran⟩ := ran.bind
      split at ran
      · cases ran.pure
        exact kept
      · obtain ⟨score, _, ran⟩ := ran.bind
        split at ran
        · cases ran.pure
          exact kept
        · cases ran.pure
          exact kept
        · split at ran
          · cases ran.pure
            rintro _ ⟨⟩
            exact grown
          · next old held =>
            cases ran.pure
            rintro _ ⟨⟩
            split
            · exact grown
            · exact kept old held

/-- The greedy rounds only ever add to the selection. -/
theorem selectRounds_keeps {final : AssemblySelection} (ran :
    (selectRounds library bench scorer prepared rounds selection).Yields final)
    (member : id ∈ selection.selected) : id ∈ final.selected := by
  induction rounds generalizing selection with
  | zero =>
    rw [← ran.pure]
    exact member
  | succ rounds ih =>
    obtain ⟨scoring, scores, ran⟩ := ran.bind
    have kept := scores.foldlM (fun scoring => ∀ winner ∈ scoring.winner, ∀ id ∈ selection.selected,
      id ∈ winner.selected)
      (fun _ _ _ _ kept stepped => scoreSeeds_keeps stepped kept)
      (fun _ none => by cases none)
    split at ran
    · cases ran.pure
      exact member
    · next winner held =>
      have grown := kept winner held id member
      dsimp only at ran
      split at ran
      · cases ran.pure
        exact grown
      · exact ih ran grown

theorem assemble_ok {binding : AssemblyBinding} {result : CompiledAssembly}
    (ran : (assemble library bench scorer provider binding prepared selected).Yields result) :
    result.context.pack.validate library.blake3 = .ok () ∧
      ∃ final chosen, (∀ id ∈ selected, id ∈ final) ∧
        chooseVariants library.blake3 bench.units bench.visible final = .ok chosen ∧
        ∀ block, block ∈ result.context.pack.sections.iter ↔
          ∃ item ∈ chosen, item.block = block := by
  obtain ⟨closed, closes, ran⟩ := ran.bind
  obtain ⟨first, _, ran⟩ := ran.bind
  obtain ⟨selection, selects, ran⟩ := ran.bind
  obtain ⟨best, tries, ran⟩ := ran.bind
  have ran := ran.rest
  obtain ⟨compiled, publishes, ran⟩ := ran.bind
  obtain ⟨_, _, ran⟩ := ran.bind
  obtain ⟨_, _, ran⟩ := ran.bind
  obtain ⟨_, _, ran⟩ := ran.bind
  have ran := ran.rest
  cases ran.pure
  obtain ⟨valid, same⟩ := publish_ok publishes.lift
  obtain ⟨chosen, chooses, shows⟩ := trial_ok tries
  dsimp only
  rw [same]
  refine ⟨valid, selection.selected, chosen, fun id member => ?_, chooses, shows⟩
  exact selectRounds_keeps selects (closure_keeps closes.lift member)

def Prospect.IsDisputed (prospect : Prospect) : Prop :=
  prospect.candidate.kind ≠ .conflict ∧ prospect.candidate.epistemic.conflict = .disputed

variable {request : CompileAssemblyRequest} {encoder : OutgoingEncoder} {result : CompiledAssembly}

structure AssemblyRun where
  materialized : Materialized
  evidence : BTreeMap EvidenceHandle PackEvidence
  frontier : Frontier
  seeding : Seeding
  final : BTreeSet BlockId
  chosen : List PreparedCandidate

structure AssemblyRun.Of (run : AssemblyRun) (library : AssemblyLibraries)
    (request : CompileAssemblyRequest) (provider : AssemblyProvider) (tokenizer : TokenCounter)
    (result : CompiledAssembly) : Prop where
  materialized : materializePolicyFirst library.blake3 request.context provider.toContextProvider =
    .ok run.materialized
  evidence : (run.materialized.evidence.toList.foldlM (takeSupport provider) ∅).Yields run.evidence
  frontier : (run.materialized.candidates.foldlM
    (takeUnit library tokenizer request.context provider run.evidence)
    ⟨∅, run.materialized.omissions⟩).Yields run.frontier
  seeding : seed library tokenizer request.context run.frontier.units = .ok run.seeding
  keeps : ∀ id ∈ run.seeding.selected, id ∈ run.final
  chosen : ∃ visible, chooseVariants library.blake3 run.seeding.units visible run.final =
    .ok run.chosen
  valid : result.context.pack.validate library.blake3 = .ok ()
  shows : ∀ block, block ∈ result.context.pack.sections.iter ↔
    ∃ item ∈ run.chosen, item.block = block

theorem compileAssembly_ok (ran :
    (compileAssembly library request provider tokenizer encoder scorer).Yields result) :
    ∃ run : AssemblyRun, run.Of library request provider tokenizer result := by
  have ran := ran.rest
  have ran := ran.rest
  obtain ⟨binding, _, ran⟩ := ran.bind
  obtain ⟨visible, _, ran⟩ := ran.bind
  obtain ⟨materialized, materializes, ran⟩ := ran.bind
  obtain ⟨baseOutgoing, _, ran⟩ := ran.bind
  have ran := ran.rest
  obtain ⟨evidence, supports, ran⟩ := ran.bind
  obtain ⟨frontier, takes, ran⟩ := ran.bind
  obtain ⟨seeding, seeds, ran⟩ := ran.bind
  obtain ⟨valid, final, chosen, keeps, chooses, shows⟩ := assemble_ok ran
  exact ⟨⟨materialized, evidence, frontier, seeding, final, chosen⟩, materializes.lift, supports,
    takes,
    seeds.lift, keeps, ⟨visible, chooses⟩, valid, shows⟩

variable {run : AssemblyRun}

/-- Every block of the pack is an unknown without a conflict or comes from a candidate that
prepares. -/
theorem AssemblyRun.Of.origin (of : run.Of library request provider tokenizer result)
    (member : block ∈ result.context.pack.sections.iter) : block.epistemic.conflict = .none ∨
      ∃ prospect ∈ run.materialized.candidates,
        prospect.Prepares library tokenizer request.context provider run.evidence ∧
        block.kind = prospect.candidate.kind ∧ block.epistemic = prospect.candidate.epistemic := by
  obtain ⟨item, chosen, rfl⟩ := (of.shows block).mp member
  obtain ⟨visible, chooses⟩ := of.chosen
  obtain ⟨id, _, unit, found, variant⟩ := (chooseVariants_ok chooses).1 item chosen
  rcases seed_units of.seeding found with earlier | ⟨unknown, facet, prepares, only⟩
  · obtain ⟨prospect, listed, prepares, _, variants⟩ := frontier_shows of.frontier earlier
    exact .inr ⟨prospect, listed, prepares, (variants item variant).kind,
      (variants item variant).epistemic⟩
  · rw [only, mem_singleton] at variant
    rw [variant]
    exact .inl (prepareMissingUnknown_epistemic prepares)

theorem AssemblyRun.Of.shows_intrinsic (of : run.Of library request provider tokenizer result)
    (listed : prospect ∈ run.materialized.candidates) (intrinsic : prospect.candidate.isIntrinsic =
      true)
    (free : ∀ requirement ∈ request.context.requiredFacets,
      prospect.candidate.id.text ≠ unknownIdText library.blake3 requirement.name) :
    ∃ block ∈ result.context.pack.sections.iter, block.kind = prospect.candidate.kind ∧
      block.epistemic = prospect.candidate.epistemic := by
  obtain ⟨unit, found⟩ := frontier_keeps_intrinsic of.frontier listed intrinsic
  obtain ⟨owner, owned, _, same, variants⟩ := frontier_shows of.frontier found
  -- identifiers of materialized candidates are distinct, so the unit is the candidate's own
  obtain ⟨intake, takes, candidates, _⟩ := materializePolicyFirst_ok of.materialized
  have distinct : (run.materialized.candidates.map (·.candidate.id)).Nodup := by
    rw [candidates]
    exact takeCandidates_nodup takes
  obtain rfl : owner = prospect := inj_on_of_nodup_map distinct owned listed same
  have first := variants unit.first mem_cons_self
  have selected := of.keeps _ (seed_selects_intrinsic of.seeding found
    (first.intrinsic ▸ intrinsic))
  obtain ⟨visible, chooses⟩ := of.chosen
  obtain ⟨chosenUnit, held, item, chosen, variant⟩ := (chooseVariants_ok chooses).2 _ selected
  rw [first.id, seed_keeps of.seeding found free] at held
  cases held
  exact ⟨item.block, (of.shows _).mpr ⟨item, chosen, rfl⟩, (variants item variant).kind,
    (variants item variant).epistemic⟩

/-- Contested knowledge in the packs of both compilers. Blocks in conflict are accompanied in
both. The deterministic compiler shows no disputed content outside conflict blocks; the
whole-request compiler shows none when no materialized candidate with a prepared variant is such
content, and shows every such candidate that is intrinsically mandatory. -/
theorem contested_knowledge_marked (library : AssemblyLibraries) :
    (∀ (compiler : ContextCompiler) (request : CompileRequest) (provider : ContextProvider)
        (tokenizer : TokenCounter) (result : CompiledContext),
      compiler.compile library.toLibraries request provider tokenizer = .ok result →
        Accompanied result.pack ∧ Undisputed result.pack) ∧
    ∀ (request : CompileAssemblyRequest) (provider : AssemblyProvider) (tokenizer : TokenCounter)
        (encoder : OutgoingEncoder) (scorer : ContextScorer) (result : CompiledAssembly),
      (compileAssembly library request provider tokenizer encoder scorer).Yields result →
        Accompanied result.context.pack ∧ ∃ materialized evidence,
          materializePolicyFirst library.blake3 request.context provider.toContextProvider =
            .ok materialized ∧
          (materialized.evidence.toList.foldlM (takeSupport provider) ∅).Yields evidence ∧
          ((∀ prospect ∈ materialized.candidates,
              prospect.Prepares library tokenizer request.context provider evidence →
                ¬ prospect.IsDisputed) →
            Undisputed result.context.pack) ∧
          ∀ prospect ∈ materialized.candidates, prospect.candidate.isIntrinsic = true →
            (∀ requirement ∈ request.context.requiredFacets,
              prospect.candidate.id.text ≠ unknownIdText library.blake3 requirement.name) →
            prospect.IsDisputed → ¬ Undisputed result.context.pack := by
  constructor
  · intro compiler request provider tokenizer result success
    obtain ⟨run, of⟩ := compile_ok success
    obtain ⟨valid, same⟩ := publish_ok of.published
    exact ⟨same ▸ accompanied_of_validate valid, compile_undisputed success⟩
  · intro request provider tokenizer encoder scorer result ran
    obtain ⟨run, of⟩ := compileAssembly_ok ran
    refine ⟨accompanied_of_validate of.valid, run.materialized, run.evidence, of.materialized,
      of.evidence, ?_, ?_⟩
    · intro clean block member otherKind disputed
      rcases of.origin member with generated | ⟨prospect, listed, prepares, kind, epistemic⟩
      · rw [generated] at disputed
        cases disputed
      · exact clean prospect listed prepares ⟨kind ▸ otherKind, epistemic ▸ disputed⟩
    · rintro prospect listed intrinsic free ⟨otherKind, disputed⟩ undisputed
      obtain ⟨block, member, kind, epistemic⟩ := of.shows_intrinsic listed intrinsic free
      exact undisputed block member (kind ▸ otherKind) (epistemic ▸ disputed)

def deskAssemblyLibraries : AssemblyLibraries := ⟨deskLibraries, fun _ => .ok "\x7b\x7d"⟩

def deskAssemblyProvider (candidates : List PackCandidate) : AssemblyProvider where
  toContextProvider := deskProvider candidates
  binding := .ok ⟨"snapshot", "authorization", "state", none⟩
  dependencies _ := .ok {}
  verifyOriginal _ _ := pure ()
  validateReadSet _ := pure ()

def deskAssemblyRequest : CompileAssemblyRequest where
  context := deskRequest []
  base := ⟨[], [], [], []⟩
  budget := ⟨1000, 0, 100000⟩

def deskAllowance : QueryBudget := ⟨1000, 100000, fun _ => none, 0⟩

def deskAssembly (candidates : List PackCandidate) : Except ContextError CompiledAssembly :=
  (compileAssembly deskAssemblyLibraries deskAssemblyRequest (deskAssemblyProvider candidates)
    deskTokenizer (referenceOutgoingEncoder deskAssemblyLibraries deskTokenizer) r0Scorer deskAllowance).1

def disputedNote : PackCandidate :=
  { deskCandidate "note" .participant [] 0 1000 with
    epistemic := ⟨.actorAssertion, .accepted, .disputed, .active⟩ }

private def secretNote : PackCandidate :=
  { disputedNote with taints := [.secretLike] }

/-- A disputed note that is secret-like gets no prepared variant, so nothing disputed is shown. -/
theorem contested_knowledge_marked_desk : ∃ result,
    deskAssembly [deskCandidate "situation" .situation [] 0 1, secretNote] = .ok result ∧
      Undisputed result.context.pack := by
  have compiled : yields (deskAssembly [deskCandidate "situation" .situation [] 0 1, secretNote])
      (fun _ => true) = true := by decide +kernel
  have clean : yields (materializePolicyFirst deskAssemblyLibraries.blake3 deskAssemblyRequest.context
      (deskProvider [deskCandidate "situation" .situation [] 0 1, secretNote]))
      (fun materialized => materialized.candidates.all fun prospect =>
        prospect.candidate.epistemic.conflict != .disputed ||
          prospect.candidate.taints.contains .secretLike) =
        true := by decide +kernel
  obtain ⟨result, success, _⟩ := yields_iff.mp compiled
  obtain ⟨materialized, materializes, undisputed⟩ := yields_iff.mp clean
  obtain ⟨_, again, _, rematerializes, _, shown, _⟩ :=
    (contested_knowledge_marked deskAssemblyLibraries).2 deskAssemblyRequest
      (deskAssemblyProvider [deskCandidate "situation" .situation [] 0 1, secretNote]) deskTokenizer
      (referenceOutgoingEncoder deskAssemblyLibraries deskTokenizer) r0Scorer result
      (.of_run success)
  cases materializes.symm.trans rematerializes
  refine ⟨result, success, shown fun prospect member prepares disputed => ?_⟩
  have kept := all_eq_true.mp undisputed prospect member
  rw [disputed.2, prepares.not_secret] at kept
  cases kept

/-- The whole-request compiler shows a disputed note as a participant block; the deterministic
compiler leaves it out for lack of a conflict block. -/
theorem disputed_note_shown : yields (deskAssembly [deskCandidate "situation" .situation [] 0 1,
    disputedNote])
      (fun result => result.context.pack.sections.iter.any fun block =>
        block.id.text == "note" && block.kind == .participant &&
          block.epistemic.conflict == .disputed) = true ∧
    yields (deskCompiler.compile deskLibraries (deskRequest [])
      (deskProvider [deskCandidate "situation" .situation [] 0 1, disputedNote]) deskTokenizer)
      (fun result => result.pack.compilation.omissions.any fun omission =>
        omission.blockId.text == "note" && omission.reason == .unresolvedConflictWithoutManifest) =
          true := by
  constructor <;> decide +kernel

end ContextDb.Context
