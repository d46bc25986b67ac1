import Mathlib.Data.Nat.Log
import ContextDb.Context.Compiler

/-! The recorded size of a pack. A size changes its own digits and through them the length prefix
of the report, and both only grow with it. So the sizes recorded in turn only grow or only shrink
until one describes its own encoding. -/

set_option autoImplicit false

namespace ContextDb.Context

open Std Lib ContextDb.Core Recall WireContextPackV1

def decimalLength (value : Nat) : Nat :=
  Nat.log 10 value + 1

theorem decimalLength_mono : Monotone decimalLength :=
  fun _ _ le => Nat.succ_le_succ (Nat.log_mono_right le)

theorem decimalLength_bounds (size : UInt32) : 0 < decimalLength size.toNat ∧
    decimalLength size.toNat ≤ 10 := by
  refine ⟨Nat.succ_pos _, ?_⟩
  rcases Nat.eq_zero_or_pos size.toNat with zero | positive
  · rw [zero]
    decide
  · refine Nat.log_lt_of_lt_pow positive.ne' ?_
    have bounded := size.toNat_lt
    omega

def varintLength (value : Nat) : Nat :=
  Nat.log 128 value + 1

def CompilationReport.sized (report : CompilationReport) (size : UInt32) : CompilationReport :=
  { report with usage := { report.usage with serializedBytes := size } }

def ContextPack.sized (pack : ContextPack) (size : UInt32) : ContextPack :=
  { pack with compilation := pack.compilation.sized size }

/-- The writers print integers in decimal, and write a text as its tag, the varint of its length
and its bytes. -/
structure Libraries.Standard (library : Libraries) : Prop where
  decimal : ∀ report : CompilationReport, ∃ fixed, ∀ (size : UInt32) (text : String),
    library.canonicalString (.compilation (report.sized size)) = .ok text →
      text.utf8ByteSize = fixed + decimalLength size.toNat
  prefixed : ∀ wire : WireContextPackV1, ∃ fixed, ∀ text : String, 0 < text.utf8ByteSize →
    (library.encodeToVec { wire with compilationJson := text }).length =
      fixed + varintLength text.utf8ByteSize + text.utf8ByteSize

variable {library : Libraries} {pack : ContextPack} {small large : UInt32}

theorem encodeForFit_ok {bytes : List UInt8} (success : encodeForFit library pack = .ok bytes) :
    ∃ wire, fromDomain library pack = .ok wire ∧ library.encodeToVec wire = bytes := by
  unfold encodeForFit at success
  split at success
  · next encoded =>
    cases success
    exact (bind_ok encoded).imp fun _ found => ⟨found.1, Except.ok.inj found.2⟩
  · cases success

/-- Two encodings of a pack that differ in the recorded size differ in the text of the report. -/
theorem fromDomain_sized {first second : WireContextPackV1}
    (one : fromDomain library (pack.sized small) = .ok first)
    (other : fromDomain library (pack.sized large) = .ok second) :
    library.canonicalString (.compilation (pack.compilation.sized small)) =
      .ok first.compilationJson ∧
      library.canonicalString (.compilation (pack.compilation.sized large)) =
        .ok second.compilationJson ∧
      second = { first with compilationJson := second.compilationJson } := by
  simp only [fromDomain, ContextPack.sized, bind_ok_iff, Except.ok.injEq] at one other
  obtain ⟨_, _, _, _, _, _, _, _, _, _, _, _, _, _, _, report, _, _, _, _, rfl⟩ := one
  obtain ⟨_, _, _, _, _, _, _, _, _, _, _, _, _, _, _, report', _, _, _, _, rfl⟩ := other
  refine ⟨report, report', ?_⟩
  simp_all only [Except.ok.injEq]

theorem Libraries.Standard.length_le (standard : library.Standard) {first second : List UInt8}
    (fewer : decimalLength small.toNat ≤ decimalLength large.toNat)
    (one : encodeForFit library (pack.sized small) = .ok first)
    (other : encodeForFit library (pack.sized large) = .ok second) :
    first.length ≤ second.length := by
  obtain ⟨wire, converted, rfl⟩ := encodeForFit_ok one
  obtain ⟨wire', converted', rfl⟩ := encodeForFit_ok other
  obtain ⟨text, text', same⟩ := fromDomain_sized converted converted'
  obtain ⟨fixed, decimal⟩ := standard.decimal pack.compilation
  obtain ⟨base, prefixed⟩ := standard.prefixed wire
  have shorter := decimal small _ text
  have longer := decimal large _ text'
  have varint : varintLength wire.compilationJson.utf8ByteSize ≤
    varintLength wire'.compilationJson.utf8ByteSize :=
    Nat.succ_le_succ (Nat.log_mono_right (by omega))
  have lengths := prefixed wire.compilationJson (by rw [shorter, decimalLength]; omega)
  have lengths' := prefixed wire'.compilationJson (by rw [longer, decimalLength]; omega)
  rw [← same] at lengths'
  change (library.encodeToVec wire).length = _ at lengths
  omega

theorem toNat_clampU32 {length : Nat} : (clampU32 length).toNat = min length (2 ^ 32 - 1) := by
  unfold clampU32
  split
  · next fits =>
    rw [UInt32.toNat_ofNat_of_lt' fits]
    omega
  · next large =>
    change 2 ^ 32 - 1 = _
    omega

/-- Upwards every round that does not settle adds a digit, downwards it drops one. -/
theorem settleSize_sized (standard : library.Standard) {encode : UInt32 → List UInt8}
    (encodes : ∀ size, encodeForFit library (pack.sized size) = .ok (encode size)) (rounds : Nat)
    (size : UInt32)
    (enough : size = clampU32 (encode size).length ∧ 0 < rounds ∨
      size ≤ clampU32 (encode size).length ∧ 12 ≤ rounds + decimalLength size.toNat ∨
      clampU32 (encode size).length ≤ size ∧ decimalLength size.toNat < rounds) :
    ∃ settled, settleSize library rounds (pack.sized size) (encode size) =
      .ok (pack.sized settled) ∧ settled = clampU32 (encode settled).length := by
  have bounds := decimalLength_bounds size
  induction rounds generalizing size with
  | zero => omega
  | succ rounds ih =>
    rw [settleSize]
    split
    · next same => exact ⟨size, rfl, same⟩
    · next different =>
      have recorded := @toNat_clampU32 (encode size).length
      generalize clampU32 (encode size).length = next at recorded different enough ⊢
      have apart : size.toNat ≠ next.toNat := fun same => different (UInt32.toNat_inj.mp same)
      have bounds' := decimalLength_bounds next
      have longer := fun le => standard.length_le le (encodes size) (encodes next)
      have shorter := fun le => standard.length_le le (encodes next) (encodes size)
      change ∃ settled, (encodeForFit library (pack.sized next) >>= _) = _ ∧ _
      rw [encodes, ok_bind]
      refine ih next ?_ bounds'
      simp only [← UInt32.toNat_inj, UInt32.le_iff_toNat_le, toNat_clampU32] at enough ⊢
      -- With as many digits as before, the next size already describes its encoding.
      rcases Nat.lt_trichotomy (decimalLength size.toNat) (decimalLength next.toNat) with
        added | equal | dropped
      · have grown := longer added.le
        have upwards := decimalLength_mono.reflect_lt added
        omega
      · have grown := longer equal.le
        have shrunk := shorter equal.ge
        omega
      · have shrunk := shorter dropped.le
        have downwards := decimalLength_mono.reflect_lt dropped
        omega

/-- The loop settles whatever size the pack came with, and the size it records is the length of
the final encoding, when that length fits 32 bits. -/
theorem recorded_size_exact (standard : library.Standard) {request : CompileRequest}
    {rendered : RenderedContext} (budget : rendered.totalTokens ≤ request.budgets.hardTokens)
    (encodable : ∀ size, ∃ bytes, encodeForFit library
      ((pack.withRendered request rendered).sized size) = .ok bytes) :
    let filled := pack.withRendered request rendered
    ∃ protobuf size bytes, encodeForFit library filled = .ok protobuf ∧
      settleSize library 16 filled protobuf = .ok (filled.sized size) ∧
      encodeForFit library (filled.sized size) = .ok bytes ∧
        (bytes.length < 2 ^ 32 → size.toNat = bytes.length) ∧
      finalizePack library request pack rendered = if size ≤ request.budgets.maxSerializedBytes then
          .ok ⟨filled.sized size, rendered, bytes⟩
        else .error .serializationBudget := by
  dsimp only
  choose encode encodes using encodable
  have bounds := decimalLength_bounds pack.compilation.usage.serializedBytes
  obtain ⟨size, settles, exact⟩ := settleSize_sized standard encodes 16 pack.compilation.usage.serializedBytes (by
      rcases UInt32.le_total pack.compilation.usage.serializedBytes (clampU32 (encode _).length)
        with below | above
      · exact .inr (.inl ⟨below, by omega⟩)
      · exact .inr (.inr ⟨above, by omega⟩))
  have first : encodeForFit library (pack.withRendered request rendered) = .ok _ := encodes _
  change settleSize library 16 (pack.withRendered request rendered) _ = _ at settles
  refine ⟨_, size, _, first, settles, encodes size, fun fits => ?_, ?_⟩
  · rw [exact, toNat_clampU32, ← exact]
    omega
  rw [finalizePack, show ensure _ _ = .ok () from ensure_ok_iff.mpr (decide_eq_true budget)]
  simp only [first, ok_bind, settles, encodes]
  change (ensure (decide (size ≤ request.budgets.maxSerializedBytes)) _ >>= _) = _
  by_cases affordable : size ≤ request.budgets.maxSerializedBytes
  · simp only [ensure, affordable, decide_true, if_true, ok_bind]
  · simp only [ensure, affordable, decide_false, if_false, Bool.false_eq_true]
    rfl

/-! ### Writers

The texts that serde_json writes for the records of a pack without blocks, and the fields that
prost writes for a pack. A text of these records has nothing to escape. -/

def decimalDigits (value : Nat) : List Char :=
  if value < 10 then [Nat.digitChar value] else decimalDigits (value / 10) ++
    [Nat.digitChar (value % 10)]

def decimal (value : Nat) : String :=
  .ofList (decimalDigits value)

theorem utf8ByteSize_digit {digit : Nat} (small : digit < 10) :
    (String.ofList [Nat.digitChar digit]).utf8ByteSize = 1 := by
  revert digit
  decide

theorem utf8ByteSize_decimal (value : Nat) : (decimal value).utf8ByteSize =
    decimalLength value := by
  induction value using Nat.strongRecOn with
  | ind value ih =>
    rw [decimal, decimalDigits]
    split
    · next small => rw [utf8ByteSize_digit small, decimalLength, Nat.log_of_lt small]
    · next large =>
      have shorter := ih (value / 10) (by omega)
      rw [decimal] at shorter
      rw [String.ofList_append, String.utf8ByteSize_append, shorter,
        utf8ByteSize_digit (Nat.mod_lt _ (by decide)),
        decimalLength, decimalLength, Nat.log_of_one_lt_of_le (by decide) (by omega : 10 ≤ value)]

/-- Seven bits a byte, the lowest first; every byte but the last has its high bit set. -/
def varint (value : Nat) : List UInt8 :=
  if value < 128 then [UInt8.ofNat value] else UInt8.ofNat (value % 128 + 128) :: varint
    (value / 128)

theorem length_varint (value : Nat) : (varint value).length = varintLength value := by
  induction value using Nat.strongRecOn with
  | ind value ih =>
    rw [varint]
    split
    · next small => rw [varintLength, Nat.log_of_lt small, List.length_singleton]
    · next large =>
      rw [List.length_cons, ih (value / 128) (by omega), varintLength, varintLength,
        Nat.log_of_one_lt_of_le (by decide) (by omega : 128 ≤ value)]

def textField (tag : Nat) (text : String) : List UInt8 :=
  UInt8.ofNat (8 * tag + 2) :: varint text.utf8ByteSize ++ bytesOf text

theorem length_textField (tag : Nat) (text : String) :
    (textField tag text).length = 1 + varintLength text.utf8ByteSize + text.utf8ByteSize := by
  rw [textField, List.cons_append, List.length_cons, List.length_append, length_varint]
  change varintLength text.utf8ByteSize + text.utf8ByteSize + 1 = _
  omega

/-- An empty text of a plain field is not written. -/
def plainField (tag : Nat) (text : String) : List UInt8 :=
  if text.utf8ByteSize = 0 then [] else textField tag text

def enumField (tag value : Nat) : List UInt8 :=
  if value = 0 then [] else UInt8.ofNat (8 * tag) :: varint value

def sectionBytes (wire : WireSectionV1) : List UInt8 :=
  enumField 1 wire.kind ++ wire.blockJson.flatMap (textField 2)

def messageField (tag : Nat) (bytes : List UInt8) : List UInt8 :=
  UInt8.ofNat (8 * tag + 2) :: varint bytes.length ++ bytes

def fieldsBefore (wire : WireContextPackV1) : List UInt8 :=
  plainField 1 wire.schemaVersion ++ plainField 2 wire.id ++ enumField 3 wire.status ++
    plainField 4 wire.snapshotJson ++ enumField 5 wire.purpose ++
      plainField 6 wire.scopeManifestJson ++
    wire.sections.flatMap (fun part => messageField 7 (sectionBytes part)) ++
    wire.evidenceJson.flatMap (textField 8) ++ wire.useDirectiveJson.flatMap (textField 9) ++
    plainField 10 wire.freshnessJson ++ plainField 11 wire.provenanceJson ++
    wire.continuationOpaque.toList.flatMap (textField 12)

def fieldsAfter (wire : WireContextPackV1) : List UInt8 :=
  wire.noMemoryJson.toList.flatMap (textField 14) ++ plainField 15 wire.graphManifestJson

def quotedText (text : String) : String := "\"" ++ text ++ "\""

def member (name value : String) : String := quotedText name ++ ":" ++ value

def object (members : List String) : String :=
  "\x7b" ++ String.intercalate "," members ++ "\x7d"

def snapshotJson (snapshot : ProviderSnapshot) : String :=
  let marks := snapshot.watermarks
  object [member "database_id" (quotedText snapshot.databaseId),
    member "commit_seq" (decimal snapshot.commitSeq),
    member "watermarks" (object [member "journal" (decimal marks.journal),
      member "semantic" (decimal marks.semantic),
      member "lexical" (decimal marks.lexical), member "vector" (object []), member "graph"
        (decimal marks.graph),
      member "hierarchy" (object [])])]

def budgetJson (budget : ContextBudgets) : String :=
  object [member "hard_tokens" (decimal budget.hardTokens.toNat),
    member "soft_tokens" (decimal budget.softTokens.toNat),
    member "max_blocks" (decimal budget.maxBlocks.toNat),
    member "max_evidence_blocks" (decimal budget.maxEvidenceBlocks.toNat),
    member "max_raw_evidence_tokens" (decimal budget.maxRawEvidenceTokens.toNat),
    member "max_history_tokens" (decimal budget.maxHistoryTokens.toNat),
    member "max_conflict_tokens" (decimal budget.maxConflictTokens.toNat),
    member "max_serialized_bytes" (decimal budget.maxSerializedBytes.toNat),
    member "max_selection_evaluations" (decimal budget.maxSelectionEvaluations.toNat)]

/-- The report up to the number of serialized bytes. -/
def reportHead (report : CompilationReport) : String :=
  let usage := report.usage
  "\x7b" ++ String.intercalate "," [member "compiler_version" (quotedText report.compilerVersion),
    member "schema_version" (quotedText report.schemaVersion), member "model_profile"
      (quotedText report.modelProfile),
    member "tokenizer" (quotedText report.tokenizer), member "renderer" (quotedText "compact"),
    member "budget" (budgetJson report.budget), quotedText "usage" ++ ":\x7b" ++
      String.intercalate ","
      [member "rendered_tokens" (decimal usage.renderedTokens.toNat),
        member "control_tokens" (decimal usage.controlTokens.toNat), member "data_tokens"
          (decimal usage.dataTokens.toNat),
        member "blocks" (decimal usage.blocks.toNat), member "evidence_blocks"
          (decimal usage.evidenceBlocks.toNat),
        member "raw_evidence_tokens" (decimal usage.rawEvidenceTokens.toNat),
        member "history_tokens" (decimal usage.historyTokens.toNat),
        member "conflict_tokens" (decimal usage.conflictTokens.toNat), quotedText "serialized_bytes" ++ ":"]]

def reportTail (report : CompilationReport) : String :=
  "," ++ member "selection_evaluations" (decimal report.usage.selectionEvaluations.toNat) ++
    "\x7d," ++
    String.intercalate "," [member "soft_budget_exceeded" (toString report.softBudgetExceeded),
      member "selected_blocks" "[]", member "omissions" "[]",
      member "sufficiency" (object [member "sufficient" (toString report.sufficiency.sufficient),
        member "covered_facets" "[]", member "missing_facets" "[]", member "unresolved_conflicts" "[]",
        member "blocking_unknowns" "[]", member "unsupported_blocks" "[]"])] ++ "\x7d"

/-- The report names no block, facet or conflict, and is for the compact renderer. -/
def CompilationReport.isBlank (report : CompilationReport) : Bool :=
  report.renderer = .compact && report.selectedBlocks.isEmpty && report.omissions.isEmpty &&
    report.sufficiency.coveredFacets.isEmpty && report.sufficiency.missingFacets.isEmpty &&
    report.sufficiency.unresolvedConflicts.isEmpty && report.sufficiency.blockingUnknowns.isEmpty &&
    report.sufficiency.unsupportedBlocks.isEmpty

/-- The writers on records without blocks; any other record is outside what they are for. -/
def blankLibraries : Libraries where
  toJson
    | .compilation report =>
      if report.isBlank then
        .ok (reportHead report ++ decimal report.usage.serializedBytes.toNat ++ reportTail report)
      else .error "not a blank report"
    | .snapshot snapshot => .ok (snapshotJson snapshot)
    | .scopeManifest manifest => .ok (object [member "workspace" (quotedText manifest.workspace),
        member "subject" (quotedText manifest.subject),
        member "scopes" ("[" ++ String.intercalate "," (manifest.scopes.toList.map quotedText) ++
          "]"),
        member "purpose" (quotedText "conversation"), member "temporal_view"
          (object [member "kind" (quotedText "current")]),
        member "filter_digest" (quotedText manifest.filterDigest)])
    | .graphManifest _ =>
      .ok (object [member "memory_refs" "[]", member "claim_ids" "[]", member "conflict_sets" "[]"])
    | .freshness manifest =>
      .ok (object [member "snapshot" (snapshotJson manifest.snapshot), member "warnings" "[]"])
    | .provenance manifest => .ok (object [member "compiler_version" (quotedText manifest.compilerVersion),
        member "policy_filter_digest" (quotedText manifest.policyFilterDigest), member "blocks" "[]",
        member "evidence_sources" (object [])])
    | .noMemory _ => .ok (object [member "reason" (quotedText "no_authorized_candidates"), member "missing_facets" "[]"])
    | _ => .error "not a record of a blank pack"
  encodeToVec wire := fieldsBefore wire ++ plainField 13 wire.compilationJson ++ fieldsAfter wire
  blake3 := deskLibraries.blake3
  keyedHash := deskLibraries.keyedHash

theorem blankLibraries_standard : blankLibraries.Standard where
  decimal report := by
    refine ⟨(reportHead report).utf8ByteSize + (reportTail report).utf8ByteSize,
      fun size text printed => ?_⟩
    have same : (report.sized size).isBlank = report.isBlank := rfl
    simp only [Libraries.canonicalString, blankLibraries, same] at printed
    split at printed
    · next written =>
      split at written
      · cases written
        cases printed
        rw [String.utf8ByteSize_append, String.utf8ByteSize_append, utf8ByteSize_decimal]
        change (reportHead report).utf8ByteSize + decimalLength size.toNat +
          (reportTail report).utf8ByteSize = _
        omega
      · cases written
    · cases printed
  prefixed wire := by
    refine ⟨(fieldsBefore wire).length + (fieldsAfter wire).length + 1, fun text written => ?_⟩
    change (fieldsBefore wire ++ plainField 13 text ++ fieldsAfter wire).length = _
    rw [plainField, if_neg (by omega), List.length_append, List.length_append, length_textField]
    omega

def blankPack : ContextPack :=
  assemblePack (deskRequest []) [] [] [] 0 0 none {} 0

def blankRendering : RenderedContext :=
  ⟨"chat", .chat, "", "", 0, 0, 0⟩

/-- The pack comes with size zero, and its encoding has 1577 bytes. Recording them takes three more
digits, so the size that describes its own encoding is 1580. -/
theorem recorded_size_exact_blank : ∃ first size bytes,
    encodeForFit blankLibraries (blankPack.withRendered (deskRequest
      []) blankRendering) = .ok first ∧
      first.length = 1577 ∧ size.toNat = 1580 ∧
      encodeForFit blankLibraries ((blankPack.withRendered
        (deskRequest []) blankRendering).sized size) = .ok bytes ∧
      (bytes.length < 2 ^ 32 → size.toNat = bytes.length) := by
  have evaluated : yields (encodeForFit blankLibraries (blankPack.withRendered
    (deskRequest []) blankRendering))
      (fun first => first.length == 1577 &&
        yields (settleSize blankLibraries 16 (blankPack.withRendered
          (deskRequest []) blankRendering) first)
          fun pack => pack.compilation.usage.serializedBytes.toNat == 1580) = true := by
    decide +kernel
  obtain ⟨first, size, bytes, encodes, settles, encoded, exact, _⟩ :=
    @recorded_size_exact _ blankPack blankLibraries_standard (deskRequest []) blankRendering
      (by decide) fun _ => ⟨_, rfl⟩
  obtain ⟨again, same, sizes⟩ := yields_iff.mp evaluated
  cases encodes.symm.trans same
  obtain ⟨short, settled⟩ := Bool.and_eq_true_iff.mp sizes
  obtain ⟨final, reached, recorded⟩ := yields_iff.mp settled
  cases settles.symm.trans reached
  exact ⟨first, size, bytes, encodes, beq_iff_eq.mp short, beq_iff_eq.mp recorded, encoded, exact⟩

end ContextDb.Context
