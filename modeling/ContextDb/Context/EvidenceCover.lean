import Mathlib.Data.Finset.Card
import ContextDb.Lib.Redaction
import ContextDb.Context.Assembly
import ContextDb.Context.Compiler

/-! Original evidence is rendered exactly once: what quoted spans hold beyond what the request
shows already, each byte in one message, with its own text and digest. The cut points are
character boundaries because every span is text and UTF-8 synchronises itself. -/

set_option autoImplicit false

namespace ContextDb.Context

open Std Lib ContextDb.Core Recall List OutgoingMessage ExtTreeMap Piece Continuation

/-! ### Ranges of a text -/

variable {bytes : List UInt8}

theorem isUtf8_of_isCharBoundary {offset : Nat} (isText : IsUtf8 bytes)
    (boundary : isCharBoundary bytes offset = true) : IsUtf8 (bytes.take offset) ∧
      IsUtf8 (bytes.drop offset) := by
  unfold isCharBoundary at boundary
  split at boundary
  · next byte found =>
    obtain ⟨inside, held⟩ := List.getElem?_eq_some_iff.mp found
    have split : bytes.take offset ++ byte :: bytes.drop (offset + 1) = bytes := by
      rw [← held, ← drop_eq_getElem_cons inside, take_append_drop]
    have parts := IsUtf8.cut (split.symm ▸ isText) (of_decide_eq_true boundary)
    rw [drop_eq_getElem_cons inside, held]
    exact parts
  · rw [beq_iff_eq.mp boundary, take_length, drop_length]
    exact ⟨isText, ⟨[], rfl⟩⟩

variable {start finish : Nat}

theorem boundary_isUtf8_drop (below : start ≤ finish) (boundary : isCharBoundary bytes finish =
    true) :
    isCharBoundary (bytes.drop start) (finish - start) = true := by
  unfold isCharBoundary at boundary ⊢
  rw [getElem?_drop, Nat.add_sub_cancel' below, length_drop]
  split at boundary
  · next byte found => simpa [found] using boundary
  · next absent =>
    have last : finish = bytes.length := beq_iff_eq.mp boundary
    simp [last]

/-- A range of a text is a text, for both its ends are boundaries of characters. -/
theorem textRange_ok {text : String} (found : textRange text start finish = some bytes) :
    bytes = ((bytesOf text).drop start).take (finish - start) ∧ IsUtf8 bytes := by
  unfold textRange at found
  split at found
  · next inside =>
    simp only [Bool.and_eq_true, decide_eq_true_eq] at inside
    obtain ⟨⟨below, opens⟩, closes⟩ := inside
    cases found
    refine ⟨rfl, ?_⟩
    have suffixText := (isUtf8_of_isCharBoundary (isUtf8_toByteArray text) opens).2
    exact (isUtf8_of_isCharBoundary suffixText (boundary_isUtf8_drop below closes)).1
  · cases found

/-! ### Exact originals -/

/-- A span with the bytes it names: non-empty text of the right length and digest. -/
structure Exact (blake3 : List UInt8 → Digest) (entry : OriginalSourceSpan × List UInt8) :
    Prop where
  nonempty : entry.1.start < entry.1.finish
  length : entry.1.finish - entry.1.start = entry.2.length
  digest : blake3 entry.2 = entry.1.spanDigest
  isText : IsUtf8 entry.2

def Verified (payloads : OriginalKey → List UInt8) (entry : OriginalSourceSpan × List UInt8) :
    Prop :=
  entry.2 = ((payloads entry.1.key).drop entry.1.start).take (entry.1.finish - entry.1.start)

def OriginalSourceSpan.Holds (span : OriginalSourceSpan) (key : OriginalKey) (position : Nat) :
    Prop :=
  span.key = key ∧ span.start ≤ position ∧ position < span.finish

variable {payloads : OriginalKey → List UInt8} {key : OriginalKey} {position : Nat}
  {message : OutgoingMessage} {evidence : List PackEvidence} {blake3 : List UInt8 → Digest}
  {entry : OriginalSourceSpan × List UInt8} {entries : List (OriginalSourceSpan × List UInt8)}

/-- An exact entry of a verified payload is a piece of that payload. -/
theorem Exact.piece (exact' : Exact blake3 entry) (verified : Verified payloads entry) :
    Piece.Of utf8Code (payloads entry.1.key) (entry.1.start, entry.2) where
  nonempty := by
    rintro none
    have length := exact'.length
    have nonempty := exact'.nonempty
    rw [show entry.2 = [] from none, length_nil] at length
    omega
  placed := by
    have placed : entry.2 = _ := verified
    rw [exact'.length] at placed
    exact placed
  word := exact'.isText

theorem Exact.holds_iff (exact' : Exact blake3 entry) : entry.1.Holds key position ↔
      entry.1.key = key ∧ Piece.Covers (entry.1.start, entry.2) position := by
  have length := exact'.length
  have nonempty := exact'.nonempty
  refine and_congr_right fun _ => ?_
  unfold Piece.Covers finish
  simp only
  omega

theorem shown_exact (valid : validateMessage blake3 message = .ok ())
    (member : entry ∈ message.shown) : Exact blake3 entry := by
  obtain ⟨original, listed, rfl⟩ := mem_map.mp member
  have valid := rest_ok valid
  have valid := rest_ok valid
  have valid := rest_ok valid
  obtain ⟨folded, _⟩ := unit_ok valid
  obtain ⟨_, folded, _⟩ := bind_ok folded
  obtain ⟨lastEnd, next, checked⟩ := foldlM_step_ok folded listed
  unfold validateOriginal at checked
  split at checked
  · cases checked
  · next bytes found =>
    obtain ⟨placed, isText⟩ := textRange_ok found
    obtain ⟨agrees, _⟩ := unit_ok checked
    simp only [ensure_ok_iff, Bool.and_eq_true, decide_eq_true_eq, beq_iff_eq] at agrees
    obtain ⟨⟨⟨_, nonempty⟩, length⟩, digest⟩ := agrees
    rw [placed] at length digest isText
    exact ⟨nonempty, length, digest, isText⟩

theorem quoted_exact (valid : ∀ item ∈ evidence, item.validate blake3 = .ok ())
    (member : entry ∈ quoted evidence) :
    Exact blake3 entry := by
  obtain ⟨item, listed, found⟩ := mem_filterMap.mp member
  split at found
  · next span text spanned excerpt =>
    cases found
    have checked := valid item listed
    unfold PackEvidence.validate at checked
    rw [spanned, excerpt] at checked
    have checked := rest_ok checked
    have checked := rest_ok checked
    have checked := rest_ok checked
    have checked := rest_ok checked
    obtain ⟨agrees, _⟩ := unit_ok checked
    simp only [ensure_ok_iff, PackEvidence.spanAgrees, Bool.and_eq_true, decide_eq_true_eq,
      beq_iff_eq] at agrees
    obtain ⟨⟨⟨nonempty, length⟩, digest⟩, _⟩ := agrees
    exact ⟨nonempty, length, digest, isUtf8_toByteArray text⟩
  · cases found

/-! ### The inventory -/

/-- The inventory holds the given entries and nothing else, merged payload by payload. -/
structure InventoryOf (payloads : OriginalKey → List UInt8)
    (entries : List (OriginalSourceSpan × List UInt8)) (inventory : OriginalInventory) : Prop where
  merged : ∀ key, Piece.Merged utf8Code (payloads key) (inventory[key]?.getD [])
  covers : ∀ key position, Piece.CoveredBy (inventory[key]?.getD []) position ↔
    ∃ entry ∈ entries, entry.1.Holds key position

/-- Collecting an exact entry of a verified payload never fails. -/
theorem InventoryOf.insert {inventory : OriginalInventory}
    (of : InventoryOf payloads entries inventory) (exact' : Exact blake3 entry)
    (verified : Verified payloads entry) : ∃ next, insertOriginal blake3 inventory entry =
      .ok next ∧
      InventoryOf payloads (entries ++ [entry]) next := by
  obtain ⟨ranges, inserts, merged, covers⟩ :=
    insert_ok (of.merged entry.1.key) (exact'.piece verified)
  have checked : (entry.1.start ≤ entry.1.finish &&
    entry.1.finish - entry.1.start == entry.2.length &&
      blake3 entry.2 == entry.1.spanDigest) = true := by
    simp [exact'.length, exact'.digest, exact'.nonempty.le]
  refine ⟨inventory.insert entry.1.key ranges, ?_, ?_, ?_⟩
  · simp [insertOriginal, ensure, checked, ok_bind, inserts]
  · intro key
    rw [ExtTreeMap.getElem?_insert]
    split
    · next same =>
      cases Std.compare_eq_iff_eq.mp same
      exact merged
    · exact of.merged key
  · intro key position
    simp only [mem_append, mem_singleton, or_and_right, exists_or, exists_eq_left, exact'.holds_iff]
    rw [ExtTreeMap.getElem?_insert]
    split
    · next same =>
      cases Std.compare_eq_iff_eq.mp same
      rw [Option.getD_some, covers, of.covers]
      simp
    · next different =>
      have other : entry.1.key ≠ key := fun same =>
        different (Std.compare_eq_iff_eq.mpr same)
      rw [of.covers]
      simp [other]

theorem exists_inventory (exacts : ∀ entry ∈ entries, Exact blake3 entry)
    (verified : ∀ entry ∈ entries, Verified payloads entry) :
    ∃ inventory, entries.foldlM (insertOriginal blake3) ∅ = .ok inventory ∧
      InventoryOf payloads entries inventory := by
  have extend : ∀ (rest before : List (OriginalSourceSpan × List UInt8))
    (inventory : OriginalInventory),
      (∀ entry ∈ rest, Exact blake3 entry) → (∀ entry ∈ rest, Verified payloads entry) →
      InventoryOf payloads before inventory → ∃ final, rest.foldlM
        (insertOriginal blake3) inventory = .ok final ∧
          InventoryOf payloads (before ++ rest) final := by
    intro rest
    induction rest with
    | nil =>
      intro before inventory _ _ of
      exact ⟨inventory, rfl, by simpa using of⟩
    | cons first later ih =>
      intro before inventory exacts verified of
      obtain ⟨next, inserts, nextOf⟩ := of.insert (exacts first mem_cons_self)
        (verified first mem_cons_self)
      obtain ⟨final, folds, finalOf⟩ := ih _ next (fun entry member => exacts entry
        (mem_cons_of_mem _ member))
        (fun entry member => verified entry (mem_cons_of_mem _ member)) nextOf
      refine ⟨final, ?_, by simpa using finalOf⟩
      rw [foldlM_cons, inserts, ok_bind]
      exact folds
  have start : InventoryOf payloads [] ∅ := by
    constructor
    · intro key
      simp only [getElem?_empty, Option.getD_none]
      exact ⟨by simp, List.Pairwise.nil⟩
    · intro key position
      simp
  simpa using extend entries [] ∅ exacts verified start

/-! ### What is left to show -/

variable {inventory visible : OriginalInventory} {entry : OriginalKey × Piece UInt8}

section

variable {entries shown : List (OriginalSourceSpan × List UInt8)}

theorem mem_uncoveredOriginals {piece : Piece UInt8} : (key,
    piece) ∈ uncoveredOriginals inventory visible ↔
      piece ∈ uncovered (visible[key]?.getD []) (inventory[key]?.getD []) := by
  simp only [uncoveredOriginals, mem_flatMap, mem_map]
  constructor
  · rintro ⟨⟨other, ranges⟩, listed, found, left, same⟩
    cases same
    rw [mem_toList_iff_getElem?_eq_some.mp listed]
    exact left
  · intro left
    cases stored : inventory[key]? with
    | none =>
      rw [stored] at left
      cases left
    | some ranges =>
      rw [stored] at left
      exact ⟨(key, ranges), mem_toList_iff_getElem?_eq_some.mpr stored, piece, left, rfl⟩

section

variable (of : InventoryOf payloads entries inventory)
include of

theorem uncoveredOriginals_ordered (visibleOf : InventoryOf payloads shown visible) :
    (uncoveredOriginals inventory visible).Pairwise fun left right => left.1 = right.1 →
      left.2.finish ≤ right.2.1 := by
  refine pairwise_flatMap.mpr ⟨?_, ?_⟩
  · rintro ⟨key, ranges⟩ listed
    have stored := mem_toList_iff_getElem?_eq_some.mp listed
    have merged := of.merged key
    rw [stored, Option.getD_some] at merged
    refine pairwise_map.mpr ?_
    refine (uncovered_ordered merged (visibleOf.merged key).each).imp ?_
    intro left right before _
    exact before
  · refine distinct_keys_toList.imp ?_
    intro left right different first firstMember second secondMember same
    obtain ⟨_, _, rfl⟩ := mem_map.mp firstMember
    obtain ⟨_, _, rfl⟩ := mem_map.mp secondMember
    exact absurd (Std.compare_eq_iff_eq.mpr same) different

theorem mem_uncoveredOriginals_of (visibleOf : InventoryOf payloads shown visible)
    (member : entry ∈ uncoveredOriginals inventory visible) :
    Piece.Of utf8Code (payloads entry.1) entry.2 :=
  uncovered_of (of.merged entry.1) (visibleOf.merged entry.1).each
    (mem_uncoveredOriginals.mp member)

/-- What is rendered anew is what the evidence holds and the conversation does not show. -/
theorem covered_uncoveredOriginals (visibleOf : InventoryOf payloads shown visible) :
    (∃ piece, (key, piece) ∈ uncoveredOriginals inventory visible ∧ piece.Covers position) ↔
      (∃ entry ∈ entries, entry.1.Holds key position) ∧
        ¬ ∃ entry ∈ shown, entry.1.Holds key position := by
  simp only [mem_uncoveredOriginals]
  rw [← of.covers, ← visibleOf.covers]
  exact coveredBy_uncovered (of.merged key) (visibleOf.merged key).each

end

def uncoveredPositions (inventory visible : OriginalInventory) : List (OriginalKey × Nat) :=
  (uncoveredOriginals inventory visible).flatMap fun entry =>
    entry.2.positions.map fun position => (entry.1, position)

theorem mem_uncoveredPositions : (key, position) ∈ uncoveredPositions inventory visible ↔
      ∃ piece, (key, piece) ∈ uncoveredOriginals inventory visible ∧ piece.Covers position := by
  simp only [uncoveredPositions, mem_flatMap, mem_map]
  constructor
  · rintro ⟨⟨other, piece⟩, listed, found, inside, same⟩
    cases same
    exact ⟨piece, listed, mem_positions.mp inside⟩
  · rintro ⟨piece, listed, covers⟩
    exact ⟨(key, piece), listed, position, mem_positions.mpr covers, rfl⟩

/-- No byte of a payload is rendered twice. -/
theorem uncoveredPositions_nodup (of : InventoryOf payloads entries inventory)
    (visibleOf : InventoryOf payloads shown visible) :
    (uncoveredPositions inventory visible).Nodup := by
  refine nodup_flatMap.mpr ⟨fun entry _ => ?_, ?_⟩
  · exact List.Nodup.map (fun _ _ same => congrArg Prod.snd same) nodup_range'
  · refine (uncoveredOriginals_ordered of visibleOf).imp ?_
    intro left right ordered position first second
    obtain ⟨leftPosition, leftInside, rfl⟩ := mem_map.mp first
    obtain ⟨rightPosition, rightInside, same⟩ := mem_map.mp second
    obtain ⟨keys, positions⟩ := Prod.mk.inj same
    have before := ordered keys.symm
    have leftCovers := mem_positions.mp leftInside
    have rightCovers := mem_positions.mp rightInside
    unfold Piece.Covers at leftCovers rightCovers
    omega

theorem length_uncoveredPositions : (uncoveredPositions inventory visible).length =
    ((uncoveredOriginals inventory visible).map fun entry => entry.2.2.length).sum := by
  simp [uncoveredPositions, length_flatMap, positions]

end

/-! ### Messages -/

theorem bytesOf_append (left right : String) : bytesOf (left ++ right) = bytesOf left ++
    bytesOf right := by
  simp [bytesOf, String.toByteArray_append]

theorem encodeHex_noControl (bytes : List UInt8) : (encodeHex bytes).toList.any isControl =
    false := by
  have printable : ∀ value < 16, isControl (hexDigit value) = false := by decide
  rw [encodeHex, String.toList_ofList, any_eq_false]
  intro character member
  obtain ⟨byte, _, digit⟩ := mem_flatMap.mp member
  have small : byte.toNat < 256 := byte.toNat_lt
  rw [Bool.not_eq_true]
  rcases mem_cons.mp digit with rfl | digit
  · exact printable _ (by omega)
  · rw [mem_singleton.mp digit]
    exact printable _ (by omega)

theorem exists_originalId (digest : Digest) : ∃ id, Handle.new .block
    ("original:" ++ encodeHex digest.toList) = .ok id := by
  have notBlank : isBlank ("original:" ++ encodeHex digest.toList) = false := by
    rw [isBlank, String.toList_append, all_append]
    rfl
  have noControl : ("original:" ++ encodeHex digest.toList).toList.any isControl = false := by
    rw [String.toList_append, any_append, encodeHex_noControl]
    rfl
  exact ⟨_, by rw [Handle.new, dif_pos notBlank, dif_pos noControl]⟩

variable {library : AssemblyLibraries}

def OutgoingMessage.Shows (message : OutgoingMessage) (key : OriginalKey) (position : Nat) : Prop :=
  ∃ original ∈ message.originals, original.span.Holds key position

/-- The message shows one original: its offsets mark a range of the text, which holds the bytes
of the payload at the span, under their digest. -/
def OutgoingMessage.Faithful (blake3 : List UInt8 → Digest) (payloads : OriginalKey → List UInt8)
    (message : OutgoingMessage) : Prop :=
  ∃ original bytes, message.originals = [original] ∧
    textRange message.text original.textStart original.textEnd = some bytes ∧
    Exact blake3 (original.span, bytes) ∧ Verified payloads (original.span, bytes)

theorem textRange_append (header : String) {body : String} (nonempty : bytesOf body ≠ []) :
    textRange (header ++ body) (bytesOf header).length ((bytesOf header).length +
      (bytesOf body).length) = some (bytesOf body) := by
  have opens : isCharBoundary (bytesOf header ++ bytesOf body) (bytesOf header).length = true := by
    cases held : bytesOf body with
    | nil => exact absurd held nonempty
    | cons first rest =>
      have isText : IsUtf8 (first :: rest) := held ▸ isUtf8_toByteArray body
      simpa [isCharBoundary] using isText.head
  have closes : isCharBoundary (bytesOf header ++ bytesOf body)
    ((bytesOf header).length + (bytesOf body).length) = true := by
    simp [isCharBoundary]
  rw [textRange, bytesOf_append, opens, closes, Nat.add_sub_cancel_left, drop_left, take_length]
  simp

/-- The message of an uncovered piece shows that piece and nothing else. -/
theorem originalMessage_ok (writes : ∀ record, ∃ text, library.assemblyJson record = .ok text)
    (of : Piece.Of utf8Code (payloads entry.1) entry.2) :
    ∃ message, originalMessage library entry = .ok message ∧ message.zone = .evidence ∧
      message.Faithful library.blake3 payloads ∧
      ∀ key position, message.Shows key position ↔ entry.1 = key ∧ entry.2.Covers position := by
  obtain ⟨body, decodes, encodes⟩ := fromUtf8_of_isUtf8 of.word
  have bodyBytes : bytesOf body = entry.2.2 := encodes
  let span : OriginalSourceSpan := ⟨entry.1.eventId, entry.1.payloadDigest, entry.2.1,
    entry.2.finish, library.blake3 entry.2.2⟩
  let header := originalHeader entry.1 entry.2.1 entry.2.finish
  let original : VisibleOriginal :=
    ⟨span, (bytesOf header).length, (bytesOf header).length + entry.2.2.length⟩
  obtain ⟨text, written⟩ := writes (.span span)
  obtain ⟨id, created⟩ := exists_originalId (library.blake3 (bytesOf text))
  have produced : originalMessage library entry = .ok ⟨id, .evidence, .user, header ++ body,
    [original], [], none⟩ := by
    simp [originalMessage, decodes, AssemblyLibraries.digest, AssemblyLibraries.assemblyString,
      written, ok_bind, created, span, header, original]
  have length : span.finish - span.start = entry.2.2.length := Nat.add_sub_cancel_left _ _
  have nonempty : entry.2.2.length ≠ 0 := fun none => of.nonempty (length_eq_zero_iff.mp none)
  have range : textRange (header ++ body) original.textStart original.textEnd = some entry.2.2 := by
    have range := textRange_append header (bodyBytes ▸ of.nonempty)
    rwa [bodyBytes] at range
  refine ⟨_, produced, rfl, ⟨original, entry.2.2, rfl, range, ⟨?_, length, rfl, of.word⟩, ?_⟩, ?_⟩
  · change span.start < span.finish
    omega
  · have placed := of.placed
    rw [← length] at placed
    exact placed
  · intro key position
    simp [OutgoingMessage.Shows, OriginalSourceSpan.Holds, original, span, OriginalSourceSpan.key,
      Piece.Covers]

/-! ### The rendering -/

theorem blockMessage_zone {block : ContextBlock} (rendered : blockMessage library block =
    .ok message) : message.zone ≠ .evidence := by
  obtain ⟨_, _, rendered⟩ := bind_ok rendered
  cases rendered
  unfold dataMessage zoneOf
  dsimp only
  split <;> decide

theorem evidenceMap_zone {messages : List OutgoingMessage}
    (rendered : evidenceMap library evidence = .ok messages) (member : message ∈ messages) :
    message.zone ≠ .evidence := by
  unfold evidenceMap at rendered
  split at rendered
  · cases rendered
    cases member
  · obtain ⟨_, _, rendered⟩ := bind_ok rendered
    obtain ⟨_, _, rendered⟩ := bind_ok rendered
    cases rendered
    rw [mem_singleton.mp member]
    exact OutgoingZone.noConfusion

section

variable {pack : ContextPack} {shown : List (OriginalSourceSpan × List UInt8)}

/-- The rendered memory is made of plain messages and of one for every uncovered piece. -/
theorem renderMemory_ok (writes : ∀ record, ∃ text, library.assemblyJson record = .ok text)
    (collected : (quoted pack.evidence).foldlM (insertOriginal library.blake3) ∅ = .ok inventory)
    (of : InventoryOf payloads (quoted pack.evidence) inventory)
    (visibleOf : InventoryOf payloads shown visible) :
    ∃ plain originals, renderMemory library pack visible =
        .ok (plain ++ originals, (uncoveredPositions inventory visible).length) ∧
          (∀ message ∈ plain, message.zone ≠ .evidence) ∧
      (uncoveredOriginals inventory visible).mapM (originalMessage library) = .ok originals := by
  have writesText : ∀ record, ∃ text, library.assemblyString record = .ok text := by
    intro record
    obtain ⟨text, written⟩ := writes record
    exact ⟨text, by rw [AssemblyLibraries.assemblyString, written]⟩
  obtain ⟨blocks, blocksRendered⟩ : ∃ blocks, pack.sections.iter.mapM
    (blockMessage library) = .ok blocks := by
    refine exists_mapM_ok fun block _ => ?_
    obtain ⟨text, written⟩ := writesText (.blockWithoutCommit block)
    exact ⟨_, by rw [blockMessage, written, ok_bind]⟩
  obtain ⟨map, mapRendered⟩ : ∃ map, evidenceMap library pack.evidence = .ok map := by
    unfold evidenceMap
    split
    · exact ⟨_, rfl⟩
    · obtain ⟨text, written⟩ := writesText (.evidenceWithoutExcerpts pack.evidence)
      exact ⟨_, by rw [written]; rfl⟩
  obtain ⟨originals, originalsRendered⟩ : ∃ originals,
      (uncoveredOriginals inventory visible).mapM (originalMessage library) = .ok originals := by
    refine exists_mapM_ok fun entry member => ?_
    obtain ⟨message, rendered, _⟩ :=
      originalMessage_ok writes (mem_uncoveredOriginals_of of visibleOf member)
    exact ⟨message, rendered⟩
  refine ⟨blocks ++ map, originals, ?_, ?_, originalsRendered⟩
  · rw [renderMemory, blocksRendered, ok_bind, mapRendered, ok_bind, collected, ok_bind]
    dsimp only
    rw [originalsRendered, ok_bind, length_uncoveredPositions]
  · intro message member
    rcases mem_append.mp member with inBlocks | inMap
    · obtain ⟨block, _, rendered⟩ := exists_item_of_mapM_ok blocksRendered inBlocks
      exact blockMessage_zone rendered
    · exact evidenceMap_zone mapRendered inMap

end

/-- Original evidence is rendered exactly once. When the request's messages and the pack's
evidence are valid and show stretches of the same payloads, rendering succeeds; each evidence
message shows one stretch of a payload, a position is shown exactly if evidence quotes it and the
request does not show it, no two messages show the same position, and the number of added bytes
is the number of positions that were missing. -/
theorem originals_rendered_once (library : AssemblyLibraries)
    (writes : ∀ record, ∃ text, library.assemblyJson record = .ok text)
    (payloads : OriginalKey → List UInt8) (base : OutgoingBase) (visible : OriginalInventory)
    (pack : ContextPack)
    (validBase : ∀ message ∈ base.messages, validateMessage library.blake3 message = .ok ())
    (validEvidence : ∀ item ∈ pack.evidence, item.validate library.blake3 = .ok ())
    (verifiedBase : ∀ entry ∈ base.messages.flatMap shown, Verified payloads entry)
    (verifiedEvidence : ∀ entry ∈ quoted pack.evidence, Verified payloads entry)
    (built : (base.messages.flatMap shown).foldlM (insertOriginal library.blake3) ∅ = .ok visible) :
    ∃ messages added, renderMemory library pack visible = .ok (messages, added) ∧
      (∀ message ∈ messages, message.zone = .evidence → message.Faithful library.blake3 payloads) ∧
      (∀ key position,
        (∃ message ∈ messages, message.zone = .evidence ∧ message.Shows key position) ↔
          (∃ entry ∈ quoted pack.evidence, entry.1.Holds key position) ∧
            ¬ ∃ message ∈ base.messages, message.Shows key position) ∧
      (messages.filter fun message => message.zone == .evidence).Pairwise
        (fun left right => ∀ key position, left.Shows key position → ¬ right.Shows key position) ∧
      ∃ missing : Finset (OriginalKey × Nat), added = missing.card ∧
        ∀ key position, (key, position) ∈ missing ↔
          (∃ entry ∈ quoted pack.evidence, entry.1.Holds key position) ∧
            ¬ ∃ message ∈ base.messages, message.Shows key position := by
  have shownExact : ∀ entry ∈ base.messages.flatMap shown, Exact library.blake3 entry := by
    intro entry member
    obtain ⟨message, listed, shown⟩ := mem_flatMap.mp member
    exact shown_exact (validBase message listed) shown
  obtain ⟨again, rebuilt, visibleOf⟩ := exists_inventory shownExact verifiedBase
  cases built.symm.trans rebuilt
  obtain ⟨inventory, collected, of⟩ := exists_inventory
    (fun entry member => quoted_exact validEvidence member) verifiedEvidence
  obtain ⟨plain, originals, rendered, quiet,
    showing⟩ := renderMemory_ok writes collected of visibleOf
  -- the messages of the request and the entries built from them show the same positions
  have visibleIff : ∀ key position, (∃ entry ∈ base.messages.flatMap shown,
    entry.1.Holds key position) ↔
        ∃ message ∈ base.messages, message.Shows key position := by
    intro key position
    simp only [mem_flatMap, shown, mem_map, OutgoingMessage.Shows]
    constructor
    · rintro ⟨_, ⟨message, listed, original, shown, rfl⟩, holds⟩
      exact ⟨message, listed, original, shown, holds⟩
    · rintro ⟨message, listed, original, shown, holds⟩
      exact ⟨_, ⟨message, listed, original, shown, rfl⟩, holds⟩
  have each : ∀ entry ∈ uncoveredOriginals inventory visible, ∀ message,
      originalMessage library entry = .ok message → message.zone = .evidence ∧
        message.Faithful library.blake3 payloads ∧
        ∀ key position, message.Shows key position ↔ entry.1 = key ∧ entry.2.Covers position := by
    intro entry member message produced
    obtain ⟨again, reproduced, facts⟩ :=
      originalMessage_ok writes (mem_uncoveredOriginals_of of visibleOf member)
    cases produced.symm.trans reproduced
    exact facts
  have isOriginal : ∀ message ∈ plain ++ originals, message.zone = .evidence →
    message ∈ originals :=
    fun message member evidence =>
      (mem_append.mp member).resolve_left fun inPlain => quiet message inPlain evidence
  refine ⟨_, _, rendered, ?_, ?_, ?_, (uncoveredPositions inventory visible).toFinset, ?_, ?_⟩
  · intro message member evidence
    obtain ⟨entry, listed, produced⟩ :=
      exists_item_of_mapM_ok showing (isOriginal message member evidence)
    exact (each entry listed message produced).2.1
  · intro key position
    rw [← visibleIff, ← covered_uncoveredOriginals of visibleOf]
    constructor
    · rintro ⟨message, member, evidence, shows⟩
      obtain ⟨entry, listed, produced⟩ :=
        exists_item_of_mapM_ok showing (isOriginal message member evidence)
      obtain ⟨rfl, covers⟩ := ((each entry listed message produced).2.2 key position).mp shows
      exact ⟨entry.2, listed, covers⟩
    · rintro ⟨piece, listed, covers⟩
      obtain ⟨message, member, produced⟩ := exists_value_of_mapM_ok showing listed
      obtain ⟨evidence, _, shows⟩ := each _ listed message produced
      exact ⟨message, mem_append_right _ member, evidence, (shows key position).mpr ⟨rfl, covers⟩⟩
  · have none : plain.filter (fun message => message.zone == .evidence) = [] :=
      filter_eq_nil_iff.mpr fun message member evidence =>
        quiet message member (beq_iff_eq.mp evidence)
    rw [filter_append, none, nil_append]
    refine List.Pairwise.filter _ (pairwise_of_mapM_ok showing
      (uncoveredOriginals_ordered of visibleOf) ?_)
    intro first firstListed second secondListed left right leftProduced rightProduced ordered
      key position shownLeft shownRight
    obtain ⟨leftKey, leftCovers⟩ :=
      ((each first firstListed left leftProduced).2.2 key position).mp shownLeft
    obtain ⟨rightKey, rightCovers⟩ :=
      ((each second secondListed right rightProduced).2.2 key position).mp shownRight
    have before := ordered (leftKey.trans rightKey.symm)
    unfold Piece.Covers at leftCovers rightCovers
    omega
  · exact (toFinset_card_of_nodup (uncoveredPositions_nodup of visibleOf)).symm
  · intro key position
    rw [mem_toFinset, mem_uncoveredPositions, covered_uncoveredOriginals of visibleOf, visibleIff]

def accentKey : OriginalKey where
  eventId := .numbered 1
  payloadDigest :=
    #v[0x69, 0xdc, 0x65, 0xad, 0x8b, 0xba, 0xfc, 0x3d, 0xc8, 0xa0, 0x51, 0xfe, 0x44, 0xde,
      0x8f, 0xb4, 0x9b, 0x96, 0xbc, 0x44, 0x47, 0x0e, 0x06, 0xaa, 0x6c, 0xba, 0xdd, 0x7b, 0xfc, 0x5d, 0x39, 0x85]

def accentDigest (bytes : List UInt8) : Digest :=
  if bytes = bytesOf "n" then
    #v[0xa7, 0x4e, 0x0b, 0x14, 0x33, 0xb5, 0x4b, 0x7a, 0x33, 0xbf, 0xe5, 0x8e, 0x60, 0x09,
      0x32, 0x39, 0xcb, 0xcf, 0xca, 0x8c, 0x4b, 0xeb, 0xcb, 0xf1, 0x1b, 0x70, 0x69, 0x70, 0xb8, 0xda, 0x2f, 0xbb]
  else if bytes = bytesOf "né" then
    #v[0x6a, 0x81, 0x63, 0x52, 0xe6, 0x60, 0xc5, 0x08, 0x23, 0xc0, 0xb3, 0x52, 0xd6, 0x29,
      0x12, 0x2f, 0x29, 0x7b, 0x7a, 0xda, 0x3e, 0xc1, 0xcd, 0xf1, 0x49, 0x4d, 0x2b, 0x52, 0xdf, 0x16, 0x42, 0x70]
  else if bytes = bytesOf "é" then
    #v[0x46, 0xd0, 0xec, 0x74, 0x2c, 0xea, 0xad, 0x14, 0x9f, 0x9a, 0x3d, 0x10, 0x9d, 0x1b,
      0xd9, 0xe9, 0xec, 0xe7, 0x85, 0x81, 0x61, 0xb4, 0x3c, 0xf0, 0x00, 0x89, 0x06, 0x47, 0x84, 0x18, 0xe8, 0x07]
  else
    #v[0x9b, 0x49, 0x81, 0x16, 0x96, 0xe7, 0x55, 0x8b, 0x52, 0x84, 0x72, 0x15, 0x00, 0x93,
      0xc8, 0xec, 0xb1, 0x4e, 0x1c, 0xe4, 0x20, 0x9e, 0xed, 0x8b, 0xcb, 0x20, 0xcc, 0xcd, 0xd1, 0x81, 0xaf, 0x94]

def accentSpan (start finish : Nat) (text : String) : OriginalSourceSpan :=
  ⟨accentKey.eventId, accentKey.payloadDigest, start, finish, accentDigest (bytesOf text)⟩

/-- The two records the rendering writes: the evidence map and the span left to show. -/
def accentJson : AssemblyRecord → Except String String
  | .evidenceWithoutExcerpts _ => .ok
      ("[\x7b\"claim_ids\":[],\"id\":\"quote\",\"lineage\":[],\"original_span\":\x7b\"" ++
        "end\":3,\"event_id\":\"00000000-0000-0000-0000-000000000001\",\"payload_digest" ++
        "\":\"69dc65ad8bbafc3dc8a051fe44de8fb49b96bc44470e06aa6cbadd7bfc5d3985\",\"span" ++
        "_digest\":\"6a816352e660c50823c0b352d629122f297b7ada3ec1cdf1494d2b52df164270\"" ++
        ",\"start\":0\x7d,\"primary\":true,\"provenance_family\":\"user\",\"selector\":" ++
        "\x7b\"end\":3,\"kind\":\"text_bytes\",\"start\":0\x7d,\"source\":\"turn\",\"so" ++
        "urce_class\":\"user_statement\",\"taints\":[],\"trust_micros\":0\x7d]")
  | _ => .ok ("\x7b\"event_id\":\"00000000-0000-0000-0000-000000000001\",\"payload_digest\":" ++
        "\"69dc65ad8bbafc3dc8a051fe44de8fb49b96bc44470e06aa6cbadd7bfc5d3985\",\"start\"" ++
        ":1,\"end\":3,\"span_digest\":\"46d0ec742ceaad149f9a3d109d1bd9e9ece7858161b43cf" ++
          "0008906478418e807\"\x7d")

def accentLibrary : AssemblyLibraries :=
  ⟨⟨deskLibraries.toJson, deskLibraries.encodeToVec, accentDigest, deskLibraries.keyedHash⟩,
    accentJson⟩

def accentBase : OutgoingBase where
  control := []
  working := []
  hot := []
  current := [⟨.named "turn", .currentTurn, .user, "n", [⟨accentSpan 0 1 "n", 0, 1⟩], [], none⟩]

def accentQuote : PackEvidence where
  id := .named "quote"
  source := .named "turn"
  selector := .textBytes 0 3
  excerpt := some "né"
  claimIds := ∅
  provenanceFamily := "user"
  primary := true
  trustMicros := 0
  sourceClass := .userStatement
  taints := []
  lineage := []
  originalSpan := some (accentSpan 0 3 "né")

def accentPack : ContextPack :=
  assemblePack (deskRequest []) [] [accentQuote] [] 0 0 none {} 0

def accentPayloads (key : OriginalKey) : List UInt8 :=
  if key = accentKey then bytesOf "née" else []

/-- The accented letter is left to show. -/
theorem originals_rendered_once_accent : ∃ visible messages added,
      renderMemory accentLibrary accentPack visible = .ok (messages, added) ∧
      (∃ message ∈ messages, message.zone = .evidence ∧ message.Shows accentKey 2) ∧
      ∀ message ∈ messages, message.zone = .evidence →
        message.Faithful accentLibrary.blake3 accentPayloads := by
  have shown : accentBase.messages.flatMap shown = [(accentSpan 0 1 "n",
    bytesOf "n")] := by decide +kernel
  have quote : quoted accentPack.evidence = [(accentSpan 0 3 "né", bytesOf "né")] := by
    decide +kernel
  have built : yields ((accentBase.messages.flatMap OutgoingMessage.shown).foldlM
      (insertOriginal accentLibrary.blake3) ∅) (fun _ => true) = true := by decide +kernel
  obtain ⟨visible, built, _⟩ := yields_iff.mp built
  obtain ⟨messages, added, rendered, faithful, covers, _⟩ :=
    originals_rendered_once accentLibrary (fun record => by cases record <;> exact ⟨_, rfl⟩)
      accentPayloads accentBase visible accentPack
      (by
        intro message member
        rw [mem_singleton.mp member]
        decide +kernel)
      (by
        intro item member
        rw [show accentPack.evidence = [accentQuote] by decide +kernel] at member
        rw [mem_singleton.mp member]
        decide +kernel)
      (by
        intro entry member
        rw [shown] at member
        rw [mem_singleton.mp member]
        unfold Verified
        decide +kernel)
      (by
        intro entry member
        rw [quote] at member
        rw [mem_singleton.mp member]
        unfold Verified
        decide +kernel)
      built
  refine ⟨visible, messages, added, rendered, (covers accentKey 2).mpr ⟨?_, ?_⟩, faithful⟩
  · rw [quote]
    exact ⟨_, mem_singleton_self _, rfl, by decide, by decide⟩
  · rintro ⟨message, member, original, listed, _, _, inside⟩
    rw [mem_singleton.mp member] at listed
    rw [mem_singleton.mp listed] at inside
    exact absurd inside (by decide)

end ContextDb.Context
