import ContextDb.Lib.Collections

/-! UTF-8 is self-synchronising. The first byte of a character tells itself from the others,
so text cut where a character of some other text begins falls apart into texts, and what
follows a text inside a text is a text. -/

set_option autoImplicit false

namespace ContextDb.Lib

open Std List

/-- A set of words that can be cut wherever a word may begin. -/
structure SelfSynchronizing (Symbol : Type) where
  word : List Symbol → Prop
  begins : Symbol → Prop
  append : ∀ {left right}, word left → word right → word (left ++ right)
  head : ∀ {first rest}, word (first :: rest) → begins first
  cut : ∀ {left first rest}, word (left ++ first :: rest) → begins first → word left ∧
    word (first :: rest)
  cancel : ∀ {left right}, word left → word (left ++ right) → word right

def IsUtf8 (bytes : List UInt8) : Prop :=
  ∃ characters : List Char, bytes = characters.flatMap String.utf8EncodeChar

variable {left right : List UInt8}

theorem IsUtf8.append (leftText : IsUtf8 left) (rightText : IsUtf8 right) :
    IsUtf8 (left ++ right) := by
  obtain ⟨before, rfl⟩ := leftText
  obtain ⟨after, rfl⟩ := rightText
  exact ⟨before ++ after, by rw [flatMap_append]⟩

variable {bytes : List UInt8}

theorem isUtf8_iff_isValidUTF8 : IsUtf8 bytes ↔ bytes.toByteArray.IsValidUTF8 := by
  constructor
  · rintro ⟨characters, rfl⟩
    exact ⟨characters, rfl⟩
  · rintro ⟨characters, same⟩
    refine ⟨characters, ?_⟩
    have data := congrArg (·.data.toList) same
    simpa [utf8Encode] using data

theorem IsUtf8.head {first : UInt8} {rest : List UInt8} (text : IsUtf8 (first :: rest)) :
    first.IsUTF8FirstByte := by
  obtain ⟨characters, same⟩ := text
  cases characters with
  | nil => cases same
  | cons character later =>
    rw [flatMap_cons] at same
    have encoded := @UInt8.isUTF8FirstByte_getElem_utf8EncodeChar character 0
      (length_pos_iff.mpr String.utf8EncodeChar_ne_nil)
    cases bytes : String.utf8EncodeChar character with
    | nil => exact absurd bytes String.utf8EncodeChar_ne_nil
    | cons start others =>
      rw [bytes] at same
      cases same
      have begins := encoded.mpr rfl
      simpa [bytes] using begins

/-- A text may be cut before any byte that begins a character. -/
theorem IsUtf8.cut {left rest : List UInt8} {first : UInt8} (text : IsUtf8 (left ++ first :: rest))
    (begins : first.IsUTF8FirstByte) : IsUtf8 left ∧ IsUtf8 (first :: rest) := by
  obtain ⟨characters, same⟩ := text
  induction characters generalizing left with
  | nil => simp at same
  | cons character later ih =>
    rw [flatMap_cons] at same
    rcases append_eq_append_iff.mp same with ⟨inside, encoded, tail⟩ | ⟨beyond, shorter, tail⟩
    · -- The cut is inside the character, so at its first byte.
      cases inside with
      | nil =>
        rw [append_nil] at encoded
        rw [nil_append] at tail
        refine ⟨⟨[character], by rw [← encoded]; simp⟩, ⟨later, tail.symm ▸ rfl⟩⟩
      | cons start others =>
        cases tail
        have position : left.length < (String.utf8EncodeChar character).length := by
          rw [encoded, length_append, length_cons]
          omega
        have byte : (String.utf8EncodeChar character)[left.length] = first := by
          simp [encoded]
        have zero := (@UInt8.isUTF8FirstByte_getElem_utf8EncodeChar character left.length position).mp (byte ▸ begins)
        have none : left = [] := length_eq_zero_iff.mp zero
        subst none
        refine ⟨⟨[], rfl⟩, ⟨character :: later, ?_⟩⟩
        rw [flatMap_cons, encoded]
        rfl
    · obtain ⟨prefixText, restText⟩ := ih tail.symm
      refine ⟨?_, restText⟩
      rw [shorter]
      exact IsUtf8.append ⟨[character], by simp⟩ prefixText

theorem IsUtf8.cancel (leftText : IsUtf8 left) (text : IsUtf8 (left ++ right)) : IsUtf8 right := by
  obtain ⟨characters, rfl⟩ := leftText
  induction characters with
  | nil => exact text
  | cons character later ih =>
    refine ih ?_
    rw [flatMap_cons, append_assoc, isUtf8_iff_isValidUTF8, toByteArray_append,
      ← utf8Encode_singleton,
      ByteArray.isValidUTF8_utf8Encode_singleton_append_iff] at text
    exact isUtf8_iff_isValidUTF8.mpr text

theorem isUtf8_toByteArray (text : String) : IsUtf8 text.toByteArray.data.toList := by
  obtain ⟨characters, same⟩ := text.isValidUTF8
  refine ⟨characters, ?_⟩
  rw [same]
  simp [utf8Encode]

def fromUtf8 (bytes : List UInt8) : Option String :=
  String.fromUTF8? bytes.toByteArray

theorem fromUtf8_of_isUtf8 (isText : IsUtf8 bytes) :
    ∃ text, fromUtf8 bytes = some text ∧ text.toByteArray.data.toList = bytes := by
  have valid := isUtf8_iff_isValidUTF8.mp isText
  refine ⟨String.fromUTF8 bytes.toByteArray valid, ?_, ?_⟩
  · unfold fromUtf8 String.fromUTF8?
    simp [valid]
  · simp [String.fromUTF8]

def utf8Code : SelfSynchronizing UInt8 where
  word := IsUtf8
  begins := UInt8.IsUTF8FirstByte
  append := IsUtf8.append
  head := IsUtf8.head
  cut := IsUtf8.cut
  cancel := IsUtf8.cancel

/-! Pieces of one payload. Overlapping and touching pieces merge into one, and a covered
stretch is cut out of a piece. Pieces of a self-synchronising code stay words of it under
both. -/

abbrev Piece (Symbol : Type) := Nat × List Symbol

variable {Symbol : Type} {piece : Piece Symbol} {position : Nat}
    {split : Piece Symbol → List (Piece Symbol)}

namespace Piece

def finish (piece : Piece Symbol) : Nat :=
  piece.1 + piece.2.length

def Covers (piece : Piece Symbol) (position : Nat) : Prop :=
  piece.1 ≤ position ∧ position < piece.finish

def CoveredBy (pieces : List (Piece Symbol)) (position : Nat) : Prop :=
  ∃ piece ∈ pieces, piece.Covers position

@[simp] theorem coveredBy_nil (position : Nat) : ¬ CoveredBy
    ([] : List (Piece Symbol)) position := by
  simp [CoveredBy]

variable {pieces : List (Piece Symbol)}

@[simp] theorem coveredBy_cons : CoveredBy (piece :: pieces) position ↔ piece.Covers position ∨
    CoveredBy pieces position := by
  simp [CoveredBy]

@[simp] theorem coveredBy_append {left right : List (Piece Symbol)} :
    CoveredBy (left ++ right) position ↔ CoveredBy left position ∨ CoveredBy right position := by
  simp [CoveredBy, or_and_right, exists_or]

/-- Two neighbouring pieces as one, if they hold the same where they overlap. -/
def join [DecidableEq Symbol] (prior next : Piece Symbol) : Option (Piece Symbol) :=
  let offset := next.1 - prior.1
  let overlap := min next.2.length (prior.2.length - offset)
  if (prior.2.drop offset).take overlap = next.2.take overlap then
    some (prior.1, prior.2 ++ next.2.drop overlap)
  else none

def mergeFrom [DecidableEq Symbol] : Piece Symbol → List (Piece Symbol) →
    Option (List (Piece Symbol))
  | prior, [] => some [prior]
  | prior, next :: rest =>
    if next.1 ≤ prior.finish then
      match join prior next with
      | some joined => mergeFrom joined rest
      | none => none
    else (mergeFrom next rest).map (prior :: ·)

def merge [DecidableEq Symbol] : List (Piece Symbol) → Option (List (Piece Symbol))
  | [] => some []
  | first :: rest => mergeFrom first rest

def insert [DecidableEq Symbol] (pieces : List (Piece Symbol)) (piece : Piece Symbol) :
    Option (List (Piece Symbol)) :=
  merge (sortBy (compareOn (·.1)) (pieces ++ [piece]))

def subtract (covered part : Piece Symbol) : List (Piece Symbol) :=
  if covered.finish ≤ part.1 ∨ part.finish ≤ covered.1 then [part]
  else
    (if part.1 < covered.1 then [(part.1, part.2.take (covered.1 - part.1))] else []) ++
      (if covered.finish < part.finish then
        [(covered.finish, part.2.drop (covered.finish - part.1))] else [])

def subtractAll (covered parts : List (Piece Symbol)) : List (Piece Symbol) :=
  covered.foldl (fun parts covered => parts.flatMap (subtract covered)) parts

/-- A non-empty word of the code at its place in the payload. -/
structure Of (code : SelfSynchronizing Symbol) (payload : List Symbol) (piece : Piece Symbol) :
    Prop where
  nonempty : piece.2 ≠ []
  placed : piece.2 = (payload.drop piece.1).take piece.2.length
  word : code.word piece.2

variable {code : SelfSynchronizing Symbol} {payload : List Symbol}
    {piece prior next part covered : Piece Symbol}

theorem Of.length_pos (of : Of code payload piece) : 0 < piece.2.length :=
  length_pos_iff.mpr of.nonempty

theorem Of.getElem? (of : Of code payload piece) {index : Nat} (inside : index < piece.2.length) :
    piece.2[index]? = payload[piece.1 + index]? := by
  rw [of.placed, getElem?_take_of_lt inside, getElem?_drop]

/-- Where another piece starts inside this one, both halves are words: the other piece's start is
a boundary of the code. -/
theorem Of.word_cut (of : Of code payload piece) (other : Of code payload next)
    (after : piece.1 ≤ next.1) (inside : next.1 < piece.finish) :
    code.word (piece.2.take (next.1 - piece.1)) ∧ code.word (piece.2.drop (next.1 - piece.1)) := by
  have index : next.1 - piece.1 < piece.2.length := by
    unfold finish at inside
    omega
  have same : piece.2[next.1 - piece.1]? = next.2[0]? := by
    rw [of.getElem? index, other.getElem? other.length_pos]
    congr 1
    omega
  cases held : next.2 with
  | nil => exact absurd held other.nonempty
  | cons first rest =>
    have begins : code.begins first := code.head (held ▸ other.word)
    rw [held, getElem?_cons_zero] at same
    have split : piece.2 = piece.2.take (next.1 - piece.1) ++
      first :: piece.2.drop (next.1 - piece.1 + 1) := by
      obtain ⟨_, found⟩ := List.getElem?_eq_some_iff.mp same
      rw [← found, ← List.drop_eq_getElem_cons index, List.take_append_drop]
    have parts := code.cut (split ▸ of.word) begins
    refine ⟨parts.1, ?_⟩
    obtain ⟨_, found⟩ := List.getElem?_eq_some_iff.mp same
    rw [List.drop_eq_getElem_cons index, found]
    exact parts.2

theorem placed_of_getElem? {start : Nat} {symbols : List Symbol}
    (same : ∀ index < symbols.length, symbols[index]? = payload[start + index]?) :
    symbols = (payload.drop start).take symbols.length := by
  refine ext_getElem? fun index => ?_
  by_cases inside : index < symbols.length
  · rw [getElem?_take_of_lt inside, getElem?_drop]
    exact same index inside
  · rw [getElem?_eq_none (by omega), getElem?_eq_none]
    rw [length_take]
    omega

theorem Of.stretch (of : Of code payload piece) (skipped count : Nat)
    (inside : skipped + count ≤ piece.2.length) (positive : 0 < count)
    (word : code.word ((piece.2.drop skipped).take count)) :
    Of code payload (piece.1 + skipped, (piece.2.drop skipped).take count) := by
  have length : ((piece.2.drop skipped).take count).length = count := by
    rw [length_take, length_drop]
    omega
  refine ⟨fun none => ?_, placed_of_getElem? fun index below => ?_, word⟩
  · rw [show (piece.2.drop skipped).take count = [] from none] at length
    exact absurd length (Nat.ne_of_lt positive)
  change ((piece.2.drop skipped).take count)[index]? = _
  rw [length] at below
  rw [getElem?_take_of_lt below, getElem?_drop, of.getElem? (by omega), Nat.add_assoc]

/-- Two pieces of one payload that touch join into one; their overlap agrees because both are cut
from the payload. -/
theorem Of.join [DecidableEq Symbol] (of : Of code payload prior) (other : Of code payload next)
    (after : prior.1 ≤ next.1) (touching : next.1 ≤ prior.finish) :
    ∃ joined, prior.join next = some joined ∧ Of code payload joined ∧ joined.1 = prior.1 ∧
      joined.finish = max prior.finish next.finish := by
  unfold finish at touching
  have agree : (prior.2.drop (next.1 - prior.1)).take (min next.2.length
    (prior.2.length - (next.1 - prior.1))) =
        next.2.take (min next.2.length (prior.2.length - (next.1 - prior.1))) := by
    refine ext_getElem? fun index => ?_
    by_cases inside : index < min next.2.length (prior.2.length - (next.1 - prior.1))
    · rw [getElem?_take_of_lt inside, getElem?_take_of_lt inside, getElem?_drop,
        of.getElem? (by omega), other.getElem? (by omega)]
      congr 1
      omega
    · rw [getElem?_take_eq_none (by omega), getElem?_take_eq_none (by omega)]
  refine ⟨_, if_pos agree, ?_, rfl, ?_⟩
  · by_cases beyond : prior.finish < next.finish
    · -- The overlap is the end of the first piece and the start of the second.
      unfold finish at beyond
      have overlap : min next.2.length (prior.2.length - (next.1 - prior.1)) = prior.2.length -
        (next.1 - prior.1) := by omega
      have tail : prior.2.drop (next.1 - prior.1) = next.2.take
        (prior.2.length - (next.1 - prior.1)) := by
        rw [overlap, take_of_length_le (by rw [length_drop])] at agree
        exact agree
      have whole : prior.2 ++ next.2.drop (min next.2.length
        (prior.2.length - (next.1 - prior.1))) =
          prior.2.take (next.1 - prior.1) ++ next.2 := by
        have split : prior.2 = prior.2.take (next.1 - prior.1) ++
          next.2.take (prior.2.length - (next.1 - prior.1)) := by
          rw [← tail, take_append_drop]
        calc prior.2 ++ next.2.drop (min next.2.length (prior.2.length - (next.1 - prior.1)))
            = (prior.2.take (next.1 - prior.1) ++ next.2.take
              (prior.2.length - (next.1 - prior.1))) ++
                next.2.drop (prior.2.length - (next.1 - prior.1)) := by rw [overlap, ← split]
          _ = prior.2.take (next.1 - prior.1) ++ next.2 := by
            rw [append_assoc, take_append_drop]
      have word : code.word (prior.2.take (next.1 - prior.1)) := by
        by_cases inside : next.1 < prior.1 + prior.2.length
        · exact (of.word_cut other after inside).1
        · rw [take_of_length_le (by omega)]
          exact of.word
      refine ⟨by simp [of.nonempty], placed_of_getElem? fun index below => ?_, ?_⟩
      · rw [whole] at below ⊢
        have front : (prior.2.take (next.1 - prior.1)).length = next.1 - prior.1 := by
          rw [length_take]
          omega
        rw [length_append, front] at below
        by_cases early : index < next.1 - prior.1
        · rw [getElem?_append_left (by omega), getElem?_take_of_lt early, of.getElem? (by omega)]
        · rw [getElem?_append_right (by omega), front, other.getElem? (by omega)]
          congr 1
          omega
      · rw [whole]
        exact code.append word other.word
    · unfold finish at beyond
      have overlap : min next.2.length (prior.2.length - (next.1 - prior.1)) = next.2.length := by
        omega
      rw [overlap, drop_length, append_nil]
      exact of
  · simp only [finish, length_append, length_drop]
    omega

theorem covers_of_finish_eq_max {joined : Piece Symbol} (start : joined.1 = prior.1)
    (reach : joined.finish = max prior.finish next.finish) (after : prior.1 ≤ next.1)
    (touching : next.1 ≤ prior.finish) (position : Nat) :
    joined.Covers position ↔ prior.Covers position ∨ next.Covers position := by
  unfold Covers
  rw [start, reach]
  have lower : next.1 ≤ next.finish := Nat.le_add_right _ _
  omega

structure Merged (code : SelfSynchronizing Symbol) (payload : List Symbol)
    (pieces : List (Piece Symbol)) : Prop where
  each : ∀ piece ∈ pieces, Of code payload piece
  apart : pieces.Pairwise fun left right => left.finish < right.1

/-- Merging sorted pieces of one payload never fails. The induction is on the pieces still to
come, with the joined piece so far as the prior one. -/
theorem mergeFrom_ok [DecidableEq Symbol] {rest : List (Piece Symbol)}
    (of : Of code payload prior) (others : ∀ piece ∈ rest, Of code payload piece)
    (sorted : rest.Pairwise fun left right => left.1 ≤ right.1)
    (after : ∀ piece ∈ rest, prior.1 ≤ piece.1) :
    ∃ merged, mergeFrom prior rest = some merged ∧ Merged code payload merged ∧
      (∀ piece ∈ merged, prior.1 ≤ piece.1) ∧ ∀ position, CoveredBy merged position ↔
        prior.Covers position ∨ CoveredBy rest position := by
  induction rest generalizing prior with
  | nil => exact ⟨[prior], rfl, ⟨by simpa using of, by simp⟩, by simp, fun _ => by simp⟩
  | cons next rest ih =>
    obtain ⟨nextFirst, sortedRest⟩ := pairwise_cons.mp sorted
    have otherRest := fun piece member => others piece (mem_cons_of_mem _ member)
    have nextOf := others next mem_cons_self
    have nextAfter := after next mem_cons_self
    rw [mergeFrom]
    split
    · next touching =>
      obtain ⟨joined, joins, joinedOf, start, reach⟩ := of.join nextOf nextAfter touching
      obtain ⟨merged, merges, held, bound, covers⟩ := ih joinedOf otherRest sortedRest
        fun piece member => start ▸ after piece (mem_cons_of_mem _ member)
      refine ⟨merged, by rw [joins]; exact merges, held,
        fun piece member => start ▸ bound piece member, fun position => ?_⟩
      rw [covers, covers_of_finish_eq_max start reach nextAfter touching, coveredBy_cons, or_assoc]
    · next gap =>
      obtain ⟨merged, merges, held, bound, covers⟩ := ih nextOf otherRest sortedRest nextFirst
      refine ⟨prior :: merged, by rw [merges]; rfl, ⟨?_, ?_⟩, ?_, fun position => ?_⟩
      · exact forall_mem_cons.mpr ⟨of, held.each⟩
      · refine pairwise_cons.mpr ⟨fun piece member => ?_, held.apart⟩
        have later := bound piece member
        omega
      · refine forall_mem_cons.mpr ⟨Nat.le_refl _, fun piece member => ?_⟩
        exact nextAfter.trans (bound piece member)
      · rw [coveredBy_cons, covers, coveredBy_cons]

/-- Inserting a piece covers exactly its positions in addition. -/
theorem insert_ok [DecidableEq Symbol] (merged : Merged code payload pieces)
    (of : Of code payload piece) :
    ∃ result, insert pieces piece = some result ∧ Merged code payload result ∧
      ∀ position, CoveredBy result position ↔ CoveredBy pieces position ∨
        piece.Covers position := by
  have all : ∀ held ∈ sortBy (compareOn (·.1)) (pieces ++ [piece]), Of code payload held := by
    intro held member
    rcases mem_append.mp (mem_sortBy.mp member) with before | last
    · exact merged.each held before
    · rw [mem_singleton.mp last]
      exact of
  have sorted : (sortBy (compareOn (·.1)) (pieces ++ [piece])).Pairwise fun left right => left.1 ≤
    right.1 := by
    refine (sortBy_pairwise _ _).imp ?_
    intro left right below
    exact Nat.isLE_compare.mp below
  have listed : ∀ position, CoveredBy (sortBy (compareOn (·.1)) (pieces ++ [piece])) position ↔
      CoveredBy pieces position ∨ piece.Covers position := by
    intro position
    simp only [CoveredBy, mem_sortBy, mem_append, mem_singleton, or_and_right, exists_or,
      exists_eq_left]
  unfold insert
  cases split : sortBy (compareOn (·.1)) (pieces ++ [piece]) with
  | nil =>
    have member : piece ∈ sortBy (compareOn (·.1)) (pieces ++ [piece]) :=
      mem_sortBy.mpr (mem_append_right _ (mem_singleton_self _))
    rw [split] at member
    cases member
  | cons first rest =>
    rw [split] at all sorted listed
    obtain ⟨firstBelow, sortedRest⟩ := pairwise_cons.mp sorted
    obtain ⟨result, merges, held, _, covers⟩ := mergeFrom_ok (all first mem_cons_self)
      (fun held member => all held (mem_cons_of_mem _ member)) sortedRest firstBelow
    refine ⟨result, merges, held, fun position => ?_⟩
    rw [covers, ← listed, coveredBy_cons]

theorem Of.rest (of : Of code payload piece) {skipped : Nat} (inside : skipped < piece.2.length)
    (word : code.word (piece.2.drop skipped)) : Of code payload
    (piece.1 + skipped, piece.2.drop skipped) := by
  have whole : (piece.2.drop skipped).take (piece.2.length - skipped) = piece.2.drop skipped :=
    take_of_length_le (by rw [length_drop])
  have cut := of.stretch skipped (piece.2.length - skipped) (by omega) (by omega)
    (whole.symm ▸ word)
  rw [whole] at cut
  exact cut

theorem Of.word_beyond (of : Of code payload piece) (other : Of code payload next)
    (start : piece.1 = next.1) (shorter : piece.2.length ≤ next.2.length) :
    code.word (next.2.drop piece.2.length) := by
  have common : next.2.take piece.2.length = piece.2 := by
    rw [other.placed, take_take, Nat.min_eq_left shorter, ← start]
    exact of.placed.symm
  have split : piece.2 ++ next.2.drop piece.2.length = next.2 :=
    calc piece.2 ++ next.2.drop piece.2.length
        = next.2.take piece.2.length ++ next.2.drop piece.2.length := by rw [common]
      _ = next.2 := take_append_drop _ _
  exact code.cancel of.word (split.symm ▸ other.word)

theorem Of.word_after (of : Of code payload part) (other : Of code payload covered)
    (overlaps : part.1 < covered.finish) (before : covered.1 < part.finish)
    (beyond : covered.finish < part.finish) : code.word (part.2.drop
      (covered.finish - part.1)) := by
  unfold finish at overlaps before beyond
  by_cases inside : part.1 ≤ covered.1
  · -- The covered piece begins inside: what follows it there is a word.
    have tail := of.rest (by omega) (of.word_cut other inside before).2
    have after := other.word_beyond tail (by change _ = _ + _; omega)
      (by rw [length_drop]; omega)
    rw [drop_drop] at after
    have position : covered.1 - part.1 + covered.2.length = covered.finish - part.1 := by
      unfold finish
      omega
    rw [position] at after
    exact after
  · -- It began before: its end inside the part is a word the part begins with.
    have head := other.rest (by omega) (other.word_cut of (by omega) overlaps).2
    have after := head.word_beyond of (by change _ + _ = _; omega)
      (by rw [length_drop]; omega)
    rw [length_drop] at after
    have position : covered.2.length - (part.1 - covered.1) = covered.finish - part.1 := by
      unfold finish
      omega
    rw [position] at after
    exact after

/-- What subtraction leaves: pieces inside the part, in order, covering what the covered
piece does not. -/
structure Leaves (code : SelfSynchronizing Symbol) (payload : List Symbol) (part : Piece Symbol)
    (removed : Nat → Prop) (rest : List (Piece Symbol)) : Prop where
  each : ∀ piece ∈ rest, Of code payload piece
  inside : ∀ piece ∈ rest, part.1 ≤ piece.1 ∧ piece.finish ≤ part.finish
  ordered : rest.Pairwise fun left right => left.finish ≤ right.1
  covers : ∀ position, CoveredBy rest position ↔ part.Covers position ∧ ¬ removed position

/-- Taking one piece away from another leaves words, in order, and exactly the positions that are
not covered. -/
theorem Of.subtract (of : Of code payload part) (other : Of code payload covered) :
    Leaves code payload part covered.Covers (subtract covered part) := by
  unfold Piece.subtract
  split
  · next outside =>
    refine ⟨by simpa using of, by simp, by simp, fun position => ?_⟩
    rw [coveredBy_cons]
    simp only [coveredBy_nil, or_false, Covers]
    have length := other.length_pos
    unfold finish at outside ⊢
    omega
  · next overlap =>
    rw [not_or, Nat.not_le, Nat.not_le] at overlap
    obtain ⟨overlaps, before⟩ := overlap
    have front : part.1 < covered.1 → Of code payload (part.1,
      part.2.take (covered.1 - part.1)) := by
      intro starts
      unfold finish at before
      exact of.stretch 0 (covered.1 - part.1) (by omega) (by omega)
        (of.word_cut other (by omega) before).1
    have back : covered.finish < part.finish → Of code payload
      (covered.finish, part.2.drop (covered.finish - part.1)) := by
      intro beyond
      have word := of.word_after other overlaps before beyond
      have cut := of.rest (by unfold finish at *; omega) word
      rw [Nat.add_sub_cancel' (Nat.le_of_lt overlaps)] at cut
      exact cut
    unfold finish at overlaps before
    constructor
    · intro piece member
      rcases mem_append.mp member with first | second
      · split at first
        · rw [mem_singleton.mp first]
          exact front ‹_›
        · cases first
      · split at second
        · rw [mem_singleton.mp second]
          exact back ‹_›
        · cases second
    · intro piece member
      rcases mem_append.mp member with first | second
      · split at first
        · rw [mem_singleton.mp first]
          simp only [finish, length_take]
          omega
        · cases first
      · split at second
        · next beyond =>
          rw [mem_singleton.mp second]
          simp only [finish, length_drop] at beyond ⊢
          omega
        · cases second
    · split <;> split <;> simp [finish]
      omega
    · intro position
      split <;> split <;>
        simp only [coveredBy_append, coveredBy_cons, coveredBy_nil, Covers, finish,
          length_take, length_drop, nil_append, or_false, false_iff] at * <;>
        omega

theorem coveredBy_flatMap : CoveredBy (pieces.flatMap split) position ↔
      ∃ piece ∈ pieces, CoveredBy (split piece) position := by
  simp only [CoveredBy, mem_flatMap]
  constructor
  · rintro ⟨piece, ⟨source, listed, member⟩, covers⟩
    exact ⟨source, listed, piece, member, covers⟩
  · rintro ⟨source, listed, piece, member, covers⟩
    exact ⟨piece, ⟨source, listed, member⟩, covers⟩

theorem ordered_flatMap (ordered : pieces.Pairwise fun left right => left.finish ≤ right.1)
    (each : ∀ piece ∈ pieces, (split piece).Pairwise fun left right => left.finish ≤ right.1)
    (inside : ∀ piece ∈ pieces, ∀ part ∈ split piece, piece.1 ≤ part.1 ∧
      part.finish ≤ piece.finish) :
    (pieces.flatMap split).Pairwise fun left right => left.finish ≤ right.1 := by
  refine pairwise_flatMap.mpr ⟨each, ?_⟩
  refine ordered.imp_of_mem ?_
  intro left right leftMember rightMember before first firstPart second secondPart
  exact (inside left leftMember first firstPart).2.trans
    (before.trans (inside right rightMember second secondPart).1)

theorem Leaves.cut {removed : Nat → Prop} {rest : List (Piece Symbol)}
    (leaves : Leaves code payload part removed rest) (other : Of code payload covered) :
    Leaves code payload part (fun position => removed position ∨ covered.Covers position)
      (rest.flatMap (subtract covered)) := by
  constructor
  · intro piece member
    obtain ⟨source, listed, left⟩ := mem_flatMap.mp member
    exact ((leaves.each source listed).subtract other).each piece left
  · intro piece member
    obtain ⟨source, listed, left⟩ := mem_flatMap.mp member
    have outer := leaves.inside source listed
    have inner := ((leaves.each source listed).subtract other).inside piece left
    exact ⟨outer.1.trans inner.1, inner.2.trans outer.2⟩
  · exact ordered_flatMap leaves.ordered (fun piece member =>
      ((leaves.each piece member).subtract other).ordered)
      fun piece member => ((leaves.each piece member).subtract other).inside
  · intro position
    rw [coveredBy_flatMap, not_or, ← and_assoc, ← leaves.covers]
    constructor
    · rintro ⟨source, listed, held⟩
      obtain ⟨covers, outside⟩ := (((leaves.each source listed).subtract other).covers position).mp held
      exact ⟨⟨source, listed, covers⟩, outside⟩
    · rintro ⟨⟨source, listed, covers⟩, outside⟩
      exact ⟨source, listed, (((leaves.each source listed).subtract other).covers position).mpr
        ⟨covers, outside⟩⟩

theorem Of.subtractAll (of : Of code payload part) {visible : List (Piece Symbol)}
    (others : ∀ piece ∈ visible, Of code payload piece) :
    Leaves code payload part (CoveredBy visible) (subtractAll visible [part]) := by
  have cutAll : ∀ (visible rest : List (Piece Symbol)) (removed : Nat → Prop),
      (∀ piece ∈ visible, Of code payload piece) → Leaves code payload part removed rest →
        Leaves code payload part (fun position => removed position ∨ CoveredBy visible position)
          (Piece.subtractAll visible rest) := by
    intro visible
    induction visible with
    | nil =>
      intro rest removed _ leaves
      exact ⟨leaves.each, leaves.inside,
        leaves.ordered, by simpa [Piece.subtractAll] using leaves.covers⟩
    | cons first later ih =>
      intro rest removed others leaves
      obtain ⟨firstOf, laterOf⟩ := forall_mem_cons.mp others
      have held := ih _ _ laterOf (leaves.cut firstOf)
      refine ⟨held.each, held.inside, held.ordered, fun position => ?_⟩
      rw [coveredBy_cons, ← or_assoc]
      exact held.covers position
  have start : Leaves code payload part (fun _ => False) [part] :=
    ⟨by simpa using of, by simp, by simp, by simp⟩
  have held := cutAll visible [part] _ others start
  exact ⟨held.each, held.inside, held.ordered, by simpa using held.covers⟩

def uncovered (visible pieces : List (Piece Symbol)) : List (Piece Symbol) :=
  pieces.flatMap fun piece => subtractAll visible [piece]

section

variable {visible pieces : List (Piece Symbol)} (merged : Merged code payload pieces)
  (others : ∀ piece ∈ visible, Of code payload piece)

include merged others

theorem uncovered_of (member : piece ∈ uncovered visible pieces) : Of code payload piece := by
  obtain ⟨source, listed, left⟩ := mem_flatMap.mp member
  exact ((merged.each source listed).subtractAll others).each piece left

theorem uncovered_ordered : (uncovered visible pieces).Pairwise fun left right => left.finish ≤
    right.1 := by
  refine ordered_flatMap (merged.apart.imp Nat.le_of_lt) ?_ ?_
  · exact fun piece member => ((merged.each piece member).subtractAll others).ordered
  · exact fun piece member => ((merged.each piece member).subtractAll others).inside

/-- The uncovered pieces hold exactly the positions that are not visible yet. -/
theorem coveredBy_uncovered : CoveredBy (uncovered visible pieces) position ↔
    CoveredBy pieces position ∧ ¬ CoveredBy visible position := by
  rw [uncovered, coveredBy_flatMap]
  constructor
  · rintro ⟨source, listed, held⟩
    obtain ⟨covers, outside⟩ := (((merged.each source listed).subtractAll others).covers _).mp held
    exact ⟨⟨source, listed, covers⟩, outside⟩
  · rintro ⟨⟨source, listed, covers⟩, outside⟩
    exact ⟨source, listed, (((merged.each source listed).subtractAll others).covers _).mpr
      ⟨covers, outside⟩⟩

end

def positions (piece : Piece Symbol) : List Nat :=
  range' piece.1 piece.2.length

@[simp] theorem mem_positions : position ∈ piece.positions ↔ piece.Covers position := by
  simp [positions, Covers, finish]

end Piece

end ContextDb.Lib
