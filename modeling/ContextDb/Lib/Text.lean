import Mathlib.Algebra.Order.Ring.Nat
import Std.Data.String.ToNat
import Mathlib.Data.List.Induction

/-! Character-level facts about identifiers: blank text, fixed-width hexadecimal
digits, and colon-separated composite keys. -/

set_option autoImplicit false

namespace ContextDb.Lib

open List

def isWhitespace (character : Char) : Bool :=
  let code := character.toNat
  (9 ≤ code && code ≤ 13) || code == 0x20 || code == 0x85 || code == 0xa0 ||
    code == 0x1680 || (0x2000 ≤ code && code ≤ 0x200a) || code == 0x2028 ||
    code == 0x2029 || code == 0x202f || code == 0x205f || code == 0x3000

def isBlank (text : String) : Bool :=
  text.toList.all isWhitespace

/-- The maximal runs without white space, `word` being the run read so far. -/
def splitWords (word : List Char) : List Char → List (List Char)
  | [] => if word.isEmpty then [] else [word]
  | character :: rest =>
    if isWhitespace character then
      if word.isEmpty then splitWords [] rest else word :: splitWords [] rest else splitWords (word ++ [character]) rest

def splitWhitespace (text : String) : List String :=
  (splitWords [] text.toList).map String.ofList

def containsRun (needle : List Char) : List Char → Bool
  | [] => needle.isEmpty
  | character :: rest =>
    needle.isPrefixOf (character :: rest) || containsRun needle rest

def containsText (text needle : String) : Bool :=
  containsRun needle.toList text.toList

def hexDigit (value : Nat) : Char :=
  if value < 10 then Char.ofNat (48 + value) else Char.ofNat (87 + value)

def isHexDigit (character : Char) : Bool :=
  ('0' ≤ character && character ≤ '9') || ('a' ≤ character && character ≤ 'f')

def hexDigits : Nat → Nat → List Char
  | 0, _ => []
  | width + 1, value => hexDigits width (value / 16) ++ [hexDigit (value % 16)]

variable {value left right width : Nat}

theorem hexDigit_isHexDigit (bounded : value < 16) : isHexDigit (hexDigit value) = true := by
  have checked : ∀ value < 16, isHexDigit (hexDigit value) = true := by decide
  exact checked value bounded

theorem hexDigit_injective (leftBounded : left < 16) (rightBounded : right < 16)
    (equal : hexDigit left = hexDigit right) : left = right := by
  have checked : ∀ left < 16, ∀ right < 16, hexDigit left = hexDigit right → left = right := by
    decide
  exact checked left leftBounded right rightBounded equal

@[simp] theorem length_hexDigits (width value : Nat) : (hexDigits width value).length = width := by
  induction width generalizing value with
  | zero => rfl
  | succ width ih => simp [hexDigits, ih]

theorem hexDigits_isHexDigit {character : Char}
    (member : character ∈ hexDigits width value) : isHexDigit character = true := by
  induction width generalizing value with
  | zero => simp [hexDigits] at member
  | succ width ih =>
    simp only [hexDigits, mem_append, mem_singleton] at member
    rcases member with earlier | rfl
    · exact ih earlier
    · exact hexDigit_isHexDigit (Nat.mod_lt _ (by decide))

/-- Numerals of one width tell apart the numbers that fit it. -/
theorem hexDigits_injective (leftBounded : left < 16 ^ width) (rightBounded : right < 16 ^ width)
    (equal : hexDigits width left = hexDigits width right) : left = right := by
  induction width generalizing left right with
  | zero => simp at leftBounded rightBounded; omega
  | succ width ih =>
    simp only [hexDigits] at equal
    obtain ⟨upper, lower⟩ := append_inj equal (by simp)
    have quotient : left / 16 = right / 16 :=
      ih (by rw [Nat.div_lt_iff_lt_mul (by decide)]; simpa [pow_succ] using leftBounded)
        (by rw [Nat.div_lt_iff_lt_mul (by decide)]; simpa [pow_succ] using rightBounded) upper
    have remainder : left % 16 = right % 16 :=
      hexDigit_injective (Nat.mod_lt _ (by decide)) (Nat.mod_lt _ (by decide))
        (by simpa using lower)
    omega

variable {separator : Char} {left' right' : List Char} {left right : List Char}

/-- A text is taken apart at the first separator in one way only. -/
theorem append_separator_inj (absent : separator ∉ left) (absent' : separator ∉ left')
    (equal : left ++ separator :: right = left' ++ separator :: right') : left = left' ∧ right = right' := by
  induction left generalizing left' with
  | nil =>
    cases left' with
    | nil => exact ⟨rfl, by simpa using equal⟩
    | cons head tail =>
      obtain ⟨same, _⟩ := cons.inj equal
      exact absurd (same ▸ mem_cons_self) absent'
  | cons head tail ih =>
    cases left' with
    | nil =>
      obtain ⟨same, _⟩ := cons.inj equal
      exact absurd (same ▸ mem_cons_self) absent
    | cons head' tail' =>
      obtain ⟨sameHead, sameTail⟩ := cons.inj equal
      obtain ⟨leading, trailing⟩ := ih (fun member => absent (mem_cons_of_mem _ member))
        (fun member => absent' (mem_cons_of_mem _ member)) sameTail
      exact ⟨by rw [sameHead, leading], trailing⟩

/-- A text is taken apart at the last separator in one way only. -/
theorem separator_append_inj (absent : separator ∉ right) (absent' : separator ∉ right')
    (equal : left ++ separator :: right = left' ++ separator :: right') : left = left' ∧ right = right' := by
  have reversed := congrArg reverse equal
  simp only [reverse_append, reverse_cons, append_assoc, singleton_append] at reversed
  obtain ⟨trailing, leading⟩ := append_separator_inj (by simpa using absent)
    (by simpa using absent') reversed
  exact ⟨reverse_inj.mp leading, reverse_inj.mp trailing⟩

theorem colon_not_mem_repr (value : Nat) : ':' ∉ (toString value).toList := by
  intro member
  rw [Nat.toString_eq_repr, Nat.toList_repr] at member
  exact absurd (Nat.isDigit_of_mem_toDigits (by decide) (by decide) member) (by decide)

def compositeKey (kind owner : String) (sequence : Nat) (digest : String) : String :=
  kind ++ ":" ++ owner ++ ":" ++ toString sequence ++ ":" ++ digest

/-- A composite key determines its parts. The owner may itself contain colons:
the kind is read from the front, the digest and the sequence from the back. -/
theorem compositeKey_inj {kind kind' owner owner' digest digest' : String} {sequence sequence' : Nat}
    (kindPlain : ':' ∉ kind.toList) (kindPlain' : ':' ∉ kind'.toList)
    (digestPlain : ':' ∉ digest.toList) (digestPlain' : ':' ∉ digest'.toList)
    (equal : compositeKey kind owner sequence digest = compositeKey kind' owner' sequence' digest') :
    kind = kind' ∧ owner = owner' ∧ sequence = sequence' ∧ digest = digest' := by
  have characters := congrArg String.toList equal
  simp only [compositeKey, String.toList_append, append_assoc] at characters
  change kind.toList ++ ':' :: (owner.toList ++ ':' :: ((toString sequence).toList ++
      ':' :: digest.toList)) = kind'.toList ++ ':' :: (owner'.toList ++ ':' ::
      ((toString sequence').toList ++ ':' :: digest'.toList)) at characters
  obtain ⟨sameKind, remaining⟩ := append_separator_inj kindPlain kindPlain' characters
  have regrouped : (owner.toList ++ ':' :: (toString sequence).toList) ++ ':' :: digest.toList =
      (owner'.toList ++ ':' :: (toString sequence').toList) ++ ':' :: digest'.toList := by
    simpa using remaining
  obtain ⟨prefixes, sameDigest⟩ := separator_append_inj digestPlain digestPlain' regrouped
  obtain ⟨sameOwner, sameSequence⟩ := separator_append_inj (colon_not_mem_repr sequence)
    (colon_not_mem_repr sequence') prefixes
  refine ⟨String.toList_inj.mp sameKind, String.toList_inj.mp sameOwner, ?_, String.toList_inj.mp sameDigest⟩
  exact Nat.repr_injective (String.toList_inj.mp sameSequence)

/-! Fixed-width big-endian numerals: writing and reading are inverse to each other. -/

/-- The `width` least significant bytes, most significant first. -/
def toBeBytes : Nat → Nat → List UInt8
  | 0, _ => []
  | width + 1, value => toBeBytes width (value / 256) ++ [UInt8.ofNat value]

def fromBeBytes (bytes : List UInt8) : Nat :=
  bytes.foldl (fun value byte => value * 256 + byte.toNat) 0

variable {width value : Nat} {bytes : List UInt8}

@[simp] theorem length_toBeBytes : (toBeBytes width value).length = width := by
  induction width generalizing value with
  | zero => rfl
  | succ width ih => simp [toBeBytes, ih]

theorem fromBeBytes_append (byte : UInt8) : fromBeBytes (bytes ++ [byte]) = fromBeBytes bytes * 256 + byte.toNat := by
  simp [fromBeBytes]

theorem fromBeBytes_lt : fromBeBytes bytes < 256 ^ bytes.length := by
  induction bytes using reverseRecOn with
  | nil => simp [fromBeBytes]
  | append_singleton bytes byte ih =>
    have bounded := byte.toNat_lt
    rw [fromBeBytes_append, length_append, length_singleton, pow_succ]
    omega

/-- A number that fits its width is read back as it was written. -/
theorem fromBeBytes_toBeBytes (bounded : value < 256 ^ width) : fromBeBytes (toBeBytes width value) = value := by
  induction width generalizing value with
  | zero => simp at bounded; simp [bounded, toBeBytes, fromBeBytes]
  | succ width ih =>
    rw [pow_succ] at bounded
    rw [toBeBytes, fromBeBytes_append, ih (by omega), UInt8.toNat_ofNat']
    omega

/-- Bytes are written back as they were read. -/
theorem toBeBytes_fromBeBytes : toBeBytes bytes.length (fromBeBytes bytes) = bytes := by
  induction bytes using reverseRecOn with
  | nil => rfl
  | append_singleton bytes byte ih =>
    have bounded := byte.toNat_lt
    rw [fromBeBytes_append, length_append, length_singleton, toBeBytes,
      show (fromBeBytes bytes * 256 + byte.toNat) / 256 = fromBeBytes bytes by omega, ih]
    congr 2
    apply UInt8.toNat.inj
    rw [UInt8.toNat_ofNat']
    omega

end ContextDb.Lib
