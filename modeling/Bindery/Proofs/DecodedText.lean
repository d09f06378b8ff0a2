/-
Module: Bindery.Proofs.DecodedText
Layer: Proofs
Purpose: What text the bytes of a file denote. Reading UTF-8 is the inverse of writing it: bytes are read as a
  text without faults exactly if they are the bytes of the text. In between stand the spellings of
  characters, by their first bytes: in them a second byte has a range of its own behind some first bytes,
  which keeps out overlong forms, surrogates and numbers beyond the last. A file holds its text in the
  encoding that is detected, if that is known and fits, and else as UTF-8.
Imports: Bindery.Text.Encoding
Main exports: Spells, run_of_spells, exists_spells, spells_utf8EncodeChar, decodeStrict?_eq_some_iff,
  Decoder.Denotes, Decoder.text?_eq_some_iff
-/
import Bindery.Text.Encoding

namespace Bindery.Text

/-! ### Spellings -/

/-- The range of the second byte of a long character, by its first. -/
def secondRange (first : Nat) : Nat × Nat :=
  (if first = 0xE0 then 0xA0 else if first = 0xF0 then 0x90 else 0x80,
    if first = 0xED then 0x9F else if first = 0xF4 then 0x8F else 0xBF)

/-- Does a byte lie in a range? -/
abbrev LiesIn (range : Nat × Nat) (byte : UInt8) : Prop := range.1 ≤ byte.toNat ∧ byte.toNat ≤ range.2

/-- The number with the digits of a further byte. -/
def extend (value : Nat) (byte : UInt8) : Nat := value * 64 + (byte.toNat - 0x80)

/-- The bytes that spell the character of a number. -/
inductive Spells : List UInt8 → Nat → Prop where
  | one {a : UInt8} (ascii : a.toNat < 0x80) : Spells [a] a.toNat
  | two {a b : UInt8} (low : 0xC2 ≤ a.toNat) (high : a.toNat < 0xE0)
      (second : LiesIn Utf8State.anyContinuation b) : Spells [a, b] (extend (a.toNat - 0xC0) b)
  | three {a b c : UInt8} (low : 0xE0 ≤ a.toNat) (high : a.toNat < 0xF0)
      (second : LiesIn (secondRange a.toNat) b) (third : LiesIn Utf8State.anyContinuation c) :
      Spells [a, b, c] (extend (extend (a.toNat - 0xE0) b) c)
  | four {a b c d : UInt8} (low : 0xF0 ≤ a.toNat) (high : a.toNat < 0xF5)
      (second : LiesIn (secondRange a.toNat) b) (third : LiesIn Utf8State.anyContinuation c)
      (fourth : LiesIn Utf8State.anyContinuation d) :
      Spells [a, b, c, d] (extend (extend (extend (a.toNat - 0xF0) b) c) d)

/-! ### Reading one character -/

namespace Utf8State

theorem begin_two {byte : Nat} (low : 0xC2 ≤ byte) (high : byte < 0xE0) :
    begin byte = ([], ⟨byte - 0xC0, [anyContinuation]⟩) := by
  rw [begin, if_neg (by omega), if_neg (by omega), if_pos high]

theorem begin_three {byte : Nat} (low : 0xE0 ≤ byte) (high : byte < 0xF0) :
    begin byte = ([], ⟨byte - 0xE0, [secondRange byte, anyContinuation]⟩) := by
  rw [begin, if_neg (by omega), if_neg (by omega), if_neg (by omega), if_pos high]
  split
  · next least => subst least; rfl
  · next notLeast =>
      split
      · next surrogates => subst surrogates; rfl
      · next noSurrogates =>
          have range : secondRange byte = anyContinuation := by
            rw [secondRange, if_neg notLeast, if_neg (by omega), if_neg noSurrogates, if_neg (by omega)]
            rfl
          rw [range]

theorem begin_four {byte : Nat} (low : 0xF0 ≤ byte) (high : byte < 0xF5) :
    begin byte = ([], ⟨byte - 0xF0, [secondRange byte, anyContinuation, anyContinuation]⟩) := by
  have oneOf : byte = 0xF0 ∨ byte = 0xF1 ∨ byte = 0xF2 ∨ byte = 0xF3 ∨ byte = 0xF4 := by omega
  rcases oneOf with rfl | rfl | rfl | rfl | rfl <;> rfl

/-- A byte that begins no character is a fault. -/
theorem begin_faulty {byte : Nat} (noAscii : 0x80 ≤ byte) (noFirst : byte < 0xC2 ∨ 0xF5 ≤ byte) :
    begin byte = ([none], idle) := by
  rw [begin, if_neg (by omega)]
  rcases noFirst with low | high
  · rw [if_pos low]
  · rw [if_neg (by omega), if_neg (by omega), if_neg (by omega), if_neg (by omega), if_neg (by omega),
      if_neg (by omega), if_neg (by omega), if_neg (by omega)]

/-- Where no byte is missing, a character begins. -/
theorem run_idle (byte : UInt8) (rest : List UInt8) :
    idle.run (byte :: rest) = (begin byte.toNat).1 ++ (begin byte.toNat).2.run rest := rfl

/-- A byte in its range is one of those that were missing. -/
theorem run_inside {value : Nat} {range next : Nat × Nat} {more : List (Nat × Nat)} {byte : UInt8}
    (inside : LiesIn range byte) (rest : List UInt8) :
    run ⟨value, range :: next :: more⟩ (byte :: rest) = run ⟨extend value byte, next :: more⟩ rest := by
  rw [run, step]
  dsimp only
  rw [if_pos inside]
  rfl

/-- The last byte that was missing ends a character. -/
theorem run_last {value : Nat} {range : Nat × Nat} {byte : UInt8} (inside : LiesIn range byte)
    (rest : List UInt8) :
    run ⟨value, [range]⟩ (byte :: rest) = some (Char.ofNat (extend value byte)) :: idle.run rest := by
  rw [run, step]
  dsimp only
  rw [if_pos inside]
  rfl

/-- Where a byte is missing, one has to come that lies in its range. -/
theorem exists_inside {value : Nat} {range : Nat × Nat} {more : List (Nat × Nat)} {bytes : List UInt8}
    {text : List Char} (reads : run ⟨value, range :: more⟩ bytes = text.map some) :
    ∃ byte rest, bytes = byte :: rest ∧ LiesIn range byte := by
  have noFault : none ∉ text.map some := by simp
  rw [← reads] at noFault
  cases bytes with
  | nil => simp [run] at noFault
  | cons byte rest =>
      refine ⟨byte, rest, rfl, ?_⟩
      refine Decidable.byContradiction fun outside => ?_
      rw [run, step] at noFault
      dsimp only at noFault
      rw [if_neg outside] at noFault
      simp at noFault

end Utf8State

open Utf8State

/-- What spells a character is read as that character, whatever comes behind it. -/
theorem run_of_spells {bytes : List UInt8} {value : Nat} (spells : Spells bytes value)
    (rest : List UInt8) : idle.run (bytes ++ rest) = some (Char.ofNat value) :: idle.run rest := by
  cases spells with
  | one ascii =>
      rw [List.cons_append, List.nil_append, run_idle, begin, if_pos ascii]
      rfl
  | two low high second =>
      simp only [List.cons_append, List.nil_append]
      rw [run_idle, begin_two low high]
      exact run_last second rest
  | three low high second third =>
      simp only [List.cons_append, List.nil_append]
      rw [run_idle, begin_three low high]
      exact (run_inside second _).trans (run_last third rest)
  | four low high second third fourth =>
      simp only [List.cons_append, List.nil_append]
      rw [run_idle, begin_four low high]
      exact (run_inside second _).trans ((run_inside third _).trans (run_last fourth rest))

/-- What is read without faults begins with a spelling of its first character. -/
theorem exists_spells {byte : UInt8} {bytes : List UInt8} {text : List Char}
    (reads : idle.run (byte :: bytes) = text.map some) :
    ∃ front value rest tail, byte :: bytes = front ++ rest ∧ Spells front value ∧
      text = Char.ofNat value :: tail ∧ idle.run rest = tail.map some := by
  -- It is enough to find the spelling: what is read behind it is then known.
  have suffices_spelling : ∀ {front rest value}, byte :: bytes = front ++ rest → Spells front value →
      ∃ front value rest tail, byte :: bytes = front ++ rest ∧ Spells front value ∧
        text = Char.ofNat value :: tail ∧ idle.run rest = tail.map some := by
    intro front rest value split spells
    rw [split, run_of_spells spells] at reads
    cases text with
    | nil => cases reads
    | cons char tail =>
        simp only [List.map_cons, List.cons.injEq, Option.some.injEq] at reads
        exact ⟨front, value, rest, tail, split, spells, by rw [reads.1], reads.2⟩
  have begun := (run_idle byte bytes).symm.trans reads
  by_cases ascii : byte.toNat < 0x80
  · exact suffices_spelling rfl (.one ascii)
  by_cases noFirst : byte.toNat < 0xC2 ∨ 0xF5 ≤ byte.toNat
  · rw [begin_faulty (by omega) noFirst] at begun
    have noFault : none ∉ text.map some := by simp
    simp [← begun] at noFault
  by_cases isTwo : byte.toNat < 0xE0
  · rw [begin_two (by omega) isTwo] at begun
    obtain ⟨b, rest, rfl, second⟩ := exists_inside begun
    exact suffices_spelling rfl (.two (by omega) isTwo second)
  by_cases isThree : byte.toNat < 0xF0
  · rw [begin_three (by omega) isThree] at begun
    obtain ⟨b, rest, rfl, second⟩ := exists_inside begun
    rw [List.nil_append, run_inside second] at begun
    obtain ⟨c, rest, rfl, third⟩ := exists_inside begun
    exact suffices_spelling rfl (.three (by omega) isThree second third)
  · rw [begin_four (by omega) (by omega)] at begun
    obtain ⟨b, rest, rfl, second⟩ := exists_inside begun
    rw [List.nil_append, run_inside second] at begun
    obtain ⟨c, rest, rfl, third⟩ := exists_inside begun
    rw [run_inside third] at begun
    obtain ⟨d, rest, rfl, fourth⟩ := exists_inside begun
    exact suffices_spelling rfl (.four (by omega) (by omega) second third fourth)

/-! ### Writing one character -/

theorem toNat_ofNat_of_lt {value : Nat} (small : value < 256) : (UInt8.ofNat value).toNat = value := by
  rw [UInt8.toNat_ofNat', Nat.mod_eq_of_lt small]

theorem eq_ofNat_of_toNat {byte : UInt8} {value : Nat} (same : byte.toNat = value) :
    byte = UInt8.ofNat value := by
  rw [← same, UInt8.ofNat_toNat]

/-- What the range of a second byte keeps out. -/
theorem liesIn_secondRange_iff {first : Nat} {byte : UInt8} :
    LiesIn (secondRange first) byte ↔
      (0x80 ≤ byte.toNat ∧ byte.toNat ≤ 0xBF) ∧
        -- overlong forms
        (first = 0xE0 → 0xA0 ≤ byte.toNat) ∧ (first = 0xF0 → 0x90 ≤ byte.toNat) ∧
        -- surrogates, and what is beyond the last character
        (first = 0xED → byte.toNat ≤ 0x9F) ∧ (first = 0xF4 → byte.toNat ≤ 0x8F) := by
  simp only [LiesIn, secondRange]
  repeat' split
  all_goals omega

section Writing

variable {a b c d : UInt8} {value : Nat}

theorem spells_two (low : 0x80 ≤ value) (high : value < 0x800) (first : a.toNat = value / 64 % 32 + 192)
    (second : b.toNat = value % 64 + 128) : Spells [a, b] value := by
  have same : extend (a.toNat - 0xC0) b = value := by
    unfold extend
    omega
  rw [← same]
  refine .two (by omega) (by omega) ?_
  simp only [LiesIn, anyContinuation]
  omega

theorem spells_three (low : 0x800 ≤ value) (high : value < 0x10000)
    (noSurrogate : value < 0xD800 ∨ 0xDFFF < value) (first : a.toNat = value / 4096 % 16 + 224)
    (second : b.toNat = value / 64 % 64 + 128) (third : c.toNat = value % 64 + 128) :
    Spells [a, b, c] value := by
  have same : extend (extend (a.toNat - 0xE0) b) c = value := by
    unfold extend
    omega
  rw [← same]
  refine .three (by omega) (by omega) (liesIn_secondRange_iff.mpr ?_) ?_
  · omega
  · simp only [LiesIn, anyContinuation]
    omega

theorem spells_four (low : 0x10000 ≤ value) (high : value < 0x110000)
    (first : a.toNat = value / 262144 % 8 + 240) (second : b.toNat = value / 4096 % 64 + 128)
    (third : c.toNat = value / 64 % 64 + 128) (fourth : d.toNat = value % 64 + 128) :
    Spells [a, b, c, d] value := by
  have same : extend (extend (extend (a.toNat - 0xF0) b) c) d = value := by
    unfold extend
    omega
  rw [← same]
  refine .four (by omega) (by omega) (liesIn_secondRange_iff.mpr ?_) ?_ ?_
  · omega
  · simp only [LiesIn, anyContinuation]
    omega
  · simp only [LiesIn, anyContinuation]
    omega

end Writing

/-- The bytes of a character spell it. -/
theorem spells_utf8EncodeChar (char : Char) : Spells (String.utf8EncodeChar char) char.toNat := by
  have valid : char.toNat < 0xD800 ∨ 0xDFFF < char.toNat ∧ char.toNat < 0x110000 := char.valid
  have number : char.val.toNat = char.toNat := rfl
  unfold String.utf8EncodeChar
  rw [number]
  generalize char.toNat = value at valid
  dsimp only
  split
  · have byte : (UInt8.ofNat value).toNat = value := toNat_ofNat_of_lt (by omega)
    have spells := Spells.one (a := UInt8.ofNat value) (by omega)
    rwa [byte] at spells
  · split
    · apply spells_two (by omega) (by omega) <;> exact toNat_ofNat_of_lt (by omega)
    · split
      · apply spells_three (by omega) (by omega) (by omega) <;> exact toNat_ofNat_of_lt (by omega)
      · apply spells_four (by omega) (by omega) <;> exact toNat_ofNat_of_lt (by omega)

/-- A character is spelled in one way. -/
theorem eq_utf8EncodeChar_of_spells {bytes : List UInt8} {value : Nat} (spells : Spells bytes value) :
    bytes = String.utf8EncodeChar (Char.ofNat value) := by
  have number (valid : value.isValidChar) : (Char.ofNat value).val.toNat = value := by
    rw [Char.ofNat, dif_pos valid]
    rfl
  unfold String.utf8EncodeChar
  cases spells with
  | one ascii =>
      rw [number (by unfold Nat.isValidChar; omega)]
      dsimp only
      rw [if_pos (by omega), UInt8.ofNat_toNat]
  | @two a b low high second =>
      simp only [LiesIn, anyContinuation] at second
      rw [number (by unfold Nat.isValidChar extend; omega)]
      dsimp only [extend]
      rw [if_neg (by omega), if_pos (by omega)]
      simp only [List.cons.injEq, and_true]
      refine ⟨eq_ofNat_of_toNat ?_, eq_ofNat_of_toNat ?_⟩ <;> omega
  | @three a b c low high second third =>
      rw [liesIn_secondRange_iff] at second
      simp only [LiesIn, anyContinuation] at third
      rw [number (by unfold Nat.isValidChar extend; omega)]
      dsimp only [extend]
      rw [if_neg (by omega), if_neg (by omega), if_pos (by omega)]
      simp only [List.cons.injEq, and_true]
      refine ⟨eq_ofNat_of_toNat ?_, eq_ofNat_of_toNat ?_, eq_ofNat_of_toNat ?_⟩ <;> omega
  | @four a b c d low high second third fourth =>
      rw [liesIn_secondRange_iff] at second
      simp only [LiesIn, anyContinuation] at third fourth
      rw [number (by unfold Nat.isValidChar extend; omega)]
      dsimp only [extend]
      rw [if_neg (by omega), if_neg (by omega), if_neg (by omega)]
      simp only [List.cons.injEq, and_true]
      refine ⟨eq_ofNat_of_toNat ?_, eq_ofNat_of_toNat ?_, eq_ofNat_of_toNat ?_, eq_ofNat_of_toNat ?_⟩ <;> omega

/-! ### Texts -/

/-- The bytes of characters are read as these characters. -/
theorem decodeUnits_flatMap (text : List Char) :
    decodeUnits (text.flatMap String.utf8EncodeChar) = text.map some := by
  induction text with
  | nil => rfl
  | cons char rest ih =>
      rw [List.flatMap_cons, decodeUnits, run_of_spells (spells_utf8EncodeChar char), Char.ofNat_toNat]
      exact congrArg (some char :: ·) ih

/-- Bytes that are read without faults are those of the characters that are read. -/
theorem eq_flatMap_of_run {text : List Char} : ∀ {bytes : List UInt8},
    idle.run bytes = text.map some → bytes = text.flatMap String.utf8EncodeChar := by
  induction text with
  | nil =>
      intro bytes reads
      cases bytes with
      | nil => rfl
      | cons byte bytes =>
          obtain ⟨_, _, _, _, -, -, same, -⟩ := exists_spells reads
          cases same
  | cons char rest ih =>
      intro bytes reads
      cases bytes with
      | nil => cases reads
      | cons byte bytes =>
          obtain ⟨front, value, behind, tail, split, spells, same, readsBehind⟩ := exists_spells reads
          obtain ⟨rfl, rfl⟩ := List.cons.inj same
          rw [split, eq_utf8EncodeChar_of_spells spells, ih readsBehind, List.flatMap_cons]

theorem mapM_id_eq_some_iff {α : Type} {units : List (Option α)} {text : List α} :
    units.mapM id = some text ↔ units = text.map some := by
  induction units generalizing text with
  | nil => cases text <;> simp
  | cons unit units ih =>
      cases unit with
      | none => cases text <;> simp
      | some char =>
          rw [List.mapM_cons]
          cases text with
          | nil => cases units.mapM id <;> simp
          | cons first text =>
              rw [List.map_cons, List.cons.injEq, ← ih]
              cases units.mapM id <;> simp [and_comm]

/-- Bytes are read as a text exactly if they are its bytes. -/
theorem decodeStrict?_eq_some_iff {bytes : List UInt8} {text : String} :
    decodeStrict? bytes = some text ↔ bytes = utf8Bytes text := by
  rw [decodeStrict?, Option.map_eq_some_iff]
  simp only [mapM_id_eq_some_iff]
  constructor
  · rintro ⟨chars, reads, rfl⟩
    rw [utf8Bytes, String.toList_ofList]
    exact eq_flatMap_of_run reads
  · rintro rfl
    exact ⟨text.toList, decodeUnits_flatMap text.toList, String.ofList_toList⟩

/-! ### Files -/

namespace Decoder

/-- No encoding that is detected and known fits the bytes. -/
def NoneFits (decoder : Decoder) (bytes : List UInt8) : Prop :=
  ∀ name decode, decoder.detect bytes = some name → name ≠ "" → decoder.codecs name = some decode →
    decode bytes = none

/-- The text that the bytes of a file denote: none where there are no bytes; else what they are in the
    encoding that is detected or, if it is unknown or does not fit, in UTF-8. -/
inductive Denotes (decoder : Decoder) : List UInt8 → String → Prop where
  | empty : Denotes decoder [] ""
  | detected {bytes : List UInt8} {name text : String} {decode : List UInt8 → Option String}
      (someBytes : bytes ≠ []) (guessed : decoder.detect bytes = some name) (named : name ≠ "")
      (known : decoder.codecs name = some decode) (fits : decode bytes = some text) :
      Denotes decoder bytes text
  | plain {text : String} (someBytes : utf8Bytes text ≠ []) (noneFits : decoder.NoneFits (utf8Bytes text)) :
      Denotes decoder (utf8Bytes text) text

variable {decoder : Decoder} {bytes : List UInt8} {text : String}

theorem detected?_eq_some_iff :
    decoder.detected? bytes = some text ↔
      ∃ name decode, decoder.detect bytes = some name ∧ name ≠ "" ∧ decoder.codecs name = some decode ∧
        decode bytes = some text := by
  unfold detected?
  cases guessed : decoder.detect bytes with
  | none => simp
  | some name =>
      by_cases named : name = ""
      · simp [named]
      · simp [named, Option.bind_eq_some_iff]

theorem detected?_eq_none_iff : decoder.detected? bytes = none ↔ decoder.NoneFits bytes := by
  constructor
  · intro none name decode guessed named known
    cases fits : decode bytes with
    | none => rfl
    | some text =>
        rw [detected?_eq_some_iff.mpr ⟨name, decode, guessed, named, known, fits⟩] at none
        cases none
  · intro noneFits
    cases found : decoder.detected? bytes with
    | none => rfl
    | some text =>
        obtain ⟨name, decode, guessed, named, known, fits⟩ := detected?_eq_some_iff.mp found
        rw [noneFits name decode guessed named known] at fits
        cases fits

/-- A file is read as the text that its bytes denote. -/
theorem text?_eq_some_iff : decoder.text? bytes = some text ↔ decoder.Denotes bytes text := by
  constructor
  · intro read
    unfold text? at read
    split at read
    · next empty =>
        obtain rfl := Option.some.inj read
        rw [empty]
        exact .empty
    · next someBytes =>
        split at read
        · next other found =>
            obtain rfl := Option.some.inj read
            obtain ⟨name, decode, guessed, named, known, fits⟩ := detected?_eq_some_iff.mp found
            exact .detected someBytes guessed named known fits
        · next noneFound =>
            obtain rfl := decodeStrict?_eq_some_iff.mp read
            exact .plain someBytes (detected?_eq_none_iff.mp noneFound)
  · intro denotes
    cases denotes with
    | empty => rfl
    | detected someBytes guessed named known fits =>
        rw [text?, if_neg someBytes, detected?_eq_some_iff.mpr ⟨_, _, guessed, named, known, fits⟩]
    | plain someBytes noneFits =>
        rw [text?, if_neg someBytes, detected?_eq_none_iff.mpr noneFits]
        exact decodeStrict?_eq_some_iff.mpr rfl

/-- Bytes denote at most one text. -/
theorem Denotes.unique {other : String} (denotes : decoder.Denotes bytes text)
    (denotesOther : decoder.Denotes bytes other) : text = other :=
  Option.some.inj ((text?_eq_some_iff.mpr denotes).symm.trans (text?_eq_some_iff.mpr denotesOther))

end Decoder

end Bindery.Text
