/-
Module: Bindery.Proofs.LineNesting
Layer: Proofs
Purpose: The tokens of every line nest by themselves. Whatever is recognised in a line opens and closes
  its containers itself, so what a reader has gathered is closed at any time, and its delimiters mark texts
  in the order of the text. Links and images hold the tokens of shorter ranges, which are closed in turn.
Imports: Bindery.CommonMark.Inline, Bindery.Proofs.DelimiterNesting
Main exports: Found.IsClosed, isClosed_findAt, Reader.IsSound, openedFrom_inlineTokens,
  standInLine_inlineTokens
-/
import Bindery.CommonMark.Inline
import Bindery.Proofs.DelimiterNesting

namespace Bindery.CommonMark

open Prose (Token blockKinds lineContainers standInLine)

/-! ### Single tokens -/

/-- A token of a line that opens and closes nothing. -/
theorem lineTokens_singleton {token : Token} (leaf : token.nesting = 0) (flat : token.kind ∉ blockKinds)
    (struck : token.kind ≠ "s_close")
    (image : token.kind = "image" → LineTokens token.children) : LineTokens [token] where
  line := by
    intro other member
    obtain rfl := List.mem_singleton.mp member
    exact ⟨.inr (.inr leaf), fun opens => absurd (leaf.symm.trans opens) (by decide), flat,
      fun isImage => ⟨(image isImage).openedFrom, (image isImage).standInLine⟩, fun _ => leaf,
      fun isStruck => absurd isStruck struck⟩
  closed := by
    rw [stepsOf, List.map_singleton, leaf]
    exact closed_singleton

/-- A token that is no image and has no part in strikethrough. -/
theorem lineTokens_leaf {token : Token} (leaf : token.nesting = 0)
    (plain : token.kind ∉ "s_close" :: "image" :: blockKinds) : LineTokens [token] := by
  simp only [List.mem_cons, not_or] at plain
  exact lineTokens_singleton leaf plain.2.2 plain.1 fun isImage => absurd isImage plain.2.1

theorem lineTokens_text (text : List Char) : LineTokens [textToken text] :=
  lineTokens_leaf rfl (by simp [textToken, blockKinds])

/-- Tokens of a link around closed tokens. -/
theorem lineTokens_around {first last : Token} {inner : List Token} (line : LineTokens inner)
    (opens : first.nesting = 1) (isOpening : first.kind = "link_open") (closes : last.nesting = -1)
    (isClosing : last.kind = "link_close") : LineTokens (first :: inner ++ [last]) where
  line := by
    have name : first.containerName = "link" := by
      rw [Prose.Token.containerName, isOpening]
      rfl
    intro token member
    simp only [List.cons_append, List.mem_cons, List.mem_append, List.not_mem_nil, or_false] at member
    rcases member with rfl | inside | rfl
    · constructor <;> simp [opens, isOpening, name, lineContainers, blockKinds]
    · exact line.line token inside
    · constructor <;> simp [closes, isClosing, blockKinds]
  closed := by
    have wrapped := line.closed.wrap
    simpa [stepsOf, opens, closes] using wrapped

/-! ### What is found -/

/-- Tokens that are found are closed, and no delimiter looks like a lone mark. -/
def Found.IsClosed : Found → Prop
  | .tokens written => LineTokens written
  | .marks mark width _ _ => List.replicate width mark ≠ ['~']
  | _ => True

section Finding

variable {line : LineText} {start stop : Nat} {found : Match}

theorem isClosed_findText? (is : findText? line start stop = some found) : found.found.IsClosed := by
  unfold findText? at is
  split at is
  · cases is
  · cases is
    trivial

theorem isClosed_findLineBreak? (is : findLineBreak? line start stop = some found) :
    found.found.IsClosed := by
  unfold findLineBreak? at is
  split at is
  · cases is
    trivial
  · cases is

theorem isClosed_findEscape? (is : findEscape? line start stop = some found) : found.found.IsClosed := by
  unfold findEscape? at is
  split at is
  · dsimp only at is
    split at is
    · cases is
      exact lineTokens_leaf rfl (by simp [blockKinds])
    · cases is
      exact lineTokens_leaf rfl (by simp [specialToken, blockKinds])
  · cases is

theorem isClosed_findMarks? (is : findMarks? line start stop = some found) : found.found.IsClosed := by
  unfold findMarks? at is
  dsimp only at is
  split at is
  · split at is
    · split at is
      · cases is
      · cases is
        simp [Found.IsClosed, List.replicate]
    · next isOther =>
        cases is
        simpa [Found.IsClosed, List.replicate] using isOther
  · cases is

theorem isClosed_bareLink? {written shown : List Char} (is : bareLink? written shown stop = some found) :
    found.found.IsClosed := by
  unfold bareLink? at is
  dsimp only at is
  split at is
  · cases is
    exact lineTokens_around (lineTokens_text _) rfl rfl rfl rfl
  · cases is

theorem isClosed_findAddress? (is : findAddress? line start stop = some found) : found.found.IsClosed := by
  unfold findAddress? at is
  dsimp only at is
  split at is
  · split at is
    · split at is
      · exact isClosed_bareLink? is
      · split at is
        · exact isClosed_bareLink? is
        · cases is
    · cases is
  · cases is

theorem isClosed_findHtml? (is : findHtml? line start stop = some found) : found.found.IsClosed := by
  unfold findHtml? at is
  dsimp only at is
  split at is
  · obtain ⟨_, -, rfl⟩ := Option.map_eq_some_iff.mp is
    exact lineTokens_leaf rfl (by simp [blockKinds])
  · cases is

theorem isClosed_findReference? (is : findReference? line start stop = some found) :
    found.found.IsClosed := by
  unfold findReference? at is
  split at is
  · obtain ⟨_, -, rfl⟩ := Option.map_eq_some_iff.mp is
    exact lineTokens_leaf rfl (by simp [specialToken, blockKinds])
  · cases is

theorem isClosed_findCode? {memo : Memo} (is : (findCode? line start stop memo).1 = some found) :
    found.found.IsClosed := by
  unfold findCode? at is
  dsimp only at is
  split at is
  · split at is
    · cases is
      trivial
    · split at is
      · cases is
        exact lineTokens_leaf rfl (by simp [codeToken, blockKinds])
      · cases is
        trivial
  · cases is

theorem isClosed_findLink? {search : LabelSearch} {memo : Memo}
    (is : (findLink? line search start stop memo).1 = some found) : found.found.IsClosed := by
  unfold findLink? at is
  dsimp only at is
  split at is
  · split at is
    · cases is
    · split at is
      · split at is
        · cases is
        · split at is
          · cases is
            trivial
          · obtain ⟨_, -, rfl⟩ := Option.map_eq_some_iff.mp is
            trivial
      · obtain ⟨_, -, rfl⟩ := Option.map_eq_some_iff.mp is
        trivial
  · cases is

theorem isClosed_findImage? {search : LabelSearch} {memo : Memo}
    (is : (findImage? line search start stop memo).1 = some found) : found.found.IsClosed := by
  unfold findImage? at is
  dsimp only at is
  split at is
  · split at is
    · cases is
    · split at is
      · split at is
        · cases is
        · split at is
          · cases is
            trivial
          · cases is
      · obtain ⟨_, -, rfl⟩ := Option.map_eq_some_iff.mp is
        trivial
  · cases is

/-- Whatever is found at a position is closed. -/
theorem isClosed_findAt {search : LabelSearch} {skipping : Bool} {memo : Memo}
    (is : (findAt line search skipping start stop memo).1 = some found) : found.found.IsClosed := by
  unfold findAt at is
  split at is
  · exact isClosed_findLineBreak? is
  · exact isClosed_findEscape? is
  · exact isClosed_findCode? is
  · exact isClosed_findLink? is
  · exact isClosed_findImage? is
  · rcases Option.or_eq_some_iff.mp is with address | ⟨-, html⟩
    · exact isClosed_findAddress? address
    · exact isClosed_findHtml? html
  · exact isClosed_findReference? is
  · split at is
    · dsimp only at is
      split at is
      · cases is
      · exact isClosed_findMarks? is
    · exact isClosed_findText? is

end Finding

/-! ### The reader -/

/-- A mark stays where it is when a token is added. -/
theorem IsMark.push {tokens : Array Token} {place : Nat} (mark : IsMark tokens place) (token : Token) :
    IsMark (tokens.push token) place := by
  obtain ⟨found, there, isMark⟩ := mark
  obtain ⟨inside, _⟩ := Array.getElem?_eq_some_iff.mp there
  refine ⟨found, ?_, isMark⟩
  rw [Array.getElem?_push, if_neg (Nat.ne_of_lt inside), there]

theorem Marked.push {delimiters : Array Delimiter} {tokens : Array Token}
    (marked : Marked delimiters tokens) (token : Token) : Marked delimiters (tokens.push token) :=
  ⟨marked.fresh, marked.order, fun inside => (marked.marks inside).push token⟩

theorem getElem!_push {α : Type} [Inhabited α] (xs : Array α) (x : α) (place : Nat) :
    (xs.push x)[place]! = if place = xs.size then x else xs[place]! := by
  rw [getElem!_def, getElem!_def, Array.getElem?_push]
  by_cases last : place = xs.size
  · rw [if_pos last, if_pos last]
  · rw [if_neg last, if_neg last]

theorem Marked.foldl_push {delimiters : Array Delimiter} {tokens : Array Token}
    (marked : Marked delimiters tokens) (more : List Token) :
    Marked delimiters (more.foldl Array.push tokens) := by
  induction more generalizing tokens with
  | nil => exact marked
  | cons token rest ih => exact ih (marked.push token)

/-- A delimiter whose mark is added behind all tokens. -/
theorem Marked.add {delimiters : Array Delimiter} {tokens : Array Token}
    (marked : Marked delimiters tokens) {token : Token} (text : token.kind = "text")
    (content : token.content ≠ "~") {delimiter : Delimiter} (fresh : delimiter.partner = none)
    (place : delimiter.token = tokens.size) :
    Marked (delimiters.push delimiter) (tokens.push token) where
  fresh other := by
    rw [getElem!_push]
    split
    · exact fresh
    · exact marked.fresh other
  order {first second} before inside := by
    rw [Array.size_push] at inside
    rw [getElem!_push, getElem!_push, if_neg (by omega)]
    split
    · have insideFirst : first < delimiters.size := by omega
      obtain ⟨_, found, _⟩ := marked.marks insideFirst
      rw [place]
      exact (Array.getElem?_eq_some_iff.mp found).1
    · exact marked.order before (by omega)
  marks {other} inside := by
    rw [Array.size_push] at inside
    rw [getElem!_push]
    split
    · refine ⟨token, ?_, text, content⟩
      rw [place, Array.getElem?_push_size]
    · exact (marked.marks (by omega)).push token

namespace Reader

/-- What a reader has gathered: closed tokens, and delimiters that mark texts among them. -/
structure IsSound (reader : Reader) : Prop where
  line : LineTokens reader.tokens.toList
  marked : Marked reader.delimiters reader.tokens

theorem isSound_empty : empty.IsSound where
  line := lineTokens_nil
  marked := ⟨fun _ => rfl, fun _ inside => absurd inside (Nat.not_lt_zero _),
    fun inside => absurd inside (Nat.not_lt_zero _)⟩

variable {reader : Reader}

/-- Only tokens are added. -/
theorem IsSound.addTokens_flushed (sound : reader.IsSound) {tokens : List Token}
    (line : LineTokens tokens) (pending : List Char) :
    IsSound ⟨tokens.foldl Array.push reader.tokens, pending, reader.delimiters⟩ where
  line := by
    rw [List.foldl_push_eq_append', Array.toList_append]
    exact sound.line.append line
  marked := sound.marked.foldl_push tokens

theorem IsSound.flush (sound : reader.IsSound) : reader.flush.IsSound := by
  unfold Reader.flush
  split
  · exact sound
  · exact sound.addTokens_flushed (lineTokens_text _) []

theorem IsSound.addText (sound : reader.IsSound) (text : List Char) : (reader.addText text).IsSound :=
  ⟨sound.line, sound.marked⟩

theorem IsSound.addTokens (sound : reader.IsSound) {tokens : List Token} (line : LineTokens tokens) :
    (reader.addTokens tokens).IsSound :=
  sound.flush.addTokens_flushed line _

theorem IsSound.addBreak (sound : reader.IsSound) : reader.addBreak.IsSound := by
  have break_ (kind : String) (plain : kind ∉ "s_close" :: "image" :: blockKinds) :
      LineTokens [{ kind, tag := "br" }] := lineTokens_leaf rfl plain
  have cut (pending : List Char) : IsSound { reader with pending } := ⟨sound.line, sound.marked⟩
  unfold Reader.addBreak
  split
  · exact (cut _).addTokens (break_ _ (by decide))
  · exact (cut _).addTokens (break_ _ (by decide))
  · exact sound.addTokens (break_ _ (by decide))

theorem IsSound.addDelimiters (sound : reader.IsSound) {mark : Char} {width : Nat}
    (visible : List.replicate width mark ≠ ['~']) (run : Nat) (able : Flanks) (count : Nat) :
    (addDelimiters mark width run able count reader).IsSound := by
  induction count generalizing reader with
  | zero => exact sound
  | succ count ih =>
      apply ih
      constructor
      · dsimp only
        rw [Array.toList_push]
        exact sound.line.append (lineTokens_text _)
      · apply sound.marked.add rfl _ rfl rfl
        intro same
        apply visible
        simpa [textToken] using congrArg String.toList same

theorem IsSound.addMarks (sound : reader.IsSound) {mark : Char} {width : Nat}
    (visible : List.replicate width mark ≠ ['~']) (run : Nat) (able : Flanks) :
    (reader.addMarks mark width run able).IsSound := by
  unfold Reader.addMarks
  dsimp only
  split
  · exact sound.flush.addDelimiters visible run able _
  · apply IsSound.addDelimiters _ visible run able _
    exact sound.flush.addTokens_flushed (lineTokens_text [mark]) _

/-- The tokens of a reader that has come to its end. -/
theorem IsSound.finish (sound : reader.IsSound) : LineTokens reader.finish :=
  lineTokens_resolveDelimiters sound.flush.line sound.flush.marked

end Reader

/-! ### Lines -/

theorem lineTokens_linkTokens (target : LinkTarget) {content : List Token} (line : LineTokens content) :
    LineTokens (linkTokens target content) := lineTokens_around line rfl rfl rfl rfl

theorem lineTokens_imageToken (target : LinkTarget) (text : List Char) {content : List Token}
    (line : LineTokens content) : LineTokens [imageToken target text content] :=
  lineTokens_singleton rfl (by simp [imageToken, blockKinds]) (by simp [imageToken]) fun _ => line

/-- Reading a range adds what is found to what has been gathered. The contents of links and images have
    closed tokens. -/
theorem lineTokens_readRange (line : LineText) (limit : Nat) (search : LabelSearch)
    {content : Nat → Nat → Memo → List Token × Memo} {picture : List Char → List Token}
    (closedContent : ∀ start stop memo, LineTokens (content start stop memo).1)
    (closedPicture : ∀ text, LineTokens (picture text)) (fuel position : Nat) {reader : Reader}
    (sound : reader.IsSound) (memo : Memo) :
    LineTokens (readRange line limit search content picture fuel position reader memo).1 := by
  induction fuel generalizing position reader memo with
  | zero => exact sound.finish
  | succ fuel ih =>
      rw [readRange]
      split
      · exact sound.finish
      · split
        · exact ih _ (sound.addText _) _
        · next found stop memo' is =>
            have closed : found.IsClosed :=
              isClosed_findAt (congrArg Prod.fst is)
            dsimp only
            cases found with
            | chars text => exact ih _ (sound.addText text) _
            | tokens written => exact ih _ (sound.addTokens closed) _
            | lineBreak => exact ih _ sound.addBreak _
            | marks mark width run able => exact ih _ (sound.addMarks closed run able) _
            | image target text =>
                exact ih _ (sound.addTokens (lineTokens_imageToken target text (closedPicture text))) _
            | link target first last =>
                exact ih _ (sound.addTokens (lineTokens_linkTokens target (closedContent _ _ _))) _

/-- Ranges of a line have closed tokens, however many levels are left. -/
theorem lineTokens_rangeTokens (line : LineText) {picture : List Char → List Token}
    (closedPicture : ∀ text, LineTokens (picture text)) (levels start limit : Nat) (memo : Memo) :
    LineTokens (rangeTokens line picture levels start limit memo).1 := by
  induction levels generalizing start limit memo with
  | zero => exact (Reader.isSound_empty.addText _).finish
  | succ levels ih =>
      exact lineTokens_readRange line limit _ ih closedPicture _ _ Reader.isSound_empty memo

theorem lineTokens_boundedTokens (definitions : Definitions) (bound : Nat) (text : List Char) :
    LineTokens (boundedTokens definitions bound text) := by
  induction bound generalizing text with
  | zero => exact lineTokens_nil
  | succ bound ih => exact lineTokens_rangeTokens _ ih _ _ _ _

/-- The tokens of a line nest by themselves. -/
theorem openedFrom_inlineTokens (definitions : Definitions) (text : List Char) :
    Prose.openedFrom true [] (inlineTokens definitions text) = some [] :=
  (lineTokens_boundedTokens definitions _ text).openedFrom

/-- A line holds no blocks. -/
theorem standInLine_inlineTokens (definitions : Definitions) (text : List Char) :
    standInLine (inlineTokens definitions text) = true :=
  (lineTokens_boundedTokens definitions _ text).standInLine

end Bindery.CommonMark
