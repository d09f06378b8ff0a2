/-
Module: Bindery.Proofs.FilledChapters
Layer: Proofs
Purpose: Loading a book fills in the texts of its chapters and changes nothing else. What the summary lists
  stays as it is, at every depth; a chapter with a source gets the text of its file, and a draft stays empty
  while the chapters below it are filled. Loading stops at the first source, in the order of the summary,
  whose file cannot be read or decoded, and names it.
Imports: Bindery.Proofs.DecodedText, Bindery.Proofs.LoadedBook, Bindery.Proofs.SummaryLinks
Main exports: HoldsText, Unreadable, ContentOf, Filled, readText_eq_ok_iff, filled_of_loadItems,
  content_of_parseSummary, loadItems_eq_error_iff, loadBook_fills
-/
import Bindery.Proofs.DecodedText
import Bindery.Proofs.LoadedBook
import Bindery.Proofs.SummaryLinks

namespace Bindery.Book

/-! ### Texts of files -/

section Texts

variable (decoder : Text.Decoder) (disk : Disk)

/-- The file at a path holds a text: its bytes denote it. -/
def HoldsText (path : Path) (text : String) : Prop :=
  ∃ bytes, disk.read path = .ok bytes ∧ decoder.Denotes bytes text

/-- A file holds at most one text. -/
theorem HoldsText.unique {decoder : Text.Decoder} {disk : Disk} {path : Path} {text other : String}
    (holds : HoldsText decoder disk path text) (holdsOther : HoldsText decoder disk path other) :
    text = other := by
  obtain ⟨bytes, read, denotes⟩ := holds
  obtain ⟨bytes', readOther, denotesOther⟩ := holdsOther
  obtain rfl := Except.ok.inj (read.symm.trans readOther)
  exact denotes.unique denotesOther

/-- Why a path holds no text: the system refuses to read it, or its bytes denote nothing. -/
inductive Unreadable (path : Path) : LoadProblem → Prop where
  | refused {fault : AccessFault} (failed : disk.read path = .error ⟨path, fault⟩)
      (followed : fault ≠ .nullCharacter) : Unreadable path (.unreadable fault)
  | undecodable {bytes : List UInt8} (read : disk.read path = .ok bytes)
      (noText : ∀ text, ¬ decoder.Denotes bytes text) : Unreadable path .undecodable

variable {decoder disk}

/-- A path is read as the text that its file holds. -/
theorem readText_eq_ok_iff {path : Path} {text : String} :
    readText decoder disk path = .ok text ↔ HoldsText decoder disk path text := by
  unfold readText HoldsText
  cases disk.read path with
  | error error =>
      refine iff_of_false (fun ok => ?_) (by rintro ⟨bytes, read, -⟩; cases read)
      dsimp only at ok
      split at ok <;> cases ok
  | ok bytes =>
      simp only [Except.ok.injEq, exists_eq_left', ← Text.Decoder.text?_eq_some_iff]
      cases decoder.text? bytes <;> simp

/-- A path that can be followed is a problem for the reason that it holds no text. -/
theorem readText_eq_problem_iff {path : Path} {problem : LoadProblem} :
    readText decoder disk path = .error (.problem path problem) ↔
      Unreadable decoder disk path problem := by
  constructor
  · intro failed
    unfold readText at failed
    split at failed
    · next error refused =>
        rw [Disk.path_of_read refused] at refused
        split at failed
        · cases failed
        · next noNull =>
            cases failed
            exact .refused refused noNull
    · next bytes read =>
        split at failed
        · cases failed
        · next noText =>
            cases failed
            refine .undecodable read fun text denotes => ?_
            rw [Text.Decoder.text?_eq_some_iff.mpr denotes] at noText
            cases noText
  · intro unreadable
    cases unreadable with
    | @refused fault failed followed =>
        rw [readText, failed]
        cases fault with
        | nullCharacter => exact absurd rfl followed
        | _ => rfl
    | @undecodable bytes read noText =>
        have undecoded : decoder.text? bytes = none := by
          cases decoded : decoder.text? bytes with
          | none => rfl
          | some text => exact absurd (Text.Decoder.text?_eq_some_iff.mp decoded) (noText text)
        rw [readText, read]
        simp only [undecoded]

/-- A path without null character holds a text, or there is a reason why not. -/
theorem holdsText_or_unreadable {path : Path} (noNull : path.hasNull = false) :
    (∃ text, HoldsText decoder disk path text) ∨
      ∃ problem, Unreadable decoder disk path problem := by
  rcases readText_of_noNull decoder disk noNull with ⟨text, ok⟩ | ⟨problem, failed⟩
  · exact .inl ⟨text, readText_eq_ok_iff.mp ok⟩
  · exact .inr ⟨problem, readText_eq_problem_iff.mp failed⟩

/-- There is no reason why a text that is held should not be. -/
theorem Unreadable.not_holdsText {path : Path} {problem : LoadProblem}
    (unreadable : Unreadable decoder disk path problem) (text : String) :
    ¬ HoldsText decoder disk path text := by
  intro holds
  have ok := readText_eq_ok_iff.mpr holds
  rw [readText_eq_problem_iff.mpr unreadable] at ok
  cases ok

/-- A summary lists the items of the text that its file holds. -/
theorem loadSummary_eq_ok_iff_holdsText {tools : Tools} {path : Path} {items : List Item} :
    loadSummary tools disk path = .ok items ↔
      disk.isFile path = .ok true ∧
        ∃ text, HoldsText tools.decoder disk path text ∧ parseSummary tools.parser text = .ok items := by
  rw [loadSummary_eq_ok_iff]
  simp only [readText_eq_ok_iff]

end Texts

/-! ### Listed chapters have no texts yet -/

/-- The texts of the chapters of a tree are those of its links. -/
theorem contents_eq_map_linksFrom : ∀ (items : List Item) (parent : Option Nat) (index : Nat),
    contents items = (linksFrom parent index items).map (·.1.content)
  | [], _, _ => by simp [contents, linksFrom, entriesFrom]
  | .chapter chapter subItems :: rest, parent, index => by
      have below := contents_eq_map_linksFrom subItems (some index) (index + 1)
      have behind := contents_eq_map_linksFrom rest parent
        (index + (Item.chapter chapter subItems).chapterCount)
      simp only [linksFrom, List.map_map] at below behind ⊢
      simp [contents, Item.contents, entriesFrom, Item.entriesFrom, below, behind, Entry.link]
  | .separator :: rest, parent, index | .part _ :: rest, parent, index
  | .foreign _ :: rest, parent, index => by
      have behind := contents_eq_map_linksFrom rest parent index
      simpa [contents, Item.contents, linksFrom, entriesFrom, Item.entriesFrom, Item.chapterCount]
        using behind

/-- A link has no text of its own. -/
theorem content_of_firstLink? {line : List Prose.Token} {chapter : Chapter}
    (link : firstLink? line = some chapter) : chapter.content = "" := by
  induction line with
  | nil => cases link
  | cons token rest ih =>
      rw [firstLink?] at link
      split at link
      · rw [← Option.some.inj link]
      · exact ih link

/-- A chapter of a table of contents has the text of its link, which is none. -/
theorem Linked.content_eq {tokens : List Prose.Token} {link : Chapter × Option Nat} {place : Nat}
    (linked : Linked tokens link place) : link.1.content = "" := by
  obtain ⟨token, -, isFirst⟩ := Option.bind_eq_some_iff.mp linked.chapter
  split at isFirst
  · have empty : ({ link.1 with number := none } : Chapter).content = "" := content_of_firstLink? isFirst
    exact empty
  · cases isFirst

/-- What has been read without a fault agrees with the links of its tokens. -/
theorem Agrees.of_foldlM {tokens rest : List Prose.Token} {summary next : Summary}
    (agrees : Agrees tokens summary) (ok : rest.foldlM Summary.step summary = .ok next) :
    Agrees (tokens ++ rest) next := by
  induction rest generalizing tokens summary with
  | nil =>
      obtain rfl := Except.ok.inj ok
      rwa [List.append_nil]
  | cons token rest ih =>
      rw [List.foldlM_cons] at ok
      obtain ⟨between, okToken, okRest⟩ := exists_of_bind_ok ok
      have agreesRest := ih (agrees.step okToken) okRest
      rwa [List.append_assoc] at agreesRest

/-- The chapters that a summary lists have no texts. -/
theorem content_of_parseSummary {parser : Prose.Parser} {text : String} {items : List Item}
    (parsed : parseSummary parser text = .ok items) : ∀ content ∈ contents items, content = "" := by
  obtain ⟨summary, ok, rfl⟩ := exists_of_map_ok parsed
  have agrees := agrees_empty.of_foldlM ok
  have empty : ∀ link ∈ linksFrom none 0 summary.finish, link.1.content = "" :=
    ((List.forall₂_and_left _ _).mp
      (agrees.links.imp fun link place linked => ⟨linked.content_eq, linked⟩)).1
  rw [contents_eq_map_linksFrom _ none 0]
  intro content member
  obtain ⟨link, isLink, rfl⟩ := List.mem_map.mp member
  exact empty link isLink

/-! ### Filling in -/

section Filling

variable (decoder : Text.Decoder) (disk : Disk) (sources : Path)

/-- What the text of a chapter has to be, given its source. A draft has none. -/
inductive ContentOf : Option Path → String → Prop where
  | draft : ContentOf none ""
  | source {source : Path} {text : String} (holds : HoldsText decoder disk (sources.join source) text) :
      ContentOf (some source) text

/-- Items and the same items with the texts of their chapters, at every depth. -/
inductive Filled : List Item → List Item → Prop where
  | nil : Filled [] []
  | chapter {chapter : Chapter} {content : String} {subItems below rest more : List Item}
      (text : ContentOf decoder disk sources chapter.source content) (inside : Filled subItems below)
      (behind : Filled rest more) :
      Filled (.chapter chapter subItems :: rest) (.chapter { chapter with content } below :: more)
  | other {item : Item} {rest more : List Item} (noChapter : item.isChapter = false)
      (behind : Filled rest more) : Filled (item :: rest) (item :: more)

variable {decoder disk sources}

/-- The text of a chapter that had none. -/
theorem contentOf_of_loadContent {chapter loaded : Chapter} (empty : chapter.content = "")
    (ok : loadContent decoder disk sources chapter = .ok loaded) :
    ∃ content, loaded = { chapter with content } ∧
      ContentOf decoder disk sources chapter.source content := by
  unfold loadContent at ok
  split at ok
  · next noSource =>
      refine ⟨chapter.content, (Except.ok.inj ok).symm, ?_⟩
      rw [noSource, empty]
      exact .draft
  · next source hasSource =>
      obtain ⟨text, read, rfl⟩ := exists_of_map_ok ok
      refine ⟨text, rfl, ?_⟩
      rw [hasSource]
      exact .source (readText_eq_ok_iff.mp read)

/-- Loading fills in the texts of items that had none. -/
theorem filled_of_loadItems : ∀ {items loaded : List Item},
    (∀ content ∈ contents items, content = "") → loadItems decoder disk sources items = .ok loaded →
      Filled decoder disk sources items loaded
  | [], loaded, _, ok => by
      rw [loadItems] at ok
      obtain rfl := Except.ok.inj ok
      exact .nil
  | .chapter chapter subItems :: rest, loaded, empty, ok => by
      simp only [contents, Item.contents, List.cons_append, List.forall_mem_cons,
        List.forall_mem_append] at empty
      rw [loadItems_chapter] at ok
      obtain ⟨filled, okContent, ok⟩ := exists_of_bind_ok ok
      obtain ⟨below, okBelow, ok⟩ := exists_of_bind_ok ok
      obtain ⟨more, okMore, rfl⟩ := exists_of_map_ok ok
      obtain ⟨content, rfl, text⟩ := contentOf_of_loadContent empty.1 okContent
      exact .chapter text (filled_of_loadItems empty.2.1 okBelow) (filled_of_loadItems empty.2.2 okMore)
  | .separator :: rest, loaded, empty, ok | .part _ :: rest, loaded, empty, ok
  | .foreign _ :: rest, loaded, empty, ok => by
      simp only [contents, Item.contents, List.nil_append] at empty
      rw [loadItems_of_noChapter sources rfl] at ok
      obtain ⟨more, okMore, rfl⟩ := exists_of_map_ok ok
      exact .other rfl (filled_of_loadItems empty okMore)

end Filling

/-! ### Failing -/

section Failing

variable {decoder : Text.Decoder} {disk : Disk} {sources : Path}

variable (decoder disk sources) in
/-- Some source is the first, in the order of the items, that holds no text: for this problem. -/
def FirstFault (items : List Item) (source : Path) (problem : LoadProblem) : Prop :=
  ∃ before after, itemSources items = before ++ source :: after ∧
    (∀ earlier ∈ before, ∃ text, HoldsText decoder disk (sources.join earlier) text) ∧
      Unreadable decoder disk (sources.join source) problem

/-- Joined paths have no null character if neither has one. -/
theorem hasNull_join {base path : Path} (noNullBase : base.hasNull = false)
    (noNull : path.hasNull = false) : (base.join path).hasNull = false := by
  unfold Path.join
  split
  · unfold Path.hasNull at noNullBase noNull ⊢
    simp only [List.any_append, noNullBase, noNull, Bool.or_false]
  · exact noNull

/-- A text is held at no path with a null character, and neither are the directories around it. -/
theorem noNull_of_holdsText {text name : String} (inside : (Path.ofString name).anchor = .current)
    (holds : HoldsText decoder disk (inDirectory sources name) text) : sources.hasNull = false := by
  have ok := readText_eq_ok_iff.mpr holds
  have noNull : (inDirectory sources name).hasNull = false := by
    rw [Bool.eq_false_iff]
    intro null
    rw [readText_of_hasNull decoder disk null] at ok
    cases ok
  unfold inDirectory Path.join at noNull
  rw [inside] at noNull
  unfold Path.hasNull at noNull ⊢
  simp only [List.any_append, Bool.or_eq_false_iff] at noNull
  exact noNull.1

theorem isOk_readText_iff {path : Path} :
    (readText decoder disk path).isOk = true ↔ ∃ text, HoldsText decoder disk path text := by
  cases read : readText decoder disk path with
  | ok text => exact iff_of_true rfl ⟨text, readText_eq_ok_iff.mp read⟩
  | error fault =>
      refine iff_of_false Bool.false_ne_true ?_
      rintro ⟨text, holds⟩
      rw [readText_eq_ok_iff.mpr holds] at read
      cases read

/-- The first source that cannot be read is one without a text, behind sources that have one. -/
theorem firstUnreadable?_eq_some_iff {items : List Item} (noNullBase : sources.hasNull = false)
    (noNull : ∀ source ∈ itemSources items, source.hasNull = false) {path : Path} :
    firstUnreadable? decoder disk ((itemSources items).map sources.join) = some path ↔
      ∃ source problem, FirstFault decoder disk sources items source problem ∧
        path = sources.join source := by
  rw [firstUnreadable?, List.find?_map, Option.map_eq_some_iff]
  constructor
  · rintro ⟨source, found, rfl⟩
    obtain ⟨failed, before, after, split, readable⟩ := List.find?_eq_some_iff_append.mp found
    have isSource : source ∈ itemSources items := by simp [split]
    have decided : (∃ text, HoldsText decoder disk (sources.join source) text) ∨
        ∃ problem, Unreadable decoder disk (sources.join source) problem :=
      holdsText_or_unreadable (hasNull_join noNullBase (noNull source isSource))
    rcases decided with holds | ⟨problem, unreadable⟩
    · simp [isOk_readText_iff.mpr holds] at failed
    · refine ⟨source, problem, ⟨before, after, split, fun earlier member => ?_, unreadable⟩, rfl⟩
      exact isOk_readText_iff.mp (by simpa using readable earlier member)
  · rintro ⟨source, problem, ⟨before, after, split, readable, unreadable⟩, rfl⟩
    refine ⟨source, List.find?_eq_some_iff_append.mpr ⟨?_, before, after, split, ?_⟩, rfl⟩
    · have notOk : ¬ (readText decoder disk (sources.join source)).isOk = true := by
        rw [isOk_readText_iff]
        rintro ⟨text, holds⟩
        exact unreadable.not_holdsText text holds
      simpa using notOk
    · intro earlier member
      simpa using isOk_readText_iff.mpr (readable earlier member)

/-- Where no source has a null character, loading fails for the first that holds no text. -/
theorem loadItems_eq_error_iff {items : List Item} (noNullBase : sources.hasNull = false)
    (noNull : ∀ source ∈ itemSources items, source.hasNull = false) (fault : LoadFault) :
    loadItems decoder disk sources items = .error fault ↔
      ∃ source problem, FirstFault decoder disk sources items source problem ∧
        fault = .problem (sources.join source) problem := by
  have decided : DecidedBy decoder disk ((itemSources items).map sources.join)
      (loadItems decoder disk sources items) := decidedBy_loadItems sources items
  rcases decided with ⟨readable, loaded, ok⟩ | ⟨path, decisive, first, failed, stopped⟩
  · refine iff_of_false (by rw [ok]; nofun) ?_
    rintro ⟨source, problem, firstFault, -⟩
    have first := (firstUnreadable?_eq_some_iff noNullBase noNull).mpr ⟨source, problem, firstFault, rfl⟩
    rw [readable] at first
    cases first
  · constructor
    · intro fails
      obtain rfl := Except.error.inj (stopped.symm.trans fails)
      obtain ⟨source, problem, firstFault, rfl⟩ :=
        (firstUnreadable?_eq_some_iff noNullBase noNull).mp first
      obtain ⟨-, -, -, -, unreadable⟩ := id firstFault
      rw [readText_eq_problem_iff.mpr unreadable] at failed
      exact ⟨source, problem, firstFault, (Except.error.inj failed).symm⟩
    · rintro ⟨source, problem, firstFault, rfl⟩
      have same := (firstUnreadable?_eq_some_iff noNullBase noNull).mpr ⟨source, problem, firstFault, rfl⟩
      obtain rfl := Option.some.inj (first.symm.trans same)
      obtain ⟨-, -, -, -, unreadable⟩ := firstFault
      rw [readText_eq_problem_iff.mpr unreadable] at failed
      rw [stopped, Except.error.inj failed]

/-- Some source holds no text if and only if one of them is the first. -/
theorem exists_firstFault_iff {items : List Item} (noNullBase : sources.hasNull = false)
    (noNull : ∀ source ∈ itemSources items, source.hasNull = false) :
    (∃ source problem, FirstFault decoder disk sources items source problem) ↔
      ∃ source ∈ itemSources items, ∀ text, ¬ HoldsText decoder disk (sources.join source) text := by
  constructor
  · rintro ⟨source, problem, before, after, split, -, unreadable⟩
    exact ⟨source, by simp [split], unreadable.not_holdsText⟩
  · rintro ⟨source, isSource, noText⟩
    have notOk : ¬ (readText decoder disk (sources.join source)).isOk = true := by
      rw [isOk_readText_iff]
      rintro ⟨text, holds⟩
      exact noText text holds
    have found : (firstUnreadable? decoder disk ((itemSources items).map sources.join)).isSome := by
      rw [firstUnreadable?, List.find?_isSome]
      exact ⟨sources.join source, List.mem_map_of_mem isSource, by simpa using notOk⟩
    obtain ⟨path, first⟩ := Option.isSome_iff_exists.mp found
    obtain ⟨first, problem, firstFault, -⟩ := (firstUnreadable?_eq_some_iff noNullBase noNull).mp first
    exact ⟨first, problem, firstFault⟩

end Failing

/-! ### Whole books -/

theorem map_eq_error_iff {α β ε : Type} {change : α → β} {outcome : Except ε α} {fault : ε} :
    outcome.map change = .error fault ↔ outcome = .error fault := by
  cases outcome <;> simp [Except.map]

/-- A loaded book is what its summary lists, with each chapter that has a source holding the text of its
    file and nothing else changed. With directory, configuration and summary read and no null character in
    a source, loading fails if and only if some source holds no text, and then for the first of them. -/
theorem loadBook_fills (tools : Tools) (disk : Disk) (root : Path) :
    (∀ book, loadBook tools disk root = .ok book →
      book.root = root ∧ loadConfig tools disk root = .ok book.config ∧
        ∃ text items,
          HoldsText tools.decoder disk (summaryPath root book.config) text ∧
            parseSummary tools.parser text = .ok items ∧
              Filled tools.decoder disk (inDirectory root book.config.src) items book.items) ∧
      ∀ (config : Config) (text : String) (items : List Item),
        disk.isDirectory root = .ok true → loadConfig tools disk root = .ok config →
        disk.isFile (summaryPath root config) = .ok true →
        HoldsText tools.decoder disk (summaryPath root config) text →
        parseSummary tools.parser text = .ok items → (∀ source ∈ itemSources items, source.hasNull = false) →
          ((∃ fault, loadBook tools disk root = .error fault) ↔
            ∃ source ∈ itemSources items,
              ∀ text, ¬ HoldsText tools.decoder disk ((inDirectory root config.src).join source) text) ∧
            ∀ fault, loadBook tools disk root = .error fault ↔
              ∃ source problem,
                FirstFault tools.decoder disk (inDirectory root config.src) items source problem ∧
                  fault = .problem ((inDirectory root config.src).join source) problem := by
  refine ⟨fun book ok => ?_, fun config text items isBook configured isFile holds parsed noNull => ?_⟩
  · obtain ⟨sameRoot, configured, items, listed, okItems⟩ := exists_summary_of_loadBook ok
    obtain ⟨-, text, holds, parsed⟩ := loadSummary_eq_ok_iff_holdsText.mp listed
    exact ⟨sameRoot, configured, text, items, holds, parsed,
      filled_of_loadItems (content_of_parseSummary parsed) okItems⟩
  · have noNullBase : (inDirectory root config.src).hasNull = false :=
      noNull_of_holdsText (by decide) holds
    have listed := loadSummary_eq_ok_iff_holdsText.mpr ⟨isFile, text, holds, parsed⟩
    have failsWith : ∀ fault, loadBook tools disk root = .error fault ↔
        loadItems tools.decoder disk (inDirectory root config.src) items = .error fault := by
      intro fault
      rw [loadBook_of_isDirectory isBook configured, listed]
      exact map_eq_error_iff
    refine ⟨?_, fun fault => (failsWith fault).trans (loadItems_eq_error_iff noNullBase noNull fault)⟩
    rw [← exists_firstFault_iff noNullBase noNull]
    constructor
    · rintro ⟨fault, failed⟩
      obtain ⟨source, problem, first, -⟩ :=
        (loadItems_eq_error_iff noNullBase noNull fault).mp ((failsWith fault).mp failed)
      exact ⟨source, problem, first⟩
    · rintro ⟨source, problem, first⟩
      exact ⟨_, (failsWith _).mpr ((loadItems_eq_error_iff noNullBase noNull _).mpr
        ⟨source, problem, first, rfl⟩)⟩

/-- The summary of a chapter with a draft below it and a chapter below the draft. -/
def draftBetween : String := "- [A](a.md)\n  - [B]()\n    - [C](c.md)\n"

/-- A book with that summary and some texts. -/
def withTexts (texts : List (String × String)) : Disk where
  files := .ofFiles ((("SUMMARY.md", draftBetween) :: texts).map fun (name, text) =>
    (Path.ofString ("book/src/" ++ name), .file (Text.utf8Bytes text)))

/-- The texts of both chapters, and of the first alone. -/
def bothOrOne : List (List (String × String)) := [[("a.md", "one"), ("c.md", "two")], [("a.md", "one")]]

/-- The sources of a book without configuration. -/
def plainSources : Path := inDirectory (Path.ofString "book") ({} : Config).src

/-- With or without the second text, the summary is read. -/
theorem opens_withTexts : ∀ texts ∈ bothOrOne,
    (withTexts texts).isDirectory (Path.ofString "book") = .ok true ∧
      loadConfig .common (withTexts texts) (Path.ofString "book") = .ok {} ∧
        (withTexts texts).isFile (summaryPath (Path.ofString "book") {}) = .ok true ∧
          HoldsText Tools.common.decoder (withTexts texts) (summaryPath (Path.ofString "book") {})
            draftBetween := by
  have opens : ∀ texts ∈ bothOrOne,
      ((withTexts texts).isDirectory (Path.ofString "book")).toOption = some true ∧
        (loadConfig .common (withTexts texts) (Path.ofString "book")).toOption = some {} ∧
          ((withTexts texts).isFile (summaryPath (Path.ofString "book") {})).toOption = some true ∧
            (readText Tools.common.decoder (withTexts texts)
              (summaryPath (Path.ofString "book") {})).toOption = some draftBetween := by decide +kernel
  intro texts member
  obtain ⟨isBook, configured, isFile, read⟩ := opens texts member
  exact ⟨ok_of_toOption isBook, ok_of_toOption configured, ok_of_toOption isFile,
    readText_eq_ok_iff.mp (ok_of_toOption read)⟩

theorem loadBook_fills_draftBetween :
    (∃ book items, loadBook .common (withTexts [("a.md", "one"), ("c.md", "two")]) (Path.ofString "book") =
        .ok book ∧ parseSummary CommonMark.documentTokens draftBetween = .ok items ∧
          Filled Tools.common.decoder (withTexts [("a.md", "one"), ("c.md", "two")]) plainSources items
            book.items) ∧
      loadBook .common (withTexts [("a.md", "one")]) (Path.ofString "book") =
        .error (.problem (plainSources.join (Path.ofString "c.md")) (.unreadable .missing)) := by
  have listed : (parseSummary CommonMark.documentTokens draftBetween).toOption.map itemSources =
      some [Path.ofString "a.md", Path.ofString "c.md"] := by decide +kernel
  obtain ⟨items, isSummary, sources⟩ := Option.map_eq_some_iff.mp listed
  have parsed : parseSummary CommonMark.documentTokens draftBetween = .ok items :=
    ok_of_toOption isSummary
  constructor
  · obtain ⟨isBook, configured, isFile, holds⟩ := opens_withTexts _ (List.mem_cons_self ..)
    have readable : firstUnreadable? Tools.common.decoder (withTexts [("a.md", "one"), ("c.md", "two")])
        ((itemSources items).map plainSources.join) = none := by
      rw [sources]
      decide +kernel
    obtain ⟨loaded, ok⟩ := exists_book isBook configured
      (loadSummary_eq_ok_iff_holdsText.mpr ⟨isFile, draftBetween, holds, parsed⟩) readable
    obtain ⟨-, -, text, parsedItems, holdsText, parsedText, filled⟩ := (loadBook_fills .common _ _).1 _ ok
    rw [holdsText.unique holds] at parsedText
    exact ⟨_, parsedItems, ok, parsedText, filled⟩
  · obtain ⟨isBook, configured, isFile, holds⟩ :=
      opens_withTexts [("a.md", "one")] (List.mem_cons_of_mem _ (List.mem_cons_self ..))
    have first : HoldsText Tools.common.decoder (withTexts [("a.md", "one")])
        (plainSources.join (Path.ofString "a.md")) "one" := by
      apply readText_eq_ok_iff.mp
      apply ok_of_toOption
      decide +kernel
    have missing : (withTexts [("a.md", "one")]).read (plainSources.join (Path.ofString "c.md")) =
        .error ⟨plainSources.join (Path.ofString "c.md"), .missing⟩ := by decide +kernel
    have noNull : ∀ source ∈ itemSources items, source.hasNull = false := by
      rw [sources]
      decide
    have failsWith := ((loadBook_fills .common _ _).2 {} draftBetween items isBook configured isFile
      holds parsed noNull).2
    apply (failsWith _).mpr
    refine ⟨Path.ofString "c.md", .unreadable .missing,
      ⟨[Path.ofString "a.md"], [], sources, fun earlier member => ?_, .refused missing nofun⟩, rfl⟩
    obtain rfl := List.mem_singleton.mp member
    exact ⟨"one", first⟩

end Bindery.Book
