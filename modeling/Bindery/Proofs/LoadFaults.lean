/-
Module: Bindery.Proofs.LoadFaults
Layer: Proofs
Purpose: Loading a book comes to a book, to a problem with one of its files, or to an error that the loader
  does not answer for. The ways to such an error are these: the system refuses to look at the directory, the
  configuration or the summary; the reader of configurations gives up on a text; the items of the summary
  do not nest; or the first chapter that cannot be read has a null character in its path. All of it is said
  for any disk, and for anything that texts and prose are read with.
Imports: Bindery.Book.Load, Bindery.Proofs.FileAccess, Bindery.Proofs.SummaryTree
Main exports: GivesUp, firstUnreadable?, decidedBy_loadItems, Answers, Escapes, loadBook_of_escapes,
  answers_or_escapes, loadBook_escapes_iff
-/
import Bindery.Book.Load
import Bindery.Proofs.FileAccess
import Bindery.Proofs.SummaryTree

namespace Bindery.Book

/-! ### Texts of files -/

section Loading

variable (decoder : Text.Decoder) (disk : Disk)

/-- A path with a null character is refused. -/
theorem readText_of_hasNull {path : Path} (null : path.hasNull = true) :
    readText decoder disk path = .error (.access ⟨path, .nullCharacter⟩) := by
  rw [readText, Disk.read_eq_null_iff.mpr null]

/-- The text at any other path is read, or the file has a problem. -/
theorem readText_of_noNull {path : Path} (noNull : path.hasNull = false) :
    (∃ text, readText decoder disk path = .ok text) ∨
      ∃ problem, readText decoder disk path = .error (.problem path problem) := by
  unfold readText
  cases read : disk.read path with
  | error error =>
      have named : error = ⟨path, error.fault⟩ := Disk.path_of_read read
      cases isFault : error.fault with
      | nullCharacter =>
          rw [named, isFault, Disk.read_eq_null_iff, noNull] at read
          cases read
      | _ =>
          refine .inr ⟨.unreadable error.fault, ?_⟩
          simp only [isFault]
  | ok bytes =>
      dsimp only
      cases decoder.text? bytes with
      | some text => exact .inl ⟨text, rfl⟩
      | none => exact .inr ⟨_, rfl⟩

/-- What leads to something is a path without null character. -/
theorem noNull_of_isFile {path : Path} (isFile : disk.isFile path = .ok true) : path.hasNull = false := by
  cases null : path.hasNull with
  | false => rfl
  | true =>
      have absent : disk.look path = .error .nullCharacter := by
        rw [Disk.look, Disk.objection?_eq_null_iff.mpr null]
      rw [Disk.isFile, Disk.leadsTo, absent] at isFile
      cases isFile

/-! ### Configuration and summary -/

/-- The reader gives up on the text of a configuration: it is nested too deep, or an integer in it has too
    many digits. -/
inductive GivesUp (tools : Tools) (text : String) : String → Prop where
  | exhausted {error : String} (tooDeep : tools.exhaustion? text = some error) : GivesUp tools text error
  | digits {error : String} (notTooDeep : tools.exhaustion? text = none)
      (tooLong : Toml.readDocument text = .error (.givenUp error)) : GivesUp tools text error

variable {decoder disk} {tools : Tools}

/-- The text of a configuration holds one, or there is something wrong with it, unless the reader gives
    up. -/
theorem configOfText_cases (tools : Tools) (path : Path) (text : String) :
    (∃ config, configOfText tools path text = .ok config) ∨
      (∃ problem, configOfText tools path text = .error (.problem path problem)) ∨
        ∃ error, GivesUp tools text error := by
  unfold configOfText
  cases tooDeep : tools.exhaustion? text with
  | some error => exact .inr (.inr ⟨error, .exhausted tooDeep⟩)
  | none =>
      dsimp only
      cases readAs : Toml.readDocument text with
      | error fault =>
          cases fault with
          | invalid detail => exact .inr (.inl ⟨_, rfl⟩)
          | givenUp error => exact .inr (.inr ⟨error, .digits tooDeep readAs⟩)
      | ok document =>
          dsimp only
          cases configOfDocument document with
          | error problem => exact .inr (.inl ⟨problem, rfl⟩)
          | ok config => exact .inl ⟨config, rfl⟩

theorem configOfText_of_givesUp {text error : String} (givesUp : GivesUp tools text error) (path : Path) :
    configOfText tools path text = .error (.givenUp error) := by
  cases givesUp with
  | exhausted tooDeep => rw [configOfText, tooDeep]
  | digits notTooDeep tooLong => rw [configOfText, notTooDeep, tooLong]

/-- The errors that reading a configuration does not answer for. -/
inductive ConfigEscapes (tools : Tools) (disk : Disk) (path : Path) : LoadFault → Prop where
  /-- The system refuses to look at its path. -/
  | refused {fault : AccessFault} (refuses : disk.Refuses path fault) :
      ConfigEscapes tools disk path (.access ⟨path, fault⟩)
  /-- The reader gives up on its text. -/
  | givenUp {text error : String} (isFile : disk.isFile path = .ok true)
      (read : readText tools.decoder disk path = .ok text) (givesUp : GivesUp tools text error) :
      ConfigEscapes tools disk path (.givenUp error)

/-- The errors that reading a summary does not answer for. -/
inductive SummaryEscapes (tools : Tools) (disk : Disk) (path : Path) : LoadFault → Prop where
  /-- The system refuses to look at its path. -/
  | refused {fault : AccessFault} (refuses : disk.Refuses path fault) :
      SummaryEscapes tools disk path (.access ⟨path, fault⟩)
  /-- Its items do not nest. -/
  | unnested {text : String} {fault : SummaryFault} (isFile : disk.isFile path = .ok true)
      (read : readText tools.decoder disk path = .ok text)
      (unnested : parseSummary tools.parser text = .error fault) :
      SummaryEscapes tools disk path (.summary fault)

/-- The configuration is read, or its file has a problem, or reading it is not answered for. -/
theorem loadConfig_cases (tools : Tools) (disk : Disk) (root : Path) :
    (∃ config, loadConfig tools disk root = .ok config) ∨
      (∃ problem, loadConfig tools disk root = .error (.problem (inDirectory root configName) problem)) ∨
        ∃ fault, ConfigEscapes tools disk (inDirectory root configName) fault := by
  unfold loadConfig
  dsimp only
  cases isFile : disk.isFile (inDirectory root configName) with
  | error error =>
      obtain ⟨fault, refuses, rfl⟩ := Disk.leadsTo_eq_error_iff.mp isFile
      exact .inr (.inr ⟨_, .refused refuses⟩)
  | ok found =>
      cases found with
      | false => exact .inl ⟨_, rfl⟩
      | true =>
          dsimp only
          rcases readText_of_noNull tools.decoder disk (noNull_of_isFile disk isFile) with
            ⟨text, read⟩ | ⟨problem, faulty⟩
          · rw [read]
            rcases configOfText_cases tools (inDirectory root configName) text with
              configured | faulty | ⟨error, givesUp⟩
            · exact .inl configured
            · exact .inr (.inl faulty)
            · exact .inr (.inr ⟨_, .givenUp isFile read givesUp⟩)
          · rw [faulty]
            exact .inr (.inl ⟨problem, rfl⟩)

theorem loadConfig_of_escapes {root : Path} {fault : LoadFault}
    (escapes : ConfigEscapes tools disk (inDirectory root configName) fault) :
    loadConfig tools disk root = .error fault := by
  unfold loadConfig
  cases escapes with
  | @refused fault refuses =>
      have unanswered : disk.isFile (inDirectory root configName) = .error ⟨_, fault⟩ :=
        Disk.leadsTo_eq_error_iff.mpr ⟨fault, refuses, rfl⟩
      simp only [unanswered]
  | givenUp isFile read givesUp =>
      simp only [isFile, read]
      exact configOfText_of_givesUp givesUp _

/-- The summary is read, or its file has a problem, or reading it is not answered for. -/
theorem loadSummary_cases (tools : Tools) (disk : Disk) (path : Path) :
    (∃ items, loadSummary tools disk path = .ok items) ∨
      (∃ problem, loadSummary tools disk path = .error (.problem path problem)) ∨
        ∃ fault, SummaryEscapes tools disk path fault := by
  unfold loadSummary
  cases isFile : disk.isFile path with
  | error error =>
      obtain ⟨fault, refuses, rfl⟩ := Disk.leadsTo_eq_error_iff.mp isFile
      exact .inr (.inr ⟨_, .refused refuses⟩)
  | ok found =>
      cases found with
      | false => exact .inr (.inl ⟨_, rfl⟩)
      | true =>
          dsimp only
          rcases readText_of_noNull tools.decoder disk (noNull_of_isFile disk isFile) with
            ⟨text, read⟩ | ⟨problem, faulty⟩
          · rw [read]
            dsimp only
            cases parsed : parseSummary tools.parser text with
            | error fault => exact .inr (.inr ⟨_, .unnested isFile read parsed⟩)
            | ok items => exact .inl ⟨items, rfl⟩
          · rw [faulty]
            exact .inr (.inl ⟨problem, rfl⟩)

theorem loadSummary_of_escapes {path : Path} {fault : LoadFault}
    (escapes : SummaryEscapes tools disk path fault) : loadSummary tools disk path = .error fault := by
  unfold loadSummary
  cases escapes with
  | @refused fault refuses =>
      have unanswered : disk.isFile path = .error ⟨path, fault⟩ :=
        Disk.leadsTo_eq_error_iff.mpr ⟨fault, refuses, rfl⟩
      rw [unanswered]
  | unnested isFile read unnested =>
      simp only [isFile, read, unnested]
      rfl

/-! ### Chapters -/

variable (decoder disk)

/-- The first of some paths whose text cannot be read. -/
def firstUnreadable? (paths : List Path) : Option Path :=
  paths.find? fun path => !(readText decoder disk path).isOk

/-- Does an outcome follow from reading the texts at some paths in order? It is a failure if one of them
    cannot be read, and then the first decides. -/
def DecidedBy {α : Type} (paths : List Path) (outcome : Except LoadFault α) : Prop :=
  (firstUnreadable? decoder disk paths = none ∧ ∃ loaded, outcome = .ok loaded) ∨
    ∃ path fault, firstUnreadable? decoder disk paths = some path ∧
      readText decoder disk path = .error fault ∧ outcome = .error fault

variable {decoder disk}

theorem DecidedBy.map {α β : Type} {paths : List Path} {outcome : Except LoadFault α}
    (decided : DecidedBy decoder disk paths outcome) (change : α → β) :
    DecidedBy decoder disk paths (outcome.map change) := by
  rcases decided with ⟨readable, loaded, rfl⟩ | ⟨path, fault, first, failed, rfl⟩
  · exact .inl ⟨readable, change loaded, rfl⟩
  · exact .inr ⟨path, fault, first, failed, rfl⟩

/-- What comes after a failure is not looked at. -/
theorem DecidedBy.andThen {α β : Type} {paths more : List Path} {outcome : Except LoadFault α}
    {next : α → Except LoadFault β} (decided : DecidedBy decoder disk paths outcome)
    (decidedNext : ∀ loaded, DecidedBy decoder disk more (next loaded)) :
    DecidedBy decoder disk (paths ++ more) (outcome.bind next) := by
  have split : firstUnreadable? decoder disk (paths ++ more) =
      (firstUnreadable? decoder disk paths).or (firstUnreadable? decoder disk more) :=
    List.find?_append
  rcases decided with ⟨readable, loaded, rfl⟩ | ⟨path, fault, first, failed, rfl⟩
  · rcases decidedNext loaded with ⟨readable', loaded', ok⟩ | ⟨path, fault, first, failed, stopped⟩
    · exact .inl ⟨by rw [split, readable, readable']; rfl, loaded', ok⟩
    · exact .inr ⟨path, fault, by rw [split, readable, first]; rfl, failed, stopped⟩
  · exact .inr ⟨path, fault, by rw [split, first]; rfl, failed, rfl⟩

variable (sources : Path)

/-- The text of a chapter. A draft has none. -/
theorem decidedBy_loadContent (chapter : Chapter) :
    DecidedBy decoder disk (chapter.source.toList.map sources.join)
      (loadContent decoder disk sources chapter) := by
  unfold loadContent
  cases chapter.source with
  | none => exact .inl ⟨rfl, chapter, rfl⟩
  | some source =>
      apply DecidedBy.map
      cases read : readText decoder disk (sources.join source) with
      | ok text => exact .inl ⟨by simp [firstUnreadable?, read, Except.isOk, Except.toBool], text, rfl⟩
      | error fault =>
          exact .inr ⟨_, fault, by simp [firstUnreadable?, read, Except.isOk, Except.toBool], read, rfl⟩

theorem loadItems_chapter (chapter : Chapter) (subItems rest : List Item) :
    loadItems decoder disk sources (.chapter chapter subItems :: rest) =
      (loadContent decoder disk sources chapter).bind fun loaded =>
        (loadItems decoder disk sources subItems).bind fun below =>
          (loadItems decoder disk sources rest).map fun more => .chapter loaded below :: more := by
  rw [loadItems]
  cases loadContent decoder disk sources chapter with
  | error fault => rfl
  | ok loaded => cases loadItems decoder disk sources subItems <;> rfl

theorem loadItems_of_noChapter {item : Item} (noChapter : item.isChapter = false) (rest : List Item) :
    loadItems decoder disk sources (item :: rest) =
      (loadItems decoder disk sources rest).map (item :: ·) := by
  cases item with
  | chapter => cases noChapter
  | _ =>
      rw [loadItems]
      intro chapter subItems same
      cases same

/-- The texts of chapters are read in order. -/
theorem decidedBy_loadItems : ∀ items : List Item,
    DecidedBy decoder disk ((itemSources items).map sources.join) (loadItems decoder disk sources items)
  | [] => .inl ⟨rfl, [], by rw [loadItems]⟩
  | .chapter chapter subItems :: rest => by
      have texts := (decidedBy_loadContent sources chapter).andThen
        fun loaded => (decidedBy_loadItems subItems).andThen fun below =>
          (decidedBy_loadItems rest).map fun more => Item.chapter loaded below :: more
      rw [itemSources, Item.sources, List.append_assoc, List.map_append, List.map_append,
        loadItems_chapter]
      exact texts
  | .separator :: rest | .part _ :: rest | .foreign _ :: rest => by
      rw [itemSources, Item.sources, List.nil_append, loadItems_of_noChapter sources rfl]
      · exact (decidedBy_loadItems rest).map _
      · intro chapter subItems same
        cases same

end Loading

/-! ### Books -/

/-- The loader answers with a book, or with a problem and the path that has it. -/
def Answers (outcome : Except LoadFault Manuscript) : Prop :=
  (∃ book, outcome = .ok book) ∨ ∃ path problem, outcome = .error (.problem path problem)

def LoadFault.IsProblem (fault : LoadFault) : Prop := ∃ path problem, fault = .problem path problem

/-- An error that is no problem is no answer. -/
theorem not_answers_error {fault : LoadFault} (noProblem : ¬ fault.IsProblem) :
    ¬ Answers (.error fault) := by
  rintro (⟨book, ok⟩ | ⟨path, problem, faulty⟩)
  · cases ok
  · exact noProblem ⟨path, problem, Except.error.inj faulty⟩

def summaryPath (root : Path) (config : Config) : Path :=
  inDirectory (inDirectory root config.src) summaryName

/-- The errors that loading a book does not answer for. -/
inductive Escapes (tools : Tools) (disk : Disk) (root : Path) : LoadFault → Prop where
  /-- The system refuses to look at the directory. -/
  | directory {fault : AccessFault} (refuses : disk.Refuses root fault) :
      Escapes tools disk root (.access ⟨root, fault⟩)
  /-- The configuration is not answered for. -/
  | config {fault : LoadFault} (isBook : disk.isDirectory root = .ok true)
      (escapes : ConfigEscapes tools disk (inDirectory root configName) fault) :
      Escapes tools disk root fault
  /-- The summary is not answered for. -/
  | summary {config : Config} {fault : LoadFault} (isBook : disk.isDirectory root = .ok true)
      (configured : loadConfig tools disk root = .ok config)
      (escapes : SummaryEscapes tools disk (summaryPath root config) fault) :
      Escapes tools disk root fault
  /-- The first chapter that cannot be read has a null character in its path. -/
  | chapter {config : Config} {items : List Item} {path : Path} (isBook : disk.isDirectory root = .ok true)
      (configured : loadConfig tools disk root = .ok config)
      (listed : loadSummary tools disk (summaryPath root config) = .ok items)
      (first : firstUnreadable? tools.decoder disk
        ((itemSources items).map (inDirectory root config.src).join) = some path)
      (null : path.hasNull = true) : Escapes tools disk root (.access ⟨path, .nullCharacter⟩)

section Books

variable {tools : Tools} {disk : Disk} {root : Path}

/-- What escapes is no problem that the loader has found. -/
theorem Escapes.not_isProblem {fault : LoadFault} (escapes : Escapes tools disk root fault) :
    ¬ fault.IsProblem := by
  rintro ⟨path, problem, rfl⟩
  cases escapes with
  | config isBook escapes => cases escapes
  | summary isBook configured escapes => cases escapes

theorem loadBook_of_isDirectory (isBook : disk.isDirectory root = .ok true) {config : Config}
    (configured : loadConfig tools disk root = .ok config) :
    loadBook tools disk root =
      (loadSummary tools disk (summaryPath root config)).bind
        fun items => (loadItems tools.decoder disk (inDirectory root config.src) items).map
          fun items => { root, config, items } := by
  rw [loadBook, isBook]
  simp only [configured, summaryPath]
  cases loadSummary tools disk (inDirectory (inDirectory root config.src) summaryName) <;> rfl

/-- With its configuration and its summary read, a book is loaded if all of its chapters can be read. -/
theorem exists_book (isBook : disk.isDirectory root = .ok true) {config : Config}
    (configured : loadConfig tools disk root = .ok config) {items : List Item}
    (listed : loadSummary tools disk (summaryPath root config) = .ok items)
    (readable : firstUnreadable? tools.decoder disk
      ((itemSources items).map (inDirectory root config.src).join) = none) :
    ∃ loaded, loadBook tools disk root = .ok { root, config, items := loaded } := by
  rw [loadBook_of_isDirectory isBook configured, listed]
  rcases decidedBy_loadItems (inDirectory root config.src) items with
    ⟨-, loaded, ok⟩ | ⟨path, fault, first, -⟩
  · refine ⟨loaded, ?_⟩
    change (loadItems tools.decoder disk (inDirectory root config.src) items).map _ = _
    rw [ok]
    rfl
  · rw [readable] at first
    cases first

/-- If not, the first chapter that cannot be read decides. -/
theorem exists_fault (isBook : disk.isDirectory root = .ok true) {config : Config}
    (configured : loadConfig tools disk root = .ok config) {items : List Item}
    (listed : loadSummary tools disk (summaryPath root config) = .ok items) {path : Path}
    (first : firstUnreadable? tools.decoder disk
      ((itemSources items).map (inDirectory root config.src).join) = some path) :
    ∃ fault, readText tools.decoder disk path = .error fault ∧ loadBook tools disk root = .error fault := by
  rw [loadBook_of_isDirectory isBook configured, listed]
  rcases decidedBy_loadItems (inDirectory root config.src) items with
    ⟨readable, -⟩ | ⟨path', fault, first', failed, stopped⟩
  · rw [readable] at first
    cases first
  · obtain rfl : path' = path := Option.some.inj (first'.symm.trans first)
    refine ⟨fault, failed, ?_⟩
    change (loadItems tools.decoder disk (inDirectory root config.src) items).map _ = _
    rw [stopped]
    rfl

/-- What the loader does not answer for is what it ends with. -/
theorem loadBook_of_escapes {fault : LoadFault} (escapes : Escapes tools disk root fault) :
    loadBook tools disk root = .error fault := by
  cases escapes with
  | @directory fault refuses =>
      have unanswered : disk.isDirectory root = .error ⟨root, fault⟩ :=
        Disk.leadsTo_eq_error_iff.mpr ⟨fault, refuses, rfl⟩
      rw [loadBook, unanswered]
  | config isBook escapes =>
      rw [loadBook, isBook]
      simp only [loadConfig_of_escapes escapes]
  | summary isBook configured escapes =>
      rw [loadBook_of_isDirectory isBook configured, loadSummary_of_escapes escapes]
      rfl
  | chapter isBook configured listed first null =>
      obtain ⟨fault, failed, stopped⟩ := exists_fault isBook configured listed first
      rw [readText_of_hasNull _ _ null] at failed
      rw [stopped, ← Except.error.inj failed]

/-- With its configuration and its summary read, a book is answered for unless a path has a null
    character. -/
theorem answers_or_escapes_of_listed (isBook : disk.isDirectory root = .ok true) {config : Config}
    (configured : loadConfig tools disk root = .ok config) {items : List Item}
    (listed : loadSummary tools disk (summaryPath root config) = .ok items) :
    Answers (loadBook tools disk root) ∨ ∃ fault, Escapes tools disk root fault := by
  cases first : firstUnreadable? tools.decoder disk
      ((itemSources items).map (inDirectory root config.src).join) with
  | none =>
      obtain ⟨loaded, ok⟩ := exists_book isBook configured listed first
      exact .inl (.inl ⟨_, ok⟩)
  | some path =>
      obtain ⟨fault, failed, stopped⟩ := exists_fault isBook configured listed first
      cases null : path.hasNull with
      | true => exact .inr ⟨_, .chapter isBook configured listed first null⟩
      | false =>
          rcases readText_of_noNull tools.decoder disk null with ⟨text, ok⟩ | ⟨problem, faulty⟩
          · rw [ok] at failed
            cases failed
          · obtain rfl := Except.error.inj (faulty.symm.trans failed)
            exact .inl (.inr ⟨path, problem, stopped⟩)

/-- Every book is answered for, or runs into an error that the loader does not answer for. -/
theorem answers_or_escapes (tools : Tools) (disk : Disk) (root : Path) :
    Answers (loadBook tools disk root) ∨ ∃ fault, Escapes tools disk root fault := by
  cases isBook : disk.isDirectory root with
  | error error =>
      obtain ⟨fault, refuses, rfl⟩ := Disk.leadsTo_eq_error_iff.mp isBook
      exact .inr ⟨_, .directory refuses⟩
  | ok isDirectory =>
      cases isDirectory with
      | false => exact .inl (.inr ⟨root, .noDirectory, by rw [loadBook, isBook]⟩)
      | true =>
          rcases loadConfig_cases tools disk root with
            ⟨config, configured⟩ | ⟨problem, faulty⟩ | ⟨fault, escapes⟩
          · rcases loadSummary_cases tools disk (summaryPath root config) with
              ⟨items, listed⟩ | ⟨problem, faulty⟩ | ⟨fault, escapes⟩
            · exact answers_or_escapes_of_listed isBook configured listed
            · refine .inl (.inr ⟨summaryPath root config, problem, ?_⟩)
              rw [loadBook_of_isDirectory isBook configured, faulty]
              rfl
            · exact .inr ⟨fault, .summary isBook configured escapes⟩
          · refine .inl (.inr ⟨inDirectory root configName, problem, ?_⟩)
            rw [loadBook, isBook]
            simp only [faulty]
          · exact .inr ⟨fault, .config isBook escapes⟩

end Books

/-- Loading a book ends with an error that is no problem in the ways that the loader does not answer for,
    and in no other; else it is answered with the book or a problem. -/
theorem loadBook_escapes_iff (tools : Tools) (disk : Disk) (root : Path) :
    (∀ fault, Escapes tools disk root fault ↔
        loadBook tools disk root = .error fault ∧ ¬ fault.IsProblem) ∧
      (Answers (loadBook tools disk root) ↔ ¬ ∃ fault, Escapes tools disk root fault) := by
  constructor
  · intro fault
    refine ⟨fun escapes => ⟨loadBook_of_escapes escapes, escapes.not_isProblem⟩, ?_⟩
    rintro ⟨failed, noProblem⟩
    rcases answers_or_escapes tools disk root with (⟨book, ok⟩ | ⟨path, problem, faulty⟩) |
      ⟨other, escapes⟩
    · rw [ok] at failed
      cases failed
    · rw [faulty] at failed
      exact absurd ⟨path, problem, (Except.error.inj failed).symm⟩ noProblem
    · rw [loadBook_of_escapes escapes] at failed
      rwa [← Except.error.inj failed]
  · refine ⟨?_, (answers_or_escapes tools disk root).resolve_right⟩
    rintro answers ⟨fault, escapes⟩
    rw [loadBook_of_escapes escapes] at answers
    exact not_answers_error escapes.not_isProblem answers

theorem ok_of_toOption {α ε : Type} {outcome : Except ε α} {value : α}
    (isSome : outcome.toOption = some value) : outcome = .ok value := by
  cases outcome with
  | error fault => cases isSome
  | ok other => exact congrArg Except.ok (Option.some.inj isSome)

/-- A book with one chapter, the address of which has a null character in it. -/
def nullSource : Disk where
  files := .ofFiles
    [(Path.ofString "book/src/SUMMARY.md", .file (Text.utf8Bytes "- [A](a%00.md)\n"))]

/-- An address with an encoded null character is not answered for. -/
theorem loadBook_nullSource : ¬ Answers (loadBook .common nullSource (Path.ofString "book")) := by
  have isBook : nullSource.isDirectory (Path.ofString "book") = .ok true := by
    apply ok_of_toOption
    decide +kernel
  have configured : loadConfig .common nullSource (Path.ofString "book") = .ok {} := by
    apply ok_of_toOption
    decide +kernel
  have listed : (loadSummary .common nullSource (summaryPath (Path.ofString "book") {})).toOption.map
      itemSources = some [⟨.current, ["a\x00.md"]⟩] := by decide +kernel
  obtain ⟨items, isSummary, sources⟩ := Option.map_eq_some_iff.mp listed
  have first : firstUnreadable? Tools.common.decoder nullSource
      ((itemSources items).map (inDirectory (Path.ofString "book") ({} : Config).src).join) =
        some ⟨.current, ["book", "src", "a\x00.md"]⟩ := by
    rw [sources]
    decide +kernel
  have escapes := Escapes.chapter isBook configured (ok_of_toOption isSummary) first (by decide)
  rw [loadBook_of_escapes escapes]
  exact not_answers_error escapes.not_isProblem

end Bindery.Book
