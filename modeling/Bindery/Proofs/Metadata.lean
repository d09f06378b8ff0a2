/-
Module: Bindery.Proofs.Metadata
Layer: Proofs
Purpose: The metadata of a document. Only the configuration of a book becomes document rules, and it stands
  in front of the items, so that the rules stand in front of everything else: one for the title and one for
  the authors, each of them if there is something to set and the stage runs. Nothing is lost on the way:
  read as code, the value of a rule denotes the title or the authors again, whatever characters they have.
Imports: Bindery.Proofs.BookMarkup, Bindery.Proofs.LiteralReading, Bindery.Proofs.OnePass
Main exports: carriesMetadata, exists_source_of_metadata, SetsOnce, setsOnce_of_pass,
  denotedTexts_authorArray, convertToTypst_metadata
-/
import Bindery.Proofs.BookMarkup
import Bindery.Proofs.LiteralReading
import Bindery.Proofs.OnePass

namespace Bindery.Book

open Bindery.Convert Bindery.Markup
open Prose (eventsOfText)

/-! ### Where metadata comes from -/

/-- Does the event carry metadata, as it stands in a configuration or as a rule? -/
def carriesMetadata : Bindery.Event → Bool
  | .book event => isConfigEvent event
  | event => isDocumentRule event

theorem carriesMetadata_replaceTag (convert : Markdown.Tag → Option Typst.Tag) (event : Bindery.Event) :
    carriesMetadata (replaceTag convert event) = carriesMetadata event := by
  unfold replaceTag
  split
  · split <;> rfl
  · split <;> rfl
  · rfl

/-- What carries metadata in place of an event does so because the event did: only the stages of the title
    and of the authors make rules, and only of events of a configuration. -/
theorem carriesMetadata_of_replaced {stage : Stage} {memory : Memory} {event replaced : Bindery.Event}
    (member : replaced ∈ (stage.replace memory event).1) (carries : carriesMetadata replaced = true) :
    carriesMetadata event = true := by
  have same {other : Bindery.Event} (single : replaced ∈ [other]) : carriesMetadata other = true :=
    List.mem_singleton.mp single ▸ carries
  have container (single : replaced ∈ [replaceTag stage.target event]) : carriesMetadata event = true :=
    (carriesMetadata_replaceTag stage.target event).symm.trans (same single)
  cases stage with
  | headings | paragraphs | strong | emphasis | strikethrough | blockQuotes | lists | tables =>
      exact container member
  | title =>
      simp only [Stage.replace] at member
      split at member
      · rfl
      · exact same member
  | authors =>
      simp only [Stage.replace, replaceAuthors] at member
      split at member
      · rfl
      · rfl
      · rfl
      · exact same member
  | chapters =>
      simp only [Stage.replace, replaceChapters] at member
      split at member
      · simp only [List.mem_cons, List.not_mem_nil, or_false] at member
        rcases member with rfl | rfl | rfl <;> cases carries
      · cases same member
      · cases same member
      · exact same member
  | text =>
      simp only [Stage.replace, replaceText] at member
      split at member
      · exact same member
      · split at member
        · exact same member
        · split at member
          · split at member
            · cases member
            · cases same member
          · exact same member
  | content | softBreaks | hardBreaks =>
      simp only [Stage.replace] at member
      split at member
      · cases same member
      · exact same member
  | code =>
      simp only [Stage.replace] at member
      split at member
      · cases same member
      · exact container member
  | links =>
      simp only [Stage.replace, replaceLinks] at member
      split at member
      · obtain ⟨target, _, rfl⟩ := by simpa using member
        cases carries
      · obtain ⟨target, _, rfl⟩ := by simpa using member
        cases carries
      · exact same member
  | stripHtml =>
      simp only [Stage.replace] at member
      split at member
      · cases member
      · exact same member

/-- So it is along a run. -/
theorem exists_source_of_run {stage : Stage} {memory : Memory} {events : List Bindery.Event}
    {target : Bindery.Event} (member : target ∈ stage.run memory events)
    (carries : carriesMetadata target = true) : ∃ event ∈ events, carriesMetadata event = true := by
  induction events generalizing memory with
  | nil => cases member
  | cons event rest ih =>
      rcases List.mem_append.mp member with fromEvent | fromRest
      · exact ⟨event, List.mem_cons_self, carriesMetadata_of_replaced fromEvent carries⟩
      · obtain ⟨source, inRest, carriesSource⟩ := ih fromRest
        exact ⟨source, List.mem_cons_of_mem _ inRest, carriesSource⟩

/-- Stages make metadata from metadata only. -/
theorem exists_source_of_metadata {stages : List Stage} {memory : Memory} {events : List Bindery.Event}
    {target : Bindery.Event} (member : target ∈ convertFrom memory stages events)
    (carries : carriesMetadata target = true) : ∃ event ∈ events, carriesMetadata event = true := by
  induction stages generalizing events with
  | nil => exact ⟨target, member, carries⟩
  | cons stage later ih =>
      rw [convertFrom_cons] at member
      obtain ⟨between, inRun, carriesBetween⟩ := ih member
      exact exists_source_of_run inRun carriesBetween

/-- Items carry no metadata. -/
theorem Emits.not_isConfigEvent {tokenizer : Tokenizer} {current : Option String} {items : List Item}
    {events : List Event} (emits : Emits tokenizer current items events) :
    ∀ event ∈ events, isConfigEvent event = false := by
  induction emits with
  | nil => exact fun _ member => absurd member List.not_mem_nil
  | chapter chapter _ _ ihInner ihBehind =>
      intro event member
      rcases List.mem_append.mp member with inBlock | behind
      · rcases mem_chapterBlock.mp inBlock with rfl | inContent | below | rfl
        · rfl
        · rcases mem_contentEvents inContent with rfl | ⟨prose, rfl⟩ | rfl <;> rfl
        · exact ihInner event below
        · rfl
      · exact ihBehind event behind
  | separator _ ih =>
      intro event member
      rcases List.mem_cons.mp member with rfl | behind
      · rfl
      · exact ih event behind
  | @part current title _ _ _ ih =>
      intro event member
      rcases List.mem_append.mp member with finishes | starts
      · cases current with
        | none => cases finishes
        | some opened =>
            rw [List.mem_singleton.mp finishes]
            rfl
      · rcases List.mem_cons.mp starts with rfl | behind
        · rfl
        · exact ih event behind

/-- The document of events without metadata has no rule. -/
theorem not_isDocumentRule_targetFrom {events : List Event}
    (plain : ∀ event ∈ events, isConfigEvent event = false) (settings : Settings) (memory : Memory) :
    ∀ target ∈ targetFrom settings memory (events.map .book), isDocumentRule target = false := by
  intro target member
  rw [← Bool.not_eq_true]
  intro isRule
  have carries : carriesMetadata target = true := by
    unfold isDocumentRule at isRule
    split at isRule
    · rfl
    · cases isRule
  obtain ⟨source, inEvents, carriesSource⟩ :=
    exists_source_of_metadata (List.mem_filter.mp member).1 carries
  obtain ⟨event, isItem, rfl⟩ := List.mem_map.mp inEvents
  rw [carriesMetadata, plain event isItem] at carriesSource
  cases carriesSource

/-! ### The rules -/

/-- The array of authors denotes them. -/
theorem denotedTexts_authorArray (authors : List String) :
    denotedTexts (authorArray authors) = some authors := denotedTexts_literals authors

/-- If it is wanted, there is one rule, with a value that is right; otherwise there is none. -/
structure SetsOnce (key : String) (wanted : Prop) (isRight : String → Prop)
    (rules : List Bindery.Event) : Prop where
  present : wanted → ∃ value, rules = [.typst (.documentSet key value)] ∧ isRight value
  absent : ¬ wanted → rules = []

/-- Events of one structural stage set what the pass sets with them, if the stage runs. -/
theorem setsOnce_of_pass (settings : Settings) {stage : Stage} (structural : stage ∈ Stage.structural)
    (memory : Memory) {events : List Event} (owned : ∀ event ∈ events, ownerOfBook event = some stage)
    {key : String} {filled : Prop} {isRight : String → Prop}
    (full : filled → ∃ value, Convert.pass memory events = [.documentSet key value] ∧ isRight value)
    (empty : ¬ filled → Convert.pass memory events = []) :
    SetsOnce key (settings.isEnabled stage = true ∧ filled) isRight
        (targetFrom settings memory (events.map .book)) ∧
      ∃ next, Leads settings.selectedStages memory (events.map .book) next := by
  obtain ⟨becomes, leads⟩ := targetFrom_ownedBy settings structural memory owned
  refine ⟨?_, _, leads⟩
  rw [becomes]
  constructor
  · rintro ⟨runs, isFilled⟩
    obtain ⟨value, sets, right⟩ := full isFilled
    refine ⟨value, ?_, right⟩
    rw [if_pos runs, sets]
    rfl
  · intro unwanted
    by_cases runs : settings.isEnabled stage = true
    · rw [if_pos runs, empty fun isFilled => unwanted ⟨runs, isFilled⟩]
      rfl
    · rw [if_neg runs]
      rfl

/-- The event of a title, unless the title is empty. -/
def titleEvents : Option String → List Event
  | none => []
  | some title => if title = "" then [] else [.title title]

/-- The events of authors, unless there are none. -/
def authorEvents (authors : List String) : List Event :=
  if authors.isEmpty then []
  else .start .authorList :: authors.map Event.author ++ [.finish .authorList]

theorem configEvents_eq (config : Config) :
    configEvents config = titleEvents config.title ++ authorEvents config.authors := rfl

/-- A title is set once if it is not empty and its stage runs. -/
theorem setsOnce_title (settings : Settings) (memory : Memory) (title : Option String) :
    SetsOnce "title" (settings.isEnabled .title = true ∧ title.getD "" ≠ "")
        (fun value => denotedText value = title)
        (targetFrom settings memory ((titleEvents title).map .book)) ∧
      ∃ next, Leads settings.selectedStages memory ((titleEvents title).map .book) next := by
  have owned : ∀ event ∈ titleEvents title, ownerOfBook event = some .title := by
    intro event member
    unfold titleEvents at member
    split at member
    · cases member
    · split at member
      · cases member
      · rw [List.mem_singleton.mp member]
        rfl
  apply setsOnce_of_pass settings (by decide) memory owned
  · intro filled
    cases title with
    | none => exact absurd rfl filled
    | some text =>
        have given : titleEvents (some text) = [.title text] := if_neg filled
        rw [given]
        exact ⟨literal text, rfl, denotedText_literal text⟩
  · intro notFilled
    have nothing : titleEvents title = [] := by
      cases title with
      | none => rfl
      | some text => exact if_pos (not_not.mp notFilled)
    rw [nothing]
    rfl

/-- Authors are set once, in their order, if there are any and their stage runs. -/
theorem setsOnce_authors (settings : Settings) (memory : Memory) (authors : List String) :
    SetsOnce "author" (settings.isEnabled .authors = true ∧ authors ≠ [])
        (fun value => denotedTexts value = some authors)
        (targetFrom settings memory ((authorEvents authors).map .book)) ∧
      ∃ next, Leads settings.selectedStages memory ((authorEvents authors).map .book) next := by
  have owned : ∀ event ∈ authorEvents authors, ownerOfBook event = some .authors := by
    intro event member
    unfold authorEvents at member
    split at member
    · cases member
    · simp only [List.cons_append, List.mem_cons, List.mem_append, List.mem_map, List.not_mem_nil,
        or_false] at member
      rcases member with rfl | ⟨name, _, rfl⟩ | rfl <;> rfl
  apply setsOnce_of_pass settings (by decide) memory owned
  · intro inhabited
    have given : authorEvents authors =
        .start .authorList :: (authors.map Event.author ++ [.finish .authorList]) :=
      if_neg (by simpa using inhabited)
    -- The start of the list forgets what was gathered before.
    have listed : Convert.pass memory (authorEvents authors) =
        [.documentSet "author" (authorArray authors)] := by
      rw [given, Convert.pass, pass_authors]
      exact if_neg inhabited
    exact ⟨authorArray authors, listed, denotedTexts_authorArray authors⟩
  · intro none
    rw [not_not.mp none]
    rfl

/-! ### Whole books -/

/-- The document of a book starts with its rules: one for the title and one for the authors, each of them
    exactly if its stage runs and there is something to set. There is no rule behind them. The values
    denote the title and the authors of the book, as the value for any title and any authors does. -/
theorem convertToTypst_metadata (settings : Settings) (tokenizer : Tokenizer) {book : Manuscript}
    (isPlaced : placed true book.items = true) :
    (∃ events titles authors body, book.events tokenizer = .ok events ∧
      convertToTypst settings events = titles ++ authors ++ body ∧
        SetsOnce "title" (settings.isEnabled .title = true ∧ book.config.title.getD "" ≠ "")
            (fun value => denotedText value = book.config.title) titles ∧
          SetsOnce "author" (settings.isEnabled .authors = true ∧ book.config.authors ≠ [])
              (fun value => denotedTexts value = some book.config.authors) authors ∧
            ∀ target ∈ body, isDocumentRule target = false) ∧
      (∀ title, denotedText (literal title) = some title) ∧
        ∀ authors, denotedTexts (authorArray authors) = some authors := by
  refine ⟨?_, denotedText_literal, denotedTexts_authorArray⟩
  obtain ⟨events, emits⟩ := exists_emits tokenizer none isPlaced
  have okBook : book.events tokenizer = .ok (.book (.root book.root) ::
      (configEvents book.config).map .book ++ normalizeParts (events.map .book)) := by
    rw [Manuscript.events, eventsOfItems, emits.itemEvents]
    rfl
  obtain ⟨vanishes, leadsRoot⟩ := targetFrom_unowned settings .initial
    (show ownerOfBook (.root book.root) = none from rfl)
  obtain ⟨title, afterTitle, leadsTitle⟩ := setsOnce_title settings .initial book.config.title
  obtain ⟨authors, next, leadsAuthors⟩ := setsOnce_authors settings afterTitle book.config.authors
  have front : Leads settings.selectedStages .initial
      (.book (.root book.root) :: (configEvents book.config).map .book) next := by
    rw [configEvents_eq, List.map_append, ← List.singleton_append]
    exact leadsRoot.append (leadsTitle.append leadsAuthors)
  refine ⟨_, _, _, _, okBook, ?_, title, authors,
    not_isDocumentRule_targetFrom emits.not_isConfigEvent settings next⟩
  calc convertToTypst settings _
      = convertToTypst settings (.book (.root book.root) :: (configEvents book.config).map .book ++
          events.map .book) := convertToTypst_normalizeParts front _
    _ = targetFrom settings .initial [.book (.root book.root)] ++
          targetFrom settings .initial ((configEvents book.config).map .book) ++
            targetFrom settings next (events.map .book) := by
        rw [convertToTypst_eq_targetFrom, targetFrom_append front, ← List.singleton_append,
          targetFrom_append leadsRoot]
    _ = _ := by
        rw [vanishes, configEvents_eq, List.map_append, targetFrom_append leadsTitle, List.nil_append]

/-- A book whose title and authors are full of quotes, backslashes, commas and parentheses. -/
def quotedMetadata : Manuscript where
  root := ⟨.current, ["quoted"]⟩
  config := { title := some "On \"\\\"", authors := ["Ann, \"A\", B", "C\\", "(\"D\",\"E\")"] }
  items := [.chapter { name := "Set" } [.chapter { name := "Title", content := "a *b*\n" } []],
    .part "Rest", .separator]

theorem convertToTypst_metadata_quoted :
    placed true quotedMetadata.items = true ∧
      ∃ events title authors body,
        quotedMetadata.events (eventsOfText CommonMark.documentTokens) = .ok events ∧
        convertToTypst .everything events =
          .typst (.documentSet "title" title) :: .typst (.documentSet "author" authors) :: body ∧
        denotedText title = some "On \"\\\"" ∧
          denotedTexts authors = some ["Ann, \"A\", B", "C\\", "(\"D\",\"E\")"] ∧
            ∀ target ∈ body, isDocumentRule target = false := by
  have isPlaced : placed true quotedMetadata.items = true := by decide
  obtain ⟨events, titles, authors, body, ok, becomes, setsTitle, setsAuthors, plain⟩ :=
    (convertToTypst_metadata .everything (eventsOfText CommonMark.documentTokens) isPlaced).1
  obtain ⟨title, rfl, readsTitle⟩ := setsTitle.present ⟨rfl, by decide⟩
  obtain ⟨array, rfl, readsAuthors⟩ := setsAuthors.present ⟨rfl, by decide⟩
  exact ⟨isPlaced, events, title, array, body, ok, becomes, readsTitle, readsAuthors, plain⟩

end Bindery.Book
