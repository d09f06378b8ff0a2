/-
Module: Bindery.Proofs.LinkTargets
Layer: Proofs
Purpose: Addresses of links and texts of inline code survive to the markup. An address goes through the walk,
  which takes the scheme of a mail address off, the stage for links, which puts it back, and the renderer,
  which writes it as a literal; there it reads back as it was. Inline code reads back in both of its forms,
  whatever follows it. Every literal is written the same way, wherever it stands.
Imports: Bindery.Proofs.ListNumbers, Bindery.Proofs.LiteralReading, Bindery.Proofs.OnePass
Main exports: targetKind, counterpart_linkTag, convertToTypst_link, readAddress, readAddress_of_step,
  readCode, readCode_inlineCode, literalChars_eq_replaced, targets_and_code_readBack
-/
import Bindery.Proofs.ListNumbers
import Bindery.Proofs.LiteralReading
import Bindery.Proofs.OnePass

namespace Bindery.Markup

/-! ### Literals -/

/-- A text in which every occurrence of a character is replaced. -/
def replaced (c : Char) (by_ text : List Char) : List Char :=
  text.flatMap fun d => if d = c then by_ else [d]

/-- A literal is written in two passes: first the backslashes are doubled, and then the quotes get theirs. -/
theorem literalChars_eq_replaced (text : List Char) :
    literalChars text = '"' :: replaced '"' ['\\', '"'] (replaced '\\' ['\\', '\\'] text) ++ ['"'] := by
  have once (c : Char) :
      replaced '"' ['\\', '"'] (if c = '\\' then ['\\', '\\'] else [c]) = literalChar c := by
    unfold literalChar replaced
    by_cases isBackslash : c = '\\'
    · subst isBackslash
      rfl
    · by_cases isQuote : c = '"' <;> simp [isBackslash, isQuote]
  have twice : replaced '"' ['\\', '"'] (replaced '\\' ['\\', '\\'] text) = text.flatMap literalChar := by
    rw [replaced, replaced, List.flatMap_assoc]
    exact congrArg (text.flatMap ·) (funext once)
  rw [literalChars, twice]

/-! ### Reading addresses -/

/-- The address of the link in front, and what stands behind it. -/
def readAddress : List Char → Option (List Char × List Char)
  | '#' :: 'l' :: 'i' :: 'n' :: 'k' :: '(' :: rest => readLiteral rest
  | _ => none

/-- The start of a link holds its address, wherever it stands. -/
theorem readAddress_of_step (state : Renderer) (kind : Typst.LinkKind) (address : String) :
    ∃ fragment next, state.step (.typst (.start (.link kind address))) = .ok (fragment, next) ∧
      fragment = "#link(" ++ literal address ++ (if isBare kind then ")" else ")[") ∧
        readAddress fragment.toList =
          some (address.toList, if isBare kind then [')'] else [')', '[']) := by
  have read (behind : String) :
      readAddress ("#link(" ++ literal address ++ behind).toList = some (address.toList, behind.toList) := by
    rw [String.toList_append, String.toList_append, toList_literal, List.append_assoc]
    exact readLiteral_literalChars address.toList behind.toList
  cases kind with
  | content => exact ⟨_, _, rfl, rfl, read ")["⟩
  | url | autolink => exact ⟨_, _, rfl, rfl, read ")"⟩

/-! ### Reading inline code -/

/-- The text in front of the next back-tick, and what stands behind the back-tick. -/
def readRaw : List Char → Option (List Char × List Char)
  | [] => none
  | '\x60' :: behind => some ([], behind)
  | c :: rest => (readRaw rest).map fun read => (c :: read.1, read.2)

/-- The text of the inline code in front, between back-ticks or as a literal in a call of `raw`, and what
    stands behind it. -/
def readCode : List Char → Option (List Char × List Char)
  | '\x60' :: rest => readRaw rest
  | '#' :: 'r' :: 'a' :: 'w' :: '(' :: rest =>
    match readLiteral rest with
    | some (text, ')' :: behind) => some (text, behind)
    | _ => none
  | _ => none

/-- A text without back-ticks is read up to the back-tick behind it. -/
theorem readRaw_append {text : List Char} (free : '\x60' ∉ text) (behind : List Char) :
    readRaw (text ++ '\x60' :: behind) = some (text, behind) := by
  induction text with
  | nil => rfl
  | cons c rest ih =>
      rw [List.mem_cons, not_or] at free
      have other : c ≠ '\x60' := fun same => free.1 same.symm
      rw [List.cons_append, readRaw, ih free.2]
      · rfl
      · exact other

theorem hasBacktick_iff (text : String) : hasBacktick text = true ↔ '\x60' ∈ text.toList :=
  List.contains_iff_mem

theorem readCode_raw {chars text behind : List Char} (read : readLiteral chars = some (text, ')' :: behind)) :
    readCode ('#' :: 'r' :: 'a' :: 'w' :: '(' :: chars) = some (text, behind) := by
  rw [readCode, read]
  rfl

/-- Inline code reads back, whatever stands behind it. -/
theorem readCode_inlineCode (text : String) (behind : List Char) :
    readCode ((inlineCode text).toList ++ behind) = some (text.toList, behind) := by
  unfold inlineCode
  split
  · rw [String.toList_append, String.toList_append, toList_literal, List.append_assoc, List.append_assoc]
    exact readCode_raw (readLiteral_literalChars text.toList (')' :: behind))
  · next noBacktick =>
      rw [hasBacktick_iff] at noBacktick
      rw [String.toList_append, String.toList_append, List.append_assoc, List.append_assoc]
      exact readRaw_append noBacktick behind

/-- Inline code stands between back-ticks if it holds none. -/
theorem head?_inlineCode (text : String) :
    (inlineCode text).toList.head? = some '\x60' ↔ '\x60' ∉ text.toList := by
  rw [← hasBacktick_iff]
  unfold inlineCode
  split
  · next isHeld => simp [isHeld]
  · next noBacktick => simp [noBacktick]

end Bindery.Markup

namespace Bindery.Prose

open Bindery.Convert

/-! ### Links of tokens -/

def targetKind (token : Token) : Typst.LinkKind :=
  if token.markup = "autolink" then
    if (token.attributeText "href").toList.take 7 = "mailto:".toList then .url else .autolink
  else if token.markup = "linkify" then .autolink
  else .content

/-- The link of a token becomes one with the same address: where the scheme of a mail address is taken off,
    it is put back. -/
theorem linkTarget_linkTag (token : Token) :
    ∃ kind address title, linkTag token = .link kind address title ∧
      linkTarget kind address = some (.link (targetKind token) (token.attributeText "href")) := by
  unfold linkTag targetKind
  simp only [List.splitAt_eq]
  split
  · split
    · next mail =>
        refine ⟨_, _, _, rfl, ?_⟩
        have whole : "mailto:" ++ String.ofList ((token.attributeText "href").toList.drop 7) =
            token.attributeText "href" := by
          rw [← String.toList_inj, String.toList_append, ← mail, String.toList_ofList,
            List.take_append_drop]
        rw [linkTarget, whole]
    · exact ⟨_, _, _, rfl, rfl⟩
  · split
    · exact ⟨_, _, _, rfl, rfl⟩
    · exact ⟨_, _, _, rfl, rfl⟩

/-- The link of a token in the table of the whole conversion. -/
theorem counterpart_linkTag (depth : Nat) (token : Token) :
    counterpart depth (linkTag token) = some (.link (targetKind token) (token.attributeText "href")) := by
  obtain ⟨kind, address, title, isLink, becomes⟩ := linkTarget_linkTag token
  rw [isLink, ← becomes]
  cases kind <;> rfl

/-- The stage for links converts both ends of the link of a token. -/
theorem replace_links_linkTag (memory : Memory) (token : Token) :
    Stage.links.replace memory (.markdown (.start (linkTag token))) =
        ([.typst (.start (.link (targetKind token) (token.attributeText "href")))], memory) ∧
      Stage.links.replace memory (.markdown (.finish (linkTag token))) =
        ([.typst (.finish (.link (targetKind token) (token.attributeText "href")))], memory) := by
  obtain ⟨kind, address, title, isLink, becomes⟩ := linkTarget_linkTag token
  rw [isLink]
  simp only [Stage.replace, replaceLinks, becomes]
  exact ⟨rfl, rfl⟩

/-- A token of a link starts it. -/
theorem step_link {token : Token} (kind : token.kind = "link_open") (opens : token.nesting = 1)
    (state : Walker) (following : List Token) :
    state.step following token =
      ⟨[.start (linkTag token)], .ok ⟨some (linkTag token) :: state.opened, state.inHead⟩⟩ := by
  have name : token.containerName = "link" := by
    rw [Token.containerName, kind]
    decide
  rw [step_of_opens opens, Walker.enter, name]
  simp [openedTag, name]

/-- In a whole conversion, both ends of the link of a token keep its address, whatever is around them. -/
theorem convertToTypst_link (token : Token) (before behind : List Book.Event) :
    convertToTypst .everything ((before ++ .prose (.start (linkTag token)) :: behind).map .book) =
        (Convert.pass .initial before ++ .start (.link (targetKind token) (token.attributeText "href")) ::
          Convert.pass (Memory.initial.passing before) behind).map .typst ∧
      convertToTypst .everything ((before ++ .prose (.finish (linkTag token)) :: behind).map .book) =
        (Convert.pass .initial before ++ .finish (.link (targetKind token) (token.attributeText "href")) ::
          Convert.pass (Memory.initial.passing before) behind).map .typst := by
  obtain ⟨kind, address, title, isLink, -⟩ := linkTarget_linkTag token
  have becomes (memory : Memory) := counterpart_linkTag memory.depth token
  rw [isLink] at becomes ⊢
  rw [convertToTypst_eq_targetFrom, convertToTypst_eq_targetFrom, targetFrom_pass, targetFrom_pass,
    pass_append, pass_append, Convert.pass, Convert.pass, Convert.translate, Convert.translate,
    Convert.translateProse, Convert.translateProse, becomes]
  exact ⟨rfl, rfl⟩

/-- Addresses and inline code survive. The token of a link starts a link that becomes one with the address of
    the token, and this reads back from the literal at its start; inline code reads back, between back-ticks
    if it holds none and from a literal otherwise; and wherever literals are written, they are written the
    same way. -/
theorem targets_and_code_readBack :
    (∀ token : Token, token.kind = "link_open" → token.nesting = 1 →
      (∀ (state : Walker) following, state.step following token =
          ⟨[.start (linkTag token)], .ok ⟨some (linkTag token) :: state.opened, state.inHead⟩⟩) ∧
        (∀ memory, Stage.links.replace memory (.markdown (.start (linkTag token))) =
              ([.typst (.start (.link (targetKind token) (token.attributeText "href")))], memory) ∧
            Stage.links.replace memory (.markdown (.finish (linkTag token))) =
              ([.typst (.finish (.link (targetKind token) (token.attributeText "href")))], memory)) ∧
        (∀ before behind, convertToTypst .everything
            ((before ++ .prose (.start (linkTag token)) :: behind).map .book) =
          (Convert.pass .initial before ++ .start (.link (targetKind token) (token.attributeText "href")) ::
            Convert.pass (Memory.initial.passing before) behind).map .typst) ∧
        ∀ state : Markup.Renderer, ∃ fragment next rest,
          state.step (.typst (.start (.link (targetKind token) (token.attributeText "href")))) =
              .ok (fragment, next) ∧
            Markup.readAddress fragment.toList = some ((token.attributeText "href").toList, rest)) ∧
      (∀ text : String,
        (∀ state : Markup.Renderer, state.step (.typst (.code text)) =
          .ok (if state.bareLinks ≠ 0 then "" else Markup.inlineCode text, state)) ∧
        (∀ behind, Markup.readCode ((Markup.inlineCode text).toList ++ behind) =
          some (text.toList, behind)) ∧
        ((Markup.inlineCode text).toList.head? = some '\x60' ↔ '\x60' ∉ text.toList)) ∧
      ∀ (text : String) (memory : Memory) (state : Markup.Renderer),
        Stage.title.replace memory (.book (.title text)) =
            ([.typst (.documentSet "title" (Markup.literal text))], memory) ∧
          authorArray [text] = "(" ++ Markup.literal text ++ ")" ∧
          (∃ next, state.step (.typst (.start (.link .content text))) =
            .ok ("#link(" ++ Markup.literal text ++ ")[", next)) ∧
          Markup.literal text = String.ofList ('"' :: Markup.replaced '"' ['\\', '"']
            (Markup.replaced '\\' ['\\', '\\'] text.toList) ++ ['"']) := by
  refine ⟨fun token kind opens => ⟨step_link kind opens, fun memory => replace_links_linkTag memory token,
    fun before behind => (convertToTypst_link token before behind).1, fun state => ?_⟩,
    fun text => ⟨fun state => rfl, Markup.readCode_inlineCode text, Markup.head?_inlineCode text⟩,
    fun text memory state => ⟨rfl, ?_, ⟨_, rfl⟩, ?_⟩⟩
  · obtain ⟨fragment, next, stepped, -, read⟩ :=
      Markup.readAddress_of_step state (targetKind token) (token.attributeText "href")
    exact ⟨fragment, next, _, stepped, read⟩
  · rw [authorArray, List.map_singleton, String.intercalate_singleton]
  · rw [Markup.literal, Markup.literalChars_eq_replaced]

/-- The token of a mail address with a quote and a backslash in it. -/
def quotedMail : Token where
  kind := "link_open"
  tag := "a"
  nesting := 1
  attributes := [("href", .text "mailto:a\"\\b@c.org")]
  markup := "autolink"

theorem targets_and_code_readBack_quotedMail :
    linkTag quotedMail = .link .email "a\"\\b@c.org" "" ∧
      (∀ (state : Walker) following, state.step following quotedMail =
        ⟨[.start (.link .email "a\"\\b@c.org" "")],
          .ok ⟨some (.link .email "a\"\\b@c.org" "") :: state.opened, state.inHead⟩⟩) ∧
      ∀ state : Markup.Renderer, ∃ fragment next rest,
        state.step (.typst (.start (.link .url "mailto:a\"\\b@c.org"))) = .ok (fragment, next) ∧
          Markup.readAddress fragment.toList = some ("mailto:a\"\\b@c.org".toList, rest) := by
  have isMail : linkTag quotedMail = .link .email "a\"\\b@c.org" "" := by decide +kernel
  have kind : targetKind quotedMail = .url := by decide +kernel
  have address : quotedMail.attributeText "href" = "mailto:a\"\\b@c.org" := by decide +kernel
  obtain ⟨starts, -, -, renders⟩ := targets_and_code_readBack.1 quotedMail rfl rfl
  rw [isMail] at starts
  rw [kind, address] at renders
  exact ⟨isMail, starts, renders⟩

end Bindery.Prose
