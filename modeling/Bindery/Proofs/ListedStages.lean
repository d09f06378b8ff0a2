/-
Module: Bindery.Proofs.ListedStages
Layer: Proofs
Purpose: Lists of stages to leave out. The names in a list are its parts between commas, without the blanks
  around them and without the empty ones. Blanks around the whole list do not count. So a list asks for the
  settings without the stages that it names; and whatever is asked for in a row, by lists or by names, the
  settings rest on which names were granted and on nothing else.
Imports: Bindery.Proofs.StageNames, Mathlib.Data.List.DropRight
Main exports: piecesBetween_eq_splitOn, IsTrimmed, trimWhere_eq_iff, IsListed, mem_listedNames,
  ofVariable_eq_disable, settings_by_name
-/
import Bindery.Proofs.StageNames
import Mathlib.Data.List.DropRight

namespace Bindery.Text

/-! ### Pieces -/

section Pieces

variable {separator : Char} {text : List Char}

theorem piecesBetween_eq_splitOn (separator : Char) (text : List Char) :
    piecesBetween separator text = text.splitOn separator := by
  induction text with
  | nil => rw [piecesBetween, List.splitOn_nil]
  | cons c rest ih =>
      rw [piecesBetween, List.splitOn_cons_eq_if_modifyHead, ← ih]
      by_cases ends : c = separator
      · rw [if_pos ends, if_pos (beq_iff_eq.mpr ends)]
      · rw [if_neg ends, if_neg (mt beq_iff_eq.mp ends)]
        cases pieces : piecesBetween separator rest with
        | nil => exact absurd pieces (piecesBetween_ne_nil separator rest)
        | cons piece more => rfl

theorem not_mem_of_mem_piecesBetween {piece : List Char} (member : piece ∈ piecesBetween separator text) :
    separator ∉ piece := by
  induction text generalizing piece with
  | nil =>
      rw [List.mem_singleton.mp member]
      exact List.not_mem_nil
  | cons c rest ih =>
      rw [piecesBetween] at member
      split at member
      · obtain rfl | later := List.mem_cons.mp member
        · exact List.not_mem_nil
        · exact ih later
      · next continues =>
          split at member
          · next none => exact absurd none (piecesBetween_ne_nil separator rest)
          · next first more pieces =>
              obtain rfl | later := List.mem_cons.mp member
              · have inside := ih (pieces ▸ List.mem_cons_self)
                exact List.not_mem_cons_of_ne_of_not_mem (Ne.symm continues) inside
              · exact ih (pieces ▸ List.mem_cons_of_mem first later)

/-- Pieces without separators, joined by separators, are the pieces of the text. -/
theorem piecesBetween_iff {pieces : List (List Char)} :
    piecesBetween separator text = pieces ↔
      [separator].intercalate pieces = text ∧ pieces ≠ [] ∧ ∀ piece ∈ pieces, separator ∉ piece := by
  constructor
  · rintro rfl
    refine ⟨?_, piecesBetween_ne_nil separator text, fun piece => not_mem_of_mem_piecesBetween⟩
    rw [piecesBetween_eq_splitOn, List.intercalate_splitOn]
  · rintro ⟨rfl, some, apart⟩
    rw [piecesBetween_eq_splitOn, List.splitOn_intercalate _ apart some]

end Pieces

/-! ### Ends -/

/-- The core of a text: what it is between characters that pass a test, which it neither starts nor ends
    with. -/
def IsTrimmed (test : Char → Bool) (text core : List Char) : Prop :=
  ∃ left right, text = left ++ core ++ right ∧ (∀ c ∈ left, test c = true) ∧ (∀ c ∈ right, test c = true) ∧
    (∀ c ∈ core.head?, test c = false) ∧ ∀ c ∈ core.getLast?, test c = false

section Ends

variable {test : Char → Bool}

theorem dropWhile_append_of_head? {front rest : List Char} (passes : ∀ c ∈ front, test c = true)
    (stops : ∀ c ∈ rest.head?, test c = false) : (front ++ rest).dropWhile test = rest := by
  rw [List.dropWhile_append_of_pos passes]
  cases rest with
  | nil => rfl
  | cons c rest => simp [stops c rfl]

theorem head?_dropWhile {text : List Char} {c : Char} (first : c ∈ (text.dropWhile test).head?) :
    test c = false := by
  have fails := List.head?_dropWhile_not test text
  rw [Option.mem_def.mp first] at fails
  exact fails

theorem isTrimmed_trimWhere (test : Char → Bool) (text : List Char) :
    IsTrimmed test text (trimWhere test text) := by
  refine ⟨text.takeWhile test, (text.dropWhile test).rtakeWhile test, ?_, ?_, ?_, ?_, ?_⟩
  · change text = _ ++ (text.dropWhile test).rdropWhile test ++ _
    rw [List.append_assoc, List.rdropWhile_append_rtakeWhile, List.takeWhile_append_dropWhile]
  · intro c
    exact List.mem_takeWhile_imp
  · intro c
    exact List.mem_rtakeWhile_imp
  · intro c first
    obtain ⟨behind, split⟩ : trimWhere test text <+: text.dropWhile test :=
      List.rdropWhile_prefix test _
    have firstLeft : c ∈ (text.dropWhile test).head? := by
      rw [← split]
      exact List.mem_head?_append_of_mem_head? first
    exact head?_dropWhile firstLeft
  · intro c last
    rw [trimWhere, List.getLast?_reverse] at last
    exact head?_dropWhile last

/-- A text has one core. -/
theorem trimWhere_eq_iff {text core : List Char} :
    trimWhere test text = core ↔ IsTrimmed test text core := by
  constructor
  · rintro rfl
    exact isTrimmed_trimWhere test text
  · rintro ⟨left, right, rfl, before, behind, starts, ends⟩
    rw [trimWhere, List.append_assoc]
    cases core with
    | nil =>
        have nothing : (left ++ ([] ++ right)).dropWhile test = [] := by
          rw [List.dropWhile_append_of_pos before, List.nil_append, List.dropWhile_eq_nil_iff]
          exact behind
        rw [nothing]
        rfl
    | cons c core =>
        have backwards : ∀ last ∈ ((c :: core).reverse).head?, test last = false := by
          rw [List.head?_reverse]
          exact ends
        rw [dropWhile_append_of_head? before (by simpa using starts), List.reverse_append,
          dropWhile_append_of_head? (by simpa using behind) backwards, List.reverse_reverse]

/-- What passes the test does not count in front and behind. -/
theorem trimWhere_append (text : List Char) {left right : List Char} (before : ∀ c ∈ left, test c = true)
    (behind : ∀ c ∈ right, test c = true) :
    trimWhere test (left ++ text ++ right) = trimWhere test text := by
  obtain ⟨front, back, split, inFront, inBack, starts, ends⟩ := isTrimmed_trimWhere test text
  apply trimWhere_eq_iff.mpr
  refine ⟨left ++ front, back ++ right, ?_, ?_, ?_, starts, ends⟩
  · conv_lhs => rw [split]
    simp only [List.append_assoc]
  · intro c member
    exact (List.mem_append.mp member).elim (before c) (inFront c)
  · intro c member
    exact (List.mem_append.mp member).elim (inBack c) (behind c)

theorem intercalate_append_last (separator : List Char) (pieces : List (List Char)) (last more : List Char) :
    separator.intercalate (pieces ++ [last ++ more]) = separator.intercalate (pieces ++ [last]) ++ more := by
  induction pieces with
  | nil => simp
  | cons piece pieces ih =>
      rw [List.cons_append, List.cons_append, List.intercalate_cons_of_ne_nil (by simp),
        List.intercalate_cons_of_ne_nil (by simp), ih]
      simp only [List.append_assoc]

section Outside

variable {separator : Char} (kept : test separator = false)

include kept

theorem not_mem_of_passes {outside : List Char} (passes : ∀ c ∈ outside, test c = true) :
    separator ∉ outside := by
  intro member
  rw [passes separator member] at kept
  cases kept

/-- What passes the test in front of a text goes to its first piece. -/
theorem map_trimWhere_piecesBetween_left {left : List Char} (before : ∀ c ∈ left, test c = true)
    (text : List Char) :
    (piecesBetween separator (left ++ text)).map (trimWhere test) =
      (piecesBetween separator text).map (trimWhere test) := by
  obtain ⟨joined, some, apart⟩ := piecesBetween_iff.mp (rfl : piecesBetween separator text = _)
  obtain ⟨first, more, split⟩ := List.exists_cons_of_ne_nil some
  rw [split] at joined apart
  have longer : piecesBetween separator (left ++ text) = (left ++ first) :: more := by
    refine piecesBetween_iff.mpr ⟨?_, List.cons_ne_nil _ _, ?_⟩
    · rw [← joined]
      cases more with
      | nil => rw [List.intercalate_singleton, List.intercalate_singleton]
      | cons second more =>
          rw [List.intercalate_cons_cons, List.intercalate_cons_cons]
          simp only [List.append_assoc]
    · intro piece member
      obtain rfl | inside := List.mem_cons.mp member
      · rw [List.mem_append, not_or]
        exact ⟨not_mem_of_passes kept before, apart first List.mem_cons_self⟩
      · exact apart piece (List.mem_cons_of_mem _ inside)
  have same : trimWhere test (left ++ first) = trimWhere test first := by
    simpa using trimWhere_append first before (List.forall_mem_nil _)
  rw [longer, split, List.map_cons, List.map_cons, same]

/-- What passes the test behind a text goes to its last piece. -/
theorem map_trimWhere_piecesBetween_right {right : List Char} (behind : ∀ c ∈ right, test c = true)
    (text : List Char) :
    (piecesBetween separator (text ++ right)).map (trimWhere test) =
      (piecesBetween separator text).map (trimWhere test) := by
  obtain ⟨joined, some, apart⟩ := piecesBetween_iff.mp (rfl : piecesBetween separator text = _)
  obtain ⟨pieces, last, split⟩ := (List.eq_nil_or_concat' _).resolve_left some
  rw [split] at joined apart
  have longer : piecesBetween separator (text ++ right) = pieces ++ [last ++ right] := by
    refine piecesBetween_iff.mpr ⟨by rw [intercalate_append_last, joined], by simp, ?_⟩
    intro piece member
    obtain inside | isLast := List.mem_append.mp member
    · exact apart piece (List.mem_append_left _ inside)
    · rw [List.mem_singleton.mp isLast, List.mem_append, not_or]
      exact ⟨apart last (by simp), not_mem_of_passes kept behind⟩
  have same : trimWhere test (last ++ right) = trimWhere test last := by
    simpa using trimWhere_append last (List.forall_mem_nil _) behind
  rw [longer, split, List.map_append, List.map_append, List.map_singleton, List.map_singleton, same]

end Outside

end Ends

end Bindery.Text

namespace Bindery.Convert

open Text (IsTrimmed isBlank)

/-! ### Listed names -/

/-- A list has a name: the name is not empty, and it is one of the parts between commas without the blanks
    around it. -/
def IsListed (value name : String) : Prop :=
  name ≠ "" ∧ ∃ parts : List (List Char), [','].intercalate parts = value.toList ∧
    (∀ part ∈ parts, ',' ∉ part) ∧ ∃ part ∈ parts, IsTrimmed isBlank part name.toList

theorem mem_listedNames {value name : String} : name ∈ Settings.listedNames value ↔ IsListed value name := by
  have asList : name ∈ Settings.listedNames value ↔
      name ≠ "" ∧ ∃ part ∈ Text.piecesBetween ',' value.toList, Text.trimList part = name.toList := by
    simp only [Settings.listedNames, List.mem_map, List.mem_filter]
    constructor
    · rintro ⟨core, ⟨⟨part, member, rfl⟩, some⟩, rfl⟩
      refine ⟨?_, part, member, String.toList_ofList.symm⟩
      simpa using some
    · rintro ⟨some, part, member, trimmed⟩
      refine ⟨name.toList, ⟨⟨part, member, trimmed⟩, ?_⟩, String.ofList_toList⟩
      simpa using some
  rw [asList, IsListed]
  refine and_congr_right fun _ => ?_
  constructor
  · rintro ⟨part, member, trimmed⟩
    obtain ⟨joined, _, apart⟩ := Text.piecesBetween_iff.mp (rfl : Text.piecesBetween ',' value.toList = _)
    exact ⟨_, joined, apart, part, member, Text.trimWhere_eq_iff.mp trimmed⟩
  · rintro ⟨parts, joined, apart, part, member, trimmed⟩
    have pieces : Text.piecesBetween ',' value.toList = parts :=
      Text.piecesBetween_iff.mpr ⟨joined, List.ne_nil_of_mem member, apart⟩
    exact ⟨part, pieces ▸ member, Text.trimWhere_eq_iff.mpr trimmed⟩

/-- Blanks around the whole list do not count. -/
theorem listedNames_trim (value : String) :
    Settings.listedNames (Text.trim value) = Settings.listedNames value := by
  obtain ⟨left, right, split, before, behind, _, _⟩ :=
    Text.isTrimmed_trimWhere isBlank value.toList
  have same : (Text.piecesBetween ',' value.toList).map Text.trimList =
      (Text.piecesBetween ',' (Text.trimList value.toList)).map Text.trimList := by
    conv_lhs => rw [split]
    exact (Text.map_trimWhere_piecesBetween_right (by decide) behind _).trans
      (Text.map_trimWhere_piecesBetween_left (by decide) before _)
  rw [Settings.listedNames, Settings.listedNames, Text.trim, String.toList_ofList, same]

/-- A list is a request for the names in it, also if it is blank. -/
theorem ofVariable_eq_disable (value : String) :
    Settings.ofVariable value = Settings.everything.disable (Settings.listedNames value) := by
  rw [Settings.ofVariable, ← listedNames_trim]
  split
  · next blank =>
      have noName : Settings.listedNames "" = [] := by decide +kernel
      rw [blank, noName]
      simp [Settings.disable, Settings.unknownNames, Settings.without, Settings.everything]
  · rfl

/-! ### Settings by name -/

/-- Settings rest on names. Requests in a row leave the settings without the stages that granted requests
    name, a request is answered by its names alone, and a list is a request for the names in it. What is
    selected keeps the order of all stages. -/
theorem settings_by_name (settings : Settings) :
    (∀ calls : List (List String), calls.foldl Settings.granted settings =
      settings.without (Stage.named (calls.filter allKnown).flatten)) ∧
    (∀ names, (settings.without (Stage.named names)).enabledStages =
      settings.enabledStages.filter fun stage => stage.name ∉ names) ∧
    (∀ names, Answers settings names (settings.disable names)) ∧
    (∀ names names', (∀ name, name ∈ names ↔ name ∈ names') →
      settings.disable names = settings.disable names') ∧
    (∀ value, ∃ names, (∀ name, name ∈ names ↔ IsListed value name) ∧
      Answers .everything names (Settings.ofVariable value)) ∧
    settings.selectedStages = Stage.all.filter fun stage =>
      settings.isEnabled stage && (stage ∈ Stage.structural || settings.isEnabled .content) := by
  refine ⟨foldl_granted settings, enabledStages_without_named settings, answers_disable settings,
    fun names names' => disable_congr settings, ?_, selectedStages_eq_filter settings⟩
  intro value
  refine ⟨Settings.listedNames value, fun name => mem_listedNames, ?_⟩
  rw [ofVariable_eq_disable]
  exact answers_disable .everything _

/-- Blanks, empty parts and repeats do not count. -/
example : Settings.listedNames " code,, links ,\tcode," = ["code", "links", "code"] := by decide +kernel

end Bindery.Convert
