import StackQuery.Profile.Reader
import Mathlib.Data.List.Basic
import Mathlib.Data.List.TakeWhile

/-!
# Paragraphs of a profile

A profile is cut into paragraphs at its blank lines, comments left out. In a paragraph every line that is
not indented opens a block, which holds the indented lines up to the next such line. The reader, which goes
through the lines once and keeps one block, yields exactly the blocks with a frame, and reports exactly the
paragraphs that begin with an indented line.
-/
namespace StackQuery

namespace Text

theorem wordsAux_of_blank {ends : List Char} (h : ∀ c ∈ ends, isBlank c = true) (word : List Char) :
    wordsAux ends word = if word.isEmpty then [] else [word.reverse] := by
  induction ends generalizing word with
  | nil => rfl
  | cons c rest ih =>
    have hrest : wordsAux rest [] = [] := ih (fun d hd => h d (List.mem_cons_of_mem _ hd)) []
    rw [wordsAux, if_pos (h c List.mem_cons_self), hrest]

theorem words_append_blanks (cs : List Char) {ends : List Char} (h : ∀ c ∈ ends, isBlank c = true) :
    words (cs ++ ends) = words cs := by
  have haux (word : List Char) : wordsAux (cs ++ ends) word = wordsAux cs word := by
    induction cs generalizing word with
    | nil => exact wordsAux_of_blank h word
    | cons c rest ih => rw [List.cons_append, wordsAux, wordsAux, ih, ih]
  exact haux []

end Text

namespace Profile

/-- A line that begins with a number sign. -/
def isComment (line : List Char) : Bool := line.head? == some '#'

/-- A line without a character that is not blank. -/
def isBlankLine (line : List Char) : Bool := line.all Text.isBlank

/-- A line that begins with a blank. -/
def isIndented (line : List Char) : Bool := line.head?.any Text.isBlank

/-- A line is what is left of it without line ends, and line ends, which are blanks. -/
theorem exists_dropLineEnds (raw : List Char) :
    ∃ ends, raw = dropLineEnds raw ++ ends ∧ ∀ c ∈ ends, Text.isBlank c = true := by
  refine ⟨(raw.reverse.takeWhile fun c => c = '\r' || c = '\n').reverse, ?_, fun c hc => ?_⟩
  · rw [dropLineEnds, ← List.reverse_append, List.takeWhile_append_dropWhile, List.reverse_reverse]
  · have hend := List.mem_takeWhile_imp (List.mem_reverse.mp hc)
    simp only [Bool.or_eq_true, decide_eq_true_eq] at hend
    rcases hend with rfl | rfl <;> decide

theorem of_eq (raw : List Char) :
    Line.of raw =
      if isComment raw then .comment
      else if isBlankLine raw then .blank
      else if isIndented raw then .frame (frameOf raw)
      else .header := by
  obtain ⟨ends, hraw, hends⟩ := exists_dropLineEnds raw
  have hframe : frameOf raw = frameOf (dropLineEnds raw) := by
    rw [frameOf, frameOf, ← Text.words_append_blanks (dropLineEnds raw) hends, ← hraw]
  have hblank : isBlankLine raw = (dropLineEnds raw).all Text.isBlank := by
    have hall : ends.all Text.isBlank = true := List.all_eq_true.mpr hends
    rw [isBlankLine, hraw, List.all_append, hall, Bool.and_true, ← hraw]
  rw [Line.of, hframe, hblank]
  cases hline : dropLineEnds raw with
  | nil =>
    have hcomment : isComment raw = false := by
      rw [hline, List.nil_append] at hraw
      subst hraw
      cases raw with
      | nil => rfl
      | cons c rest =>
        have hc : c ≠ '#' := by
          rintro rfl
          exact absurd (hends '#' List.mem_cons_self) (by decide)
        simp [isComment, hc]
    simp [hcomment]
  | cons c rest =>
    rw [hline, List.cons_append] at hraw
    have hhead : raw.head? = some c := by rw [hraw, List.head?_cons]
    by_cases hc : c = '#'
    · rw [if_pos (by simp [hc]), if_pos (by simp [isComment, hhead, hc])]
    · have hnot : (c :: rest).head? ≠ some '#' := by simp [hc]
      have hcomment : ¬ isComment raw = true := by simp [isComment, hhead, hc]
      rw [if_neg hnot, if_neg hcomment, isIndented, hhead]
      rfl

/-- The lines that are no comments, numbered from a number on, cut at the blank lines. -/
def paragraphsFrom (number : Nat) (lines : List (List Char)) : List (List (List Char × Nat)) :=
  ((lines.zipIdx number).filter fun l => !isComment l.1).splitOnP fun l => isBlankLine l.1

/-- The paragraphs of lines, which are counted from one. -/
def paragraphs (lines : List (List Char)) : List (List (List Char × Nat)) := paragraphsFrom 1 lines

/-- The blocks of a paragraph. A line that is not indented opens a block, which holds the indented lines
after it up to the next one that is not. -/
def blocks : List (List Char) → List (List (List Char))
  | [] => []
  | line :: rest => if isIndented line then blocks rest else rest.takeWhile isIndented :: blocks rest

/-- The sample of the indented lines of a block. -/
def sampleOf (innermostFirst : Bool) (block : List (List Char)) : Sample :=
  if innermostFirst then block.map frameOf else (block.map frameOf).reverse

/-- The samples of a paragraph: its blocks that hold a line. -/
def samplesOf (innermostFirst : Bool) (paragraph : List (List Char × Nat)) : List Sample :=
  ((blocks (paragraph.map Prod.fst)).filter (!·.isEmpty)).map (sampleOf innermostFirst)

/-- A paragraph begins with an indented line, which no header stands before. -/
def beginsIndented (paragraph : List (List Char × Nat)) : Bool :=
  paragraph.head?.any fun l => isIndented l.1

/-- The number of the first line of a paragraph that begins with an indented line. -/
def orphanLine? (paragraph : List (List Char × Nat)) : Option Nat :=
  if beginsIndented paragraph then paragraph.head?.map Prod.snd else none

/-- What a paragraph yields: a report if it begins with an indented line, and its samples. -/
def itemsOf (innermostFirst : Bool) (paragraph : List (List Char × Nat)) : List Item :=
  (orphanLine? paragraph).toList.map .skipped ++ (samplesOf innermostFirst paragraph).map .sample

/-- What the reader yields for the rest of a paragraph, from where it stands. -/
def Place.itemsOf (innermostFirst : Bool) (place : Place) (rest : List (List Char × Nat)) : List Item :=
  match place with
  | .outside => Profile.itemsOf innermostFirst rest
  | .orphaned => (samplesOf innermostFirst rest).map .sample
  | .block frames =>
    let frames := (((rest.map Prod.fst).takeWhile isIndented).map frameOf).reverse ++ frames
    (Place.block frames).flush innermostFirst ++ (samplesOf innermostFirst rest).map .sample

variable {innermostFirst : Bool}

theorem samplesOf_indented {line : List Char} {number : Nat} {rest : List (List Char × Nat)}
    (h : isIndented line = true) :
    samplesOf innermostFirst ((line, number) :: rest) = samplesOf innermostFirst rest := by
  simp [samplesOf, blocks, h]

theorem flush_block (block : List (List Char)) :
    (Place.block (block.map frameOf).reverse).flush innermostFirst =
      (([block].filter (!·.isEmpty)).map (sampleOf innermostFirst)).map .sample := by
  cases block with
  | nil => rfl
  | cons line rest =>
    obtain ⟨frame, frames, hframes⟩ :=
      List.exists_cons_of_ne_nil (l := ((line :: rest).map frameOf).reverse) (by simp)
    have hblock : (line :: rest).map frameOf = (frame :: frames).reverse := by
      rw [← hframes, List.reverse_reverse]
    simp [Place.flush, sampleOf, hblock]

theorem samplesOf_header {line : List Char} {number : Nat} {rest : List (List Char × Nat)}
    (h : isIndented line = false) :
    (samplesOf innermostFirst ((line, number) :: rest)).map Item.sample =
      (Place.block []).itemsOf innermostFirst rest := by
  simp only [Place.itemsOf, List.append_nil, flush_block]
  simp [samplesOf, blocks, h, List.filter_cons]
  split <;> simp

theorem itemsOf_nil (place : Place) : place.itemsOf innermostFirst [] = place.flush innermostFirst := by
  cases place <;> simp [Place.itemsOf, itemsOf, samplesOf, blocks, orphanLine?, beginsIndented, Place.flush]

theorem itemsOf_indented (place : Place) {line : List Char} {number : Nat}
    {rest : List (List Char × Nat)} (h : isIndented line = true) :
    place.itemsOf innermostFirst ((line, number) :: rest) =
      (place.step innermostFirst number (.frame (frameOf line))).1 ++
        (place.step innermostFirst number (.frame (frameOf line))).2.itemsOf innermostFirst rest := by
  cases place with
  | outside =>
    simp [Place.itemsOf, itemsOf, Place.step, orphanLine?, beginsIndented, h, samplesOf_indented]
  | orphaned => simp [Place.itemsOf, Place.step, samplesOf_indented h]
  | block frames => simp [Place.itemsOf, Place.step, samplesOf_indented h, h]

theorem itemsOf_header (place : Place) {line : List Char} {number : Nat}
    {rest : List (List Char × Nat)} (h : isIndented line = false) :
    place.itemsOf innermostFirst ((line, number) :: rest) =
      place.flush innermostFirst ++ (Place.block []).itemsOf innermostFirst rest := by
  cases place with
  | outside =>
    simp [Place.itemsOf, itemsOf, orphanLine?, beginsIndented, h, samplesOf_header, Place.flush]
  | orphaned => simp [Place.itemsOf, samplesOf_header h, Place.flush]
  | block frames => simp [Place.itemsOf, samplesOf_header h, h]

theorem paragraphsFrom_comment {number : Nat} {line : List Char} {rest : List (List Char)}
    (h : isComment line = true) :
    paragraphsFrom number (line :: rest) = paragraphsFrom (number + 1) rest := by
  simp [paragraphsFrom, List.zipIdx_cons, h]

theorem paragraphsFrom_blank {number : Nat} {line : List Char} {rest : List (List Char)}
    (hcomment : isComment line = false) (hblank : isBlankLine line = true) :
    paragraphsFrom number (line :: rest) = [] :: paragraphsFrom (number + 1) rest := by
  simp [paragraphsFrom, List.zipIdx_cons, hcomment, List.splitOnP_cons_eq_if_modifyHead, hblank]

theorem paragraphsFrom_text {number : Nat} {line : List Char} {rest : List (List Char)}
    (hcomment : isComment line = false) (hblank : isBlankLine line = false) :
    paragraphsFrom number (line :: rest) =
      (paragraphsFrom (number + 1) rest).modifyHead ((line, number) :: ·) := by
  simp [paragraphsFrom, List.zipIdx_cons, hcomment, List.splitOnP_cons_eq_if_modifyHead, hblank]

theorem exists_paragraphsFrom (number : Nat) (lines : List (List Char)) :
    ∃ first others, paragraphsFrom number lines = first :: others :=
  List.exists_cons_of_ne_nil (List.splitOnP_ne_nil _ _)

/-- From any place on, the reader yields what the rest of its paragraph and the other paragraphs do. The
induction is on the lines; a blank line is where the next paragraph becomes the present one. -/
theorem itemsFrom_eq {number : Nat} {place : Place} {lines : List (List Char)}
    {first : List (List Char × Nat)} {others : List (List (List Char × Nat))}
    (h : paragraphsFrom number lines = first :: others) :
    itemsFrom innermostFirst number place lines =
      place.itemsOf innermostFirst first ++ others.flatMap (itemsOf innermostFirst) := by
  induction lines generalizing number place first others with
  | nil =>
    have hnil : paragraphsFrom number [] = [[]] := rfl
    rw [hnil, List.cons.injEq] at h
    obtain ⟨rfl, rfl⟩ := h
    rw [itemsFrom, itemsOf_nil, List.flatMap_nil, List.append_nil]
  | cons line rest ih =>
    obtain ⟨first', others', hrest⟩ := exists_paragraphsFrom (number + 1) rest
    rw [itemsFrom, of_eq]
    cases hcomment : isComment line with
    | true =>
      rw [paragraphsFrom_comment hcomment] at h
      exact ih h
    | false =>
      cases hblank : isBlankLine line with
      | true =>
        rw [paragraphsFrom_blank hcomment hblank, List.cons.injEq] at h
        obtain ⟨rfl, rfl⟩ := h
        rw [hrest, List.flatMap_cons, itemsOf_nil]
        exact congrArg _ (ih hrest)
      | false =>
        rw [paragraphsFrom_text hcomment hblank, hrest, List.modifyHead_cons, List.cons.injEq] at h
        obtain ⟨rfl, rfl⟩ := h
        cases hindented : isIndented line with
        | true =>
          rw [itemsOf_indented place hindented, List.append_assoc]
          exact congrArg _ (ih hrest)
        | false =>
          rw [itemsOf_header place hindented, List.append_assoc]
          exact congrArg _ (ih hrest)

theorem items_eq (lines : List (List Char)) :
    items innermostFirst lines = (paragraphs lines).flatMap (itemsOf innermostFirst) := by
  obtain ⟨first, others, h⟩ := exists_paragraphsFrom 1 lines
  rw [items, itemsFrom_eq h, paragraphs, h]
  rfl

theorem samples_itemsOf (paragraph : List (List Char × Nat)) :
    samples (itemsOf innermostFirst paragraph) = samplesOf innermostFirst paragraph := by
  have hskipped (numbers : List Nat) : (numbers.map Item.skipped).filterMap Item.sample? = [] := by
    simp [Item.sample?]
  have hsamples (read : List Sample) : (read.map Item.sample).filterMap Item.sample? = read := by
    simp [List.filterMap_map, Function.comp_def, Item.sample?]
  rw [samples, itemsOf, List.filterMap_append, hskipped, hsamples, List.nil_append]

theorem skippedLines_itemsOf (paragraph : List (List Char × Nat)) :
    skippedLines (itemsOf innermostFirst paragraph) = (orphanLine? paragraph).toList := by
  have hskipped (numbers : List Nat) : (numbers.map Item.skipped).filterMap Item.skipped? = numbers := by
    simp [List.filterMap_map, Function.comp_def, Item.skipped?]
  have hsamples (read : List Sample) : (read.map Item.sample).filterMap Item.skipped? = [] := by
    simp [Item.skipped?]
  rw [skippedLines, itemsOf, List.filterMap_append, hskipped, hsamples, List.append_nil]

variable (innermostFirst)

/-- A profile is read as its format says. Its samples are those of its paragraphs: in a paragraph every
line that is not indented opens a block with the indented lines after it, and each block that holds a line
is the sample of the frames of its lines, in call order unless the innermost frame is to come first. Each
paragraph that begins with an indented line is reported once, at the number of that line, and no other. -/
theorem profile_read_by_paragraphs (lines : List (List Char)) :
    samples (items innermostFirst lines) = (paragraphs lines).flatMap (samplesOf innermostFirst) ∧
      skippedLines (items innermostFirst lines) = (paragraphs lines).filterMap orphanLine? ∧
      (skippedLines (items innermostFirst lines)).length = (paragraphs lines).countP beginsIndented := by
  have hskipped : skippedLines (items innermostFirst lines) = (paragraphs lines).filterMap orphanLine? := by
    rw [items_eq, skippedLines, List.filterMap_flatMap, List.filterMap_eq_flatMap_toList]
    exact List.flatMap_congr fun paragraph _ => skippedLines_itemsOf paragraph
  refine ⟨?_, hskipped, ?_⟩
  · rw [items_eq, samples, List.filterMap_flatMap]
    exact List.flatMap_congr fun paragraph _ => samples_itemsOf paragraph
  · rw [hskipped, List.length_filterMap_eq_countP]
    refine List.countP_congr fun paragraph _ => ?_
    cases paragraph with
    | nil => simp [orphanLine?, beginsIndented]
    | cons line rest => cases h : isIndented line.1 <;> simp [orphanLine?, beginsIndented, h]

end Profile

end StackQuery
