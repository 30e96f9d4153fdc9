import StackQuery.Proofs.Profile.Paragraphs
import Mathlib.Data.List.Forall2

/-!
# Printed profiles

The name of a frame is words with single spaces between them, and no word of it opens a parenthesis.
Samples with such names can be printed: a header, a line for each frame with the innermost first, and a
blank line. However they are printed, with comments among the lines, with more blank lines between the
samples and with either line end, the reader returns them and skips nothing. No other name is ever read.
-/
namespace StackQuery

namespace Text

/-- A text of one or more characters, none of them blank. -/
def IsWord (word : List Char) : Prop := word ≠ [] ∧ ∀ c ∈ word, isBlank c = false

instance (word : List Char) : Decidable (IsWord word) :=
  decidable_of_iff ((!word.isEmpty && word.all fun c => !isBlank c) = true) (by simp [IsWord])

theorem wordsAux_append_blank {b : Char} (hb : isBlank b = true) (cs word rest : List Char) :
    wordsAux (cs ++ b :: rest) word = wordsAux cs word ++ words rest := by
  induction cs generalizing word with
  | nil =>
    rw [List.nil_append, wordsAux.eq_2, if_pos hb, wordsAux, words]
    split <;> simp
  | cons c cs ih =>
    rw [List.cons_append, wordsAux, wordsAux, ih, ih]
    split
    · split <;> simp
    · rfl

theorem words_append_blank (cs : List Char) {b : Char} (hb : isBlank b = true) (rest : List Char) :
    words (cs ++ b :: rest) = words cs ++ words rest :=
  wordsAux_append_blank hb cs [] rest

theorem wordsAux_of_word {cs : List Char} (h : ∀ c ∈ cs, isBlank c = false) (word : List Char)
    (hne : word.reverse ++ cs ≠ []) : wordsAux cs word = [word.reverse ++ cs] := by
  induction cs generalizing word with
  | nil =>
    have hword : word.isEmpty = false := by
      rw [List.append_nil, ne_eq, List.reverse_eq_nil_iff] at hne
      simp [hne]
    simp [wordsAux, hword]
  | cons c cs ih =>
    have hc : ¬ isBlank c = true := by simp [h c List.mem_cons_self]
    rw [wordsAux, if_neg hc, ih (fun d hd => h d (List.mem_cons_of_mem _ hd)) _ (by simp)]
    simp

theorem words_of_word {word : List Char} (h : IsWord word) : words word = [word] :=
  wordsAux_of_word h.2 [] h.1

theorem words_intercalate {ws : List (List Char)} (h : ∀ w ∈ ws, IsWord w) :
    words ([' '].intercalate ws) = ws := by
  induction ws with
  | nil => rfl
  | cons w ws ih =>
    have hw := words_of_word (h w List.mem_cons_self)
    cases ws with
    | nil => rwa [List.intercalate_singleton]
    | cons w' ws =>
      have hrest := ih fun v hv => h v (List.mem_cons_of_mem _ hv)
      rw [List.intercalate_cons_cons, List.append_assoc, List.singleton_append,
        words_append_blank w (by decide), hw, hrest, List.singleton_append]

theorem isWord_of_mem_wordsAux {cs word : List Char} (hword : ∀ c ∈ word, isBlank c = false)
    {w : List Char} (hw : w ∈ wordsAux cs word) : IsWord w := by
  have hend (h : ¬ word.isEmpty = true) : IsWord word.reverse :=
    ⟨by simpa using h, fun c hc => hword c (List.mem_reverse.mp hc)⟩
  induction cs generalizing word with
  | nil =>
    rw [wordsAux] at hw
    split at hw
    · cases hw
    · rw [List.mem_singleton.mp hw]
      exact hend ‹_›
  | cons c cs ih =>
    have hnil : ∀ c ∈ ([] : List Char), isBlank c = false := by simp
    have hfresh (h : w ∈ wordsAux cs []) : IsWord w := ih hnil h fun hne => absurd rfl hne
    rw [wordsAux] at hw
    split at hw
    · split at hw
      · exact hfresh hw
      · rcases List.mem_cons.mp hw with rfl | hw
        · exact hend ‹_›
        · exact hfresh hw
    · have hc : ∀ d ∈ c :: word, isBlank d = false := by
        intro d hd
        rcases List.mem_cons.mp hd with rfl | hd
        · simpa using ‹¬ isBlank d = true›
        · exact hword d hd
      exact ih hc hw fun _ => ⟨by simp, fun d hd => hc d (List.mem_reverse.mp hd)⟩

theorem isWord_of_mem_words {cs w : List Char} (hw : w ∈ words cs) : IsWord w :=
  isWord_of_mem_wordsAux (by simp) hw

/-- A text that begins with a character that is not blank has a first word that begins with it. -/
theorem exists_words_cons {c : Char} (hc : isBlank c = false) (cs : List Char) :
    ∃ word rest, words (c :: cs) = (c :: word) :: rest := by
  have haux (cs word : List Char) :
      ∃ suffix rest, wordsAux cs (word ++ [c]) = (c :: suffix) :: rest := by
    induction cs generalizing word with
    | nil => exact ⟨word.reverse, [], by simp [wordsAux]⟩
    | cons d cs ih =>
      rw [wordsAux]
      split
      · exact ⟨word.reverse, wordsAux cs [], by simp⟩
      · exact ih (d :: word)
  obtain ⟨suffix, rest, h⟩ := haux cs []
  exact ⟨suffix, rest, by rw [words, wordsAux, if_neg (by simp [hc]), ← h, List.nil_append]⟩

/-- A text that is lines, each of them ended by a line feed or by a carriage return and a line feed. -/
inductive IsLines : List Char → List (List Char) → Prop
  | nil : IsLines [] []
  | lineFeed {line text lines} : (∀ c ∈ line, c ≠ '\r' ∧ c ≠ '\n') → IsLines text lines →
      IsLines (line ++ '\n' :: text) (line :: lines)
  | both {line text lines} : (∀ c ∈ line, c ≠ '\r' ∧ c ≠ '\n') → IsLines text lines →
      IsLines (line ++ '\r' :: '\n' :: text) (line :: lines)

theorem unifyLineEnds_append {line : List Char} (h : ∀ c ∈ line, c ≠ '\r') (rest : List Char) :
    unifyLineEnds (line ++ rest) = line ++ unifyLineEnds rest := by
  induction line with
  | nil => rfl
  | cons c line ih =>
    rw [List.cons_append, unifyLineEnds_cons (h c List.mem_cons_self),
      ih fun d hd => h d (List.mem_cons_of_mem _ hd), List.cons_append]

theorem splitLinesFrom_append {line : List Char} (h : ∀ c ∈ line, c ≠ '\n') (rest piece : List Char) :
    splitLinesFrom (line ++ '\n' :: rest) piece =
      (piece.reverse ++ line) :: splitLinesFrom rest [] := by
  induction line generalizing piece with
  | nil => simp [splitLinesFrom]
  | cons c line ih =>
    rw [List.cons_append, splitLinesFrom, if_neg (h c List.mem_cons_self),
      ih fun d hd => h d (List.mem_cons_of_mem _ hd)]
    simp

/-- Either line end is read as the end of its line, and nothing of it is left on the line. -/
theorem lines_of_isLines {text : List Char} {written : List (List Char)} (h : IsLines text written) :
    lines text = written := by
  have hline {line text : List Char} (hends : ∀ c ∈ line, c ≠ '\r' ∧ c ≠ '\n') :
      splitLinesFrom (line ++ '\n' :: unifyLineEnds text) [] = line :: lines text :=
    splitLinesFrom_append (fun c hc => (hends c hc).2) _ _
  induction h with
  | nil => rfl
  | lineFeed hends _ ih =>
    rw [lines, unifyLineEnds_append fun c hc => (hends c hc).1, unifyLineEnds_cons (by decide),
      hline hends, ih]
  | both hends _ ih =>
    rw [lines, unifyLineEnds_append fun c hc => (hends c hc).1, unifyLineEnds, hline hends, ih]

end Text

namespace Profile

/-- A name is one or more words with single spaces between them, none of which opens a parenthesis. -/
def IsName (name : Frame) : Prop :=
  ∃ ws : List (List Char), ws ≠ [] ∧ (∀ w ∈ ws, Text.IsWord w ∧ w.head? ≠ some '(') ∧
    name = String.ofList ([' '].intercalate ws)

theorem isName_unknownFrame : IsName unknownFrame := by
  refine ⟨[unknownFrame.toList], by simp, ?_, by decide +kernel⟩
  intro w hw
  rw [List.mem_singleton.mp hw]
  exact ⟨by decide +kernel, by decide +kernel⟩

theorem isName_frameOf (line : List Char) : IsName (frameOf line) := by
  rw [frameOf]
  split
  · exact isName_unknownFrame
  · rename_i ws hws
    refine ⟨_, hws, fun w hw => ⟨?_, ?_⟩, rfl⟩
    · exact Text.isWord_of_mem_words (List.mem_of_mem_drop ((List.takeWhile_prefix _).subset hw))
    · simpa using List.mem_takeWhile_imp hw

/-- A line for a frame: a tab, an address, the name, and an object in parentheses, with a space before the
name and one after it. Anything may follow the opening parenthesis, a line end too. -/
def IsFrameLine (name : Frame) (line : List Char) : Prop :=
  ∃ address object : List Char, Text.IsWord address ∧
    line = '\t' :: (address ++ ' ' :: (name.toList ++ ' ' :: '(' :: object))

/-- The frame of a line that is printed for a name is that name. -/
theorem frameOf_frameLine {name : Frame} {line : List Char} (hname : IsName name)
    (h : IsFrameLine name line) : frameOf line = name := by
  obtain ⟨address, object, haddress, rfl⟩ := h
  obtain ⟨ws, hne, hws, rfl⟩ := hname
  obtain ⟨first, rest, hobject⟩ := Text.exists_words_cons (c := '(') (by decide) object
  have hwords : Text.words ('\t' :: (address ++
      ' ' :: ((String.ofList ([' '].intercalate ws)).toList ++ ' ' :: '(' :: object))) =
      address :: (ws ++ ('(' :: first) :: rest) := by
    rw [← List.nil_append ('\t' :: _), Text.words_append_blank [] (by decide),
      Text.words_append_blank address (by decide), Text.words_append_blank _ (by decide),
      Text.words_of_word haddress, String.toList_ofList,
      Text.words_intercalate fun w hw => (hws w hw).1, hobject]
    rfl
  have hopen : ∀ w ∈ ws, (w.head? != some '(') = true := fun w hw => by simpa using (hws w hw).2
  have htake : (ws ++ ('(' :: first) :: rest).takeWhile (·.head? != some '(') = ws := by
    rw [List.takeWhile_append_of_pos hopen]
    simp
  rw [frameOf, hwords, List.drop_one, List.tail_cons, htake]
  split
  · exact absurd rfl hne
  · rfl

theorem of_frameLine {name : Frame} {line : List Char} (hname : IsName name)
    (h : IsFrameLine name line) : Line.of line = .frame name := by
  have hframe := frameOf_frameLine hname h
  obtain ⟨address, object, ⟨hne, hword⟩, rfl⟩ := h
  obtain ⟨c, address, rfl⟩ := List.exists_cons_of_ne_nil hne
  have hindented (rest : List Char) : isIndented ('\t' :: rest) = true :=
    show Text.isBlank '\t' = true by decide
  rw [of_eq, hframe, if_neg (by simp [isComment]),
    if_neg (by simp [isBlankLine, hword c List.mem_cons_self]), if_pos (hindented _)]

/-- A line that begins with a character that is neither blank nor a number sign. -/
def IsHeader (line : List Char) : Prop :=
  ∃ first rest, Text.isBlank first = false ∧ first ≠ '#' ∧ line = first :: rest

theorem of_header {line : List Char} (h : IsHeader line) : Line.of line = .header := by
  obtain ⟨first, rest, hblank, hcomment, rfl⟩ := h
  rw [of_eq, if_neg (by simp [isComment, hcomment]), if_neg (by simp [isBlankLine, hblank]),
    if_neg (by simp [isIndented, hblank])]

/-- The frames of a sample in the order of the lines, the innermost first. -/
def inLineOrder (innermostFirst : Bool) (sample : Sample) : Sample :=
  if innermostFirst then sample else sample.reverse

/-- Lines that print samples: for each a header, a line for each frame with the innermost first, and a blank
line. More blank lines may stand before each sample and after the last. -/
inductive IsPrinted (innermostFirst : Bool) : List Sample → List (List Char) → Prop
  | nil : IsPrinted innermostFirst [] []
  | blank {line samples lines} : isBlankLine line → IsPrinted innermostFirst samples lines →
      IsPrinted innermostFirst samples (line :: lines)
  | sample {header block line sample samples lines} : IsHeader header →
      List.Forall₂ IsFrameLine (inLineOrder innermostFirst sample) block → isBlankLine line →
      IsPrinted innermostFirst samples lines →
      IsPrinted innermostFirst (sample :: samples) (header :: (block ++ line :: lines))

/-- Samples that can be printed: each has a frame, and all frames have names. -/
def Printable (samples : List Sample) : Prop :=
  ∀ sample ∈ samples, sample ≠ [] ∧ ∀ name ∈ sample, IsName name

variable {innermostFirst : Bool}

theorem exists_isPrinted (samples : List Sample) : ∃ lines, IsPrinted innermostFirst samples lines := by
  induction samples with
  | nil => exact ⟨[], .nil⟩
  | cons sample samples ih =>
    obtain ⟨lines, hlines⟩ := ih
    have hblock : List.Forall₂ IsFrameLine (inLineOrder innermostFirst sample)
        ((inLineOrder innermostFirst sample).map fun name =>
          '\t' :: ("0".toList ++ ' ' :: (name.toList ++ ' ' :: '(' :: ")".toList))) := by
      rw [List.forall₂_map_right_iff, List.forall₂_same]
      exact fun name _ => ⟨_, _, by decide +kernel, rfl⟩
    have hheader : IsHeader ['p'] := ⟨'p', [], by decide, by decide, rfl⟩
    have hblank : isBlankLine [] = true := rfl
    exact ⟨_, .sample hheader hblock hblank hlines⟩

theorem itemsFrom_frames {names : Sample} {block : List (List Char)} (hnames : ∀ name ∈ names, IsName name)
    (h : List.Forall₂ IsFrameLine names block) (number : Nat) (frames : List Frame)
    (rest : List (List Char)) :
    itemsFrom innermostFirst number (.block frames) (block ++ rest) =
      itemsFrom innermostFirst (number + block.length) (.block (names.reverse ++ frames)) rest := by
  induction h generalizing number frames with
  | nil => rfl
  | @cons name line names block hline _ ih =>
    have hname := hnames name List.mem_cons_self
    have hrest := ih (fun other hother => hnames other (List.mem_cons_of_mem _ hother)) (number + 1)
      (name :: frames)
    rw [List.cons_append, itemsFrom, of_frameLine hname hline]
    simpa [Place.step, Nat.add_assoc, Nat.add_comm 1] using hrest

theorem flush_inLineOrder {sample : Sample} (hne : sample ≠ []) :
    (Place.block ((inLineOrder innermostFirst sample).reverse ++ [])).flush innermostFirst =
      [.sample sample] := by
  have hflush {frames : List Frame} (h : frames ≠ []) : (Place.block frames).flush innermostFirst =
      [.sample (if innermostFirst then frames.reverse else frames)] := by
    rw [Place.flush]
    exact h
  rw [List.append_nil, hflush (by cases innermostFirst <;> simpa [inLineOrder] using hne)]
  cases innermostFirst <;> simp [inLineOrder]

/-- Printed samples are what reading them yields, and nothing else. The induction is on how they are
printed; it returns to the place outside of blocks after each blank line. -/
theorem itemsFrom_of_isPrinted {samples : List Sample} {lines : List (List Char)}
    (hsamples : Printable samples) (h : IsPrinted innermostFirst samples lines) (number : Nat) :
    itemsFrom innermostFirst number .outside lines = samples.map .sample := by
  have hblank {line : List Char} (hline : isBlankLine line = true) (number : Nat) (place : Place)
      (rest : List (List Char)) : itemsFrom innermostFirst number place (line :: rest) =
        place.flush innermostFirst ++ itemsFrom innermostFirst (number + 1) .outside rest := by
    have hcomment : isComment line = false := by
      cases line with
      | nil => rfl
      | cons c line =>
        by_cases hc : c = '#'
        · subst hc
          exact absurd hline (by simp [isBlankLine, show Text.isBlank '#' = false by decide])
        · simp [isComment, hc]
    rw [itemsFrom, of_eq, if_neg (by simp [hcomment]), if_pos hline]
    rfl
  induction h generalizing number with
  | nil => rfl
  | blank hline _ ih =>
    rw [hblank hline, ih hsamples]
    rfl
  | @sample header block line sample samples lines hheader hblock hline _ ih =>
    obtain ⟨hne, hnames⟩ := hsamples sample List.mem_cons_self
    have hlast : Printable samples := fun other hother => hsamples other (List.mem_cons_of_mem _ hother)
    have hinOrder : ∀ name ∈ inLineOrder innermostFirst sample, IsName name := fun name hname =>
      hnames name (by cases innermostFirst <;> simpa [inLineOrder] using hname)
    calc itemsFrom innermostFirst number .outside (header :: (block ++ line :: lines))
        = itemsFrom innermostFirst (number + 1) (.block []) (block ++ line :: lines) := by
          rw [itemsFrom, of_header hheader]
          rfl
      _ = (Place.block ((inLineOrder innermostFirst sample).reverse ++ [])).flush innermostFirst ++
            itemsFrom innermostFirst (number + 1 + block.length + 1) .outside lines := by
          rw [itemsFrom_frames hinOrder hblock, hblank hline]
      _ = (sample :: samples).map .sample := by
          rw [flush_inLineOrder hne, ih hlast, List.map_cons, List.singleton_append]

/-- What a line yields depends on its number only if the line is reported. -/
theorem step_eq_of_samples {number other : Nat} {place : Place} {line : Line} {samples : List Sample}
    (h : (place.step innermostFirst other line).1 = samples.map .sample) :
    place.step innermostFirst number line = place.step innermostFirst other line := by
  cases line with
  | frame name =>
    cases place with
    | outside =>
      cases samples <;> simp [Place.step] at h
    | orphaned => rfl
    | block frames => rfl
  | _ => rfl

theorem itemsFrom_of_filter {lines : List (List Char)} {number other : Nat} {place : Place}
    {samples : List Sample}
    (h : itemsFrom innermostFirst other place (lines.filter (!isComment ·)) = samples.map .sample) :
    itemsFrom innermostFirst number place lines = samples.map .sample := by
  have hcons (number : Nat) (place : Place) (line : List Char) (rest : List (List Char)) :
      itemsFrom innermostFirst number place (line :: rest) =
        (place.step innermostFirst number (Line.of line)).1 ++
          itemsFrom innermostFirst (number + 1) (place.step innermostFirst number (Line.of line)).2 rest :=
    rfl
  induction lines generalizing number other place samples with
  | nil => exact h
  | cons line rest ih =>
    cases hline : isComment line with
    | true =>
      rw [itemsFrom_comment (by rw [of_eq, if_pos hline])]
      exact ih (by simpa [hline] using h)
    | false =>
      rw [List.filter_cons_of_pos (by simp [hline]), hcons] at h
      obtain ⟨first, last, rfl, hfirst, hlast⟩ := List.append_eq_map_iff.mp h
      rw [hcons, step_eq_of_samples hfirst.symm, List.map_append, hfirst, ih hlast.symm]

/-- Printed samples with comments among their lines are read back, and nothing is skipped. -/
theorem read_of_isPrinted {samples : List Sample} {lines : List (List Char)}
    (hsamples : Printable samples)
    (h : IsPrinted innermostFirst samples (lines.filter (!isComment ·))) :
    Profile.samples (items innermostFirst lines) = samples ∧
      skippedLines (items innermostFirst lines) = [] := by
  have hitems : items innermostFirst lines = samples.map .sample :=
    itemsFrom_of_filter (itemsFrom_of_isPrinted hsamples h 1)
  refine ⟨?_, ?_⟩
  · simp [hitems, Profile.samples, List.filterMap_map, Function.comp_def, Item.sample?]
  · simp [hitems, skippedLines, Item.skipped?]

theorem printable_samples (lines : List (List Char)) :
    Printable (samples (items innermostFirst lines)) := by
  intro sample hsample
  have hread : samples (items innermostFirst lines) =
      (paragraphs lines).flatMap (samplesOf innermostFirst) := by
    rw [items_eq, samples, List.filterMap_flatMap]
    exact List.flatMap_congr fun paragraph _ => samples_itemsOf paragraph
  rw [hread, List.mem_flatMap] at hsample
  obtain ⟨paragraph, _, hsample⟩ := hsample
  obtain ⟨block, hblock, rfl⟩ := List.mem_map.mp hsample
  have hne : block ≠ [] := by simpa using (List.mem_filter.mp hblock).2
  refine ⟨by cases innermostFirst <;> simpa [sampleOf] using hne, fun name hname => ?_⟩
  obtain ⟨line, _, rfl⟩ : ∃ line ∈ block, frameOf line = name := by
    cases innermostFirst <;> simpa [sampleOf] using hname
  exact isName_frameOf line

variable (innermostFirst)

/-- Reading undoes printing. Samples that have frames, all with names, are read back from any lines that
print them, with comments among the lines and either line end, and nothing is skipped. Whatever lines are
read, the samples have frames, all with names; so what is read can be printed, and reading that yields the
same samples. -/
theorem printed_profile_read_back :
    (∀ samples lines, Printable samples →
      IsPrinted innermostFirst samples (lines.filter (!isComment ·)) →
        Profile.samples (items innermostFirst lines) = samples ∧
          skippedLines (items innermostFirst lines) = [] ∧
          ∀ text, Text.IsLines text lines →
            Profile.samples (items innermostFirst (Text.lines text)) = samples) ∧
      (∀ lines, Printable (samples (items innermostFirst lines))) ∧
      (∀ samples, ∃ lines, IsPrinted innermostFirst samples lines) ∧
      ∀ lines again, IsPrinted innermostFirst (samples (items innermostFirst lines))
          (again.filter (!isComment ·)) →
        samples (items innermostFirst again) = samples (items innermostFirst lines) := by
  refine ⟨fun samples lines hsamples hlines => ?_, printable_samples, exists_isPrinted,
    fun lines again hagain => (read_of_isPrinted (printable_samples lines) hagain).1⟩
  obtain ⟨hread, hskipped⟩ := read_of_isPrinted hsamples hlines
  exact ⟨hread, hskipped, fun text htext => by rw [Text.lines_of_isLines htext, hread]⟩

theorem printed_profile_read_back_two_samples :
    let lines := ["# host\r\n", "p 1:\r\n", "\t7f je malloc (/a b)\r\n", "# note\r\n", "\t80 main (c)\r\n",
      "\r\n", " \n", "q:\n", "\t9 [unknown] (d)\n", "\n"].map String.toList
    IsPrinted false [["main", "je malloc"], ["[unknown]"]] (lines.filter (!isComment ·)) ∧
      samples (items false lines) = [["main", "je malloc"], ["[unknown]"]] ∧
      skippedLines (items false lines) = [] := by
  intro lines
  have hprintable : Printable [["main", "je malloc"], ["[unknown]"]] := by
    have hmain : IsName "main" := ⟨["main".toList], by decide, by
      simp only [List.mem_singleton, forall_eq]
      decide, by decide⟩
    have hmalloc : IsName "je malloc" := ⟨["je".toList, "malloc".toList], by decide, by
      simp only [List.mem_cons, List.not_mem_nil, or_false, forall_eq_or_imp, forall_eq]
      decide, by decide⟩
    intro sample hsample
    simp only [List.mem_cons, List.not_mem_nil, or_false] at hsample
    rcases hsample with rfl | rfl
    · exact ⟨by simp, by simp [hmain, hmalloc]⟩
    · exact ⟨by simp, fun name hname => List.mem_singleton.mp hname ▸ isName_unknownFrame⟩
  have hheader (first : Char) {rest line : List Char} (hfirst : Text.isBlank first = false ∧ first ≠ '#')
      (h : line = first :: rest) : IsHeader line := ⟨first, rest, hfirst.1, hfirst.2, h⟩
  have hframe (address : List Char) {name : Frame} {object line : List Char} (hword : Text.IsWord address)
      (h : line = '\t' :: (address ++ ' ' :: (name.toList ++ ' ' :: '(' :: object))) :
      IsFrameLine name line := ⟨address, object, hword, h⟩
  have hfirst : List.Forall₂ IsFrameLine (inLineOrder false ["main", "je malloc"])
      ["\t7f je malloc (/a b)\r\n".toList, "\t80 main (c)\r\n".toList] :=
    .cons (hframe "7f".toList (by decide) rfl)
      (.cons (hframe "80".toList (by decide) rfl) .nil)
  have hsecond : List.Forall₂ IsFrameLine (inLineOrder false ["[unknown]"]) ["\t9 [unknown] (d)\n".toList] :=
    .cons (hframe ['9'] (by decide) rfl) .nil
  have hend : isBlankLine "\n".toList = true ∧ isBlankLine " \n".toList = true ∧
      isBlankLine "\r\n".toList = true := by decide
  have hprinted : IsPrinted false [["main", "je malloc"], ["[unknown]"]] (lines.filter (!isComment ·)) :=
    IsPrinted.sample (hheader 'p' (by decide) rfl) hfirst hend.2.2
      (.blank hend.2.1 (.sample (hheader 'q' (by decide) rfl) hsecond hend.1 .nil))
  obtain ⟨hread, hskipped, _⟩ := (printed_profile_read_back false).1 _ lines hprintable hprinted
  exact ⟨hprinted, hread, hskipped⟩

end Profile

end StackQuery
