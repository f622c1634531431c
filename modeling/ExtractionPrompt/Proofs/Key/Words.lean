import ExtractionPrompt.Proofs.Key.NormalForm
import Mathlib.Data.List.TakeWhile

/-!
The words of a label.  A label is cut at underscores and blanks, everything but small letters and
digits is left out of the pieces, and the pieces that are not empty are its words.  No step of the
normalizer changes the words, and a key is its own words with underscores between them; so a key
tells which words the label had, and nothing else about it.
-/

namespace ExtractionPrompt.Key

def isSeparator (c : Char) : Bool := c == '_' || Text.isLabelBlank c

/-- What is left of the texts between the separators. -/
def cleanPieces (s : List Char) : List (List Char) :=
  (s.splitOnP isSeparator).map fun piece => piece.filter isWordChar

def words (s : List Char) : List (List Char) := (cleanPieces s).filter fun piece => !piece.isEmpty

def ofWords (ws : List (List Char)) : List Char := ['_'].intercalate ws

theorem not_isSeparator_of_isWordChar {c : Char} (inWord : isWordChar c = true) :
    isSeparator c = false := by
  have inKey : isKeyChar c = true := by simp [isKeyChar_eq, inWord]
  have other : c ≠ '_' := by
    rintro rfl
    cases inWord
  simp [isSeparator, not_isLabelBlank_of_isKeyChar inKey, other]

theorem not_isWordChar_of_isSeparator {c : Char} (separator : isSeparator c = true) :
    isWordChar c = false := by
  rw [Bool.eq_false_iff]
  intro inWord
  rw [not_isSeparator_of_isWordChar inWord] at separator
  cases separator

theorem cleanPieces_cons (c : Char) (s : List Char) :
    cleanPieces (c :: s) =
      if isSeparator c then [] :: cleanPieces s
      else if isWordChar c then (cleanPieces s).modifyHead (c :: ·) else cleanPieces s := by
  rw [cleanPieces, List.splitOnP_cons_eq_if_modifyHead]
  split
  · rfl
  · obtain ⟨first, more, pieces⟩ := List.exists_cons_of_ne_nil (List.splitOnP_ne_nil isSeparator s)
    rw [cleanPieces, pieces]
    by_cases inWord : isWordChar c = true
    · simp [inWord]
    · simp [inWord]

theorem cleanPieces_ne_nil (s : List Char) : cleanPieces s ≠ [] := by
  simp [cleanPieces]

theorem words_nil : words [] = [] := rfl

/-- Words do not go across a separator. -/
theorem words_append_cons {c : Char} (separator : isSeparator c = true) (s t : List Char) :
    words (s ++ c :: t) = words s ++ words t := by
  rw [words, cleanPieces, List.splitOnP_append_cons s t separator, List.map_append,
    List.filter_append]
  rfl

/-- Only separators and the characters of words matter. -/
theorem cleanPieces_filter {keeps : Char → Bool} {s : List Char}
    (relevant : ∀ c ∈ s, isSeparator c || isWordChar c → keeps c = true) :
    cleanPieces (s.filter keeps) = cleanPieces s := by
  induction s with
  | nil => rfl
  | cons c rest ih =>
    obtain ⟨here, later⟩ := List.forall_mem_cons.1 relevant
    by_cases kept : keeps c = true
    · rw [List.filter_cons_of_pos kept, cleanPieces_cons, cleanPieces_cons, ih later]
    · have dropped : (isSeparator c || isWordChar c) = false := by
        rw [Bool.eq_false_iff]
        exact fun needed => kept (here needed)
      rw [Bool.or_eq_false_iff] at dropped
      rw [List.filter_cons_of_neg kept, cleanPieces_cons, dropped.1, dropped.2, ih later]
      rfl

theorem words_filter {keeps : Char → Bool} {s : List Char}
    (relevant : ∀ c ∈ s, isSeparator c || isWordChar c → keeps c = true) :
    words (s.filter keeps) = words s := by
  rw [words, words, cleanPieces_filter relevant]

/-- Characters that stand neither in words nor between them can be left out. -/
theorem words_append_dropped (dropped : List Char)
    (irrelevant : ∀ c ∈ dropped, (isSeparator c || isWordChar c) = false) (s t : List Char) :
    words (s ++ dropped ++ t) = words (s ++ t) := by
  have nothing : dropped.filter (fun c => isSeparator c || isWordChar c) = [] := by
    rw [List.filter_eq_nil_iff]
    intro c member
    simp [irrelevant c member]
  rw [← words_filter fun c _ needed => needed, List.filter_append, List.filter_append, nothing,
    List.append_nil, ← List.filter_append, words_filter fun c _ needed => needed]

theorem words_cons_of_not_isWordChar {c : Char} (other : isWordChar c = false) (s : List Char) :
    words (c :: s) = words s := by
  by_cases separator : isSeparator c = true
  · exact words_append_cons separator [] s
  · exact words_append_dropped [c] (by simp [separator, other]) [] s

theorem words_concat_of_not_isWordChar {c : Char} (other : isWordChar c = false) (s : List Char) :
    words (s ++ [c]) = words s := by
  by_cases separator : isSeparator c = true
  · rw [words_append_cons separator, words_nil, List.append_nil]
  · have dropped := words_append_dropped [c] (by simp [separator, other]) s []
    rwa [List.append_nil, List.append_nil] at dropped

section

variable {gap : List Char} (wordless : ∀ c ∈ gap, isWordChar c = false)

include wordless

theorem words_wordless_append (s : List Char) : words (gap ++ s) = words s := by
  induction gap with
  | nil => rfl
  | cons c rest ih =>
    obtain ⟨here, later⟩ := List.forall_mem_cons.1 wordless
    rw [List.cons_append, words_cons_of_not_isWordChar here, ih later]

theorem words_append_wordless (s : List Char) : words (s ++ gap) = words s := by
  induction gap generalizing s with
  | nil => rw [List.append_nil]
  | cons c rest ih =>
    obtain ⟨here, later⟩ := List.forall_mem_cons.1 wordless
    rw [← List.singleton_append, ← List.append_assoc, ih later, words_concat_of_not_isWordChar here]

/-- Between two texts it only matters that there is a separator. -/
theorem words_append_gap (separated : ∃ c ∈ gap, isSeparator c = true) (s t : List Char) :
    words (s ++ gap ++ t) = words s ++ words t := by
  obtain ⟨c, member, separator⟩ := separated
  obtain ⟨before, after, rfl⟩ := List.append_of_mem member
  obtain ⟨left, right⟩ := List.forall_mem_append.1 wordless
  calc words (s ++ (before ++ c :: after) ++ t)
      = words ((s ++ before) ++ c :: (after ++ t)) := by simp
    _ = words (s ++ before) ++ words (after ++ t) := words_append_cons separator _ _
    _ = words s ++ words t := by
      rw [words_append_wordless left, words_wordless_append (List.forall_mem_cons.1 right).2]

end

theorem words_eq_nil_iff (s : List Char) : words s = [] ↔ ∀ c ∈ s, isWordChar c = false := by
  constructor
  · intro wordsNil
    have pieces : ∀ piece ∈ cleanPieces s, piece = [] := by
      simpa [words, List.filter_eq_nil_iff] using wordsNil
    clear wordsNil
    induction s with
    | nil => simp
    | cons c rest ih =>
      rw [cleanPieces_cons] at pieces
      split at pieces
      · rename_i separator
        exact List.forall_mem_cons.2 ⟨not_isWordChar_of_isSeparator separator,
          ih (List.forall_mem_cons.1 pieces).2⟩
      · split at pieces
        · obtain ⟨first, more, found⟩ := List.exists_cons_of_ne_nil (cleanPieces_ne_nil rest)
          simp [found] at pieces
        · rename_i other
          exact List.forall_mem_cons.2 ⟨by simpa using other, ih pieces⟩
  · intro wordless
    have gone := words_append_wordless wordless []
    rwa [List.nil_append, words_nil] at gone

/-! The steps of the normalizer. -/

theorem exists_trimBy_eq (inClass : Char → Bool) (s : List Char) :
    ∃ before after, s = before ++ Text.trimBy inClass s ++ after ∧
      (∀ c ∈ before, inClass c = true) ∧
      ∀ c ∈ after, inClass c = true := by
  refine ⟨s.takeWhile inClass, ((s.dropWhile inClass).reverse.takeWhile inClass).reverse,
    ?_, ?_, ?_⟩
  · rw [Text.trimBy, List.append_assoc, ← List.reverse_append, List.takeWhile_append_dropWhile,
      List.reverse_reverse, List.takeWhile_append_dropWhile]
  · intro c member
    exact List.mem_takeWhile_imp member
  · intro c member
    exact List.mem_takeWhile_imp (List.mem_reverse.1 member)

theorem lowercase_of_isSeparator {c : Char} (separator : isSeparator c = true) :
    Text.lowercase c = [c] := by
  rw [isSeparator, Bool.or_eq_true, beq_iff_eq] at separator
  rcases separator with rfl | blank
  · exact lowercase_of_isKeyChar rfl
  · exact Text.lowercase_of_isLabelBlank blank

theorem flatMap_lowercase_of_separators {s : List Char}
    (separators : ∀ c ∈ s, isSeparator c = true) :
    s.flatMap Text.lowercase = s := by
  rw [List.flatMap_congr fun c member => lowercase_of_isSeparator (separators c member),
    List.flatMap_singleton']

/-- Separators around a text do not matter, whether they are trimmed before it is lowered or
after. -/
theorem words_lowercase_trimBy {inClass : Char → Bool}
    (separators : ∀ c, inClass c = true → isSeparator c = true) (s : List Char) :
    words ((Text.trimBy inClass s).flatMap Text.lowercase) = words (s.flatMap Text.lowercase) := by
  obtain ⟨before, after, split, inBefore, inAfter⟩ := exists_trimBy_eq inClass s
  have left : ∀ c ∈ before, isSeparator c = true := fun c member => separators c (inBefore c member)
  have right : ∀ c ∈ after, isSeparator c = true := fun c member => separators c (inAfter c member)
  conv_rhs => rw [split]
  rw [List.flatMap_append, List.flatMap_append, flatMap_lowercase_of_separators left,
    flatMap_lowercase_of_separators right,
    words_append_wordless fun c member => not_isWordChar_of_isSeparator (right c member),
    words_wordless_append fun c member => not_isWordChar_of_isSeparator (left c member)]

theorem words_trimBy {inClass : Char → Bool}
    (separators : ∀ c, inClass c = true → isSeparator c = true) (s : List Char) :
    words (Text.trimBy inClass s) = words s := by
  obtain ⟨before, after, split, inBefore, inAfter⟩ := exists_trimBy_eq inClass s
  conv_rhs => rw [split]
  rw [words_append_wordless fun c member =>
      not_isWordChar_of_isSeparator (separators c (inAfter c member)),
    words_wordless_append fun c member =>
      not_isWordChar_of_isSeparator (separators c (inBefore c member))]

/-- Every run of characters in a class becomes one underscore. -/
def joinRuns (inClass : Char → Bool) (inRun : Bool) : List Char → List Char
  | [] => []
  | c :: rest =>
    if inClass c then
      (if inRun then joinRuns inClass true rest else '_' :: joinRuns inClass true rest)
    else c :: joinRuns inClass false rest

theorem joinBlanks_eq_joinRuns (inRun : Bool) (s : List Char) :
    joinBlanks inRun s = joinRuns Text.isLabelBlank inRun s := by
  induction s generalizing inRun with
  | nil => rfl
  | cons c rest ih => rw [joinBlanks, joinRuns, ih, ih]

theorem collapse_eq_joinRuns (inRun : Bool) (s : List Char) :
    collapse '_' inRun s = joinRuns (· == '_') inRun s := by
  induction s generalizing inRun with
  | nil => rfl
  | cons c rest ih =>
    rw [collapse, joinRuns, ih, ih]
    by_cases under : c = '_'
    · simp [under]
    · simp [under]

/-- Inside a run the words ahead are as they were, and in front of one the words behind are too. -/
theorem words_joinRuns {inClass : Char → Bool}
    (separators : ∀ c, inClass c = true → isSeparator c = true) (s : List Char) :
    (∀ before, words (before ++ joinRuns inClass false s) = words (before ++ s)) ∧
      words (joinRuns inClass true s) = words s := by
  induction s with
  | nil => exact ⟨fun _ => rfl, rfl⟩
  | cons c rest ih =>
    obtain ⟨outside, inside⟩ := ih
    have next : ∀ before, words (before ++ c :: joinRuns inClass false rest) =
        words (before ++ c :: rest) := by
      intro before
      have longer := outside (before ++ [c])
      rwa [List.append_assoc, List.append_assoc] at longer
    by_cases here : inClass c = true
    · have separator := separators c here
      simp only [joinRuns, if_pos here, if_true, Bool.false_eq_true, if_false]
      constructor
      · intro before
        rw [words_append_cons rfl, words_append_cons separator, inside]
      · rw [inside, words_cons_of_not_isWordChar (not_isWordChar_of_isSeparator separator)]
    · simp only [joinRuns, if_neg here]
      exact ⟨next, next []⟩

theorem not_isLabelBlank_of_mem_joinBlanks {inRun : Bool} {s : List Char} :
    ∀ c ∈ joinBlanks inRun s, Text.isLabelBlank c = false := by
  induction s generalizing inRun with
  | nil => simp [joinBlanks]
  | cons c rest ih =>
    rw [joinBlanks]
    split
    · split
      · exact ih
      · exact List.forall_mem_cons.2 ⟨by decide, ih⟩
    · rename_i other
      exact List.forall_mem_cons.2 ⟨by simpa using other, ih⟩

theorem isSeparator_of_isLabelBlank (c : Char) (blank : Text.isLabelBlank c = true) :
    isSeparator c = true := by
  simp [isSeparator, blank]

theorem isSeparator_of_underscore (c : Char) (under : (c == '_') = true) :
    isSeparator c = true := by
  simp [isSeparator, under]

/-- No step of the normalizer changes the words. -/
theorem words_normalizeChars (label : List Char) :
    words (normalizeChars label) = words (label.flatMap Text.lowercase) := by
  rw [normalizeChars_eq_trimBy]
  set lowered := (Text.trimBy Text.isLabelBlank label).flatMap Text.lowercase
  have kept : ∀ c ∈ joinBlanks false lowered, isSeparator c || isWordChar c →
      isKeyChar c = true := by
    intro c member relevant
    rw [isSeparator, not_isLabelBlank_of_mem_joinBlanks c member, Bool.or_false,
      Bool.or_comm] at relevant
    exact relevant
  calc words (Text.trimBy (· == '_')
        (collapse '_' false ((joinBlanks false lowered).filter isKeyChar)))
      = words (collapse '_' false ((joinBlanks false lowered).filter isKeyChar)) :=
        words_trimBy isSeparator_of_underscore _
    _ = words ((joinBlanks false lowered).filter isKeyChar) := by
        rw [collapse_eq_joinRuns]
        exact (words_joinRuns isSeparator_of_underscore _).1 []
    _ = words (joinBlanks false lowered) := words_filter kept
    _ = words lowered := by
        rw [joinBlanks_eq_joinRuns]
        exact (words_joinRuns isSeparator_of_isLabelBlank _).1 []
    _ = words (label.flatMap Text.lowercase) :=
      words_lowercase_trimBy isSeparator_of_isLabelBlank label

/-! A key is its words with underscores between them. -/

theorem ofWords_cons_cons (w v : List Char) (ws : List (List Char)) :
    ofWords (w :: v :: ws) = w ++ '_' :: ofWords (v :: ws) := by
  simp [ofWords, List.intercalate_cons_cons]

theorem ofWords_modifyHead (c : Char) {ws : List (List Char)} (nonempty : ws ≠ []) :
    ofWords (ws.modifyHead (c :: ·)) = c :: ofWords ws := by
  match ws with
  | [] => exact absurd rfl nonempty
  | [w] => simp [ofWords]
  | w :: v :: more =>
    rw [List.modifyHead_cons, ofWords_cons_cons, ofWords_cons_cons, List.cons_append]

theorem words_singleton {c : Char} (inWord : isWordChar c = true) : words [c] = [[c]] := by
  rw [words, cleanPieces_cons, not_isSeparator_of_isWordChar inWord, inWord]
  rfl

/-- A character in front of a word belongs to it. -/
theorem words_cons_cons {c d : Char} (first : isWordChar c = true) (second : isWordChar d = true)
    (s : List Char) :
    words (c :: d :: s) = (words (d :: s)).modifyHead (c :: ·) := by
  have pieces := cleanPieces_cons d s
  rw [not_isSeparator_of_isWordChar second, second, if_neg Bool.false_ne_true, if_pos rfl] at pieces
  rw [words, words, cleanPieces_cons c, not_isSeparator_of_isWordChar first, first,
    if_neg Bool.false_ne_true, if_pos rfl, pieces]
  cases cleanPieces s with
  | nil => rfl
  | cons piece more => simp

theorem words_ne_nil_of_ofWords_eq {s : List Char} (same : ofWords (words s) = s)
    (nonempty : s ≠ []) : words s ≠ [] := by
  intro wordsNil
  rw [wordsNil] at same
  exact nonempty same.symm

theorem ofWords_words_cons_underscore {c : Char} {s : List Char} (inWord : isWordChar c = true)
    (same : ofWords (words s) = s) (nonempty : s ≠ []) :
    ofWords (words (c :: '_' :: s)) = c :: '_' :: s := by
  obtain ⟨w, ws, found⟩ := List.exists_cons_of_ne_nil (words_ne_nil_of_ofWords_eq same nonempty)
  have split : words (c :: '_' :: s) = [c] :: words s := by
    have joined := words_append_cons (by decide : isSeparator '_' = true) [c] s
    rwa [words_singleton inWord] at joined
  rw [split, found, ofWords_cons_cons, ← found, same]
  rfl

theorem ofWords_words_cons_cons {c d : Char} {s : List Char} (first : isWordChar c = true)
    (second : isWordChar d = true) (same : ofWords (words (d :: s)) = d :: s) :
    ofWords (words (c :: d :: s)) = c :: d :: s := by
  rw [words_cons_cons first second,
    ofWords_modifyHead c (words_ne_nil_of_ofWords_eq same (List.cons_ne_nil d s)), same]

/-- What stands in a key behind a word starts with the underscore that separates it. -/
theorem ofWords_words_of_tail {s : List Char} (chars : ∀ c ∈ s, isKeyChar c = true)
    (single : Single s) (last : s.getLast? ≠ some '_') :
    (s.head? = some '_' → '_' :: ofWords (words s) = s) ∧
      (s.head? ≠ some '_' → ofWords (words s) = s) := by
  induction s with
  | nil => exact ⟨fun head => absurd head (by simp), fun _ => rfl⟩
  | cons c rest ih =>
    obtain ⟨here, later⟩ := List.forall_mem_cons.1 chars
    obtain ⟨next, single⟩ := List.isChain_cons.1 single
    rw [List.getLast?_cons] at last
    have restLast : rest.getLast? ≠ some '_' := by
      intro same
      rw [same] at last
      exact last rfl
    obtain ⟨atUnderscore, atWord⟩ := ih later single restLast
    by_cases under : c = '_'
    · subst under
      have other : rest.head? ≠ some '_' := fun head => next '_' head rfl rfl
      refine ⟨fun _ => ?_, fun head => absurd rfl head⟩
      rw [words_cons_of_not_isWordChar (by decide), atWord other]
    · have inWord : isWordChar c = true := by simpa [isKeyChar_eq, under] using here
      refine ⟨fun head => absurd (Option.some.inj head) under, fun _ => ?_⟩
      match rest with
      | [] => rw [words_singleton inWord]; rfl
      | d :: more =>
        by_cases gap : d = '_'
        · subst gap
          have behind : ofWords (words more) = more := by
            have whole := atUnderscore rfl
            rw [words_cons_of_not_isWordChar (by decide)] at whole
            exact (List.cons.inj whole).2
          have nonempty : more ≠ [] := by
            rintro rfl
            exact restLast rfl
          exact ofWords_words_cons_underscore inWord behind nonempty
        · have second : isWordChar d = true := by
            simpa [isKeyChar_eq, gap] using (List.forall_mem_cons.1 later).1
          exact ofWords_words_cons_cons inWord second (atWord (by simpa using gap))

theorem ofWords_words_of_isValidChars {key : List Char} (valid : isValidChars key = true) :
    ofWords (words key) = key := by
  obtain ⟨chars, first, last, single⟩ := (isValidChars_iff key).1 valid
  exact (ofWords_words_of_tail chars single last).2 first

/-- A key is what its label's words are joined to. -/
theorem normalizeChars_eq (label : List Char) :
    normalizeChars label = ofWords (words (label.flatMap Text.lowercase)) := by
  rw [← words_normalizeChars, ofWords_words_of_isValidChars (isValidChars_normalizeChars label)]

/-! Labels. -/

def labelWords (label : String) : List (List Char) := words (label.toList.flatMap Text.lowercase)

/-- The key of a list of words. -/
def keyOf (ws : List (List Char)) : String := String.ofList (ofWords ws)

theorem normalize_eq_keyOf (label : String) : normalize label = keyOf (labelWords label) := by
  rw [normalize, normalizeChars_eq, keyOf, labelWords]

theorem words_normalize (label : String) : words (normalize label).toList = labelWords label := by
  rw [normalize, String.toList_ofList, words_normalizeChars, labelWords]

/-- A label with nothing of a word in it. -/
def Wordless (label : String) : Prop :=
  ∀ c ∈ label.toList.flatMap Text.lowercase, isWordChar c = false

instance (label : String) : Decidable (Wordless label) :=
  List.decidableBAll (fun c => isWordChar c = false) (label.toList.flatMap Text.lowercase)

/-- Only a wordless label has the empty key. -/
theorem normalize_eq_empty_iff (label : String) : normalize label = "" ↔ Wordless label := by
  rw [Wordless, ← words_eq_nil_iff, ← labelWords]
  constructor
  · intro empty
    rw [← words_normalize, empty]
    rfl
  · intro wordsNil
    rw [normalize_eq_keyOf, wordsNil]
    rfl

/-- The small form of a character, or the other one that a capital sigma has at the end of a
word. -/
inductive SmallForm : Char → List Char → Prop where
  | own (c : Char) : SmallForm c (Text.lowercase c)
  | finalSigma : SmallForm '\u03A3' ['\u03C2']

/-- A label in small letters, whichever of its sigmas stand at the end of a word. -/
inductive Lowered : List Char → List Char → Prop where
  | nil : Lowered [] []
  | cons {c : Char} {form label lowered : List Char} (small : SmallForm c form)
      (rest : Lowered label lowered) :
      Lowered (c :: label) (form ++ lowered)

/-- Neither small sigma is in a word or between two. -/
theorem Lowered.words_eq {label lowered : List Char} (small : Lowered label lowered) :
    words lowered = words (label.flatMap Text.lowercase) := by
  have relevant : lowered.filter (fun c => isSeparator c || isWordChar c) =
      (label.flatMap Text.lowercase).filter (fun c => isSeparator c || isWordChar c) := by
    induction small with
    | nil => rfl
    | cons form _ ih =>
      rw [List.flatMap_cons, List.filter_append, List.filter_append, ih]
      cases form with
      | own => rfl
      | finalSigma => rw [(by decide : Text.lowercase '\u03A3' = ['\u03C3'])]; rfl
  rw [← words_filter fun c _ needed => needed, relevant, words_filter fun c _ needed => needed]

/-- A stretch of a label that separates and has nothing of a word in it. -/
structure Gap (gap : String) : Prop where
  separated : ∃ c ∈ gap.toList, isSeparator c = true
  wordless : ∀ c ∈ gap.toList.flatMap Text.lowercase, isWordChar c = false

/-- A stretch of a label that neither separates nor has anything of a word in it. -/
def Dropped (stretch : String) : Prop :=
  ∀ c ∈ stretch.toList.flatMap Text.lowercase, (isSeparator c || isWordChar c) = false

theorem labelWords_empty : labelWords "" = [] := rfl

theorem labelWords_append_gap {gap : String} (isGap : Gap gap) (label rest : String) :
    labelWords (label ++ gap ++ rest) = labelWords label ++ labelWords rest := by
  obtain ⟨⟨c, member, separator⟩, wordless⟩ := isGap
  have separated : ∃ d ∈ gap.toList.flatMap Text.lowercase, isSeparator d = true := by
    refine ⟨c, List.mem_flatMap.2 ⟨c, member, ?_⟩, separator⟩
    rw [lowercase_of_isSeparator separator]
    exact List.mem_singleton_self c
  simp only [labelWords, String.toList_append, List.flatMap_append,
    words_append_gap wordless separated]

theorem labelWords_append_dropped {stretch : String} (dropped : Dropped stretch)
    (label rest : String) :
    labelWords (label ++ stretch ++ rest) = labelWords (label ++ rest) := by
  simp only [labelWords, String.toList_append, List.flatMap_append, words_append_dropped _ dropped]

/-- The key of a label is its words with an underscore between them.  So it does not matter what
surrounds the label, how long the gaps between its words are and what else is in them, or what is
dropped from a word; and two labels have the same key exactly when they have the same words. -/
theorem normalize_eq_joined_words (label : String) :
    (∀ lowered, Lowered label.toList lowered → normalize label = keyOf (words lowered)) ∧
      (∀ gap, Gap gap →
        normalize (gap ++ label) = normalize label ∧ normalize (label ++ gap) = normalize label) ∧
      (∀ gap rest, Gap gap →
        normalize (label ++ gap ++ rest) = keyOf (labelWords label ++ labelWords rest)) ∧
      (∀ stretch rest, Dropped stretch →
        normalize (label ++ stretch ++ rest) = normalize (label ++ rest)) ∧
      ∀ other, normalize label = normalize other ↔ labelWords label = labelWords other := by
  refine ⟨?joined, ?around, ?between, ?inside, ?same⟩
  case joined =>
    intro lowered small
    rw [normalize_eq_keyOf, labelWords, small.words_eq]
  case around =>
    intro gap isGap
    have before := labelWords_append_gap isGap "" label
    have after := labelWords_append_gap isGap label ""
    rw [labelWords_empty, List.nil_append, String.empty_append] at before
    rw [labelWords_empty, List.append_nil, String.append_empty] at after
    rw [normalize_eq_keyOf, normalize_eq_keyOf, normalize_eq_keyOf, before, after]
    exact ⟨rfl, rfl⟩
  case between =>
    intro gap rest isGap
    rw [normalize_eq_keyOf, labelWords_append_gap isGap]
  case inside =>
    intro stretch rest dropped
    rw [normalize_eq_keyOf, normalize_eq_keyOf, labelWords_append_dropped dropped]
  case same =>
    intro other
    constructor
    · intro same
      rw [← words_normalize, ← words_normalize, same]
    · intro same
      rw [normalize_eq_keyOf, normalize_eq_keyOf, same]

/-- A label with a sigma at the end of a word, with gaps and with a stretch that is dropped. -/
theorem normalize_eq_joined_words_finalSigma :
    Lowered "N\u03A3 7".toList "n\u03C2 7".toList ∧ normalize "N\u03A3 7" = "n_7" ∧ Gap " - " ∧
      normalize ("N\u03A3 7" ++ " - ") = "n_7" ∧
      normalize ("N\u03A3 7" ++ " - " ++ "Job") = "n_7_job" ∧ Dropped "!" ∧
      normalize ("N\u03A3 7" ++ "!" ++ "b") = normalize ("N\u03A3 7" ++ "b") := by
  have small : Lowered "N\u03A3 7".toList "n\u03C2 7".toList :=
    .cons (.own 'N') (.cons .finalSigma (.cons (.own ' ') (.cons (.own '7') .nil)))
  have gap : Gap " - " := by
    have forms : " - ".toList.flatMap Text.lowercase = [' ', '-', ' '] := by decide
    refine ⟨⟨' ', by decide, by decide⟩, ?_⟩
    rw [forms]
    simp [isWordChar]
  have dropped : Dropped "!" := by
    have forms : "!".toList.flatMap Text.lowercase = ['!'] := by decide
    rw [Dropped, forms, List.forall_mem_singleton]
    decide
  obtain ⟨joined, around, between, inside, -⟩ := normalize_eq_joined_words "N\u03A3 7"
  have key : normalize "N\u03A3 7" = "n_7" := joined _ small
  refine ⟨small, key, gap, (around _ gap).2.trans key, between _ _ gap, dropped, inside _ _ dropped⟩

end ExtractionPrompt.Key
