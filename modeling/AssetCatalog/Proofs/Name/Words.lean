import AssetCatalog.Name
import Mathlib.Data.List.Basic
import Mathlib.Logic.Relation

/-! Identifiers by the words of a file name: what becomes of each word, and which changes of the name leave them all. -/

namespace AssetCatalog.Name

variable {text first second before after : Text} {c : Char} {start : Bool}

/-- The categories of the characters that identifiers are made of. -/
def keptCategories : List Unicode.Category :=
  [.casedLetter, .modifierLetter, .otherLetter, .decimalDigit]

/-- The words of a file name, which may be empty. -/
def wordsOf (text : Text) : List Text :=
  text.splitOnP isSeparator

/-- The characters of a word that are kept. -/
def letters (word : Text) : Text :=
  word.filter fun c => keptCategories.contains (Unicode.category c)

/-- The kept characters of a word, the first one in upper case if that is one character too. -/
def capitalized (word : Text) : Text :=
  match letters word with
  | [] => []
  | first :: rest => (if (Unicode.upper first).length = 1 then Unicode.upper first else [first]) ++ rest

/-- The file name in front of its last dot, unless nothing is in front of it. -/
def Stem (fileName stem : Text) : Prop :=
  ('.' ∉ fileName ∧ stem = fileName) ∨
    ∃ before after, fileName = before ++ '.' :: after ∧ '.' ∉ after ∧
      stem = if before = [] then fileName else before

section Characters

/-- Characters are kept by their category. -/
theorem contains_keptCategories (c : Char) : keptCategories.contains (Unicode.category c) = isKept c := by
  -- One category after the other.
  rw [isKept, Unicode.isLetter, Unicode.isDecimalDigit]
  cases Unicode.category c <;> rfl

/-- No word loses a character that is kept. -/
theorem letters_cons (kept : isKept c = true) (word : Text) : letters (c :: word) = c :: letters word :=
  List.filter_cons_of_pos (by rw [contains_keptCategories, kept])

/-- Every word loses a character that is not kept. -/
theorem letters_cons_of_dropped (dropped : isKept c = false) (word : Text) : letters (c :: word) = letters word :=
  List.filter_cons_of_neg (by rw [contains_keptCategories, dropped]; exact Bool.false_ne_true)

/-- The capital of a character is its upper-case form where that is one character. -/
theorem capital_spelled (c : Char) :
    (if (Unicode.upper c).length = 1 then Unicode.upper c else [c]) = [capital c] := by
  -- The capital is read off a form of one character, and any longer form is passed over.
  rw [capital]
  split
  next single =>
    obtain ⟨u, form⟩ := List.length_eq_one_iff.mp single
    rw [form]
  next longer =>
    split
    next u form => exact absurd (congrArg List.length form) longer
    next => rfl

/-- A word that starts with a kept character is capitalized at this character. -/
theorem capitalized_cons (kept : isKept c = true) (word : Text) :
    capitalized (c :: word) = capital c :: letters word := by
  -- A character whose capital is longer than one sign stays as it is, which both sides account for.
  rw [capitalized, letters_cons kept]
  show (if (Unicode.upper c).length = 1 then Unicode.upper c else [c]) ++ letters word = capital c :: letters word
  rw [capital_spelled, List.singleton_append]

/-- A word is capitalized behind the characters that are not kept. -/
theorem capitalized_cons_of_dropped (dropped : isKept c = false) (word : Text) :
    capitalized (c :: word) = capitalized word := by
  rw [capitalized, letters_cons_of_dropped dropped, capitalized]

end Characters

/-- The scan of a text gives its words, of which the first is capitalized only if the scan is at the start of one. -/
theorem joinWords_eq (text : Text) :
    joinWords true text = (wordsOf text).flatMap capitalized ∧
      joinWords false text = letters ((wordsOf text).headD []) ++ (wordsOf text).tail.flatMap capitalized := by
  -- Both scans go on together: behind a separator both capitalize, and behind a kept character neither does.
  induction text with
  | nil => exact ⟨rfl, rfl⟩
  | cons c text ih =>
    obtain ⟨atStart, inside⟩ := ih
    obtain ⟨word, rest, cut⟩ := List.exists_cons_of_ne_nil (List.splitOnP_ne_nil isSeparator text)
    rw [wordsOf, cut] at atStart inside
    rw [joinWords, joinWords, wordsOf, List.splitOnP_cons_eq_if_modifyHead, cut]
    -- A separator ends a word, a kept character goes on with it, and any other is passed over.
    by_cases separates : isSeparator c = true
    · rw [if_pos separates, if_pos separates, if_pos separates, atStart]
      exact ⟨rfl, rfl⟩
    · rw [if_neg separates, if_neg separates, if_neg separates, List.modifyHead_cons]
      by_cases kept : isKept c = true
      · rw [if_pos kept, if_pos kept, inside]
        constructor
        · rw [List.flatMap_cons, capitalized_cons kept]
          rfl
        · show c :: (letters word ++ rest.flatMap capitalized) = letters (c :: word) ++ rest.flatMap capitalized
          rw [letters_cons kept, List.cons_append]
      · have dropped : isKept c = false := Bool.eq_false_iff.mpr kept
        rw [if_neg kept, if_neg kept, atStart, inside]
        constructor
        · rw [List.flatMap_cons, List.flatMap_cons, capitalized_cons_of_dropped dropped]
        · show letters word ++ rest.flatMap capitalized = letters (c :: word) ++ rest.flatMap capitalized
          rw [letters_cons_of_dropped dropped]

section Extensions

/-- A text without a mark is not cut. -/
theorem cutLast?_eq_none {mark : Char} (absent : mark ∉ text) : Text.cutLast? mark text = none := by
  -- The cut is sought behind each character, and none of them is the mark.
  induction text with
  | nil => rfl
  | cons c text ih =>
    obtain ⟨other, others⟩ := List.ne_and_not_mem_of_not_mem_cons absent
    rw [Text.cutLast?, ih others]
    exact if_neg (Ne.symm other)

/-- A text is cut at the mark behind which there is no other. -/
theorem cutLast?_append_cons {mark : Char} (last : mark ∉ after) (before : Text) :
    Text.cutLast? mark (before ++ mark :: after) = some (before, after) := by
  -- Induction on the text in front of the mark, none of which is looked at before the rest.
  induction before with
  | nil =>
    rw [List.nil_append, Text.cutLast?, cutLast?_eq_none last]
    exact if_pos rfl
  | cons c before ih => rw [List.cons_append, Text.cutLast?, ih]

/-- Every file name has a stem. -/
theorem exists_stem (text : Text) : ∃ stem, Stem text stem := by
  by_cases dotted : '.' ∈ text
  · -- The last dot is the first one from the end.
    obtain ⟨after, before, whole, last⟩ := List.eq_append_cons_of_mem (List.mem_reverse.mpr dotted)
    have turned : text = before.reverse ++ '.' :: after.reverse := by
      rw [← List.reverse_reverse text, whole]
      simp
    exact ⟨_, .inr ⟨before.reverse, after.reverse, turned, fun member => last (List.mem_reverse.mp member), rfl⟩⟩
  · exact ⟨text, .inl ⟨dotted, rfl⟩⟩

/-- The file name without its extension is its stem. -/
theorem withoutExtension_eq {stem : Text} (cut : Stem text stem) : withoutExtension text = stem := by
  -- A name that has nothing but an extension keeps its dot.
  rcases cut with ⟨dotless, rfl⟩ | ⟨before, after, rfl, last, rfl⟩
  · rw [withoutExtension, cutLast?_eq_none dotless]
  · rw [withoutExtension, cutLast?_append_cons last]
    cases before with
    | nil => rfl
    | cons c before => rfl

end Extensions

/-- One change of a file name that leaves its words but for characters that are not kept. -/
inductive Respelled : Text → Text → Prop where
  /-- A separator instead of another one. -/
  | exchanged {c d : Char} (one : isSeparator c = true) (other : isSeparator d = true) (before after : Text) :
    Respelled (before ++ c :: after) (before ++ d :: after)
  /-- A further separator behind another one. -/
  | repeated {c d : Char} (one : isSeparator c = true) (other : isSeparator d = true) (before after : Text) :
    Respelled (before ++ c :: after) (before ++ c :: d :: after)
  /-- A separator in front. -/
  | leading {c : Char} (separator : isSeparator c = true) (text : Text) : Respelled text (c :: text)
  /-- A separator at the end. -/
  | trailing {c : Char} (separator : isSeparator c = true) (text : Text) : Respelled text (text ++ [c])
  /-- A character that neither separates words nor is kept. -/
  | dropped {c : Char} (joins : isSeparator c = false) (dropped : keptCategories.contains (Unicode.category c) = false)
    (before after : Text) : Respelled (before ++ after) (before ++ c :: after)

/-- Behind a separator a scan is at the start of a word, whatever came before. -/
theorem joinWords_append_separator (separator : isSeparator c = true) (before after : Text) : ∀ start : Bool,
    joinWords start (before ++ c :: after) = joinWords start before ++ joinWords true after := by
  -- At the separator the scan forgets what came before it.
  induction before with
  | nil =>
    intro start
    have passed : joinWords start (c :: after) = joinWords true after := by simp [joinWords, separator]
    exact passed
  | cons d before ih =>
    intro start
    rw [List.cons_append, joinWords, joinWords]
    split
    · exact ih true
    · split
      · -- A character that is kept goes in front, and the word goes on behind it.
        rw [ih false, List.cons_append]
      · exact ih start

/-- A scan passes a character that neither separates words nor is kept. -/
theorem joinWords_append_dropped (joins : isSeparator c = false) (dropped : isKept c = false) (before after : Text) :
    ∀ start : Bool, joinWords start (before ++ c :: after) = joinWords start (before ++ after) := by
  -- The characters before it bring both scans to the same state.
  induction before with
  | nil =>
    intro start
    have passed : joinWords start (c :: after) = joinWords start after := by
      simp [joinWords, joins, dropped]
    exact passed
  | cons d before ih =>
    intro start
    rw [List.cons_append, List.cons_append, joinWords, joinWords]
    simp only [ih]

/-- A text with one change is scanned to the same characters. -/
theorem joinWords_of_respelled (respelled : Respelled first second) : joinWords true first = joinWords true second := by
  -- The five kinds of changes are taken one by one.
  cases respelled with
  | exchanged one other before after =>
    rw [joinWords_append_separator one, joinWords_append_separator other]
  | @repeated c d one other before after =>
    -- The further separator starts a word once more.
    have again : joinWords true (d :: after) = joinWords true after := joinWords_append_separator other [] after true
    rw [joinWords_append_separator one, joinWords_append_separator one, again]
  | leading separator => exact (joinWords_append_separator separator [] first true).symm
  | trailing separator =>
    rw [joinWords_append_separator separator]
    exact (List.append_nil _).symm
  | dropped joins dropped before after =>
    rw [contains_keptCategories] at dropped
    exact (joinWords_append_dropped joins dropped before after true).symm

/-- Texts that come from each other by any number of changes are scanned to the same characters. -/
theorem joinWords_of_eqvGen (changes : Relation.EqvGen Respelled first second) :
    joinWords true first = joinWords true second := by
  -- Equality follows the changes in every direction.
  induction changes with
  | rel _ _ respelled => exact joinWords_of_respelled respelled
  | refl _ => rfl
  | symm _ _ _ ih => exact ih.symm
  | trans _ _ _ _ _ one other => exact one.trans other

/--
How an identifier is made of words.

It is finished from the capitalized words of the whole name, or of its stem where the extension is left out.
So no change of the whole name has an effect that exchanges, repeats or surrounds separators, or that adds or removes
characters of other categories between them.
-/
theorem ofText_eq_words :
    (∀ text : Text, ofText text false = finish ((wordsOf text).flatMap capitalized)) ∧
    (∀ text : Text, (∃ stem, Stem text stem) ∧
      ∀ stem, Stem text stem → ofText text true = finish ((wordsOf stem).flatMap capitalized)) ∧
    ∀ first second : Text, Relation.EqvGen Respelled first second → ofText first false = ofText second false := by
  refine ⟨?_, ?_, ?_⟩
  · intro text
    rw [← (joinWords_eq text).1]
    rfl
  · intro text
    refine ⟨exists_stem text, fun stem cut => ?_⟩
    -- Leaving out the extension leaves the stem.
    rw [← (joinWords_eq stem).1, ← withoutExtension_eq cut]
    rfl
  · intro first second changes
    exact congrArg finish (joinWords_of_eqvGen changes)

/-- Of a name with two dots the stem keeps the first, and separators and brackets make no difference to its words. -/
theorem ofText_eq_words_copy :
    Stem "user-add (1).min.css" "user-add (1).min" ∧ ofText "user-add (1).min.css" true = "UserAdd1Min".toList ∧
      ofText "user-add (1)" false = ofText "user_add 1" false := by
  -- The general law tells the name by its stem, and respells the directory step by step.
  obtain ⟨-, stems, changes⟩ := ofText_eq_words
  have cut : Stem "user-add (1).min.css" "user-add (1).min" :=
    .inr ⟨"user-add (1).min".toList, "css".toList, by decide, by decide, by decide⟩
  refine ⟨cut, ?_, ?_⟩
  · rw [(stems _).2 _ cut]
    decide +kernel
  · -- The hyphen is exchanged, and then the brackets go one after the other.
    have exchanged : Respelled "user-add (1)" "user_add (1)" :=
      .exchanged (c := '-') (d := '_') (by decide) (by decide) "user".toList "add (1)".toList
    have opened : Respelled "user_add 1)" "user_add (1)" :=
      .dropped (c := '(') (by decide) (by decide +kernel) "user_add ".toList "1)".toList
    have closed : Respelled "user_add 1" "user_add 1)" :=
      .dropped (c := ')') (by decide) (by decide +kernel) "user_add 1".toList []
    exact changes _ _ (.trans _ _ _ (.rel _ _ exchanged)
      (.trans _ _ _ (.symm _ _ (.rel _ _ opened)) (.symm _ _ (.rel _ _ closed))))

end AssetCatalog.Name
