import AssetCatalog.Proofs.Unicode.Ascii
import AssetCatalog.Proofs.Unicode.LowerCase
import AssetCatalog.Proofs.Unicode.Places

/-! Identifiers stay identifiers in their normal form and in lower case. -/

set_option maxRecDepth 20000

namespace AssetCatalog

namespace Unicode

section Word

variable {c : Char} {front rest : Text}

/-- An identifier starts with a character that may start one, and all of its characters continue words. -/
theorem isIdentifier_cons_iff : isIdentifier (c :: rest) = true ↔
    startsWord c = true ∧ ∀ d ∈ c :: rest, continuesWord d = true := by
  -- What may start a word may also continue one.
  rw [isIdentifier, Bool.and_eq_true, List.all_eq_true, List.forall_mem_cons]
  constructor
  · rintro ⟨starts, later⟩
    exact ⟨starts, continuesWord_of_startsWord starts, later⟩
  · rintro ⟨starts, -, later⟩
    exact ⟨starts, later⟩

/-- An identifier stays one where something takes the place of its first character. -/
theorem isIdentifier_append (replaces : Replaces c front) (starts : startsWord c = true)
    (continues : ∀ d ∈ rest, continuesWord d = true) : isIdentifier (front ++ rest) = true := by
  -- What takes the place of the character starts as it did, and goes on as words do.
  obtain ⟨first, more, rfl, alsoStarts⟩ := replaces.starts starts
  have all := replaces.continues (continuesWord_of_startsWord starts)
  exact isIdentifier_cons_iff.mpr ⟨alsoStarts, List.forall_mem_append.mpr ⟨all, continues⟩⟩

end Word

section Normal

/-- What the characters of a word decompose into continues words. -/
theorem continuesWord_of_mem_decompose {text : Text} (continues : ∀ c ∈ text, continuesWord c = true) :
    ∀ c ∈ text.flatMap decompose, continuesWord c = true := by
  -- A character of the decomposition is part of one character of the text.
  intro c member
  obtain ⟨whole, known, part⟩ := List.mem_flatMap.mp member
  exact (replaces_decompose whole).continues (continues whole known) c part

/-- Composing the rest of a word with its last starter puts a word in the place of the starter. -/
theorem replaces_composeAfter {rest : Text} (continues : ∀ c ∈ rest, continuesWord c = true) :
    ∀ (starter : Char) (passed : Text), (∀ c ∈ passed, continuesWord c = true) →
      Replaces starter (composeAfter starter passed rest) := by
  -- The starter, or what was made of it, stays in front of what was passed.
  induction rest with
  | nil =>
    intro starter passed marks
    refine ⟨fun starts => ⟨starter, _, rfl, starts⟩, fun here => ?_⟩
    exact List.forall_mem_cons.mpr ⟨here, fun c member => marks c (List.mem_reverse.mp member)⟩
  | cons c rest ih =>
    obtain ⟨here, later⟩ := List.forall_mem_cons.mp continues
    intro starter passed marks
    rw [composeAfter_cons]
    split
    next joined joins =>
      exact (replaces_of_compose? (lower_of_joins joins).1).trans (ih later joined passed marks)
    next =>
      split
      · -- Behind a new starter the composition goes on with that, and the old one is done.
        have further := (ih later c [] (List.forall_mem_nil _)).continues here
        refine ⟨fun starts => ⟨starter, _, rfl, starts⟩, fun first => ?_⟩
        refine List.forall_mem_cons.mpr ⟨first, List.forall_mem_append.mpr ⟨fun mark member => ?_, further⟩⟩
        exact marks mark (List.mem_reverse.mp member)
      · exact ih later starter (c :: passed) (List.forall_mem_cons.mpr ⟨here, marks⟩)

/-- The normal form of an identifier is an identifier. -/
theorem isIdentifier_nfkc {text : Text} (identifier : isIdentifier text = true) :
    isIdentifier (nfkc text) = true := by
  -- The first character is replaced by what starts a word, and all others by what continues words.
  cases text with
  | nil => cases identifier
  | cons c rest =>
    obtain ⟨starts, continues⟩ := isIdentifier_cons_iff.mp identifier
    have parts := continuesWord_of_mem_decompose continues
    obtain ⟨first, more, decomposed, alsoStarts⟩ := (replaces_decompose c).starts starts
    rw [List.flatMap_cons, decomposed, List.cons_append, List.forall_mem_cons] at parts
    -- The first character is a starter, behind which marks are put in order and characters joined.
    have starter := combiningClass_of_startsWord alsoStarts
    rw [nfkc, List.flatMap_cons, decomposed, List.cons_append, orderMarks_cons starter, composeAll, if_pos starter]
    have ordered : ∀ d ∈ orderMarks (more ++ rest.flatMap decompose), continuesWord d = true :=
      fun d member => parts.2 d ((orderMarks_perm _).subset member)
    have word := isIdentifier_append (replaces_composeAfter ordered first [] (List.forall_mem_nil _)) alsoStarts
      (List.forall_mem_nil _)
    rwa [List.append_nil] at word

/-- Only what decomposes into a text of ASCII characters has it for its normal form. -/
theorem nfkc_eq_iff_of_ascii {text word : Text} (ascii : ∀ c ∈ word, c.toNat < 0x80) :
    nfkc text = word ↔ text.flatMap decompose = word := by
  have plain : ∀ c ∈ text.flatMap decompose, IsPlain c := by
    -- What was decomposed does not decompose further.
    intro c member
    obtain ⟨whole, -, part⟩ := List.mem_flatMap.mp member
    exact isPlain_of_mem_decompose part
  have kept : word.flatMap decompose = word := flatMap_decompose fun c member => isPlain_of_ascii (ascii c member)
  constructor
  · intro normal
    -- Decomposing the normal form gives the characters in order, and ASCII characters are in any order.
    have same := orderMarks_composeAll (fun c member => plain c ((orderMarks_perm _).subset member))
      (ordered_orderMarks (text.flatMap decompose))
    rw [← nfkc, normal, kept, orderMarks_eq_self (ordered_of_ascii ascii)] at same
    have parts : ∀ c ∈ text.flatMap decompose, c.toNat < 0x80 := fun c member =>
      ascii c (same ▸ (orderMarks_perm _).symm.subset member)
    rw [same, orderMarks_eq_self (ordered_of_ascii parts)]
  · -- Conversely, an ASCII text is its own normal form.
    intro decomposed
    have normal := nfkc_of_ascii ascii
    rw [nfkc, kept] at normal
    rw [nfkc, decomposed, normal]

/-- The normal form of a text is a reserved word exactly if the text decomposes into one. -/
theorem isKeyword_nfkc (text : Text) : isKeyword (nfkc text) = isKeyword (text.flatMap decompose) := by
  -- Reserved words are of plain letters, which no normal form but their own decomposition gives.
  have checked : (keywords.all fun word => word.all fun c => c.toNat < 0x80) = true := by decide
  have ascii (word : Text) (member : word ∈ keywords) (c : Char) (known : c ∈ word) : c.toNat < 0x80 :=
    of_decide_eq_true (List.all_eq_true.mp (List.all_eq_true.mp checked word member) c known)
  rw [Bool.eq_iff_iff, isKeyword, isKeyword, List.contains_iff_mem, List.contains_iff_mem]
  constructor
  · intro member
    rwa [(nfkc_eq_iff_of_ascii (ascii _ member)).mp rfl]
  · intro member
    rwa [(nfkc_eq_iff_of_ascii (ascii _ member)).mpr rfl]

end Normal

end Unicode

namespace Text

open Unicode (Replaces continuesWord isIdentifier lower lowerAfter startsWord)

/-- The lower-case form of a character by itself takes its place in words. -/
theorem replaces_lower (c : Char) : Replaces c (lower c) := by
  -- The dotted capital becomes two characters, and any other a letter.
  rw [lower]
  split
  · have word : startsWord 'i' = true ∧ ['i', Char.ofNat 0x0307].all continuesWord = true := by decide
    exact ⟨fun _ => ⟨'i', _, rfl, word.1⟩, fun _ => List.all_eq_true.mp word.2⟩
  · exact Unicode.replaces_lowerLetter c

/-- In lower case, something stands in front of the rest of a word that takes the place of its first character. -/
theorem exists_lowerAfter_cons (before rest : Text) (c : Char) : ∃ front, Replaces c front ∧
    lowerAfter before (c :: rest) = front ++ lowerAfter (c :: before) rest := by
  -- Only the sigma has a form that depends on what is in front of it.
  refine ⟨_, ?_, rfl⟩
  obtain ⟨-, small, final⟩ := Unicode.category_sigma
  split
  · split
    · exact Unicode.replaces_of_startsWord (Unicode.facts_of_cased final).1 c
    · exact Unicode.replaces_of_startsWord (Unicode.facts_of_cased small).1 c
  · exact replaces_lower c

/-- The characters of a word in lower case continue words. -/
theorem continuesWord_of_mem_lowerAfter {text : Text} (continues : ∀ c ∈ text, continuesWord c = true) :
    ∀ before : Text, ∀ c ∈ lowerAfter before text, continuesWord c = true := by
  -- Induction on the text: each character is replaced by such that continue words as it does.
  induction text with
  | nil => exact fun _ => List.forall_mem_nil _
  | cons c rest ih =>
    obtain ⟨here, later⟩ := List.forall_mem_cons.mp continues
    intro before
    obtain ⟨front, replaces, lowered⟩ := exists_lowerAfter_cons before rest c
    rw [lowered]
    exact List.forall_mem_append.mpr ⟨replaces.continues here, ih later (c :: before)⟩

/-- An identifier in lower case is an identifier. -/
theorem isIdentifier_lowerCase {text : Text} (identifier : isIdentifier text = true) :
    isIdentifier text.lowerCase = true := by
  -- What replaces the first character starts a word as that does.
  cases text with
  | nil => cases identifier
  | cons c rest =>
    obtain ⟨starts, continues⟩ := Unicode.isIdentifier_cons_iff.mp identifier
    obtain ⟨front, replaces, lowered⟩ := exists_lowerAfter_cons [] rest c
    rw [lowerCase, lowered]
    exact Unicode.isIdentifier_append replaces starts
      (continuesWord_of_mem_lowerAfter (List.forall_mem_cons.mp continues).2 [c])

end Text

end AssetCatalog
