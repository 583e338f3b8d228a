import AssetCatalog.Name

/-! The identifiers made of file names are identifiers, and none of them is a reserved word. -/

namespace AssetCatalog

namespace Unicode

/-- An underscore starts words and continues them. -/
theorem underscore_word : startsWord '_' = true ∧ continuesWord '_' = true := by
  decide +kernel

/-- What starts a word may also continue one. -/
theorem continuesWord_of_startsWord {c : Char} (starts : startsWord c = true) :
    continuesWord c = true := by
  -- Five signs start words for reasons of their own, and are looked at one by one.
  by_cases special : c ∈ ['_', Char.ofNat 0x1885, Char.ofNat 0x1886, Char.ofNat 0x2118, Char.ofNat 0x212E]
  · have checked : ['_', Char.ofNat 0x1885, Char.ofNat 0x1886, Char.ofNat 0x2118,
        Char.ofNat 0x212E].all continuesWord = true := by decide +kernel
    exact List.all_eq_true.mp checked c special
  · -- Letters are excluded from the start for more reasons than from the rest of a word.
    have ordinary : (c == '_' || [0x1885, 0x1886, 0x2118, 0x212E].contains c.toNat) = false := by
      have byNumber : ∀ n, c.toNat = n → c = Char.ofNat n := by
        rintro n rfl
        exact (Char.ofNat_toNat c).symm
      simp only [List.mem_cons, List.not_mem_nil, or_false, not_or] at special
      simp only [List.contains_eq_mem, List.mem_cons, List.not_mem_nil, or_false,
        Bool.or_eq_false_iff, beq_eq_false_iff_ne, decide_eq_false_iff_not, not_or]
      exact ⟨special.1, fun same => special.2.1 (byNumber _ same),
        fun same => special.2.2.1 (byNumber _ same), fun same => special.2.2.2.1 (byNumber _ same),
        fun same => special.2.2.2.2 (byNumber _ same)⟩
    unfold startsWord at starts
    unfold continuesWord
    cases kind : category c <;> simp_all

/-- All characters of an identifier continue words. -/
theorem continuesWord_of_mem_identifier {text : Text} (identifier : isIdentifier text = true) :
    ∀ c ∈ text, continuesWord c = true := by
  -- The first character starts a word, and the others continue it.
  cases text with
  | nil => simp [isIdentifier] at identifier
  | cons first rest =>
    simp only [isIdentifier, Bool.and_eq_true, List.all_eq_true] at identifier
    intro c member
    rcases List.mem_cons.mp member with rfl | later
    · exact continuesWord_of_startsWord identifier.1
    · exact identifier.2 c later

/-- No control continues a word. -/
theorem le_toNat_of_continuesWord {c : Char} (continues : continuesWord c = true) :
    0x20 ≤ c.toNat := by
  -- The thirty-two controls are evaluated.
  have checked : ∀ n < 0x20, continuesWord (Char.ofNat n) = false := by decide +kernel
  refine Nat.not_lt.mp fun control => ?_
  have barred := checked c.toNat control
  rw [Char.ofNat_toNat, continues] at barred
  cases barred

end Unicode

namespace Name

open Unicode (continuesWord isIdentifier)

/-- The legal characters of a name continue words. -/
theorem continuesWord_of_mem_legalCharacters {name : Text} {c : Char}
    (member : c ∈ legalCharacters name) : continuesWord c = true :=
  (List.mem_filter.mp member).2

/-- No reserved word ends in an underscore. -/
theorem isKeyword_append_underscore (text : Text) : isKeyword (text ++ ['_']) = false := by
  -- The last characters of all reserved words are letters.
  have letters : ∀ word ∈ keywords, word.getLast? ≠ some '_' := by decide
  rw [isKeyword, List.contains_eq_mem, decide_eq_false_iff_not]
  intro member
  exact letters _ member (by simp)

/-- Legal characters make an identifier, with an underscore before them where they are none. -/
theorem isIdentifier_rescue {legal : Text} (all : ∀ c ∈ legal, continuesWord c = true) :
    isIdentifier (if isIdentifier legal then legal else '_' :: legal) = true := by
  -- The underscore starts the word that the legal characters continue.
  split
  · assumption
  · simpa [isIdentifier, Unicode.underscore_word] using all

/-- A text that is an identifier stays one with an underscore behind it. -/
theorem isIdentifier_append_underscore {text : Text} (identifier : isIdentifier text = true) :
    isIdentifier (text ++ ['_']) = true := by
  -- An underscore continues every word.
  cases text with
  | nil => simp [isIdentifier] at identifier
  | cons first rest =>
    simp only [isIdentifier, Bool.and_eq_true] at identifier
    simp [isIdentifier, identifier, Unicode.underscore_word]

/-- What is made of joined words is an identifier. -/
theorem isIdentifier_finish (name : Text) : isIdentifier (finish name) = true := by
  -- The two rescues are told apart: the one in front makes an identifier, the one behind keeps it.
  have rescued : isIdentifier (if isIdentifier (legalCharacters name) then legalCharacters name
      else '_' :: legalCharacters name) = true :=
    isIdentifier_rescue fun _ member => continuesWord_of_mem_legalCharacters member
  rw [finish]
  generalize (if isIdentifier (legalCharacters name) then legalCharacters name
    else '_' :: legalCharacters name) = started at rescued ⊢
  split
  · exact isIdentifier_append_underscore rescued
  · exact rescued

/-- What is made of joined words is no reserved word. -/
theorem isKeyword_finish (name : Text) : isKeyword (finish name) = false := by
  -- A reserved word gets an underscore behind it, and is none any more.
  rw [finish]
  generalize (if isIdentifier (legalCharacters name) then legalCharacters name
    else '_' :: legalCharacters name) = started
  split
  · exact isKeyword_append_underscore started
  · rename_i free
    simpa using free

/-- The identifier for a file or directory name is an identifier. -/
theorem isIdentifier_ofText (text : Text) (stripExtension : Bool) :
    isIdentifier (ofText text stripExtension) = true :=
  isIdentifier_finish _

/-- The identifier for a file or directory name is no reserved word. -/
theorem isKeyword_ofText (text : Text) (stripExtension : Bool) :
    isKeyword (ofText text stripExtension) = false :=
  isKeyword_finish _

/-- All characters of the identifier for a name continue words. -/
theorem continuesWord_of_mem_ofText {text : Text} {stripExtension : Bool} {c : Char}
    (member : c ∈ ofText text stripExtension) : continuesWord c = true :=
  Unicode.continuesWord_of_mem_identifier (isIdentifier_ofText text stripExtension) c member

/-- The identifier for a name is not empty. -/
theorem ofText_ne_nil (text : Text) (stripExtension : Bool) : ofText text stripExtension ≠ [] := by
  -- No identifier is empty.
  intro empty
  have identifier := isIdentifier_ofText text stripExtension
  simp [empty, isIdentifier] at identifier

/-- No dot stands in the identifier for a name. -/
theorem dot_not_mem_ofText (text : Text) (stripExtension : Bool) :
    '.' ∉ ofText text stripExtension := by
  -- A dot would have to continue a word.
  intro member
  have dot : continuesWord '.' = false := by decide +kernel
  rw [continuesWord_of_mem_ofText member] at dot
  cases dot

end Name

end AssetCatalog
