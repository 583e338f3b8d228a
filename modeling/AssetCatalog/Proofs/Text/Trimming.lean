import AssetCatalog.Unicode.Category
import Mathlib.Data.List.DropRight
import Mathlib.Data.List.TakeWhile

/-! What is left of a text when a character is exchanged for another, or those of a class are taken from both ends. -/

namespace AssetCatalog.Text

variable {drop : Char → Bool} {text : Text}

/-- A text without a character stays as it is when the character is exchanged for another. -/
theorem replaceChar_eq_self {old new : Char} (absent : old ∉ text) : replaceChar old new text = text :=
  (List.map_congr_left fun c member => if_neg fun same : c = old => absent (same ▸ member)).trans (List.map_id text)

/-- A character that was exchanged for another is gone. -/
theorem not_mem_replaceChar {old new : Char} (other : new ≠ old) (text : Text) : old ∉ replaceChar old new text := by
  -- Were it there, it would come from itself, or be the new character.
  intro member
  obtain ⟨c, -, same⟩ := List.mem_map.mp member
  split at same
  · exact other same
  next kept => exact kept same

/-- Neither end of the text is a character of the class. -/
def Bare (drop : Char → Bool) (text : Text) : Prop :=
  (∀ c ∈ text.head?, drop c = false) ∧ ∀ c ∈ text.getLast?, drop c = false

/-- A text without any character of the class is bare. -/
theorem bare_of_forall (free : ∀ c ∈ text, drop c = false) : Bare drop text :=
  ⟨fun c first => free c (List.mem_of_mem_head? first), fun c last => free c (List.mem_of_mem_getLast? last)⟩

/-- A trimmed text is bare. -/
theorem bare_trim (drop : Char → Bool) (text : Text) : Bare drop (trim drop text) := by
  constructor
  · -- What is left on the right begins as what was left on the left.
    intro c first
    obtain ⟨rest, same⟩ := List.head?_eq_some_iff.mp first
    obtain ⟨behind, whole⟩ := List.rdropWhile_prefix (p := drop) (l := text.dropWhile drop)
    have started : (text.dropWhile drop).head? = some c := by
      rw [← whole]
      exact congrArg (fun kept : Text => (kept ++ behind).head?) same
    have stopped := List.head?_dropWhile_not drop text
    rwa [started] at stopped
  · -- On the right, what would be dropped has been.
    intro c last
    have filled : (text.dropWhile drop).rdropWhile drop ≠ [] := fun none => by
      simp [trim, trimRight, ← List.rdropWhile.eq_1, none] at last
    have stopped := List.rdropWhile_last_not drop (text.dropWhile drop) filled
    rw [Bool.not_eq_true] at stopped
    obtain rfl : _ = c := Option.some.inj ((List.getLast?_eq_some_getLast filled).symm.trans last)
    exact stopped

/-- Trimming leaves a text as it is exactly if the text is bare. -/
theorem trim_eq_self_iff : trim drop text = text ↔ Bare drop text := by
  constructor
  · intro same
    exact same ▸ bare_trim drop text
  · -- Neither end has a character to be dropped.
    rintro ⟨first, last⟩
    have left : text.dropWhile drop = text := by
      cases text with
      | nil => rfl
      | cons c rest => simp [first c rfl]
    rw [trim, left]
    -- On the right, the last character is kept.
    refine List.rdropWhile_eq_self_iff.mpr fun filled => ?_
    rw [last _ (List.getLast?_eq_some_getLast filled)]
    exact Bool.false_ne_true

/-- What was trimmed once is not changed by trimming. -/
@[simp] theorem trim_trim : trim drop (trim drop text) = trim drop text :=
  trim_eq_self_iff.mpr (bare_trim drop text)

/-- Every character of a trimmed text is one of the text. -/
theorem mem_of_mem_trim {c : Char} (member : c ∈ trim drop text) : c ∈ text :=
  (List.dropWhile_suffix drop).subset ((List.rdropWhile_prefix drop _).subset member)

/-- A stripped text has no white space to strip. -/
@[simp] theorem strip_strip : text.strip.strip = text.strip := trim_trim

/-- A text that does not change when white space is stripped from it, and is not empty. -/
def Neat (text : Text) : Prop :=
  text ≠ [] ∧ text.strip = text

instance (text : Text) : Decidable (Neat text) :=
  inferInstanceAs (Decidable (text ≠ [] ∧ text.strip = text))

/-- What is stripped is neat, unless nothing is left of it. -/
theorem neat_strip (filled : text.strip.isEmpty = false) : Neat text.strip :=
  ⟨by simpa using filled, strip_strip⟩

/-- A neat text is not blank. -/
theorem Neat.isEmpty_strip (neat : Neat text) : text.strip.isEmpty = false := by
  simpa [neat.2] using neat.1

/-- What stripping with a fallback gives is the fallback, or neat. -/
theorem stripOr_cases (fallback text : Text) :
    stripOr fallback text = fallback ∨ Neat (stripOr fallback text) := by
  -- A blank text gives the fallback, and any other is neat once it is stripped.
  rw [stripOr]
  cases blank : text.strip.isEmpty with
  | true => exact .inl rfl
  | false => exact .inr (neat_strip blank)

/-- A neat text is kept. -/
theorem Neat.stripOr_eq (neat : Neat text) (fallback : Text) : stripOr fallback text = text := by
  -- A neat text is not blank, and stripping leaves it as it is.
  rw [stripOr, neat.isEmpty_strip, neat.2]
  rfl

/-- With a neat fallback, what is left is neat. -/
theorem neat_stripOr {fallback : Text} (neat : Neat fallback) (text : Text) : Neat (stripOr fallback text) := by
  -- What is left is the fallback, or neat by being stripped and not blank.
  obtain same | filled := stripOr_cases fallback text
  · rwa [same]
  · exact filled

/-- To strip once more changes nothing, if the text was neat or the fallback itself. -/
theorem stripOr_stripOr {fallback : Text} (known : text = fallback ∨ Neat text) :
    stripOr fallback (stripOr fallback text) = stripOr fallback text := by
  -- The fallback is kept where the text was blank, and what was stripped is neat.
  obtain same | neat := stripOr_cases fallback text
  · rcases known with rfl | neat
    · rw [same, same]
    · rw [neat.stripOr_eq, neat.stripOr_eq]
  · exact neat.stripOr_eq fallback

/-- Stripping with a fallback keeps a text, that is neat or the fallback, exactly if it is blank or bare. -/
theorem stripOr_eq_self_iff {fallback : Text} (known : text = fallback ∨ Neat text) :
    stripOr fallback text = text ↔ text.strip = [] ∨ text.strip = text := by
  rw [stripOr]
  split
  next blank =>
    -- Only the fallback can be blank.
    have blank : text.strip = [] := List.isEmpty_iff.mp blank
    refine ⟨fun _ => .inl blank, fun _ => ?_⟩
    rcases known with rfl | neat
    · rfl
    · exact absurd (neat.2.symm.trans blank) neat.1
  next filled =>
    have filled : text.strip ≠ [] := fun blank => filled (List.isEmpty_iff.mpr blank)
    simp [filled]

end AssetCatalog.Text
