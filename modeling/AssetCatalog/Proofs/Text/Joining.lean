import AssetCatalog.Text

/-! Joined texts are cut at their separators into the pieces that they were made of. -/

namespace AssetCatalog.Text

/-- Joined pieces begin with the first one, and each later one comes behind a separator. -/
theorem joinWith_cons (separator first : Text) (rest : List Text) :
    joinWith separator (first :: rest) = first ++ rest.flatMap (separator ++ ·) := by
  -- The second piece comes behind a separator and begins the rest.
  induction rest generalizing first with
  | nil => simp [joinWith]
  | cons second rest ih =>
    have step : joinWith separator (first :: second :: rest) =
        first ++ separator ++ joinWith separator (second :: rest) := by
      simp [joinWith, List.intercalate, List.intersperse]
    rw [step, ih, List.flatMap_cons]
    simp

/-- Pieces in two parts are joined part by part, with a separator between the parts. -/
theorem joinWith_append (separator : Text) {first second : List Text} (some : first ≠ []) (others : second ≠ []) :
    joinWith separator (first ++ second) = joinWith separator first ++ separator ++ joinWith separator second := by
  -- Both parts have a first piece, so that the separator between them is one in front of a piece.
  obtain ⟨piece, rest, rfl⟩ := List.exists_cons_of_ne_nil some
  obtain ⟨next, behind, rfl⟩ := List.exists_cons_of_ne_nil others
  simp [joinWith_cons]

/-- Every character of joined pieces is one of a separator or of a piece. -/
theorem mem_joinWith {separator : Text} {pieces : List Text} {c : Char}
    (member : c ∈ joinWith separator pieces) : c ∈ separator ∨ ∃ piece ∈ pieces, c ∈ piece := by
  -- A character behind the first piece is in a later one or in the separator before it.
  cases pieces with
  | nil => simp [joinWith] at member
  | cons first rest =>
    rw [joinWith_cons, List.mem_append] at member
    rcases member with here | later
    · exact .inr ⟨first, by simp, here⟩
    · obtain ⟨piece, known, within⟩ := List.mem_flatMap.mp later
      rcases List.mem_append.mp within with between | inside
      · exact .inl between
      · exact .inr ⟨piece, by simp [known], inside⟩

/-- Pieces without the separator are got back by cutting what was joined. -/
theorem splitOn_joinWith {separator : Char} {pieces : List Text} (nonempty : pieces ≠ [])
    (clean : ∀ piece ∈ pieces, separator ∉ piece) :
    (joinWith [separator] pieces).splitOn separator = pieces :=
  List.splitOn_intercalate separator clean nonempty

/-- The pieces that a text is cut into have no separator in them. -/
theorem not_mem_of_mem_splitOn {separator : Char} {text piece : Text} (member : piece ∈ text.splitOn separator) :
    separator ∉ piece := by
  -- The pieces are those of the rest, with one more character in the first or one more piece in front.
  induction text generalizing piece with
  | nil =>
    rw [List.splitOn_nil, List.mem_singleton] at member
    rw [member]
    exact List.not_mem_nil
  | cons c text ih =>
    obtain ⟨first, rest, cut⟩ := List.exists_cons_of_ne_nil (List.splitOn_ne_nil separator text)
    rw [List.splitOn_cons_eq_if_modifyHead, cut] at member
    split at member
    next =>
      -- At a separator an empty piece ends.
      rcases List.mem_cons.mp member with rfl | later
      · exact List.not_mem_nil
      · exact ih (cut ▸ later)
    next other =>
      rcases List.mem_cons.mp member with rfl | later
      · exact List.not_mem_cons_of_ne_of_not_mem (fun same => other (by simp [same]))
          (ih (cut ▸ List.mem_cons_self))
      · exact ih (cut ▸ List.mem_cons_of_mem _ later)

end AssetCatalog.Text
