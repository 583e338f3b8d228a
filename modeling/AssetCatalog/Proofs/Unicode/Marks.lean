import AssetCatalog.Unicode.Normal
import Mathlib.Data.List.Chain

/-! The canonical order of marks: what it keeps, what it leaves alone, and which marks commute. -/

namespace AssetCatalog.Unicode

/-- Takes one more character into a reversed text whose marks are in order. -/
def takeMark (ordered : Text) (c : Char) : Text :=
  -- The text is reversed, so that its last mark comes first.
  if combiningClass c = 0 then c :: ordered else insertMark c ordered

/-- Whether a character may stand behind another one without moving forward. -/
def MayFollow (before c : Char) : Prop :=
  -- A starter stays where it is, and so does a mark behind one of the same class.
  combiningClass c = 0 ∨ combiningClass before ≤ combiningClass c

/-- Whether every run of marks is in ascending order of class. -/
def Ordered (text : Text) : Prop :=
  text.IsChain MayFollow

/-- Marks are ordered by taking in one character after the other. -/
theorem orderMarks_eq_foldl (text : Text) : orderMarks text = (text.foldl takeMark []).reverse := rfl

/-- A mark that is put in comes to the characters that are there. -/
theorem insertMark_perm (mark : Char) (ordered : Text) :
    (insertMark mark ordered).Perm (mark :: ordered) := by
  -- The mark moves forward past some characters and stops before the others.
  induction ordered with
  | nil => exact .rfl
  | cons c rest ih =>
    rw [insertMark]
    split
    · exact (ih.cons c).trans (.swap mark c rest)
    · exact .rfl

/-- A character that is taken in comes to the characters that are there. -/
theorem takeMark_perm (ordered : Text) (c : Char) : (takeMark ordered c).Perm (c :: ordered) := by
  -- A starter comes in front of all, and a mark goes to its place.
  unfold takeMark
  split
  · exact .rfl
  · exact insertMark_perm c ordered

/-- Ordering marks keeps all characters. -/
theorem orderMarks_perm (text : Text) : (orderMarks text).Perm text := by
  have taken : ∀ ordered : Text, (text.foldl takeMark ordered).Perm (text.reverse ++ ordered) := by
    -- What was taken in before is kept as well, which the induction needs.
    induction text with
    | nil => exact fun _ => .rfl
    | cons c rest ih =>
      intro ordered
      rw [List.foldl_cons, List.reverse_cons, List.append_assoc]
      exact (ih _).trans ((takeMark_perm ordered c).append_left _)
  have all := taken []
  rw [List.append_nil] at all
  exact (List.reverse_perm _).trans (all.trans (List.reverse_perm text))

/-- The first character behind a mark is put in is the mark or the one that was first before. -/
theorem head?_insertMark (mark : Char) (ordered : Text) :
    (insertMark mark ordered).head? = some mark ∨ (insertMark mark ordered).head? = ordered.head? := by
  -- The mark stops in front of the first character, or goes past it.
  cases ordered with
  | nil => exact .inl rfl
  | cons c rest =>
    rw [insertMark]
    split
    · exact .inr rfl
    · exact .inl rfl

/-- A mark is put in so that the marks stay in order. -/
theorem insertMark_chain {mark : Char} {ordered : Text}
    (chain : ordered.IsChain fun c before => MayFollow before c) :
    (insertMark mark ordered).IsChain fun c before => MayFollow before c := by
  -- The induction follows the mark on its way; behind the place where it stops nothing changes.
  induction ordered with
  | nil => simp [insertMark]
  | cons c rest ih =>
    obtain ⟨first, later⟩ := List.isChain_cons.mp chain
    rw [insertMark]
    split
    · rename_i lower
      refine List.isChain_cons.mpr ⟨fun next isNext => ?_, ih later⟩
      -- The mark itself or the old next character is behind the one at hand.
      rcases head?_insertMark mark rest with put | kept
      · rw [put] at isNext
        cases isNext
        exact .inr (Nat.le_of_lt lower)
      · exact first next (kept ▸ isNext)
    · rename_i notLower
      exact List.isChain_cons.mpr ⟨by simpa using .inr (Nat.not_lt.mp notLower), chain⟩

/-- Ordered marks are in order. -/
theorem ordered_orderMarks (text : Text) : Ordered (orderMarks text) := by
  -- In the reversed text the relation is turned around, and taking in a character keeps it.
  rw [Ordered, orderMarks_eq_foldl, List.isChain_reverse]
  refine List.foldlRecOn (motive := fun ordered : Text =>
    ordered.IsChain fun c before => MayFollow before c) text takeMark List.isChain_nil ?_
  intro ordered chain c _
  unfold takeMark
  split
  · rename_i starter
    exact List.isChain_cons.mpr ⟨fun _ _ => .inl starter, chain⟩
  · exact insertMark_chain chain

/-- A character that may stand where it comes is put there. -/
theorem takeMark_eq_cons {ordered : Text} {c : Char}
    (follows : ∀ before ∈ ordered.head?, MayFollow before c) : takeMark ordered c = c :: ordered := by
  unfold takeMark
  split
  · rfl
  · rename_i mark
    cases ordered with
    | nil => rfl
    | cons before rest =>
      -- A mark that may follow the last one does not move past it.
      have notLower : ¬ combiningClass c < combiningClass before :=
        Nat.not_lt.mpr ((follows before rfl).resolve_left mark)
      rw [insertMark, if_neg notLower]

/-- Marks that are in order stay as they are. -/
theorem orderMarks_eq_self {text : Text} (ordered : Ordered text) : orderMarks text = text := by
  -- Each character is put where it comes, so the reversed text grows by it alone.
  have taken : ∀ before : Text, (before.reverse ++ text).IsChain MayFollow →
      text.foldl takeMark before = text.reverse ++ before := by
    clear ordered
    induction text with
    | nil => exact fun _ _ => rfl
    | cons c rest ih =>
      intro before chain
      -- A character that may follow the last one is put right behind it.
      have here : takeMark before c = c :: before := by
        refine takeMark_eq_cons fun last isLast => (List.isChain_append.mp chain).2.2 last ?_ c rfl
        rwa [List.getLast?_reverse]
      rw [List.foldl_cons, here, ih (c :: before) (by simpa using chain)]
      simp
  rw [orderMarks_eq_foldl, taken [] ordered, List.append_nil, List.reverse_reverse]

/-- Marks of different classes may be put in either way round. -/
theorem insertMark_comm {first second : Char}
    (differ : combiningClass first ≠ combiningClass second) (ordered : Text) :
    insertMark first (insertMark second ordered) = insertMark second (insertMark first ordered) := by
  -- At each character the two marks pass it or stop, and where both stop their classes decide.
  induction ordered with
  | nil =>
    rcases Nat.lt_or_gt_of_ne differ with lower | higher
    · simp [insertMark, lower, Nat.lt_asymm lower]
    · simp [insertMark, higher, Nat.lt_asymm higher]
  | cons c rest ih =>
    -- Each mark stops in front of the first character of a higher class.
    by_cases firstLower : combiningClass first < combiningClass c <;>
      by_cases secondLower : combiningClass second < combiningClass c
    · simp [insertMark, firstLower, secondLower, ih]
    · have lower : combiningClass first < combiningClass second := by omega
      simp [insertMark, firstLower, secondLower, lower]
    · have higher : combiningClass second < combiningClass first := by omega
      simp [insertMark, firstLower, secondLower, higher]
    · rcases Nat.lt_or_gt_of_ne differ with lower | higher
      · simp [insertMark, firstLower, secondLower, lower, Nat.lt_asymm lower]
      · simp [insertMark, firstLower, secondLower, higher, Nat.lt_asymm higher]

/-- Marks of different classes may stand either way round before they are ordered. -/
theorem orderMarks_swap {first second : Char} (mark : combiningClass first ≠ 0)
    (other : combiningClass second ≠ 0) (differ : combiningClass first ≠ combiningClass second)
    (before after : Text) :
    orderMarks (before ++ first :: second :: after) = orderMarks (before ++ second :: first :: after) := by
  -- Both marks are put into the text before them, one after the other.
  simp only [orderMarks_eq_foldl, List.foldl_append, List.foldl_cons, takeMark, if_neg mark, if_neg other,
    insertMark_comm differ]

/-- A mark may stand before or behind marks of other classes before they are ordered. -/
theorem orderMarks_move {c : Char} (mark : combiningClass c ≠ 0) {passed : Text}
    (differ : ∀ other ∈ passed, combiningClass other ≠ 0 ∧ combiningClass other ≠ combiningClass c)
    (before after : Text) :
    orderMarks (before ++ c :: (passed ++ after)) = orderMarks (before ++ (passed ++ c :: after)) := by
  -- The mark is swapped with one of the others at a time.
  induction passed generalizing before with
  | nil => rfl
  | cons other rest ih =>
    obtain ⟨otherMark, otherClass⟩ := differ other (by simp)
    have step := ih (fun mark member => differ mark (by simp [member])) (before ++ [other])
    simp only [List.append_assoc, List.singleton_append] at step
    rw [List.cons_append, orderMarks_swap mark otherMark (Ne.symm otherClass), step, List.cons_append]

/-- A mark that is put in behind a starter stays behind it. -/
theorem insertMark_append {starter : Char} (starts : combiningClass starter = 0) (mark : Char)
    (ordered below : Text) :
    insertMark mark (ordered ++ starter :: below) = insertMark mark ordered ++ starter :: below := by
  -- Induction on the characters above the starter, which lets no mark pass.
  induction ordered with
  | nil => simp [insertMark, starts]
  | cons c rest ih =>
    rw [List.cons_append, insertMark, insertMark, ih]
    split <;> rfl

/-- What is taken in behind a starter stays behind it. -/
theorem foldl_takeMark_append {starter : Char} (starts : combiningClass starter = 0) (text ordered below : Text) :
    text.foldl takeMark (ordered ++ starter :: below) = text.foldl takeMark ordered ++ starter :: below := by
  -- A starter is passed by no mark, so each mark stays on its side.
  induction text generalizing ordered with
  | nil => rfl
  | cons c rest ih =>
    have step : takeMark (ordered ++ starter :: below) c = takeMark ordered c ++ starter :: below := by
      unfold takeMark
      split
      · rfl
      · exact insertMark_append starts c ordered below
    rw [List.foldl_cons, step, ih, List.foldl_cons]

/-- Marks in front of a starter and marks behind it are ordered apart. -/
theorem orderMarks_append_cons {starter : Char} (starts : combiningClass starter = 0) (before after : Text) :
    orderMarks (before ++ starter :: after) = orderMarks before ++ starter :: orderMarks after := by
  -- Characters are taken in from the left onto a list that is turned round, where the starter parts the two.
  have first : takeMark (before.foldl takeMark []) starter = [] ++ starter :: before.foldl takeMark [] := by
    rw [takeMark, if_pos starts, List.nil_append]
  rw [orderMarks_eq_foldl, List.foldl_append, List.foldl_cons, first, foldl_takeMark_append starts,
    List.reverse_append, List.reverse_cons, List.append_assoc]
  rfl

end AssetCatalog.Unicode
