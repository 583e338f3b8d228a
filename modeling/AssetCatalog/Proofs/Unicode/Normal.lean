import AssetCatalog.Proofs.Unicode.Composition
import AssetCatalog.Proofs.Unicode.Marks

/-! The normal form is normal: a text that was normalized once is not changed by normalizing it again. -/

namespace AssetCatalog.Unicode

/-- Characters that do not decompose are their own decompositions. -/
theorem flatMap_decompose {text : Text} (plain : ∀ c ∈ text, IsPlain c) :
    text.flatMap decompose = text := by
  -- Each character stands for itself.
  induction text with
  | nil => rfl
  | cons c rest ih =>
    have here : decompose c = [c] := plain c (by simp)
    rw [List.flatMap_cons, here, ih fun other member => plain other (by simp [member])]
    rfl

/-- In reverse too, characters that do not decompose are their own decompositions. -/
theorem flatMap_decompose_reverse {text : Text} (plain : ∀ c ∈ text, IsPlain c) :
    text.reverse.flatMap decompose = text.reverse :=
  flatMap_decompose fun c member => plain c (List.mem_reverse.mp member)

/-- Among marks in order, the last one has the highest class. -/
theorem class_le_of_chain {passed : Text} :
    ∀ {mark : Char}, (∀ c ∈ mark :: passed, combiningClass c ≠ 0) →
      ((mark :: passed).IsChain fun c before => MayFollow before c) →
        ∀ c ∈ mark :: passed, combiningClass c ≤ combiningClass mark := by
  -- The passed marks are held in reverse, so classes descend along the list.
  induction passed with
  | nil => simp
  | cons next rest ih =>
    intro mark marks chain c member
    rcases List.mem_cons.mp member with rfl | later
    · exact Nat.le_refl _
    · obtain ⟨first, lower⟩ := List.isChain_cons.mp chain
      have step : combiningClass next ≤ combiningClass mark :=
        (first next rfl).resolve_left (marks mark (by simp))
      exact Nat.le_trans (ih (fun other known => marks other (by simp [known])) lower c later) step

/-- What a character makes with the starter before it, unless a passed mark blocks it. -/
def joins? (starter : Char) (passed : Text) (c : Char) : Option Char :=
  -- The first of the passed marks is the one right before the character.
  let blocked := match passed with
    | [] => false
    | mark :: _ => combiningClass c ≤ combiningClass mark
  if blocked then none else compose? starter c

/-- Behind a starter, a character joins it, starts anew or is passed. -/
theorem composeAfter_cons (starter : Char) (passed : Text) (c : Char) (rest : Text) :
    composeAfter starter passed (c :: rest) =
      match joins? starter passed c with
      | some joined => composeAfter joined passed rest
      | none =>
        if combiningClass c = 0 then starter :: passed.reverse ++ composeAfter c [] rest
        else composeAfter starter (c :: passed) rest := rfl

/-- A character joins a starter only past marks of lower classes. -/
theorem lower_of_joins {starter c joined : Char} {passed : Text}
    (joins : joins? starter passed c = some joined) :
    compose? starter c = some joined ∧ ∀ mark ∈ passed.head?, combiningClass mark < combiningClass c := by
  -- Without passed marks nothing can block, and otherwise the last of them did not.
  cases passed with
  | nil => simpa [joins?] using joins
  | cons mark rest =>
    by_cases blocked : combiningClass c ≤ combiningClass mark
    · simp [joins?, blocked] at joins
    · simp only [joins?, blocked, decide_false, Bool.false_eq_true, if_false] at joins
      exact ⟨joins, by simpa using Nat.not_le.mp blocked⟩

/-- Marks stay in order where one is taken away that has a higher class than the mark before it. -/
theorem ordered_of_lower {passed rest : Text} {c : Char}
    (lower : ∀ mark ∈ passed.head?, combiningClass mark < combiningClass c)
    (ordered : Ordered (passed.reverse ++ c :: rest)) : Ordered (passed.reverse ++ rest) := by
  -- Only the place where the mark stood has to be looked at again.
  obtain ⟨left, right, _⟩ := List.isChain_append.mp ordered
  obtain ⟨next, later⟩ := List.isChain_cons.mp right
  refine List.isChain_append.mpr ⟨left, later, fun mark isLast follower isNext => ?_⟩
  rw [List.getLast?_reverse] at isLast
  have below := lower mark isLast
  rcases next follower isNext with starter | higher
  · exact .inl starter
  · exact .inr (by omega)

/-- A mark may stand before marks of lower classes or behind them before they are ordered. -/
theorem orderMarks_pass {passed rest : Text} {c : Char} (marks : ∀ other ∈ passed, combiningClass other ≠ 0)
    (lower : ∀ mark ∈ passed.head?, combiningClass mark < combiningClass c)
    (ordered : Ordered (passed.reverse ++ c :: rest)) (before : Text) :
    orderMarks (before ++ c :: (passed.reverse ++ rest)) =
      orderMarks (before ++ (passed.reverse ++ c :: rest)) := by
  cases passed with
  | nil => rfl
  | cons mark more =>
    -- The last of the passed marks has the highest class of them, and that is below the class of the mark.
    have below : combiningClass mark < combiningClass c := lower mark rfl
    have chain := List.isChain_reverse.mp (List.isChain_append.mp ordered).1
    have highest := class_le_of_chain marks chain
    refine orderMarks_move (by omega) (fun other member => ?_) before rest
    have bound := highest other (List.mem_reverse.mp member)
    exact ⟨marks other (List.mem_reverse.mp member), by omega⟩

/-- Composing behind a starter keeps what the text decomposes into, once marks are ordered. -/
theorem orderMarks_composeAfter (rest : Text) :
    ∀ (starter : Char) (passed before : Text), (∀ c ∈ passed, IsPlain c ∧ combiningClass c ≠ 0) →
      (∀ c ∈ rest, IsPlain c) → Ordered (passed.reverse ++ rest) →
        orderMarks (before ++ (composeAfter starter passed rest).flatMap decompose) =
          orderMarks (before ++ (decompose starter ++ (passed.reverse ++ rest))) := by
  -- The induction follows the composition, which looks at one character after the other.
  induction rest with
  | nil =>
    intro starter passed before marks _ _
    rw [composeAfter, List.flatMap_cons, flatMap_decompose_reverse fun c member => (marks c member).1,
      List.append_nil]
  | cons c rest ih =>
    intro starter passed before marks plain ordered
    -- The text after the character is all that later steps look at.
    have here : IsPlain c := plain c (by simp)
    have later : ∀ other ∈ rest, IsPlain other := fun other member => plain other (by simp [member])
    rw [composeAfter_cons]
    split
    · -- The joined character decomposes into the starter and the mark, which moves back over those passed.
      rename_i joined joins
      obtain ⟨composed, lower⟩ := lower_of_joins joins
      rw [ih joined passed before marks later (ordered_of_lower lower ordered),
        decompose_of_compose? composed]
      have moved := orderMarks_pass (fun other member => (marks other member).2) lower ordered
        (before ++ decompose starter)
      simpa using moved
    · split
      · -- A new starter ends the run of marks, and what is before it is not looked at again.
        have chain : Ordered ([] ++ rest) :=
          (List.isChain_cons.mp (List.isChain_append.mp ordered).2.1).2
        have further := ih c [] (before ++ (decompose starter ++ passed.reverse)) (by simp) later chain
        have single : decompose c = [c] := here
        rw [single] at further
        simpa [flatMap_decompose_reverse fun other member => (marks other member).1] using further
      · -- A mark that joins nothing is passed, and comes to those passed before.
        rename_i isMark
        have further := ih starter (c :: passed) before
          (by simpa [here, isMark] using marks) later (by simpa using ordered)
        simpa using further

/-- Composing a text keeps what it decomposes into, once marks are ordered. -/
theorem orderMarks_composeAll {text : Text} (plain : ∀ c ∈ text, IsPlain c) (ordered : Ordered text) :
    orderMarks ((composeAll text).flatMap decompose) = text := by
  -- Nothing is composed in front of the first starter, and everything else behind some starter.
  have kept : ∀ before : Text,
      orderMarks (before ++ (composeAll text).flatMap decompose) = orderMarks (before ++ text) := by
    induction text with
    | nil => exact fun _ => rfl
    | cons c rest ih =>
      intro before
      have here : decompose c = [c] := plain c (by simp)
      have later : ∀ other ∈ rest, IsPlain other := fun other member => plain other (by simp [member])
      have chain := (List.isChain_cons.mp ordered).2
      rw [composeAll]
      split
      · -- At the first starter the composition behind starters takes over.
        rw [orderMarks_composeAfter rest c [] before (by simp) later chain, here]
        rfl
      · have further := ih later chain (before ++ [c])
        simpa [here] using further
  exact (kept []).trans (orderMarks_eq_self ordered)

/-- A normal form is its own normal form. -/
theorem nfkc_nfkc (text : Text) : nfkc (nfkc text) = nfkc text := by
  -- Decomposing and ordering the composed text gives back the text before it was composed.
  have plain : ∀ c ∈ orderMarks (text.flatMap decompose), IsPlain c := by
    intro c member
    obtain ⟨whole, _, part⟩ := List.mem_flatMap.mp ((orderMarks_perm _).subset member)
    exact isPlain_of_mem_decompose part
  unfold nfkc
  rw [orderMarks_composeAll plain (ordered_orderMarks _)]

end AssetCatalog.Unicode
