import AssetCatalog.Proofs.Unicode.Normal

/-! Normalization leaves the ASCII characters alone, and an underscore before any text. -/

set_option maxRecDepth 20000

namespace AssetCatalog.Unicode

/-- An ASCII character does not decompose. -/
theorem isPlain_of_ascii {c : Char} (ascii : c.toNat < 0x80) : IsPlain c := by
  -- All codes of ASCII are looked up at once.
  have free : ((List.range 0x80).all isFree) = true := by decide +kernel
  exact isPlain_of_isFree (List.all_eq_true.mp free _ (List.mem_range.mpr ascii))

/-- An ASCII character is a starter. -/
theorem combiningClass_of_ascii {c : Char} (ascii : c.toNat < 0x80) : combiningClass c = 0 := by
  -- All runs of marks start behind the ASCII characters.
  have above : (combiningRuns.all fun run => 0x80 ≤ run.1) = true := by decide
  have absent : combiningRuns.find? (fun run => run.1 ≤ c.toNat && c.toNat ≤ run.2.1) = none := by
    refine List.find?_eq_none.mpr fun run member => ?_
    have start := of_decide_eq_true (List.all_eq_true.mp above run member)
    have below : ¬ run.1 ≤ c.toNat := by omega
    simp [below]
  simp [combiningClass, absent]

/-- A pair that is in no row does not compose, unless both characters are jamo or syllables. -/
theorem compose?_eq_none {first second : Char} (outside : first.toNat < 0x1100 ∨ second.toNat < 0x1100)
    (apart : ∀ row ∈ compositionRows, row / 0x10000000000 = first.toNat →
      row / 0x100000 % 0x100000 ≠ second.toNat) : compose? first second = none := by
  have absent : composition? compositionRows first.toNat second.toNat = none := by
    refine Option.eq_none_iff_forall_ne_some.mpr fun code composed => ?_
    obtain ⟨row, member, isFirst, isSecond, _⟩ := mem_of_composition? composed
    exact apart row member isFirst isSecond
  -- The first two cases of a composition are those of jamo and of syllables.
  unfold compose?
  dsimp only
  rw [if_neg (by omega), if_neg (by omega), absent, Option.map_none]

/-- An ASCII character does not join what is before it. -/
theorem compose?_of_ascii (starter : Char) {c : Char} (ascii : c.toNat < 0x80) :
    compose? starter c = none := by
  -- The second characters of the table all lie behind the ASCII characters.
  have above : (compositionRows.all fun row => 0x80 ≤ row / 0x100000 % 0x100000) = true := by
    decide
  refine compose?_eq_none (.inr (by omega)) fun row member _ isSecond => ?_
  have start := of_decide_eq_true (List.all_eq_true.mp above row member)
  omega

/-- Nothing joins an underscore. -/
theorem compose?_underscore (c : Char) : compose? '_' c = none := by
  -- No row of the table starts with an underscore.
  have others : (compositionRows.all fun row => row / 0x10000000000 != 0x5F) = true := by
    decide
  refine compose?_eq_none (.inl (by decide)) fun row member isFirst _ => ?_
  have other := List.all_eq_true.mp others row member
  rw [isFirst] at other
  cases other

/-- Where nothing joins a starter, the rest of the text composes by itself. -/
theorem composeAfter_of_inert {starter : Char} {rest : Text}
    (inert : ∀ c ∈ rest, compose? starter c = none) :
    ∀ passed : Text, composeAfter starter passed rest = starter :: passed.reverse ++ composeAll rest := by
  -- Marks are passed one by one until the next starter, from which composition starts anew.
  induction rest with
  | nil => exact fun passed => (List.append_nil _).symm
  | cons c rest ih =>
    intro passed
    have apart : joins? starter passed c = none := by
      simp only [joins?, inert c (by simp), ite_self]
    rw [composeAfter_cons, apart, composeAll]
    by_cases starts : combiningClass c = 0
    · simp only [if_pos starts]
    · -- A mark is passed, which stands in front of those to come.
      simp only [if_neg starts]
      rw [ih (fun other member => inert other (by simp [member])) (c :: passed)]
      simp

/-- Marks behind a starter are ordered by themselves. -/
theorem orderMarks_cons {starter : Char} (starts : combiningClass starter = 0) (text : Text) :
    orderMarks (starter :: text) = starter :: orderMarks text :=
  orderMarks_append_cons starts [] text

/-- An underscore before a text stays apart from its normal form. -/
theorem nfkc_underscore_cons (text : Text) : nfkc ('_' :: text) = '_' :: nfkc text := by
  -- The underscore keeps its place in each of the three stages.
  have starts : combiningClass '_' = 0 := combiningClass_of_ascii (by decide)
  have plain : decompose '_' = ['_'] := isPlain_of_ascii (by decide)
  rw [nfkc, List.flatMap_cons, plain, List.singleton_append, orderMarks_cons starts, composeAll,
    if_pos starts, composeAfter_of_inert fun c _ => compose?_underscore c]
  rfl

/-- In a text of ASCII characters no mark is out of order. -/
theorem ordered_of_ascii {text : Text} (ascii : ∀ c ∈ text, c.toNat < 0x80) : Ordered text :=
  List.Pairwise.isChain (List.pairwise_of_forall_mem_list
    fun _ _ c member => .inl (combiningClass_of_ascii (ascii c member)))

/-- A text of ASCII characters is its own normal form. -/
theorem nfkc_of_ascii {text : Text} (ascii : ∀ c ∈ text, c.toNat < 0x80) : nfkc text = text := by
  -- None of the three stages finds anything to change.
  have composed : composeAll text = text := by
    induction text with
    | nil => rfl
    | cons c rest ih =>
      have later : ∀ other ∈ rest, other.toNat < 0x80 := fun other member => ascii other (by simp [member])
      rw [composeAll, if_pos (combiningClass_of_ascii (ascii c (by simp))),
        composeAfter_of_inert fun other member => compose?_of_ascii c (later other member), ih later]
      rfl
  rw [nfkc, flatMap_decompose fun c member => isPlain_of_ascii (ascii c member),
    orderMarks_eq_self (ordered_of_ascii ascii), composed]

end AssetCatalog.Unicode
