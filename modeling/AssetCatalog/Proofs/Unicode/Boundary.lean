import AssetCatalog.Proofs.Unicode.Ascii

/-! Letters that stand apart: a text may be cut in front of them and behind them without changing its normal form. -/

namespace AssetCatalog.Unicode

/-- Whether a character begins a part of a text that is composed by itself, whatever is in front of it. -/
structure Leads (c : Char) : Prop where
  /-- No mark behind the character moves in front of it. -/
  starts : combiningClass c = 0
  /-- The character joins nothing in front of it. -/
  alone : ∀ first, compose? first c = none

section Leading

variable {lead : Char}

/-- Behind a starter too, a text in two parts is composed part by part where the second part is led. -/
theorem composeAfter_append_cons (leads : Leads lead) (rest after : Text) : ∀ (starter : Char) (passed : Text),
    composeAfter starter passed (rest ++ lead :: after) =
      composeAfter starter passed rest ++ composeAll (lead :: after) := by
  induction rest with
  | nil =>
    intro starter passed
    have apart : joins? starter passed lead = none := by simp only [joins?, leads.alone, ite_self]
    rw [List.nil_append, composeAfter_cons, apart, composeAll, if_pos leads.starts]
    simp only [if_pos leads.starts, composeAfter]
  | cons c rest ih =>
    -- Up to the leading character, the composition goes on as it would without it.
    intro starter passed
    rw [List.cons_append, composeAfter_cons, composeAfter_cons]
    cases joins? starter passed c with
    | some joined => exact ih joined passed
    | none =>
      dsimp only
      split
      · -- A starter ends what was composed so far, and the rest begins with it.
        rw [ih c [], ← List.append_assoc]
      · exact ih starter (c :: passed)

/-- A text in two parts is composed part by part where the second part is led. -/
theorem composeAll_append_cons (leads : Leads lead) (before after : Text) :
    composeAll (before ++ lead :: after) = composeAll before ++ composeAll (lead :: after) := by
  -- A starter in the first part takes up what follows it no farther than the second part.
  induction before with
  | nil => rfl
  | cons c rest ih =>
    rw [List.cons_append, composeAll, composeAll]
    split
    · exact composeAfter_append_cons leads rest after c []
    · rw [ih, List.cons_append]

/-- In front of a character that is led, a text may be cut. -/
theorem nfkc_append_cons_of_leads {c : Char} {own : Text} (leads : Leads lead) (decomposed : decompose c = lead :: own)
    (before after : Text) : nfkc (before ++ c :: after) = nfkc before ++ nfkc (c :: after) := by
  -- Decomposing, ordering and composing are done in parts, each at the character that leads.
  rw [nfkc, List.flatMap_append, List.flatMap_cons, decomposed, List.cons_append,
    orderMarks_append_cons leads.starts, composeAll_append_cons leads, ← orderMarks_cons leads.starts,
    ← List.cons_append, ← decomposed, ← List.flatMap_cons]
  rfl

end Leading

/-- The marks of voiced sounds, which come from letters of their own. -/
def voicingMarks : Text :=
  [Char.ofNat 0x3099, Char.ofNat 0x309A]

/-- The voicing marks are marks of a low class. -/
theorem combiningClass_of_voicingMark {mark : Char} (voicing : mark ∈ voicingMarks) : combiningClass mark = 8 := by
  -- There are few such marks, and the class of each is looked up.
  have checked : (voicingMarks.all fun mark => combiningClass mark == 8) = true := by decide
  exact eq_of_beq (List.all_eq_true.mp checked mark voicing)

/-- Whether a character is a starter that is second in no pair of the table. -/
structure Follows (c : Char) : Prop where
  /-- No mark behind the character moves in front of it. -/
  starts : combiningClass c = 0
  /-- No character of the table joins it. -/
  unlisted : ∀ row ∈ compositionRows, row / 0x100000 % 0x100000 ≠ c.toNat

/-- Whether a character's decomposition begins with a starter that follows any letter, or is a voicing mark. -/
def Behind (c : Char) : Prop :=
  (∃ first rest, decompose c = first :: rest ∧ Follows first) ∨ ∃ mark ∈ voicingMarks, decompose c = [mark]

/--
A letter that stands apart from what is around it.

It decomposes into a starter and marks of its own.
Those join the starter again, and nothing else joins it or what is made on the way.
-/
structure StandsApart (letter base : Char) (own : Text) : Prop where
  /-- The letter decomposes into its base and its own marks. -/
  decomposed : decompose letter = base :: own
  /-- The base is a starter that no character of the table takes. -/
  follows : Follows base
  /-- The base joins nothing in front of it. -/
  alone : ∀ first, compose? first base = none
  /-- The marks of the letter are in order. -/
  ordered : Ordered own
  /-- The marks of the letter come behind voicing marks. -/
  high : ∀ mark ∈ own, 8 < combiningClass mark
  /-- The marks of the letter join its base, past voicing marks too. -/
  joined : ∀ passed rest, (∀ mark ∈ passed, combiningClass mark = 8) →
    composeAfter base passed (own ++ rest) = composeAfter letter passed rest
  /-- Nothing that follows joins the letter. -/
  closed : ∀ c, Follows c → compose? letter c = none
  /-- No voicing mark joins the base. -/
  voiceless : ∀ mark ∈ voicingMarks, compose? base mark = none

/-- The base of a letter that stands apart leads what comes behind it. -/
theorem StandsApart.leads {letter base : Char} {own : Text} (apart : StandsApart letter base own) : Leads base :=
  ⟨apart.follows.starts, apart.alone⟩

/-- A letter that stands apart may come behind any other. -/
theorem StandsApart.behind {letter base : Char} {own : Text} (apart : StandsApart letter base own) : Behind letter :=
  .inl ⟨base, own, apart.decomposed, apart.follows⟩

/-- A mark that joins a letter that stands apart makes another one, if it comes behind the marks of the letter. -/
theorem StandsApart.join {letter base mark joined : Char} {own : Text} (apart : StandsApart letter base own)
    (composed : compose? letter mark = some joined) (above : 8 < combiningClass mark)
    (last : ∀ other ∈ own.getLast?, combiningClass other ≤ combiningClass mark)
    (closed : ∀ c, Follows c → compose? joined c = none) : StandsApart joined base (own ++ [mark]) where
  decomposed := by rw [decompose_of_compose? composed, apart.decomposed, List.cons_append]
  follows := apart.follows
  alone := apart.alone
  ordered := List.isChain_append.mpr ⟨apart.ordered, List.isChain_singleton _, fun other isLast next isNext => by
    cases isNext
    exact .inr (last other isLast)⟩
  high := List.forall_mem_append.mpr ⟨apart.high, List.forall_mem_singleton.mpr above⟩
  joined := fun passed rest low => by
    -- The marks of the letter are done with when the last one comes.
    rw [List.append_assoc, List.singleton_append, apart.joined passed (mark :: rest) low, composeAfter_cons]
    have joins : joins? letter passed mark = some joined := by
      cases passed with
      | nil => simpa [joins?] using composed
      | cons other passed =>
        -- What was passed are voicing marks, of a lower class than the mark, so none of them blocks it.
        have below := low other List.mem_cons_self
        simp only [joins?, show ¬ combiningClass mark ≤ combiningClass other by omega, decide_false,
          Bool.false_eq_true, if_false, composed]
    rw [joins]
  closed := closed
  voiceless := apart.voiceless

/-- What comes behind a letter is voicing marks and then a starter that follows, if anything. -/
theorem exists_voicing {text : Text} (behind : ∀ c ∈ text, Behind c) :
    ∃ voicing rest, text.flatMap decompose = voicing ++ rest ∧ (∀ mark ∈ voicing, mark ∈ voicingMarks) ∧
      ∀ first ∈ rest.head?, Follows first := by
  induction text with
  | nil => exact ⟨[], [], rfl, by simp, by simp⟩
  | cons c text ih =>
    rw [List.flatMap_cons]
    rcases behind c List.mem_cons_self with ⟨first, own, decomposed, follows⟩ | ⟨mark, voiced, decomposed⟩
    · -- A character that follows ends the voicing marks; another voicing mark goes on with them.
      refine ⟨[], decompose c ++ text.flatMap decompose, rfl, by simp, ?_⟩
      simpa [decomposed] using follows
    · obtain ⟨voicing, rest, whole, marks, next⟩ := ih (List.forall_mem_of_forall_mem_cons behind)
      exact ⟨mark :: voicing, rest, by rw [decomposed, whole]; rfl, List.forall_mem_cons.mpr ⟨voiced, marks⟩, next⟩

/-- Marks in front of a text that begins with a starter are ordered by themselves. -/
theorem orderMarks_append_of_starts {marks rest : Text} (ordered : Ordered marks)
    (starts : ∀ first ∈ rest.head?, combiningClass first = 0) :
    orderMarks (marks ++ rest) = marks ++ orderMarks rest := by
  -- The second text is empty, or begins with a starter that no mark passes.
  cases rest with
  | nil => rw [List.append_nil, orderMarks_eq_self ordered]; exact (List.append_nil _).symm
  | cons first rest =>
    rw [orderMarks_append_cons (starts first rfl), orderMarks_eq_self ordered, orderMarks_cons (starts first rfl)]

/-- Marks of one low class move in front of marks of higher classes. -/
theorem orderMarks_exchange {voicing own : Text} (marks : ∀ mark ∈ voicing, combiningClass mark = 8)
    (high : ∀ mark ∈ own, 8 < combiningClass mark) (before after : Text) :
    orderMarks (before ++ (own ++ (voicing ++ after))) = orderMarks (before ++ (voicing ++ (own ++ after))) := by
  -- One mark after the other goes to the front.
  induction voicing generalizing before with
  | nil => rfl
  | cons mark voicing ih =>
    obtain ⟨low, lows⟩ := List.forall_mem_cons.mp marks
    have differ : ∀ other ∈ own, combiningClass other ≠ 0 ∧ combiningClass other ≠ combiningClass mark :=
      fun other member => by have := high other member; omega
    have moved := orderMarks_move (by omega) differ before (voicing ++ after)
    have further := ih lows (before ++ [mark])
    simp only [List.append_assoc, List.singleton_append] at further
    rw [List.cons_append, ← moved, further, List.cons_append]

/-- Marks of one low class in front of ordered marks of higher classes are in order. -/
theorem ordered_append {voicing own : Text} (marks : ∀ mark ∈ voicing, combiningClass mark = 8)
    (high : ∀ mark ∈ own, 8 < combiningClass mark) (ordered : Ordered own) : Ordered (voicing ++ own) := by
  -- Two marks of one class are in order, and so are the last mark of the one class and the first of the higher.
  refine List.isChain_append.mpr ⟨List.Pairwise.isChain ?_, ordered, fun last isLast first isFirst => ?_⟩
  · refine List.pairwise_of_forall_mem_list fun mark known other member => .inr ?_
    rw [marks mark known, marks other member]
  · have low := marks last (List.mem_of_mem_getLast? isLast)
    have above := high first (List.mem_of_mem_head? isFirst)
    exact .inr (by omega)

/-- Marks that do not join a starter are passed. -/
theorem composeAfter_passes {starter : Char} {marks : Text}
    (inert : ∀ mark ∈ marks, combiningClass mark ≠ 0 ∧ compose? starter mark = none) (rest : Text) :
    ∀ passed : Text, composeAfter starter passed (marks ++ rest) =
      composeAfter starter (marks.reverse ++ passed) rest := by
  induction marks with
  | nil => exact fun _ => rfl
  | cons mark marks ih =>
    intro passed
    obtain ⟨⟨isMark, joinless⟩, others⟩ := List.forall_mem_cons.mp inert
    -- What is passed can only block the mark, which does not join anyway.
    have apart : joins? starter passed mark = none := by simp only [joins?, joinless, ite_self]
    rw [List.cons_append, composeAfter_cons, apart]
    dsimp only
    rw [if_neg isMark, ih others, List.reverse_cons, List.append_assoc]
    rfl

/-- Marks in front of the first starter are left as they are. -/
theorem composeAll_append {marks : Text} (nonstarters : ∀ mark ∈ marks, combiningClass mark ≠ 0) (rest : Text) :
    composeAll (marks ++ rest) = marks ++ composeAll rest := by
  -- Induction on the marks, none of which is a starter to begin with.
  induction marks with
  | nil => rfl
  | cons mark marks ih =>
    obtain ⟨isMark, others⟩ := List.forall_mem_cons.mp nonstarters
    rw [List.cons_append, composeAll, if_neg isMark, ih others, List.cons_append]

/-- A starter whose marks are complete is left as it is where a starter comes next. -/
theorem composeAfter_of_complete {starter : Char} {rest : Text}
    (next : ∀ first ∈ rest.head?, combiningClass first = 0 ∧ compose? starter first = none) (passed : Text) :
    composeAfter starter passed rest = starter :: passed.reverse ++ composeAll rest := by
  -- What comes next neither joins the starter nor is a mark.
  cases rest with
  | nil => exact (List.append_nil _).symm
  | cons first rest =>
    obtain ⟨starts, joinless⟩ := next first rfl
    have apart : joins? starter passed first = none := by simp only [joins?, joinless, ite_self]
    rw [composeAfter_cons, apart, composeAll, if_pos starts]
    simp only [if_pos starts]

/-- A text may be cut behind a letter that stands apart. -/
theorem nfkc_cons_of_standsApart {letter base : Char} {own text : Text} (apart : StandsApart letter base own)
    (behind : ∀ c ∈ text, Behind c) : nfkc (letter :: text) = letter :: nfkc text := by
  obtain ⟨voicing, rest, whole, voiced, follows⟩ := exists_voicing behind
  have marks : ∀ mark ∈ voicing, combiningClass mark = 8 := fun mark member =>
    combiningClass_of_voicingMark (voiced mark member)
  have starts : ∀ first ∈ rest.head?, combiningClass first = 0 := fun first isFirst => (follows first isFirst).starts
  have first : (orderMarks rest).head? = rest.head? := by
    cases rest with
    | nil => rfl
    | cons first rest => rw [orderMarks_cons (starts first rfl)]; rfl
  -- The voicing marks come between the base and its own marks, which join it past them.
  have together : orderMarks ((letter :: text).flatMap decompose) = base :: (voicing ++ (own ++ orderMarks rest)) := by
    rw [List.flatMap_cons, apart.decomposed, whole, List.cons_append, orderMarks_cons apart.leads.starts]
    have exchanged := orderMarks_exchange marks apart.high [] rest
    rw [List.nil_append, List.nil_append, ← List.append_assoc voicing] at exchanged
    rw [exchanged, orderMarks_append_of_starts (ordered_append marks apart.high apart.ordered) starts,
      List.append_assoc]
  have alone : orderMarks (text.flatMap decompose) = voicing ++ orderMarks rest := by
    have ordered : Ordered (voicing ++ []) := ordered_append marks (List.forall_mem_nil _) List.isChain_nil
    rw [List.append_nil] at ordered
    rw [whole, orderMarks_append_of_starts ordered starts]
  -- The voicing marks join no letter, so they are passed wherever they stand.
  have inert : ∀ mark ∈ voicing, combiningClass mark ≠ 0 ∧ compose? base mark = none := fun mark member =>
    ⟨by rw [marks mark member]; decide, apart.voiceless mark (voiced mark member)⟩
  -- What comes next starts anew, and does not join the letter.
  have complete : ∀ next ∈ (orderMarks rest).head?, combiningClass next = 0 ∧ compose? letter next = none :=
    fun next isFirst => ⟨starts next (first ▸ isFirst), apart.closed next (follows next (first ▸ isFirst))⟩
  rw [nfkc, nfkc, together, alone, composeAll, if_pos apart.leads.starts, composeAfter_passes inert,
    List.append_nil, apart.joined voicing.reverse _ fun mark member => marks mark (List.mem_reverse.mp member),
    composeAfter_of_complete complete, List.reverse_reverse, composeAll_append fun mark member => (inert mark member).1]
  rfl

/-- Letters that stand apart are left as they are in front of a text. -/
theorem nfkc_append_of_standsApart {letters after : Text}
    (apart : ∀ letter ∈ letters, ∃ base own, StandsApart letter base own) (behind : ∀ c ∈ after, Behind c) :
    nfkc (letters ++ after) = letters ++ nfkc after := by
  -- What follows a letter is another letter or the text behind, and neither joins it.
  induction letters with
  | nil => rfl
  | cons letter letters ih =>
    obtain ⟨⟨base, own, here⟩, others⟩ := List.forall_mem_cons.mp apart
    have next : ∀ c ∈ letters ++ after, Behind c := List.forall_mem_append.mpr
      ⟨fun other member => have ⟨_, _, standing⟩ := others other member; standing.behind, behind⟩
    rw [List.cons_append, nfkc_cons_of_standsApart here next, ih others, List.cons_append]

/-- Whether a character decomposes into the same as some letters that stand apart. -/
structure Spells (letters : Text) (c : Char) : Prop where
  /-- There is a letter at least. -/
  filled : letters ≠ []
  /-- The character and the letters have one decomposition. -/
  decomposed : decompose c = letters.flatMap decompose
  /-- Each of the letters stands apart. -/
  apart : ∀ letter ∈ letters, ∃ base own, StandsApart letter base own

/-- A text may be cut around a character that decomposes into letters that stand apart. -/
theorem nfkc_append_cons_of_spells {letters : Text} {c : Char} (spells : Spells letters c) (before : Text)
    {after : Text} (behind : ∀ c ∈ after, Behind c) :
    nfkc (before ++ c :: after) = nfkc before ++ (letters ++ nfkc after) := by
  -- The character may be exchanged for its letters, as only the decomposition counts.
  obtain ⟨filled, decomposed, apart⟩ := spells
  have instead : nfkc (before ++ c :: after) = nfkc (before ++ (letters ++ after)) := by
    simp only [nfkc, List.flatMap_append, List.flatMap_cons, decomposed]
  rw [instead, ← nfkc_append_of_standsApart apart behind]
  obtain ⟨letter, letters, rfl⟩ := List.exists_cons_of_ne_nil filled
  obtain ⟨base, own, here⟩ := apart letter List.mem_cons_self
  exact nfkc_append_cons_of_leads here.leads here.decomposed before (letters ++ after)

/--
Texts that are alike character by character have normal forms that are alike character by character.

Characters are alike where they are one, or decompose into letters that are alike.
-/
theorem forall₂_nfkc {alike : Char → Char → Prop} (same : ∀ c, alike c c) {first second : Text}
    (pairs : List.Forall₂ (fun c d => c = d ∨ ∃ letters others, Spells letters c ∧ Spells others d ∧
      List.Forall₂ alike letters others) first second)
    (behind : ∀ c ∈ first, Behind c) (alsoBehind : ∀ c ∈ second, Behind c) :
    List.Forall₂ alike (nfkc first) (nfkc second) := by
  have refl : ∀ text, List.Forall₂ alike text text := fun text => List.forall₂_same.mpr fun c _ => same c
  -- What the texts begin with in common is put aside until they differ.
  have kept : ∀ before : Text, List.Forall₂ alike (nfkc (before ++ first)) (nfkc (before ++ second)) := by
    induction pairs with
    | nil => exact fun before => refl _
    | @cons c d first second pair rest ih =>
      have next := List.forall_mem_of_forall_mem_cons behind
      have alsoNext := List.forall_mem_of_forall_mem_cons alsoBehind
      intro before
      rcases pair with rfl | ⟨letters, others, spells, alsoSpells, letterwise⟩
      · -- A character in common is put aside with the others.
        have aside : ∀ rest, before ++ c :: rest = before ++ [c] ++ rest := fun rest => List.append_cons before c rest
        rw [aside first, aside second]
        exact ih next alsoNext _
      · -- The texts may be cut around a spelled character, so its letters are compared by themselves.
        rw [nfkc_append_cons_of_spells spells before next, nfkc_append_cons_of_spells alsoSpells before alsoNext]
        exact List.rel_append (refl _) (List.rel_append letterwise (ih next alsoNext []))
  exact kept []

end AssetCatalog.Unicode
