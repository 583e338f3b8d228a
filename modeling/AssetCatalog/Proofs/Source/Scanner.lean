import AssetCatalog.Proofs.Source.Extent
import AssetCatalog.Source.Scanner

/-! The tokens that a source is cut into: their strings stand one behind the other. -/

namespace AssetCatalog.Source

namespace Position

/-- The rank of a place among all places: by its line, and on one line by its column. -/
def rank (position : Position) : ℕ ×ₗ ℕ :=
  toLex (position.line, position.column)

variable {position : Position} {c : Char} {text : Text}

/-- Behind a character is a later place. -/
theorem rank_lt_step (position : Position) (c : Char) : position.rank < (position.step c).rank := by
  -- A line break goes to the next line, and any other character at least a byte farther.
  rw [rank, rank, Prod.Lex.toLex_lt_toLex, step]
  split
  · exact .inl (Nat.lt_succ_self _)
  · exact .inr ⟨rfl, Nat.lt_add_of_pos_right c.utf8Size_pos⟩

/-- Behind a text is no earlier place. -/
theorem rank_le_past (text : Text) : ∀ position : Position, position.rank ≤ (position.past text).rank := by
  -- Each sign moves the place forward.
  induction text with
  | nil => exact fun _ => le_rfl
  | cons c text ih => exact fun position => (rank_lt_step position c).le.trans (ih _)

/-- Behind a text that is not empty is a later place. -/
theorem rank_lt_past (filled : text ≠ []) : position.rank < (position.past text).rank := by
  -- The first sign moves the place forward, and the rest does not move it back.
  cases text with
  | nil => exact absurd rfl filled
  | cons c text => exact (rank_lt_step position c).trans_le (rank_le_past text _)

end Position

/-- The strings among tokens stand one behind the other. -/
def InOrder (tokens : List Token) : Prop :=
  (stringPlaces tokens).Pairwise fun first second => first.rank < second.rank

/-- Whether a lexeme is a string. -/
def Lexeme.isString : Lexeme → Bool
  | .string _ => true
  | _ => false

/-- Tokens found so far, the last one first, have their strings one behind the other and in front of a place. -/
structure Behind (found : List Token) (position : Position) : Prop where
  /-- The strings stand one behind the other. -/
  ordered : (stringPlaces found).Pairwise fun first second => second.rank < first.rank
  /-- The strings stand in front of the place. -/
  before : ∀ place ∈ stringPlaces found, place.rank < position.rank

namespace Behind

variable {found : List Token} {position later : Position} {token : Token}

/-- What stands in front of a place stands in front of later ones. -/
theorem mono (behind : Behind found position) (le : position.rank ≤ later.rank) : Behind found later :=
  ⟨behind.ordered, fun place member => (behind.before place member).trans_le le⟩

/-- A token may be added at the place; if it is a string, what comes next stands behind its start. -/
theorem cons (token : Token) (behind : Behind found token.position) (le : token.position.rank ≤ later.rank)
    (lt : token.lexeme.isString = true → token.position.rank < later.rank) : Behind (token :: found) later := by
  -- Only a string counts among the places, and it is the last of them.
  obtain ⟨lexeme, position⟩ := token
  cases lexeme with
  | string quotation =>
    refine ⟨List.pairwise_cons.mpr ⟨behind.before, behind.ordered⟩, fun place member => ?_⟩
    rcases List.mem_cons.mp member with rfl | earlier
    · exact lt rfl
    · exact (behind.before place earlier).trans_le le
  | _ => exact ⟨(behind.mono le).ordered, (behind.mono le).before⟩

/-- The strings among the tokens, the first one first, stand one behind the other. -/
theorem inOrder (behind : Behind found position) : InOrder found.reverse := by
  -- The tokens are found with the last one first, so their order is turned round.
  rw [InOrder, stringPlaces, List.filterMap_reverse, List.pairwise_reverse]
  exact behind.ordered

end Behind

/-- The tokens at the front of a line open or close blocks. -/
theorem not_isString_of_indent {blocks left : List Indentation} {line : Indentation} {lexemes : List Lexeme}
    (indented : indent blocks line = .ok (left, lexemes)) : ∀ lexeme ∈ lexemes, lexeme.isString = false := by
  -- Every way to a result makes marks of indentation alone.
  unfold indent at indented
  dsimp only at indented
  repeat' split at indented
  all_goals try cases indented
  all_goals simp [Lexeme.isString]

/-- Brackets do not move the scanner. -/
theorem position_of_account {scanner next : Scanner} {mark : Text} (accounted : scanner.account mark = .ok next) :
    next.position = scanner.position := by
  -- Only the open brackets change, whatever the mark is.
  unfold Scanner.account at accounted
  dsimp only [Scanner.fail] at accounted
  repeat' split at accounted
  all_goals cases accounted
  all_goals rfl

/-- A string is spelled with its quotes. -/
theorem ne_nil_of_takeString {scanner : Scanner} {letters text spelling rest : Text} {kind : Quotation} {quote : Char}
    {lexeme : Lexeme} (taken : takeString scanner letters kind quote text = .ok (lexeme, spelling, rest)) :
    spelling ≠ [] := by
  -- Whatever ends the string, its spelling begins with the letters and the quote.
  unfold takeString at taken
  dsimp only [Scanner.fail] at taken
  repeat' split at taken
  all_goals cases taken
  all_goals simp

/-- A word is no string. -/
theorem not_isString_of_wordLexeme {scanner : Scanner} {spelling : Text} {lexeme : Lexeme}
    (named : wordLexeme scanner spelling = .ok lexeme) : lexeme.isString = false := by
  -- A word is a keyword or a name.
  unfold wordLexeme at named
  dsimp only [Scanner.fail] at named
  repeat' split at named
  all_goals cases named
  all_goals rfl

/-- A token leaves the place at which it starts, and a string has a spelling. -/
theorem takeToken_spec {scanner next : Scanner} {text spelling rest : Text} {lexeme : Lexeme}
    (taken : takeToken scanner text = .ok (lexeme, spelling, rest, next)) :
    next.position = scanner.position ∧ (lexeme.isString = true → spelling ≠ []) := by
  -- The cases follow the scanner: a string, then a word, then a number, and else a mark.
  unfold takeToken at taken
  extract_lets c word rest quote at taken
  simp only [Bind.bind, Except.bind, Scanner.fail, pure, Except.pure] at taken
  split at taken
  · split at taken
    · cases taken
    · next found same =>
      cases taken
      exact ⟨rfl, fun _ => ne_nil_of_takeString same⟩
  · split at taken
    · split at taken
      · cases taken
      · next found same =>
        simp only [Except.ok.injEq, Prod.mk.injEq] at taken
        obtain ⟨rfl, -, -, rfl⟩ := taken
        exact ⟨rfl, fun isString => by simp [not_isString_of_wordLexeme same] at isString⟩
    · split at taken
      · split at taken
        · cases taken
        · cases taken
          exact ⟨rfl, nofun⟩
      · split at taken
        · cases taken
        · split at taken
          · cases taken
          · next found same =>
            simp only [Except.ok.injEq, Prod.mk.injEq] at taken
            obtain ⟨rfl, -, -, rfl⟩ := taken
            -- A bracket changes the scanner's account, but not its place.
            exact ⟨position_of_account same, nofun⟩

/-- What one round adds to the tokens found so far, and the scanner that it leaves. -/
inductive Round (scanner : Scanner) (found : List Token) : Scanner → List Token → Prop
  /-- The scanner goes on, and adds tokens that are no strings at a place on its way. -/
  | marked {next : Scanner} (place : Position) (lexemes : List Lexeme)
    (other : ∀ lexeme ∈ lexemes, lexeme.isString = false) (reached : scanner.position.rank ≤ place.rank)
    (passed : place.rank ≤ next.position.rank) : Round scanner found next (lexemes.map (⟨·, place⟩) ++ found)
  /-- The scanner takes a token and goes on behind it. -/
  | taken {next : Scanner} {text spelling rest : Text} {lexeme : Lexeme}
    (took : takeToken scanner text = .ok (lexeme, spelling, rest, next)) :
    Round scanner found (next.past spelling) (scanner.token lexeme :: found)

/-- A round may add nothing. -/
theorem Round.past {scanner next : Scanner} {found : List Token}
    (reached : scanner.position.rank ≤ next.position.rank) :
    Round scanner found next found :=
  .marked next.position [] nofun reached le_rfl

/-- At the front of a line a round passes the indentation, and finds at most the ends and starts of blocks there. -/
theorem exists_round_of_front {scanner : Scanner} {found tokens : List Token} {fuel : Nat} {text : Text}
    (scanned : scanFrom true scanner found (fuel + 1) text = .ok tokens) :
    ∃ atLineStart next more rest, Round scanner found next more ∧
      scanFrom atLineStart next more fuel rest = .ok tokens := by
  have past (text : Text) : scanner.position.rank ≤ (scanner.past text).position.rank :=
    Position.rank_le_past text scanner.position
  -- The branches are those of the scanner: blank lines only move on, and any other one marks its blocks.
  unfold scanFrom at scanned
  rw [if_pos rfl] at scanned
  split at scanned
  · cases scanned
  · dsimp only at scanned
    split at scanned
    · exact ⟨_, _, _, _, .past ((past _).trans (Position.rank_le_past _ _)), scanned⟩
    · exact ⟨_, _, _, _, .past ((past _).trans (Position.rank_le_past _ _)), scanned⟩
    · split at scanned
      · exact ⟨_, _, _, _, .past (past _), scanned⟩
      · split at scanned
        · cases scanned
        next blocks lexemes indented =>
          rw [← List.map_reverse] at scanned
          -- Indents and dedents stand at the first sign of the line.
          refine ⟨_, { scanner.past _ with blocks }, _, _,
            .marked _ lexemes.reverse (fun lexeme member => ?_) (past _) le_rfl, scanned⟩
          exact not_isString_of_indent indented lexeme (List.mem_reverse.mp member)

/-- Within a line a round takes a token, passes what is none, or comes to the end of the source. -/
theorem exists_round_of_within {scanner : Scanner} {found tokens : List Token} {fuel : Nat} {text : Text}
    (scanned : scanFrom false scanner found (fuel + 1) text = .ok tokens) :
    tokens = (scanner.token .finish :: found).reverse ∨ ∃ atLineStart next more rest, Round scanner found next more ∧
      scanFrom atLineStart next more fuel rest = .ok tokens := by
  -- The branches are those of the scanner, by the first sign ahead.
  have past (text : Text) : scanner.position.rank ≤ (scanner.past text).position.rank :=
    Position.rank_le_past text scanner.position
  unfold scanFrom at scanned
  rw [if_neg Bool.false_ne_true] at scanned
  split at scanned
  · split at scanned
    · exact .inl (Except.ok.inj scanned).symm
    · cases scanned
  · exact .inr ⟨_, _, _, _, .past (past _), scanned⟩
  · exact .inr ⟨_, _, _, _, .past (past _), scanned⟩
  · exact .inr ⟨_, _, _, _, .past (past _), scanned⟩
  · -- The end of a line counts only outside of brackets.
    dsimp only at scanned
    split at scanned
    · exact .inr ⟨_, _, _, _, .marked scanner.position [.newline] (by simp [Lexeme.isString]) le_rfl (past _), scanned⟩
    · exact .inr ⟨_, _, _, _, .past (past _), scanned⟩
  · exact .inr ⟨_, _, _, _, .past (past _), scanned⟩
  · split at scanned
    · cases scanned
    · exact .inr ⟨_, _, _, _, .past (past _), scanned⟩
  · cases scanned
  · simp only [Bind.bind, Except.bind] at scanned
    split at scanned
    · cases scanned
    next result took =>
      obtain ⟨lexeme, spelling, rest, next⟩ := result
      exact .inr ⟨_, _, _, _, .taken took, scanned⟩

/-- Tokens that are no strings may be added at one place. -/
theorem Behind.append {found : List Token} {place : Position} (behind : Behind found place)
    (lexemes : List Lexeme) (other : ∀ lexeme ∈ lexemes, lexeme.isString = false) :
    Behind (lexemes.map (⟨·, place⟩) ++ found) place := by
  -- None of them counts, so what stands in front of the place is as before.
  induction lexemes with
  | nil => exact behind
  | cons lexeme lexemes ih =>
    have rest := ih fun one member => other one (List.mem_cons_of_mem _ member)
    have here : lexeme.isString = false := other lexeme List.mem_cons_self
    exact rest.cons ⟨lexeme, place⟩ le_rfl fun isString => absurd (here.symm.trans isString) Bool.false_ne_true

/-- The token that is taken may be added, and the scanner then stands behind it. -/
theorem Behind.take {found : List Token} {scanner next : Scanner} {text spelling rest : Text} {lexeme : Lexeme}
    (behind : Behind found scanner.position) (taken : takeToken scanner text = .ok (lexeme, spelling, rest, next)) :
    Behind (scanner.token lexeme :: found) (next.past spelling).position := by
  -- The token starts where the scanner was, and what spells it lies between.
  obtain ⟨same, filled⟩ := takeToken_spec taken
  have moved : (next.past spelling).position = scanner.position.past spelling :=
    congrArg (Position.past · spelling) same
  rw [moved]
  exact Behind.cons (scanner.token lexeme) behind (Position.rank_le_past spelling scanner.position) fun isString =>
    Position.rank_lt_past (filled isString)

/-- A round leaves what is found behind the scanner. -/
theorem Behind.round {found more : List Token} {scanner next : Scanner} (behind : Behind found scanner.position)
    (round : Round scanner found next more) : Behind more next.position := by
  -- The places of what is added lie between the scanner and the next one.
  cases round with
  | marked place lexemes other reached passed => exact ((behind.mono reached).append lexemes other).mono passed
  | taken took => exact behind.take took

/-- The tokens of a text, behind those found so far, have their strings one behind the other. -/
theorem inOrder_of_scanFrom (fuel : Nat) : ∀ {atLineStart : Bool} {scanner : Scanner} {found tokens : List Token}
    {text : Text}, Behind found scanner.position → scanFrom atLineStart scanner found fuel text = .ok tokens →
      InOrder tokens := by
  -- What is found stays behind the scanner in each round.
  induction fuel with
  | zero =>
    intro atLineStart scanner found tokens text behind scanned
    rw [scanFrom] at scanned
    cases scanned
    exact behind.inOrder
  | succ fuel ih =>
    intro atLineStart scanner found tokens text behind scanned
    cases atLineStart with
    | true =>
      obtain ⟨_, next, more, rest, round, later⟩ := exists_round_of_front scanned
      exact ih (behind.round round) later
    | false =>
      obtain rfl | ⟨_, next, more, rest, round, later⟩ := exists_round_of_within scanned
      · -- The token for the end is no string.
        exact Behind.inOrder (behind.cons (scanner.token _) le_rfl nofun)
      · exact ih (behind.round round) later

/-- The strings of a source stand one behind the other. -/
theorem inOrder_of_scan {source : Text} {tokens : List Token} (scanned : scan source = .ok tokens) :
    InOrder tokens := by
  -- Scanning starts without tokens, for which there is nothing to show.
  unfold scan at scanned
  split at scanned
  · cases scanned
  · exact inOrder_of_scanFrom _ ⟨.nil, List.forall_mem_nil _⟩ scanned

end AssetCatalog.Source
