import AssetCatalog.Module.Layout
import AssetCatalog.Proofs.Module.Literal
import AssetCatalog.Proofs.Module.Reader
import AssetCatalog.Source.Parser
import Mathlib.Algebra.Group.Nat.Even

/-! A literal as the language reads it: one string, which is the text that was quoted, and nothing behind it. -/

namespace AssetCatalog

namespace Text

/-- Without a carriage return there is no line break to unify. -/
theorem unifyBreaks_of_not_mem {text : Text} (absent : '\r' ∉ text) : unifyBreaks text = text := by
  -- Only a carriage return begins a break that is not a line feed.
  induction text with
  | nil => rfl
  | cons c rest ih =>
    obtain ⟨other, others⟩ := not_or.mp (List.mem_cons.not.mp absent)
    rw [unifyBreaks, ih others]
    · exact fun _ same => absurd same.symm other
    · exact fun same => absurd same.symm other

end Text

namespace Literal

/-- The number of backslashes at the end of a text; what follows is escaped where it is odd. -/
def backslashesAtEnd (text : Text) : Nat :=
  (text.reverse.takeWhile (· == '\\')).length

/-- A backslash is counted. -/
theorem backslashesAtEnd_backslash (text : Text) :
    backslashesAtEnd (text ++ ['\\']) = backslashesAtEnd text + 1 := by
  simp [backslashesAtEnd]

/-- Any other character ends the count. -/
theorem backslashesAtEnd_concat {c : Char} (other : c ≠ '\\') (text : Text) :
    backslashesAtEnd (text ++ [c]) = 0 := by
  simp [backslashesAtEnd, other]

/-- Behind what stands for one character nothing is escaped that was not before. -/
theorem even_escapeChar {front : Text} (even : Even (backslashesAtEnd front)) (c : Char) :
    Even (backslashesAtEnd (front ++ escapeChar c)) := by
  -- An escape by a letter ends in that letter, and the letter may be a backslash itself, which makes two.
  obtain ⟨letter, _, spelled⟩ | ⟨control, spelled⟩ | ⟨_, _, plain, spelled⟩ := escapeChar_cases c
  · rw [spelled, List.append_cons]
    by_cases double : letter = '\\'
    · rw [double, backslashesAtEnd_backslash, backslashesAtEnd_backslash]
      exact even.add (by decide : Even 2)
    · rw [backslashesAtEnd_concat double]
      exact Even.zero
  · -- The last digit of the number ends the count.
    have digit := (hexDigit_plain (n := c.toNat % 16) (by omega)).2.2
    have last : front ++ escapeChar c =
        (front ++ ['\\', 'u', '0', '0', hexDigit (c.toNat / 16)]) ++ [hexDigit (c.toNat % 16)] := by
      simp [spelled]
    rw [last, backslashesAtEnd_concat digit]
    exact Even.zero
  · rw [spelled, backslashesAtEnd_concat plain]
    exact Even.zero

/-- Behind what stands for a text nothing is escaped that was not before. -/
theorem even_escape (value : Text) : ∀ {front : Text}, Even (backslashesAtEnd front) →
    Even (backslashesAtEnd (front ++ escape value)) := by
  -- Character by character, each one with an even number of backslashes in front of it.
  induction value with
  | nil =>
    intro front even
    simpa [escape] using even
  | cons c rest ih =>
    intro front even
    have step := ih (even_escapeChar even c)
    rwa [List.append_assoc] at step

/-- A quote among the characters that stand for one character is the second of them, behind a backslash. -/
theorem eq_of_escapeChar_eq {c : Char} {before after : Text} (cut : escapeChar c = before ++ '"' :: after) :
    before = ['\\'] := by
  obtain ⟨letter, _, spelled⟩ | ⟨control, spelled⟩ | ⟨_, inside, _, spelled⟩ := escapeChar_cases c
  · -- An escape by a letter has two signs, and the first of them is the backslash.
    rw [spelled] at cut
    match before, cut with
    | [], cut => simp at cut
    | [first], cut => simpa using (List.cons.inj cut).1.symm
    | _ :: _ :: _, cut => simp at cut
  · -- No sign, letter or digit of a number is a quote.
    have high := (hexDigit_plain (n := c.toNat / 16) (by omega)).2.1
    have low := (hexDigit_plain (n := c.toNat % 16) (by omega)).2.1
    have member : '"' ∈ escapeChar c := by simp [cut]
    rw [spelled] at member
    simp [high.symm, low.symm] at member
  · have member : '"' ∈ escapeChar c := by simp [cut]
    rw [spelled, List.mem_singleton] at member
    exact absurd member.symm inside

/-- A quote between the quotes of a literal is escaped. -/
theorem odd_of_escape_eq (value : Text) : ∀ {front before after : Text}, Even (backslashesAtEnd front) →
    escape value = before ++ '"' :: after → ¬ Even (backslashesAtEnd (front ++ before)) := by
  -- The quote is among the characters that stand for the first character, or behind them.
  induction value with
  | nil =>
    intro front before after _ cut
    simp [escape] at cut
  | cons c rest ih =>
    intro front before after even cut
    rw [escape, List.flatMap_cons, List.append_eq_append_iff] at cut
    obtain ⟨further, rfl, later⟩ | ⟨further, here, later⟩ := cut
    · rw [← List.append_assoc]
      exact ih (even_escapeChar even c) later
    · -- Within what stands for the character there is one backslash in front of the quote.
      cases further with
      | nil =>
        have first : (escape rest).head? = some '"' := congrArg List.head? later.symm
        exact absurd first (head?_escape_ne rest)
      | cons sign further =>
        obtain ⟨rfl, -⟩ := List.cons.inj later
        rw [eq_of_escapeChar_eq here, backslashesAtEnd_backslash, Nat.even_add_one, not_not]
        exact even

/-- The quotes of a literal that are not escaped are its first and its last character. -/
theorem even_iff_of_quote_eq {value before after : Text} (cut : quote value = before ++ '"' :: after) :
    Even (backslashesAtEnd before) ↔ before = [] ∨ after = [] := by
  have opened : Even (backslashesAtEnd ['"']) := by decide
  -- The first quote has nothing in front of it, and the last one has all that the text is escaped to.
  cases before with
  | nil => simp [backslashesAtEnd]
  | cons first before =>
    obtain ⟨rfl, rest⟩ := List.cons.inj cut
    rcases List.eq_nil_or_concat after with rfl | ⟨within, last, rfl⟩
    · obtain ⟨rfl, -⟩ := List.append_inj' rest rfl
      simpa using even_escape value opened
    · have inside : escape value = before ++ '"' :: within := by
        have ends : escape value ++ ['"'] = (before ++ '"' :: within) ++ [last] := rest.trans (by simp)
        exact (List.append_inj' ends rfl).1
      -- A quote farther inside is one of the escaped text.
      have odd := odd_of_escape_eq value opened inside
      simpa using odd

end Literal

namespace Source

open AssetCatalog.Literal (quote escape)

/-- A string is taken whole where a literal stands, unless another quote makes its two quotes three. -/
theorem takeString_quote (scanner : Scanner) (value after : Text) (ends : after.head? ≠ some '"') :
    takeString scanner [] { body := [] } '"' (quote value ++ after) =
      .ok (.string { body := escape value }, quote value, after) := by
  -- Three quotes would open a longer string: an empty literal with one more quote behind it.
  have spelled : quote value ++ after = '"' :: (escape value ++ '"' :: after) := by simp [quote]
  have single : Text.startsWith (quote value ++ after) ['"', '"', '"'] = false := by
    have opens := Literal.head?_escape_ne value
    have apart {c : Char} (other : some c ≠ some '"') : ('"' == c) = false :=
      beq_eq_false_iff_ne.mpr fun same => other (congrArg some same.symm)
    rw [spelled]
    -- Behind an empty literal no third quote stands, and a filled one does not start with a quote.
    generalize escape value = body at opens
    rcases body with _ | ⟨c, body⟩
    · rcases after with _ | ⟨c, after⟩
      · rfl
      · simp [Text.startsWith, List.isPrefixOf, apart ends]
    · simp [Text.startsWith, List.isPrefixOf, apart opens]
  have closed : untilQuote? '"' ((quote value ++ after).drop 1) = some (escape value, after) := by
    rw [spelled]
    exact Literal.untilQuote?_escape_append value after
  simp only [takeString, single, closed]
  rfl

/-- A source without controls is scanned as one line that is ended. -/
theorem scan_eq {source : Text} (visible : Reader.Visible source) :
    scan source = scanFrom true {} [] (2 * source.length + 4) (source ++ ['\n']) := by
  -- No break has to be unified, and the line feed at the end is the one that is put there.
  have free (c : Char) (control : c.toNat < 0x20) : c ∉ source := fun member =>
    absurd (visible c member) (Nat.not_le.mpr control)
  have unended : source.getLast? ≠ some '\n' := fun last =>
    free '\n' (by decide) (List.mem_of_getLast? last)
  have length : 2 * (source ++ ['\n']).length + 2 = 2 * source.length + 4 := by simp; omega
  rw [scan, List.contains_eq_mem, decide_eq_false (free _ (by decide))]
  simp only [Text.unifyBreaks_of_not_mem (free '\r' (by decide)), unended, if_false, Bool.false_eq_true, length]

/-- A literal by itself is cut into one string, at the start, and the ends of the line and of the source. -/
theorem scan_quote (value : Text) :
    scan (quote value) = .ok [⟨.string { body := escape value }, {}⟩,
      ⟨.newline, Position.past {} (quote value)⟩, ⟨.finish, Position.past {} (quote value ++ ['\n'])⟩] := by
  -- The scanner passes the empty indentation, the string, the line feed, another indentation and the end.
  obtain ⟨fuel, enough⟩ : ∃ fuel, 2 * (quote value).length + 4 = fuel + 5 :=
    ⟨2 * (escape value).length + 3, by simp [quote]; omega⟩
  have taken : takeToken {} (quote value ++ ['\n']) =
      .ok (.string { body := escape value }, quote value, ['\n'], {}) :=
    congrArg (fun found : Except Fault (Lexeme × Text × Text) =>
      found.bind fun cut => .ok (cut.1, cut.2.1, cut.2.2, ({} : Scanner)))
      (takeString_quote {} value ['\n'] (by decide))
  have spelled : quote value ++ ['\n'] = '"' :: (escape value ++ ['"', '\n']) := by simp [quote]
  -- The round at the front finds no blanks, and the next one takes the string.
  have line : scanFrom true {} [] (fuel + 5) (quote value ++ ['\n']) =
      (takeToken {} (quote value ++ ['\n'])).bind fun taken =>
        scanFrom false (taken.2.2.2.past taken.2.1) [Scanner.token {} taken.1] (fuel + 3) taken.2.2.1 := by
    rw [spelled]
    rfl
  rw [scan_eq (Reader.visible_quote value), enough, line, taken, Position.past, Position.past, List.foldl_append]
  rfl

/-- The blanks in front of a comment are passed, each as wide as one column. -/
theorem takeIndentation_comment (text : Text) (width : Nat) : ∀ (found : Indentation) (passed : Text),
    takeIndentation found 0 passed (List.replicate width ' ' ++ '#' :: text) =
      .ok (⟨found.wide + width, found.narrow + width⟩, passed.reverse ++ List.replicate width ' ', '#' :: text) := by
  -- A blank makes the indentation one column wider, and a comment ends it.
  induction width with
  | zero => intros; simp [takeIndentation]
  | succ width ih =>
    intro found passed
    have step := ih ⟨found.wide + 1, found.narrow + 1⟩ (' ' :: passed)
    rw [List.replicate_succ, List.cons_append, takeIndentation, step]
    simp [Nat.add_assoc, Nat.add_comm width]

/-- A text without line feeds stays on its line. -/
theorem Position.line_past {text : Text} (free : '\n' ∉ text) (position : Position) :
    (position.past text).line = position.line := by
  -- Only a line feed leads to another line.
  induction text generalizing position with
  | nil => rfl
  | cons c rest ih =>
    obtain ⟨other, others⟩ := not_or.mp (List.mem_cons.not.mp free)
    have same : (position.step c).line = position.line := by rw [step, if_neg fun feed => other feed.symm]
    exact (ih others _).trans same

/-- Behind the blanks in front of a comment the scanner passes its characters and the line feed. -/
theorem scanFrom_of_takeIndentation {text passed rest : Text} {indentation : Indentation}
    (taken : takeIndentation {} 0 [] text = .ok (indentation, passed, '#' :: rest)) (fuel : Nat) (scanner : Scanner)
    (found : List Token) :
    scanFrom true scanner found (fuel + 1) text =
      scanFrom true ((scanner.past passed).past (('#' :: rest).takeWhile (· != '\n') ++ ['\n'])) found fuel
        (('#' :: rest).drop ((('#' :: rest).takeWhile (· != '\n')).length + 1)) := by
  -- Only the left side is unfolded, by one round at the start of a line.
  conv_lhs => unfold scanFrom
  simp only [if_true, taken]

/-- A comment ends with its line, however far it is indented, and no token is found in it. -/
theorem scanFrom_comment {text : Text} (free : '\n' ∉ text) (depth fuel : Nat) (scanner : Scanner) (found : List Token)
    (after : Text) : scanFrom true scanner found (fuel + 1) (Layout.indent depth ++ '#' :: text ++ '\n' :: after) =
      scanFrom true { scanner with position := ⟨scanner.position.line + 1, 0⟩ } found fuel after := by
  -- The comment is passed up to the line feed, which leads to the first column of the next line.
  have comment : ('#' :: (text ++ '\n' :: after)).takeWhile (· != '\n') = '#' :: text := by
    have inside : ∀ c ∈ '#' :: text, (c != '\n') = true := by
      intro c member
      rcases List.mem_cons.mp member with rfl | within
      · decide
      · exact bne_iff_ne.mpr fun same => free (same ▸ within)
    rw [← List.cons_append, List.takeWhile_append_of_pos inside]
    simp
  have behind : ('#' :: (text ++ '\n' :: after)).drop (('#' :: text).length + 1) = after := by simp
  have blanks : '\n' ∉ List.replicate (4 * depth) ' ' := fun member =>
    absurd (List.eq_of_mem_replicate member) (by decide)
  -- The column starts anew behind the line feed, wherever the comment stood.
  have next : (scanner.past (List.replicate (4 * depth) ' ')).past ('#' :: text ++ ['\n']) =
      { scanner with position := ⟨scanner.position.line + 1, 0⟩ } := by
    have line : ((scanner.position.past (List.replicate (4 * depth) ' ')).past ('#' :: text)).line =
        scanner.position.line := by
      rw [Position.line_past (by simpa using free), Position.line_past blanks]
    simp only [Scanner.past, Position.past, List.foldl_append, List.foldl_cons, List.foldl_nil] at line ⊢
    rw [Position.step, if_pos rfl, line]
  rw [List.append_assoc, List.cons_append, Layout.indent,
    scanFrom_of_takeIndentation (takeIndentation_comment _ _ _ _), comment, behind, List.reverse_nil, List.nil_append,
    next]

namespace Reading

/-- What one step reads is used by the next. -/
theorem bind_eq {α β : Type} {step : Reading α} {next : α → Reading β} {tokens rest : List Token} {found : α}
    (read : step tokens = .ok (found, rest)) : (step >>= next) tokens = next found rest := by
  simp only [Bind.bind, StateT.bind, Except.bind, read]

/-- A step may look at the token at hand first. -/
theorem bind_peek {α : Type} (next : Lexeme → Reading α) (token : Token) (tokens : List Token) :
    (peek >>= next) (token :: tokens) = next token.lexeme (token :: tokens) :=
  bind_eq rfl

/-- A token that is not at hand is not passed. -/
theorem accept_eq_false {lexeme : Lexeme} {token : Token} {tokens : List Token} (other : token.lexeme ≠ lexeme) :
    accept lexeme (token :: tokens) = .ok (false, token :: tokens) := by
  -- The token at hand is compared and stays.
  rw [accept, bind_peek, if_neg other]
  rfl

/-- A step is taken where the token at hand is one to go on with. -/
theorem whenever_eq_some {α : Type} {starts : Lexeme → Bool} {step : Reading α} {token : Token}
    {tokens rest : List Token} {found : α} (goes : starts token.lexeme = true)
    (read : step (token :: tokens) = .ok (found, rest)) :
    whenever starts step (token :: tokens) = .ok (some found, rest) := by
  -- The token at hand is looked at and stays, so the step begins with it.
  rw [whenever, bind_peek, if_pos goes, bind_eq read]
  rfl

/-- No step is taken where the token at hand is none to go on with. -/
theorem whenever_eq_none {α : Type} {starts : Lexeme → Bool} {token : Token} {tokens : List Token}
    (stops : starts token.lexeme = false) (step : Reading α) :
    whenever starts step (token :: tokens) = .ok (none, token :: tokens) := by
  -- The token at hand is looked at and stays.
  rw [whenever, bind_peek, stops]
  rfl

/-- A step that gives nothing ends a repetition before it starts. -/
theorem many_eq_nil {α : Type} {step : Reading (Option α)} {tokens : List Token}
    (nothing : step tokens = .ok (none, tokens)) : many step tokens = .ok ([], tokens) := by
  -- There is fuel for one step at least, and the first one already gives nothing.
  change repeatSteps step (tokens.length + 1) tokens = _
  exact (bind_eq nothing).trans rfl

/-- A step that gives something once, and then nothing, is repeated once. -/
theorem many_eq_singleton {α : Type} {step : Reading (Option α)} {tokens rest : List Token} {found : α}
    (once : step tokens = .ok (some found, rest)) (nothing : step rest = .ok (none, rest)) :
    many step tokens = .ok ([found], rest) := by
  -- Where nothing is found the first time, it is not found later, whatever the number of steps that are left.
  have again : repeatSteps step tokens.length rest = .ok ([], rest) := by
    cases tokens.length with
    | zero => rfl
    | succ fuel => exact (bind_eq nothing).trans rfl
  change repeatSteps step (tokens.length + 1) tokens = _
  exact (bind_eq once).trans ((bind_eq again).trans rfl)

end Reading

/-- A source of one string and nothing else. -/
structure Alone where
  /-- The string. -/
  quotation : Quotation
  /-- Where it starts. -/
  place : Position
  /-- Where its line ends. -/
  lineEnd : Position
  /-- Where the source ends. -/
  sourceEnd : Position

namespace Alone

open Reading

/-- The tokens behind the string. -/
def ending (alone : Alone) : List Token :=
  [⟨.newline, alone.lineEnd⟩, ⟨.finish, alone.sourceEnd⟩]

/-- The tokens of the source. -/
def tokens (alone : Alone) : List Token :=
  ⟨.string alone.quotation, alone.place⟩ :: alone.ending

/-- A rule reads the string, and nothing behind it. -/
def ReadBy {α : Type} (alone : Alone) (rule : Reading α) (found : α) : Prop :=
  rule alone.tokens = .ok (found, alone.ending)

namespace ReadBy

variable {α β : Type} {alone : Alone} {rules : Rules} {node : Node}

/-- A rule may go on behind the string, as long as it finds nothing there. -/
theorem andThen {rule : Reading α} {next : α → Reading β} {found : α} {result : β} (read : alone.ReadBy rule found)
    (ended : next found alone.ending = .ok (result, alone.ending)) : alone.ReadBy (rule >>= next) result :=
  (bind_eq read).trans ended

/-- A rule may look for a word or a mark first, which is not there. -/
theorem without {lexeme : Lexeme} {next : Bool → Reading α} {found : α} (other : .string alone.quotation ≠ lexeme)
    (read : alone.ReadBy (next false) found) : alone.ReadBy (accept lexeme >>= next) found :=
  (bind_eq (accept_eq_false other)).trans read

/-- Among items with words or marks between them the string is the only one. -/
theorem separated {lexeme : Lexeme} {item : Reading α} {found : α} (other : .newline ≠ lexeme)
    (read : alone.ReadBy item found) : alone.ReadBy (Reading.separated lexeme item) [found] :=
  have rest : behind lexeme item alone.ending = .ok ([], alone.ending) :=
    many_eq_nil ((bind_eq (accept_eq_false other)).trans rfl)
  andThen read (bind_eq rest)

/-- The string is the text that the characters between its quotes stand for. -/
theorem strings {value : Text} (plain : alone.quotation = { body := alone.quotation.body })
    (decoded : Literal.decode alone.quotation.body = .ok value) :
    alone.ReadBy rules.strings ⟨.text value alone.place, []⟩ := by
  -- One string is found, and its value is what its characters decode to.
  have found : many Rules.string? alone.tokens = .ok ([(alone.quotation, alone.place)], alone.ending) :=
    many_eq_singleton rfl rfl
  have spelled : rules.quotationValue alone.place.line alone.quotation alone.ending = .ok (value, alone.ending) := by
    rw [plain]
    simp only [Rules.quotationValue, Bool.false_eq_true, if_false, Rules.plainValue, Rules.orFail, decoded]
    rfl
  -- The value is that of the one string there is.
  have values : ([(alone.quotation, alone.place)].mapM fun ((quotation, place) : Quotation × Position) =>
      rules.quotationValue place.line quotation) alone.ending = .ok ([value], alone.ending) := by
    rw [List.mapM_cons]
    exact (bind_eq spelled).trans rfl
  refine (bind_eq found).trans ((bind_eq values).trans ?_)
  rw [plain]
  simp only [Bool.bne_false, List.any_nil, Bool.false_eq_true, if_false, List.any_cons, Bool.or_self,
    List.flatten_cons, List.flatten_nil, List.append_nil]
  rfl

/-- An atom may be the string. -/
theorem atom (read : alone.ReadBy rules.strings node) : alone.ReadBy rules.atom node :=
  read

/-- Nothing is attached to the string. -/
theorem primary (read : alone.ReadBy rules.atom node) : alone.ReadBy rules.primary node :=
  andThen read rfl

/-- The string is not awaited, and it is no base of a power. -/
theorem power (read : alone.ReadBy rules.primary node) : alone.ReadBy rules.power node :=
  without nofun (andThen read rfl)

/-- The string has no sign. -/
theorem signed (read : alone.ReadBy rules.power node) : alone.ReadBy rules.signed node :=
  read

/-- The string is the only operand. -/
theorem chain (operators : List String) {operand : Reading Node} (read : alone.ReadBy operand node) :
    alone.ReadBy (Rules.chain operators operand) node := by
  -- The end of a line is no operator, so no further operand is read.
  have other : (operators.any fun operator => decide (Lexeme.newline = mark operator)) = false := by
    simp [mark]
  have rest : many (whenever (fun lexeme => operators.any fun operator => lexeme = mark operator)
      (do advance; operand)) alone.ending = .ok ([], alone.ending) :=
    many_eq_nil (whenever_eq_none other _)
  exact andThen read (bind_eq rest)

/-- Arithmetic may be the string, which has no operator of any rank behind it. -/
theorem arithmetic (read : alone.ReadBy rules.signed node) : alone.ReadBy rules.arithmetic node :=
  chain _ (chain _ (chain _ (chain _ (chain _ (chain _ read)))))

/-- The string is not compared. -/
theorem comparison (read : alone.ReadBy rules.arithmetic node) : alone.ReadBy rules.comparison node :=
  andThen read rfl

/-- The string is not negated. -/
theorem inversion (read : alone.ReadBy rules.comparison node) : alone.ReadBy rules.inversion node :=
  without nofun read

/-- The string is the only alternative, and the only part of it. -/
theorem alternatives (read : alone.ReadBy rules.inversion node) : alone.ReadBy rules.alternatives node :=
  andThen (separated nofun (andThen (separated nofun read) rfl)) rfl

/-- The string is not an outcome of a condition. -/
theorem conditional (read : alone.ReadBy rules.alternatives node) : alone.ReadBy rules.conditional node :=
  without nofun (andThen read rfl)

/-- The string is not unpacked, and there is no tuple. -/
theorem starExpressions (read : alone.ReadBy rules.expression node) : alone.ReadBy rules.starExpressions node :=
  andThen (without nofun read) rfl

/-- The string is not yielded. -/
theorem assigned (read : alone.ReadBy rules.starExpressions node) : alone.ReadBy rules.assigned node :=
  without nofun read

/-- Nothing is assigned, so the string makes a statement by itself. -/
theorem assignment (read : alone.ReadBy rules.assigned node) :
    alone.ReadBy rules.assignment ⟨.expression, [node]⟩ :=
  andThen read rfl

/-- A statement with a word of its own does not start with the string. -/
theorem simpleStatement (read : alone.ReadBy rules.assignment node) : alone.ReadBy rules.simpleStatement node :=
  read

/-- The statement is the only one, and the source ends behind its line. -/
theorem statements (read : alone.ReadBy rules.simpleStatement node) :
    rules.statements alone.tokens = .ok ([node], [⟨.finish, alone.sourceEnd⟩]) := by
  -- The line holds the statement, and behind it are no more tokens than the end of the source.
  have line : rules.lineFrom 4 alone.tokens = .ok ([node], [⟨.finish, alone.sourceEnd⟩]) :=
    (bind_eq read).trans rfl
  have one : rules.statement alone.tokens = .ok ([node], [⟨.finish, alone.sourceEnd⟩]) := line
  have all : many (whenever (fun lexeme => !(decide (lexeme = .dedent) || decide (lexeme = .finish))) rules.statement)
      alone.tokens = .ok ([[node]], [⟨.finish, alone.sourceEnd⟩]) :=
    many_eq_singleton (whenever_eq_some rfl one) (whenever_eq_none rfl _)
  exact (bind_eq all).trans rfl

end ReadBy

/-- A source of one string is one statement with the text that the string stands for. -/
theorem parse_eq (alone : Alone) {source value : Text} (scanned : scan source = .ok alone.tokens)
    (plain : alone.quotation = { body := alone.quotation.body })
    (decoded : Literal.decode alone.quotation.body = .ok value) :
    parse source = .ok (.group [⟨.expression, [⟨.text value alone.place, []⟩]⟩]) := by
  -- Expressions take one level of the rules, and the statement around them another.
  have expression : alone.ReadBy (Rules.upTo (source.length + 16)).expression ⟨.text value alone.place, []⟩ :=
    (ReadBy.strings plain decoded).atom.primary.power.signed.arithmetic.comparison.inversion.alternatives.conditional
  have file : (do
      let found ← (Rules.upTo (source.length + 16)).statements
      expect .finish
      return found : Reading (List Node)) alone.tokens = .ok ([⟨.expression, [⟨.text value alone.place, []⟩]⟩], []) :=
    (bind_eq expression.starExpressions.assigned.assignment.simpleStatement.statements).trans rfl
  simp only [Bind.bind] at file
  simp only [parse, scanned, Bind.bind, Except.bind, StateT.run, file]
  rfl

end Alone

/-- A literal by itself is one statement, the text that was quoted. -/
theorem parse_quote (value : Text) :
    parse (quote value) = .ok (.group [⟨.expression, [⟨.text value {}, []⟩]⟩]) :=
  Alone.parse_eq ⟨{ body := escape value }, {}, _, _⟩ (scan_quote value) rfl
    (Literal.decode_escape value)

end Source

namespace Literal

/-- A literal is free of controls, its only quotes that are not escaped enclose it, and the language reads it to its
end as the text that was quoted; what is between the quotes does not end the line of a comment that it is in. -/
theorem quote_isLiteral (value : Text) :
    (∀ c ∈ quote value, 0x20 ≤ c.toNat) ∧
    (∀ before after, quote value = before ++ '"' :: after →
      (Even (backslashesAtEnd before) ↔ before = [] ∨ after = [])) ∧
    Source.parse (quote value) = .ok (.group [⟨.expression, [⟨.text value {}, []⟩]⟩]) ∧
    (quote value).tail.dropLast = escape value ∧
    ∀ depth fuel (scanner : Source.Scanner) found after,
      Source.scanFrom true scanner found (fuel + 1)
          (Layout.indent depth ++ "#: Path: ".toList ++ escape value ++ '\n' :: after) =
        Source.scanFrom true { scanner with position := ⟨scanner.position.line + 1, 0⟩ } found fuel after := by
  refine ⟨Reader.visible_quote value, fun _ _ => even_iff_of_quote_eq, Source.parse_quote value, ?_, ?_⟩
  · rw [quote, List.cons_append, List.tail_cons, List.dropLast_concat]
  · -- No sign of the comment ends the line, so the scanner passes it whole.
    intro depth fuel scanner found after
    have word : Reader.Visible ": Path: ".toList := by decide
    have free : '\n' ∉ ": Path: ".toList ++ escape value := fun member =>
      absurd ((Reader.visible_append _ _).mpr ⟨word, Reader.visible_escape value⟩ _ member) (by decide)
    have spelled : "#: Path: ".toList = '#' :: ": Path: ".toList := rfl
    rw [List.append_assoc (Layout.indent depth), spelled]
    exact Source.scanFrom_comment free depth fuel scanner found after

end Literal

end AssetCatalog
