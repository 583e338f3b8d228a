import AssetCatalog.Proofs.Source.Expression
import AssetCatalog.Source.Parser

/-! What the rules for patterns and statements give, and the grammar as a whole: well formed trees. -/

set_option mvcgen.warning false

namespace AssetCatalog.Source

open Reading

variable {rules : Rules}

namespace Rules

/-- A number with signs is well formed. -/
theorem gives_signedNumber : Gives signedNumber Node.WellFormed := by
  -- Two numbers with a sign between are parts of one construct.
  have spelling := gives_true numberSpelling
  rw [signedNumber]
  mvcgen [spelling, gives_number, gives_fail]
  all_goals simp_all

/-- A literal of a pattern is well formed. -/
theorem gives_literal (rules : Rules) : Gives rules.literal Node.WellFormed := by
  -- A word of a pattern has no parts, and the other literals are known.
  mvcgen [literal, gives_strings, gives_signedNumber]
  simp_all

/-- A well formed construct stays so with attributes behind it. -/
theorem wellFormed_foldl_attribute (spellings : List Text) : ∀ node : Node, node.WellFormed →
    (spellings.foldl (fun node spelling => ⟨.attribute (identifier spelling), [node]⟩) node).WellFormed := by
  -- Induction on the attributes, which each have the construct before as their part.
  induction spellings with
  | nil => exact fun _ shaped => shaped
  | cons spelling spellings ih => exact fun node shaped => ih _ (by simpa using shaped)

/-- A name with attributes is well formed. -/
theorem gives_dottedName : Gives dottedName Node.WellFormed := by
  -- What the names are does not matter.
  have rest := gives_true (behind (mark ".") name)
  mvcgen [dottedName, rest]
  simp_all [wellFormed_foldl_attribute]

/-- Names with commas between them are well formed. -/
theorem gives_names : Gives names Node.WellFormed := by
  -- The names are not parts of the construct, which has none.
  have found := gives_true (separated (mark ",") name)
  mvcgen [names, found]
  simp_all

/-- An import from a module is well formed. -/
theorem gives_importFrom : Gives importFrom Node.WellFormed := by
  -- Nothing of an import is kept.
  have dots (step : Reading (Option Unit)) := gives_true (many step)
  have path := gives_true modulePath
  have imported := gives_true importedNames
  mvcgen [importFrom, dots, path, imported]
  all_goals simp_all

/-- An import of modules is well formed. -/
theorem gives_importModules : Gives importModules Node.WellFormed := by
  -- What is imported are names, which are not parts of the construct.
  have found (item : Reading Unit) := gives_true (separated (mark ",") item)
  mvcgen [importModules, found]
  simp_all

section Given

variable (given : rules.WellFormed)

include given

/-- A pattern for the rest of a sequence is well formed. -/
theorem gives_starredPattern : Gives rules.starredPattern Node.WellFormed := by
  -- The name behind a star is passed.
  have capture := gives_true captureName
  have pattern := given.pattern
  mvcgen [starredPattern, capture, pattern]
  all_goals simp_all

/-- The patterns of a sequence are well formed if the first is. -/
theorem gives_sequenceFrom {first : Node} (shaped : first.WellFormed) :
    Gives (rules.sequenceFrom first) fun found => ∀ node ∈ found, node.WellFormed := by
  -- Behind a comma all patterns make a group, with the first one in front.
  have rest := (gives_starredPattern given).items startsPattern
  mvcgen [sequenceFrom, rest]
  all_goals simp_all

/-- A pattern in parentheses is well formed. -/
theorem gives_parenthesizedPattern : Gives rules.parenthesizedPattern Node.WellFormed := by
  -- A comma behind the first pattern makes a sequence, which may be missing.
  have first := gives_starredPattern given
  have rest (node : Node) (shaped : node.WellFormed) := gives_sequenceFrom given shaped
  mvcgen [parenthesizedPattern, first, rest]
  all_goals simp_all
  -- There is a sequence, or the first pattern stands by itself.
  cases ‹Option Node› <;> simp_all

/-- A key of a mapping and its pattern are well formed. -/
theorem gives_mappingItem :
    Gives rules.mappingItem fun found => ∀ entry ∈ found, entry.1.WellFormed ∧ entry.2.WellFormed := by
  -- A key is a literal or a name with attributes, and the rest of a mapping has none.
  have capture := gives_true captureName
  have literal := gives_literal rules
  have pattern := given.pattern
  mvcgen [mappingItem, capture, literal, gives_dottedName, pattern]
  all_goals simp_all

/-- A mapping is well formed. -/
theorem gives_mapping : Gives rules.mapping Node.WellFormed := by
  -- The keys and the patterns of the items are parted.
  have found starts := (gives_mappingItem given).items starts
  mvcgen [mapping, found]
  all_goals simp_all +zetaDelta
  grind

/-- An argument of a class pattern is well formed. -/
theorem gives_classItem : Gives rules.classItem fun found => found.2.WellFormed := by
  -- A name in front of the pattern is only noted.
  have pattern := given.pattern
  mvcgen [classItem, pattern]

/-- The arguments of a class pattern are well formed. -/
theorem gives_classItems : Gives rules.classItems fun found => ∀ node ∈ found, node.WellFormed := by
  -- The names in front of the patterns are dropped.
  have found := (gives_classItem given).items startsPattern
  mvcgen [classItems, found]
  all_goals grind

/-- A pattern without alternatives is well formed. -/
theorem gives_closedPattern : Gives rules.closedPattern Node.WellFormed := by
  -- Every kind of pattern is read by a rule that gives well formed trees.
  have literal := gives_literal rules
  have arguments := gives_classItems given
  have parenthesized := gives_parenthesizedPattern given
  have sequence := (gives_starredPattern given).items startsPattern
  have mapping := gives_mapping given
  mvcgen [closedPattern, literal, gives_dottedName, arguments, parenthesized, sequence, mapping]
  all_goals simp_all

/-- A pattern with a name is well formed. -/
theorem gives_patternWithName : Gives rules.patternWithName Node.WellFormed := by
  -- The alternatives make one construct, and the name behind them is passed.
  have found := (gives_closedPattern given).separated (mark "|")
  have capture := gives_true captureName
  mvcgen [patternWithName, found, capture]
  all_goals simp_all +zetaDelta [wellFormed_groupIfMany]

/-- The pattern of a case is well formed. -/
theorem gives_casePattern : Gives rules.casePattern Node.WellFormed := by
  -- A comma behind the first pattern makes a sequence.
  have first := gives_starredPattern given
  have rest (node : Node) (shaped : node.WellFormed) := gives_sequenceFrom given shaped
  mvcgen [casePattern, first, rest]
  all_goals simp_all

/-- What is assigned is well formed. -/
theorem gives_assigned : Gives rules.assigned Node.WellFormed :=
  gives_yieldOr given (gives_starExpressions given)

/-- An assignment is well formed, and so is a statement that is an expression. -/
theorem gives_assignment : Gives rules.assignment Node.WellFormed := by
  -- What is assigned to is read as what is assigned.
  have assigned := gives_assigned given
  have expression := given.expression
  have rest := (gives_assigned given).behind (mark "=")
  mvcgen [assignment, assigned, expression, rest]
  all_goals simp_all

/-- A deletion is well formed. -/
theorem gives_deletion : Gives rules.deletion Node.WellFormed := by
  -- What is deleted is one expression or the tuple of several.
  have found := gives_oneOrTuple startsExpression given.expression
  mvcgen [deletion, found]
  all_goals simp_all

/-- An assertion is well formed. -/
theorem gives_assertion : Gives rules.assertion Node.WellFormed := by
  -- A message is a second part, if it is there.
  have expression := given.expression
  mvcgen [assertion, expression]
  all_goals simp_all

/-- The raising of an error is well formed. -/
theorem gives_raising : Gives rules.raising Node.WellFormed := by
  -- Both the error and its cause may be missing.
  have optional := gives_expression? given
  have expression := given.expression
  mvcgen [raising, optional, expression]
  all_goals grind [Node.wellFormed_group]

/-- What a function returns is well formed. -/
theorem gives_returned : Gives rules.returned Node.WellFormed := by
  -- The value is the only part, if it is there.
  have expressions := gives_starExpressions given
  mvcgen [returned, expressions]
  all_goals simp_all

/-- A statement without blocks is well formed. -/
theorem gives_simpleStatement : Gives rules.simpleStatement Node.WellFormed := by
  -- Each keyword leads to a rule of its own, and anything else is an assignment.
  have returned := gives_returned given
  have raising := gives_raising given
  have deletion := gives_deletion given
  have assertion := gives_assertion given
  have assignment := gives_assignment given
  mvcgen [simpleStatement, returned, gives_importModules, gives_importFrom, raising, deletion, assertion, gives_names,
    assignment]
  all_goals simp_all

/-- The statements on a line from a place on are well formed. -/
theorem gives_lineFrom (fuel : Nat) : Gives (rules.lineFrom fuel) fun found => ∀ node ∈ found, node.WellFormed := by
  have first := gives_simpleStatement given
  -- One step reads one statement, and goes on behind a semicolon.
  induction fuel with
  | zero =>
    mvcgen [lineFrom]
    simp_all
  | succ fuel ih =>
    rw [lineFrom]
    mvcgen [first, ih]
    all_goals simp_all

/-- The statements on a line are well formed. -/
theorem gives_line : Gives rules.line fun found => ∀ node ∈ found, node.WellFormed := by
  have found := gives_lineFrom given
  mvcgen [line, found]

/-- The block behind a colon is well formed. -/
theorem gives_body : Gives rules.body fun found => ∀ node ∈ found, node.WellFormed := by
  have block := given.block
  mvcgen [body, block]

/-- The block behind a word is well formed. -/
theorem gives_bodyBehind (spelling : String) :
    Gives (rules.bodyBehind spelling) fun found => ∀ node ∈ found, node.WellFormed := by
  have body := gives_body given
  mvcgen [bodyBehind, body]
  simp_all

/-- A choice is well formed. -/
theorem gives_choice (fuel : Nat) : Gives (rules.choice fuel) Node.WellFormed := by
  have test := gives_namedExpression given
  have body := gives_body given
  have otherwise := gives_bodyBehind given
  -- One step reads one branch, with the branches behind it as another choice.
  induction fuel with
  | zero =>
    mvcgen [choice]
    simp_all
  | succ fuel ih =>
    rw [choice]
    mvcgen [test, body, otherwise, ih]
    all_goals grind [Node.wellFormed_group]

/-- A loop over a condition is well formed. -/
theorem gives_loop : Gives rules.loop Node.WellFormed := by
  -- The block for the end of the loop may be missing.
  have test := gives_namedExpression given
  have body := gives_body given
  have otherwise := gives_bodyBehind given
  mvcgen [loop, test, body, otherwise]
  grind [Node.wellFormed_group]

/-- A loop over an iterable is well formed. -/
theorem gives_iteration : Gives rules.iteration Node.WellFormed := by
  -- The parts of the loop are its target, what it runs over, its body and what comes behind it.
  have target := gives_targets given
  have iterable := gives_starExpressions given
  have body := gives_body given
  have otherwise := gives_bodyBehind given
  mvcgen [iteration, target, iterable, body, otherwise]
  grind [Node.wellFormed_group]

/-- A context is well formed. -/
theorem gives_context : Gives rules.context Node.WellFormed := by
  -- The target behind the word may be missing.
  have expression := given.expression
  have target := gives_starredOr given given.operand
  mvcgen [context, expression, target]
  all_goals simp_all

/-- The contexts of a statement are well formed. -/
theorem gives_contexts : Gives rules.contexts fun found => ∀ node ∈ found, node.WellFormed := by
  have context := gives_context given
  have rest := context.items startsExpression
  have found := context.separated (mark ",")
  -- Contexts come in parentheses, or else they are read as they stand.
  refine Gives.orElse ?_ ?_
  · mvcgen [context, rest]
    all_goals simp_all
  · mvcgen [found]

/-- A statement with contexts is well formed. -/
theorem gives_contextual : Gives rules.contextual Node.WellFormed := by
  -- The contexts and the statements of the block are parts of one construct.
  have found := gives_contexts given
  have block := given.block
  mvcgen [contextual, found, block]
  grind [Node.wellFormed_group]

/-- A handler of errors is well formed. -/
theorem gives_handler? (starred : Bool) :
    Gives (rules.handler? starred) fun found => ∀ node ∈ found, node.WellFormed := by
  -- The errors behind the word may be missing, and their name is passed.
  have body := gives_body given
  have expression := given.expression
  have named := gives_true alias?
  mvcgen [handler?, body, expression, named]
  all_goals simp_all

/-- A statement with handlers of errors is well formed. -/
theorem gives_guarded : Gives rules.guarded Node.WellFormed := by
  -- There may be blocks for the end with and without an error.
  have body := gives_body given
  have handlers starred := (gives_handler? given starred).many
  have otherwise := gives_bodyBehind given
  mvcgen [guarded, body, handlers, otherwise]
  all_goals grind [Node.wellFormed_group]

/-- A function is well formed if its decorators are. -/
theorem gives_function {decorators : List Node}
    (each : ∀ node ∈ decorators, node.WellFormed) : Gives (rules.function decorators) Node.WellFormed := by
  -- The parts of a function are its parameters, its block, its decorators and its annotation.
  have parameters := Parameters.gives_read given
  have expression := given.expression
  have body := gives_body given
  mvcgen [function, parameters, expression, body]
  all_goals grind [Node.wellFormed_group]

/-- A class is well formed if its decorators are. -/
theorem gives_classDefinition {decorators : List Node}
    (each : ∀ node ∈ decorators, node.WellFormed) : Gives (rules.classDefinition decorators) Node.WellFormed := by
  -- The parts of a class are its bases, its block and its decorators.
  have bases := gives_arguments given
  have body := gives_body given
  mvcgen [classDefinition, bases, body]
  all_goals grind [Node.wellFormed_group]

/-- Decorators are well formed. -/
theorem gives_decorators : Gives rules.decorators fun found => ∀ node ∈ found, node.WellFormed := by
  -- Each decorator is an expression with the end of its line behind.
  have named := gives_namedExpression given
  refine Gives.behind ?_ (mark "@")
  mvcgen [named]

/-- A function or a class with its decorators is well formed. -/
theorem gives_definition : Gives rules.definition Node.WellFormed := by
  -- What is decorated, a function or a class, has the decorators among its parts.
  have decorators := gives_decorators given
  have definition (decorators : List Node) (each : ∀ node ∈ decorators, node.WellFormed) := gives_function given each
  have classes (decorators : List Node) (each : ∀ node ∈ decorators, node.WellFormed) :=
    gives_classDefinition given each
  mvcgen [Rules.definition, decorators, definition, classes]
  all_goals simp_all

/-- A case of a match statement is well formed. -/
theorem gives_case? : Gives rules.case? fun found => ∀ node ∈ found, node.WellFormed := by
  -- A guard may stand between the pattern and the block.
  have pattern := gives_casePattern given
  have guard := gives_namedExpression given
  have body := gives_body given
  mvcgen [case?, pattern, guard, body]
  all_goals grind [Node.wellFormed_group]

/-- A match statement is well formed. -/
theorem gives_matching : Gives rules.matching Node.WellFormed := by
  -- The subject and the cases are parts of one construct.
  have element := gives_element given
  have rest := (gives_element given).items startsItem
  have cases := (gives_case? given).many
  mvcgen [matching, element, rest, cases]
  all_goals simp_all

/-- A statement that runs in a coroutine is well formed. -/
theorem gives_asynchronous : Gives rules.asynchronous Node.WellFormed := by
  -- Behind the word stands a loop, a statement with contexts or a function, which has no decorators here.
  have iteration := gives_iteration given
  have contextual := gives_contextual given
  have function : Gives (rules.function []) Node.WellFormed := gives_function given (by simp)
  mvcgen [asynchronous, iteration, contextual, function]

/-- The statements that one step gives are well formed. -/
theorem gives_statement : Gives rules.statement fun found => ∀ node ∈ found, node.WellFormed := by
  have line := gives_line given
  have one {step : Reading Node} (gives : Gives step Node.WellFormed) :
      Gives (do return [← step]) fun found => ∀ node ∈ found, node.WellFormed := by
    mvcgen [gives]
    simp_all
  have behind {step : Reading Node} (gives : Gives step Node.WellFormed) :
      Gives (do advance; step) Node.WellFormed := by
    mvcgen [gives]
  have choice : Gives (do rules.choice (← get).length.succ) Node.WellFormed := by
    have choice := gives_choice given
    mvcgen [choice]
  -- The first token tells which rule is followed, and a line is read where none is.
  rw [statement]
  refine Std.Do.Triple.bind _ _ gives_peek fun lexeme => ?_
  split
  · repeat' split
    · exact one (behind choice)
    · exact one (behind (gives_loop given))
    · exact one (behind (gives_iteration given))
    · exact one (behind (gives_contextual given))
    · exact one (behind (gives_guarded given))
    · exact one (behind (gives_asynchronous given))
    · exact one (gives_definition given)
    · exact line
  · exact one (gives_definition given)
  · split
    · -- The word of a match statement may be a name as well: then the line is read as any other.
      exact (one (gives_matching given)).orElse line
    · exact line
  · exact line

/-- The statements up to the end of a block are well formed. -/
theorem gives_statements : Gives rules.statements fun found => ∀ node ∈ found, node.WellFormed := by
  -- Statements are read while a token starts one, and none that is left out counts.
  have found starts := ((gives_statement given).whenever starts).many
  mvcgen [statements, found]
  simp_all
  grind

/-- A block of either form is well formed. -/
theorem gives_suite : Gives rules.suite fun found => ∀ node ∈ found, node.WellFormed := by
  -- A suite is an indented block, or the rest of the line.
  have statements := gives_statements given
  have line := gives_line given
  mvcgen [suite, statements, line]

end Given

/-- Rules that refuse everything give nothing that is not well formed. -/
theorem wellFormed_none : Rules.none.WellFormed := by
  constructor <;> exact gives_iff.mpr fun _ _ _ ended => (nomatch ended)

/-- Within any depth the rules give well formed trees. -/
theorem wellFormed_upTo (depth : Nat) : (Rules.upTo depth).WellFormed := by
  -- Each rule of one depth is made of those of the depth below it.
  induction depth with
  | zero => exact wellFormed_none
  | succ depth ih =>
    exact {
      expression := gives_conditional ih
      disjunction := gives_alternatives ih
      operand := gives_arithmetic ih
      negation := gives_inversion ih
      factor := gives_signed ih
      pattern := gives_patternWithName ih
      block := gives_suite ih }

end Rules

/-- The syntax tree of a source is well formed. -/
theorem wellFormed_of_parse {source : Text} {tree : Node} (parsed : parse source = .ok tree) : tree.WellFormed := by
  -- The file is read by the rules within a depth that its length allows.
  have statements := Rules.gives_statements (Rules.wellFormed_upTo (source.length + 16))
  have file : Gives (do
      let found ← (Rules.upTo (source.length + 16)).statements
      expect .finish
      return found) fun found => ∀ node ∈ found, node.WellFormed := by
    mvcgen [statements]
  -- A source that is scanned is a tree of statements up to its end, or it is refused.
  unfold parse at parsed
  cases scanned : scan source with
  | error fault => simp [scanned, Bind.bind, Except.bind] at parsed
  | ok tokens =>
    simp only [scanned, Bind.bind, Except.bind] at parsed
    split at parsed
    · next found rest ended =>
      cases parsed
      exact Node.wellFormed_group.mpr (gives_iff.mp file tokens found rest ended)
    · cases parsed

end AssetCatalog.Source
