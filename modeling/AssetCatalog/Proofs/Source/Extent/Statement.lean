import AssetCatalog.Proofs.Source.Extent.Expression

/-! What the rules for patterns and statements read, and the grammar as a whole: constructs one behind the other. -/

set_option mvcgen.warning false

namespace AssetCatalog.Source

open Reading

variable {rules : Rules}

namespace Rules

/-- A captured name is no construct. -/
theorem reads_captureName : Reads captureName fun _ => [] := by
  refine reads_of_startingAt fun before => ?_
  mvcgen [captureName]
  -- A name is passed, and no string is among what can be captured.
  all_goals grind

/-- The spelling of a number is left where it is. -/
theorem reads_numberSpelling : Reads numberSpelling fun _ => [] := by
  refine reads_of_startingAt fun before => ?_
  mvcgen [numberSpelling]
  -- Only the token at hand is looked at.
  all_goals grind

/-- A number is read with its signs. -/
theorem reads_signedNumber : Reads signedNumber fun found => [found] := by
  -- A complex number is two spellings of numbers with a sign between.
  refine reads_of_startingAt fun before => ?_
  have spelling := reads_numberSpelling.startingAt
  have number spelling := (reads_number spelling).startingAt
  rw [signedNumber]
  mvcgen [spelling, number, startingAt_fail]
  all_goals grind

/-- A literal of a pattern is read as one construct. -/
theorem reads_literal (rules : Rules) : Reads rules.literal fun found => [found] := by
  -- Strings come first, then constants by their words, and all else is a number.
  refine reads_of_startingAt fun before => ?_
  have strings := (reads_strings rules).startingAt
  have number := reads_signedNumber.startingAt
  mvcgen [literal, strings, number]
  all_goals grind

/-- A construct that has been read is the innermost of the attributes that are put behind it. -/
theorem passed_foldl_attribute {start now : List Token} (spellings : List Text) : ∀ {node : Node},
    Passed start now [node] →
      Passed start now [spellings.foldl (fun node spelling => ⟨.attribute (identifier spelling), [node]⟩) node] := by
  -- Induction on the attributes, which each hold the construct before as their only part.
  induction spellings with
  | nil => exact id
  | cons spelling spellings ih => exact fun passed => ih (.node [_] passed rfl)

/-- A name is read with its attributes. -/
theorem reads_dottedName : Reads dottedName fun found => [found] := by
  -- The names behind the dots are read as no constructs of their own.
  refine reads_of_startingAt fun before => ?_
  have rest := (reads_name.behind (mark ".")).nothing.startingAt
  mvcgen [dottedName, rest]
  all_goals grind [passed_foldl_attribute]

/-- Names with commas between them are read as one construct. -/
theorem reads_names : Reads names fun found => [found] := by
  -- Names are passed one by one and leave one construct for all.
  refine reads_of_startingAt fun before => ?_
  have found := (reads_name.separated (mark ",")).nothing.startingAt
  mvcgen [names, found]
  all_goals grind

/-- The path of a module is no construct. -/
theorem reads_modulePath : Reads modulePath fun _ => [] := by
  -- Names with dots between them are only passed.
  refine reads_of_startingAt fun before => ?_
  have found := (reads_name.separated (mark ".")).nothing.startingAt
  mvcgen [modulePath, found]
  all_goals grind

/-- Another name for what is imported is no construct. -/
theorem reads_alias? : Reads alias? fun _ => [] := by
  refine reads_of_startingAt fun before => ?_
  mvcgen [alias?]
  -- The word and the name are passed, if they are there.
  all_goals grind

/-- The names that are imported are no constructs. -/
theorem reads_importedNames : Reads importedNames fun _ => [] := by
  -- A name and what it is called are tokens without a construct, and so are all of them together.
  have one : Reads (do let _ ← name; alias?) fun _ => [] := by
    refine reads_of_startingAt fun before => ?_
    have other := reads_alias?.startingAt
    mvcgen [other]
    all_goals grind
  refine reads_of_startingAt fun before => ?_
  have other := reads_alias?.startingAt
  have rest := (one.items startsExpression).nothing.startingAt
  have found := (one.separated (mark ",")).nothing.startingAt
  mvcgen [importedNames, other, rest, found]
  all_goals grind

/-- An import from a module is read as one construct. -/
theorem reads_importFrom : Reads importFrom fun found => [found] := by
  -- The dots in front of the path tell the level of the import, and are no construct.
  have dots : Reads (many do
      if ← accept (mark ".") then return some ()
      else if ← accept (mark "...") then return some ()
      else return .none) fun _ => [] := by
    refine Reads.nothing (Reads.many (reads_of_startingAt fun before => ?_))
    mvcgen
    all_goals grind
  refine reads_of_startingAt fun before => ?_
  have dots := dots.startingAt
  have path := reads_modulePath.startingAt
  have imported := reads_importedNames.startingAt
  -- What is imported are names, so that the construct has no parts.
  mvcgen [importFrom, dots, path, imported]
  all_goals grind

/-- An import of modules is read as one construct. -/
theorem reads_importModules : Reads importModules fun found => [found] := by
  -- Paths of modules and their other names leave no node behind.
  have one : Reads (do modulePath; alias?) fun _ => [] := by
    refine reads_of_startingAt fun before => ?_
    have path := reads_modulePath.startingAt
    have other := reads_alias?.startingAt
    mvcgen [path, other]
    all_goals grind
  refine reads_of_startingAt fun before => ?_
  have found := (one.separated (mark ",")).nothing.startingAt
  mvcgen [importModules, found]
  all_goals grind

section Given

variable (given : rules.Ordered)

include given

/-- A pattern is read with the sign for the rest of a sequence. -/
theorem reads_starredPattern : Reads rules.starredPattern fun found => [found] := by
  -- Behind the star stands a name, which is no construct.
  refine reads_of_startingAt fun before => ?_
  have capture := reads_captureName.startingAt
  have pattern := given.pattern.startingAt
  mvcgen [starredPattern, capture, pattern]
  all_goals grind

/-- The patterns of a sequence are read behind the first one. -/
theorem startingAt_sequenceFrom (first : Node) (before : List Token) :
    StartingAt before (rules.sequenceFrom first) fun found after =>
      ∀ start, Passed start before [first] → Passed start after [found.getD first] := by
  have rest := ((reads_starredPattern given).items startsPattern).nodes.startingAt
  mvcgen [sequenceFrom, rest]
  -- Without a comma the first pattern stands by itself.
  all_goals grind

/-- A pattern in parentheses is read as one construct. -/
theorem reads_parenthesizedPattern : Reads rules.parenthesizedPattern fun found => [found] := by
  -- A comma behind the first pattern makes a sequence.
  refine reads_of_startingAt fun before => ?_
  have first := (reads_starredPattern given).startingAt
  have rest := startingAt_sequenceFrom given
  mvcgen [parenthesizedPattern, first, rest]
  all_goals grind

/-- A key of a mapping is read before its pattern. -/
theorem reads_mappingItem :
    Reads rules.mappingItem fun found => found.toList.flatMap fun entry => [entry.1] ++ [entry.2] := by
  -- The rest of the mapping is a name, and any other key stands in front of its pattern.
  refine reads_of_startingAt fun before => ?_
  have capture := reads_captureName.startingAt
  have literal := (reads_literal rules).startingAt
  have name := reads_dottedName.startingAt
  have pattern := given.pattern.startingAt
  mvcgen [mappingItem, capture, literal, name, pattern]
  all_goals grind

/-- The entries of a mapping are read as they stand, although all keys come in front of the patterns. -/
theorem reads_mapping : Reads rules.mapping fun found => [found] := by
  refine reads_of_startingAt fun before => ?_
  have found starts := ((reads_mappingItem given).items starts).startingAt
  -- The entries are read key by pattern, and held with all keys first.
  have apart (found : List (Option (Node × Node))) :
      (found.flatMap fun one => one.toList.flatMap fun entry => [entry.1] ++ [entry.2]).Perm
        ((found.filterMap id).map Prod.fst ++ (found.filterMap id).map Prod.snd) := by
    have entries := perm_entries (fun entry : Node × Node => [entry.1]) Prod.snd (found.filterMap id)
    rw [← List.map_eq_flatMap] at entries
    refine .trans (.of_eq ?_) entries
    rw [List.filterMap_eq_flatMap_toList, List.flatMap_assoc]
    rfl
  -- The whole is a group, which is free in the order of its parts.
  mvcgen [mapping, found]
  all_goals grind [→ Passed.regroup]

/-- An argument of a class pattern is read as one construct. -/
theorem reads_classItem : Reads rules.classItem fun found => [found.2] := by
  -- The name in front of a pattern is no construct.
  refine reads_of_startingAt fun before => ?_
  have pattern := given.pattern.startingAt
  mvcgen [classItem, pattern]
  all_goals grind

/-- The arguments of a class pattern are read as they stand. -/
theorem reads_classItems : Reads rules.classItems fun found => found := by
  -- The items come with their names, which are dropped.
  refine reads_of_startingAt fun before => ?_
  have found := ((reads_classItem given).items startsPattern).map.startingAt
  mvcgen [classItems, found]
  all_goals grind

/-- A pattern without alternatives is read as one construct. -/
theorem reads_closedPattern : Reads rules.closedPattern fun found => [found] := by
  refine reads_of_startingAt fun before => ?_
  have literal := (reads_literal rules).startingAt
  -- A name that only captures what is matched is no part of the pattern.
  have name before : StartingAt before dottedName fun found after =>
      Lies before after [found] ∧ Lies before after [] :=
    startingAt_iff.mpr fun found after ended =>
      have lies := reads_dottedName before found after ended
      ⟨lies, lies.none⟩
  have arguments := (reads_classItems given).startingAt
  have parenthesized := (reads_parenthesizedPattern given).startingAt
  have sequence := ((reads_starredPattern given).items startsPattern).nodes.startingAt
  have mapping := (reads_mapping given).startingAt
  -- Each form of a pattern is told by its first token.
  mvcgen [closedPattern, literal, name, arguments, parenthesized, sequence, mapping]
  all_goals grind

/-- The alternatives of a pattern are read as they stand, with the name for all of it. -/
theorem reads_patternWithName : Reads rules.patternWithName fun found => [found] := by
  -- The alternatives stand between bars, and the name behind them is no construct.
  refine reads_of_startingAt fun before => ?_
  have found := ((reads_closedPattern given).separated (mark "|")).nodes.startingAt
  have capture := reads_captureName.startingAt
  mvcgen [patternWithName, found, capture]
  all_goals grind

/-- The pattern of a case is read as one construct. -/
theorem reads_casePattern : Reads rules.casePattern fun found => [found] := by
  -- A comma behind the first pattern makes a sequence without brackets.
  refine reads_of_startingAt fun before => ?_
  have first := (reads_starredPattern given).startingAt
  have rest := startingAt_sequenceFrom given
  mvcgen [casePattern, first, rest]
  all_goals grind

/-- What is assigned is read as one construct. -/
theorem reads_assigned : Reads rules.assigned fun found => [found] :=
  reads_yieldOr given (reads_starExpressions given)

/-- The sides of an assignment are read as they stand, and so is a statement that is an expression. -/
theorem reads_assignment : Reads rules.assignment fun found => [found] := by
  -- The targets come before the value, as they are spelled.
  refine reads_of_startingAt fun before => ?_
  have assigned := (reads_assigned given).startingAt
  have expression := given.expression.startingAt
  have rest := ((reads_assigned given).behind (mark "=")).nodes.startingAt
  mvcgen [assignment, assigned, expression, rest]
  all_goals grind

/-- What a deletion removes is read as one construct. -/
theorem reads_deletion : Reads rules.deletion fun found => [found] := by
  -- The targets are expressions, one or several with commas.
  refine reads_of_startingAt fun before => ?_
  have found := (reads_oneOrTuple startsExpression given.expression).startingAt
  mvcgen [deletion, found]
  all_goals grind

/-- The condition of an assertion is read before its message. -/
theorem reads_assertion : Reads rules.assertion fun found => [found] := by
  -- The message behind the comma may be missing.
  refine reads_of_startingAt fun before => ?_
  have expression := given.expression.startingAt
  mvcgen [assertion, expression]
  all_goals grind

/-- An error that is raised is read before its cause. -/
theorem reads_raising : Reads rules.raising fun found => [found] := by
  -- The cause stands behind a word and may be missing.
  refine reads_of_startingAt fun before => ?_
  have optional := (reads_expression? given).startingAt
  have expression := given.expression.startingAt
  mvcgen [raising, optional, expression]
  all_goals grind

/-- What a function returns is read as one construct. -/
theorem reads_returned : Reads rules.returned fun found => [found] := by
  -- The value may be missing.
  refine reads_of_startingAt fun before => ?_
  have expressions := (reads_starExpressions given).startingAt
  mvcgen [returned, expressions]
  all_goals grind

/-- A statement without blocks is read as one construct. -/
theorem reads_simpleStatement : Reads rules.simpleStatement fun found => [found] := by
  -- Each keyword leads to one rule, which reads its parts in the order in which they are spelled.
  refine reads_of_startingAt fun before => ?_
  have returned := (reads_returned given).startingAt
  have modules := reads_importModules.startingAt
  have imported := reads_importFrom.startingAt
  have raising := (reads_raising given).startingAt
  have deletion := (reads_deletion given).startingAt
  have assertion := (reads_assertion given).startingAt
  have names := reads_names.startingAt
  have assignment := (reads_assignment given).startingAt
  mvcgen [simpleStatement, returned, modules, imported, raising, deletion, assertion, names, assignment]
  all_goals grind

/-- The statements on a line from a place on are read one behind the other. -/
theorem reads_lineFrom (fuel : Nat) : Reads (rules.lineFrom fuel) fun found => found := by
  -- A line without steps left is refused, and otherwise one statement is read and the line goes on.
  have first := (reads_simpleStatement given).startingAt
  induction fuel with
  | zero => exact fun _ _ _ ended => (nomatch ended)
  | succ fuel ih =>
    refine reads_of_startingAt fun before => ?_
    have rest := ih.startingAt
    rw [lineFrom]
    mvcgen [first, rest]
    all_goals grind

/-- The statements on a line are read one behind the other. -/
theorem reads_line : Reads rules.line fun found => found := by
  -- The number of statements is bounded by the tokens.
  refine reads_of_startingAt fun before => ?_
  have found fuel := (reads_lineFrom given fuel).startingAt
  mvcgen [line, found]
  all_goals grind

/-- The block behind a colon is read one statement behind the other. -/
theorem reads_body : Reads rules.body fun found => found := by
  -- The block is given by the rules, behind its colon.
  refine reads_of_startingAt fun before => ?_
  have block := given.block.startingAt
  mvcgen [body, block]
  all_goals grind

/-- The block behind a word is read one statement behind the other. -/
theorem reads_bodyBehind (spelling : String) : Reads (rules.bodyBehind spelling) fun found => found := by
  -- Without the word there is no block.
  refine reads_of_startingAt fun before => ?_
  have body := (reads_body given).startingAt
  mvcgen [bodyBehind, body]
  all_goals grind

/-- The condition of a choice is read before its blocks. -/
theorem reads_choice (fuel : Nat) : Reads (rules.choice fuel) fun found => [found] := by
  have test := (reads_namedExpression given).startingAt
  have body := (reads_body given).startingAt
  have otherwise spelling := (reads_bodyBehind given spelling).startingAt
  -- Another branch is a choice of its own behind the blocks that have been read.
  induction fuel with
  | zero => exact fun _ _ _ ended => (nomatch ended)
  | succ fuel ih =>
    refine reads_of_startingAt fun before => ?_
    have further := ih.startingAt
    rw [choice]
    mvcgen [test, body, otherwise, further]
    all_goals grind

/-- The condition of a loop is read before its blocks. -/
theorem reads_loop : Reads rules.loop fun found => [found] := by
  -- The block for the end of the loop may be missing.
  refine reads_of_startingAt fun before => ?_
  have test := (reads_namedExpression given).startingAt
  have body := (reads_body given).startingAt
  have otherwise spelling := (reads_bodyBehind given spelling).startingAt
  mvcgen [loop, test, body, otherwise]
  all_goals grind

/-- The target and the iterable of a loop are read before its blocks. -/
theorem reads_iteration : Reads rules.iteration fun found => [found] := by
  -- The target comes in front of the iterable in the tree as in the source.
  refine reads_of_startingAt fun before => ?_
  have target := (reads_targets given).startingAt
  have iterable := (reads_starExpressions given).startingAt
  have body := (reads_body given).startingAt
  have otherwise spelling := (reads_bodyBehind given spelling).startingAt
  mvcgen [iteration, target, iterable, body, otherwise]
  all_goals grind

/-- A context is read before its target. -/
theorem reads_context : Reads rules.context fun found => [found] := by
  -- The target stands behind a word and may be missing.
  refine reads_of_startingAt fun before => ?_
  have expression := given.expression.startingAt
  have target := (reads_starredOr given given.operand).startingAt
  mvcgen [context, expression, target]
  all_goals grind

/-- The contexts of a statement are read one behind the other, in parentheses or not. -/
theorem reads_contexts : Reads rules.contexts fun found => found := by
  have context := (reads_context given).startingAt
  have rest := ((reads_context given).items startsExpression).nodes.startingAt
  have found := ((reads_context given).separated (mark ",")).nodes.startingAt
  -- What is tried first in parentheses is read again without them if that fails, from the same token on.
  refine Reads.orElse ?_ ?_
  · refine reads_of_startingAt fun before => ?_
    mvcgen [context, rest]
    all_goals grind
  · refine reads_of_startingAt fun before => ?_
    mvcgen [found]
    all_goals grind

/-- The contexts of a statement are read before its block. -/
theorem reads_contextual : Reads rules.contextual fun found => [found] := by
  -- All contexts stand in front of the colon.
  refine reads_of_startingAt fun before => ?_
  have found := (reads_contexts given).startingAt
  have block := given.block.startingAt
  mvcgen [contextual, found, block]
  all_goals grind

/-- The errors of a handler are read before its block. -/
theorem reads_handler? (starred : Bool) :
    Reads (rules.handler? starred) fun found => found.toList.flatMap fun one => [one] := by
  -- The errors may be missing, and their name leaves no node behind.
  refine reads_of_startingAt fun before => ?_
  have body := (reads_body given).startingAt
  have expression := given.expression.startingAt
  have named := reads_alias?.startingAt
  mvcgen [handler?, body, expression, named]
  all_goals grind

/-- The blocks of a statement with handlers of errors are read one behind the other. -/
theorem reads_guarded : Reads rules.guarded fun found => [found] := by
  -- The body comes first, and the handlers and the other blocks come in the order of the tree.
  refine reads_of_startingAt fun before => ?_
  have body := (reads_body given).startingAt
  have handlers starred := (reads_handler? given starred).many.nodes.startingAt
  have otherwise spelling := (reads_bodyBehind given spelling).startingAt
  mvcgen [guarded, body, handlers, otherwise]
  all_goals grind

/-- A function is read behind its decorators, which come last among its parts. -/
theorem startingAt_function (decorators : List Node) (before : List Token) :
    StartingAt before (rules.function decorators) fun found after =>
      ∀ start, Passed start before decorators → Passed start after [found] := by
  have parameters annotated closing := (Parameters.reads_read given annotated closing).startingAt
  have expression := given.expression.startingAt
  have body := (reads_body given).startingAt
  -- The decorators stand in front of the function, and the annotation of its result in front of its body.
  have turned start after (parameters : Node) (body result : List Node)
      (passed : Passed start after (decorators ++ [parameters] ++ result ++ body)) :
      Passed start after [.group (parameters :: body ++ decorators ++ result)] := by
    refine passed.regroup ?_
    rw [← Multiset.coe_eq_coe]
    simp only [← Multiset.coe_add, List.cons_append, ← Multiset.cons_coe, ← Multiset.singleton_add]
    ac_rfl
  -- Parameters, result and body are read in this order, behind the decorators.
  mvcgen [function, parameters, expression, body]
  all_goals grind

/-- A class is read behind its decorators, which come last among its parts. -/
theorem startingAt_classDefinition (decorators : List Node) (before : List Token) :
    StartingAt before (rules.classDefinition decorators) fun found after =>
      ∀ start, Passed start before decorators → Passed start after [found] := by
  have bases := startingAt_arguments given
  have body := (reads_body given).startingAt
  -- The decorators are read first and held last.
  have turned start after (bases body : List Node) (spread : Spread start after (decorators ++ bases ++ body)) :
      Passed start after [.group (bases ++ body ++ decorators)] := by
    refine (spread.subperm (List.Perm.subperm ?_)).group
    rw [List.append_assoc decorators]
    exact List.perm_append_comm
  mvcgen [classDefinition, bases, body]
  all_goals grind

/-- Decorators are read one behind the other. -/
theorem reads_decorators : Reads rules.decorators fun found => found := by
  -- Each decorator stands behind its sign and ends its line.
  refine Reads.nodes (Reads.behind (reads_of_startingAt fun before => ?_) (mark "@"))
  have named := (reads_namedExpression given).startingAt
  mvcgen [named]
  all_goals grind

/-- A function or a class is read as one construct with its decorators. -/
theorem reads_definition : Reads rules.definition fun found => [found] := by
  -- The decorators stand in front of the word that tells what is defined.
  refine reads_of_startingAt fun before => ?_
  have decorators := (reads_decorators given).startingAt
  have definition := startingAt_function given
  have classes := startingAt_classDefinition given
  mvcgen [Rules.definition, decorators, definition, classes]
  all_goals grind

/-- The pattern of a case is read before its guard and its block. -/
theorem reads_case? : Reads rules.case? fun found => found.toList.flatMap fun one => [one] := by
  -- A guard stands between the pattern and the block in the tree as in the source.
  refine reads_of_startingAt fun before => ?_
  have pattern := (reads_casePattern given).startingAt
  have guard := (reads_namedExpression given).startingAt
  have body := (reads_body given).startingAt
  mvcgen [case?, pattern, guard, body]
  all_goals grind

/-- The subject of a match statement is read before its cases. -/
theorem reads_matching : Reads rules.matching fun found => [found] := by
  -- The subject may be several elements that are read as one tuple.
  refine reads_of_startingAt fun before => ?_
  have element := (reads_element given).startingAt
  have rest := ((reads_element given).items startsItem).nodes.startingAt
  have cases := (reads_case? given).many.nodes.startingAt
  mvcgen [matching, element, rest, cases]
  all_goals grind

/-- A statement that runs in a coroutine is read as any other. -/
theorem reads_asynchronous : Reads rules.asynchronous fun found => [found] := by
  -- Behind the keyword stands one of three statements.
  refine reads_of_startingAt fun before => ?_
  have iteration := (reads_iteration given).startingAt
  have contextual := (reads_contextual given).startingAt
  have function := (reads_of_startingAt (startingAt_function given [])).startingAt
  mvcgen [asynchronous, iteration, contextual, function]
  all_goals grind

/-- The statements that one step gives are read one behind the other. -/
theorem reads_statement : Reads rules.statement fun found => found := by
  -- Each word that starts a statement leads to one rule, behind the word or at it.
  have line := reads_line given
  have one {step : Reading Node} (reads : Reads step fun found => [found]) :
      Reads (do return [← step]) fun found => found := by
    refine reads_of_startingAt fun before => ?_
    have step := reads.startingAt
    mvcgen [step]
    all_goals grind
  have behind {step : Reading Node} (reads : Reads step fun found => [found]) :
      Reads (do advance; step) fun found => [found] := by
    refine reads_of_startingAt fun before => ?_
    have step := reads.startingAt
    mvcgen [step]
    all_goals grind
  have choice : Reads (do rules.choice (← get).length.succ) fun found => [found] := by
    refine reads_of_startingAt fun before => ?_
    have choice fuel := (reads_choice given fuel).startingAt
    mvcgen [choice]
    all_goals grind
  rw [statement]
  refine reads_peek.bind fun lexeme => ?_
  split
  · repeat' split
    · exact one (behind choice)
    · exact one (behind (reads_loop given))
    · exact one (behind (reads_iteration given))
    · exact one (behind (reads_contextual given))
    · exact one (behind (reads_guarded given))
    · exact one (behind (reads_asynchronous given))
    · exact one (reads_definition given)
    · exact line
  · exact one (reads_definition given)
  · split
    · -- The word of a match statement may be a name as well: then the line is read as any other.
      exact (one (reads_matching given)).orElse line
    · exact line
  · exact line

/-- The statements up to the end of a block are read one behind the other. -/
theorem reads_statements : Reads rules.statements fun found => found := by
  -- Each step gives the statements of one line, or one statement with its blocks.
  have found starts : Reads (many (whenever starts rules.statement)) List.flatten := by
    simpa only [List.flatMap_id'] using ((reads_statement given).whenever starts).many
  refine reads_of_startingAt fun before => ?_
  have found starts := (found starts).startingAt
  mvcgen [statements, found]
  all_goals grind

/-- The statements of a block of either form are read one behind the other. -/
theorem reads_suite : Reads rules.suite fun found => found := by
  -- A block is indented below its line, or stands on the line.
  refine reads_of_startingAt fun before => ?_
  have statements := (reads_statements given).startingAt
  have line := (reads_line given).startingAt
  mvcgen [suite, statements, line]
  all_goals grind

end Given

/-- Rules that refuse everything read nothing out of order. -/
theorem ordered_none : Rules.none.Ordered := by
  constructor <;> exact fun _ _ _ ended => (nomatch ended)

/-- Within any depth the rules read what they give as it stands. -/
theorem ordered_upTo (depth : Nat) : (Rules.upTo depth).Ordered := by
  -- The rules of one depth read in order what those of the depth below read in order.
  induction depth with
  | zero => exact ordered_none
  | succ depth ih =>
    exact {
      expression := reads_conditional ih
      disjunction := reads_alternatives ih
      operand := reads_arithmetic ih
      negation := reads_inversion ih
      factor := reads_signed ih
      pattern := reads_patternWithName ih
      block := reads_suite ih }

end Rules

/-- The statements of a source are read one behind the other from the first of its tokens. -/
theorem exists_lies_of_parse {source : Text} {tree : Node} (parsed : parse source = .ok tree) :
    ∃ tokens rest statements, scan source = .ok tokens ∧ Lies tokens rest statements ∧ tree = .group statements := by
  -- The file is read by the rules within a depth that its length allows.
  have file : Reads (do
      let found ← (Rules.upTo (source.length + 16)).statements
      expect .finish
      return found) fun found => found := by
    refine reads_of_startingAt fun before => ?_
    have statements := (Rules.reads_statements (Rules.ordered_upTo (source.length + 16))).startingAt
    mvcgen [statements]
    all_goals grind
  unfold parse at parsed
  -- Where the source is cut into tokens, the file is read from the first one on.
  cases scanned : scan source with
  | error fault => simp [scanned, Bind.bind, Except.bind] at parsed
  | ok tokens =>
    simp only [scanned, Bind.bind, Except.bind] at parsed
    split at parsed
    · next found rest ended =>
      cases parsed
      exact ⟨tokens, rest, found, rfl, file tokens found rest ended, rfl⟩
    · cases parsed

end AssetCatalog.Source
