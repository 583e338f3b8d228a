import AssetCatalog.Proofs.Source.Extent

/-! What the rules for expressions and for parameters read: constructs that stand one behind the other. -/

set_option mvcgen.warning false

namespace AssetCatalog.Source

open Reading

/-- What rules read of each other stands in the source as it is read. -/
structure Rules.Ordered (rules : Rules) : Prop where
  /-- An expression. -/
  expression : Reads rules.expression fun found => [found]
  /-- An expression without a condition around it. -/
  disjunction : Reads rules.disjunction fun found => [found]
  /-- An expression of arithmetic. -/
  operand : Reads rules.operand fun found => [found]
  /-- What stands behind a negation. -/
  negation : Reads rules.negation fun found => [found]
  /-- What stands behind a sign. -/
  factor : Reads rules.factor fun found => [found]
  /-- A pattern. -/
  pattern : Reads rules.pattern fun found => [found]
  /-- The statements behind a colon. -/
  block : Reads rules.block fun found => found

variable {rules : Rules}

/-- One item or the tuple of several is read in order if each item is. -/
theorem reads_oneOrTuple {item : Reading Node} (starts : Lexeme → Bool) (each : Reads item fun found => [found]) :
    Reads (oneOrTuple starts item) fun found => [found] := by
  -- A comma behind the first item makes a tuple, even where no other item follows.
  refine reads_of_startingAt fun before => ?_
  have one := each.startingAt
  have rest := (each.items starts).nodes.startingAt
  mvcgen [oneOrTuple, one, rest]
  all_goals grind

/-- Constructs that are taken together if there are several are read as they are. -/
@[grind ←] theorem Passed.groupIfMany {start now : List Token} {nodes : List Node} (passed : Passed start now nodes) :
    Passed start now [groupIfMany nodes] := by
  -- One construct by itself stays as it is.
  rw [Source.groupIfMany.eq_def]
  split
  · exact passed
  · exact Lies.group passed

namespace Rules

/-- What ends with a fault gives nothing. -/
theorem startingAt_fail {α : Type} (before : List Token) (line : Nat) (cause : Cause) :
    StartingAt before (fail line cause : Reading α) fun _ _ => False :=
  startingAt_iff.mpr fun _ _ ended => (nomatch ended)

/-- What is known, or else a fault, takes no token. -/
theorem reads_orFail {α : Type} (line : Nat) (found : Except Cause α) : Reads (orFail line found) fun _ => [] := by
  -- Nothing is read at all in either case.
  cases found with
  | ok found =>
    intro before found after ended
    cases ended
    exact .nil _
  | error cause => exact fun _ _ _ ended => (nomatch ended)

/-- The parts of an interpolated string are looked at without a token. -/
theorem reads_checkParts (rules : Rules) (line : Nat) (raw : Bool) (parts : List Interpolation.Part) :
    Reads (rules.checkParts line raw parts) fun _ => [] := by
  have literal {α : Type} (found : Except Cause α) := (reads_orFail line found).startingAt
  -- Part by part: what is checked of a part takes no token, as it is in the string already.
  induction parts with
  | nil =>
    refine reads_of_startingAt fun before => ?_
    mvcgen [checkParts]
    grind
  | cons part parts ih =>
    cases part with
    | literal text =>
      refine reads_of_startingAt fun before => ?_
      have rest := ih.startingAt
      mvcgen [checkParts, literal, rest]
      all_goals grind
    | field expression =>
      -- The expression in a field is read from tokens of its own.
      rw [checkParts]
      split
      · exact ih
      · exact fun _ _ _ ended => (nomatch ended)

/-- The value of a string is found without a token. -/
theorem reads_quotationValue (rules : Rules) (line : Nat) (quotation : Quotation) :
    Reads (rules.quotationValue line quotation) fun _ => [] := by
  -- The token was read before, and all that is left is to look into its text.
  refine reads_of_startingAt fun before => ?_
  have checked {α : Type} (found : Except Cause α) := (reads_orFail line found).startingAt
  have parts raw parts := (reads_checkParts rules line raw parts).startingAt
  mvcgen [quotationValue, plainValue, checked, parts, startingAt_fail]
  all_goals grind

/-- Steps that read no construct read none one after the other. -/
theorem reads_mapM {α β : Type} {step : α → Reading β} (each : ∀ one, Reads (step one) fun _ => []) (ones : List α) :
    Reads (ones.mapM step) fun _ => [] := by
  -- The first step is followed by the others, and none of them reads a construct.
  induction ones with
  | nil =>
    refine reads_of_startingAt fun before => ?_
    rw [List.mapM_nil]
    mvcgen
    grind
  | cons one ones ih =>
    refine reads_of_startingAt fun before => ?_
    have first := (each one).startingAt
    have rest := ih.startingAt
    -- What the first step read is nothing, and so is what the others read.
    rw [List.mapM_cons]
    mvcgen [first, rest]
    grind

/-- A string as it is read, before its value is known. -/
def unread (string : Quotation × Position) : List Node :=
  [⟨.text [] string.2, []⟩]

/-- A string stands at its place. -/
theorem reads_string? : Reads string? fun found => found.toList.flatMap unread := by
  intro before found after ended
  -- One token is looked at, and is taken if it is a string.
  rcases before with _ | ⟨⟨lexeme, position⟩, rest⟩
  · cases ended
    exact .nil []
  · cases lexeme with
    | string quotation =>
      cases ended
      exact ⟨[⟨.string quotation, position⟩], [[position]], rfl, .cons (.text [] position) .nil, .refl _⟩
    | _ =>
      cases ended
      exact .nil _

/-- Strings side by side stand at the place of the first, if they have a value. -/
theorem reads_strings (rules : Rules) : Reads rules.strings fun found => [found] := by
  -- Several strings are passed, and at most one construct is made of them.
  refine reads_of_startingAt fun before => ?_
  have found := reads_string?.many.startingAt
  have values (found : List (Quotation × Position)) :=
    (reads_mapM (fun string => reads_quotationValue rules string.2.line string.1) found).startingAt
  mvcgen [strings, found, values, startingAt_fail]
  · exact False.elim
  · exact False.elim
  -- The checks of the strings read nothing more, and of the strings at most the first is kept.
  all_goals
    intro start begun
    subst_vars
    have read := (begun.step ‹Lies _ _ (List.flatMap unread _)›).step ‹Lies _ _ []›
    rw [List.nil_append, List.append_nil] at read
  · exact Passed.group [] (Lies.none read)
  · exact Passed.node [] (Lies.none read) rfl
  · exact Lies.text read _

/-- A number is one construct. -/
theorem reads_number (spelling : Text) : Reads (number spelling) fun found => [found] := by
  refine reads_of_startingAt fun before => ?_
  mvcgen [number, startingAt_fail]
  -- The token is passed, and what stands for it has no parts.
  all_goals grind

/-- Operands that have been read are taken together from the left. -/
theorem passed_foldl_group {start now : List Token} (rest : List Node) : ∀ {first : Node},
    Passed start now (first :: rest) →
      Passed start now [rest.foldl (fun left right => .group [left, right]) first] := by
  -- The operand behind is held together with all in front of it.
  induction rest with
  | nil => exact id
  | cons node rest ih => exact fun passed => ih (.group [_, node] passed)

/-- Operands of one rank are read as they stand. -/
theorem reads_chain (operators : List String) {operand : Reading Node} (each : Reads operand fun found => [found]) :
    Reads (chain operators operand) fun found => [found] := by
  -- Behind an operator comes one operand, and operators may follow one another.
  have behind : Reads (do advance; operand) fun found => [found] := by
    refine reads_of_startingAt fun before => ?_
    have one := each.startingAt
    mvcgen [one]
    grind
  refine reads_of_startingAt fun before => ?_
  have one := each.startingAt
  have rest starts := (behind.whenever starts).many.nodes.startingAt
  mvcgen [chain, one, rest]
  grind [passed_foldl_group]

/-- An operator of comparison is no construct. -/
theorem reads_comparator? : Reads comparator? fun _ => [] := by
  refine reads_of_startingAt fun before => ?_
  mvcgen [comparator?]
  -- An operator is one token or two, both of which are passed.
  all_goals grind

/-- The keys of entries and then their values are what stands in the entries. -/
theorem perm_entries {α : Type} (keys : α → List Node) (value : α → Node) (entries : List α) :
    (entries.flatMap fun entry => keys entry ++ [value entry]).Perm (entries.flatMap keys ++ entries.map value) := by
  -- Each entry has one value behind its keys, so only the order of the two lists differs.
  rw [List.map_eq_flatMap]
  exact (List.flatMap_append_perm entries keys fun entry => [value entry]).symm

section Expressions

variable (given : rules.Ordered)

include given

/-- An unpacked operand is one construct, and so is what stands in its place. -/
theorem reads_starredOr {other : Reading Node} (reads : Reads other fun found => [found]) :
    Reads (rules.starredOr other) fun found => [found] := by
  -- A star in front tells the two apart.
  refine reads_of_startingAt fun before => ?_
  have operand := given.operand.startingAt
  have other := reads.startingAt
  mvcgen [starredOr, operand, other]
  all_goals grind

/-- Expressions and unpacked ones are read as one construct. -/
theorem reads_starExpressions : Reads rules.starExpressions fun found => [found] :=
  reads_oneOrTuple _ (reads_starredOr given given.expression)

/-- An expression is read with or without a name in front of it. -/
theorem reads_namedExpression : Reads rules.namedExpression fun found => [found] := by
  -- A name in front is passed with its sign.
  refine reads_of_startingAt fun before => ?_
  have expression := given.expression.startingAt
  mvcgen [namedExpression, expression]
  all_goals grind

/-- The targets of an assignment are read as one construct. -/
theorem reads_targets : Reads rules.targets fun found => [found] := by
  -- Targets are operands that may be unpacked, one or several with commas.
  refine reads_of_startingAt fun before => ?_
  have found := (reads_oneOrTuple startsItem (reads_starredOr given given.operand)).startingAt
  mvcgen [targets, found]
  all_goals grind

/-- What a generator yields is read as one construct. -/
theorem reads_yielded : Reads rules.yielded fun found => [found] := by
  -- Behind the word stands another word with an expression, or expressions, or nothing.
  refine reads_of_startingAt fun before => ?_
  have expression := given.expression.startingAt
  have expressions := (reads_starExpressions given).startingAt
  mvcgen [yielded, expression, expressions]
  all_goals grind

/-- A yield expression is read as one construct, and so is what stands in its place. -/
theorem reads_yieldOr {other : Reading Node} (reads : Reads other fun found => [found]) :
    Reads (rules.yieldOr other) fun found => [found] := by
  -- The word in front tells the two apart.
  refine reads_of_startingAt fun before => ?_
  have yields := (reads_yielded given).startingAt
  have other := reads.startingAt
  mvcgen [yieldOr, yields, other]
  all_goals grind

/-- The target, the iterable and the conditions of a comprehension are read one behind the other. -/
theorem reads_clause : Reads rules.clause fun found => found.toList.flatMap fun one => [one] := by
  -- Each part of the clause is read where the one before it ended, in the order in which it is listed.
  refine reads_of_startingAt fun before => ?_
  have target := (reads_targets given).startingAt
  have iterable := given.disjunction.startingAt
  have conditions := (given.disjunction.behind (word "if")).nodes.startingAt
  mvcgen [clause, target, iterable, conditions]
  all_goals grind

/-- The clauses of a comprehension are read one behind the other. -/
theorem reads_many_clause : Reads (many rules.clause) fun found => found :=
  (reads_clause given).many.nodes

/-- The clauses behind an element are read one behind the other. -/
theorem reads_clauses (element : Node) : Reads (rules.clauses element) fun found => found := by
  -- Behind an element that is unpacked there are no clauses.
  refine reads_of_startingAt fun before => ?_
  have each := (reads_many_clause given).startingAt
  mvcgen [clauses, each]
  all_goals grind

/-- An element of a display is read as one construct. -/
theorem reads_element : Reads rules.element fun found => [found] :=
  reads_starredOr given (reads_namedExpression given)

/-- What stands in parentheses is read up to the closing one, as one construct. -/
theorem reads_parenthesized : Reads rules.parenthesized fun found => [found] := by
  -- The tokens of the parentheses hold no construct, so all strings are those of what stands between them.
  refine reads_of_startingAt fun before => ?_
  have yields := (reads_yielded given).startingAt
  have element := (reads_element given).startingAt
  have further element := (reads_clauses given element).startingAt
  have rest := ((reads_element given).items startsItem).nodes.startingAt
  mvcgen [parenthesized, yields, element, further, rest]
  all_goals grind

/-- What stands in brackets is read up to the closing one, as one construct. -/
theorem reads_bracketed : Reads rules.bracketed fun found => [found] := by
  -- One element comes first: behind it clauses make a comprehension, and a comma makes a list.
  refine reads_of_startingAt fun before => ?_
  have element := (reads_element given).startingAt
  have further element := (reads_clauses given element).startingAt
  have rest := ((reads_element given).items startsItem).nodes.startingAt
  mvcgen [bracketed, element, further, rest]
  all_goals grind

/-- The key of an entry stands in front of its value. -/
theorem reads_entry : Reads rules.entry fun found => found.1 ++ [found.2] := by
  -- The two stars of an unpacked dictionary leave no key.
  refine reads_of_startingAt fun before => ?_
  have operand := given.operand.startingAt
  have expression := given.expression.startingAt
  mvcgen [entry, operand, expression]
  all_goals grind

/-- Behind the first entry of a dictionary stand the others, although all keys come in front of the values. -/
theorem startingAt_dictionary (first : List Node × Node) (before : List Token) :
    StartingAt before (rules.dictionary first) fun found after =>
      ∀ start, Passed start before (first.1 ++ [first.2]) → Passed start after [found] := by
  have rest := ((reads_entry given).items startsEntry).startingAt
  -- The entries are read key by value, and held with all keys first.
  have apart (rest : List (List Node × Node)) :
      (first.1 ++ [first.2] ++ rest.flatMap fun entry => entry.1 ++ [entry.2]).Perm
        (first.1 ++ rest.flatMap Prod.fst ++ first.2 :: rest.map Prod.snd) := by
    simpa using perm_entries Prod.fst Prod.snd (first :: rest)
  mvcgen [dictionary, rest]
  all_goals grind [→ Passed.regroup]

/-- What stands in braces is read up to the closing one, as one construct. -/
theorem reads_braced : Reads rules.braced fun found => [found] := by
  -- Whether it is a set or a dictionary, the elements are read from left to right.
  refine reads_of_startingAt fun before => ?_
  have entry := (reads_entry given).startingAt
  have element := (reads_element given).startingAt
  have expression := given.expression.startingAt
  have each := (reads_many_clause given).startingAt
  have further element := (reads_clauses given element).startingAt
  have rest := ((reads_element given).items startsItem).nodes.startingAt
  have dictionary := startingAt_dictionary given
  mvcgen [braced, entry, element, expression, each, further, rest, dictionary]
  all_goals grind

/-- An atom is read as one construct. -/
theorem reads_atom : Reads rules.atom fun found => [found] := by
  -- An atom is a token, or strings side by side, or stands in one of three kinds of brackets.
  refine reads_of_startingAt fun before => ?_
  have parenthesized := (reads_parenthesized given).startingAt
  have bracketed := (reads_bracketed given).startingAt
  have braced := (reads_braced given).startingAt
  have number spelling := (reads_number spelling).startingAt
  have strings := (reads_strings rules).startingAt
  mvcgen [atom, number, strings, parenthesized, bracketed, braced]
  all_goals grind

/-- The arguments of a call from a place on stand one behind the other, those by position among the named ones. -/
theorem startingAt_argumentsFrom (fuel : Nat) : ∀ stage generator before,
    StartingAt before (rules.argumentsFrom stage generator fuel) fun found after =>
      ∀ start nodes, Passed start before nodes → Spread start after (nodes ++ (found.1 ++ found.2)) := by
  -- An argument that is unpacked or has a name is held by a construct of its own, and so is a generator.
  have expression before : StartingAt before rules.expression fun found after =>
      Lies before after [.group [found]] ∧ Lies before after [⟨.starred, [found]⟩] :=
    startingAt_iff.mpr fun found after ended =>
      have lies := given.expression before found after ended
      ⟨lies.group, Passed.node [found] lies rfl⟩
  have named := (reads_namedExpression given).startingAt
  have clauses before : StartingAt before (many rules.clause) fun found after =>
      Lies before after found ∧ ∀ start first, Lies start before [first] → Lies start after [.group (first :: found)] :=
    startingAt_iff.mpr fun found after ended =>
      have lies := reads_many_clause given before found after ended
      ⟨lies, fun _ _ front => (front.append lies).group⟩
  induction fuel with
  | zero =>
    intro stage generator before
    mvcgen [argumentsFrom]
    simp_all
  | succ fuel ih =>
    intro stage generator before
    rw [argumentsFrom]
    -- The arguments behind the first are read by the same rule.
    have further (stage : Stage) (generator : Bool) := ih stage generator
    mvcgen [expression, named, clauses, further]
    all_goals grind

/-- The arguments of a call stand behind what is called. -/
theorem startingAt_arguments (generator : Bool) (before : List Token) :
    StartingAt before (rules.arguments generator) fun found after =>
      ∀ start nodes, Passed start before nodes → Spread start after (nodes ++ found) := by
  have found := startingAt_argumentsFrom given
  mvcgen [arguments, found]
  -- The named arguments come behind the others, so the order of reading may be lost.
  all_goals grind

/-- An expression that may be left out is read as it stands. -/
theorem reads_expression? : Reads rules.expression? fun found => found := by
  -- The next token tells whether there is one.
  refine reads_of_startingAt fun before => ?_
  have expression := given.expression.startingAt
  mvcgen [expression?, expression]
  all_goals grind

/-- An index of a subscript is read as one construct, with the bounds of a slice in their order. -/
theorem reads_index : Reads rules.index fun found => [found] := by
  -- The bounds are read from the left to the right, as they stand in the tree.
  refine reads_of_startingAt fun before => ?_
  have named := (reads_namedExpression given).startingAt
  have optional := (reads_expression? given).startingAt
  mvcgen [index, named, optional]
  all_goals grind

/-- An index of a subscript that may be unpacked is read as one construct. -/
theorem reads_indexOrStarred : Reads rules.indexOrStarred fun found => [found] := by
  -- A star in front tells the two apart.
  refine reads_of_startingAt fun before => ?_
  have expression := given.expression.startingAt
  have index := (reads_index given).startingAt
  mvcgen [indexOrStarred, expression, index]
  all_goals grind

/-- The indices behind an opening bracket are read as one construct. -/
theorem reads_indices : Reads rules.indices fun found => [found] := by
  -- A comma behind the first index makes a tuple of them.
  refine reads_of_startingAt fun before => ?_
  have found starts := (reads_oneOrTuple starts (reads_indexOrStarred given)).startingAt
  mvcgen [indices, found]
  all_goals grind

/-- What has been read stands in front of the other parts of the attributes, calls and subscripts behind it. -/
theorem startingAt_trailers (fuel : Nat) : ∀ node before,
    StartingAt before (rules.trailers node fuel) fun found after =>
      ∀ start, Passed start before [node] → Passed start after [found] := by
  have arguments := startingAt_arguments given
  have indices := (reads_indices given).startingAt
  -- One step reads one trailer, which becomes part of a construct together with what it stands behind.
  induction fuel with
  | zero =>
    intro node before
    mvcgen [trailers]
    all_goals grind
  | succ fuel ih =>
    intro node before
    rw [trailers]
    -- What stands behind a trailer goes on from the construct that the trailer makes.
    have further node before : StartingAt before (rules.trailers node fuel) fun found after =>
        ∀ start parts, Passed start before parts → parts = [node] → Passed start after [found] :=
      startingAt_iff.mpr fun found after ended start parts passed same =>
        startingAt_iff.mp (ih node before) found after ended start (same ▸ passed)
    mvcgen [arguments, indices, further]
    all_goals grind

/-- An atom is read with all that is behind it. -/
theorem reads_primary : Reads rules.primary fun found => [found] := by
  -- The trailers take up the atom in front of them.
  refine reads_of_startingAt fun before => ?_
  have atom := (reads_atom given).startingAt
  have trailers := startingAt_trailers given
  mvcgen [primary, atom, trailers]
  all_goals grind

/-- The base of a power is read before the exponent. -/
theorem reads_power : Reads rules.power fun found => [found] := by
  refine reads_of_startingAt fun before => ?_
  -- A base that is awaited is held by a construct of its own.
  have primary before : StartingAt before rules.primary fun found after =>
      Lies before after [found] ∧ Lies before after [.group [found]] :=
    startingAt_iff.mpr fun found after ended =>
      have lies := reads_primary given before found after ended
      ⟨lies, lies.group⟩
  have factor := given.factor.startingAt
  mvcgen [power, primary, factor]
  all_goals grind

/-- A power is read with its signs. -/
theorem reads_signed : Reads rules.signed fun found => [found] := by
  -- A sign in front tells a factor from a power.
  refine reads_of_startingAt fun before => ?_
  have power := (reads_power given).startingAt
  have factor := given.factor.startingAt
  mvcgen [signed, power, factor]
  all_goals grind

/-- The operands of arithmetic are read as they stand. -/
theorem reads_arithmetic : Reads rules.arithmetic fun found => [found] := by
  rw [arithmetic]
  -- There is one chain for each rank of operators.
  iterate 6 refine reads_chain _ ?_
  exact reads_signed given

/-- The operands of a comparison are read as they stand. -/
theorem reads_comparison : Reads rules.comparison fun found => [found] := by
  -- An operator takes its tokens and gives no construct.
  have rest : Reads (many do if ← comparator? then return some (← rules.arithmetic) else return .none)
      fun found => found := by
    refine Reads.nodes (Reads.many (reads_of_startingAt fun before => ?_))
    have operators := (reads_comparator?).startingAt
    have arithmetic := (reads_arithmetic given).startingAt
    mvcgen [operators, arithmetic]
    all_goals grind
  refine reads_of_startingAt fun before => ?_
  have arithmetic := (reads_arithmetic given).startingAt
  have rest := rest.startingAt
  -- The first operand comes in front of those behind operators.
  mvcgen [comparison, arithmetic, rest]
  all_goals grind

/-- A negation is read as one construct. -/
theorem reads_inversion : Reads rules.inversion fun found => [found] := by
  -- The word in front tells a negation from a comparison.
  refine reads_of_startingAt fun before => ?_
  have negation := given.negation.startingAt
  have comparison := (reads_comparison given).startingAt
  mvcgen [inversion, negation, comparison]
  all_goals grind

/-- Alternatives are read as they stand. -/
theorem reads_alternatives : Reads rules.alternatives fun found => [found] := by
  -- Conjunctions come between the words of an alternative, and are read as they stand themselves.
  have conjunction : Reads (do return groupIfMany (← separated (word "and") rules.inversion)) fun found => [found] := by
    refine reads_of_startingAt fun before => ?_
    have inversions := ((reads_inversion given).separated (word "and")).nodes.startingAt
    mvcgen [inversions]
    all_goals grind
  refine reads_of_startingAt fun before => ?_
  have conjunctions := (conjunction.separated (word "or")).nodes.startingAt
  mvcgen [alternatives, conjunctions]
  all_goals grind

end Expressions

end Rules

namespace Parameters

/-- The constructs in parameters, in the order in which they are held together. -/
def parts (found : Parameters) : List Node :=
  found.positional ++ found.variadic ++ found.named ++ found.namedDefaults ++ found.remaining ++ found.defaults

variable {found : Parameters} {before after : List Token} {node : Node} {default : List Node}

/-- A parameter for all further named arguments is one more part. -/
@[grind ←] theorem spread_remaining (spread : Spread before after (found.parts ++ [node])) :
    Spread before after { found with remaining := [node] }.parts := by
  -- At most one such parameter is kept, so that one from before may be lost.
  refine spread.subperm ?_
  rw [← Multiset.coe_le]
  simp only [parts, ← Multiset.coe_add]
  exact (Multiset.le_add_right _ ↑found.remaining).trans_eq (by ac_rfl)

/-- A parameter for all further arguments is one more part. -/
@[grind ←] theorem spread_variadic (spread : Spread before after (found.parts ++ [node])) :
    Spread before after { found with starred := true, variadic := [node] }.parts := by
  -- At most one such parameter is kept, so that one from before may be lost.
  refine spread.subperm ?_
  rw [← Multiset.coe_le]
  simp only [parts, ← Multiset.coe_add]
  exact (Multiset.le_add_right _ ↑found.variadic).trans_eq (by ac_rfl)

/-- A parameter that can be given by name only, and its default, are further parts. -/
@[grind ←] theorem spread_named (spread : Spread before after (found.parts ++ [node] ++ default)) :
    Spread before after { found with
      named := found.named ++ [node], namedDefaults := found.namedDefaults ++ default, pending := false }.parts := by
  -- The parts are the same with the new ones, but for their order.
  refine spread.subperm (List.Perm.subperm ?_)
  rw [← Multiset.coe_eq_coe]
  simp only [parts, ← Multiset.coe_add]
  ac_rfl

/-- A parameter that can be given by position, and its default, are further parts. -/
@[grind ←] theorem spread_positional (spread : Spread before after (found.parts ++ [node] ++ default)) :
    Spread before after { found with
      positional := found.positional ++ [node], defaults := found.defaults ++ default }.parts := by
  -- The parts are the same with the new ones, but for their order.
  refine spread.subperm (List.Perm.subperm ?_)
  rw [← Multiset.coe_eq_coe]
  simp only [parts, ← Multiset.coe_add]
  ac_rfl

/-- A parameter is read with its annotation. -/
theorem reads_parameter {hint : Option (Reading Node)} (given : ∀ rule ∈ hint, Reads rule fun found => [found]) :
    Reads (parameter hint) fun found => [found] := by
  -- Only parameters of definitions have annotations, so the two cases are kept apart.
  refine reads_of_startingAt fun before => ?_
  cases hint with
  | none =>
    mvcgen [parameter]
    all_goals grind
  | some rule =>
    have rule := (given rule rfl).startingAt
    mvcgen [parameter, rule]
    all_goals grind

/-- A parameter and its default are further parts. -/
theorem startingAt_add (found : Parameters) (node : Node) (default : List Node) (before : List Token) :
    StartingAt before (found.add node default) fun result after =>
      ∀ start, Spread start before (found.parts ++ [node] ++ default) → Spread start after result.parts := by
  mvcgen [add]
  -- The parameter joins one of two lists, and its default another one.
  all_goals grind

section Given

variable (given : rules.Ordered)

include given

/-- A default is read as it stands. -/
theorem reads_default? : Reads (default? rules) fun found => found := by
  -- A sign of equality tells whether there is one.
  refine reads_of_startingAt fun before => ?_
  have expression := given.expression.startingAt
  mvcgen [default?, expression]
  all_goals grind

/-- Behind parameters that have been read the next item is read. -/
theorem startingAt_item (annotated : Bool) (found : Parameters) (before : List Token) :
    StartingAt before (item rules annotated found) fun result after =>
      ∀ start, Spread start before found.parts → Spread start after result.1.parts := by
  -- The rule for an annotation, where there is one, reads what it gives.
  have hint : ∀ rule ∈ (if annotated then some rules.expression else none), Reads rule fun found => [found] := by
    have expression := given.expression
    split <;> simp_all
  have starredHint : ∀ rule ∈ (if annotated then some (rules.starredOr rules.expression) else none),
      Reads rule fun found => [found] := by
    have expression := Rules.reads_starredOr given given.expression
    split <;> simp_all
  have parameter := (reads_parameter hint).startingAt
  have variadic := (reads_parameter starredHint).startingAt
  have default := (reads_default? given).startingAt
  have added := startingAt_add found
  -- A separator is passed, and any other item puts its parts behind those found before.
  mvcgen [item, parameter, variadic, default, added]
  all_goals grind [parts]

/-- Well formed parameters stay so up to the closing token. -/
theorem startingAt_itemsFrom (annotated : Bool) (closing : Lexeme) (fuel : Nat) : ∀ found before,
    StartingAt before (itemsFrom rules annotated closing found fuel) fun result after =>
      ∀ start, Spread start before found.parts → Spread start after result.parts := by
  have item := startingAt_item given
  -- One step reads one item, and all that was found before stands in front of it.
  induction fuel with
  | zero =>
    intro found before
    mvcgen [itemsFrom]
    simp_all
  | succ fuel ih =>
    intro found before
    rw [itemsFrom]
    -- Behind an item the rest is read with what the item has added.
    have further found before : StartingAt before (itemsFrom rules annotated closing found fuel) fun result after =>
        ∀ start parts, Spread start before parts → parts = found.parts → Spread start after result.parts :=
      startingAt_iff.mpr fun result after ended start parts spread same =>
        startingAt_iff.mp (ih found before) result after ended start (same ▸ spread)
    mvcgen [item, further]
    all_goals grind

/-- The parameters of a function are read as one construct, whatever their order in it. -/
theorem reads_read (annotated : Bool) (closing : Lexeme) :
    Reads (read rules annotated closing) fun found => [found] := by
  -- The parts are spread over the kinds of parameters, which lose the order of the source.
  refine reads_of_startingAt fun before => ?_
  have found fuel := startingAt_itemsFrom given annotated closing fuel
  mvcgen [read, found]
  all_goals grind [parts, Parameters.node]

end Given

end Parameters

namespace Rules

/-- The parameters of an anonymous function are read before what it gives. -/
theorem reads_anonymous (given : rules.Ordered) : Reads rules.anonymous fun found => [found] := by
  -- The expression stands behind the colon.
  refine reads_of_startingAt fun before => ?_
  have parameters annotated closing := (Parameters.reads_read given annotated closing).startingAt
  have expression := given.expression.startingAt
  mvcgen [anonymous, parameters, expression]
  all_goals grind

/-- An expression of any form is read as one construct. -/
theorem reads_conditional (given : rules.Ordered) : Reads rules.conditional fun found => [found] := by
  refine reads_of_startingAt fun before => ?_
  have anonymous := (reads_anonymous given).startingAt
  have alternatives := (reads_alternatives given).startingAt
  have expression := given.expression.startingAt
  -- The condition stands behind the outcome that it chooses, but is a part in front of it.
  have turned start after (body test otherwise : Node) (passed : Passed start after [body, test, otherwise]) :
      Passed start after [.group [test, body, otherwise]] := passed.regroup (.swap ..)
  mvcgen [conditional, anonymous, alternatives, expression]
  all_goals grind

end Rules

end AssetCatalog.Source
