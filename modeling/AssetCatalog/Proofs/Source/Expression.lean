import AssetCatalog.Proofs.Source.Place
import AssetCatalog.Proofs.Source.Reading
import AssetCatalog.Source.Expression

/-! What the rules for expressions and for parameters give: well formed trees. -/

set_option mvcgen.warning false

namespace AssetCatalog.Source

open Reading

/-- What rules give of each other is well formed. -/
structure Rules.WellFormed (rules : Rules) : Prop where
  /-- An expression. -/
  expression : Gives rules.expression Node.WellFormed
  /-- An expression without a condition around it. -/
  disjunction : Gives rules.disjunction Node.WellFormed
  /-- An expression of arithmetic. -/
  operand : Gives rules.operand Node.WellFormed
  /-- What stands behind a negation. -/
  negation : Gives rules.negation Node.WellFormed
  /-- What stands behind a sign. -/
  factor : Gives rules.factor Node.WellFormed
  /-- A pattern. -/
  pattern : Gives rules.pattern Node.WellFormed
  /-- The statements behind a colon. -/
  block : Gives rules.block fun found => ∀ node ∈ found, node.WellFormed

variable {rules : Rules}

/-- One item or the tuple of several is well formed if each item is. -/
theorem gives_oneOrTuple {item : Reading Node} (starts : Lexeme → Bool) (each : Gives item Node.WellFormed) :
    Gives (oneOrTuple starts item) Node.WellFormed := by
  -- A tuple holds the first item and the further ones, so all of them have to be known.
  have rest := each.items starts
  mvcgen [oneOrTuple, each, rest]
  all_goals simp_all

/-- Well formed constructs that are taken together if there are several are well formed. -/
theorem wellFormed_groupIfMany {nodes : List Node} (each : ∀ node ∈ nodes, node.WellFormed) :
    (groupIfMany nodes).WellFormed := by
  -- One construct by itself stays as it is.
  rw [groupIfMany.eq_def]
  split
  · exact each _ (List.mem_singleton_self _)
  · exact Node.wellFormed_group.mpr each

namespace Rules

/-- What ends with a fault gives nothing. -/
theorem gives_fail {α : Type} (line : Nat) (cause : Cause) : Gives (fail line cause : Reading α) fun _ => False :=
  gives_iff.mpr fun _ _ _ ended => (nomatch ended)

/-- Strings side by side are well formed: as one string they have no parts. -/
theorem gives_strings (rules : Rules) : Gives rules.strings Node.WellFormed := by
  -- What the strings are does not matter, nor what they stand for.
  have found := gives_true (many string?)
  have values (found : List (Quotation × Position)) (value : Quotation × Position → Reading Text) :=
    gives_true (found.mapM value)
  mvcgen [strings, found, values, gives_fail]
  all_goals simp_all

/-- A number is well formed. -/
theorem gives_number (spelling : Text) : Gives (number spelling) Node.WellFormed := by
  -- A number has no parts, and one with too many digits is not read at all.
  mvcgen [number, gives_fail]
  all_goals simp_all

/-- Operands that are taken together from the left are well formed. -/
theorem wellFormed_foldl_group (rest : List Node) : ∀ first : Node, first.WellFormed →
    (∀ node ∈ rest, node.WellFormed) → (rest.foldl (fun left right => .group [left, right]) first).WellFormed := by
  -- Each operand makes a group with all that came before it, so the induction goes on from that group.
  induction rest with
  | nil => exact fun _ shaped _ => shaped
  | cons node rest ih =>
    intro first shaped each
    refine ih _ ?_ fun other member => each other (List.mem_cons_of_mem _ member)
    simp_all

/-- Operands of one rank are well formed together if each of them is. -/
theorem gives_chain (operators : List String) {operand : Reading Node} (gives : Gives operand Node.WellFormed) :
    Gives (chain operators operand) Node.WellFormed := by
  -- Behind the first operand stand operators with one operand each.
  have behind : Gives (do advance; operand) Node.WellFormed := by
    mvcgen [gives]
  have rest starts := (behind.whenever starts).many
  mvcgen [chain, gives, rest]
  simp_all [wellFormed_foldl_group]

section Expressions

variable (given : rules.WellFormed)

include given

/-- An unpacked operand is well formed, and so is what stands in its place. -/
theorem gives_starredOr {other : Reading Node} (gives : Gives other Node.WellFormed) :
    Gives (rules.starredOr other) Node.WellFormed := by
  have operand := given.operand
  -- An unpacked operand is the only part of what it makes.
  mvcgen [starredOr, operand, gives]
  simp_all

/-- Expressions and unpacked ones are well formed. -/
theorem gives_starExpressions : Gives rules.starExpressions Node.WellFormed :=
  gives_oneOrTuple _ (gives_starredOr given given.expression)

/-- An expression with or without a name is well formed. -/
theorem gives_namedExpression : Gives rules.namedExpression Node.WellFormed := by
  -- A name in front is a part that has none of its own.
  have expression := given.expression
  mvcgen [namedExpression, expression]
  all_goals simp_all

/-- The targets of an assignment are well formed. -/
theorem gives_targets : Gives rules.targets Node.WellFormed := by
  -- Targets are operands, or unpacked ones, and several of them make a tuple.
  have found := gives_oneOrTuple startsItem (gives_starredOr given given.operand)
  mvcgen [targets, found]
  simp_all

/-- What a generator yields is well formed. -/
theorem gives_yielded : Gives rules.yielded Node.WellFormed := by
  -- What is yielded is one expression behind a word, or several with commas, or nothing.
  have expression := given.expression
  have expressions := gives_starExpressions given
  mvcgen [yielded, expression, expressions]
  all_goals simp_all

/-- A yield expression is well formed, and so is what stands in its place. -/
theorem gives_yieldOr {other : Reading Node} (gives : Gives other Node.WellFormed) :
    Gives (rules.yieldOr other) Node.WellFormed := by
  -- Either alternative is taken as it is.
  have yields := gives_yielded given
  mvcgen [yieldOr, yields, gives]

/-- A clause of a comprehension is well formed. -/
theorem gives_clause : Gives rules.clause fun found => ∀ node ∈ found, node.WellFormed := by
  -- A target and an iterable come first, and any number of conditions behind them.
  have target := gives_targets given
  have iterable := given.disjunction
  have conditions := given.disjunction.behind (word "if")
  mvcgen [clause, target, iterable, conditions]
  all_goals simp_all

/-- The clauses of a comprehension are well formed. -/
theorem gives_clauses (element : Node) :
    Gives (rules.clauses element) fun found => ∀ node ∈ found, node.WellFormed := by
  -- Where the element is unpacked there are no clauses; otherwise each is a group of known parts.
  have each := (gives_clause given).many
  mvcgen [clauses, each]
  simp_all

/-- An element of a display is well formed. -/
theorem gives_element : Gives rules.element Node.WellFormed :=
  gives_starredOr given (gives_namedExpression given)

/-- What stands in parentheses is well formed. -/
theorem gives_parenthesized : Gives rules.parenthesized Node.WellFormed := by
  -- Between the parentheses are a yielded value, one element with clauses, or elements with commas.
  have yields := gives_yielded given
  have element := gives_element given
  have further := gives_clauses given
  have rest := (gives_element given).items startsItem
  mvcgen [parenthesized, yields, element, further, rest]
  all_goals simp_all

/-- What stands in square brackets is well formed. -/
theorem gives_bracketed : Gives rules.bracketed Node.WellFormed := by
  -- The element in front belongs to a list or to a comprehension.
  have element := gives_element given
  have further := gives_clauses given
  have rest := (gives_element given).items startsItem
  mvcgen [bracketed, element, further, rest]
  all_goals simp_all

/-- The key and the value of an entry are well formed. -/
theorem gives_entry : Gives rules.entry fun found => (∀ node ∈ found.1, node.WellFormed) ∧ found.2.WellFormed := by
  -- An unpacked dictionary has no key.
  have operand := given.operand
  have expression := given.expression
  mvcgen [entry, operand, expression]
  all_goals simp_all

/-- A dictionary is well formed if its first entry is. -/
theorem gives_dictionary (first : List Node × Node)
    (keys : ∀ node ∈ first.1, node.WellFormed) (value : first.2.WellFormed) :
    Gives (rules.dictionary first) Node.WellFormed := by
  -- Behind the first entry stand further ones, each behind a comma.
  have rest := (gives_entry given).items startsEntry
  mvcgen [dictionary, rest]
  all_goals simp_all
  all_goals grind

/-- What stands in braces is well formed. -/
theorem gives_braced : Gives rules.braced Node.WellFormed := by
  -- A display is of entries or of elements, which the first one tells; clauses may follow either.
  have entry := gives_entry given
  have element := gives_element given
  have expression := given.expression
  have each := (gives_clause given).many
  have further := gives_clauses given
  have rest := (gives_element given).items startsItem
  have dictionary := gives_dictionary given
  mvcgen [braced, entry, element, expression, each, further, rest, dictionary]
  all_goals simp_all

/-- An atom is well formed. -/
theorem gives_atom : Gives rules.atom Node.WellFormed := by
  -- Names and constants are well formed by themselves, and brackets by what is in them.
  have parenthesized := gives_parenthesized given
  have bracketed := gives_bracketed given
  have braced := gives_braced given
  mvcgen [atom, gives_number, gives_strings, parenthesized, bracketed, braced]
  all_goals simp_all

/-- The arguments of a call from a place on are well formed. -/
theorem gives_argumentsFrom (fuel : Nat) : ∀ stage generator,
    Gives (rules.argumentsFrom stage generator fuel) fun found =>
      (∀ node ∈ found.1, node.WellFormed) ∧ ∀ node ∈ found.2, node.WellFormed := by
  have expression := given.expression
  have named := gives_namedExpression given
  have each := (gives_clause given).many
  -- One step reads one argument, after which the rest is read at the stage that it leads to.
  induction fuel with
  | zero =>
    intro stage generator
    mvcgen [argumentsFrom]
    simp_all
  | succ fuel ih =>
    intro stage generator
    rw [argumentsFrom]
    -- The arguments behind the first are read by the same rule.
    have further (stage : Stage) (generator : Bool) := ih stage generator
    mvcgen [expression, named, each, further]
    all_goals simp_all

/-- The arguments of a call are well formed. -/
theorem gives_arguments (generator : Bool) :
    Gives (rules.arguments generator) fun found => ∀ node ∈ found, node.WellFormed := by
  -- What a call holds are the arguments that are read up to its closing parenthesis.
  have found := gives_argumentsFrom given
  mvcgen [arguments, found]
  grind

/-- An expression that may be left out is well formed. -/
theorem gives_expression? : Gives rules.expression? fun found => ∀ node ∈ found, node.WellFormed := by
  -- Without an expression there is none to look at.
  have expression := given.expression
  mvcgen [expression?, expression]
  all_goals simp_all

/-- An index of a subscript is well formed. -/
theorem gives_index : Gives rules.index Node.WellFormed := by
  -- Any of the three bounds of a slice may be missing.
  have named := gives_namedExpression given
  have optional := gives_expression? given
  mvcgen [index, named, optional]
  all_goals grind [Node.wellFormed_group]

/-- An index of a subscript that may be unpacked is well formed. -/
theorem gives_indexOrStarred : Gives rules.indexOrStarred Node.WellFormed := by
  -- What is unpacked is one part of its construct.
  have expression := given.expression
  have index := gives_index given
  mvcgen [indexOrStarred, expression, index]
  simp_all

/-- The index behind an opening bracket is well formed. -/
theorem gives_indices : Gives rules.indices Node.WellFormed := by
  have found starts := gives_oneOrTuple starts (gives_indexOrStarred given)
  mvcgen [indices, found]
  -- An unpacked index by itself becomes the one part of a tuple.
  split <;> simp_all

/-- A well formed construct stays so with attributes, calls and subscripts behind it. -/
theorem gives_trailers (fuel : Nat) : ∀ {node : Node}, node.WellFormed →
    Gives (rules.trailers node fuel) Node.WellFormed := by
  -- What a trailer adds is well formed, whichever of the three it is.
  have arguments := gives_arguments given
  have indices := gives_indices given
  induction fuel with
  | zero =>
    intro node shaped
    mvcgen [trailers]
  | succ fuel ih =>
    intro node shaped
    rw [trailers]
    -- The construct with its next trailer is well formed, so the rule goes on from it.
    have further (node : Node) (shaped : node.WellFormed) := ih shaped
    mvcgen [arguments, indices, further]
    all_goals simp_all

/-- An atom with all that is behind it is well formed. -/
theorem gives_primary : Gives rules.primary Node.WellFormed := by
  -- The trailers take the atom with them as their first part.
  have atom := gives_atom given
  have trailers := gives_trailers given
  mvcgen [primary, atom, trailers]

/-- A power is well formed. -/
theorem gives_power : Gives rules.power Node.WellFormed := by
  -- The exponent is a factor, which may have signs of its own.
  have primary := gives_primary given
  have factor := given.factor
  mvcgen [power, primary, factor]
  all_goals simp_all

/-- A power with signs is well formed. -/
theorem gives_signed : Gives rules.signed Node.WellFormed := by
  -- Behind a sign comes a factor, which is given by the rules.
  have power := gives_power given
  have factor := given.factor
  mvcgen [signed, power, factor]
  all_goals simp_all

/-- Arithmetic is well formed. -/
theorem gives_arithmetic : Gives rules.arithmetic Node.WellFormed := by
  -- Six ranks of operators stand between an operand and a signed power.
  rw [arithmetic]
  iterate 6 refine gives_chain _ ?_
  exact gives_signed given

/-- A comparison is well formed. -/
theorem gives_comparison : Gives rules.comparison Node.WellFormed := by
  have arithmetic := gives_arithmetic given
  have operators := gives_true comparator?
  -- Behind the first operand come operators with one operand each.
  have rest : Gives (many do if ← comparator? then return some (← rules.arithmetic) else return .none)
      fun found => ∀ node ∈ found, node.WellFormed := by
    refine Gives.many ?_
    mvcgen [operators, arithmetic]
    all_goals simp_all
  mvcgen [comparison, arithmetic, rest]
  simp_all [wellFormed_groupIfMany]

/-- A negation is well formed. -/
theorem gives_inversion : Gives rules.inversion Node.WellFormed := by
  -- Behind the word comes a negation, which is given by the rules.
  have negation := given.negation
  have comparison := gives_comparison given
  mvcgen [inversion, negation, comparison]
  simp_all

/-- Alternatives are well formed. -/
theorem gives_alternatives : Gives rules.alternatives Node.WellFormed := by
  -- Conjunctions are made of inversions, and alternatives of conjunctions.
  have conjunction : Gives (do return groupIfMany (← separated (word "and") rules.inversion)) Node.WellFormed := by
    have inversions := (gives_inversion given).separated (word "and")
    mvcgen [inversions]
    exact wellFormed_groupIfMany ‹_›
  have conjunctions := conjunction.separated (word "or")
  mvcgen [alternatives, conjunctions]
  simp_all [wellFormed_groupIfMany]

end Expressions

end Rules

namespace Parameters

/-- All that stands in parameters is well formed. -/
@[mk_iff] structure WellFormed (found : Parameters) : Prop where
  positional : ∀ node ∈ found.positional, node.WellFormed
  defaults : ∀ node ∈ found.defaults, node.WellFormed
  variadic : ∀ node ∈ found.variadic, node.WellFormed
  named : ∀ node ∈ found.named, node.WellFormed
  namedDefaults : ∀ node ∈ found.namedDefaults, node.WellFormed
  remaining : ∀ node ∈ found.remaining, node.WellFormed

/-- Well formed parameters make a well formed construct. -/
theorem WellFormed.node {found : Parameters} (shaped : found.WellFormed) : found.node.WellFormed := by
  grind [Parameters.node, Node.wellFormed_group, wellFormed_iff]

/-- A parameter is well formed if its annotation is. -/
theorem gives_parameter {hint : Option (Reading Node)} (given : ∀ rule ∈ hint, Gives rule Node.WellFormed) :
    Gives (parameter hint) Node.WellFormed := by
  -- Without an annotation a parameter is no more than its name.
  cases hint with
  | none =>
    mvcgen [parameter]
    all_goals simp_all
  | some rule =>
    have rule := given rule rfl
    mvcgen [parameter, rule]
    all_goals simp_all

/-- Well formed parameters stay so with one more of them. -/
theorem gives_add {found : Parameters} {node : Node} {default : List Node} (shaped : found.WellFormed)
    (parameter : node.WellFormed) (each : ∀ node ∈ default, node.WellFormed) :
    Gives (found.add node default) WellFormed := by
  -- In either list the parameter comes behind those found before.
  mvcgen [add]
  all_goals grind [wellFormed_iff]

section Given

variable (given : rules.WellFormed)

include given

/-- A default is well formed. -/
theorem gives_default? : Gives (default? rules) fun found => ∀ node ∈ found, node.WellFormed := by
  -- Without a default there is none to look at.
  have expression := given.expression
  mvcgen [default?, expression]
  all_goals simp_all

/-- Well formed parameters stay so with the next item. -/
theorem gives_item (annotated : Bool) {found : Parameters} (shaped : found.WellFormed) :
    Gives (item rules annotated found) fun result => result.1.WellFormed := by
  -- Only where annotations are allowed is there a rule for them, and it is one for expressions.
  have hint : ∀ rule ∈ (if annotated then some rules.expression else none), Gives rule Node.WellFormed := by
    have expression := given.expression
    split <;> simp_all
  have starredHint : ∀ rule ∈ (if annotated then some (rules.starredOr rules.expression) else none),
      Gives rule Node.WellFormed := by
    have expression := Rules.gives_starredOr given given.expression
    split <;> simp_all
  have parameter := gives_parameter hint
  have variadic := gives_parameter starredHint
  have default := gives_default? given
  have added (node : Node) (default : List Node) (parameter : node.WellFormed)
    (each : ∀ node ∈ default, node.WellFormed) := gives_add shaped parameter each
  -- A separator adds no parameter, and any other item adds one with its default.
  mvcgen [item, parameter, variadic, default, added]
  all_goals simp_all [wellFormed_iff]

/-- Well formed parameters stay so up to the closing token. -/
theorem gives_itemsFrom (annotated : Bool) (closing : Lexeme) (fuel : Nat) :
    ∀ {found : Parameters}, found.WellFormed → Gives (itemsFrom rules annotated closing found fuel) WellFormed := by
  have item (found : Parameters) (shaped : found.WellFormed) := gives_item given annotated shaped
  -- One step takes one item, with the parameters found so far handed on.
  induction fuel with
  | zero =>
    intro found shaped
    mvcgen [itemsFrom]
    simp_all
  | succ fuel ih =>
    intro found shaped
    rw [itemsFrom]
    -- The bound that is left is enough for the items behind.
    have further (found : Parameters) (shaped : found.WellFormed) := ih shaped
    mvcgen [item, further]
    all_goals simp_all

/-- The parameters of a function are well formed. -/
theorem gives_read (annotated : Bool) (closing : Lexeme) : Gives (read rules annotated closing) Node.WellFormed := by
  -- Reading starts without parameters, and the parts of those found make one construct.
  have none : Parameters.WellFormed {} := by constructor <;> simp
  have found (fuel : Nat) := gives_itemsFrom given annotated closing fuel none
  mvcgen [read, found]
  exact WellFormed.node ‹_›

end Given

end Parameters

namespace Rules

/-- An anonymous function is well formed. -/
theorem gives_anonymous (given : rules.WellFormed) : Gives rules.anonymous Node.WellFormed := by
  -- The expression stands behind the parameters.
  have parameters := Parameters.gives_read given
  have expression := given.expression
  mvcgen [anonymous, parameters, expression]
  simp_all

/-- An expression of any form is well formed. -/
theorem gives_conditional (given : rules.WellFormed) : Gives rules.conditional Node.WellFormed := by
  -- An anonymous function starts with a word of its own, and all else with alternatives.
  have anonymous := gives_anonymous given
  have alternatives := gives_alternatives given
  have expression := given.expression
  mvcgen [conditional, anonymous, alternatives, expression]
  simp_all

end Rules

end AssetCatalog.Source
