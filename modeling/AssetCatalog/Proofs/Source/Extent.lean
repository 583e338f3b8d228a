import AssetCatalog.Proofs.Source.Statement
import Mathlib

/-! Where the strings of constructs stand among the tokens that they are read from. -/

set_option mvcgen.warning false

open Std.Do

namespace AssetCatalog.Source

/-- The places of the strings among tokens. -/
def stringPlaces (tokens : List Token) : List Position :=
  tokens.filterMap fun token =>
    match token.lexeme with
    | .string _ => some token.position
    | _ => none

namespace Kind

/-- Whether a construct is a string. -/
@[grind] def isText : Kind → Bool
  | .text _ _ => true
  | _ => false

/-- Whether the parts of a construct may come in another order than in the source. -/
def isFree : Kind → Bool
  | .call | .other => true
  | _ => false

end Kind

/-- The strings of a construct stand at some places, all strings of a part before those of the next one. -/
inductive Node.StringsAt : Node → List Position → Prop where
  /-- A string stands at its own place. -/
  | text (value : Text) (position : Position) : StringsAt ⟨.text value position, []⟩ [position]
  /-- The parts stand one behind the other, in their own order unless the construct is free in that. -/
  | parts {kind : Kind} {children ordered : List Node} {places : List (List Position)} (other : kind.isText = false)
    (same : ordered.Perm children) (kept : kind.isFree = false → ordered = children)
    (each : List.Forall₂ StringsAt ordered places) : StringsAt ⟨kind, children⟩ places.flatten

/-- Constructs are read one behind the other from the tokens in front of the rest. -/
def Lies (before after : List Token) (nodes : List Node) : Prop :=
  ∃ taken places, before = taken ++ after ∧ List.Forall₂ Node.StringsAt nodes places ∧
    places.flatten.Sublist (stringPlaces taken)

namespace Lies

variable {before middle after : List Token} {nodes others : List Node} {kind : Kind}

/-- Nothing is read from no tokens. -/
theorem nil (tokens : List Token) : Lies tokens tokens [] :=
  ⟨[], [], rfl, .nil, List.nil_sublist _⟩

/-- What is read from further tokens stands behind what was read before. -/
theorem append (first : Lies before middle nodes) (second : Lies middle after others) :
    Lies before after (nodes ++ others) := by
  -- The tokens taken stand behind one another, and so do the places of the strings in them.
  obtain ⟨taken, places, rfl, each, inside⟩ := first
  obtain ⟨more, further, rfl, also, within⟩ := second
  refine ⟨taken ++ more, places ++ further, (List.append_assoc ..).symm, List.rel_append each also, ?_⟩
  rw [List.flatten_append, stringPlaces, List.filterMap_append]
  exact inside.append within

/-- The first constructs that are read make one construct, with its parts in another order if it is free. -/
theorem exchange {parts : List Node} (rest : List Node) (lies : Lies before after (nodes ++ rest))
    (other : kind.isText = false) (same : nodes.Perm parts) (kept : kind.isFree = false → nodes = parts) :
    Lies before after (⟨kind, parts⟩ :: rest) := by
  -- The places of the first constructs become those of the one, and the rest keep theirs.
  obtain ⟨taken, places, rfl, each, inside⟩ := lies
  have first := List.forall₂_take nodes.length each
  have further := List.forall₂_drop nodes.length each
  rw [List.take_left] at first
  rw [List.drop_left] at further
  refine ⟨taken, _ :: _, rfl, .cons (.parts other same kept first) further, ?_⟩
  rwa [List.flatten_cons, ← List.flatten_append, List.take_append_drop]

/-- Constructs that are read can be held together. -/
theorem group (lies : Lies before after nodes) : Lies before after [.group nodes] :=
  exchange [] (by rwa [List.append_nil]) rfl (.refl nodes) fun _ => rfl

/-- Some of the constructs that are read may be left out. -/
theorem sublist (lies : Lies before after nodes) (fewer : others.Sublist nodes) : Lies before after others := by
  obtain ⟨taken, places, rfl, each, inside⟩ := lies
  suffices kept : ∃ left, List.Forall₂ Node.StringsAt others left ∧ left.flatten.Sublist places.flatten by
    -- The tokens stay the same, only fewer of their places are told.
    obtain ⟨left, also, within⟩ := kept
    exact ⟨taken, left, rfl, also, within.trans inside⟩
  -- The induction is on which constructs are kept; the places of the others are passed over.
  clear inside
  induction fewer generalizing places with
  | slnil => exact ⟨[], .nil, List.nil_sublist _⟩
  | cons node _ ih =>
    obtain _ | ⟨_, rest⟩ := each
    obtain ⟨left, also, within⟩ := ih _ rest
    exact ⟨left, also, List.sublist_append_of_sublist_right within⟩
  | cons_cons node _ ih =>
    obtain _ | ⟨here, rest⟩ := each
    obtain ⟨left, also, within⟩ := ih _ rest
    exact ⟨_ :: left, .cons here also, (List.Sublist.refl _).append within⟩

/-- All that is read may be left out. -/
theorem none (lies : Lies before after nodes) : Lies before after [] :=
  lies.sublist (List.nil_sublist _)

/-- The first of several strings stands where it does, whatever its value is. -/
theorem text {value : Text} {position : Position} (lies : Lies before after (⟨.text value position, []⟩ :: nodes))
    (other : Text) : Lies before after [⟨.text other position, []⟩] := by
  -- The place of a string is all that is asked for, and a string has no parts with places of their own.
  obtain ⟨taken, places, same, each, inside⟩ := lies.sublist (List.singleton_sublist.mpr List.mem_cons_self)
  refine ⟨taken, places, same, ?_, inside⟩
  obtain _ | ⟨here, _ | _⟩ := each
  cases here with
  | text => exact .cons (.text other position) .nil
  | parts isOther => cases isOther

end Lies

/-- Constructs that have been read, one step after the other, since a first step began. -/
def Passed (start now : List Token) (nodes : List Node) : Prop :=
  Lies start now nodes

/-- Constructs that have been read since a first step began, in some order. -/
def Spread (start now : List Token) (nodes : List Node) : Prop :=
  ∃ ordered, ordered.Perm nodes ∧ Passed start now ordered

namespace Passed

variable {start now after : List Token} {nodes others rest : List Node} {kind : Kind}

/-- With one more step there are more constructs, behind those before. -/
@[grind →] theorem step (passed : Passed start now nodes) (lies : Lies now after others) :
    Passed start after (nodes ++ others) :=
  Lies.append passed lies

/-- Three steps at once. -/
@[grind →] theorem steps {first second : List Token} {more further : List Node} (passed : Passed start now nodes)
    (one : Lies now first others) (two : Lies first second more) (three : Lies second after further) :
    Passed start after (nodes ++ others ++ more ++ further) :=
  ((passed.step one).step two).step three

/-- Constructs that have been read make one construct with them as its parts. -/
@[grind ←] theorem node (nodes : List Node) (passed : Passed start now (nodes ++ rest))
    (other : kind.isText = false) : Passed start now (⟨kind, nodes⟩ :: rest) :=
  Lies.exchange rest passed other (.refl nodes) fun _ => rfl

/-- Constructs that have been read can be held together. -/
theorem group (nodes : List Node) (passed : Passed start now (nodes ++ rest)) :
    Passed start now (.group nodes :: rest) :=
  node nodes passed rfl

/-- Constructs that have been read can be held together in any order. -/
theorem regroup (passed : Passed start now nodes) (same : nodes.Perm others) : Passed start now [.group others] :=
  Lies.exchange [] (by rwa [List.append_nil]) rfl same (nomatch ·)

/-- Constructs that have been read one behind the other have been read in some order. -/
@[grind ←] theorem spread (passed : Passed start now nodes) : Spread start now nodes :=
  ⟨nodes, .refl nodes, passed⟩

end Passed

namespace Spread

variable {start now after : List Token} {nodes others : List Node} {node : Node}

/-- With one more step there are more constructs. -/
@[grind →] theorem step (spread : Spread start now nodes) (lies : Lies now after others) :
    Spread start after (nodes ++ others) := by
  -- What is read last stands behind the others, whatever order these are in.
  obtain ⟨ordered, same, passed⟩ := spread
  exact ⟨ordered ++ others, same.append_right others, passed.step lies⟩

/-- Of constructs that have been read, some may be left out and the others taken in any order. -/
theorem subperm (spread : Spread start now nodes) (fewer : others.Subperm nodes) : Spread start now others := by
  -- The order in which they were read is kept by those that are not left out.
  obtain ⟨ordered, same, passed⟩ := spread
  obtain ⟨left, also, within⟩ := (List.Perm.subperm_left same).mpr fewer
  exact ⟨left, also, Lies.sublist passed within⟩

/-- A construct may come later than it is read. -/
@[grind ←] theorem later {more : List Node} (spread : Spread start now (nodes ++ node :: (others ++ more))) :
    Spread start now (nodes ++ (others ++ node :: more)) :=
  spread.subperm (List.perm_middle.append_left nodes).subperm

/-- Constructs that have been read in some order can be held together. -/
@[grind ←] theorem group (spread : Spread start now nodes) : Passed start now [.group nodes] := by
  -- A group is free in the order of its parts.
  obtain ⟨ordered, same, passed⟩ := spread
  exact passed.regroup same

/-- Constructs that have been read in some order make a call. -/
@[grind ←] theorem call (spread : Spread start now nodes) : Passed start now [⟨.call, nodes⟩] := by
  -- A call is free in the order of its parts, as its arguments are sorted by their kind.
  obtain ⟨ordered, same, passed⟩ := spread
  exact Lies.exchange [] (by rwa [List.append_nil]) rfl same (nomatch ·)

end Spread

namespace Reading

variable {α β : Type} {step : Reading α} {constructs : α → List Node} {before : List Token}

/-- A step reads constructs one behind the other. -/
def Reads (step : Reading α) (constructs : α → List Node) : Prop :=
  ∀ before found after, step.run before = .ok (found, after) → Lies before after (constructs found)

/-- What a step gives from some tokens on has a property, together with the tokens that it leaves. -/
abbrev StartingAt (before : List Token) (step : Reading α) (property : α → List Token → Prop) : Prop :=
  ⦃fun tokens => ⌜tokens = before⌝⦄ step ⦃⇓? found after => ⌜property found after⌝⦄

/-- What a step gives from some tokens on has a property exactly if the outcome of its run has. -/
theorem startingAt_iff {property : α → List Token → Prop} : StartingAt before step property ↔
    ∀ found after, step.run before = .ok (found, after) → property found after := by
  -- The property is one for the tokens before the step, so these are named in what is asked of a run.
  have each : StartingAt before step property ↔ ∀ tokens, tokens = before →
      ∀ found after, step.run tokens = .ok (found, after) → property found after := by
    rw [StartingAt, Triple.iff]
    refine forall_congr' fun tokens => ?_
    simp only [wp, PredTrans.apply_pushArg]
    cases step.run tokens with
    | error refusal => exact ⟨fun _ _ _ _ ended => (nomatch ended), fun _ _ => trivial⟩
    | ok result =>
      constructor
      · intro holds same found after ended
        cases ended
        exact holds same
      · exact fun holds same => holds same _ _ rfl
  -- There is only one such list of tokens.
  rw [each, forall_eq]

/-- What a step reads, told of the tokens at which it starts. -/
theorem Reads.startingAt (reads : Reads step constructs) (before : List Token) :
    StartingAt before step fun found after => Lies before after (constructs found) :=
  startingAt_iff.mpr (reads before)

/-- A step reads constructs if its parts do so, one after the other. -/
theorem reads_of_startingAt (starting : ∀ before, StartingAt before step fun found after =>
    ∀ start, Passed start before [] → Passed start after (constructs found)) : Reads step constructs :=
  fun before found after ended => startingAt_iff.mp (starting before) found after ended before (.nil before)

/-- Constructs that are read each by itself are read as they are. -/
theorem Reads.nodes {step : Reading (List Node)} (reads : Reads step fun found => found.flatMap fun one => [one]) :
    Reads step fun found => found := by
  simpa using reads

/-- What is read with one construct each are these constructs. -/
theorem Reads.map {step : Reading (List α)} {value : α → Node}
    (reads : Reads step fun found => found.flatMap fun one => [value one]) :
    Reads step fun found => found.map value := by
  simpa only [List.map_eq_flatMap] using reads

/-- Steps that each read nothing read nothing. -/
theorem Reads.nothing {step : Reading (List α)} (reads : Reads step fun found => found.flatMap fun _ => []) :
    Reads step fun _ => [] := by
  -- Nothing as often as there are steps is nothing.
  have none (found : List α) : (found.flatMap fun _ => ([] : List Node)) = [] :=
    List.flatMap_eq_nil_iff.mpr fun _ _ => rfl
  simpa only [none] using reads

/-- What is refused reads nothing. -/
@[spec 2000] theorem startingAt_refuse (before : List Token) :
    StartingAt before (refuse : Reading α) fun _ _ => False :=
  startingAt_iff.mpr fun _ _ ended => (nomatch ended)

/-- A token that is passed is no construct. -/
theorem reads_advance : Reads advance fun _ => [] := by
  -- The token is passed if there is one, and leaves nothing behind.
  intro before found after ended
  cases ended
  cases before with
  | nil => exact .nil []
  | cons token rest => exact ⟨[token], [], rfl, .nil, List.nil_sublist _⟩

/-- The token at hand is left. -/
theorem reads_peek : Reads peek fun _ => [] := by
  -- Such a step looks at one token, if there is one.
  intro before found after ended
  cases before <;> cases ended <;> exact .nil _

/-- The token behind the one at hand is left. -/
theorem reads_peekNext : Reads peekNext fun _ => [] := by
  intro before found after ended
  -- The step looks at no more than two tokens.
  rcases before with _ | ⟨_, _ | ⟨_, _⟩⟩ <;> cases ended <;> exact .nil _

/-- To pass a token reads nothing. -/
@[spec 2000] theorem startingAt_advance (before : List Token) :
    StartingAt before advance fun _ after => Lies before after [] :=
  reads_advance.startingAt before

/-- To look at a token reads nothing. -/
@[spec 2000] theorem startingAt_peek (before : List Token) :
    StartingAt before peek fun _ after => Lies before after [] :=
  reads_peek.startingAt before

/-- To look at the token behind reads nothing. -/
@[spec 2000] theorem startingAt_peekNext (before : List Token) :
    StartingAt before peekNext fun _ after => Lies before after [] :=
  reads_peekNext.startingAt before

/-- A token that may be left out is no construct. -/
theorem reads_accept (lexeme : Lexeme) : Reads (accept lexeme) fun _ => [] := by
  -- One token is passed at most.
  refine reads_of_startingAt fun before => ?_
  unfold accept
  mvcgen
  all_goals grind

/-- To accept a token reads nothing. -/
@[spec 2000] theorem startingAt_accept (before : List Token) (lexeme : Lexeme) :
    StartingAt before (accept lexeme) fun _ after => Lies before after [] :=
  (reads_accept lexeme).startingAt before

/-- A token that must come is no construct. -/
theorem reads_expect (lexeme : Lexeme) : Reads (expect lexeme) fun _ => [] := by
  -- Any other token ends the reading.
  refine reads_of_startingAt fun before => ?_
  unfold expect
  mvcgen
  all_goals grind

/-- To expect a token reads nothing. -/
@[spec 2000] theorem startingAt_expect (before : List Token) (lexeme : Lexeme) :
    StartingAt before (expect lexeme) fun _ after => Lies before after [] :=
  (reads_expect lexeme).startingAt before

/-- A name that is passed is no construct. -/
theorem reads_name : Reads name fun _ => [] := by
  -- The name is one token.
  refine reads_of_startingAt fun before => ?_
  unfold name
  mvcgen
  all_goals grind

/-- To pass a name reads nothing. -/
@[spec 2000] theorem startingAt_name (before : List Token) :
    StartingAt before name fun _ after => Lies before after [] :=
  reads_name.startingAt before

/-- Behind a step that reads nothing, what is read is what the next step reads. -/
theorem Reads.bind {first : Reading β} {next : β → Reading α} (none : Reads first fun _ => [])
    (each : ∀ found, Reads (next found) constructs) : Reads (first >>= next) constructs := by
  -- The first step only moves on, and the second one starts where it ends.
  refine reads_of_startingAt fun before => ?_
  have first := none.startingAt
  have next found := (each found).startingAt
  mvcgen [first, next]
  all_goals grind

/-- The first of two steps that is not refused gives what either of them gives. -/
theorem Reads.orElse {first second : Reading α} (either : Reads first constructs) (other : Reads second constructs) :
    Reads (orElse first second) constructs := by
  -- The second step starts where the first one did.
  intro before found after ended
  simp only [StateT.run, Reading.orElse] at ended
  split at ended
  · exact other before found after ended
  · exact either before found after ended

/-- Steps one after the other give what each of them gives. -/
theorem Reads.repeatSteps {step : Reading (Option α)} (each : Reads step fun found => found.toList.flatMap constructs)
    (fuel : Nat) : Reads (repeatSteps step fuel) fun found => found.flatMap constructs := by
  -- The constructs of the first step come in front of those of the steps behind it.
  induction fuel with
  | zero =>
    refine reads_of_startingAt fun before => ?_
    mvcgen [Reading.repeatSteps]
    grind
  | succ fuel ih =>
    refine reads_of_startingAt fun before => ?_
    have one := each.startingAt
    have rest := ih.startingAt
    mvcgen [Reading.repeatSteps, one, rest]
    all_goals grind

/-- A step as often as it gives anything gives what it gives each time. -/
theorem Reads.many {step : Reading (Option α)} (each : Reads step fun found => found.toList.flatMap constructs) :
    Reads (many step) fun found => found.flatMap constructs := by
  -- The number of times is bounded by the tokens, which is all that fuel stands for.
  refine reads_of_startingAt fun before => ?_
  have steps fuel := (each.repeatSteps fuel).startingAt
  mvcgen [Reading.many, steps]
  all_goals grind

/-- A step that may be left out gives what it gives otherwise. -/
theorem Reads.whenever (reads : Reads step constructs) (starts : Lexeme → Bool) :
    Reads (whenever starts step) fun found => found.toList.flatMap constructs := by
  -- The next token tells whether the step is taken.
  refine reads_of_startingAt fun before => ?_
  have one := reads.startingAt
  mvcgen [Reading.whenever, one]
  all_goals grind

/-- Items with commas between them are what each item is. -/
theorem Reads.itemsAfterComma {item : Reading α} (each : Reads item constructs) (starts : Lexeme → Bool) (fuel : Nat) :
    Reads (itemsAfterComma starts item fuel) fun found => found.flatMap constructs := by
  -- Between two items is a comma, which takes a token and holds no construct.
  induction fuel with
  | zero =>
    refine reads_of_startingAt fun before => ?_
    mvcgen [Reading.itemsAfterComma]
    grind
  | succ fuel ih =>
    refine reads_of_startingAt fun before => ?_
    have one := each.startingAt
    have rest := ih.startingAt
    mvcgen [Reading.itemsAfterComma, one, rest]
    all_goals grind

/-- Any number of items are what each item is. -/
theorem Reads.items {item : Reading α} (each : Reads item constructs) (starts : Lexeme → Bool) :
    Reads (items starts item) fun found => found.flatMap constructs := by
  -- The number of items is bounded by the tokens.
  refine reads_of_startingAt fun before => ?_
  have steps fuel := (each.itemsAfterComma starts fuel).startingAt
  mvcgen [Reading.items, steps]
  all_goals grind

/-- What stands behind each of some tokens is what one step gives. -/
theorem Reads.behind (each : Reads step constructs) (lexeme : Lexeme) :
    Reads (behind lexeme step) fun found => found.flatMap constructs := by
  -- Each round passes one token and takes the step.
  refine Reads.many (reads_of_startingAt fun before => ?_)
  have one := each.startingAt
  mvcgen [one]
  all_goals grind

/-- At least one item with tokens between neighbours are what each item is. -/
theorem Reads.separated {item : Reading α} (each : Reads item constructs) (lexeme : Lexeme) :
    Reads (separated lexeme item) fun found => found.flatMap constructs := by
  -- The first item stands by itself, and each other one behind a token.
  refine reads_of_startingAt fun before => ?_
  have one := each.startingAt
  have rest := (each.behind lexeme).startingAt
  mvcgen [Reading.separated, one, rest]
  all_goals grind

end Reading

end AssetCatalog.Source
