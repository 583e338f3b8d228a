import AssetCatalog.Proofs.Module.Lines
import Mathlib.Data.Prod.Lex

/-! The outline of the emitted classes: which lines are blank, how far the others are indented, and in what order
the constants and the classes of a class stand. -/

namespace AssetCatalog.Layout

open Asset (Node)

/-- A line of the emitted classes by what it is for, with its depth where that is not fixed. -/
inductive Line where
  /-- A line with nothing on it. -/
  | blank
  /-- The line that opens a class. -/
  | opens (depth : Nat) (name : Text)
  /-- The docstring of the outermost class. -/
  | docstring
  /-- The filler of a class without constants and classes. -/
  | filler (depth : Nat)
  /-- The comment in front of a constant. -/
  | comment (depth : Nat) (path : Text)
  /-- The line of a constant. -/
  | constant (depth : Nat) (name path : Text)
deriving DecidableEq

namespace Line

/-- What stands on a line. -/
def text : Line → Text
  | .blank => []
  | .opens depth name => indent depth ++ "class " ++ name ++ "(_AssetGroup):"
  | .docstring => indent 1 ++ rootDocstring
  | .filler depth => indent depth ++ "pass"
  | .comment depth path => indent depth ++ "#: Path: " ++ Literal.escape path
  | .constant depth name path => indent depth ++ name ++ ": Final = " ++ Literal.quote path

/-- The depth of a line that is not blank. -/
def depth? : Line → Option Nat
  | .blank => none
  | .docstring => some 1
  | .opens depth _ | .filler depth | .comment depth _ | .constant depth _ _ => some depth

/-- Whether a line opens a class. -/
def isOpening : Line → Bool
  | .opens _ _ => true
  | _ => false

/-- Whether a line is the last one of what it belongs to, except for a blank one behind it. -/
def isLast : Line → Bool
  | .docstring | .filler _ | .constant _ _ _ => true
  | _ => false

/-- Whether a line lies within a class that is opened at a depth: it is deeper, or blank. -/
def isWithin (depth : Nat) (line : Line) : Bool :=
  line.depth?.all (depth < ·)

/-- The constant or the class that a line adds to a class around it; constants rank before classes, and those of
one kind by their names. -/
def member? (depth : Nat) : Line → Option (Bool ×ₗ Text)
  | .constant own name _ => if own = depth then some (toLex (false, name)) else none
  | .opens own name => if own = depth then some (toLex (true, name)) else none
  | _ => none

end Line

/-- Lines are the body of a class that is opened at a depth. -/
structure IsBody (depth : Nat) (body : List Line) : Prop where
  /-- There is a line, and it is one step deeper. -/
  filled : body.head?.bind Line.depth? = some (depth + 1)
  /-- The constants are in the order of their names, and the classes behind them too. -/
  ordered : (body.filterMap (Line.member? (depth + 1))).Pairwise (· ≤ ·)

/-- A line stands in its place in front of the lines behind it. -/
structure Placed (line : Line) (behind : List Line) : Prop where
  /-- A blank line has no other one behind it. -/
  spaced : line = .blank → behind.head? ≠ some .blank
  /-- A constant has a blank line behind it, and so have a filler and the docstring. -/
  closed : line.isLast = true → behind.head? = some .blank
  /-- A comment has the constant of its path behind it. -/
  commented : ∀ depth path, line = .comment depth path → ∃ name, behind.head? = some (.constant depth name path)
  /-- Only a line that opens a class has a deeper one behind it. -/
  level : ∀ depth ∈ line.depth?, line.isOpening = false → ∀ next ∈ behind.findSome? Line.depth?, next ≤ depth
  /-- A line that opens a class has the body of the class behind it. -/
  body : ∀ depth name, line = .opens depth name → IsBody depth (behind.takeWhile (Line.isWithin depth))

/-- Each of some lines stands in its place. -/
def Regular (lines : List Line) : Prop :=
  ∀ line behind, line :: behind <:+ lines → Placed line behind

/-- A child of a node is smaller than the node. -/
theorem sizeOf_lt_of_mem_groups {node group : Node} (member : group ∈ node.groups) : sizeOf group < sizeOf node := by
  -- Groups are children that were sorted, and children are smaller.
  have below := (List.mem_filter.mp ((Text.sortBy_perm _ _).subset member)).1
  have smaller := List.sizeOf_lt_of_mem below
  cases node
  simp only [Node.mk.sizeOf_spec] at smaller ⊢
  omega

/-- The lines that open the body of a class. -/
def openingOutline (depth : Nat) (isEmpty : Bool) : List Line :=
  if depth = 0 then [.docstring, .blank]
  else if isEmpty then [.filler (depth + 1), .blank]
  else []

/-- The lines of one constant. -/
def constantOutline (base : Text) (depth : Nat) (leaf : Node) : List Line :=
  let path := webPath base (leaf.relative.getD [])
  [.comment depth path, .constant depth leaf.name path, .blank]

/-- The outline of the class of a group. -/
def outline (base : Text) (depth : Nat) (node : Node) : List Line :=
  .opens depth node.name :: openingOutline depth node.children.isEmpty
    ++ node.leaves.flatMap (constantOutline base (depth + 1))
    ++ node.groups.attach.flatMap fun group => outline base (depth + 1) group.1
termination_by sizeOf node
decreasing_by exact sizeOf_lt_of_mem_groups group.2

/-- The outline of the body of a class: the classes below follow the constants. -/
def bodyOutline (base : Text) (depth : Nat) (node : Node) : List Line :=
  openingOutline depth node.children.isEmpty
    ++ node.leaves.flatMap (constantOutline base (depth + 1))
    ++ node.groups.flatMap (outline base (depth + 1))

/-- The outline of a class is the line that opens it and the outline of its body. -/
theorem outline_eq (base : Text) (depth : Nat) (node : Node) :
    outline base depth node = .opens depth node.name :: bodyOutline base depth node := by
  -- Membership in the list of groups was attached for the recursion only.
  rw [outline, List.flatMap_subtype (g := outline base (depth + 1)) (fun _ _ => rfl), List.unattach_attach]
  simp [bodyOutline]

/-- Lines are complete at a depth: they are in their places, the first one is at the depth and none is less deep, and
they end in a blank one. -/
structure Complete (depth : Nat) (lines : List Line) : Prop where
  /-- Each line is in its place. -/
  regular : Regular lines
  /-- The first line is at the depth. -/
  first : ∀ line ∈ lines.head?, line.depth? = some depth
  /-- No line is less deep. -/
  deep : ∀ line ∈ lines, ∀ own ∈ line.depth?, depth ≤ own
  /-- The last line is blank. -/
  ended : ∀ line ∈ lines.getLast?, line = .blank

/-- No lines are regular. -/
theorem regular_nil : Regular [] := fun _ _ suffix => by simp at suffix

/-- A line in its place in front of regular lines makes regular lines with them. -/
theorem Regular.cons {line : Line} {behind : List Line} (regular : Regular behind) (placed : Placed line behind) :
    Regular (line :: behind) := by
  -- A suffix begins at the new line, or lies within the lines behind it.
  intro other rest suffix
  rcases List.suffix_cons_iff.mp suffix with whole | inside
  · obtain ⟨rfl, rfl⟩ := List.cons.inj whole
    exact placed
  · exact regular other rest inside

namespace Complete

variable {depth : Nat} {lines further : List Line}

/-- The next line behind lines that complete ones follow is their own, or it is at the depth. -/
theorem findSome?_append (complete : Complete depth further) {next : Nat}
    (found : next ∈ (lines ++ further).findSome? Line.depth?) : next ∈ lines.findSome? Line.depth? ∨ next = depth := by
  -- The first line that has a depth is one of the lines, or the first one of those that follow.
  rw [List.findSome?_append, Option.mem_def, Option.or_eq_some_iff] at found
  rcases found with own | ⟨-, other⟩
  · exact .inl own
  · cases further with
    | nil => simp at other
    | cons line rest =>
      have first : line.depth? = some depth := complete.first line rfl
      rw [List.findSome?_cons_of_isSome (by simp [first]), first] at other
      exact .inr (Option.some.inj other).symm

/-- The body of a class ends in front of complete lines that are not deeper than the class. -/
theorem takeWhile_append (complete : Complete depth further) {own : Nat} (deep : depth ≤ own) :
    (lines ++ further).takeWhile (Line.isWithin own) = lines.takeWhile (Line.isWithin own) := by
  -- Complete lines begin at their depth, where no body of a class around them goes on.
  have stops : further.takeWhile (Line.isWithin own) = [] := by
    cases further with
    | nil => rfl
    | cons line rest =>
      have first : line.depth? = some depth := complete.first line rfl
      have outside : line.isWithin own = false := by simp [Line.isWithin, first, deep]
      exact List.takeWhile_cons_of_neg (by simp [outside])
  rw [List.takeWhile_append, stops]
  split
  · next whole => rw [List.append_nil, (List.takeWhile_prefix _).eq_of_length whole]
  · rfl

/-- A line stays in its place when complete lines that are not deeper come behind. -/
theorem placed_append (complete : Complete depth further) {line : Line} (placed : Placed line lines)
    (deep : ∀ own ∈ line.depth?, depth ≤ own) : Placed line (lines ++ further) where
  -- What may stand behind a line is told by the next one, which is as it was or opens the complete lines.
  spaced blank head := by
    rw [List.head?_append, Option.or_eq_some_iff] at head
    rcases head with own | ⟨-, other⟩
    · exact placed.spaced blank own
    · have first := complete.first .blank other
      simp [Line.depth?] at first
  closed last := by rw [List.head?_append, placed.closed last, Option.some_or]
  commented own path comment := by
    obtain ⟨name, head⟩ := placed.commented own path comment
    exact ⟨name, by rw [List.head?_append, head, Option.some_or]⟩
  level own known notOpening next found := by
    rcases complete.findSome?_append found with inside | rfl
    · exact placed.level own known notOpening next inside
    · exact deep own known
  body own name opening := by
    have within : depth ≤ own := deep own (by rw [opening]; rfl)
    rw [complete.takeWhile_append within]
    exact placed.body own name opening

/-- No lines are complete at every depth. -/
theorem nil : Complete depth [] where
  regular := regular_nil
  first := by simp
  deep := by simp
  ended := by simp

/-- Complete lines behind complete ones are complete together. -/
theorem append (here : Complete depth lines) (behind : Complete depth further) :
    Complete depth (lines ++ further) where
  -- What is behind a line are the rest of its own lines and all that come behind these, or some of the latter.
  regular line rest suffix := by
    obtain ⟨front, cut⟩ := suffix
    rw [List.append_eq_append_iff] at cut
    obtain ⟨within, rfl, same⟩ | ⟨within, rfl, same⟩ := cut
    · cases within with
      | nil => exact behind.regular line rest ⟨[], by simpa using same⟩
      | cons next within =>
        obtain ⟨rfl, rfl⟩ := List.cons.inj same
        refine behind.placed_append (here.regular _ within ⟨front, rfl⟩) ?_
        exact here.deep _ (by simp)
    · exact behind.regular line rest ⟨within, same.symm⟩
  first line head := by
    rw [List.head?_append, Option.mem_def, Option.or_eq_some_iff] at head
    rcases head with own | ⟨-, other⟩
    · exact here.first line own
    · exact behind.first line other
  deep line member := (List.mem_append.mp member).elim (here.deep line) (behind.deep line)
  ended line last := by
    rw [List.getLast?_append, Option.mem_def, Option.or_eq_some_iff] at last
    rcases last with other | ⟨-, own⟩
    · exact behind.ended line other
    · exact here.ended line own

/-- The lines of several items are complete if those of each item are. -/
theorem flatMap {α : Type} {items : List α} {emit : α → List Line} (each : ∀ item ∈ items, Complete depth (emit item)) :
    Complete depth (items.flatMap emit) := by
  -- Induction on the items, whose lines stand one behind the other.
  induction items with
  | nil => exact nil
  | cons item rest ih =>
    rw [List.flatMap_cons]
    exact (each item List.mem_cons_self).append (ih fun other member => each other (List.mem_cons_of_mem _ member))

/-- A line in its place in front of lines that are complete at its depth or deeper is complete with them. -/
theorem cons {own : Nat} {line : Line} (behind : Complete depth lines) (deep : own ≤ depth) (filled : lines ≠ [])
    (placed : Placed line lines) (known : line.depth? = some own) : Complete own (line :: lines) where
  -- What stands behind the line has its depth from the lines, and these are not higher than the line.
  regular := behind.regular.cons placed
  first := by simpa using known
  deep other member of owned := by
    rcases List.mem_cons.mp member with rfl | inside
    · exact (Option.some.inj (known.symm.trans owned)).le
    · exact deep.trans (behind.deep other inside of owned)
  ended other last := by
    rw [List.getLast?_cons_of_ne_nil filled] at last
    exact behind.ended other last

/-- Complete lines one step deeper are within a class. -/
theorem takeWhile_eq (complete : Complete (depth + 1) lines) : lines.takeWhile (Line.isWithin depth) = lines := by
  -- Each line is deeper than the class, if it has a depth at all.
  refine List.takeWhile_eq_self_iff.mpr fun line member => ?_
  have deeper : ∀ own ∈ line.depth?, depth < own := complete.deep line member
  simpa [Line.isWithin, Option.all_eq_true] using deeper

/-- Complete lines one step deeper than a class add nothing to those around the class. -/
theorem filterMap_member?_eq_nil (complete : Complete (depth + 1) lines) :
    lines.filterMap (Line.member? depth) = [] := by
  -- The members of the class around are at its own depth.
  refine List.filterMap_eq_nil_iff.mpr fun line member => ?_
  have deeper : ∀ own ∈ line.depth?, depth < own := complete.deep line member
  cases line with
  | opens own _ => exact if_neg (deeper own rfl).ne'
  | constant own _ _ => exact if_neg (deeper own rfl).ne'
  | _ => rfl

/-- A class is complete if its body is, which is one step deeper, not empty and in order. -/
theorem opens (name : Text) (body : Complete (depth + 1) lines) (filled : lines ≠ [])
    (ordered : (lines.filterMap (Line.member? (depth + 1))).Pairwise (· ≤ ·)) :
    Complete depth (.opens depth name :: lines) := by
  -- A line that opens a class looks only at the body behind it, which is one step deeper.
  refine body.cons (Nat.le_succ depth) filled ⟨nofun, nofun, nofun, fun _ _ => nofun, fun own _ same => ?_⟩ rfl
  obtain ⟨rfl, -⟩ := Line.opens.inj same
  rw [body.takeWhile_eq]
  obtain ⟨first, rest, rfl⟩ := List.exists_cons_of_ne_nil filled
  exact ⟨body.first first rfl, ordered⟩

end Complete

/-- A line that is the last of what it belongs to is complete with a blank one behind it. -/
theorem complete_pair {depth : Nat} {line : Line} (last : line.isLast = true) (known : line.depth? = some depth) :
    Complete depth [line, .blank] where
  -- The blank line is in its place at the end, and the last line with the blank one behind it.
  regular := by
    have blank : Placed .blank [] := ⟨fun _ => nofun, nofun, nofun, nofun, nofun⟩
    refine (regular_nil.cons blank).cons ⟨?_, fun _ => rfl, ?_, fun _ _ _ => nofun, ?_⟩
    · rintro rfl
      cases known
    · -- The last line is neither a comment nor one that opens a class.
      rintro _ _ rfl
      cases last
    · rintro _ _ rfl
      cases last
  first := by simpa using known
  deep other member own owned := by
    simp only [List.mem_cons, List.not_mem_nil, or_false] at member
    rcases member with rfl | rfl
    · exact (Option.some.inj (known.symm.trans owned)).le
    · cases owned
  ended := by simp

/-- The lines that open the body of a class are complete one step deeper than the class. -/
theorem complete_openingOutline (depth : Nat) (isEmpty : Bool) :
    Complete (depth + 1) (openingOutline depth isEmpty) := by
  -- The outermost class opens with its docstring, and any other one with a line if it has no members.
  unfold openingOutline
  split_ifs with outermost empty
  · subst outermost
    exact complete_pair rfl rfl
  · exact complete_pair rfl rfl
  · exact .nil

/-- The lines of a constant are complete. -/
theorem complete_constantOutline (base : Text) (depth : Nat) (leaf : Node) :
    Complete depth (constantOutline base depth leaf) := by
  have pair (path : Text) : Complete depth [.constant depth leaf.name path, .blank] := complete_pair rfl rfl
  -- The comment comes in front of the constant with its path, at the same depth.
  refine (pair _).cons le_rfl (List.cons_ne_nil _ _) ⟨nofun, nofun, ?_, ?_, nofun⟩ rfl
  · intro own path same
    obtain ⟨rfl, rfl⟩ := Line.comment.inj same
    exact ⟨leaf.name, rfl⟩
  · intro own known _ next found
    exact (Option.some.inj (known.symm.trans found)).ge

/-- The body of a class has a line. -/
theorem bodyOutline_ne_nil (base : Text) (depth : Nat) (node : Node) : bodyOutline base depth node ≠ [] := by
  -- Where nothing opens the body, there are children to fill it.
  intro empty
  rw [bodyOutline, List.append_eq_nil_iff, List.append_eq_nil_iff] at empty
  obtain ⟨⟨opening, constants⟩, classes⟩ := empty
  have leaves : node.leaves = [] :=
    List.eq_nil_iff_forall_not_mem.mpr fun leaf member =>
      List.cons_ne_nil _ _ (List.flatMap_eq_nil_iff.mp constants leaf member)
  have groups : node.groups = [] :=
    List.eq_nil_iff_forall_not_mem.mpr fun group member =>
      List.cons_ne_nil _ _ ((outline_eq ..).symm.trans (List.flatMap_eq_nil_iff.mp classes group member))
  have childless : node.children = [] := by
    have all := leaves_append_groups_perm node
    rw [leaves, groups] at all
    exact all.symm.eq_nil
  -- Without children the body is opened by a line that fills it.
  unfold openingOutline at opening
  split_ifs at opening with outermost filled
  exact filled (by rw [childless]; rfl)

/-- The body of a class adds its constants in the order of their names, and then its classes. -/
theorem filterMap_member?_bodyOutline (base : Text) (depth : Nat) (node : Node)
    (groups : ∀ group ∈ node.groups,
      (outline base (depth + 1) group).filterMap (Line.member? (depth + 1)) = [toLex (true, group.name)]) :
    (bodyOutline base depth node).filterMap (Line.member? (depth + 1)) =
      node.leaves.map (fun leaf => toLex (false, leaf.name)) ++
        node.groups.map fun group => toLex (true, group.name) := by
  -- What opens the body is no member, a constant is one, and a class is one with all that is in it.
  have opening : (openingOutline depth node.children.isEmpty).filterMap (Line.member? (depth + 1)) = [] := by
    unfold openingOutline
    split_ifs <;> rfl
  have constant (leaf : Node) : (constantOutline base (depth + 1) leaf).filterMap (Line.member? (depth + 1)) =
      [toLex (false, leaf.name)] := by
    simp [constantOutline, Line.member?, List.filterMap_cons]
  rw [bodyOutline, List.filterMap_append, List.filterMap_append, opening, List.nil_append, List.filterMap_flatMap,
    List.filterMap_flatMap, List.flatMap_congr fun leaf _ => constant leaf, List.flatMap_congr groups,
    ← List.map_eq_flatMap, ← List.map_eq_flatMap]

/-- Constants in the order of their names, and then classes in the order of theirs, are in order. -/
theorem pairwise_members (node : Node) :
    (node.leaves.map (fun leaf => toLex (false, leaf.name)) ++
      node.groups.map fun group => (toLex (true, group.name) : Bool ×ₗ Text)).Pairwise (· ≤ ·) := by
  -- Within a kind the names decide, and across the two kinds the kind does.
  have sameKind (kind : Bool) {nodes : List Node}
      (sorted : nodes.Pairwise fun first second => first.name ≤ second.name) :
      (nodes.map fun node => (toLex (kind, node.name) : Bool ×ₗ Text)).Pairwise (· ≤ ·) := by
    refine List.pairwise_map.mpr (sorted.imp ?_)
    intro first second before
    exact Prod.Lex.toLex_le_toLex.mpr (.inr ⟨rfl, before⟩)
  refine List.pairwise_append.mpr ⟨sameKind false (Text.sortBy_pairwise _ _),
    sameKind true (Text.sortBy_pairwise _ _), fun first constant second group => ?_⟩
  obtain ⟨_, _, rfl⟩ := List.mem_map.mp constant
  obtain ⟨_, _, rfl⟩ := List.mem_map.mp group
  exact Prod.Lex.toLex_le_toLex.mpr (.inl Bool.false_lt_true)

/-- The outline of a class is complete, and it adds the class and nothing else to those around it. -/
theorem complete_outline (base : Text) (node : Node) : ∀ depth, Complete depth (outline base depth node) ∧
    (outline base depth node).filterMap (Line.member? depth) = [toLex (true, node.name)] := by
  -- From the inside out: the classes in the body are complete one step deeper, and add one member each.
  induction node using Node.induction with
  | step node ih =>
    intro depth
    have groups (group : Node) (member : group ∈ node.groups) :=
      ih group (List.mem_filter.mp ((Text.sortBy_perm _ _).subset member)).1 (depth + 1)
    have body : Complete (depth + 1) (bodyOutline base depth node) :=
      ((complete_openingOutline depth _).append (.flatMap fun leaf _ => complete_constantOutline base _ leaf)).append
        (.flatMap fun group member => (groups group member).1)
    -- The members of the body are those of the constants and then those of the classes, in order.
    have members := filterMap_member?_bodyOutline base depth node fun group member => (groups group member).2
    rw [outline_eq]
    refine ⟨body.opens node.name (bodyOutline_ne_nil base depth node) (members ▸ pairwise_members node), ?_⟩
    rw [List.filterMap_cons_some (b := toLex (true, node.name)) (by simp [Line.member?]), body.filterMap_member?_eq_nil]

/-- Only a blank line has nothing on it. -/
theorem text_eq_nil_iff (line : Line) : line.text = [] ↔ line = .blank := by
  -- Every other constructor puts down some sign, whatever its texts are.
  cases line with
  | docstring => exact iff_of_false (List.append_ne_nil_of_left_ne_nil (by decide) _) nofun
  | _ => simp [Line.text, Literal.quote]

/-- A line at a depth starts with the blanks of the depth, and more of them only where a name does. -/
theorem text_eq_indent_append {line : Line} {depth : Nat} (known : line.depth? = some depth) :
    ∃ rest, line.text = indent depth ++ rest ∧
      (rest.head? = some ' ' → ∃ name path, line = .constant depth (' ' :: name) path) := by
  -- Only the name of a constant may itself start with a blank, as nothing comes in front of it.
  cases line with
  | blank => cases known
  | docstring =>
    obtain rfl := Option.some.inj known
    exact ⟨_, rfl, fun blank => absurd blank (by decide)⟩
  | opens own name =>
    obtain rfl := Option.some.inj known
    exact ⟨"class ".toList ++ name ++ "(_AssetGroup):".toList, by simp [Line.text], by simp⟩
  | filler own =>
    obtain rfl := Option.some.inj known
    exact ⟨_, rfl, fun blank => absurd blank (by decide)⟩
  | comment own path =>
    obtain rfl := Option.some.inj known
    exact ⟨"#: Path: ".toList ++ Literal.escape path, by simp [Line.text], by simp⟩
  | constant own name path =>
    obtain rfl := Option.some.inj known
    refine ⟨name ++ (": Final = ".toList ++ Literal.quote path), by simp [Line.text], fun blank => ?_⟩
    -- The name comes right behind the indentation, so its first sign is the one in question.
    cases name with
    | nil => simp at blank
    | cons c name =>
      obtain rfl : c = ' ' := by simpa using blank
      exact ⟨name, path, rfl⟩

/-- The outline of a class ends in a blank line. -/
theorem getLast?_outline (base : Text) (depth : Nat) (node : Node) :
    (outline base depth node).getLast? = some .blank := by
  -- All complete lines end in a blank one, and the outline is not empty.
  have filled : outline base depth node ≠ [] := by
    rw [outline_eq]
    exact List.cons_ne_nil _ _
  have last := List.getLast?_eq_getLast_of_ne_nil filled
  rw [last, (complete_outline base node depth).1.ended _ last]

/-- The lines of a class are those of its outline. -/
theorem groupLines_eq_map_outline (base : Text) (node : Node) :
    ∀ depth, groupLines base depth node = (outline base depth node).map Line.text := by
  -- The outline has the blank line at the end of each class, so no class within needs one.
  induction node using Node.induction with
  | step node ih =>
    intro depth
    have opening : opening depth node.children.isEmpty =
        (openingOutline depth node.children.isEmpty).map Line.text := by
      unfold opening openingOutline
      split_ifs <;> rfl
    have group : ∀ group ∈ node.groups, endBlank (groupLines base (depth + 1) group) =
        (outline base (depth + 1) group).map Line.text := by
      intro group member
      have below := (List.mem_filter.mp ((Text.sortBy_perm _ _).subset member)).1
      -- A class ends in a blank line already, so none is added to it.
      have last : ((outline base (depth + 1) group).map Line.text).getLast? = some [] := by
        rw [List.getLast?_map, getLast?_outline]
        rfl
      rw [ih group below, endBlank_of_ended last]
    rw [groupLines_eq, outline_eq, bodyLines, bodyOutline, opening, List.flatMap_congr group]
    simp only [List.map_cons, List.map_append, List.map_flatMap]
    rfl

/-- The blank line at the end of an outline is alone: in front of it is the last line of what it belongs to. -/
theorem exists_outline_eq (base : Text) (depth : Nat) (node : Node) :
    ∃ front last, outline base depth node = front ++ [last, .blank] ∧ last.isLast = true := by
  have regular := (complete_outline base node depth).1.regular
  obtain ⟨before, whole⟩ := List.getLast?_eq_some_iff.mp (getLast?_outline base depth node)
  -- In front of the blank line is the line that opens the class at least, and its body is not empty.
  have opened : before ≠ [] := by
    rintro rfl
    rw [outline_eq] at whole
    exact bodyOutline_ne_nil base depth node (List.cons.inj whole).2
  obtain ⟨front, last, rfl⟩ := (List.eq_nil_or_concat before).resolve_left opened
  have spelled : outline base depth node = front ++ [last, .blank] := by simpa using whole
  refine ⟨front, last, spelled, ?_⟩
  have placed : Placed last [.blank] := regular last [.blank] ⟨front, spelled.symm⟩
  -- Neither a blank line nor one that something has to follow is in its place there.
  cases last with
  | blank => exact absurd rfl (placed.spaced rfl)
  | opens own name =>
    have filled := (placed.body own name rfl).filled
    simp [Line.isWithin, Line.depth?, List.takeWhile_cons] at filled
  | comment own path => simpa using placed.commented own path rfl
  | _ => rfl

/-- The last line of what it belongs to ends in a character that is no line feed. -/
theorem exists_text_eq_concat {line : Line} (last : line.isLast = true) :
    ∃ text c, line.text = text ++ [c] ∧ c ≠ '\n' := by
  -- The last line of what it belongs to is the docstring, the filler or a constant.
  cases line with
  | docstring =>
    have quoted : rootDocstring = rootDocstring.dropLast ++ ['"'] := by decide
    exact ⟨indent 1 ++ rootDocstring.dropLast, '"', by rw [Line.text, List.append_assoc, ← quoted], by decide⟩
  | filler depth => exact ⟨indent depth ++ ['p', 'a', 's'], 's', by simp [Line.text], by decide⟩
  | constant depth name path =>
    exact ⟨indent depth ++ name ++ ": Final = ".toList ++ '"' :: Literal.escape path, '"',
      by simp [Line.text, Literal.quote], by decide⟩
  | _ => cases last

/-- The text of a module leaves out the blank line at the end of the outline, and nothing else. -/
theorem moduleText_eq_of_outline_eq {base : Text} {tree : Node} {front : List Line} {last : Line}
    (spelled : outline base 0 tree = front ++ [last, .blank]) (filled : last ≠ .blank) :
    moduleText base tree = Text.joinWith ['\n'] (preamble ++ (front ++ [last]).map Line.text) ++ ['\n'] := by
  have shown : last.text ≠ [] := fun empty => filled ((text_eq_nil_iff last).mp empty)
  -- The blank line is cut off, and nothing else, since the line in front of it shows something.
  have kept : withoutTrailingBlanks ((front ++ [last, .blank]).map Line.text) = (front ++ [last]).map Line.text := by
    have blank : Line.text .blank = [] := rfl
    simp [withoutTrailingBlanks, blank, shown]
  rw [moduleText, withoutTrailingBlanks_append _ (exists_filled_groupLines base 0 tree), groupLines_eq_map_outline,
    spelled, kept]

/-- The emitted classes are laid out regularly. Their lines are those of the outline, where only blank lines are empty
and all others start with the blanks of their depth; each of them is in its place; no class lacks the blank line at its
end, so none is ever added; and the text ends in the last line that is not blank and one line feed. -/
theorem outline_regular (base : Text) (tree : Node) :
    groupLines base 0 tree = (outline base 0 tree).map Line.text ∧
    (∀ line : Line, line.text = [] ↔ line = .blank) ∧
    (∀ (line : Line) (depth : Nat), line.depth? = some depth → ∃ rest, line.text = indent depth ++ rest ∧
      (rest.head? = some ' ' → ∃ name path, line = .constant depth (' ' :: name) path)) ∧
    Regular (outline base 0 tree) ∧
    (∀ depth group, endBlank (groupLines base depth group) = groupLines base depth group) ∧
    (∃ front last, outline base 0 tree = front ++ [last, .blank] ∧ last ≠ .blank ∧
      moduleText base tree = Text.joinWith ['\n'] (preamble ++ (front ++ [last]).map Line.text) ++ ['\n']) ∧
    ∃ text c, moduleText base tree = text ++ [c, '\n'] ∧ c ≠ '\n' := by
  obtain ⟨front, last, spelled, ends⟩ := exists_outline_eq base 0 tree
  have filled : last ≠ .blank := by
    rintro rfl
    cases ends
  have whole := moduleText_eq_of_outline_eq spelled filled
  refine ⟨groupLines_eq_map_outline base tree 0, text_eq_nil_iff, fun _ _ => text_eq_indent_append,
    (complete_outline base tree 0).1.regular, fun depth group => ?_, ⟨front, last, spelled, filled, whole⟩, ?_⟩
  · -- An outline ends in a blank line, so there is never one to be added.
    rw [endBlank, groupLines_eq_map_outline, List.getLast?_map, getLast?_outline]
    rfl
  · -- The last line that is not blank ends in a sign, behind which comes the line feed.
    obtain ⟨text, c, shown, other⟩ := exists_text_eq_concat ends
    have shownFront : preamble ++ front.map Line.text ≠ [] :=
      List.append_ne_nil_of_left_ne_nil (List.cons_ne_nil _ _) _
    have joined : Text.joinWith ['\n'] (preamble ++ (front ++ [last]).map Line.text) =
        Text.joinWith ['\n'] (preamble ++ front.map Line.text) ++ ['\n'] ++ last.text := by
      rw [List.map_append, ← List.append_assoc, Text.joinWith_append _ shownFront (by simp)]
      simp [Text.joinWith]
    refine ⟨Text.joinWith ['\n'] (preamble ++ front.map Line.text) ++ ['\n'] ++ text, c, ?_, other⟩
    rw [whole, joined, shown]
    simp only [List.append_assoc, List.cons_append, List.nil_append]

end AssetCatalog.Layout
