import AssetCatalog.Module.Layout
import AssetCatalog.Proofs.Module.Literal
import AssetCatalog.Proofs.Name.Shape
import Mathlib.Data.List.Perm.Basic

/-! Reading a module back by its indentation: the names that it binds, and the classes around them. -/

namespace AssetCatalog.Reader

open Unicode (continuesWord isIdentifier)

/-- A name that a module binds. -/
structure Binding where
  /-- The classes around the name, the outermost first. -/
  scope : List Text
  /-- The name. -/
  name : Text
  /-- The value of a constant; a class has none. -/
  value : Option Text
deriving DecidableEq, Repr

/-- What a line says. -/
inductive Statement where
  /-- The line binds nothing: it is blank, a comment, a docstring or a filler. -/
  | nothing
  /-- The line opens a class. -/
  | opens (name : Text)
  /-- The line binds a constant. -/
  | binds (name value : Text)
deriving DecidableEq, Repr

/-- The word at the start of a text, and what is behind it. -/
def cutWord (text : Text) : Text × Text :=
  -- The word is as long as it can be, and may be empty.
  (text.takeWhile continuesWord, text.dropWhile continuesWord)

/-- The value of a string literal that is the whole of a text. -/
def literal? : Text → Option Text
  -- The literal is cut and decoded as in every source.
  | '"' :: rest =>
    match Source.untilQuote? '"' rest with
    | some (body, []) => (Source.Literal.decode body).toOption
    | _ => none
  | _ => none

/-- The name and the value of a constant that a line binds. -/
def constant? (line : Text) : Option (Text × Text) :=
  -- The word in front is the name, and the whole rest is the literal.
  let (name, rest) := cutWord line
  if isIdentifier name then
    (rest.dropPrefix? (": Final = " : Text)).bind fun literal => (literal? literal).map (name, ·)
  else none

/-- The name of a class that a line opens. -/
def class? (line : Text) : Option Text :=
  -- A class is a word, a blank, a name and the base in brackets.
  let (word, rest) := cutWord line
  if word = ("class" : Text) then
    (rest.dropPrefix? [' ']).bind fun header =>
      let (name, rest) := cutWord header
      if isIdentifier name && rest = ("(_AssetGroup):" : Text) then some name else none
  else none

/-- Whether a line binds nothing. -/
def isIdle (line : Text) : Bool :=
  line.isEmpty || line.head? = some '#' || line = ("pass" : Text) || line = Layout.rootDocstring

/-- What a line says behind its indentation, if it is one of the lines that a module has. -/
def statement? (line : Text) : Option Statement :=
  -- A line that is none of these makes the whole module unreadable.
  match constant? line with
  | some (name, value) => some (.binds name value)
  | none =>
    match class? line with
    | some name => some (.opens name)
    | none => if isIdle line then some .nothing else none

/-- The classes that are open behind a line and the names that the line binds, given the classes open before. -/
def readLine? (scopes : List Text) (line : Text) : Option (List Text × List Binding) :=
  -- Four columns stand for each class around a statement, and deeper classes end there.
  let columns := (line.takeWhile (· == ' ')).length
  let scope := scopes.take (columns / 4)
  let fits := 4 * scope.length = columns
  match statement? (line.drop columns) with
  | some .nothing => some (scopes, [])
  | some (.opens name) => if fits then some (scope ++ [name], [⟨scope, name, none⟩]) else none
  | some (.binds name value) => if fits then some (scope, [⟨scope, name, some value⟩]) else none
  | none => none

/-- The classes that are open behind some lines, and the names that the lines bind. -/
def readLines? (scopes : List Text) : List Text → Option (List Text × List Binding)
  | [] => some (scopes, [])
  | line :: rest => do
    let (scopes, found) ← readLine? scopes line
    let (scopes, further) ← readLines? scopes rest
    return (scopes, found ++ further)

/-- The names that the text of a module binds behind its fixed beginning. -/
def read? (source : Text) : Option (List Binding) :=
  ((source.splitOn '\n').dropPrefix? Layout.preamble).bind fun lines =>
    (readLines? [] lines).map Prod.snd

/-- The text of a module up to the body of its outermost class. -/
def front (className : Text) : Text :=
  Text.joinWith ['\n'] (Layout.preamble ++ [("class " ++ className ++ "(_AssetGroup):" : Text)]) ++ ['\n']

/-- The names that the text of a module binds within its outermost class, whatever the name of that. -/
def readBody? (className source : Text) : Option (List Binding) :=
  (source.dropPrefix? (front className)).bind fun body =>
    (readLines? [className] (body.splitOn '\n')).map Prod.snd

/-- A text behind the front of a module is cut at line feeds apart from the front. -/
theorem splitOn_front_append (className body : Text) :
    (front className ++ body).splitOn '\n' =
      (front className).dropLast.splitOn '\n' ++ body.splitOn '\n' := by
  -- The front ends in a line feed.
  rw [front, List.dropLast_concat, List.append_assoc, List.singleton_append, List.splitOn_append_cons_self]

/-- A word is cut off in front of the first character that does not continue it. -/
theorem cutWord_append {name rest : Text} {c : Char}
    (all : ∀ c ∈ name, continuesWord c = true) (ends : continuesWord c = false) :
    cutWord (name ++ c :: rest) = (name, c :: rest) := by
  -- All characters before the end continue the word, and that one does not.
  simp [cutWord, List.takeWhile_append_of_pos all, List.dropWhile_append_of_pos all, ends]

/-- A quoted text is read as that text. -/
theorem literal?_quote (value : Text) : literal? (Literal.quote value) = some value := by
  simp [Literal.quote, literal?, Literal.untilQuote?_escape, Literal.decode_escape, Except.toOption]

/-- The line of a constant binds it to its value. -/
theorem statement?_constant {name : Text} (identifier : isIdentifier name = true) (value : Text) :
    statement? (name ++ ": Final = ".toList ++ Literal.quote value) = some (.binds name value) := by
  -- The colon ends the name, and what is behind the fixed words is one literal.
  have colon : continuesWord ':' = false := by decide +kernel
  have cut : cutWord (name ++ ": Final = ".toList ++ Literal.quote value) =
      (name, ": Final = ".toList ++ Literal.quote value) := by
    rw [List.append_assoc]
    exact cutWord_append (Unicode.continuesWord_of_mem_identifier identifier) colon
  simp only [statement?, constant?, cut, if_pos identifier]
  rw [List.dropPrefix?_append_of_beq _ (by simp)]
  simp [literal?_quote]

/-- The line of a class opens the class. -/
theorem statement?_class {name : Text} (identifier : isIdentifier name = true) :
    statement? ("class ".toList ++ name ++ "(_AssetGroup):".toList) = some (.opens name) := by
  have bracket : continuesWord '(' = false := by decide +kernel
  have blank : continuesWord ' ' = false := by decide +kernel
  have letters : "class".toList.all continuesWord = true := by decide +kernel
  -- The line is cut at the blank behind its first word, and at the bracket behind the name.
  have keyword : cutWord ("class ".toList ++ name ++ "(_AssetGroup):".toList) =
      ("class".toList, ' ' :: (name ++ "(_AssetGroup):".toList)) := by
    have word : "class ".toList = "class".toList ++ [' '] := by decide
    rw [word, List.append_assoc, List.append_assoc]
    exact cutWord_append (List.all_eq_true.mp letters) blank
  have cut : cutWord (name ++ "(_AssetGroup):".toList) = (name, "(_AssetGroup):".toList) :=
    cutWord_append (Unicode.continuesWord_of_mem_identifier identifier) bracket
  -- A blank is behind the first word, so the line is not that of a constant.
  have other : (' ' :: (name ++ "(_AssetGroup):".toList)).dropPrefix? ": Final = ".toList = none := by
    have colon : ": Final = ".toList = ':' :: " Final = ".toList := by decide
    simp [colon, List.dropPrefix?]
  have unbound : constant? ("class ".toList ++ name ++ "(_AssetGroup):".toList) = none := by
    simp only [constant?, keyword, other, Option.bind_none, ite_self]
  have behind : (' ' :: (name ++ "(_AssetGroup):".toList)).dropPrefix? [' '] =
      some (name ++ "(_AssetGroup):".toList) := by
    simp only [List.dropPrefix?, beq_self_eq_true, if_true]
  have opened : class? ("class ".toList ++ name ++ "(_AssetGroup):".toList) = some name := by
    simp only [class?, keyword, behind, Option.bind_some, cut, identifier, Bool.true_and, if_true,
      decide_true]
  simp only [statement?, unbound, opened]

/-- A line that starts with no word says nothing if it is one of those without a name. -/
theorem statement?_idle {line : Text} (wordless : ∀ c, line.head? = some c → continuesWord c = false)
    (idle : isIdle line = true) : statement? line = some .nothing := by
  -- Without a word in front, the line can be neither a constant nor a class.
  have cut : cutWord line = ([], line) := by
    cases line with
    | nil => rfl
    | cons c rest => simp [cutWord, wordless c rfl]
  simp [statement?, constant?, class?, cut, isIdentifier, idle]

/-- The indentation of a line is cut off in front of what it says. -/
theorem readLine?_indent (scopes : List Text) (depth : Nat) {text : Text}
    (starts : text.head? ≠ some ' ') : readLine? scopes (Layout.indent depth ++ text) =
      match statement? text with
      | some .nothing => some (scopes, [])
      | some (.opens name) =>
        if (scopes.take depth).length = depth then
          some (scopes.take depth ++ [name], [⟨scopes.take depth, name, none⟩])
        else none
      | some (.binds name value) =>
        if (scopes.take depth).length = depth then
          some (scopes.take depth, [⟨scopes.take depth, name, some value⟩])
        else none
      | none => none := by
  have blanks : ∀ c ∈ Layout.indent depth, (c == ' ') = true := by simp [Layout.indent]
  -- The blanks of the indentation are all the blanks there are, because the text starts with another sign.
  have columns : ((Layout.indent depth ++ text).takeWhile (· == ' ')).length = 4 * depth := by
    rw [List.takeWhile_append_of_pos blanks]
    cases text with
    | nil => simp [Layout.indent]
    | cons c rest =>
      have other : (c == ' ') = false := by simpa using starts
      simp [other, Layout.indent]
  have rest : (Layout.indent depth ++ text).drop (4 * depth) = text :=
    List.drop_left' (by simp [Layout.indent])
  -- Four blanks a step, so that the columns agree exactly if the depths do.
  have fits : (4 * (scopes.take depth).length = 4 * depth) = ((scopes.take depth).length = depth) :=
    propext (Nat.mul_right_inj (by decide))
  simp only [readLine?, columns, rest, Nat.mul_div_cancel_left depth (by decide : 0 < 4), fits]

/-- Lines behind each other are read one after the other. -/
theorem readLines?_append (scopes first second : List Text) :
    readLines? scopes (first ++ second) = (readLines? scopes first).bind fun before =>
      (readLines? before.1 second).map fun after => (after.1, before.2 ++ after.2) := by
  -- The classes that are open behind the first lines are those before the second ones.
  induction first generalizing scopes with
  | nil => cases read : readLines? scopes second <;> simp [readLines?, read]
  | cons line rest ih =>
    cases read : readLine? scopes line with
    | none => simp [readLines?, read]
    | some here =>
      cases further : readLines? here.1 rest with
      | none => simp [readLines?, read, ih, further]
      | some before =>
        cases after : readLines? before.1 second <;> simp [readLines?, read, ih, further, after]

/-- Whether a text is free of controls, line breaks among them. -/
def Visible (text : Text) : Prop :=
  -- The controls are the characters below the blank.
  ∀ c ∈ text, 0x20 ≤ c.toNat

instance (text : Text) : Decidable (Visible text) :=
  decidable_of_iff (text.all fun c => 0x20 ≤ c.toNat) (by simp [Visible])

/-- Texts behind each other are free of controls exactly if each of them is. -/
@[simp] theorem visible_append (first second : Text) :
    Visible (first ++ second) ↔ Visible first ∧ Visible second := by
  simp only [Visible, List.mem_append, or_imp, forall_and]

/-- A constant text is free of controls if its characters are. -/
theorem visible_constant {characters : List Char} (visible : Visible characters) :
    Visible (String.ofList characters).toList := by
  rwa [String.toList_ofList]

/-- Indentation is free of controls. -/
@[simp] theorem visible_indent (depth : Nat) : Visible (Layout.indent depth) := by
  -- Indentation consists of spaces.
  intro c member
  rw [List.eq_of_mem_replicate member]
  decide

/-- The text between the quotes of a literal is free of controls. -/
@[simp] theorem visible_escape (value : Text) : Visible (Literal.escape value) :=
  fun _ => Literal.le_toNat_of_mem_escape

/-- A literal is free of controls. -/
@[simp] theorem visible_quote (value : Text) : Visible (Literal.quote value) := by
  -- Both quotation marks are visible, and escaping left nothing that is not.
  have mark : Visible ['"'] := by decide
  exact (visible_append ('"' :: Literal.escape value) _).mpr
    ⟨(visible_append ['"'] _).mpr ⟨mark, visible_escape value⟩, mark⟩

/-- Lines without controls that are read as the given names, in any order, wherever the given classes are open. -/
structure Reads (scope lines : List Text) (bindings : List Binding) : Prop where
  /-- The lines hold no controls. -/
  visible : ∀ line ∈ lines, Visible line
  /-- The classes stay open behind the lines. -/
  read : ∀ scopes, scope <+: scopes → ∃ after found, scope <+: after ∧
    readLines? scopes lines = some (after, found) ∧ found.Perm bindings

namespace Reads

variable {scope first second lines : List Text} {bindings others : List Binding}

/-- Nothing is read from no lines. -/
theorem nil : Reads scope [] [] where
  visible := by simp
  read scopes opened := ⟨scopes, [], opened, rfl, .rfl⟩

/-- What is read from lines behind each other is read from each of them. -/
theorem append (before : Reads scope first bindings) (after : Reads scope second others) :
    Reads scope (first ++ second) (bindings ++ others) where
  visible line member := (List.mem_append.mp member).elim (before.visible line) (after.visible line)
  read scopes opened := by
    -- The classes around are still open between the two parts.
    obtain ⟨between, found, still, read, same⟩ := before.read scopes opened
    obtain ⟨final, further, open', rest, alike⟩ := after.read between still
    exact ⟨final, found ++ further, open', by simp [readLines?_append, read, rest], same.append alike⟩

/-- The order of what is read does not matter. -/
theorem perm (read : Reads scope lines bindings) (same : bindings.Perm others) :
    Reads scope lines others where
  visible := read.visible
  read scopes opened := by
    -- What was found is a permutation of the bindings, and so of the others.
    obtain ⟨after, found, still, done, alike⟩ := read.read scopes opened
    exact ⟨after, found, still, done, alike.trans same⟩

/-- What is read from parts is read from all of them together. -/
theorem flatMap {α : Type} {parts : List α} {text : α → List Text} {names : α → List Binding}
    (each : ∀ part ∈ parts, Reads scope (text part) (names part)) :
    Reads scope (parts.flatMap text) (parts.flatMap names) := by
  -- Induction on the parts, which stand one behind the other.
  induction parts with
  | nil => exact nil
  | cons part rest ih =>
    exact (each part (by simp)).append (ih fun other member => each other (by simp [member]))

/-- One line is read by itself. -/
theorem line {text : Text} (visible : Visible text)
    (read : ∀ scopes, scope <+: scopes → ∃ after, scope <+: after ∧
      readLine? scopes text = some (after, bindings)) : Reads scope [text] bindings where
  visible := by simpa using visible
  read scopes opened := by
    -- After the line there is none to read, so its bindings are all that is found.
    obtain ⟨after, still, done⟩ := read scopes opened
    exact ⟨after, bindings, still, by simp [readLines?, done], .rfl⟩

/-- A line that binds nothing is passed over. -/
theorem idle (depth : Nat) {text : Text} (visible : Visible text) (starts : text.head? ≠ some ' ')
    (nothing : statement? text = some .nothing) : Reads scope [Layout.indent depth ++ text] [] := by
  -- The line leaves the open classes as they are.
  refine line (by simp [visible]) fun scopes opened => ⟨scopes, opened, ?_⟩
  rw [readLine?_indent scopes depth starts, nothing]

/-- A blank line is passed over. -/
theorem blank : Reads scope [[]] [] :=
  idle 0 (by decide) (by simp) (statement?_idle (by simp) rfl)

section Names

variable {name : Text} (identifier : isIdentifier name = true)
include identifier

/-- No line that begins with an identifier begins with a blank. -/
theorem head?_identifier_append (rest : Text) : (name ++ rest).head? ≠ some ' ' := by
  -- An identifier has characters, and a blank is none that stands in a word.
  cases name with
  | nil => simp [isIdentifier] at identifier
  | cons first _ =>
    intro same
    have blank : continuesWord ' ' = false := by decide +kernel
    have starts := Unicode.continuesWord_of_mem_identifier identifier first (by simp)
    rw [Option.some.inj same, blank] at starts
    cases starts

/-- An identifier is free of controls. -/
theorem visible_identifier : Visible name := fun c member =>
  -- No control continues a word.
  Unicode.le_toNat_of_continuesWord (Unicode.continuesWord_of_mem_identifier identifier c member)

/-- The line of a constant is read as the constant in the classes that it is indented under. -/
theorem constant (value : Text) :
    Reads scope [Layout.indent scope.length ++ name ++ ": Final = " ++ Literal.quote value]
      [⟨scope, name, some value⟩] := by
  -- Deeper classes end at the line, since its indentation tells how many stay open.
  have behind : Layout.indent scope.length ++ name ++ ": Final = ".toList ++ Literal.quote value =
      Layout.indent scope.length ++ (name ++ ": Final = ".toList ++ Literal.quote value) := by
    simp only [List.append_assoc]
  have starts : (name ++ ": Final = ".toList ++ Literal.quote value).head? ≠ some ' ' := by
    rw [List.append_assoc]
    exact head?_identifier_append identifier _
  have sign : Visible ": Final = ".toList := by decide
  rw [behind]
  refine line ?_ fun scopes opened => ⟨scope, List.prefix_rfl, ?_⟩
  · simp only [visible_append, visible_indent, visible_identifier identifier, sign, visible_quote,
      and_self]
  · -- The classes that are open are cut at the depth of the line, which leaves its own.
    rw [readLine?_indent scopes _ starts, statement?_constant identifier,
      ← List.prefix_iff_eq_take.mp opened]
    simp

/-- The line of a class opens it around the lines of its body. -/
theorem group {body : List Text} (inside : Reads (scope ++ [name]) body bindings) :
    Reads scope ((Layout.indent scope.length ++ "class " ++ name ++ "(_AssetGroup):") :: body)
      (⟨scope, name, none⟩ :: bindings) := by
  -- The line itself is read first, in the classes around, and then the body in the class.
  have behind : Layout.indent scope.length ++ "class ".toList ++ name ++ "(_AssetGroup):".toList =
      Layout.indent scope.length ++ ("class ".toList ++ name ++ "(_AssetGroup):".toList) := by
    simp only [List.append_assoc]
  have starts : ("class ".toList ++ name ++ "(_AssetGroup):".toList).head? ≠ some ' ' := by
    have word : "class ".toList = 'c' :: "lass ".toList := by decide
    simp [word]
  have word : Visible "class ".toList := by decide
  have base : Visible "(_AssetGroup):".toList := by decide
  rw [behind]
  constructor
  · intro line member
    rcases List.mem_cons.mp member with rfl | below
    · simp only [visible_append, visible_indent, word, visible_identifier identifier, base, and_self]
    · exact inside.visible line below
  · intro scopes opened
    -- The body is read with the class as the innermost open one.
    obtain ⟨after, found, still, read, same⟩ := inside.read (scope ++ [name]) List.prefix_rfl
    refine ⟨after, ⟨scope, name, none⟩ :: found, (List.prefix_append _ _).trans still, ?_, same.cons _⟩
    have header : readLine? scopes (Layout.indent scope.length ++
        ("class ".toList ++ name ++ "(_AssetGroup):".toList)) =
          some (scope ++ [name], [⟨scope, name, none⟩]) := by
      rw [readLine?_indent scopes _ starts, statement?_class identifier,
        ← List.prefix_iff_eq_take.mp opened]
      simp
    simp only [readLines?, header, read, Option.bind_eq_bind, Option.bind_some, Option.pure_def,
      List.singleton_append]

end Names

end Reads

end AssetCatalog.Reader
