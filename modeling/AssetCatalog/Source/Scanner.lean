import AssetCatalog.Keyword
import AssetCatalog.Source.Number
import AssetCatalog.Source.Token
import AssetCatalog.Unicode.Word

/-! Cutting a source into tokens: its lines, their indentation, and the words, numbers, strings and marks. -/

namespace AssetCatalog.Source

/-- The width of the blanks at the front of a line. -/
structure Indentation where
  /-- The width with tabs that go to the next multiple of eight. -/
  wide : Nat := 0
  /-- The width with tabs as wide as blanks. -/
  narrow : Nat := 0
deriving DecidableEq, Repr

/-- What is known at a place between two tokens. -/
structure Scanner where
  /-- The place. -/
  position : Position := {}
  /-- The indentations of the open blocks, the innermost first. -/
  blocks : List Indentation := [{}]
  /-- The open brackets with their lines, the innermost first. -/
  brackets : List (Char × Nat) := []

namespace Scanner

/-- The scanner behind a text. -/
def past (scanner : Scanner) (text : Text) : Scanner :=
  { scanner with position := scanner.position.past text }

/-- A fault on the line of the scanner. -/
def fail {α : Type} (scanner : Scanner) (cause : Cause) : Except Fault α :=
  .error ⟨cause, scanner.position.line⟩

/-- A token at the place of the scanner. -/
def token (scanner : Scanner) (lexeme : Lexeme) : Token :=
  ⟨lexeme, scanner.position⟩

end Scanner

/-- The indentation at the front of a line, the text that makes it, and the rest. -/
def takeIndentation (found : Indentation) (continued : Nat) (passed : Text) :
    Text → Except Cause (Indentation × Text × Text)
  -- A form feed starts over, and the first continued line that is indented decides.
  | ' ' :: rest => takeIndentation ⟨found.wide + 1, found.narrow + 1⟩ continued (' ' :: passed) rest
  | '\t' :: rest =>
    takeIndentation ⟨(found.wide / 8 + 1) * 8, found.narrow + 1⟩ continued ('\t' :: passed) rest
  | '\x0c' :: rest => takeIndentation {} continued ('\x0c' :: passed) rest
  | '\\' :: '\n' :: rest =>
    if rest.isEmpty then .error .unexpectedEnd
    else
      let continued := if continued = 0 then found.wide else continued
      takeIndentation found continued ('\n' :: '\\' :: passed) rest
  | '\\' :: _ => .error .afterContinuation
  | rest =>
    let result := if continued = 0 then found else ⟨continued, continued⟩
    .ok (result, passed.reverse, rest)

/-- Closes the blocks that are deeper than a line, with one token for each. -/
def closeBlocks (width : Nat) : List Indentation → List Indentation × Nat
  | [] => ([], 0)
  | [outermost] => ([outermost], 0)
  | block :: blocks =>
    if width < block.wide then
      let (left, closed) := closeBlocks width blocks
      (left, closed + 1)
    else (block :: blocks, 0)

/-- The blocks that are open after a line with an indentation, and the tokens that open or close them. -/
def indent (blocks : List Indentation) (line : Indentation) : Except Cause (List Indentation × List Lexeme) :=
  -- Both widths have to agree on whether the line is deeper.
  let innermost := blocks.headD {}
  if line.wide = innermost.wide then
    if line.narrow = innermost.narrow then .ok (blocks, []) else .error .inconsistentTabs
  else if innermost.wide < line.wide then
    if 100 ≤ blocks.length then .error .tooManyIndents
    else if line.narrow ≤ innermost.narrow then .error .inconsistentTabs
    else .ok (line :: blocks, [.indent])
  else
    let (left, closed) := closeBlocks line.wide blocks
    let innermost := left.headD {}
    if line.wide ≠ innermost.wide then .error .unmatchedDedent
    else if line.narrow ≠ innermost.narrow then .error .inconsistentTabs
    else .ok (left, List.replicate closed .dedent)

/-- The kind of string that letters in front of a quote make, where they make one. -/
def quotationKind? (letters : Text) : Option Quotation :=
  -- Bytes and interpolated strings may be raw too, in either order of the letters.
  match letters.map Char.toLower with
  | [] | ['u'] => some { body := [] }
  | ['b'] => some { bytes := true, body := [] }
  | ['r'] => some { raw := true, body := [] }
  | ['f'] => some { interpolated := true, body := [] }
  | ['b', 'r'] | ['r', 'b'] => some { raw := true, bytes := true, body := [] }
  | ['f', 'r'] | ['r', 'f'] => some { raw := true, interpolated := true, body := [] }
  | _ => none

/-- What is in front of the closing quote of a string on one line, and what is behind it. -/
def untilQuote? (quote : Char) : Text → Option (Text × Text)
  | [] => none
  | '\\' :: c :: rest => (untilQuote? quote rest).map fun (body, after) => ('\\' :: c :: body, after)
  | c :: rest =>
    if c = quote then some ([], rest)
    else if c = '\n' then none
    else (untilQuote? quote rest).map fun (body, after) => (c :: body, after)

/-- What is in front of the three closing quotes of a string, and what is behind them. -/
def untilTripleQuote? (quote : Char) : Text → Option (Text × Text)
  | [] => none
  | '\\' :: c :: rest => (untilTripleQuote? quote rest).map fun (body, after) => ('\\' :: c :: body, after)
  | c :: rest =>
    if c = quote ∧ rest.take 2 = [quote, quote] then some ([], rest.drop 2)
    else (untilTripleQuote? quote rest).map fun (body, after) => (c :: body, after)

/-- The line on which a string without an end on its line is given up. -/
def lastLine (position : Position) : Text → Nat
  | [] => position.line
  | '\\' :: '\n' :: rest => lastLine ⟨position.line + 1, 0⟩ rest
  | '\\' :: _ :: rest => lastLine position rest
  | '\n' :: _ => position.line
  | _ :: rest => lastLine position rest

/-- The string behind letters, with its whole spelling and the rest; the text starts with its quote. -/
def takeString (scanner : Scanner) (letters : Text) (kind : Quotation) (quote : Char) (text : Text) :
    Except Fault (Lexeme × Text × Text) :=
  let triple := [quote, quote, quote]
  if Text.startsWith text triple then
    match untilTripleQuote? quote (text.drop 3) with
    | some (body, rest) => .ok (.string { kind with body }, letters ++ triple ++ body ++ triple, rest)
    | none => scanner.fail (.unterminatedBlock (scanner.position.line + text.count '\n' - 1))
  else
    match untilQuote? quote (text.drop 1) with
    | some (body, rest) => .ok (.string { kind with body }, letters ++ quote :: body ++ [quote], rest)
    | none => scanner.fail (.unterminatedString (lastLine scanner.position (text.drop 1)))

/-- The marks of three characters. -/
def longMarks : List Text :=
  ["...", "**=", "//=", "<<=", ">>="].map String.toList

/-- The marks of two characters. -/
def pairMarks : List Text :=
  ["!=", "%=", "&=", "**", "*=", "+=", "-=", "->", "//", "/=", ":=", "<<", "<=", "<>", "==", ">=", ">>",
    "@=", "^=", "|="].map String.toList

/-- The mark at the front of a text: the longest one, or one character. -/
def markAt (text : Text) : Text :=
  if longMarks.contains (text.take 3) then text.take 3
  else if pairMarks.contains (text.take 2) then text.take 2
  else text.take 1

/-- The bracket that closes a bracket. -/
def closingOf : Char → Char
  | '(' => ')'
  | '[' => ']'
  | _ => '\x7d'

/-- Keeps account of the brackets at a mark. -/
def Scanner.account (scanner : Scanner) (mark : Text) : Except Fault Scanner :=
  match mark with
  | ['('] | ['['] | ['\x7b'] =>
    if 200 ≤ scanner.brackets.length then scanner.fail .tooManyBrackets
    else .ok { scanner with brackets := (mark.headD '(', scanner.position.line) :: scanner.brackets }
  | [')'] | [']'] | ['\x7d'] =>
    let closing := mark.headD ')'
    match scanner.brackets with
    | [] => scanner.fail (.unmatchedBracket closing)
    | (opening, line) :: brackets =>
      if closingOf opening = closing then .ok { scanner with brackets }
      else
        -- The line of the opening bracket is told only where it is another one.
        let line := if line = scanner.position.line then none else some line
        scanner.fail (.mismatchedBracket closing opening line)
  | _ => .ok scanner

/-- The first character of a spelling that keeps it from being a name. -/
def strayCharacter? (spelling : Text) : Option Char :=
  match spelling with
  | [] => none
  | c :: rest => if Unicode.startsWord c then rest.find? fun c => !Unicode.continuesWord c else some c

/-- The name or reserved word of a spelling. -/
def wordLexeme (scanner : Scanner) (spelling : Text) : Except Fault Lexeme :=
  if spelling.all (fun c => c.toNat < 0x80) || (strayCharacter? spelling).isNone then
    .ok (if isKeyword spelling then .keyword spelling else .name spelling)
  else
    let c := (strayCharacter? spelling).getD 'a'
    scanner.fail (.strayCharacter c (Unicode.isPrintable c))

/-- The token at the front of a text that starts neither with a blank nor with a line break: what it is, its
spelling, the rest, and the brackets behind it. -/
def takeToken (scanner : Scanner) (text : Text) : Except Fault (Lexeme × Text × Text × Scanner) := do
  let c := text.headD '\n'
  let word := if c.isDigit then [] else text.takeWhile isWordCharacter
  let rest := text.drop word.length
  let quote := rest.headD '\n'
  -- Letters directly in front of a quote may belong to a string.
  match quotationKind? word, quote == '"' || quote == '\'' with
  | some kind, true =>
    let (lexeme, spelling, rest) ← takeString scanner word kind quote rest
    return (lexeme, spelling, rest, scanner)
  | _, _ =>
    if !word.isEmpty then
      return (← wordLexeme scanner word, word, rest, scanner)
    else if c.isDigit || c == '.' && (text.drop 1).head?.any Char.isDigit then
      match afterNumber text with
      | .error cause => scanner.fail cause
      | .ok rest =>
        let spelling := text.take (text.length - rest.length)
        return (.number spelling, spelling, rest, scanner)
    else
      let mark := markAt text
      if mark.length = 1 && !Unicode.isPrintable c then scanner.fail (.strayCharacter c false)
      else return (.mark mark, mark, text.drop mark.length, ← scanner.account mark)

/-- The tokens from a place on, behind those found so far, the last one first. -/
def scanFrom (atLineStart : Bool) (scanner : Scanner) (found : List Token) :
    Nat → Text → Except Fault (List Token)
  -- Each step takes a character, opens a line, or ends the source.
  | 0, _ => .ok found.reverse
  | fuel + 1, text =>
    if atLineStart then
      match takeIndentation {} 0 [] text with
      | .error cause => scanner.fail cause
      | .ok (indentation, passed, rest) =>
        let scanner := scanner.past passed
        match rest with
        | '\n' :: after => scanFrom true (scanner.past ['\n']) found fuel after
        | '#' :: _ =>
          let comment := rest.takeWhile (· != '\n')
          scanFrom true (scanner.past (comment ++ ['\n'])) found fuel (rest.drop (comment.length + 1))
        | _ =>
          if !scanner.brackets.isEmpty then scanFrom false scanner found fuel rest
          else match indent scanner.blocks indentation with
            | .error cause => scanner.fail cause
            | .ok (blocks, lexemes) =>
              let found := (lexemes.map scanner.token).reverse ++ found
              scanFrom false { scanner with blocks } found fuel rest
    else
      match text with
      | [] =>
        match scanner.brackets with
        | [] => .ok (scanner.token .finish :: found).reverse
        | (bracket, line) :: _ => .error ⟨.unclosedBracket bracket, line⟩
      | ' ' :: rest => scanFrom false (scanner.past [' ']) found fuel rest
      | '\t' :: rest => scanFrom false (scanner.past ['\t']) found fuel rest
      | '\x0c' :: rest => scanFrom false (scanner.past ['\x0c']) found fuel rest
      | '\n' :: rest =>
        let found := if scanner.brackets.isEmpty then scanner.token .newline :: found else found
        scanFrom true (scanner.past ['\n']) found fuel rest
      | '#' :: _ =>
        let comment := text.takeWhile (· != '\n')
        scanFrom false (scanner.past comment) found fuel (text.drop comment.length)
      | '\\' :: '\n' :: rest =>
        if rest.isEmpty then scanner.fail .unexpectedEnd
        else scanFrom false (scanner.past ['\\', '\n']) found fuel rest
      | '\\' :: _ => scanner.fail .afterContinuation
      | text => do
        let (lexeme, spelling, rest, next) ← takeToken scanner text
        scanFrom false (next.past spelling) (scanner.token lexeme :: found) fuel rest

/-- The tokens of a source, whose last line need not be ended. -/
def scan (source : Text) : Except Fault (List Token) :=
  if source.contains (Char.ofNat 0) then .error ⟨.nullCharacter, 0⟩
  else
    let text := Text.unifyBreaks source
    let text := if text.getLast? = some '\n' then text else text ++ ['\n']
    scanFrom true {} [] (2 * text.length + 2) text

end AssetCatalog.Source
