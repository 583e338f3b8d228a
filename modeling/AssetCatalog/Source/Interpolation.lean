import AssetCatalog.Source.Fault

/-! Interpolated strings: the literal parts and the expressions between braces. -/

namespace AssetCatalog.Source.Interpolation

/-- A part of an interpolated string. -/
inductive Part where
  /-- Characters that stand for themselves, escapes included. -/
  | literal (text : Text)
  /-- An expression as it is spelled. -/
  | field (expression : Text)
deriving DecidableEq, Repr

/-- A fault of the braces, named by its reason. -/
def broken {α : Type} (reason : Text) : Except Cause α :=
  .error (.brokenField reason)

/-- The message for an end of the string within a field. -/
def expectingBrace : Text :=
  "expecting '\x7d'"

mutual

/-- The literal part at the front of a text, whether a doubled brace ended it, and the rest. -/
def takeLiteral (raw nested : Bool) (found : Text) : Text → Except Cause (Text × Bool × Text)
  -- Braces are doubled in the outermost text only, and a backslash hides any other character.
  | [] => .ok (found.reverse, false, [])
  | '\\' :: 'N' :: '\x7b' :: rest =>
    if raw then takeLiteral raw nested ('N' :: '\\' :: found) ('\x7b' :: rest)
    else takeNamed raw nested ('\x7b' :: 'N' :: '\\' :: found) rest
  | '\\' :: c :: rest =>
    if raw || c == '\x7b' || c == '\x7d' then takeLiteral raw nested ('\\' :: found) (c :: rest)
    else takeLiteral raw nested (c :: '\\' :: found) rest
  | c :: rest =>
    if c = '\x7b' ∨ c = '\x7d' then
      if nested then .ok (found.reverse, false, c :: rest)
      else if rest.head? = some c then .ok ((c :: found).reverse, true, rest.drop 1)
      else if c = '\x7d' then broken "single '\x7d' is not allowed"
      else .ok (found.reverse, false, c :: rest)
    else takeLiteral raw nested (c :: found) rest

/-- The literal part when a text starts within the name of a character, whose braces open and close no field. -/
def takeNamed (raw nested : Bool) (found : Text) : Text → Except Cause (Text × Bool × Text)
  | [] => .ok (found.reverse, false, [])
  | '\x7d' :: rest => takeLiteral raw nested ('\x7d' :: found) rest
  | c :: rest => takeNamed raw nested (c :: found) rest

end

/-- The bracket that closes a bracket. -/
def closingOf : Char → Char
  | '(' => ')'
  | '[' => ']'
  | _ => '\x7d'

/-- The expression at the front of a text and the rest, which starts with the character that ends it. -/
def takeExpression (quote : Option (Char × Bool)) (brackets : List Char) (found : Text) :
    Nat → Text → Except Cause (Text × Text)
  -- Within quotes only the closing quote counts, and within brackets nothing ends the expression.
  | 0, _ | _, [] =>
    if quote.isSome then broken "unterminated string"
    else match brackets with
      | bracket :: _ => broken ("unmatched '" ++ [bracket] ++ "'")
      | [] => broken expectingBrace
  | fuel + 1, c :: rest =>
    if c = '\\' then broken "expression part cannot include a backslash"
    else match quote with
      | some (mark, triple) =>
        if c = mark ∧ triple = false then takeExpression none brackets (c :: found) fuel rest
        else if c = mark ∧ rest.take 2 = [c, c] then
          takeExpression none brackets (c :: c :: c :: found) fuel (rest.drop 2)
        else takeExpression quote brackets (c :: found) fuel rest
      | none =>
        if c = '\'' ∨ c = '"' then
          if rest.take 2 = [c, c] then
            takeExpression (some (c, true)) brackets (c :: c :: c :: found) fuel (rest.drop 2)
          else takeExpression (some (c, false)) brackets (c :: found) fuel rest
        else if c = '(' ∨ c = '[' ∨ c = '\x7b' then
          if 200 ≤ brackets.length then broken "too many nested parenthesis"
          else takeExpression none (c :: brackets) (c :: found) fuel rest
        else if c = '#' then broken "expression part cannot include '#'"
        else if brackets.isEmpty && ['!', ':', '\x7d', '=', '<', '>'].contains c then
          if ['!', '=', '<', '>'].contains c && rest.head? = some '=' then
            takeExpression none brackets ('=' :: c :: found) fuel (rest.drop 1)
          else if c = '<' ∨ c = '>' then takeExpression none brackets (c :: found) fuel rest
          else .ok (found.reverse, c :: rest)
        else if c = ')' ∨ c = ']' ∨ c = '\x7d' then
          match brackets with
          | [] => broken ("unmatched '" ++ [c] ++ "'")
          | opening :: brackets =>
            if closingOf opening = c then takeExpression none brackets (c :: found) fuel rest
            else broken ("closing parenthesis '" ++ [c] ++ "' does not match opening parenthesis '"
              ++ [opening] ++ "'")
        else takeExpression none brackets (c :: found) fuel rest

/-- Whether a character separates nothing but tokens of an expression. -/
def isSpace (c : Char) : Bool :=
  c == ' ' || c == '\t' || c == '\n' || c == '\x0c'

/-- The text behind the sign that shows an expression together with its value, if the sign is there. -/
def afterShown (text : Text) : Text :=
  match text with
  | '=' :: rest => rest.dropWhile fun c => isSpace c || c == '\r' || c == '\x0b'
  | text => text

/-- The text behind a conversion, if there is one. -/
def afterConversion (text : Text) : Except Cause Text :=
  match text with
  | ['!'] => broken expectingBrace
  | '!' :: c :: rest =>
    if ['s', 'r', 'a'].contains c then .ok rest
    else broken "invalid conversion character: expected 's', 'r', or 'a'"
  | text => .ok text

/-- The parts of a text up to its end, or within a format up to the brace that closes the field. -/
def parts (raw : Bool) (depth : Nat) : Nat → Text → Except Cause (List Part × Text)
  | 0, text => .ok ([], text)
  | fuel + 1, text => do
    let (literal, doubled, rest) ← takeLiteral raw (depth != 0) [] text
    -- A doubled brace ends a literal, which keeps one of the two.
    if doubled then
      let (more, rest) ← parts raw depth fuel rest
      return (.literal literal :: more, rest)
    else match rest with
      | '\x7b' :: rest =>
        -- The format of a field may have fields in it, but these have no fields in their formats.
        if 2 ≤ depth then broken "expressions nested too deeply"
        let (expression, rest) ← takeExpression none [] [] rest.length.succ rest
        if expression.all isSpace then
          let next := rest.headD '\x7d'
          if next = '\x7d' then broken "empty expression not allowed"
          else broken ("expression required before '" ++ [next] ++ "'")
        let rest ← afterConversion (afterShown rest)
        let (format, rest) ← match rest with
          | ':' :: rest => if rest.isEmpty then broken expectingBrace else parts raw (depth + 1) fuel rest
          | rest => pure ([], rest)
        match rest with
        | '\x7d' :: rest => do
          let (more, rest) ← parts raw depth fuel rest
          return (.literal literal :: .field expression :: format ++ more, rest)
        | _ => broken expectingBrace
      | rest => return ([.literal literal], rest)

end AssetCatalog.Source.Interpolation
