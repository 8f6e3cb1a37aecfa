import PeSignals.Display.Handler.Token

/-!
# Argument expressions

The arguments of a handler have to be literals: numbers, quoted texts, names of constants, and lists,
tuples, sets and tables of them. Other expressions can be read but have no value. An expression that
cannot be read is read once more to find out what is missing.
-/
namespace PeSignals.Display.Handler

/-- Why an expression has no value. -/
inductive ValueFault
  /-- It is no literal. -/
  | malformed
  /-- A value of this kind stands in a set or names an entry of a table. -/
  | unhashable (kind : String)
  deriving Repr, DecidableEq

/-- What an expression comes to. -/
inductive Value
  | number (imaginary signed : Bool)
  | hashable
  | unhashable (kind : String)
  | faulty (cause : ValueFault)
  deriving Repr, DecidableEq

/-- An expression that was read: the name of its shape and its value. -/
structure Shape where
  title : String
  value : Value := .faulty .malformed
  deriving Repr, DecidableEq

/-- The fault of values, if one of them is faulty. -/
def faultOf? (values : List Value) : Option ValueFault :=
  values.findSome? fun
    | .faulty cause => some cause
    | _ => none

/-- The kind of the first value that cannot stand in a set, if there is one. -/
def unhashable? (values : List Value) : Option String :=
  values.findSome? fun
    | .unhashable kind => some kind
    | _ => none

/-- The value of what holds other values. -/
def container (values : List Value) (value : Value) : Value :=
  ((faultOf? values).map .faulty).getD value

/-- The value of what holds values that must be able to stand in a set. -/
def hashedContainer (keys values : List Value) (kind : String) : Value :=
  container (keys ++ values) <|
    ((unhashable? keys).map fun kind => Value.faulty (.unhashable kind)).getD (.unhashable kind)

def tupleOf (items : List Shape) : Shape :=
  let values := items.map (·.value)
  ⟨"tuple", container values (((unhashable? values).map .unhashable).getD .hashable)⟩

/-- How an expression is read: whether what is missing is looked for, and which fault waits at the end. -/
structure Pass where
  strict : Bool := false
  ending? : Option SyntaxFault := none

abbrev Reader := StateT (List Lexeme) (OptionT (Except SyntaxFault))

/-- Ends the reading with a fault. -/
def fail {α : Type} (fault : SyntaxFault) : Reader α := StateT.lift (OptionT.lift (.error fault))

def next? (p : Pass) : Reader (Option Token) := do
  match (← get).head?, p.ending? with
  | some lexeme, _ => return some lexeme.token
  | none, some fault => fail fault
  | none, none => return none

def skip : Reader Unit := modify List.tail

def nextIs (p : Pass) (token : Token) : Reader Bool := return (← next? p) = some token

/-- Passes over a token that must come next. -/
def expect (p : Pass) (token : Token) : Reader Unit := do
  if ← nextIs p token then skip else failure

/-- Passes over a token if it comes next. -/
def accept (p : Pass) (token : Token) : Reader Bool := do
  if ← nextIs p token then skip *> pure true else return false

/-- Words that are no names. -/
def keywords : List String :=
  ["False", "None", "True", "and", "as", "assert", "async", "await", "break", "class", "continue", "def",
    "del", "elif", "else", "except", "finally", "for", "from", "global", "if", "import", "in", "is",
    "lambda", "nonlocal", "not", "or", "pass", "raise", "return", "try", "while", "with", "yield"]

/-- Names that may start a statement of their own. -/
def softKeywords : List String := ["_", "case", "match"]

/-- Names of former statements. -/
def formerStatements : List String := ["print", "exec"]

/-- Whether tokens start with a name that has to be left alone. -/
def startsApart : List Lexeme → Bool
  | ⟨.name n, _⟩ :: ⟨.quoted _, _⟩ :: _ => !keywords.contains n
  | ⟨.name n, _⟩ :: _ => softKeywords.contains n
  | _ => false

/-- The marks between two operands that compare nothing. -/
def arithmeticMarks : List String := ["+", "-", "*", "/", "//", "%", "**", "@", "<<", ">>", "&", "|", "^"]

/-- The marks between two operands that compare them. -/
def comparisonMarks : List String := ["<", ">", "<=", ">=", "==", "!="]

/-- Reads what stands between two operands. -/
def operator (p : Pass) : Reader String := do
  match ← next? p with
  | some (.mark m) =>
    if arithmeticMarks.contains m || comparisonMarks.contains m then skip *> pure m else failure
  | some (.name n) =>
    if n = "and" ∨ n = "or" ∨ n = "in" then skip *> pure n
    else if n = "is" then do
      skip
      discard <| accept p (.name "not")
      return n
    else if n = "not" then do
      skip
      expect p (.name "in")
      return n
    else failure
  | _ => failure

/-- The shape of an operand behind a sign. -/
def signedShape (mark : String) (s : Shape) : Shape :=
  match s.value with
  | .number imaginary false =>
    if mark = "+" ∨ mark = "-" then ⟨"expression", .number imaginary true⟩ else ⟨"expression", .faulty .malformed⟩
  | _ => ⟨"expression", .faulty .malformed⟩

/-- The shape of two operands with an operator between them. -/
def joinedShape (left : Shape) (operator : String) (right : Shape) : Shape :=
  match left.value, right.value with
  | .number false _, .number true false =>
    ⟨"expression", if operator = "+" ∨ operator = "-" then .hashable else .faulty .malformed⟩
  | _, _ =>
    ⟨if arithmeticMarks.contains operator then "expression" else "comparison", .faulty .malformed⟩

/-- The shape of a word. -/
def wordShape? (word : String) : Option Shape :=
  if word = "None" ∨ word = "True" ∨ word = "False" then some ⟨word, .hashable⟩
  else if keywords.contains word then none
  else some ⟨"name", .faulty .malformed⟩

/-- Reads further quoted texts behind one. -/
def quotedTail (p : Pass) (bytes : Bool) : Nat → Reader Unit
  | 0 => failure
  | left + 1 => do
    match ← next? p with
    | some (.quoted other) =>
      if other ≠ bytes then fail .mixedBytes
      skip
      quotedTail p bytes left
    | _ => return ()

/-- Looks behind an operand for what is missing before the next one. -/
def lookBehind (p : Pass) (start : List Lexeme) (another : Reader Shape)
    (operand : Reader Shape) : Reader Unit := do
  let behind ← get
  let former := match start with
    | ⟨.name n, _⟩ :: rest =>
      if rest.length = behind.length ∧ formerStatements.contains n then some n else none
    | _ => none
  if !startsApart start then
    if (← (some <$> another) <|> pure none).isSome then
      let consumed := behind.length - (← get).length
      let inside := behind[consumed - 1]?.any (0 < ·.depth)
      if inside && former.isNone then fail .missingComma
    set behind
    if ← accept p (.name "if") then
      if (← (some <$> operand) <|> pure none).isSome then
        if !(← nextIs p (.name "else")) && !(← nextIs p (.mark ":")) then fail .missingElse
    set behind
  if let some name := former then
    if (← (some <$> another) <|> pure none).isSome then fail (.missingParentheses name)
    set behind

/-- Looks for stars behind a bracket where there must be none. -/
def lookForStar (p : Pass) (starred : Reader Shape) : Reader Unit := do
  let start ← get
  let double ← nextIs p (.mark "**")
  if double || (← nextIs p (.mark "*")) then
    skip
    match ← (some <$> starred) <|> pure none with
    | some _ => if ← nextIs p (.closing ')') then fail (.starred double)
    | none => if !double then fail .bareStar
  set start

mutual

def expression (p : Pass) : Nat → Reader Shape
  | 0 => failure
  | left + 1 => do
    let start ← get
    let shape ← operands p left
    if p.strict then
      lookBehind p start (expression { p with strict := false } left) (operands p left)
    (do
      expect p (.name "if")
      discard <| operands p left
      expect p (.name "else")
      discard <| expression p left
      return ⟨"conditional expression", .faulty .malformed⟩) <|> return shape

/-- Reads operands with operators between them. -/
def operands (p : Pass) : Nat → Reader Shape
  | 0 => failure
  | left + 1 => do
    let first ← operand p left
    (do
      let operator ← operator p
      let second ← operands p left
      return joinedShape first operator second) <|> return first

/-- Reads an operand with the signs before it. -/
def operand (p : Pass) : Nat → Reader Shape
  | 0 => failure
  | left + 1 => do
    match ← next? p with
    | some (.mark m) =>
      if m = "+" ∨ m = "-" ∨ m = "~" then
        skip
        return signedShape m (← operand p left)
      else behindAtom p left (← atom p left)
    | some (.name "not") =>
      skip
      discard <| operand p left
      return ⟨"comparison", .faulty .malformed⟩
    | _ => behindAtom p left (← atom p left)

/-- Reads calls, attributes and subscripts behind an atom. -/
def behindAtom (p : Pass) : Nat → Shape → Reader Shape
  | 0, _ => failure
  | left + 1, s => (do
    let title ← (do
      match ← next? p with
      | some (.opening '(') =>
        skip
        let given ← callArguments p left
        return if s.title = "set" && given = 0 then "empty set" else "function call"
      | some (.opening '[') =>
        skip
        subscripts p left
        return "subscript"
      | some (.mark ".") =>
        skip
        match ← next? p with
        | some (.name n) => if keywords.contains n then failure else skip *> pure "attribute"
        | _ => failure
      | _ => failure)
    let value : Value := if title = "empty set" then .unhashable "set" else .faulty .malformed
    behindAtom p left ⟨title, value⟩) <|> return s

/-- Reads what has no operators outside of brackets. -/
def atom (p : Pass) : Nat → Reader Shape
  | 0 => failure
  | left + 1 => do
    match ← next? p with
    | some (.name n) =>
      match wordShape? n with
      | some s => skip *> pure (if n = "set" then { s with title := n } else s)
      | none => failure
    | some (.number imaginary) => skip *> pure ⟨"literal", .number imaginary false⟩
    | some (.quoted bytes) => do
      let bound := (← get).length
      skip
      quotedTail p bytes bound
      return ⟨"literal", .hashable⟩
    | some (.mark "...") => skip *> pure ⟨"ellipsis", .hashable⟩
    | some (.opening '(') =>
      skip
      if ← accept p (.closing ')') then return tupleOf []
      if p.strict then lookForStar p (expression p left)
      let (shapes, single) ← items p ')' left
      match single, shapes with
      | true, [s] => if s.title = "starred" then failure else return s
      | _, shapes => return tupleOf shapes
    | some (.opening '[') =>
      skip
      if ← accept p (.closing ']') then return ⟨"list", .unhashable "list"⟩
      let (shapes, _) ← items p ']' left
      return ⟨"list", container (shapes.map (·.value)) (.unhashable "list")⟩
    | some (.opening _) =>
      skip
      if ← accept p (.closing '\x7d') then return ⟨"dict literal", .unhashable "dict"⟩
      if ← accept p (.mark "**") then
        discard <| operands p left
        let (keys, values) ← entriesBehind p left
        return ⟨"dict literal", hashedContainer (.faulty .malformed :: keys) values "dict"⟩
      let first ← namedItem p left
      if ← accept p (.mark ":") then
        let value ← entryValue p left
        let (keys, values) ← entriesBehind p left
        return ⟨"dict literal", hashedContainer (first.value :: keys) (value :: values) "dict"⟩
      if ← accept p (.closing '\x7d') then
        return ⟨"set display", hashedContainer [first.value] [] "set"⟩
      expect p (.mark ",")
      if ← accept p (.closing '\x7d') then
        return ⟨"set display", hashedContainer [first.value] [] "set"⟩
      let (shapes, _) ← items p '\x7d' left
      return ⟨"set display", hashedContainer (first.value :: shapes.map (·.value)) [] "set"⟩
    | _ => failure

/-- Reads items up to a bracket, and whether there is just one with no comma behind it. -/
def items (p : Pass) (bracket : Char) : Nat → Reader (List Shape × Bool)
  | 0 => failure
  | left + 1 => do
    let item ← namedItem p left
    if ← accept p (.closing bracket) then return ([item], true)
    expect p (.mark ",")
    if ← accept p (.closing bracket) then return ([item], false)
    let (rest, _) ← items p bracket left
    return (item :: rest, false)

/-- Reads an item: an expression, which may be given a name, or what is to be spread out. -/
def namedItem (p : Pass) : Nat → Reader Shape
  | 0 => failure
  | left + 1 => do
    if ← accept p (.mark "*") then
      discard <| operands p left
      return ⟨"starred", .faulty .malformed⟩
    let start ← get
    match start with
    | ⟨.name n, _⟩ :: ⟨.mark ":=", _⟩ :: rest =>
      if keywords.contains n then failure
      set rest
      discard <| expression p left
      return ⟨"named expression", .faulty .malformed⟩
    | _ =>
      let s ← expression p left
      if p.strict then
        let behind ← get
        if ← accept p (.mark ":=") then
          if (← (some <$> expression p left) <|> pure none).isSome then fail (.naming s.title)
        set behind
        if ← accept p (.mark "=") then
          if (← (some <$> operands p left) <|> pure none).isSome then
            if !(← nextIs p (.mark "=")) && !(← nextIs p (.mark ":=")) then
              if s.title = "name" then fail .comparison
              if ! ["list", "tuple", "True", "None", "False", "comparison",
                  "conditional expression"].contains s.title then fail (.assigned s.title)
        set behind
      return s

/-- Reads the value of an entry. -/
def entryValue (p : Pass) : Nat → Reader Value
  | 0 => failure
  | left + 1 => do
    if p.strict && ((← nextIs p (.closing '\x7d')) || (← nextIs p (.mark ","))) then fail .missingValue
    return (← expression p left).value

/-- Reads the entries of a table behind one, up to the bracket. -/
def entriesBehind (p : Pass) : Nat → Reader (List Value × List Value)
  | 0 => failure
  | left + 1 => do
    if ← accept p (.closing '\x7d') then return ([], [])
    expect p (.mark ",")
    if ← accept p (.closing '\x7d') then return ([], [])
    if ← accept p (.mark "**") then
      discard <| operands p left
      let (keys, values) ← entriesBehind p left
      return (.faulty .malformed :: keys, values)
    let key ← expression p left
    if !(← accept p (.mark ":")) then
      if p.strict then fail .missingColon
      failure
    let value ← entryValue p left
    let (keys, values) ← entriesBehind p left
    return (key.value :: keys, value :: values)

def callArguments (p : Pass) : Nat → Reader Nat
  | 0 => failure
  | left + 1 => do
    if ← accept p (.closing ')') then return 0
    match ← get with
    | ⟨.name n, _⟩ :: ⟨.mark "=", _⟩ :: rest =>
      if keywords.contains n then failure
      set rest
    | ⟨.mark "*", _⟩ :: rest | ⟨.mark "**", _⟩ :: rest => set rest
    | _ => pure ()
    discard <| expression p left
    if ← accept p (.closing ')') then return 1
    expect p (.mark ",")
    return (← callArguments p left) + 1

/-- Reads what stands in the brackets of a subscript. -/
def subscripts (p : Pass) : Nat → Reader Unit
  | 0 => failure
  | left + 1 => do
    if ← accept p (.mark ":") then
      if ← accept p (.closing ']') then return ()
      subscripts p left
    else
      discard <| expression p left
      if ← accept p (.closing ']') then return ()
      if ← nextIs p (.mark ":") then subscripts p left
      else
        expect p (.mark ",")
        if ← accept p (.closing ']') then return ()
        subscripts p left

end

/-- Reads expressions with commas between them, up to the end. -/
def whole (p : Pass) : Nat → Reader (List Shape × Bool)
  | 0 => failure
  | left + 1 => do
    let shape ← expression p left
    if ← accept p (.mark ",") then
      match ← next? p with
      | none | some (.mark "\n") => return ([shape], false)
      | _ =>
        let (rest, _) ← whole p left
        return (shape :: rest, false)
    return ([shape], true)

/-- Reads a whole text: one expression, or several as a tuple. -/
def wholeShape (p : Pass) (bound : Nat) : Reader Shape := do
  let (shapes, single) ← whole p bound
  modify (·.dropWhile (·.token = .mark "\n"))
  if (← next? p).isSome then failure
  match single, shapes with
  | true, [s] => return s
  | _, shapes => return tupleOf shapes

def valueOf (cs : List Char) : Except SyntaxFault Value := do
  let tokens ← tokens cs
  let bound := 8 * (tokens.lexemes.length + 1)
  let p : Pass := { ending? := tokens.ending? }
  match ← ((wholeShape p bound).run tokens.lexemes).run with
  | some (s, _) => return s.value
  | none =>
    discard <| ((wholeShape { p with strict := true } bound).run tokens.lexemes).run
    throw .form

end PeSignals.Display.Handler
