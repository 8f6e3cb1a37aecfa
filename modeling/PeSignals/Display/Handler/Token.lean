import PeSignals.Decimal.Fixed
import PeSignals.Text.Hexadecimal
import PeSignals.Text.Ranges
import PeSignals.Text.Table.Unprintable

/-!
# Tokens of arguments

The arguments of a handler are an expression. Here its characters are cut into names, numbers, quoted
texts, brackets and marks. Brackets are matched while they are cut, so that every token knows how many
of them are open behind it.
-/
namespace PeSignals.Display.Handler

inductive SyntaxFault
  | nul
  | neverClosed (bracket : Char)
  | unmatched (bracket : Char)
  /-- A bracket closes one of another kind, which stands on a line of its own if that is given. -/
  | mismatched (closing opening : Char) (line? : Option Nat)
  | tooDeep
  /-- A quoted text has no end. -/
  | unterminated (triple : Bool) (line : Nat)
  | numeral (kind : String)
  | digit (digit : Char) (kind : String)
  | leadingZeros
  | character (c : Char)
  | unprintable (c : Char)
  | continuation
  | bytesCharacter
  | mixedBytes
  | missingComma
  | missingElse
  | missingColon
  | missingValue
  | missingParentheses (name : String)
  | starred (double : Bool)
  | bareStar
  | comparison
  /-- A name is to be given by what is no name. -/
  | naming (shape : String)
  /-- An equals sign stands behind what cannot be assigned. -/
  | assigned (shape : String)
  | form
  deriving Repr, DecidableEq

/-- A code point with at least four digits. -/
def codePoint (c : Char) : String :=
  "U+" ++ (Decimal.padZeros 4 (Text.hexadecimal c.toNat)).map Char.toUpper

def SyntaxFault.message : SyntaxFault → String
  | nul => "source code string cannot contain null bytes"
  | neverClosed bracket => s!"'{bracket}' was never closed"
  | unmatched bracket => s!"unmatched '{bracket}'"
  | mismatched closing opening line? =>
    s!"closing parenthesis '{closing}' does not match opening parenthesis '{opening}'" ++
      ((line?.map fun line => s!" on line {line}").getD "")
  | tooDeep => "too many nested parentheses"
  | unterminated triple line =>
    let kind := if triple then "triple-quoted string" else "string"
    s!"unterminated {kind} literal (detected at line {line})"
  | numeral kind => s!"invalid {kind} literal"
  | digit c kind => s!"invalid digit '{c}' in {kind} literal"
  | leadingZeros => "leading zeros in decimal integer literals are not permitted; " ++
      "use an 0o prefix for octal integers"
  | character c => s!"invalid character '{c}' (" ++ codePoint c ++ ")"
  | unprintable c => "invalid non-printable character " ++ codePoint c
  | continuation => "unexpected character after line continuation character"
  | bytesCharacter => "bytes can only contain ASCII literal characters"
  | mixedBytes => "cannot mix bytes and nonbytes literals"
  | missingComma => "invalid syntax. Perhaps you forgot a comma?"
  | missingElse => "expected 'else' after 'if' expression"
  | missingColon => "':' expected after dictionary key"
  | missingValue => "expression expected after dictionary key and ':'"
  | missingParentheses name =>
    s!"Missing parentheses in call to '{name}'. Did you mean {name}(...)?"
  | starred double =>
    let kind := if double then "double starred" else "starred"
    s!"cannot use {kind} expression here"
  | bareStar => "Invalid star expression"
  | comparison => "invalid syntax. Maybe you meant '==' or ':=' instead of '='?"
  | naming shape => s!"cannot use assignment expressions with {shape}"
  | assigned shape => s!"cannot assign to {shape} here. Maybe you meant '==' instead of '='?"
  | form => "invalid syntax"

inductive Token
  | name (text : String)
  | number (imaginary : Bool)
  | quoted (bytes : Bool)
  | opening (bracket : Char)
  | closing (bracket : Char)
  | mark (text : String)
  deriving Repr, DecidableEq

/-- A token with the number of brackets that are open behind it. -/
structure Lexeme where
  token : Token
  depth : Nat
  deriving Repr, DecidableEq

/-- Whether a character can stand in a name, as far as its width tells. -/
def isNameChar (c : Char) : Bool := c.isAlphanum || c = '_' || c.toNat ≥ 128

/-- The code points of signs that are shown and stand in no name. -/
def signRanges : Text.Ranges :=
  [(0xA1, 0xA9), (0xAB, 0xAC), (0xAE, 0xB4), (0xB6, 0xB6), (0xB8, 0xB9), (0xBB, 0xBF), (0xD7, 0xD7),
    (0xF7, 0xF7), (0x2010, 0x2027), (0x2030, 0x203E), (0x2041, 0x2053), (0x2055, 0x205E),
    (0x2070, 0x2070), (0x2074, 0x207E), (0x2080, 0x208E), (0x20A0, 0x20C0), (0x2190, 0x2BFF),
    (0x3001, 0x3004), (0x3008, 0x3020), (0x3030, 0x3030), (0xFF01, 0xFF0F), (0xFF1A, 0xFF20),
    (0xFF3B, 0xFF3E), (0xFF5B, 0xFF65), (0x1F000, 0x1FAFF)]

def checkName (cs : List Char) : Except SyntaxFault Unit :=
  cs.forM fun c =>
    if c.toNat < 128 then .ok ()
    else if Text.Table.unprintable.has c then .error (.unprintable c)
    else if signRanges.has c then .error (.character c)
    else .ok ()

/-- What follows digits that single underscores may part. -/
def digitsFrom (digit : Char → Bool) (fault : SyntaxFault) : List Char → Except SyntaxFault (List Char)
  | [] => .ok []
  | '_' :: rest => if rest.head?.any digit then digitsFrom digit fault rest else .error fault
  | c :: rest => if digit c then digitsFrom digit fault rest else .ok (c :: rest)

/-- The words that may follow a number without a blank. -/
def wordsBehindNumbers : List String := ["and", "else", "for", "not", "or"]

/-- Whether characters start with one of these words, or with `if`, `in` or `is`. -/
def startsWord (cs : List Char) : Bool :=
  (match cs with
    | 'i' :: c :: _ => c = 'f' || c = 'n' || c = 's'
    | _ => false) ||
  wordsBehindNumbers.contains (String.ofList (cs.takeWhile isNameChar))

/-- Checks what follows a number. -/
def endNumber (kind : String) (cs : List Char) : Except SyntaxFault (List Char) :=
  let joined := cs.head?.any fun c => isNameChar c && c.toNat < 128
  if joined && !startsWord cs then .error (.numeral kind) else .ok cs

/-- Reads the digits of a number in another base than ten. -/
def basedNumber (digit : Char → Bool) (kind : String) (cs : List Char) :
    Except SyntaxFault (List Char) := do
  let wrong (cs : List Char) : SyntaxFault := match cs with
    | c :: _ => if c.isDigit then .digit c kind else .numeral kind
    | [] => .numeral kind
  let digits := if cs.head? = some '_' then cs.drop 1 else cs
  if !digits.head?.any digit then throw (wrong digits)
  let behind := digits.dropWhile fun c => digit c || c = '_'
  let fault := match (digits.takeWhile fun c => digit c || c = '_').getLast?, behind with
    | some '_', behind => wrong behind
    | _, _ => .numeral kind
  let rest ← digitsFrom digit fault digits
  if rest.head?.any Char.isDigit then throw (wrong rest)
  endNumber kind rest

/-- Reads what may end a number: the letter of an imaginary one. -/
def imaginaryEnd (cs : List Char) : Except SyntaxFault (Bool × List Char) :=
  match cs with
  | 'j' :: rest | 'J' :: rest => do return (true, ← endNumber "imaginary" rest)
  | cs => do return (false, ← endNumber "decimal" cs)

def decimalDigits : List Char → Except SyntaxFault (List Char) :=
  digitsFrom Char.isDigit (.numeral "decimal")

/-- Reads an exponent, if there is one, and the end of a number. -/
def exponentEnd (cs : List Char) : Except SyntaxFault (Bool × List Char) :=
  match cs with
  | c :: rest =>
    if c ≠ 'e' ∧ c ≠ 'E' then imaginaryEnd cs
    else match rest with
      | mark :: rest' =>
        if mark = '+' ∨ mark = '-' then
          if rest'.head?.any Char.isDigit then do imaginaryEnd (← decimalDigits rest')
          else .error (.numeral "decimal")
        else if mark.isDigit then do imaginaryEnd (← decimalDigits rest)
        else do return (false, ← endNumber "decimal" cs)
      | [] => do return (false, ← endNumber "decimal" cs)
  | [] => imaginaryEnd []

/-- Reads what follows the whole part of a number. -/
def fractionEnd (cs : List Char) : Except SyntaxFault (Bool × List Char) :=
  match cs with
  | '.' :: rest =>
    if rest.head?.any Char.isDigit then do exponentEnd (← decimalDigits rest) else exponentEnd rest
  | cs => exponentEnd cs

/-- Reads a number behind the zero that it starts with; with other digits it must have a fraction, an
exponent or the letter of an imaginary number. -/
def zeroNumber (rest : List Char) : Except SyntaxFault (Bool × List Char) := do
  let behind ← decimalDigits rest
  let digits := rest.take (rest.length - behind.length)
  if digits.all (fun c => c = '0' || c = '_') || behind.head?.any (".eEjJ".contains ·) then
    fractionEnd behind
  else throw .leadingZeros

/-- Reads a number; `true` is an imaginary one. -/
def number (cs : List Char) : Except SyntaxFault (Bool × List Char) :=
  let plain (read : Except SyntaxFault (List Char)) := read.map fun rest => (false, rest)
  match cs with
  | '0' :: c :: rest =>
    if c = 'x' ∨ c = 'X' then plain (basedNumber Text.isHexDigit "hexadecimal" rest)
    else if c = 'o' ∨ c = 'O' then plain (basedNumber (fun c => '0' ≤ c && c < '8') "octal" rest)
    else if c = 'b' ∨ c = 'B' then plain (basedNumber (fun c => c = '0' || c = '1') "binary" rest)
    else zeroNumber (c :: rest)
  | '.' :: _ => fractionEnd cs
  | cs => do fractionEnd (← decimalDigits cs)

/-- Reads a quoted text behind its opening mark up to the closing one: whether it holds characters beyond
ASCII, the line behind it, and what follows. -/
def quotedFrom (mark : Char) (triple wide : Bool) (line : Nat) : List Char →
    Except SyntaxFault (Bool × Nat × List Char)
  | [] => .error (.unterminated triple line)
  | c :: rest =>
    let wide := wide || c.toNat ≥ 128
    if c = '\n' then
      if triple then quotedFrom mark triple wide (line + 1) rest else .error (.unterminated triple line)
    else if c = '\\' then
      match rest with
      | [] => .error (.unterminated triple line)
      | c :: rest =>
        quotedFrom mark triple (wide || c.toNat ≥ 128) (if c = '\n' then line + 1 else line) rest
    else if c ≠ mark then quotedFrom mark triple wide line rest
    else if !triple then .ok (wide, line, rest)
    else match rest with
      | d :: e :: behind =>
        if d = mark ∧ e = mark then .ok (wide, line, behind)
        else quotedFrom mark triple wide line (d :: e :: behind)
      | rest => quotedFrom mark triple wide line rest

def quotedText (line : Nat) (cs : List Char) : Except SyntaxFault (Bool × Nat × List Char) :=
  match cs with
  | a :: b :: c :: rest =>
    if a = b ∧ b = c then quotedFrom a true false line rest
    else quotedFrom a false false line (b :: c :: rest)
  | a :: rest => quotedFrom a false false line rest
  | [] => .error .form

/-- The letters that may stand before a quoted text. -/
def quoteLetters : List String := ["b", "u", "r", "f", "br", "rb", "fr", "rf"]

/-- The marks of more than one character. -/
def longMarks : List String :=
  ["**=", "//=", ">>=", "<<=", "...", "!=", "->", "**", "//", ">>", "<<", "<=", ">=", "==", ":=", "+=",
    "-=", "*=", "/=", "%=", "&=", "|=", "^=", "@=", "<>"]

/-- The mark that characters start with. -/
def markOf (c : Char) (rest : List Char) : String :=
  (longMarks.find? fun mark => mark.toList.isPrefixOf (c :: rest)).getD c.toString

def closingOf (c : Char) : Char := if c = '(' then ')' else if c = '[' then ']' else '}'

/-- The open brackets, the latest first, with the lines on which they stand. -/
abbrev Opened := List (Char × Nat)

/-- How many brackets may be open at once. -/
def depthLimit : Nat := 200

/-- The open brackets behind a closing one. -/
def closeBracket (opened : Opened) (line : Nat) (c : Char) : Except SyntaxFault Opened :=
  match opened with
  | [] => .error (.unmatched c)
  | (opening, start) :: rest =>
    if closingOf opening = c then .ok rest
    else .error (.mismatched c opening (if start = line then none else some start))

def isOpening (c : Char) : Bool := c = '(' || c = '[' || c = '\x7b'

def isClosing (c : Char) : Bool := c = ')' || c = ']' || c = '\x7d'

/-- The tokens of a text, and the fault that waits behind them if they end too early. -/
structure Tokens where
  lexemes : List Lexeme := []
  ending? : Option SyntaxFault := none

/-- The tokens of characters; `left` bounds the number of steps. -/
def tokensFrom (opened : Opened) (line : Nat) : Nat → List Char → Except SyntaxFault Tokens
  | 0, _ | _ + 1, [] => .ok { ending? := opened.head?.map fun (bracket, _) => .neverClosed bracket }
  | left + 1, c :: rest => do
    let token (t : Token) (opened : Opened) (line : Nat) (rest : List Char) := do
      let behind ← tokensFrom opened line left rest
      return { behind with lexemes := ⟨t, opened.length⟩ :: behind.lexemes }
    if c = ' ' ∨ c = '\t' ∨ c = '\x0c' then tokensFrom opened line left rest
    else if c = '\n' then
      if opened.isEmpty then token (.mark "\n") opened (line + 1) rest
      else tokensFrom opened (line + 1) left rest
    else if c = '#' then tokensFrom opened line left (rest.dropWhile (· ≠ '\n'))
    else if c = '\\' then
      match rest with
      | '\n' :: rest => tokensFrom opened (line + 1) left rest
      | _ => return { ending? := some .continuation }
    else if c.isDigit || (c = '.' && rest.head?.any Char.isDigit) then
      let (imaginary, rest) ← number (c :: rest)
      token (.number imaginary) opened line rest
    else if c = '\'' ∨ c = '"' then
      let (_, line, rest) ← quotedText line (c :: rest)
      token (.quoted false) opened line rest
    else if isNameChar c then
      let name := (c :: rest).takeWhile isNameChar
      let behind := rest.drop (name.length - 1)
      let letters := (String.ofList name).map Char.toLower
      if quoteLetters.contains letters && behind.head?.any (fun c => c = '\'' || c = '"') then
        let (wide, line, rest) ← quotedText line behind
        if wide && letters.contains 'b' then throw .bytesCharacter
        token (.quoted (letters.contains 'b')) opened line rest
      else
        checkName name
        token (.name (String.ofList name)) opened line behind
    else if isOpening c then
      if depthLimit ≤ opened.length then throw .tooDeep
      token (.opening c) ((c, line) :: opened) line rest
    else if isClosing c then token (.closing c) (← closeBracket opened line c) line rest
    else if Text.Table.unprintable.has c || c.toNat < 32 || c.toNat = 127 then throw (.unprintable c)
    else
      let mark := markOf c rest
      token (.mark mark) opened line (rest.drop (mark.length - 1))

/-- Tokens without the ends of empty lines; `blank` says whether the line is empty so far. -/
def withoutBlankLines (blank : Bool) : List Lexeme → List Lexeme
  | [] => []
  | lexeme :: rest =>
    if lexeme.token = .mark "\n" then
      if blank then withoutBlankLines true rest else lexeme :: withoutBlankLines true rest
    else lexeme :: withoutBlankLines false rest

def tokens (cs : List Char) : Except SyntaxFault Tokens := do
  if cs.contains '\x00' then throw .nul
  let tokens ← tokensFrom [] 1 (cs.length + 1) cs
  return { tokens with lexemes := withoutBlankLines true tokens.lexemes }

end PeSignals.Display.Handler
