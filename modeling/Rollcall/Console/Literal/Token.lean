import Rollcall.Text.Numeral
import Rollcall.Text.Quoted
import Rollcall.Text.Word

/-!
# Tokens of literals

The parameters of a tag are literals: numerals, quoted texts, and tuples, sets and dictionaries of them.  Here they are
divided into tokens.  The brackets have to match already at this stage.
-/

namespace Rollcall.Console

/-- How a numeral is written. -/
inductive NumeralForm where
  | decimal
  | hexadecimal
  | octal
  | binary
  | imaginary
deriving DecidableEq, Repr, Inhabited

/-- The word for a form in messages. -/
def NumeralForm.word : NumeralForm → String
  | .decimal => "decimal"
  | .hexadecimal => "hexadecimal"
  | .octal => "octal"
  | .binary => "binary"
  | .imaginary => "imaginary"

/-- What a quoted text stands for. -/
inductive TextForm where
  | characters
  | bytes
  /-- A text with places to fill in, which is no literal. -/
  | template
deriving DecidableEq, Repr, Inhabited

/-- What is wrong with a text that should be a literal. -/
inductive LiteralFault where
  | nullCharacter
  | indented
  | openText (isTriple : Bool)
  /-- An escape from one position of a text to another has a fault. -/
  | badEscape (first last : Nat) (reason : String)
  | badByteEscape (position : Nat)
  | wideBytes
  | mixedTexts
  | badNumeral (form : NumeralForm)
  | badDigit (digit : Char) (form : NumeralForm)
  | leadingZeros
  | manyDigits (digits : Nat)
  | tooDeep
  | badCharacter (c : Char)
  | strayBackslash
  | unmatched (closing : Char)
  | mismatch (opening closing : Char)
  | neverClosed (opening : Char)
  | missingComma
  | missingColon
  | missingValue
  | assigned (isName : Bool)
  | malformed
  /-- The text is an expression, but no literal. -/
  | notLiteral
  /-- A member of a set, or a key, is of a kind that cannot be one. -/
  | unhashable (kind : String)
deriving DecidableEq, Repr, Inhabited

/-- The message of a fault. -/
def LiteralFault.message : LiteralFault → String
  | .nullCharacter => "source code string cannot contain null bytes"
  | .indented => "unexpected indent"
  | .openText true => "unterminated triple-quoted string literal (detected at line 1)"
  | .openText false => "unterminated string literal (detected at line 1)"
  | .badEscape first last reason =>
    "(unicode error) 'unicodeescape' codec can't decode bytes in position " ++ toString first ++ "-" ++
      toString last ++ ": " ++ reason
  | .badByteEscape position => "(value error) invalid \\x escape at position " ++ toString position
  | .wideBytes => "bytes can only contain ASCII literal characters"
  | .mixedTexts => "cannot mix bytes and nonbytes literals"
  | .badNumeral form => "invalid " ++ form.word ++ " literal"
  | .badDigit digit form => "invalid digit '" ++ digit.toString ++ "' in " ++ form.word ++ " literal"
  | .leadingZeros =>
    "leading zeros in decimal integer literals are not permitted; use an 0o prefix for octal integers"
  | .manyDigits digits =>
    "Exceeds the limit (" ++ toString Text.decimalLimit ++ " digits) for integer string conversion: value has " ++
      toString digits ++ " digits; use sys.set_int_max_str_digits() to increase the limit - Consider hexadecimal " ++
      "for huge integer literals to avoid decimal conversion limits."
  | .tooDeep => "too many nested parentheses"
  | .badCharacter c =>
    let digits := String.ofList ((Text.hexDigits (if c.toNat < 0x10000 then 4 else 5) c.toNat).map Char.toUpper)
    if Text.isPrintable c then "invalid character '" ++ c.toString ++ "' (U+" ++ digits ++ ")"
    else "invalid non-printable character U+" ++ digits
  | .strayBackslash => "unexpected character after line continuation character"
  | .unmatched closing => "unmatched '" ++ closing.toString ++ "'"
  | .mismatch opening closing =>
    "closing parenthesis '" ++ closing.toString ++ "' does not match opening parenthesis '" ++ opening.toString ++ "'"
  | .neverClosed opening => "'" ++ opening.toString ++ "' was never closed"
  | .missingComma => "invalid syntax. Perhaps you forgot a comma?"
  | .missingColon => "':' expected after dictionary key"
  | .missingValue => "expression expected after dictionary key and ':'"
  | .assigned true => "invalid syntax. Maybe you meant '==' or ':=' instead of '='?"
  | .assigned false => "cannot assign to literal here. Maybe you meant '==' instead of '='?"
  | .malformed => "invalid syntax"
  | .notLiteral => "malformed node or string on line 1"
  | .unhashable kind => "unhashable type: '" ++ kind ++ "'"

/-- Whether a fault shows before the value of the text is looked at. -/
def LiteralFault.isSyntactic : LiteralFault → Bool
  | .notLiteral => false
  | .unhashable _ => false
  | _ => true

/-- A token of a literal. -/
inductive LiteralToken where
  | numeral (isImaginary : Bool)
  /-- A text, and what is wrong between its quotes. -/
  | text (form : TextForm) (fault : Option LiteralFault)
  | ellipsis
  | name (word : String)
  | opening (bracket : Char)
  | closing (bracket : Char)
  | comma
  | colon
  | equals
  /-- A plus or a minus, before an operand or between two of them. -/
  | sign
  /-- The complement of a number. -/
  | tilde
  | operator
  /-- The end of a line outside all brackets. -/
  | newline
  /-- A character that belongs to no expression. -/
  | stranger
deriving DecidableEq, Repr, Inhabited

namespace LiteralToken

/-! ### Numerals -/

/-- The digits and underscores at the beginning. -/
def digitRun (cs : List Char) : List Char :=
  cs.takeWhile fun c => c.isDigit || c == '_'

/-- Whether underscores stand only between two digits. -/
def isGrouped (cs : List Char) : Bool :=
  (cs.splitOn '_').all fun group => !group.isEmpty

/-- The length of a numeral in another base, given the text behind its mark. -/
def markedLength (form : NumeralForm) (isDigit : Char → Bool) (cs : List Char) : Except LiteralFault Nat :=
  let run := cs.takeWhile fun c => Text.isWordChar c
  let digits := if run.head? = some '_' then run.drop 1 else run
  match digits.find? fun c => c != '_' && !isDigit c with
  | some c => .error (if form ≠ .hexadecimal && c.isDigit then .badDigit c form else .badNumeral form)
  | none => if isGrouped digits then .ok (run.length + 2) else .error (.badNumeral form)

/-- The sign and the digits behind the mark of an exponent. -/
def exponentRun (cs : List Char) : List Char :=
  match cs with
  | '+' :: cs => '+' :: digitRun cs
  | '-' :: cs => '-' :: digitRun cs
  | cs => digitRun cs

/-- The length of a decimal numeral, and whether it is imaginary. -/
def decimalLength (cs : List Char) : Except LiteralFault (Bool × Nat) :=
  let whole := digitRun cs
  let afterWhole := cs.drop whole.length
  let fraction := if afterWhole.head? = some '.' then '.' :: digitRun (afterWhole.drop 1) else []
  let afterFraction := afterWhole.drop fraction.length
  let exponent :=
    if afterFraction.head?.any fun c => c == 'e' || c == 'E' then 'e' :: exponentRun (afterFraction.drop 1) else []
  let afterExponent := afterFraction.drop exponent.length
  let unit := afterExponent.take (if afterExponent.head?.any fun c => c == 'j' || c == 'J' then 1 else 0)
  let runs := [whole, fraction.drop 1].filter fun run => !run.isEmpty
  let digits := (exponent.drop 1).dropWhile fun c => c == '+' || c == '-'
  let isInteger := fraction.isEmpty && exponent.isEmpty && unit.isEmpty
  if !runs.all isGrouped || !exponent.isEmpty && !isGrouped digits then .error (.badNumeral .decimal)
  else if isInteger && whole.head? = some '0' && whole.any fun c => c != '0' && c != '_' then .error .leadingZeros
  else if (afterExponent.drop unit.length).head?.any Text.isWordChar then
    .error (.badNumeral (if unit.isEmpty then .decimal else .imaginary))
  else if isInteger && Text.decimalLimit < (whole.filter Char.isDigit).length && whole.head? ≠ some '0' then
    .error (.manyDigits (whole.filter Char.isDigit).length)
  else .ok (!unit.isEmpty, whole.length + fraction.length + exponent.length + unit.length)

/-- Whether a character is a hexadecimal digit. -/
def isHexDigit (c : Char) : Bool :=
  c.isDigit || ('a' ≤ c.toLower && c.toLower ≤ 'f')

/-- The length of a numeral, and whether it is imaginary. -/
def numeralLength (cs : List Char) : Except LiteralFault (Bool × Nat) :=
  match cs with
  | '0' :: mark :: rest =>
    match mark.toLower with
    | 'x' => (markedLength .hexadecimal isHexDigit rest).map fun length => (false, length)
    | 'o' => (markedLength .octal (fun c => '0' ≤ c && c ≤ '7') rest).map fun length => (false, length)
    | 'b' => (markedLength .binary (fun c => c == '0' || c == '1') rest).map fun length => (false, length)
    | _ => decimalLength cs
  | _ => decimalLength cs

/-! ### Texts -/

/-- Whether a line ends at a character. -/
def isLineEnd (c : Char) : Bool :=
  c == '\n' || c == '\r'

/-- The length of what remains of a text with its closing quotes, if they are there.  The next character is escaped if
`isEscaped` holds. -/
def textRest? (quotes : List Char) : (isEscaped : Bool) → List Char → Option Nat
  | _, [] => none
  | true, _ :: cs => (textRest? quotes false cs).map (· + 1)
  | false, c :: cs =>
    if quotes.isPrefixOf (c :: cs) then some quotes.length
    else if isLineEnd c && quotes.length = 1 then none
    else (textRest? quotes (c = '\\') cs).map (· + 1)

/-- How many hexadecimal digits an escape needs, by the letter behind the backslash, and what is said if there are
fewer. -/
def hexEscapes : List (Char × Nat × String) :=
  [('x', 2, "truncated \\xXX escape"), ('u', 4, "truncated \\uXXXX escape"), ('U', 8, "truncated \\UXXXXXXXX escape")]

/-- The fault of an escape, given the letter behind the backslash and the text behind that.  The names of characters
are taken as they are. -/
def escapeFault? (position : Nat) (letter : Char) (rest : List Char) : Option LiteralFault :=
  match hexEscapes.find? (·.1 == letter) with
  | some (_, count, reason) =>
    let digits := (rest.take count).takeWhile isHexDigit
    if digits.length < count then some (.badEscape position (position + 1 + digits.length) reason)
    else if letter = 'U' && (Nat.ofDigitChars 16 digits 0) > 0x10FFFF then
      some (.badEscape position (position + 9) "illegal Unicode character")
    else none
  | none =>
    if letter = 'N' then
      let name := (rest.drop 1).takeWhile (· != '\x7d')
      let isNamed := rest.head? = some '\x7b' && (rest.drop (name.length + 1)).head? = some '\x7d' && !name.isEmpty
      let length := if rest.head? = some '\x7b' then name.length + 2 else 1
      if isNamed then none else some (.badEscape position (position + length) "malformed \\N character escape")
    else none

/-- The first fault of the escapes of a text from `position` on, where a wide character takes the place of its
escape. -/
def escapesFault? : (position : Nat) → List Char → Option LiteralFault
  | _, [] => none
  | _, [_] => none
  | position, '\\' :: c :: cs =>
    escapeFault? position c cs <|> escapesFault? (position + if c.toNat < 128 then 2 else 11) cs
  | position, c :: cs => escapesFault? (position + if c.toNat < 128 then 1 else 10) cs

/-- The first fault of the escapes of bytes from `position` on. -/
def byteEscapesFault? : (position : Nat) → List Char → Option LiteralFault
  | _, [] => none
  | _, [_] => none
  | position, '\\' :: c :: cs =>
    if c = 'x' && ((cs.take 2).takeWhile isHexDigit).length < 2 then some (.badByteEscape position)
    else byteEscapesFault? (position + 2) cs
  | position, _ :: cs => byteEscapesFault? (position + 1) cs

/-- The fault of what stands between the quotes of a text. -/
def bodyFault? (form : TextForm) (isRaw : Bool) (body : List Char) : Option LiteralFault :=
  match form with
  | .template => none
  | .characters => if isRaw then none else escapesFault? 0 body
  | .bytes =>
    if body.any fun c => 128 ≤ c.toNat then some .wideBytes
    else if isRaw then none else byteEscapesFault? 0 body

/-- The text that starts with the given quote, with its length. -/
def textFrom (form : TextForm) (isRaw : Bool) (quote : Char) (cs : List Char) :
    Except LiteralFault (LiteralToken × Nat) :=
  let isTriple := [quote, quote, quote].isPrefixOf cs
  let quotes := List.replicate (if isTriple then 3 else 1) quote
  match textRest? quotes false (cs.drop quotes.length) with
  | some length =>
    let body := (cs.drop quotes.length).take (length - quotes.length)
    .ok (.text form (bodyFault? form isRaw body), quotes.length + length)
  | none => .error (.openText isTriple)

/-- The letters that may stand before a text, in small letters. -/
def textMarks : List String :=
  ["r", "u", "b", "f", "br", "rb", "fr", "rf"]

/-- The form of a text with some letters before it. -/
def formOf (marks : List Char) : TextForm :=
  if marks.contains 'f' then .template else if marks.contains 'b' then .bytes else .characters

/-! ### Tokens -/

/-- The operators, longer ones before their beginnings. -/
def operators : List (String × LiteralToken) :=
  [("...", .ellipsis), ("**", .operator), ("//", .operator), ("==", .operator), ("!=", .operator), ("<=", .operator),
    (">=", .operator), ("<<", .operator), (">>", .operator), (":=", .operator), ("+", .sign), ("-", .sign),
    (",", .comma), (":", .colon), ("=", .equals), ("*", .operator), ("/", .operator), ("%", .operator),
    ("@", .operator), ("&", .operator), ("|", .operator), ("^", .operator), ("~", .tilde), ("<", .operator),
    (">", .operator), (".", .operator), ("(", .opening '('), ("[", .opening '['), ("\x7b", .opening '\x7b'),
    (")", .closing ')'), ("]", .closing ']'), ("\x7d", .closing '\x7d'), (";", .stranger), ("!", .stranger),
    ("?", .stranger), ("$", .stranger), ("\x60", .stranger)]

/-- The name at the beginning and its length, or the text that starts with it. -/
def nameOrText (cs : List Char) : Except LiteralFault (LiteralToken × Nat) :=
  let word := cs.takeWhile Text.isWordChar
  let rest := cs.drop word.length
  let marks := word.map Char.toLower
  match rest.head? with
  | some quote =>
    if (quote = '"' || quote = '\'') && textMarks.contains (String.ofList marks) then
      (textFrom (formOf marks) (marks.contains 'r') quote rest).map fun (token, length) => (token, word.length + length)
    else .ok (.name (String.ofList word), word.length)
  | none => .ok (.name (String.ofList word), word.length)

/-- Whether a character is a blank inside a line. -/
def isSpace (c : Char) : Bool :=
  c == ' ' || c == '\t' || c == '\x0c'

/-- The token at the beginning of a text and its length.  Blanks, remarks, and a backslash at the end of a line are no
tokens. -/
def first (cs : List Char) : Except LiteralFault (Option LiteralToken × Nat) :=
  match cs with
  | [] => .ok (none, 0)
  | c :: rest =>
    if isSpace c then .ok (none, 1)
    else if isLineEnd c then .ok (some .newline, 1)
    else if c = '#' then .ok (none, (cs.takeWhile fun c => !isLineEnd c).length)
    else if c = '\\' then
      if rest.take 2 = ['\r', '\n'] then .ok (none, 3)
      else if rest.head?.any isLineEnd then .ok (none, 2)
      else .error .strayBackslash
    else if c = '"' || c = '\'' then (textFrom .characters false c cs).map fun (token, length) => (some token, length)
    else if c.isDigit || (c = '.' && rest.head?.any Char.isDigit) then
      (numeralLength cs).map fun (isImaginary, length) => (some (.numeral isImaginary), length)
    else if Text.isWordChar c then (nameOrText cs).map fun (token, length) => (some token, length)
    else
      match operators.find? fun (written, _) => written.toList.isPrefixOf cs with
      | some (written, token) => .ok (some token, written.length)
      | none => .error (.badCharacter c)

/-- The brackets in pairs. -/
def brackets : List (Char × Char) :=
  [('(', ')'), ('[', ']'), ('\x7b', '\x7d')]

/-- The most brackets that may be open. -/
def maxDepth : Nat := 200

/-- The open brackets, the last first, behind one more token. -/
def follow (opened : List Char) (token : Option LiteralToken) : Except LiteralFault (List Char) :=
  match token, opened with
  | some (.opening c), _ => if opened.length < maxDepth then .ok (c :: opened) else .error .tooDeep
  | some (.closing c), [] => .error (.unmatched c)
  | some (.closing c), o :: opened =>
    if brackets.contains (o, c) then .ok opened else .error (.mismatch o c)
  | _, _ => .ok opened

/-- The tokens of a text behind some open brackets, of which `inside` characters belong to the token before. -/
def tokensFrom : (inside : Nat) → (opened : List Char) → List Char → Except LiteralFault (List LiteralToken)
  | _, _, [] => .ok []
  | inside + 1, opened, _ :: cs => tokensFrom inside opened cs
  | 0, opened, c :: cs => do
    let (token, length) ← first (c :: cs)
    let token := token.filter fun token => token ≠ .newline || opened.isEmpty
    let opened ← follow opened token
    return token.toList ++ (← tokensFrom (length - 1) opened cs)

/-- Whether a line holds no token. -/
def isEmptyLine (line : List Char) : Bool :=
  let line := line.dropWhile isSpace
  line.isEmpty || line.head? == some '#'

/-- Whether the first line with a token is indented, unless it is the first line of all. -/
def isIndented (cs : List Char) : Bool :=
  let lines := cs.splitOnP isLineEnd
  lines.head?.any isEmptyLine && ((lines.dropWhile isEmptyLine).head?.bind List.head?).any fun c => c == ' ' || c == '\t'

/-- The tokens of a text, without ends of lines before and behind them. -/
def ofText (cs : List Char) : Except LiteralFault (List LiteralToken) := do
  if cs.contains '\x00' then throw .nullCharacter
  if isIndented cs then throw .indented
  let tokens ← tokensFrom 0 [] cs
  return ((tokens.dropWhile (· == .newline)).reverse.dropWhile (· == .newline)).reverse

end LiteralToken

end Rollcall.Console
