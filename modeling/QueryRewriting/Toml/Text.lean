import QueryRewriting.Text.Hex

/-! # Texts of TOML

Basic texts stand between double quotes and know escapes, literal ones stand between apostrophes and
know none. Both have a form between three delimiters that may span lines.
-/

namespace QueryRewriting.Toml

open Text

/-- A character that may stand in a comment or a text; a tab is the only control among them. -/
def isPlain (c : Char) : Bool := c == '\t' || (0x20 ≤ c.toNat && c.toNat ≤ 0x7E) || 0x80 ≤ c.toNat

/-- A blank within a line. -/
def isSpace (c : Char) : Bool := c == ' ' || c == '\t'

/-- The character of a code point in hexadecimal digits. -/
def codePoint? (digits : List Char) : Option Char := do
  let n := hexNumber (← digits.mapM hexDigit?)
  if n.isValidChar then some (Char.ofNat n) else none

/-- The character of a short escape. -/
def escape? (c : Char) : Option Char :=
  match c with
  | 'b' => some '\x08'
  | 't' => some '\t'
  | 'n' => some '\n'
  | 'f' => some '\x0c'
  | 'r' => some '\r'
  | 'e' => some '\x1b'
  | '"' => some '"'
  | '\\' => some '\\'
  | _ => none

/-- Puts a character in front of what was read, if both are there. -/
def push? (c : Option Char) (read : Option (List Char × List Char)) :
    Option (List Char × List Char) :=
  match c, read with
  | some c, some (cs, rest) => some (c :: cs, rest)
  | _, _ => none

/-- The rest of a basic text behind its opening quote, and what follows the closing one. -/
def basicBody? : List Char → Option (List Char × List Char)
  | [] => none
  | '"' :: rest => some ([], rest)
  | '\\' :: 'x' :: a :: b :: rest => push? (codePoint? [a, b]) (basicBody? rest)
  | '\\' :: 'u' :: a :: b :: c :: d :: rest => push? (codePoint? [a, b, c, d]) (basicBody? rest)
  | '\\' :: 'U' :: a :: b :: c :: d :: e :: f :: g :: h :: rest =>
    push? (codePoint? [a, b, c, d, e, f, g, h]) (basicBody? rest)
  | '\\' :: c :: rest => push? (escape? c) (basicBody? rest)
  | c :: rest => if isPlain c && c != '\\' then push? (some c) (basicBody? rest) else none

/-- The rest of a literal text behind its opening apostrophe, and what follows the closing one. -/
def literalBody? : List Char → Option (List Char × List Char)
  | [] => none
  | '\'' :: rest => some ([], rest)
  | c :: rest => if isPlain c then push? (some c) (literalBody? rest) else none

/-- Where a reader of lines is: in the text, behind a backslash that ends a line, or on the lines
that follow such a backslash. -/
inductive LineState where
  | inText
  | endingLine
  | skipping
  deriving DecidableEq

/-- The rest of a basic text of several lines. One or two quotes belong to the text, also right
before the closing three. A backslash at the end of a line drops all blanks up to the next
character. -/
def basicLines? (state : LineState) : List Char → Option (List Char × List Char)
  | [] => none
  | '\r' :: '\n' :: rest =>
    if state = .inText then push? (some '\r') (push? (some '\n') (basicLines? .inText rest))
    else basicLines? .skipping rest
  | '\n' :: rest =>
    if state = .inText then push? (some '\n') (basicLines? .inText rest)
    else basicLines? .skipping rest
  -- Up to two quotes may stand in front of the three that close the text.
  | '"' :: '"' :: '"' :: '"' :: '"' :: rest =>
    if state = .endingLine then none else some (['"', '"'], rest)
  | '"' :: '"' :: '"' :: '"' :: rest => if state = .endingLine then none else some (['"'], rest)
  | '"' :: '"' :: '"' :: rest => if state = .endingLine then none else some ([], rest)
  | '\\' :: 'x' :: a :: b :: rest =>
    if state = .endingLine then none else push? (codePoint? [a, b]) (basicLines? .inText rest)
  | '\\' :: 'u' :: a :: b :: c :: d :: rest =>
    if state = .endingLine then none
    else push? (codePoint? [a, b, c, d]) (basicLines? .inText rest)
  | '\\' :: 'U' :: a :: b :: c :: d :: e :: f :: g :: h :: rest =>
    if state = .endingLine then none
    else push? (codePoint? [a, b, c, d, e, f, g, h]) (basicLines? .inText rest)
  | '\\' :: c :: rest =>
    if state = .endingLine then none
    else if isSpace c then basicLines? .endingLine rest
    else if c = '\n' then basicLines? .skipping rest
    else if c = '\r' then
      match rest with
      | '\n' :: rest => basicLines? .skipping rest
      | _ => none
    else push? (escape? c) (basicLines? .inText rest)
  | c :: rest =>
    if isSpace c && state ≠ .inText then basicLines? state rest
    else if state = .endingLine || !isPlain c || c == '\\' then none
    else push? (some c) (basicLines? .inText rest)

/-- The rest of a literal text of several lines, and what follows its end. Up to two apostrophes may
stand before the end. -/
def literalLines? : List Char → Option (List Char × List Char)
  | [] => none
  | '\'' :: '\'' :: '\'' :: '\'' :: '\'' :: rest => some (['\'', '\''], rest)
  | '\'' :: '\'' :: '\'' :: '\'' :: rest => some (['\''], rest)
  | '\'' :: '\'' :: '\'' :: rest => some ([], rest)
  | '\r' :: '\n' :: rest => push? (some '\r') (push? (some '\n') (literalLines? rest))
  | c :: rest =>
    if isPlain c || c == '\n' then push? (some c) (literalLines? rest) else none

/-- Drops the line break right behind the opening delimiter. -/
def dropFirstBreak : List Char → List Char
  | '\n' :: rest => rest
  | '\r' :: '\n' :: rest => rest
  | cs => cs

end QueryRewriting.Toml
