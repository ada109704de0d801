import QueryRewriting.Toml.Scalar
import QueryRewriting.Toml.Text

/-! # Reading TOML text

Version 1.1 of the format: braces may span lines and end in a comma. A mark of byte order in front
is skipped. Arrays and braces may be nested up to a limit. -/

namespace QueryRewriting.Toml

/-- The number of arrays and braces that may be open at once. -/
def nestingLimit : Nat := 80

/-! ## Between the tokens -/

/-- What follows the spaces in front. -/
def skipSpace (cs : List Char) : List Char := cs.dropWhile isSpace

/-- What follows the empty lines and comments in front. -/
def skipLines? (inComment : Bool) : List Char → Option (List Char)
  | [] => some []
  | '\n' :: rest => skipLines? false rest
  | '\r' :: '\n' :: rest => skipLines? false rest
  | c :: rest =>
    if inComment then if isPlain c then skipLines? true rest else none
    else if isSpace c then skipLines? false rest
    else if c = '#' then skipLines? true rest
    else some (c :: rest)

/-- Drops what may stand behind an expression on its line, up to the first character of the next
expression. -/
def endLine? (cs : List Char) : Option (List Char) :=
  match skipSpace cs with
  | [] => some []
  | '#' :: rest => skipLines? true rest
  | '\n' :: rest => skipLines? false rest
  | '\r' :: '\n' :: rest => skipLines? false rest
  | _ => none

/-! ## Keys -/

/-- A character that a key without quotes may have. -/
def isBareKeyChar (c : Char) : Bool := c.isAlphanum || c == '_' || c == '-'

/-- The key in front, without dots. -/
def simpleKey? : List Char → Option (String × List Char)
  | '"' :: rest => (basicBody? rest).map fun (cs, rest) => (String.ofList cs, rest)
  | '\'' :: rest => (literalBody? rest).map fun (cs, rest) => (String.ofList cs, rest)
  | cs =>
    let bare := cs.takeWhile isBareKeyChar
    if bare.isEmpty then none else some (String.ofList bare, cs.dropWhile isBareKeyChar)

/-- The key in front: the keys before its last dot, and the last one. -/
def key? (fuel : Nat) (cs : List Char) : Option ((List String × String) × List Char) :=
  match fuel with
  | 0 => none
  | fuel + 1 => do
    let (key, rest) ← simpleKey? cs
    match skipSpace rest with
    | '.' :: rest =>
      let ((path, last), rest) ← key? fuel (skipSpace rest)
      return ((key :: path, last), rest)
    | _ => return (([], key), rest)

/-! ## Values -/

/-- A text with its delimiters, if one starts here. -/
def quotedText? : List Char → Option (List Char × List Char)
  | '"' :: '"' :: '"' :: rest => basicLines? .inText (dropFirstBreak rest)
  | '"' :: rest => basicBody? rest
  | '\'' :: '\'' :: '\'' :: rest => literalLines? (dropFirstBreak rest)
  | '\'' :: rest => literalBody? rest
  | _ => none

/-- The quote that begins a text. -/
def startsText (c : Char) : Bool := c == '"' || c == '\''

mutual

/-- The value in front, and what follows it. -/
def value? (fuel depth : Nat) (cs : List Char) : Option (Value × List Char) :=
  match fuel with
  | 0 => none
  | fuel + 1 =>
    match cs with
    | [] => none
    | '[' :: rest =>
      match depth with
      | 0 => none
      | depth + 1 => (items? fuel depth rest).map fun (items, rest) => (.array false items, rest)
    | '\x7b' :: rest =>
      match depth with
      | 0 => none
      | depth + 1 =>
        (pairs? fuel depth [] rest).map fun (fields, rest) => (.table .inline fields, rest)
    | c :: rest =>
      if startsText c then
        (quotedText? (c :: rest)).map fun (text, rest) => (.text (String.ofList text), rest)
      else
        let (text, rest) := scalarText (c :: rest)
        (scalar? text).map fun value => (value, rest)

/-- The items of an array up to its closing bracket; a comma may stand behind the last one. -/
def items? (fuel depth : Nat) (cs : List Char) : Option (List Value × List Char) :=
  match fuel with
  | 0 => none
  | fuel + 1 => do
    match ← skipLines? false cs with
    | ']' :: rest => return ([], rest)
    | cs =>
      let (item, rest) ← value? fuel depth cs
      match ← skipLines? false rest with
      | ',' :: rest =>
        let (items, rest) ← items? fuel depth rest
        return (item :: items, rest)
      | ']' :: rest => return ([item], rest)
      | _ => none

/-- The fields between braces up to the closing one, added to those read before. -/
def pairs? (fuel depth : Nat) (fields : Fields) (cs : List Char) : Option (Fields × List Char) :=
  match fuel with
  | 0 => none
  | fuel + 1 => do
    match ← skipLines? false cs with
    | '\x7d' :: rest => return (fields, rest)
    | cs =>
      let ((path, key), rest) ← key? fuel cs
      match skipSpace rest with
      | '=' :: rest =>
        let (value, rest) ← value? fuel depth (skipSpace rest)
        let (_, fields) ← addAt path key value .inline fields
        match ← skipLines? false rest with
        | ',' :: rest => pairs? fuel depth fields rest
        | '\x7d' :: rest => return (fields, rest)
        | _ => none
      | _ => none

end

/-! ## Documents -/

/-- A document read so far: its fields, and the path of the table that takes the next values. -/
structure Draft where
  fields : Fields
  table : List String

/-- Changes what a path leads to from the top. -/
def Draft.change? (draft : Draft) (path : List String) (change : Change) : Option Fields :=
  (changeAt false change path .header draft.fields).map (·.2)

/-- Takes the header or the assignment in front, and what follows it. -/
def Draft.expression? (fuel : Nat) (draft : Draft) (cs : List Char) :
    Option (Draft × List Char) :=
  match cs with
  | '[' :: '[' :: rest => do
    let ((path, key), rest) ← key? fuel (skipSpace rest)
    match skipSpace rest with
    | ']' :: ']' :: rest =>
      let fields ← draft.change? path (openItem key)
      return (⟨fields, path ++ [key]⟩, rest)
    | _ => none
  | '[' :: rest => do
    let ((path, key), rest) ← key? fuel (skipSpace rest)
    match skipSpace rest with
    | ']' :: rest =>
      let fields ← draft.change? path (openTable key)
      return (⟨fields, path ++ [key]⟩, rest)
    | _ => none
  | cs => do
    let ((path, key), rest) ← key? fuel cs
    match skipSpace rest with
    | '=' :: rest =>
      let (value, rest) ← value? fuel nestingLimit (skipSpace rest)
      let fields ← draft.change? draft.table (addAt path key value)
      return ({ draft with fields }, rest)
    | _ => none

/-- Reads the expressions of a document, each on a line of its own. -/
def Draft.complete? (fuel : Nat) (draft : Draft) (cs : List Char) : Option Fields :=
  match fuel with
  | 0 => none
  | fuel + 1 =>
    if cs.isEmpty then some draft.fields
    else do
      let (draft, rest) ← draft.expression? fuel cs
      draft.complete? fuel (← endLine? rest)

/-- The fields of a text, which may begin with a byte order mark. -/
def read? (text : String) : Option Fields := do
  let cs := match text.toList with
    | '\uFEFF' :: rest => rest
    | cs => cs
  Draft.complete? (2 * cs.length + 2) ⟨[], []⟩ (← skipLines? false cs)

end QueryRewriting.Toml
