/-! # Media types

A media type is two names with a slash between them, and parameters behind semicolons. Names are
compared without regard to case. A body is JSON if its type says so, or if the second name ends in a
suffix that does.
-/

namespace QueryRewriting.MediaType

/-- A character that a name in a media type may have. -/
def isTokenChar (c : Char) : Bool := c.isAlphanum || "!#$%&'*+-.^_`|~".toList.contains c

/-- A character that may stand between quotes: a tab, or one that is no control. -/
def isQuotedChar (c : Char) : Bool := c.toNat != 0x7F && (0x20 ≤ c.toNat || c == '\t')

mutual

/-- Whether the rest of a media type is a list of parameters, each after a semicolon and blanks. -/
def areParameters (fuel : Nat) (cs : List Char) : Bool :=
  match fuel with
  | 0 => false
  | fuel + 1 =>
    match cs.dropWhile (· == ' ') with
    | [] => true
    | cs =>
      let name := cs.takeWhile fun c => isTokenChar c
      match cs.drop name.length with
      | '=' :: value => !name.isEmpty && isValue fuel value
      | _ => false

/-- Whether a parameter's value, and all that follows it, is in order. -/
def isValue (fuel : Nat) (cs : List Char) : Bool :=
  match fuel with
  | 0 => false
  | fuel + 1 =>
    match cs with
    | '"' :: quoted =>
      let body := quoted.takeWhile fun c => c != '"' && isQuotedChar c
      match quoted.drop body.length with
      | '"' :: rest =>
        match rest.dropWhile (· == ' ') with
        | [] => !body.isEmpty
        | ';' :: rest => !body.isEmpty && areParameters fuel rest
        | _ => false
      | _ => false
    | cs =>
      let value := cs.takeWhile fun c => isTokenChar c
      match cs.drop value.length with
      | [] => true
      | ';' :: rest => !value.isEmpty && areParameters fuel rest
      | _ => false

end

/-- Whether a second name is that of JSON: by itself, before a suffix, or as the last suffix. There
is no suffix without something before it. -/
def isJsonName (name : List Char) : Bool :=
  let suffix := (name.reverse.takeWhile (· != '+')).reverse
  let before := name.take (name.length - suffix.length - 1)
  name == "json".toList
    || (!before.isEmpty && (suffix == "json".toList || before == "json".toList))

/-- Whether a media type is one of JSON, in letters of either case and with whatever parameters. -/
def isJson (text : String) : Bool :=
  let cs := text.toList.map Char.toLower
  let first := cs.takeWhile fun c => isTokenChar c
  match cs.drop first.length with
  | '/' :: rest =>
    let second := rest.takeWhile fun c => isTokenChar c
    let ending := rest.drop second.length
    let wellFormed := match ending with
      | [] => true
      | ';' :: parameters => areParameters (2 * parameters.length + 2) parameters
      | _ => false
    first == "application".toList && isJsonName second && wellFormed
  | _ => false

end QueryRewriting.MediaType
