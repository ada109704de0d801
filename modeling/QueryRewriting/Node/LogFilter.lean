import QueryRewriting.Text.Blank

/-! # Log filters

Which log lines a node writes. A filter is a list of directives separated by commas: a level, a
target, or both with an equals sign between them. For a line the directive with the longest target
that its own target starts with decides.
-/

namespace QueryRewriting

open Text

/-- The levels of log lines, from the one that shows nothing. -/
inductive LogLevel where
  | off
  | error
  | warn
  | info
  | debug
  | trace
  deriving DecidableEq, Repr

namespace LogLevel

/-- How much a level shows. -/
def rank : LogLevel → Nat
  | off => 0
  | error => 1
  | warn => 2
  | info => 3
  | debug => 4
  | trace => 5

/-- The name of a level. -/
def name : LogLevel → String
  | off => "OFF"
  | error => "ERROR"
  | warn => "WARN"
  | info => "INFO"
  | debug => "DEBUG"
  | trace => "TRACE"

/-- The levels, from nothing to everything. -/
def all : List LogLevel := [off, error, warn, info, debug, trace]

/-- A level by its rank or by its name in any case. -/
def read? (text : String) : Option LogLevel :=
  let digits := match text.toList with
    | '+' :: rest => rest
    | cs => cs
  if !digits.isEmpty && digits.all Char.isDigit then
    match digits.dropWhile (· == '0') with
    | [] => some off
    | [c] => all[c.toNat - '0'.toNat]?
    | _ => none
  else all.find? fun level => level.name == String.ofList (text.toList.map Char.toUpper)

end LogLevel

/-- A directive: the most it shows of the lines of a target, or of all lines. `spans` marks one that
only speaks of lines within a span. -/
structure LogDirective where
  target : Option String
  level : LogLevel
  spans : Bool
  deriving DecidableEq, Repr

namespace LogDirective

/-- The level behind an equals sign; without a text it is the most detailed one. -/
def levelOrAll? (text : String) : Option LogLevel :=
  if text.isEmpty then some .trace else LogLevel.read? text

/-- A character that the target of a directive may begin with. -/
def isStart (c : Char) : Bool :=
  c == '-' || c == ':' || c == '_' || c.isAlphanum || 0x80 ≤ c.toNat

/-- The directive whose span has been read, with its level if there is one. -/
def afterSpan? (target : Option String) (cs : List Char) : Option LogDirective :=
  match cs with
  | [] => some ⟨target, .trace, true⟩
  | '=' :: level => (levelOrAll? (String.ofList level)).map (⟨target, ·, true⟩)
  | _ => none

/-- Reads a directive. Blanks in front shift its characters against their places, so that a
directive is best written without them. -/
def read? (written : String) : Option LogDirective :=
  let cs := trimChars written.toList
  match cs with
  | [] => none
  | '[' :: rest => afterSpan? none ((rest.dropWhile (· ≠ ']')).drop 1)
  | c :: _ =>
    if !isStart c then none
    else
      let length := (cs.takeWhile fun c => c ≠ '=' && c ≠ '[').length
      match cs.drop length with
      | [] =>
        match LogLevel.read? written with
        | some level => some ⟨none, level, false⟩
        | none => some ⟨some written, .trace, false⟩
      | '=' :: _ =>
        (levelOrAll? (String.ofList (written.toList.drop (length + 1)))).map
          (⟨some (String.ofList (written.toList.take length)), ·, false⟩)
      | _ :: rest =>
        afterSpan? (some (String.ofList (written.toList.take length)))
          ((rest.dropWhile (· ≠ ']')).drop 1)

/-- Whether a directive speaks of the lines of a target. -/
def covers (directive : LogDirective) (target : String) : Bool :=
  !directive.spans &&
    match directive.target with
    | none => true
    | some start => start.toList.isPrefixOf target.toList

/-- Whether a directive is at least as specific as another one. -/
def atLeast (a b : LogDirective) : Bool :=
  match a.target, b.target with
  | some s, some t => t.utf8ByteSize ≤ s.utf8ByteSize
  | some _, none => true
  | none, some _ => false
  | none, none => true

end LogDirective

/-- The directives of a filter, in the order of the text. -/
abbrev LogFilter := List LogDirective

namespace LogFilter

/-- Cuts a text at its commas; `word` holds the current piece, backwards. -/
def pieces (word : List Char) : List Char → List String
  | [] => [String.ofList word.reverse]
  | c :: rest =>
    if c = ',' then String.ofList word.reverse :: pieces [] rest else pieces (c :: word) rest

/-- The filter that shows everything up to a level. -/
def upTo (level : LogLevel) : LogFilter := [⟨none, level, false⟩]

/-- Reads a filter. A text without directives shows errors only. When one directive cannot be read,
lines are shown up to the level `info`. -/
def read (text : String) : LogFilter :=
  match ((pieces [] text.toList).filter (!·.isEmpty)).mapM LogDirective.read? with
  | none => upTo .info
  | some [] => upTo .error
  | some directives => directives

/-- The directive that decides on the lines of a target: the most specific one, and the last of
several that are equally specific. -/
def deciding (filter : LogFilter) (target : String) : Option LogDirective :=
  (filter.filter (·.covers target)).foldl
    (fun best directive =>
      match best with
      | none => some directive
      | some other => if directive.atLeast other then some directive else best) none

/-- Whether a filter shows lines of a level and a target. -/
def shows (filter : LogFilter) (level : LogLevel) (target : String) : Bool :=
  match filter.deciding target with
  | some directive => level.rank ≤ directive.level.rank
  | none => false

end LogFilter

end QueryRewriting
