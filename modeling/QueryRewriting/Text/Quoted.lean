import QueryRewriting.Text.GraphemeExtend
import QueryRewriting.Text.Unprintable

/-! # Quoted text

Messages and log lines quote a text so that every character of it can be seen: the two delimiters
and the usual controls have short escapes, any other character without a visible form of its own is
written by its code point, and all else stands for itself.
-/

namespace QueryRewriting.Text

/-- A character with no visible form of its own. Within ASCII these are the controls. -/
def isHidden (c : Char) : Bool :=
  if c.toNat < 0x7F then c.toNat < 0x20
  else CharSet.graphemeExtend.contains c || CharSet.unprintable.contains c

/-- The code point in lower-case hexadecimal digits, without padding. -/
def escapeCode (c : Char) : List Char :=
  ['\\', 'u', '\x7b'] ++ Nat.toDigits 16 c.toNat ++ ['\x7d']

/-- One character between quotes. The apostrophe needs no escape. -/
def escapeChar (c : Char) : List Char :=
  if c = '"' then ['\\', '"']
  else if c = '\\' then ['\\', '\\']
  else if c = '\n' then ['\\', 'n']
  else if c = '\r' then ['\\', 'r']
  else if c = '\t' then ['\\', 't']
  else if c = '\x00' then ['\\', '0']
  else if isHidden c then escapeCode c
  else [c]

/-- A text between quotes. -/
def quoted (text : String) : String :=
  String.ofList ('"' :: text.toList.flatMap escapeChar ++ ['"'])

/-- The quoted form of a list of texts, in brackets. -/
def quotedList (texts : List String) : String :=
  "[" ++ ", ".intercalate (texts.map quoted) ++ "]"

end QueryRewriting.Text
