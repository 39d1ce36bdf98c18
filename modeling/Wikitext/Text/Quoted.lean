import Wikitext.Text.Case
import Wikitext.Text.VisibleTable

/-!
Text for messages. In double quotes, what would end the quotes or could not be seen is written as an
escape, all else as it is; in braces stand the fields of a value.
-/
namespace Wikitext.Text

def isVisible (c : Char) : Bool :=
  !inRanges extenderRanges c && !inRanges invisibleRanges c

def codeEscape (c : Char) : List Char :=
  ['\\', 'u', '{'] ++ Nat.toDigits 16 c.toNat ++ ['}']

def escapeChar (c : Char) : List Char :=
  if c = '"' then ['\\', '"']
  else if c = '\\' then ['\\', '\\']
  else if c = '\n' then ['\\', 'n']
  else if c = '\r' then ['\\', 'r']
  else if c = '\t' then ['\\', 't']
  else if c = '\x00' then ['\\', '0']
  else if isVisible c then [c]
  else codeEscape c

def quoted (s : String) : String :=
  String.ofList ('"' :: s.toList.flatMap escapeChar ++ ['"'])

def braced (name fields : String) : String :=
  name ++ " ".push '{' ++ " " ++ fields ++ " ".push '}'

end Wikitext.Text
