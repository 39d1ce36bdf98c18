import Wikitext.Toml.Reader
import Wikitext.Toml.Value

/-!
The parts of a TOML document that contain no others: blanks, comments, strings, numbers, moments
and keys.
-/
namespace Wikitext.Toml
open Reader

def isSpace (c : Char) : Bool := c == ' ' || c == '\t'

def spaces : Reader Unit := discard (spanWhile isSpace)

def newline : Reader Unit := word "\n" <|> word "\r\n"

def isPrinted (c : Char) : Bool :=
  c == '\t' || (decide (0x20 ≤ c.toNat) && c.toNat != 0x7F)

def comment : Reader Unit := word "#" *> discard (spanWhile isPrinted)

def lineEnd : Reader Unit := do
  spaces
  discard (optional comment)
  newline <|> ended

def gap : Reader Unit := do
  discard (many (discard (one isSpace) <|> newline <|> comment))

def hexDigit (c : Char) : Option Nat :=
  if c.isDigit then some (c.toNat - '0'.toNat)
  else if 'a' ≤ c ∧ c ≤ 'f' then some (c.toNat - 'a'.toNat + 10)
  else if 'A' ≤ c ∧ c ≤ 'F' then some (c.toNat - 'A'.toNat + 10)
  else none

def numberOf (base : Nat) (digits : List Char) : Nat :=
  digits.foldl (fun value c => value * base + (hexDigit c).getD 0) 0

def isHexDigit (c : Char) : Bool := (hexDigit c).isSome

def exactlyHex (count : Nat) : Reader Nat := do
  let digits ← (List.replicate count ()).mapM fun _ => one isHexDigit
  return numberOf 16 digits

def codeChar (code : Nat) : Reader Char :=
  if code.isValidChar then pure (Char.ofNat code) else failure

def escape : Reader Char := do
  word "\\"
  match ← one fun _ => true with
  | 'b' => return '\x08'
  | 't' => return '\t'
  | 'n' => return '\n'
  | 'f' => return '\x0c'
  | 'r' => return '\r'
  | '"' => return '"'
  | '\\' => return '\\'
  | 'u' => codeChar (← exactlyHex 4)
  | 'U' => codeChar (← exactlyHex 8)
  | _ => failure

def basicPlain (c : Char) : Bool := isPrinted c && c != '"' && c != '\\'

def literalPlain (c : Char) : Bool := isPrinted c && c != '\''

def basicString : Reader String := do
  word "\""
  let content ← many (one basicPlain <|> escape)
  word "\""
  return String.ofList content

def literalString : Reader String := do
  word "'"
  let content ← spanWhile literalPlain
  word "'"
  return String.ofList content

/-- A backslash at the end of a line takes away everything up to the next visible character. -/
def continued : Reader (List Char) := do
  word "\\"
  spaces
  newline
  discard (many (discard (one isSpace) <|> newline))
  return []

/-- One or two quotes that do not end the string, because something other follows them. -/
def innerQuotes (quote : Char) : Reader (List Char) := do
  let quotes ← spanWhile1 (· == quote)
  if quotes.length < 3 then return quotes else failure

/-- The closing quotes; up to two more in front of them belong to the content. -/
def closingQuotes (quote : Char) : Reader (List Char) := do
  let quotes ← spanWhile1 (· == quote)
  if 3 ≤ quotes.length && quotes.length ≤ 5 then return quotes.drop 3 else failure

def lineBreak : Reader (List Char) := do
  newline
  return ['\n']

def blockString (quote : Char) (piece : Reader (List Char)) : Reader String := do
  exactly [quote, quote, quote]
  discard (optional newline)
  let content ← many (piece <|> lineBreak <|> innerQuotes quote)
  return String.ofList (content.flatten ++ (← closingQuotes quote))

def string : Reader String :=
  blockString '"' ((fun c => [c]) <$> one basicPlain <|> continued <|> (fun c => [c]) <$> escape) <|>
    blockString '\'' ((fun c => [c]) <$> one literalPlain) <|>
    basicString <|> literalString

def digits (test : Char → Bool) : Reader (List Char) := do
  let first ← one test
  let rest ← many ((word "_" *> one test) <|> one test)
  return first :: rest

def sign : Reader (Option Char) := optional (one fun c => c == '+' || c == '-')

def decimalDigits : Reader (List Char) := do
  if ← sees (· == '0') then return [← one (· == '0')] else digits Char.isDigit

def fitting (number : Int) : Reader Value :=
  if fits 64 number then pure (.integer number) else failure

def based (mark : String) (base : Nat) (test : Char → Bool) : Reader Value := do
  word mark
  fitting (numberOf base (← digits test))

def integer : Reader Value :=
  based "0x" 16 isHexDigit <|>
    based "0o" 8 (fun c => decide ('0' ≤ c) && decide (c ≤ '7')) <|>
    based "0b" 2 (fun c => c == '0' || c == '1') <|> do
  let negative := (← sign) == some '-'
  let magnitude : Int := numberOf 10 (← decimalDigits)
  fitting (if negative then -magnitude else magnitude)

/-- Numbers from here on round to infinity: half a step above the greatest double. -/
def infiniteFrom : Nat := Nat.pow 2 1024 - Nat.pow 2 970

/-- Whether `whole` times ten to the power `exponent` is below `infiniteFrom`. A number of 310
digits or more is not, and one of 308 or fewer is. -/
def isFinite (whole : Nat) (exponent : Int) : Bool :=
  let size : Int := (Nat.toDigits 10 whole).length + exponent
  if whole = 0 ∨ size < 309 then true
  else if 309 < size then false
  else if 0 ≤ exponent then decide (whole * Nat.pow 10 exponent.toNat < infiniteFrom)
  else decide (whole < infiniteFrom * Nat.pow 10 (-exponent).toNat)

def exponentPart : Reader Int := do
  discard (one fun c => c == 'e' || c == 'E')
  let negative := (← sign) == some '-'
  let magnitude : Int := numberOf 10 (← digits Char.isDigit)
  return if negative then -magnitude else magnitude

/-- A fraction, an exponent, or both, after a decimal integer. Beyond the greatest double only
negative numbers are allowed. -/
def plainFraction : Reader Value := do
  let start ← get
  let negative := (← sign) == some '-'
  let whole ← decimalDigits
  let decimals ← optional (word "." *> digits Char.isDigit)
  let exponent ← optional exponentPart
  if decimals.isNone && exponent.isNone then failure
  let places := decimals.getD []
  let finite := isFinite (numberOf 10 (whole ++ places)) (exponent.getD 0 - places.length)
  if !negative && !finite then failure
  return .fraction (String.ofList (start.take (start.length - (← get).length)))

def specialFraction : Reader Value := do
  let start ← get
  discard sign
  word "inf" <|> word "nan"
  return .fraction (String.ofList (start.take (start.length - (← get).length)))

def fixed (count low high : Nat) : Reader Nat := do
  let digits ← (List.replicate count ()).mapM fun _ => one Char.isDigit
  let number := numberOf 10 digits
  if low ≤ number && number ≤ high then return number else failure

def isLeapYear (year : Nat) : Bool :=
  year % 4 == 0 && (year % 100 != 0 || year % 400 == 0)

def daysIn (year month : Nat) : Nat :=
  if month = 2 then if isLeapYear year then 29 else 28
  else if month = 4 ∨ month = 6 ∨ month = 9 ∨ month = 11 then 30
  else 31

def date : Reader Unit := do
  let year ← fixed 4 0 9999
  word "-"
  let month ← fixed 2 1 12
  word "-"
  discard (fixed 2 1 (daysIn year month))

/-- A second may be the sixtieth, which is a leap second. -/
def time : Reader Unit := do
  discard (fixed 2 0 23)
  word ":"
  discard (fixed 2 0 59)
  word ":"
  discard (fixed 2 0 60)
  discard (optional (word "." *> spanWhile1 Char.isDigit))

def offset : Reader Unit :=
  discard (one fun c => c == 'Z' || c == 'z') <|> do
  discard (one fun c => c == '+' || c == '-')
  discard (fixed 2 0 23)
  word ":"
  discard (fixed 2 0 59)

def dateTime : Reader Unit := do
  date
  discard (optional (discard (one fun c => c == 'T' || c == 't' || c == ' ') *> time *>
    discard (optional offset)))

def moment : Reader Value := do
  let start ← get
  dateTime <|> time
  return .moment (String.ofList (start.take (start.length - (← get).length)))

def truth : Reader Value :=
  (word "true" *> pure (.boolean true)) <|> (word "false" *> pure (.boolean false))

def scalar : Reader Value :=
  (.string <$> string) <|> truth <|> moment <|> plainFraction <|> specialFraction <|> integer

def isBareKey (c : Char) : Bool := c.isAlphanum || c == '_' || c == '-'

def simpleKey : Reader String :=
  basicString <|> literalString <|> (String.ofList <$> spanWhile1 isBareKey)

/-- Keys may have this many parts, and values may nest this deep, less one. -/
def nestingLimit : Nat := 80

def key : Reader (List String × String) := do
  let parts ← separated (spaces *> word "." *> spaces) simpleKey
  match parts.reverse with
  | last :: path => if parts.length < nestingLimit then return (path.reverse, last) else failure
  | [] => failure

end Wikitext.Toml
