import Wikitext.Text.CaseTable

/-!
Upper and lower case of text. A character may become several, and a capital sigma becomes the
final letter at the end of a word; every other character is mapped on its own.
-/
namespace Wikitext.Text

def inRanges (ranges : List (Nat × Nat)) (c : Char) : Bool :=
  ranges.any fun range => decide (range.1 ≤ c.toNat) && decide (c.toNat ≤ range.2)

def rangeOf (code : Nat) : List CaseRange → Option CaseRange
  | [] => none
  | range :: rest =>
    if code < range.first then none
    else if range.covers code then some range
    else rangeOf code rest

def expansionOf (code : Nat) : List (Nat × List Nat) → Option (List Nat)
  | [] => none
  | (other, codes) :: rest =>
    if code < other then none else if code = other then some codes else expansionOf code rest

/-- The other case of one character: its expansion if it has one, else its own shift. -/
def mapCase (expansions : List (Nat × List Nat)) (ranges : List CaseRange) (c : Char) :
    List Char :=
  match expansionOf c.toNat expansions, rangeOf c.toNat ranges with
  | some codes, _ => codes.map Char.ofNat
  | none, some range => [Char.ofNat (c.toNat + range.shift).toNat]
  | none, none => [c]

def lowerChar (c : Char) : List Char := mapCase lowerExpansions lowerRanges c

def upperChar (c : Char) : List Char := mapCase upperExpansions upperRanges c

/-- The nearest character that does not leave case alone is a letter with case. -/
def reachesCased (cs : List Char) : Bool :=
  match cs.dropWhile (inRanges caseIgnorableRanges) with
  | [] => false
  | c :: _ => inRanges casedRanges c

/-- Lower case of `cs`, where `before` is the text in front of it, nearest character first. -/
def lowerAfter (before : List Char) : List Char → List Char
  | [] => []
  | c :: cs =>
    (if c = 'Σ' then
      if reachesCased before && !reachesCased cs then ['ς'] else ['σ']
    else lowerChar c) ++ lowerAfter (c :: before) cs

def lower (s : String) : String := String.ofList (lowerAfter [] s.toList)

def upper (s : String) : String := String.ofList (s.toList.flatMap upperChar)

def lowerFirst (s : String) : String :=
  match s.toList with
  | [] => s
  | c :: cs => String.ofList (lowerChar c ++ cs)

def upperFirst (s : String) : String :=
  match s.toList with
  | [] => s
  | c :: cs => String.ofList (upperChar c ++ cs)

def lowerAscii (s : String) : String := String.ofList (s.toList.map Char.toLower)

end Wikitext.Text
