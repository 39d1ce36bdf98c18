/-!
Blank characters and the ways text is cut: trimming, words, lines, and the first place where a
mark stands. Each cut keeps every character it does not name, so the pieces can be joined again.
-/
namespace Wikitext.Text

/-- The characters with the property White_Space. -/
def isBlank (c : Char) : Bool :=
  let code := c.toNat
  (decide (9 ≤ code) && decide (code ≤ 13)) || code == 0x20 || code == 0x85 || code == 0xA0 ||
    code == 0x1680 || (decide (0x2000 ≤ code) && decide (code ≤ 0x200A)) || code == 0x2028 ||
    code == 0x2029 || code == 0x202F || code == 0x205F || code == 0x3000

def dropEndWhile (test : Char → Bool) (cs : List Char) : List Char :=
  (cs.reverse.dropWhile test).reverse

def takeEndWhile (test : Char → Bool) (cs : List Char) : List Char :=
  (cs.reverse.takeWhile test).reverse

def trimChars (cs : List Char) : List Char :=
  dropEndWhile isBlank (cs.dropWhile isBlank)

def trim (s : String) : String := String.ofList (trimChars s.toList)

/-- The pieces between the separators, empty ones included: one more than there are separators. -/
def pieces (separator : Char → Bool) : List Char → List (List Char)
  | [] => [[]]
  | c :: cs =>
    match separator c, pieces separator cs with
    | true, rest => [] :: rest
    | false, [] => [[c]]
    | false, piece :: rest => (c :: piece) :: rest

def wordsOf (cs : List Char) : List (List Char) :=
  (pieces isBlank cs).filter fun word => !word.isEmpty

def collapse (s : String) : String :=
  String.ofList ([' '].intercalate (wordsOf s.toList))

def cutFirst (mark : Char) (cs : List Char) : Option (List Char × List Char) :=
  match cs.dropWhile (· != mark) with
  | [] => none
  | _ :: after => some (cs.takeWhile (· != mark), after)

def cutLast (mark : Char) (cs : List Char) : Option (List Char × List Char) :=
  (cutFirst mark cs.reverse).map fun cut => (cut.2.reverse, cut.1.reverse)

theorem dropEndWhile_append_takeEndWhile (test : Char → Bool) (cs : List Char) :
    dropEndWhile test cs ++ takeEndWhile test cs = cs := by
  rw [dropEndWhile, takeEndWhile, ← List.reverse_append, List.takeWhile_append_dropWhile,
    List.reverse_reverse]

theorem pieces_ne_nil (separator : Char → Bool) (cs : List Char) : pieces separator cs ≠ [] := by
  cases cs with
  | nil => simp [pieces]
  | cons c cs => rw [pieces]; split <;> simp

theorem cutFirst_eq {mark : Char} {cs before after : List Char}
    (cut : cutFirst mark cs = some (before, after)) : cs = before ++ mark :: after := by
  rw [cutFirst] at cut
  split at cut
  · simp at cut
  · rename_i c rest found
    have stop : c = mark := by
      have := List.head?_dropWhile_not (· != mark) cs
      simp [found] at this
      exact this
    simp only [Option.some.injEq, Prod.mk.injEq] at cut
    rw [← cut.1, ← cut.2]
    subst stop
    rw [← found, List.takeWhile_append_dropWhile]

end Wikitext.Text
