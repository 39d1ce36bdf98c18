import Wikitext.Markup.Node
import Wikitext.Text.Blank

/-!
Headings. A line of the page is a heading when, leaving out comments and blanks at its end, it
starts and ends with equals signs; the shorter of the two runs gives the level.
-/
namespace Wikitext.Markup
open Wikitext.Text

/-- Lines cut out of one text: each but the last is complete, and the last goes on with the first
of `lines`. -/
def spread : List (List Char) → List (List Node) → List (List Node)
  | [], lines => lines
  | [piece], [] => [[.text (String.ofList piece)]]
  | [piece], line :: lines => (.text (String.ofList piece) :: line) :: lines
  | piece :: rest, lines => [.text (String.ofList piece)] :: spread rest lines

/-- The lines of a page; only a newline directly in one of its texts ends a line. -/
def linesOf : List Node → List (List Node)
  | [] => [[]]
  | .text written :: rest => spread (pieces (· == '\n') written.toList) (linesOf rest)
  | node :: rest =>
    match linesOf rest with
    | [] => [[node]]
    | line :: lines => (node :: line) :: lines

structure Heading where
  level : Nat
  title : List Node
  trailing : List Node

def Heading.node (heading : Heading) : Node :=
  .header heading.level heading.title heading.trailing

def isFiller (c : Char) : Bool := c == ' ' || c == '\t'

/-- Moves comments, spaces and tabs from the end of a line, which is given last node first, to the
front of `trailing`. -/
def peel : List Node → List Node → List Node × List Node
  | .comment body :: rest, trailing => peel rest (.comment body :: trailing)
  | .text written :: rest, trailing =>
    let kept := dropEndWhile isFiller written.toList
    let filler := takeEndWhile isFiller written.toList
    if kept = [] then peel rest (.text written :: trailing)
    else if filler = [] then (.text written :: rest, trailing)
    else (.text (String.ofList kept) :: rest, .text (String.ofList filler) :: trailing)
  | line, trailing => (line, trailing)

def isMark (c : Char) : Bool := c == '='

def marksBefore (written : String) : Nat := (written.toList.takeWhile isMark).length

def marksAfter (written : String) : Nat := (takeEndWhile isMark written.toList).length

/-- The level of a line between its first and last text. A line of nothing but marks keeps one of
them as its title. -/
def headingLevel (first last : String) (alone : Bool) : Nat :=
  let level := min (marksBefore first) (marksAfter last)
  let size := first.toList.length
  min 6 (if alone && marksBefore first == size then min level ((size - 1) / 2) else level)

def dropFront (count : Nat) : List Node → List Node
  | .text written :: rest => .text (String.ofList (written.toList.drop count)) :: rest
  | nodes => nodes

def dropBack (count : Nat) (nodes : List Node) : List Node :=
  match nodes.reverse with
  | .text written :: rest =>
    (.text (String.ofList (written.toList.take (written.toList.length - count))) :: rest).reverse
  | _ => nodes

def headingOf (line : List Node) : Option Heading :=
  match line.head? with
  | some (.text opening) =>
    if marksBefore opening = 0 then none
    else
      let peeled := peel line.reverse []
      let body := peeled.1.reverse
      match body.head?, body.getLast? with
      | some (.text first), some (.text last) =>
        let level := headingLevel first last (body.length == 1)
        if level = 0 then none
        else some ⟨level, mergeText (dropFront level (dropBack level body)), peeled.2⟩
      | _, _ => none
  | _ => none

def lineNodes (line : List Node) : List Node :=
  match headingOf line with
  | some heading => [heading.node]
  | none => line

def withHeadings (nodes : List Node) : List Node :=
  mergeText ([Node.text "\n"].intercalate
    ((linesOf nodes).map fun line => lineNodes (mergeText line)))

end Wikitext.Markup
