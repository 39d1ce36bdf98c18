import Mathlib
import Wikitext.Markup.Lexeme
import Wikitext.Proofs.Text.Cuts

/-!
Tags as they are written. A tag has a name, which is all the letters and digits behind its angle
bracket, and attributes on one line; an element has a tag of its set and ends at the first closing
tag of its name. What is read at an angle bracket is exactly what is written there.
-/
namespace Wikitext.Text

theorem eq_angle_of_toLower {c : Char} (same : c.toLower = '<') : c = '<' := by
  have plain : c.isAlpha = false := by
    rw [← Char.isLower_toLower_eq_isAlpha, same]
    rfl
  have small : ¬c.isUpper = true := by
    intro capital
    rw [Char.isAlpha, capital, Bool.true_or] at plain
    cases plain
  rw [← same, Char.toLower_eq_of_not_isUpper small]

theorem lowerAscii_lowerAscii (s : String) : lowerAscii (lowerAscii s) = lowerAscii s := by
  simp [lowerAscii, Function.comp_def, Char.toLower_toLower_eq_toLower]

end Wikitext.Text

namespace Wikitext.Markup
open Text

theorem TagSet.contains_lowerAscii (tags : TagSet) (name : String) :
    tags.contains (lowerAscii name) = tags.contains name := by
  rw [contains, contains, lowerAscii_lowerAscii]

structure TagHead.Named (head : TagHead) : Prop where
  starts : head.name.head?.any Char.isAlpha = true
  letters : ∀ c ∈ head.name, c.isAlphanum = true

theorem TagHead.Named.exists_cons {head : TagHead} (named : head.Named) :
    ∃ letter more, head.name = letter :: more ∧ letter.isAlpha = true := by
  have starts := named.starts
  cases name : head.name with
  | nil =>
    rw [name] at starts
    cases starts
  | cons letter more =>
    rw [name] at starts
    exact ⟨letter, more, rfl, by simpa using starts⟩

theorem isAlphanum_of_isAlpha {c : Char} (letter : c.isAlpha = true) : c.isAlphanum = true := by
  unfold Char.isAlphanum
  rw [letter, Bool.true_or]

theorem named_takeWhile {closing : Bool} {c : Char} {cs : List Char} (letter : c.isAlpha = true) :
    TagHead.Named ⟨closing, (c :: cs).takeWhile Char.isAlphanum⟩ ∧
      ∀ d ∈ ((c :: cs).dropWhile Char.isAlphanum).head?, d.isAlphanum = false := by
  refine ⟨⟨?_, fun d member => List.mem_takeWhile_imp member⟩, ?_⟩
  · rw [List.takeWhile_cons_of_pos (isAlphanum_of_isAlpha letter)]
    simpa using letter
  · intro d found
    have stop := List.head?_dropWhile_not Char.isAlphanum (c :: cs)
    rw [Option.mem_def.mp found] at stop
    simpa using stop

theorem cutHead_named {cs rest : List Char} {head : TagHead}
    (cut : cutHead cs = some (head, rest)) :
    head.Named ∧ ∀ c ∈ rest.head?, c.isAlphanum = false := by
  rw [cutHead.eq_def] at cut
  split at cut
  · cases cut
  · split at cut
    · split at cut
      · cases cut
      · split at cut
        · rename_i letter
          cases cut
          exact named_takeWhile letter
        · cases cut
    · split at cut
      · rename_i letter
        cases cut
        exact named_takeWhile letter
      · cases cut

theorem cutHead_of_named {head : TagHead} (named : head.Named) {cs rest : List Char}
    (apart : ∀ c ∈ rest.head?, c.isAlphanum = false) (written : '<' :: cs = head.chars ++ rest) :
    cutHead cs = some (head, rest) := by
  obtain ⟨letter, more, name, alpha⟩ := named.exists_cons
  have taken : (head.name ++ rest).takeWhile Char.isAlphanum = head.name :=
    takeWhile_apart named.letters apart
  have dropped : (head.name ++ rest).dropWhile Char.isAlphanum = rest :=
    dropWhile_apart named.letters apart
  have other : letter ≠ '/' := by
    rintro rfl
    cases alpha
  obtain ⟨closing, _⟩ := head
  simp only at name taken dropped
  subst name
  rw [List.cons_append] at taken dropped
  cases closing with
  | true =>
    have front : cs = '/' :: letter :: (more ++ rest) := by
      simpa [TagHead.chars] using written
    rw [front, cutHead]
    simp [alpha, taken, dropped]
  | false =>
    have front : cs = letter :: (more ++ rest) := by
      simpa [TagHead.chars] using written
    rw [front, cutHead.eq_def]
    simp [alpha, other, taken, dropped]

def OnOneLine (attributes : List Char) : Prop := ∀ c ∈ attributes, c ≠ '<' ∧ c ≠ '>' ∧ c ≠ '\n'

theorem cutAttributes_eq_some {cs attributes after : List Char} :
    cutAttributes cs = some (attributes, after) ↔
      cs = attributes ++ '>' :: after ∧ OnOneLine attributes := by
  unfold cutAttributes
  rw [Option.filter_eq_some_iff]
  constructor
  · rintro ⟨cut, line⟩
    refine ⟨cutFirst_eq cut, fun c member => ⟨?_, ?_, ?_⟩⟩
    · rintro rfl
      simp [member] at line
    · rintro rfl
      exact not_mem_of_cutFirst cut member
    · rintro rfl
      simp [member] at line
  · rintro ⟨rfl, line⟩
    refine ⟨cutFirst_append (fun member => (line '>' member).2.1 rfl) after, ?_⟩
    have noAngle : '<' ∉ attributes := fun member => (line '<' member).1 rfl
    have noNewline : '\n' ∉ attributes := fun member => (line '\n' member).2.2 rfl
    simp [noAngle, noNewline]

/-- A closing tag: a name in any case, given in lower case, and blanks behind it. -/
def Closes (name markup : List Char) : Prop :=
  ∃ written blanks : List Char, markup = '<' :: '/' :: (written ++ blanks ++ ['>']) ∧
    written.map Char.toLower = name ∧ ∀ c ∈ blanks, isBlank c = true

section
variable {name : List Char}

theorem closingAt_eq_some {cs markup after : List Char} :
    closingAt name cs = some (markup, after) ↔ cs = markup ++ after ∧ Closes name markup := by
  constructor
  · intro found
    refine ⟨closingAt_eq found, ?_⟩
    rw [closingAt.eq_def] at found
    split at found
    · simp only at found
      split at found
      · rename_i same
        split at found
        · cases found
          exact ⟨_, _, rfl, same, fun c member => List.mem_takeWhile_imp member⟩
        · cases found
      · cases found
    · cases found
  · rintro ⟨rfl, written, blanks, rfl, rfl, blank⟩
    have whole : '<' :: '/' :: (written ++ blanks ++ ['>']) ++ after =
        '<' :: '/' :: (written ++ (blanks ++ '>' :: after)) := by simp
    have stop : ∀ c ∈ ('>' :: after).head?, isBlank c = false := by
      rintro c ⟨⟩
      rfl
    rw [whole, closingAt]
    simp [takeWhile_apart blank stop, dropWhile_apart blank stop]

theorem closingAt_eq_none {cs : List Char} :
    closingAt name cs = none ↔ ∀ markup, Closes name markup → ¬markup <+: cs := by
  constructor
  · rintro none markup closes ⟨after, rfl⟩
    rw [closingAt_eq_some.mpr ⟨rfl, closes⟩] at none
    cases none
  · intro absent
    cases found : closingAt name cs with
    | none => rfl
    | some cut =>
      obtain ⟨whole, closes⟩ := closingAt_eq_some.mp found
      exact absurd ⟨cut.2, whole.symm⟩ (absent cut.1 closes)

theorem cutClosing_eq_none {cs : List Char} :
    cutClosing name cs = none ↔ ∀ markup, Closes name markup → ¬markup <:+: cs := by
  induction cs with
  | nil =>
    refine ⟨?_, fun _ => rfl⟩
    rintro - markup ⟨written, blanks, rfl, -⟩ within
    cases List.infix_nil.mp within
  | cons c cs ih =>
    have step : cutClosing name (c :: cs) = none ↔
        closingAt name (c :: cs) = none ∧ cutClosing name cs = none := by
      rw [cutClosing]
      cases closingAt name (c :: cs) with
      | none => simp
      | some cut => simp
    rw [step, closingAt_eq_none, ih, ← forall_and]
    refine forall_congr' fun markup => ?_
    rw [List.infix_cons_iff, not_or, imp_and]

theorem cutClosing_first {cs inner ending after : List Char}
    (cut : cutClosing name cs = some (inner, ending, after)) :
    Closes name ending ∧ ∀ markup, Closes name markup → ¬markup <:+: inner := by
  induction cs generalizing inner with
  | nil => cases cut
  | cons c cs ih =>
    have whole := cutClosing_eq cut
    rw [cutClosing] at cut
    split at cut
    · rename_i found
      cases cut
      refine ⟨(closingAt_eq_some.mp found).2, ?_⟩
      rintro markup ⟨written, blanks, rfl, -⟩ within
      cases List.infix_nil.mp within
    · rename_i none
      obtain ⟨⟨rest, tail⟩, found, same⟩ := Option.map_eq_some_iff.mp cut
      cases same
      obtain ⟨closes, absent⟩ := ih found
      refine ⟨closes, fun markup other within => ?_⟩
      rcases List.infix_cons_iff.mp within with here | later
      · refine closingAt_eq_none.mp none markup other (here.trans ?_)
        rw [whole, List.append_assoc]
        exact List.prefix_append _ _
      · exact absent markup other later

theorem Closes.angle_not_mem {markup : List Char} (closes : Closes name markup)
    (noAngle : '<' ∉ name) : ∃ rest, markup = '<' :: rest ∧ '<' ∉ rest := by
  obtain ⟨written, blanks, rfl, rfl, blank⟩ := closes
  refine ⟨_, rfl, ?_⟩
  have noWritten : '<' ∉ written := fun member => noAngle (List.mem_map_of_mem member)
  have noBlank : '<' ∉ blanks := fun member => absurd (blank '<' member) (by decide)
  simp [noWritten, noBlank]

/-- A closing tag that starts in a text ends in front of the next bracket, which it cannot hold. -/
theorem Closes.prefix_of_append {markup first rest : List Char} (closes : Closes name markup)
    (noAngle : '<' ∉ name) (some : first ≠ []) (start : markup <+: first ++ '<' :: rest) :
    markup <+: first := by
  obtain ⟨body, rfl, none⟩ := closes.angle_not_mem noAngle
  obtain ⟨tail, whole⟩ := start
  rcases List.append_eq_append_iff.mp whole with ⟨more, split, _⟩ | ⟨more, split, behind⟩
  · exact ⟨more, split.symm⟩
  · obtain ⟨c, first, rfl⟩ := List.exists_cons_of_ne_nil some
    cases more with
    | nil =>
      rw [split, List.append_nil]
    | cons d more =>
      rw [List.cons_append] at behind split
      have inside : d ∈ body := by
        rw [(List.cons.inj split).2]
        simp
      rw [← (List.cons.inj behind).1] at inside
      exact absurd inside none

theorem cutClosing_append (noAngle : '<' ∉ name) {inner ending : List Char}
    (closes : Closes name ending) (absent : ∀ markup, Closes name markup → ¬markup <:+: inner)
    (after : List Char) :
    cutClosing name (inner ++ (ending ++ after)) = some (inner, ending, after) := by
  obtain ⟨body, start, -⟩ := closes.angle_not_mem noAngle
  induction inner with
  | nil =>
    have found : closingAt name (ending ++ after) = some (ending, after) :=
      closingAt_eq_some.mpr ⟨rfl, closes⟩
    rw [start, List.cons_append] at found ⊢
    rw [List.nil_append, cutClosing, found]
  | cons c inner ih =>
    have later : ∀ markup, Closes name markup → ¬markup <:+: inner := fun markup other within =>
      absent markup other (List.infix_cons_iff.mpr (.inr within))
    have here : closingAt name (c :: inner ++ (ending ++ after)) = none := by
      rw [closingAt_eq_none]
      intro markup other front
      rw [start, List.cons_append] at front
      exact absent markup other (other.prefix_of_append noAngle (by simp) front).isInfix
    rw [List.cons_append, cutClosing, ← List.cons_append, here, ih later]
    rfl

end

/-- A tag: its name is all the letters and digits behind its front, and its attributes, up to its
end, stay on one line. -/
structure WrittenTag extends TagHead where
  attributes : List Char
  named : toTagHead.Named
  apart : ∀ c ∈ attributes.head?, c.isAlphanum = false
  line : OnOneLine attributes

namespace WrittenTag

def source (tag : WrittenTag) : String := String.ofList (tag.chars ++ tag.attributes ++ ['>'])

def Slashed (tag : WrittenTag) : Prop :=
  (dropEndWhile isBlank tag.attributes).getLast? = some '/'

structure Starts (tag : WrittenTag) (tags : TagSet) : Prop where
  opens : tag.closing = false
  known : tags.contains (String.ofList tag.name) = true
  ordinary : tag.lowerName ∉ transclusionMarkers

theorem angle_not_mem_lowerName (tag : WrittenTag) : '<' ∉ tag.lowerName.toList := by
  intro member
  simp only [TagHead.lowerName, lowerAscii, String.toList_ofList, List.mem_map] at member
  obtain ⟨c, inside, lower⟩ := member
  have letter := tag.named.letters c inside
  rw [eq_angle_of_toLower lower] at letter
  cases letter

end WrittenTag

/-- An element of a set as it is written. Its tag does not end in a slash, and no closing tag of its
name stands in what it encloses. -/
structure Element (tags : TagSet) where
  start : WrittenTag
  inner : List Char
  ending : List Char
  starts : start.Starts tags
  encloses : ¬start.Slashed
  ends : Closes start.lowerName.toList ending
  first : ∀ markup, Closes start.lowerName.toList markup → ¬markup <:+: inner

namespace Element
variable {tags : TagSet}

def source (element : Element tags) : String :=
  element.start.source ++ String.ofList element.inner ++ String.ofList element.ending

def tag (element : Element tags) : Tag where
  name := element.start.lowerName
  opening := element.start.source
  inner := some (String.ofList element.inner)
  closing := String.ofList element.ending

end Element

/-- What a tag among the leaves stands for: a tag that ends in a slash and has no inner text, or an
element. -/
inductive Tag.Delimited (tags : TagSet) : Tag → Prop where
  | slashed (tag : WrittenTag) (starts : tag.Starts tags) (slashed : tag.Slashed) :
      Delimited tags ⟨tag.lowerName, tag.source, none, ""⟩
  | element (element : Element tags) : Delimited tags element.tag

def IsMarker (written : String) : Prop :=
  ∃ tag : WrittenTag, tag.lowerName ∈ transclusionMarkers ∧ written = tag.source

def commentEnd : List Char := ['-', '-', '>']

/-- Where a leaf between angle brackets ends: a comment has no mark in it that ends it, and tags and
markers are whole. -/
def Leaf.Delimited (tags : TagSet) : Leaf → Prop
  | .comment body => ¬commentEnd <:+: body.content.toList
  | .tag element => element.Delimited tags
  | .marker written => IsMarker written
  | _ => True

section
variable {tags : TagSet} {head : TagHead} {rest : List Char}

theorem readTag_delimited (named : head.Named) (apart : ∀ c ∈ rest.head?, c.isAlphanum = false) :
    (readTag tags head rest).1.Delimited tags := by
  unfold readTag
  simp only
  split
  · trivial
  · rename_i attributes after cut
    obtain ⟨rfl, line⟩ := cutAttributes_eq_some.mp cut
    have front : ∀ c ∈ attributes.head?, c.isAlphanum = false := by
      intro c found
      refine apart c ?_
      rw [List.head?_append_of_ne_nil attributes (by rintro rfl; cases found)]
      exact found
    let tag : WrittenTag := ⟨head, attributes, named, front, line⟩
    split
    · rename_i marks
      exact ⟨tag, by simpa using marks, rfl⟩
    rename_i ordinary
    split
    · trivial
    rename_i known
    simp only [Bool.or_eq_true, Bool.not_eq_true', not_or, Bool.not_eq_true,
      Bool.not_eq_false] at known
    have starts : tag.Starts tags :=
      ⟨known.1, tags.contains_lowerAscii _ ▸ known.2, by simpa using ordinary⟩
    split
    · rename_i slashed
      exact .slashed tag starts slashed
    rename_i unslashed
    split
    · trivial
    · rename_i inner ending behind found
      obtain ⟨ends, first⟩ := cutClosing_first found
      exact .element ⟨tag, inner, ending, starts, unslashed, ends, first⟩

theorem readTag_element (element : Element tags) (after : List Char) :
    readTag tags element.start.toTagHead
        (element.start.attributes ++ '>' :: (element.inner ++ (element.ending ++ after))) =
      (.tag element.tag, after) := by
  have lower : tags.contains element.start.lowerName = true :=
    (tags.contains_lowerAscii _).trans element.starts.known
  have unslashed : (dropEndWhile isBlank element.start.attributes).getLast? ≠ some '/' :=
    element.encloses
  unfold readTag
  rw [cutAttributes_eq_some.mpr ⟨rfl, element.start.line⟩]
  simp [cutClosing_append element.start.angle_not_mem_lowerName element.ends element.first,
    element.starts.opens, lower, element.starts.ordinary, unslashed, Element.tag, WrittenTag.source]

end

end Wikitext.Markup
