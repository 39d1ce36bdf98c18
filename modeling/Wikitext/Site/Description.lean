import Wikitext.Site.Basic
import Wikitext.Toml.Document

/-!
Site descriptions in TOML. Keys that a description does not know are passed over; a record may
also be written as an array of its fields in their order.
-/
namespace Wikitext
open Toml

namespace Record

def string : Value → Option String
  | .string content => some content
  | _ => none

def boolean : Value → Option Bool
  | .boolean truth => some truth
  | _ => none

def id : Value → Option Int
  | .integer number => if fits 32 number then some number else none
  | _ => none

def array {α : Type} (element : Value → Option α) : Value → Option (List α)
  | .array elements => elements.mapM element
  | _ => none

/-- How a record gives the field at a place in the order of its fields, if it gives it. -/
def fields : Value → Option (Nat → String → Option Value)
  | .table entries => some fun _ key => entries.lookup key
  | .array elements => some fun place _ => elements[place]?
  | .moment _ => some fun _ _ => none
  | _ => none

def field {α : Type} (read : Value → Option α) (absent : α) (value : Option Value) : Option α :=
  match value with
  | none => some absent
  | some value => read value

end Record

def readNamespace (value : Value) : Option Namespace := do
  let at? ← Record.fields value
  return {
    id := ← Record.id (← at? 0 "id")
    name := ← Record.string (← at? 1 "name")
    canonical := ← Record.field (fun v => some <$> Record.string v) none (at? 2 "canonical")
    aliases := ← Record.field (Record.array Record.string) [] (at? 3 "aliases")
    caseSensitive := ← Record.field Record.boolean false (at? 4 "case_sensitive")
    subpages := ← Record.field Record.boolean false (at? 5 "subpages") }

def readMagicWord (value : Value) : Option MagicWord := do
  let at? ← Record.fields value
  return {
    caseSensitive := ← Record.field Record.boolean false (at? 0 "case_sensitive")
    aliases := ← Record.array Record.string (← at? 1 "aliases") }

def readWords : Value → Option (List (String × MagicWord))
  | .table entries => entries.mapM fun entry => do return (entry.1, ← readMagicWord entry.2)
  | _ => none

/-- The name of the site. In an array it has to be there. -/
def readMetadata (value : Value) : Option (Option String) := do
  let at? ← Record.fields value
  match value, at? 0 "name" with
  | .array _, none => none
  | _, found => Record.field (fun v => some <$> Record.string v) none found

def readDescription (text : String) : Option SiteDescription := do
  let entries ← Toml.read text
  return {
    name := ← Record.field readMetadata none (entries.lookup "metadata")
    tags := ← Record.field (fun v => some <$> Record.array Record.string v) none
      (entries.lookup "extension_tags")
    namespaces := ← Record.field (Record.array readNamespace) [] (entries.lookup "namespaces")
    words := ← Record.field readWords [] (entries.lookup "magic_words") }

def Site.read (text : String) : Except SiteError Site :=
  match readDescription text with
  | some description => description.site
  | none => .error .malformed

end Wikitext
