import Wikitext.Flatten

/-!
The command line: what the arguments ask for, and the run of the program as a computation over a
way to read files and the standard input.
-/
namespace Wikitext.CommandLine
open Text

structure Options where
  input : Option String
  site : Option String
  title : Option String
  listUnhandled : Bool

inductive Key where
  | site
  | title
deriving DecidableEq

def Key.display : Key → String
  | .site => "--site <SITE>"
  | .title => "--title <TITLE>"

inductive UsageError where
  | unexpected (argument : String)
  | missingValue (key : Key)
  | emptyPath (place : String)
  | repeated (option : String)
  | flagWithValue (flag value : String)

def UsageError.message : UsageError → String
  | .unexpected argument => "unexpected argument '" ++ argument ++ "' found"
  | .missingValue key => "a value is required for '" ++ key.display ++ "' but none was supplied"
  | .emptyPath place => "a value is required for '" ++ place ++ "' but none was supplied"
  | .repeated option => "the argument '" ++ option ++ "' cannot be used multiple times"
  | .flagWithValue flag value =>
    "unexpected value '" ++ value ++ "' for '" ++ flag ++ "' found; no more were expected"

def usage : String := "Usage: wikiflat [OPTIONS] [INPUT]\n"

def help : String :=
  "Flatten wiki markup by evaluating magic words and templates\n\n" ++ usage ++
  "\nArguments:\n" ++
  "  [INPUT]  Input file (reads from stdin if not provided)\n" ++
  "\nOptions:\n" ++
  "  -s, --site <SITE>    Site description with namespaces and magic words (TOML format)\n" ++
  "  -t, --title <TITLE>  Title of the page being flattened\n" ++
  "  -u, --unhandled      List unresolved magic words and templates on stderr\n" ++
  "  -h, --help           Print help\n"

inductive Request where
  | help
  | run (options : Options)

/-- The arguments read so far: the options, one that still waits for its value, and whether only
an input can follow. -/
structure Progress where
  options : Options
  pending : Option Key
  inputOnly : Bool

def Progress.start : Progress := ⟨⟨none, none, none, false⟩, none, false⟩

inductive Step where
  | next (progress : Progress)
  | help

def Progress.setValue (progress : Progress) (key : Key) (value : String) :
    Except UsageError Step :=
  let options := progress.options
  match key with
  | .site =>
    if options.site.isSome then .error (.repeated key.display)
    else if value = "" then .error (.emptyPath key.display)
    else .ok (.next { progress with options := { options with site := value }, pending := none })
  | .title =>
    if options.title.isSome then .error (.repeated key.display)
    else .ok (.next { progress with options := { options with title := value }, pending := none })

def Progress.setUnhandled (progress : Progress) : Except UsageError Progress :=
  if progress.options.listUnhandled then .error (.repeated "--unhandled")
  else .ok { progress with options := { progress.options with listUnhandled := true } }

def Progress.setInput (progress : Progress) (path : String) : Except UsageError Step :=
  if progress.options.input.isSome then .error (.unexpected path)
  else if path = "" then .error (.emptyPath "[INPUT]")
  else .ok (.next { progress with options := { progress.options with input := path } })

def Progress.readLong (progress : Progress) (name : List Char) (value : Option (List Char)) :
    Except UsageError Step :=
  let valued (key : Key) : Except UsageError Step :=
    match value with
    | none => .ok (.next { progress with pending := key })
    | some cs => progress.setValue key (String.ofList cs)
  let flag (display : String) (step : Except UsageError Step) : Except UsageError Step :=
    match value with
    | none => step
    | some cs => .error (.flagWithValue display (String.ofList cs))
  match String.ofList name with
  | "site" => valued .site
  | "title" => valued .title
  | "unhandled" => flag "--unhandled" (progress.setUnhandled.map .next)
  | "help" => flag "--help" (.ok .help)
  | _ => .error (.unexpected ("--" ++ String.ofList name))

def attached : List Char → String
  | '=' :: value => String.ofList value
  | value => String.ofList value

/-- Short options after one dash; the first that takes a value ends the row. -/
def Progress.readShort (progress : Progress) : List Char → Except UsageError Step
  | [] => .ok (.next progress)
  | 'h' :: _ => .ok .help
  | 'u' :: rest => do (← progress.setUnhandled).readShort rest
  | ['s'] => .ok (.next { progress with pending := some .site })
  | ['t'] => .ok (.next { progress with pending := some .title })
  | 's' :: value => progress.setValue .site (attached value)
  | 't' :: value => progress.setValue .title (attached value)
  | c :: _ => .error (.unexpected (String.ofList ['-', c]))

def isOption : List Char → Bool
  | '-' :: _ :: _ => true
  | _ => false

def Progress.read (progress : Progress) (argument : String) : Except UsageError Step :=
  let cs := argument.toList
  match progress.pending with
  | some key => if isOption cs then .error (.missingValue key) else progress.setValue key argument
  | none =>
    if progress.inputOnly || !isOption cs then progress.setInput argument
    else
      match cs with
      | ['-', '-'] => .ok (.next { progress with inputOnly := true })
      | '-' :: '-' :: long =>
        match cutFirst '=' long with
        | some (name, value) => progress.readLong name (some value)
        | none => progress.readLong long none
      | _ => progress.readShort (cs.drop 1)

def Progress.finish (progress : Progress) : List String → Except UsageError Request
  | [] =>
    match progress.pending with
    | some key => .error (.missingValue key)
    | none => .ok (.run progress.options)
  | argument :: rest => do
    match ← progress.read argument with
    | .next progress => progress.finish rest
    | .help => return .help

def readArguments (arguments : List String) : Except UsageError Request :=
  Progress.start.finish arguments

inductive ReadFault where
  | missing
  | denied
  | notDirectory
  | isDirectory
  | notText
  | other (message : String)

def ReadFault.message : ReadFault → String
  | .missing => "No such file or directory (os error 2)"
  | .denied => "Permission denied (os error 13)"
  | .notDirectory => "Not a directory (os error 20)"
  | .isDirectory => "Is a directory (os error 21)"
  | .notText => "stream did not contain valid UTF-8"
  | .other message => message

structure Sources (m : Type → Type) where
  file : String → m (Except ReadFault ByteArray)
  input : m (Except ReadFault ByteArray)

structure Report where
  code : UInt32
  output : String
  diagnostics : String

def decode (bytes : Except ReadFault ByteArray) : Except ReadFault String :=
  match bytes with
  | .error fault => .error fault
  | .ok bytes =>
    match String.fromUTF8? bytes with
    | some text => .ok text
    | none => .error .notText

def failed (message : String) : Report := ⟨1, "", message ++ "\n"⟩

def reportOn (options : Options) (site : Site) (source : String) : Report :=
  match flatten site options.title source with
  | .error error => failed ("Error: " ++ error.message)
  | .ok evaluation =>
    let lines := evaluation.unhandled.toList.map fun word => "unhandled: " ++ word ++ "\n"
    ⟨0, evaluation.text, if options.listUnhandled then String.join lines else ""⟩

def loadSite {m : Type → Type} [Monad m] (sources : Sources m) (path : Option String) :
    m (Except String Site) := do
  match path with
  | none => return .ok .standard
  | some path =>
    let loaded : Except SiteError Site := match decode (← sources.file path) with
      | .error fault => .error (SiteError.unreadable fault.message)
      | .ok text => Site.read text
    return loaded.mapError fun error => "Error loading site '" ++ path ++ "': " ++ error.message

def loadPage {m : Type → Type} [Monad m] (sources : Sources m) (path : Option String) :
    m (Except String String) := do
  match path with
  | none =>
    return (decode (← sources.input)).mapError fun fault =>
      "Error reading from stdin: " ++ fault.message
  | some path =>
    return (decode (← sources.file path)).mapError fun fault =>
      "Error reading file '" ++ path ++ "': " ++ fault.message

/-- A run of the program. The site is read before the page. -/
def run {m : Type → Type} [Monad m] (sources : Sources m) (arguments : List String) :
    m Report := do
  match readArguments arguments with
  | .error error =>
    return ⟨2, "", "error: " ++ error.message ++ "\n\n" ++ usage ++
      "\nFor more information, try '--help'.\n"⟩
  | .ok .help => return ⟨0, help, ""⟩
  | .ok (.run options) =>
    match ← loadSite sources options.site with
    | .error message => return failed message
    | .ok site =>
      match ← loadPage sources options.input with
      | .error message => return failed message
      | .ok source => return reportOn options site source

end Wikitext.CommandLine
