import ControlPlane.Text.Quoted

/-!
# Usage

What a command line accepts, as data: commands and their options.  The help text follows from it,
and so does what is said about a command line that does not fit.
-/

namespace ControlPlane.Command

/-! ## commands and options -/

/-- What the value of an option is. -/
inductive ValueKind where
  | path
  | text
  | integer
  deriving DecidableEq, Repr

/-- A value in a help text. -/
def ValueKind.placeholder : ValueKind → String
  | .path => "PATH"
  | .text => "TEXT"
  | .integer => "INTEGER"

/-- An option of a command. -/
structure OptionInfo where
  /-- The name, without the two hyphens in front of it. -/
  name : String
  /-- The short form, without the hyphen in front of it. -/
  letter : Option Char := none
  /-- What the value is; without one the option is a switch. -/
  value : Option ValueKind := none
  help : String

/-- The option as it is written. -/
def OptionInfo.long (o : OptionInfo) : String := "--" ++ o.name

/-- The option that every command has. -/
def OptionInfo.helpOption : OptionInfo := { name := "help", help := "Show this message and exit." }

/-- A command. -/
structure CommandInfo where
  /-- The words that call the command. -/
  path : String
  /-- What follows them. -/
  arguments : String
  /-- The paragraphs of the description. -/
  description : List String
  options : List OptionInfo
  /-- The commands below this one, and what each is for. -/
  commands : List (String × String) := []

/-- All options of a command. -/
def CommandInfo.allOptions (c : CommandInfo) : List OptionInfo := c.options ++ [.helpOption]

/-! ## help -/

/-- The first line of a help text. -/
def CommandInfo.usage (c : CommandInfo) : String := "Usage: " ++ c.path ++ " " ++ c.arguments

/-- The forms of an option, in a help text. -/
def OptionInfo.forms (o : OptionInfo) : String :=
  (match o.letter with
    | some c => "-" ++ String.singleton c ++ ", "
    | none => "") ++ o.long ++
    (match o.value with
      | some kind => " " ++ kind.placeholder
      | none => "")

/-- A text filled up with spaces. -/
def padded (width : Nat) (s : String) : String :=
  s ++ String.ofList (List.replicate (width - s.length) ' ')

/-- Two columns with a title; none if they are empty. -/
def columns (title : String) (rows : List (String × String)) : List String :=
  if rows.isEmpty then []
  else
    let width := rows.foldl (fun n r => max n r.1.length) 0
    "" :: (title ++ ":") :: rows.map fun r => "  " ++ padded width r.1 ++ "  " ++ r.2

/-- The help text of a command. -/
def CommandInfo.help (c : CommandInfo) : String :=
  let lines :=
    c.usage :: c.description.flatMap (fun p => ["", "  " ++ p]) ++
      columns "Options" (c.allOptions.map fun o => (o.forms, o.help)) ++
      columns "Commands" c.commands
  "\n".intercalate lines ++ "\n"

/-! ## what does not fit -/

/-- Why a command line does not fit. -/
inductive UsageError where
  | noSuchOption (name : String) (similar : List String)
  | noValue (option : String)
  | unwantedValue (option : String)
  | noInteger (option value : String)
  | extraArguments (arguments : List String)
  | noSuchCommand (name : String) (similar : List String)
  | missingCommand
  deriving DecidableEq, Repr

/-- The proposals for a misspelled word; several are in alphabetical order. -/
def proposals : List String → String
  | [] => ""
  | [s] => " Did you mean " ++ Text.quoted s ++ "?"
  | similar =>
    let ordered := similar.mergeSort fun s t => !decide (t < s)
    " (Did you mean one of: " ++ ", ".intercalate (ordered.map Text.quoted) ++ "?)"

/-- The wording of a misfit. -/
def UsageError.message : UsageError → String
  | .noSuchOption name similar =>
    "No such option " ++ Text.quoted name ++ "." ++ proposals similar
  | .noValue option => "Option " ++ Text.quoted option ++ " requires an argument."
  | .unwantedValue option => "Option " ++ Text.quoted option ++ " does not take a value."
  | .noInteger option value =>
    "Invalid value for " ++ Text.quoted option ++ ": " ++ Text.quoted value ++
      " is not a valid integer."
  | .extraArguments arguments =>
    (if arguments.length = 1 then "Got unexpected extra argument (" else
      "Got unexpected extra arguments (") ++ " ".intercalate arguments ++ ")"
  | .noSuchCommand name similar =>
    "No such command " ++ Text.quoted name ++ "." ++ proposals similar
  | .missingCommand => "Missing command."

/-- Whether the usage of the command is shown with a misfit. -/
def UsageError.showsUsage : UsageError → Bool
  | .noValue _ | .unwantedValue _ => false
  | _ => true

/-- What is said about a misfit. -/
def UsageError.report (c : CommandInfo) (e : UsageError) : String :=
  (if e.showsUsage then
    c.usage ++ "\nTry '" ++ c.path ++ " " ++ OptionInfo.helpOption.long ++ "' for help.\n\n"
   else "") ++ "Error: " ++ e.message ++ "\n"

end ControlPlane.Command
