import ControlPlane.Command.Usage
import ControlPlane.Text.Similarity

/-!
# Arguments of a command

The words behind a command, sorted into options with their values and other arguments.  A long
option has its value behind an equals sign or as the next word, and short options can be written in
one word; two hyphens end the options.
-/

namespace ControlPlane.Command

/-- An option that is given, with its value if it has one. -/
structure Given where
  option : String
  value : Option String
  deriving DecidableEq, Repr

/-- The words of a command line, sorted. -/
structure Arguments where
  options : List Given := []
  others : List String := []

namespace Arguments

/-- Whether an option is given. -/
def has (a : Arguments) (option : OptionInfo) : Bool :=
  a.options.any fun g => g.option == option.name

/-- The last value that is given for an option. -/
def value? (a : Arguments) (name : String) : Option String :=
  (a.options.reverse.find? fun g => g.option == name).bind (·.value)

end Arguments

/-! ## single words -/

/-- A word up to the first equals sign, and what follows it if there is one. -/
def splitValue (word : List Char) : List Char × Option (List Char) :=
  match word.dropWhile (· != '=') with
  | [] => (word, none)
  | _ :: value => (word.takeWhile (· != '='), some value)

/-- The options of one word, and whether the next word is the value of the last one. -/
abbrev WordOptions := List Given × Bool

/-- The value of an option in the next word. -/
def nextValue (o : OptionInfo) (written : String) (next : Option String) :
    Except UsageError WordOptions :=
  match next with
  | some v => .ok ([⟨o.name, some v⟩], true)
  | none => .error (.noValue written)

/-- A long option. -/
def longOption (o : OptionInfo) (value next : Option String) : Except UsageError WordOptions :=
  match o.value, value with
  | some _, some v => .ok ([⟨o.name, some v⟩], false)
  | some _, none => nextValue o o.long next
  | none, some _ => .error (.unwantedValue o.long)
  | none, none => .ok ([⟨o.name, none⟩], false)

/-- Short options in a row; what follows one with a value is its value. -/
def shortOptions (options : List OptionInfo) (next : Option String) :
    List Char → Except UsageError WordOptions
  | [] => .ok ([], false)
  | c :: rest =>
    let written := "-" ++ String.singleton c
    match options.find? fun o => o.letter == some c with
    | none => .error (.noSuchOption written [])
    | some o =>
      if o.value.isNone then
        (shortOptions options next rest).map fun w => (⟨o.name, none⟩ :: w.1, w.2)
      else if rest.isEmpty then nextValue o written next
      else .ok ([⟨o.name, some (String.ofList rest)⟩], false)

/-- The options of a word that starts with a hyphen. -/
def wordOptions (options : List OptionInfo) (word : List Char) (next : Option String) :
    Except UsageError WordOptions :=
  let (name, value) := splitValue word
  match options.find? fun o => o.long.toList == name with
  | some o => longOption o (value.map String.ofList) next
  | none =>
    match word with
    | _ :: '-' :: _ =>
      let name := String.ofList name
      .error (.noSuchOption name (Text.closest name (options.map (·.long))))
    | _ :: letters => shortOptions options next letters
    | [] => .ok ([], false)

/-! ## all words -/

/-- Whether a word holds options. -/
def isOptionWord (word : String) : Bool := word.toList.head? == some '-' && 1 < word.length

/-- The words of a command line, sorted.  With `mixed`, options may stand behind other arguments;
otherwise the first such argument ends them. -/
def readArguments (options : List OptionInfo) (mixed : Bool) :
    (fuel : Nat) → List String → Except UsageError Arguments
  | 0, words => .ok { others := words }
  | _, [] => .ok {}
  | fuel + 1, word :: rest =>
    if word = "--" then .ok { others := rest }
    else if isOptionWord word then
      match wordOptions options word.toList rest.head? with
      | .error e => .error e
      | .ok (given, tookNext) =>
        (readArguments options mixed fuel (if tookNext then rest.tail else rest)).map fun a =>
          { a with options := given ++ a.options }
    else if mixed then
      (readArguments options mixed fuel rest).map fun a => { a with others := word :: a.others }
    else .ok { others := word :: rest }

/-- The words behind a command, sorted. -/
def CommandInfo.arguments? (c : CommandInfo) (mixed : Bool) (words : List String) :
    Except UsageError Arguments :=
  readArguments c.allOptions mixed (words.length + 1) words

end ControlPlane.Command
