import Rollcall.Invocation

/-!
# Command lines

A command line names one of three commands.  Options that belong to every command stand before its name
(`Opening.ofWords`), and the words behind it are read as the options and arguments of the command
(`Invocation.ofWords`).

* Behind the name of the command, options and arguments may be mixed; behind `--` all words are arguments.
* An option that takes a value takes the next word, whatever it is, or what follows an equals sign.
* The last of several settings of an option counts.
-/

namespace Rollcall

/-! ### Words -/

/-- An option, for what it says about words. -/
structure OptionForm (κ : Type) where
  option : κ
  long : String
  /-- The letter of an option that takes no value. -/
  short : Option Char
  takesValue : Bool

/-- The options that were set, with their values, and the arguments. -/
structure Words (κ : Type) where
  settings : List (κ × String)
  arguments : List String

/-- What one word says. -/
inductive Reading (κ : Type) where
  | argument
  | settings (values : List (κ × String))
  /-- An option whose value is the next word. -/
  | opens (option : κ)
  | misuse

namespace OptionForm

variable {κ : Type}

/-- Reads a group of letters, each an option. -/
def readLetters (forms : List (OptionForm κ)) : List Char → Option (List (κ × String))
  | [] => some []
  | c :: cs => do
    let form ← forms.find? fun f => f.short == some c
    return (form.option, "") :: (← readLetters forms cs)

/-- Reads a word.  A lone dash is an argument. -/
def readWord (forms : List (OptionForm κ)) (word : String) : Reading κ :=
  let cs := word.toList
  if cs.head? ≠ some '-' ∨ cs.length ≤ 1 then .argument
  else
    let name := cs.takeWhile (· != '=')
    let value := (cs.drop name.length).tail?.map String.ofList
    match forms.find? fun f => f.long.toList == name, value with
    | some form, some value => if form.takesValue then .settings [(form.option, value)] else .misuse
    | some form, none => if form.takesValue then .opens form.option else .settings [(form.option, "")]
    | none, _ =>
      if cs.take 2 = ['-', '-'] then .misuse
      else match readLetters forms cs.tail with
        | some values => .settings values
        | none => .misuse

/-- Reads words.  If options and arguments are not mixed, the first argument ends the options; `awaiting` is an option
whose value comes next. -/
def readWords (forms : List (OptionForm κ)) (isMixed : Bool) :
    (awaiting : Option κ) → List String → Option (Words κ)
  | some _, [] => none
  | none, [] => some ⟨[], []⟩
  | some option, value :: words => do
    let rest ← readWords forms isMixed none words
    return { rest with settings := (option, value) :: rest.settings }
  | none, word :: words =>
    if word = "--" then some ⟨[], words⟩
    else match readWord forms word with
      | .misuse => none
      | .argument =>
        if isMixed then do
          let rest ← readWords forms isMixed none words
          return { rest with arguments := word :: rest.arguments }
        else some ⟨[], word :: words⟩
      | .settings values => do
        let rest ← readWords forms isMixed none words
        return { rest with settings := values ++ rest.settings }
      | .opens option => readWords forms isMixed (some option) words

end OptionForm

/-! ### The opening -/

/-- The command of a name. -/
def CommandName.ofWord? : String → Option CommandName
  | "check" => some .check
  | "registry" => some .registry
  | "solution" => some .solution
  | _ => none

/-- The options before the name of the command. -/
inductive OpeningOption where
  | verbose
  | help
deriving DecidableEq, Repr, Inhabited

namespace Opening

/-- The options before the name of the command. -/
def forms : List (OptionForm OpeningOption) :=
  [⟨.verbose, "--verbose", some 'v', false⟩, ⟨.help, "--help", some 'h', false⟩]

/-- Reads a command line up to the name of its command. -/
def ofWords (words : List String) : Except Refusal Opening :=
  match OptionForm.readWords forms false none words with
  | none => .error .misuse
  | some w =>
    if w.settings.any (·.1 == .help) then .error .help
    else match w.arguments with
      | [] => .error .misuse
      | name :: rest =>
        match CommandName.ofWord? name with
        | some command => .ok ⟨w.settings.any (·.1 == .verbose), command, rest⟩
        | none => .error .misuse

end Opening

/-! ### The command -/

/-- The format of a name. -/
def OutputFormat.ofWord? : String → Option OutputFormat
  | "table" => some .table
  | "text" => some .text
  | "json" => some .json
  | _ => none

/-- The options behind the name of a command. -/
inductive CommandOption where
  | assemblyName
  | format
  | strict
  | lenient
  | help
deriving DecidableEq, Repr, Inhabited

namespace Invocation

/-- The options that a command knows. -/
def options : CommandName → List CommandOption
  | .check => [.assemblyName, .format, .strict, .lenient, .help]
  | .registry => [.assemblyName, .help]
  | .solution => [.strict, .lenient, .help]

/-- How an option is written. -/
def form : CommandOption → OptionForm CommandOption
  | .assemblyName => ⟨.assemblyName, "--assembly-name", none, true⟩
  | .format => ⟨.format, "--format", none, true⟩
  | .strict => ⟨.strict, "--strict", none, false⟩
  | .lenient => ⟨.lenient, "--no-strict", none, false⟩
  | .help => ⟨.help, "--help", some 'h', false⟩

/-- The last value of an option. -/
def lastValue? (w : Words CommandOption) (option : CommandOption) : Option String :=
  (w.settings.reverse.find? fun s => s.1 == option).map (·.2)

/-- Whether findings make a command fail. -/
def isStrict (w : Words CommandOption) : Bool :=
  (w.settings.reverse.find? fun s => s.1 == .strict || s.1 == .lenient).any fun s => s.1 == .strict

/-- The format, which is a table unless it is set. -/
def format? (w : Words CommandOption) : Option OutputFormat :=
  match lastValue? w .format with
  | some name => OutputFormat.ofWord? name
  | none => some .table

/-- The command that words ask for, if they are as it needs them. -/
def ofParts? (command : CommandName) (w : Words CommandOption) : Option Invocation :=
  match command, w.arguments with
  | .check, path :: paths => do return .check (path :: paths) (lastValue? w .assemblyName) (← format? w) (isStrict w)
  | .registry, path :: paths => some (.registry (path :: paths) (lastValue? w .assemblyName))
  | .solution, [root] => some (.solution root (isStrict w))
  | _, _ => none

/-- Reads the words behind the name of a command. -/
def ofWords (command : CommandName) (words : List String) : Except Refusal Invocation :=
  match OptionForm.readWords ((options command).map form) true none words with
  | none => .error .misuse
  | some w =>
    if w.settings.any (·.1 == .help) then .error .help
    else match ofParts? command w with
      | some invocation => .ok invocation
      | none => .error .misuse

end Invocation

end Rollcall
