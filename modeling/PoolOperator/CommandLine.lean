import PoolOperator.Text.Similarity

/-!
# The command line

The program has two commands, one that runs the operator and one that prints
its resource definitions.  Without a command it runs the operator.
`CommandLine.parse` tells what some arguments ask for.  Arguments are read from
left to right, and the first flag or mistake decides.
-/

namespace PoolOperator

namespace CommandLine

/-- The name of the program. -/
def program : String := "metallb-operator"

/-- The version of the program. -/
def version : String := "0.1.0"

/-- What the program is for. -/
def purpose : String :=
  "Kubernetes operator that installs MetalLB and manages its address pools"

/-- What the program does. -/
inductive Command where
  /-- Runs the operator. -/
  | run
  /-- Prints the resource definitions. -/
  | crds
  deriving DecidableEq, Repr, Inhabited

/-- What arguments ask for. -/
inductive Intent where
  /-- A command is to be carried out. -/
  | command (command : Command)
  /-- A page is to be shown. -/
  | page (text : String)
  /-- The arguments make no sense. -/
  | mistake (text : String)
  deriving DecidableEq, Repr, Inhabited

/-- Where on the command line an argument stands. -/
inductive Place where
  /-- Before any command. -/
  | top
  /-- After a command. -/
  | after (command : Command)
  /-- After the word that asks for help. -/
  | help
  deriving DecidableEq, Repr, Inhabited

/-- A flag. -/
inductive Flag where
  /-- Asks for help. -/
  | help
  /-- Asks for the version. -/
  | version
  deriving DecidableEq, Repr, Inhabited

/-- The name of a command. -/
def Command.name : Command → String
  | .run => "run"
  | .crds => "crds"

/-- What a command does. -/
def Command.about : Command → String
  | .run => "Run the operator"
  | .crds => "Print CRD manifests to stdout"

/-- All commands. -/
def commands : List Command := [.run, .crds]

/-- The word that asks for help. -/
def helpWord : String := "help"

/-- What the word for help does. -/
def helpAbout : String := "Print this message or the help of the given subcommand(s)"

/-- The words that can stand in the place of a command. -/
def words : List String := commands.map Command.name ++ [helpWord]

/-- The command with a name. -/
def command? (word : String) : Option Command := commands.find? fun command => command.name = word

namespace Flag

/-- The long name of a flag. -/
def long : Flag → String
  | .help => "help"
  | .version => "version"

/-- The short name of a flag. -/
def short : Flag → Char
  | .help => 'h'
  | .version => 'V'

end Flag

/-! ## Pages -/

namespace Place

/-- How the program is called up to a place. -/
def call : Place → String
  | .top => program
  | .after command => program ++ " " ++ command.name
  | .help => program ++ " " ++ helpWord

/-- How the program is called. -/
def usage : Place → String
  | .top => Place.top.call ++ " [COMMAND]"
  | .after command => (Place.after command).call
  | .help => Place.help.call ++ " [COMMAND]..."

/-- The flags that are known in a place. -/
def flags : Place → List Flag
  | .top => [.help, .version]
  | .after _ => [.help]
  | .help => []

/-- The page with the help for a place. -/
def helpPage : Place → String
  | .top =>
      let command (name about : String) := "  " ++ name.pushn ' ' (6 - name.length) ++ about ++ "\n"
      purpose ++ "\n\nUsage: " ++ Place.top.usage ++ "\n\nCommands:\n"
        ++ command Command.run.name (Command.run.about ++ " (default)")
        ++ command Command.crds.name Command.crds.about
        ++ command helpWord helpAbout
        ++ "\nOptions:\n  -h, --help     Print help\n  -V, --version  Print version\n"
  | .after command =>
      let about := match command with
        | .run => command.about ++ " (default)"
        | .crds => command.about
      about ++ "\n\nUsage: " ++ (Place.after command).usage
        ++ "\n\nOptions:\n  -h, --help  Print help\n"
  | .help =>
      helpAbout ++ "\n\nUsage: " ++ Place.help.usage
        ++ "\n\nArguments:\n  [COMMAND]...  Print help for the subcommand(s)\n"

/-- The page that a flag asks for. -/
def page (place : Place) : Flag → String
  | .help => place.helpPage
  | .version => program ++ " " ++ version ++ "\n"

end Place

/-! ## Mistakes -/

/-- The text of a mistake, with hints and the right way to call the program. -/
def mistake (problem : String) (hints : List String) (usage : String) : Intent :=
  let hints := String.join (hints.map fun hint => "\n  tip: " ++ hint ++ "\n")
  .mistake (s!"error: {problem}\n{hints}\nUsage: {usage}\n\nFor more information, try '--help'.\n")

/-- An argument that nothing is made of. -/
def unexpected (place : Place) (argument : String) : Intent :=
  mistake s!"unexpected argument '{argument}' found" [] place.usage

/-- A word that is no command. -/
def unknownWord (place : Place) (word : String) (hints : List String) : Intent :=
  mistake s!"unrecognized subcommand '{word}'" hints place.usage

/-- A word in the place of a command that is none. -/
def noCommand (word : String) : Intent :=
  let quoted := (Text.similarTo word words).map fun similar => "'" ++ similar ++ "'"
  unknownWord .top word <|
    match quoted with
    | [] => []
    | [similar] => ["a similar subcommand exists: " ++ similar]
    | similar => ["some similar subcommands exist: " ++ ", ".intercalate similar]

/-- A long flag that is none. -/
def noFlag (place : Place) (name : String) : Intent :=
  match (Text.similarTo name (place.flags.map Flag.long)).getLast? with
  | some similar =>
      mistake s!"unexpected argument '--{name}' found"
        [s!"a similar argument exists: '--{similar}'"] (place.call ++ " --" ++ similar)
  | none => unexpected place ("--" ++ name)

/-! ## Arguments -/

/-- What a long flag asks for.  No flag takes a value. -/
def longFlag (place : Place) (text : List Char) : Intent :=
  let (name, value) := text.span (· ≠ '=')
  let name := String.ofList name
  match place.flags.find? fun flag => flag.long = name with
  | none => noFlag place name
  | some flag =>
      match value with
      | [] => .page (place.page flag)
      | _ :: value =>
          mistake
            s!"unexpected value '{String.ofList value}' for '--{name}' found; no more were expected"
            [] (place.call ++ " --" ++ name)

/-- What some short flags in one argument ask for.  The first one decides. -/
def shortFlag (place : Place) (char : Char) : Intent :=
  match place.flags.find? fun flag => flag.short = char with
  | some flag => .page (place.page flag)
  | none => unexpected place ("-" ++ char.toString)

/-- What an argument asks for that begins like a flag; nothing if it does
not. -/
def flag? (place : Place) (argument : String) : Option Intent :=
  match argument.toList with
  | '-' :: '-' :: text => some (longFlag place text)
  | '-' :: char :: _ => some (shortFlag place char)
  | _ => none

/-- What stands after two hyphens is no flag and no command. -/
def afterHyphens : Place → List String → Option Intent
  | _, [] => none
  | .top, word :: _ =>
      some <|
        if word ∈ words then
          mistake s!"unexpected argument '{word}' found"
            [s!"subcommand '{word}' exists; to use it, remove the '--' before it"] Place.top.usage
        else noCommand word
  | place, word :: _ => some (unexpected place word)

/-- What the arguments after a command ask for. -/
def parseAfter (command : Command) : List String → Intent
  | [] => .command command
  | argument :: rest =>
      if argument = "--" then (afterHyphens (.after command) rest).getD (.command command)
      else (flag? (.after command) argument).getD (unexpected (.after command) argument)

/-- What the words after the word for help ask for. -/
def parseHelp (place : Place) : List String → Intent
  | [] => .page place.helpPage
  | word :: rest =>
      match place with
      | .top =>
          if word = helpWord then parseHelp .help rest
          else match command? word with
            | some command => parseHelp (.after command) rest
            | none => unknownWord .top word []
      | place => unknownWord place word []

/-- What some arguments ask for. -/
def parse : List String → Intent
  | [] => .command .run
  | argument :: rest =>
      if argument = helpWord then parseHelp .top rest
      else match command? argument with
        | some command => parseAfter command rest
        | none =>
            if argument = "--" then (afterHyphens .top rest).getD (.command .run)
            else (flag? .top argument).getD (noCommand argument)

end CommandLine

end PoolOperator
