import NodeFleet.CommandLine.Choices
import NodeFleet.Text.Wrapped

/-!
What the command line is answered: the help, and the reports of faults.
-/

namespace NodeFleet.CommandLine

/-- The name of the program. -/
def programName : String := "panel-server"

/-- How the program is called, with the settings that were used or with a place for all. -/
def usage (used : List Setting) : String :=
  let settings := if used.isEmpty then ["[OPTIONS]"] else used.eraseDups.map Setting.written
  "Usage: " ++ " ".intercalate (programName :: settings)

/-- The report of a fault in an argument. -/
def Fault.message : Fault → String
  | .unknown argument _ _ => "unexpected argument '" ++ argument ++ "' found"
  | .missingValue s => "a value is required for '" ++ s.written ++ "' but none was supplied"
  | .repeated s => "the argument '" ++ s.written ++ "' cannot be used multiple times"
  | .needlessValue s value _ =>
    "unexpected value '" ++ value ++ "' for '" ++ s.written ++ "' found; no more were expected"
  | .badNumber s value fault =>
    "invalid value '" ++ value ++ "' for '" ++ s.written ++ "': " ++ fault.message

/-- The hints after the report of a fault. -/
def Fault.hints : Fault → List String
  | .unknown _ (some similar) used =>
    ["  tip: a similar argument exists: '--" ++ similar.name ++ "'", usage used]
  | .unknown _ none used => [usage used]
  | .repeated _ => [usage []]
  | .needlessValue _ _ used => [usage used]
  | .missingValue _ => []
  | .badNumber _ _ _ => []

/-- The text of a report with its hints, a blank line between any two. -/
def Fault.report (f : Fault) : String :=
  "\n\n".intercalate
    (("error: " ++ f.message) :: (f.hints ++ ["For more information, try '--help'."])) ++ "\n"

/-- The width of the help. -/
def helpWidth : Nat := 100

/-- The blanks before a text in the help. -/
def helpIndent : String := "          "

/-- What the help says of a setting: its meaning, its variable with the value in the environment,
and its standard value. -/
def Setting.helpText (environment : String → Option String) (s : Setting) : String :=
  let variableText := s.variableName?.map fun name =>
    "[env: " ++ name ++ "=" ++ (environment name).getD "" ++ "]"
  let standard := s.standard?.map fun value => "[default: " ++ value ++ "]"
  " ".intercalate (s.about :: (variableText.toList ++ standard.toList))

/-- The lines of the help about a setting. -/
def Setting.helpLines (environment : String → Option String) (s : Setting) : List String :=
  let letter := if s = .help then "  -h, " else "      "
  (letter ++ s.written) ::
    (Text.wrapped (helpWidth - helpIndent.length) (s.helpText environment)).map (helpIndent ++ ·)

/-- The help. -/
def help (environment : String → Option String) : String :=
  "\n".intercalate
    (["Панель управления прокси-узлами: реестр, токены, группы, реконсилер", "", usage [], "",
      "Options:"] ++ Setting.all.flatMap (Setting.helpLines environment)) ++ "\n"

end NodeFleet.CommandLine
