import NamingLint.CommandLine.Argument

/-!
# Help
-/

namespace NamingLint.CommandLine

/-- What the tool does. -/
def toolPurpose : String := "Checks that declaration names begin with a lower-case letter"

/-- Rows of two columns, the first padded to one width. -/
def columns (rows : List (String × String)) : String :=
  let width := rows.foldl (fun width row => max width row.1.length) 0
  String.join (rows.map fun (left, right) =>
    "  " ++ left ++ String.ofList (List.replicate (width + 2 - left.length) ' ') ++ right ++ "\n")

/-- A headed list, if there is anything to list. -/
def helpSection (heading : String) (rows : List (String × String)) : String :=
  if rows.isEmpty then "" else "\n" ++ heading ++ ":\n" ++ columns rows

/-- How an option is written. -/
def optionText (argument : Argument) : String :=
  match argument.short with
  | some c => String.ofList ['-', c] ++ ", " ++ argument.usage
  | none => "    " ++ argument.usage

/-- What a command line looks like. -/
def usageLine (signature : Signature) : String :=
  let words := match signature.command with
    | some command =>
      [Product.name, command.text, "[OPTIONS]"] ++ signature.positionals.map Argument.usage
    | none => [Product.name, "[OPTIONS]", "<COMMAND>"]
  "Usage: " ++ " ".intercalate words ++ "\n"

/-- The help for the tool or for a command. -/
def helpText (command : Option CommandName) : String :=
  let signature := (command.map Signature.ofCommand).getD .tool
  let commands := match command with
    | some _ => []
    | none =>
      CommandName.all.map (fun command => (command.text, command.about)) ++
        [(helpCommand, "Print this message or the help of the given subcommand(s)")]
  (command.map CommandName.about).getD toolPurpose ++ "\n\n" ++ usageLine signature ++
    helpSection "Commands" commands ++
    helpSection "Arguments" (signature.positionals.map fun argument =>
      (argument.usage, argument.about)) ++
    helpSection "Options" (signature.options.map fun argument =>
      (optionText argument, argument.about))

end NamingLint.CommandLine
