import WebListener.Command.Arguments
import WebListener.Config.Options
-- What the program says about itself and about words that it does not understand.
namespace WebListener.Command

def programName : String := "gatehouse"

def versionText : String := programName ++ " 0.1.0\n"

def generalUsage : String := "Usage: " ++ programName ++ " [OPTIONS]"

def about : String :=
  "HTTP/HTTPS listener bootstrap with static or ACME certificates and an HTTP to HTTPS redirector"

def Name.describes : Name → String
  | .config => "Path to configuration file [default: " ++ Config.defaultConfigPath ++ "]"
  | .logLevel => "Log level filter (e.g., \"gatehouse=debug\")"
  | .help => "Print help"
  | .version => "Print version"

def Name.heading (name : Name) : String :=
  "  -" ++ .ofList [name.short] ++ ", " ++ name.usage

def headingWidth : Nat := ((Name.all.map (·.heading.length)).max?.getD 0) + 2

def optionLine (name : Name) : String :=
  name.heading ++ .ofList (List.replicate (headingWidth - name.heading.length) ' ') ++
    name.describes

def lines (texts : List String) : String := .join (texts.map (· ++ "\n"))

def helpText : String :=
  lines ([about, "", generalUsage, "", "Options:"] ++ Name.all.map optionLine)

def Name.answer : Name → String
  | .version => versionText
  | _ => helpText

namespace Complaint

def message : Complaint → String
  | .unexpected argument _ _ => "unexpected argument '" ++ argument ++ "' found"
  | .missingValue name =>
    "a value is required for '" ++ name.usage ++ "' but none was supplied"
  | .repeated name => "the argument '" ++ name.usage ++ "' cannot be used multiple times"
  | .unneededValue name value _ =>
    "unexpected value '" ++ value ++ "' for '" ++ name.usage ++
      "' found; no more were expected"

def tip? : Complaint → Option String
  | .unexpected _ (some name) _ => some ("  tip: a similar argument exists: '" ++ name.flag ++ "'")
  | _ => none

def shown : Complaint → List Name
  | .unexpected _ (some name) used => if used.contains name then used else used ++ [name]
  | .unexpected _ none used => used
  | .unneededValue _ _ used => used
  | .missingValue _ | .repeated _ => []

def usage? (complaint : Complaint) : Option String :=
  match complaint, complaint.shown with
  | .missingValue _, _ => none
  | _, [] => some generalUsage
  | _, names => some ("Usage: " ++ programName ++ .join (names.map fun name => " " ++ name.usage))

def hint : String := "For more information, try '--help'."

def text (complaint : Complaint) : String :=
  "\n\n".intercalate ([some ("error: " ++ complaint.message), complaint.tip?, complaint.usage?,
    some hint].filterMap id) ++ "\n"

end Complaint

end WebListener.Command
