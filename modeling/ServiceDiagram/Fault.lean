import ServiceDiagram.Json.Fault

/-!
# Faults

What can go wrong in the program.  A fault has a message, a category, and through it a severity and
a suggestion for the user.
-/

namespace ServiceDiagram

inductive AccessKind where
  | notFound
  | permissionDenied
  | other
  deriving DecidableEq, Repr

inductive Fault where
  /-- a file could not be read or written -/
  | access (kind : AccessKind) (detail : String)
  /-- a document is not one -/
  | document (cause : Json.Fault)
  /-- settings that contradict themselves -/
  | settings (detail : String)
  /-- settings that cannot be read or do not pass the checks -/
  | settingsCheck (field detail : String)
  /-- a setting with a value that is not allowed -/
  | settingValue (field value reason : String)
  /-- something required is not there -/
  | missing (field : String)
  | compression (detail : String)
  /-- a question got no answer -/
  | prompt (detail : String)
  /-- the rendering server could not be asked -/
  | unreachable (detail : String)
  /-- the rendering server gave another answer than a drawing -/
  | refused (url : String) (status : Nat)

inductive Category where
  | configuration
  | persistence
  | encoding
  | interaction
  | network
  deriving DecidableEq, Repr

inductive Severity where
  | low
  | medium
  | high
  | critical
  deriving DecidableEq, Repr

namespace Category

def severity : Category → Severity
  | .configuration | .interaction => .high
  | .network => .medium
  | .persistence | .encoding => .critical

def suggestion : Category → String
  | .configuration => "Check the config file and command line flags, then run again"
  | .persistence => "Make sure the output directory is writable and data.json is valid JSON"
  | .encoding => "Inspect the generated .puml file for unusual content"
  | .interaction => "Run the generator from an interactive terminal"
  | .network => "Check the rendering server address or open the printed URL manually"

end Category

/-- the exit code of a program that ends with a fault of this severity -/
def Severity.exitCode : Severity → Nat
  | .low => 0
  | .medium => 2
  | .high => 1
  | .critical => 3

namespace Fault

def message : Fault → String
  | .access _ detail => "IO error: " ++ detail
  | .document cause => "Serialization error: " ++ cause.message
  | .settings detail => "Configuration error: " ++ detail
  | .settingsCheck field detail =>
    "Configuration validation failed for '" ++ field ++ "': " ++ detail
  | .settingValue field value reason =>
    "Invalid value '" ++ value ++ "' for '" ++ field ++ "': " ++ reason
  | .missing field => "Missing required configuration: " ++ field
  | .compression detail => "Compression failed: " ++ detail
  | .prompt detail => "Prompt failed: " ++ detail
  | .unreachable detail => "HTTP request failed: " ++ detail
  | .refused url status => "Download of " ++ url ++ " failed with status " ++ toString status

def friendly : Fault → String
  | .access _ detail => "Could not read or write a file: " ++ detail
  | .document cause => "The saved model could not be encoded: " ++ cause.message
  | .unreachable detail => "Could not reach the diagram server: " ++ detail
  | .refused url status => "The diagram server answered " ++ toString status ++ " for " ++ url
  | fault => fault.message

def category : Fault → Category
  | .settings _ | .settingsCheck _ _ | .settingValue _ _ _ | .missing _ => .configuration
  | .access _ _ | .document _ => .persistence
  | .compression _ => .encoding
  | .prompt _ => .interaction
  | .unreachable _ | .refused _ _ => .network

def severity (f : Fault) : Severity := f.category.severity

def suggestion (f : Fault) : String := f.category.suggestion

end Fault

end ServiceDiagram
