/-!
# Frameworks

The framework that the services of a context use.  A label that names none of them is read as the
first one.
-/

namespace ServiceDiagram

inductive Framework where
  | grpc
  | rest
  | wcf
  | custom
  deriving DecidableEq, Repr, Inhabited

namespace Framework

def all : List Framework := [.grpc, .rest, .wcf, .custom]

def label : Framework → String
  | .grpc => "gRPC"
  | .rest => "REST"
  | .wcf => "WCF"
  | .custom => "Custom"

/-- the framework with this label, `grpc` if there is none -/
def ofLabel (s : String) : Framework := (all.find? (·.label == s)).getD .grpc

theorem ofLabel_label (f : Framework) : ofLabel f.label = f := by
  cases f <;> decide

end Framework

end ServiceDiagram
