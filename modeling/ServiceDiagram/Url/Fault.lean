/-!
# Faults of addresses

Why a text is not the absolute address of something.
-/

namespace ServiceDiagram.Url

inductive Fault where
  /-- no scheme at the start -/
  | relative
  | emptyHost
  /-- the number behind the host -/
  | number
  | address4
  | address6
  /-- a host that is not a domain name -/
  | domain
  /-- a character that no host of any scheme has -/
  | character
  deriving DecidableEq, Repr

def Fault.message : Fault → String
  | .relative => "relative URL without a base"
  | .emptyHost => "empty host"
  | .number => "invalid port number"
  | .address4 => "invalid IPv4 address"
  | .address6 => "invalid IPv6 address"
  | .domain => "invalid international domain name"
  | .character => "invalid domain character"

end ServiceDiagram.Url
