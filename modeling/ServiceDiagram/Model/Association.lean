/-!
# Associations

A service is associated with other types, its targets.  The kind of an association says how it is
drawn and which of its fields are used: a text on the line, and the multiplicities at both ends.
Kinds beyond the five known ones keep their label, so that a document survives reading and writing.
-/

namespace ServiceDiagram

inductive AssociationKind where
  | directed
  | contains
  | aggregation
  | implements
  | inherits
  | other (label : String)
  deriving DecidableEq, Repr

namespace AssociationKind

/-- the kinds that are drawn, in the order in which they are offered -/
def known : List AssociationKind := [.directed, .contains, .aggregation, .implements, .inherits]

def label : AssociationKind → String
  | .directed => "directed"
  | .contains => "contains"
  | .aggregation => "aggregation"
  | .implements => "implements"
  | .inherits => "extends"
  | .other label => label

def ofLabel (s : String) : AssociationKind := (known.find? (·.label == s)).getD (.other s)

/-- its line carries a text -/
def usesText : AssociationKind → Bool
  | .directed | .aggregation => true
  | _ => false

/-- its line carries multiplicities -/
def usesMultiplicity : AssociationKind → Bool
  | .aggregation => true
  | _ => false

/-- no other kind bears the label of a known one -/
def Canonical : AssociationKind → Prop
  | .other label => ∀ k ∈ known, k.label ≠ label
  | _ => True

end AssociationKind

structure Association where
  kind : AssociationKind
  target : String
  text : Option String
  localMultiplicity : Option String
  remoteMultiplicity : Option String
  deriving DecidableEq, Repr

/-- an association that has only a target -/
def Association.new (kind : AssociationKind) (target : String) : Association :=
  ⟨kind, target, none, none, none⟩

end ServiceDiagram
