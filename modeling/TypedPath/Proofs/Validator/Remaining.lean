import TypedPath.Proofs.Schema.Missing
import TypedPath.Proofs.Schema.Relaxed
import TypedPath.Proofs.Validator.Own

namespace TypedPath

namespace Issue

def isMissingPart (issue : Issue) : Bool :=
  match issue.problem, issue.location with
  | .missing, some [_] => true
  | _, _ => false

def isAbout (name : Text) (issue : Issue) : Bool :=
  match issue.location with
  | some (.text step :: _) => step = name
  | _ => false

end Issue

namespace Model

def keepsIssue (m : Model Shape) (pairs : List (Text × Value)) (issue : Issue) : Bool :=
  !issue.isMissingPart &&
    !m.fields.any fun field => (pairs.lookup field.name).any Value.isNone && issue.isAbout field.name

def remaining (m : Model Shape) (pairs : List (Text × Value)) (issues : List Issue) : List Issue :=
  issues.filter (m.keepsIssue pairs)

variable {m : Model Shape} {pairs : List (Text × Value)} {issue : Issue} {issues : List Issue}

end Model

namespace Field

variable {m : Model Shape} {field other : Field Shape} {extra : ExtraPolicy} {entries : List (Value × Value)}
  {pairs : List (Text × Value)}

end Field

namespace ExtraPolicy

end ExtraPolicy

namespace Model

variable {m n : Model Shape} {entries : List (Value × Value)} {pairs : List (Text × Value)}

end Model

end TypedPath
