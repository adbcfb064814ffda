import TypedPath.Validator.Basic

namespace TypedPath.Validator

def echo : Validator := .custom ⟨"Echo", .ok⟩

def constant (value : Value) : Validator := .custom ⟨"Const", fun _ => .ok value⟩

def reject (issues : List Issue) : Validator :=
  .custom ⟨"Reject", fun _ => .error (.rejected ⟨issues, .check⟩)⟩

def explode : Validator :=
  .custom ⟨"Explode", fun _ => .error (.broken (.raised "validator invoked"))⟩

end TypedPath.Validator
