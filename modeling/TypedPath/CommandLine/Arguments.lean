import TypedPath.Text.Basic

namespace TypedPath

inductive Command
  | matchPath (pattern path : Text) (exact : Bool)
  | format (pattern : Text) (assignments : List Text) (partly : Bool)
  | segments (pattern : Text)
deriving DecidableEq, Repr

structure Invocation where
  verbose : Bool
  command : Command
deriving DecidableEq, Repr

namespace CommandLine

def isOption (argument : Text) : Bool := argument.head? = some '-' && 1 < argument.length

def sorted? {α : Type} (option? : Text → Option α) : List Text → Option (List α × List Text)
  | [] => some ([], [])
  | argument :: rest =>
    if argument = ['-', '-'] then some ([], rest)
    else if isOption argument then
      match option? argument, sorted? option? rest with
      | some found, some (options, others) => some (found :: options, others)
      | _, _ => none
    else (sorted? option? rest).map fun (options, others) => (options, argument :: others)

def exactOption? (argument : Text) : Option Bool :=
  if argument = "--exact".toList then some true
  else if argument = "--no-exact".toList then some false
  else none

def partlyOption? (argument : Text) : Option Unit :=
  if argument = "--partial".toList then some () else none

def noOption? (_ : Text) : Option Unit := none

def matchCommand? (arguments : List Text) : Option Command :=
  match sorted? exactOption? arguments with
  | some (flags, [pattern, path]) => some (.matchPath pattern path (flags.getLast?.getD true))
  | _ => none

def formatCommand? (arguments : List Text) : Option Command :=
  match sorted? partlyOption? arguments with
  | some (flags, pattern :: assignments) => some (.format pattern assignments (flags ≠ []))
  | _ => none

def segmentsCommand? (arguments : List Text) : Option Command :=
  match sorted? noOption? arguments with
  | some (_, [pattern]) => some (.segments pattern)
  | _ => none

def command? : List Text → Option Command
  | [] => none
  | name :: arguments =>
    if name = "match".toList then matchCommand? arguments
    else if name = "format".toList then formatCommand? arguments
    else if name = "segments".toList then segmentsCommand? arguments
    else none

def isVerbose (argument : Text) : Bool :=
  argument = "--verbose".toList ||
    (argument.head? = some '-' && 1 < argument.length && argument.tail.all (· = 'v'))

def invocation? (verbose : Bool) : List Text → Option Invocation
  | [] => none
  | argument :: rest =>
    if argument = ['-', '-'] then (command? rest).map (⟨verbose, ·⟩)
    else if isOption argument then
      if isVerbose argument then invocation? true rest else none
    else (command? (argument :: rest)).map (⟨verbose, ·⟩)

end CommandLine

end TypedPath
