import TypedPath.Pattern.Basic

namespace TypedPath

/-- What one compilation gave. Its number tells it from all others, also from those of the same
    text. -/
structure Compilation where
  number : Nat
  pattern : Pattern
deriving DecidableEq, Repr

/-- The compilation used last comes first. `made` counts all that there were. -/
structure PatternCache where
  kept : List Compilation
  made : Nat
deriving Repr

namespace PatternCache

def capacity : Nat := 256

def empty : PatternCache := ⟨[], 0⟩

def find? (cache : PatternCache) (text : Text) : Option Compilation :=
  cache.kept.find? fun compilation => compilation.pattern.text = text

def use (cache : PatternCache) (compilation : Compilation) : PatternCache :=
  let others := cache.kept.eraseP fun other => other.pattern.text = compilation.pattern.text
  { cache with kept := (compilation :: others).take capacity }

def make (cache : PatternCache) (text : Text) : Compilation × PatternCache :=
  (⟨cache.made, Pattern.compile text⟩, { cache with made := cache.made + 1 })

def compile (cache : PatternCache) (text : Text) : Compilation × Bool × PatternCache :=
  match cache.find? text with
  | some compilation => (compilation, true, cache.use compilation)
  | none =>
    let (compilation, cache) := cache.make text
    (compilation, false, cache.use compilation)

end PatternCache

end TypedPath
