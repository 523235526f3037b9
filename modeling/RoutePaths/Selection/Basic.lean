import RoutePaths.Route
import RoutePaths.Selection.Glob

/-! The selection of routes by name. A route is selected if it is included
and no exclude pattern matches its name. Routes of one name are selected
together, and their order is kept. -/
namespace RoutePaths

/-- Which routes are included: one pattern, or several of some type. The
pattern that is a lone star includes every route and is never looked at as a
pattern. -/
inductive Inclusion (α : Type) where
  | one (pattern : String)
  | many (patterns : List α)
  deriving DecidableEq, Repr

namespace Inclusion

/-- The pattern that includes every route. -/
def wildcard : String :=
  "*"

/-- Every route is included. -/
def isAll : Inclusion Pattern → Bool
  | one pattern => pattern == wildcard
  | many patterns => patterns.contains (.text wildcard)

/-- The patterns other than the one that includes everything. -/
def patterns : Inclusion Pattern → List Pattern
  | one pattern => if pattern = wildcard then [] else [.text pattern]
  | many patterns => patterns.filter (· ≠ .text wildcard)

/-- An inclusion all of whose patterns are texts. -/
def ofTexts : Inclusion String → Inclusion Pattern
  | one pattern => one pattern
  | many patterns => many (patterns.map .text)

end Inclusion

/-- Which routes are selected. -/
structure Selection where
  included : Inclusion Pattern
  excluded : List Pattern
  deriving DecidableEq, Repr

/-- One pattern with its effect. -/
inductive Rule where
  | including (pattern : String)
  | excluding (pattern : String)
  deriving DecidableEq, Repr

/-- A selection whose patterns have been checked. -/
structure Selection.Checked where
  all : Bool
  includes : List String
  excludes : List String
  deriving DecidableEq, Repr

namespace Selection

/-- Checks all patterns, those for inclusion first. The first flawed one is
the error, before any route is looked at. -/
def check (selection : Selection) : Except Pattern.Error Checked := do
  let includes ← selection.included.patterns.mapM Pattern.check
  let excludes ← selection.excluded.mapM Pattern.check
  return ⟨selection.included.isAll, includes, excludes⟩

/-- The rules of a checked selection, those for inclusion first. -/
def Checked.rules (checked : Checked) : List Rule :=
  checked.includes.map .including ++ checked.excludes.map .excluding

/-- The name matches one of the patterns. -/
def matchesAny (patterns : List String) (name : String) : Bool :=
  patterns.any fun pattern => Pattern.admits pattern.toList name.toList

/-- Whether a name is selected. Exclusion wins over inclusion. -/
def Checked.selects (checked : Checked) (name : String) : Bool :=
  !matchesAny checked.excludes name && (checked.all || matchesAny checked.includes name)

/-- The selected routes, in the given order. -/
def apply (selection : Selection) (routes : List Route) : Except Pattern.Error (List Route) := do
  let checked ← selection.check
  return routes.filter (checked.selects ·.name)

end Selection

end RoutePaths
