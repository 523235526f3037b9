/-! The components of a URI template. A template such as
`/users/:id(.:format)` is a list of segments in path order, and a segment
owns the text in front of its value, so that an omitted value takes that
text with it. -/
namespace RoutePaths

/-- A component of a URI template. A literal stands for a slash and its
text, so an empty text is a trailing slash. A dynamic segment stands for its
separator and the value given to its name; an optional one stands for
nothing when no value is given. -/
inductive Segment where
  | literal (text : String)
  | dynamic (name : String) (optional : Bool) (separator : String)
  deriving DecidableEq, Repr, Inhabited

namespace Segment

/-- The name that a value is given to. A literal has none. -/
def name? : Segment → Option String
  | literal _ => none
  | dynamic name _ _ => some name

/-- A value has to be given. No literal is required in this sense. -/
def isRequired : Segment → Bool
  | dynamic _ false _ => true
  | _ => false

/-- The names that values are given to, in path order. Repetitions are
kept. -/
def names (segments : List Segment) : List String :=
  segments.filterMap name?

@[simp] theorem names_nil : names [] = [] := rfl

@[simp] theorem names_literal (text : String) (rest : List Segment) :
    names (literal text :: rest) = names rest := rfl

@[simp] theorem names_dynamic (name : String) (optional : Bool) (separator : String)
    (rest : List Segment) :
    names (dynamic name optional separator :: rest) = name :: names rest := rfl

@[simp] theorem names_append (first second : List Segment) :
    names (first ++ second) = names first ++ names second := by
  simp [names]

end Segment

end RoutePaths
