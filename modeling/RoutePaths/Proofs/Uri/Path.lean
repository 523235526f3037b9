import RoutePaths.Uri.Segment

/-! The path of a URI template under given values. It is what the template
says: the segments one after the other, where an optional segment without a
value takes its separator with it. -/
namespace RoutePaths.Segment

variable {α : Type} (escape : α → String) (given : String → Option α)

/-- The text of a segment. -/
def rendered : Segment → String
  | literal text => "/" ++ text
  | dynamic name _ separator =>
    match given name with
    | some value => separator ++ escape value
    | none => ""

/-- The texts of segments, joined. -/
def renderedAll (segments : List Segment) : String :=
  String.join (segments.map (rendered escape given))

/-- The path of a template. An empty path is the root. -/
def path (segments : List Segment) : String :=
  if renderedAll escape given segments = "" then "/" else renderedAll escape given segments

/-- Each required name has a value. -/
def Supplies (segments : List Segment) : Prop :=
  ∀ name separator, dynamic name false separator ∈ segments → (given name).isSome

@[simp] theorem renderedAll_nil : renderedAll escape given [] = "" := rfl

@[simp] theorem renderedAll_cons (segment : Segment) (rest : List Segment) :
    renderedAll escape given (segment :: rest) =
      rendered escape given segment ++ renderedAll escape given rest := by
  simp [renderedAll]

theorem Supplies.tail {given : String → Option α} {segment : Segment} {rest : List Segment}
    (h : Supplies given (segment :: rest)) : Supplies given rest :=
  fun name separator hMem => h name separator (List.mem_cons_of_mem _ hMem)

end RoutePaths.Segment
