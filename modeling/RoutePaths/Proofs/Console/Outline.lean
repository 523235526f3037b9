import RoutePaths.Console.Outline
import Mathlib.Data.List.Basic

/-! Outlines of modules, read as they are shown. The labels of functions are told from
those of modules by the empty parentheses at their end. -/
namespace RoutePaths.Outline

mutual

/-- An outline comes out of its record as it went in. -/
theorem ofRecord_toRecord : ∀ outline : Outline, ofRecord outline.toRecord = outline
  | .node label children => by
      have hChildren := ofRecords_toRecords children
      rw [toRecord, Value.record]
      show Outline.node (labelOf _) (ofRecords (toRecords children)) = _
      rw [hChildren]
      rfl

theorem ofRecords_toRecords : ∀ outlines : List Outline, ofRecords (toRecords outlines) = outlines
  | [] => rfl
  | child :: rest => by
      rw [toRecords, ofRecords, ofRecord_toRecord child, ofRecords_toRecords rest]

end

/-- The label is that of a function. -/
def isFunction (outline : Outline) : Bool :=
  "()".toList.isSuffixOf outline.label.toList

/-- The labels of the functions among several outlines. -/
def functionLabels (outlines : List Outline) : List String :=
  (outlines.filter isFunction).map label

mutual

/-- The labels of the modules, each before those below it and with the labels of its own
functions. -/
def sections : Outline → List (String × List String)
  | node label children => (label, functionLabels children) :: sectionsAll children

/-- The labels of the modules in several outlines. -/
def sectionsAll : List Outline → List (String × List String)
  | [] => []
  | child :: rest =>
    if child.isFunction then sectionsAll rest else sections child ++ sectionsAll rest

end

theorem sectionsAll_append (first second : List Outline) :
    sectionsAll (first ++ second) = sectionsAll first ++ sectionsAll second := by
  induction first with
  | nil => rfl
  | cons child rest ih =>
      rw [List.cons_append, sectionsAll, sectionsAll, ih]
      split
      · rfl
      · rw [List.append_assoc]

theorem functionLabels_append (first second : List Outline) :
    functionLabels (first ++ second) = functionLabels first ++ functionLabels second := by
  rw [functionLabels, List.filter_append, List.map_append]
  rfl

/-- Functions have no section of their own. -/
theorem sectionsAll_of_isFunction {outlines : List Outline}
    (h : ∀ outline ∈ outlines, outline.isFunction = true) :
    sectionsAll outlines = [] ∧ functionLabels outlines = outlines.map label := by
  constructor
  · induction outlines with
    | nil => rfl
    | cons child rest ih =>
        rw [List.forall_mem_cons] at h
        rw [sectionsAll, if_pos h.1, ih h.2]
  · rw [functionLabels, List.filter_eq_self.mpr h]

theorem sectionsAll_of_not_isFunction {outlines : List Outline}
    (h : ∀ outline ∈ outlines, outline.isFunction = false) :
    sectionsAll outlines = outlines.flatMap sections ∧ functionLabels outlines = [] := by
  constructor
  · induction outlines with
    | nil => rfl
    | cons child rest ih =>
        rw [List.forall_mem_cons] at h
        rw [sectionsAll, h.1, if_neg Bool.false_ne_true, ih h.2, List.flatMap_cons]
  · rw [functionLabels, List.map_eq_nil_iff, List.filter_eq_nil_iff]
    exact fun outline hOutline => by simp [h outline hOutline]

/-- Modules in front of functions: what is shown of each is kept apart. -/
theorem sections_node {label : String} {modules functions : List Outline}
    (hModules : ∀ outline ∈ modules, outline.isFunction = false)
    (hFunctions : ∀ outline ∈ functions, outline.isFunction = true) :
    (node label (modules ++ functions)).sections =
      (label, functions.map Outline.label) :: modules.flatMap sections := by
  obtain ⟨hNone, hLabels⟩ := sectionsAll_of_isFunction hFunctions
  obtain ⟨hSections, hNoLabels⟩ := sectionsAll_of_not_isFunction hModules
  rw [sections, functionLabels_append, sectionsAll_append, hNone, hLabels, hSections, hNoLabels,
    List.nil_append, List.append_nil]

end RoutePaths.Outline
