import RoutePaths.Proofs.Module.Names

/-! The statements of a module that bind names, read off its lines. A statement is
told by the word that its line starts with. Lines that are indented, and lines of
docstrings, start with none of these words. -/
namespace RoutePaths

/-- A statement at the margin, as far as it binds names. -/
inductive TopLevel where
  | importing (package? : Option String) (names : List String)
  | defining (name : String)
  | assigning (name : String)
  deriving DecidableEq, Repr

namespace TopLevel

/-- The pieces of a line between single spaces. -/
def pieces (line : String) : List String :=
  (line.toList.splitOn ' ').map String.ofList

/-- What stands between the first word and a bracket. -/
def definedName (lead line : String) : String :=
  String.ofList ((line.toList.drop (lead.length + 1)).takeWhile (· ≠ '('))

/-- The statement that a line starts, if it is one that binds names. -/
def read (line : String) : Option TopLevel :=
  match pieces line with
  | ["import", name] => some (.importing none [name])
  | "from" :: package :: "import" :: names =>
    some (.importing (some package) (names.map fun name => String.ofList (name.toList.filter (· ≠ ','))))
  | "class" :: _ => some (.defining (definedName "class" line))
  | "def" :: _ => some (.defining (definedName "def" line))
  | ["__all__", "=", "["] => some (.assigning "__all__")
  | _ => none

theorem pieces_append {word : String} (hWord : ' ' ∉ word.toList) (rest : String) :
    pieces (word ++ " " ++ rest) = word :: pieces rest := by
  have hText : (word ++ " " ++ rest).toList = word.toList ++ ' ' :: rest.toList := by
    rw [String.toList_append, String.toList_append, List.append_assoc]
    rfl
  rw [pieces, hText, List.splitOn_append_cons_self_of_not_mem hWord, List.map_cons,
    String.ofList_toList, pieces]

theorem pieces_eq_singleton {word : String} (hWord : ' ' ∉ word.toList) : pieces word = [word] := by
  rw [pieces, List.splitOn_eq_singleton hWord, List.map_singleton, String.ofList_toList]

theorem exists_eq_append_of_pieces {line word : String} {rest : List String}
    (h : pieces line = word :: rest) : ∃ more, line.toList = word.toList ++ more := by
  obtain ⟨first, others, hPieces⟩ := List.exists_cons_of_ne_nil (List.splitOn_ne_nil ' ' line.toList)
  have hWord : String.ofList first = word := by
    rw [pieces, hPieces, List.map_cons] at h
    exact (List.cons.inj h).1
  rw [← @List.intercalate_splitOn _ line.toList _ _ ' ', hPieces, ← hWord, String.toList_ofList]
  cases others with
  | nil => exact ⟨[], by simp⟩
  | cons second others => exact ⟨_, by rw [List.intercalate_cons_cons, List.append_assoc]⟩

/-- The words that statements start with. -/
def leads : List String :=
  ["import", "from", "class", "def", "__all__"]

theorem exists_lead_of_read {line : String} {statement : TopLevel}
    (h : read line = some statement) : ∃ lead ∈ leads, ∃ rest, pieces line = lead :: rest := by
  unfold read at h
  split at h
  · rename_i hPieces
    exact ⟨_, by decide, _, hPieces⟩
  · rename_i hPieces
    exact ⟨_, by decide, _, hPieces⟩
  · rename_i hPieces
    exact ⟨_, by decide, _, hPieces⟩
  · rename_i hPieces
    exact ⟨_, by decide, _, hPieces⟩
  · rename_i hPieces
    exact ⟨_, by decide, _, hPieces⟩
  · cases h

/-- The characters that other lines of a module start with. -/
def otherLeads : List Char :=
  ['"', 'G', 'r', ' ', ']', ')']

/-- A line that starts in another way binds nothing. -/
theorem read_eq_none {line : String} (h : ∀ c ∈ line.toList.head?, c ∈ otherLeads) :
    read line = none := by
  rw [Option.eq_none_iff_forall_ne_some]
  intro statement hRead
  obtain ⟨lead, hLead, rest, hPieces⟩ := exists_lead_of_read hRead
  obtain ⟨more, hLine⟩ := exists_eq_append_of_pieces hPieces
  have hAll : ∀ lead ∈ leads, ∃ c others, lead.toList = c :: others ∧ c ∉ otherLeads := by
    simp only [leads, List.forall_mem_cons]
    exact ⟨⟨'i', _, rfl, by decide⟩, ⟨'f', _, rfl, by decide⟩, ⟨'c', _, rfl, by decide⟩,
      ⟨'d', _, rfl, by decide⟩, ⟨'_', _, rfl, by decide⟩, by simp⟩
  obtain ⟨c, others, hChars, hOther⟩ := hAll lead hLead
  rw [hChars] at hLine
  refine hOther (h c ?_)
  rw [hLine]
  rfl

theorem definedName_eq (lead : String) {name : String} (hName : '(' ∉ name.toList) (rest : String) :
    definedName lead (lead ++ " " ++ name ++ "(" ++ rest) = name := by
  have hDrop : (lead ++ " " ++ name ++ "(" ++ rest).toList.drop (lead.length + 1) =
      name.toList ++ '(' :: rest.toList := by
    simp [← String.length_toList]
  have hAll : ∀ c ∈ name.toList, decide (c ≠ '(') = true := by
    intro c hc
    rw [decide_eq_true_eq]
    rintro rfl
    exact hName hc
  rw [definedName, hDrop, List.takeWhile_append_of_pos hAll, List.takeWhile_cons_of_neg (by decide),
    List.append_nil, String.ofList_toList]

theorem pieces_definition {lead : String} (hLead : ' ' ∉ lead.toList) (name rest : String) :
    pieces (lead ++ " " ++ name ++ "(" ++ rest) = lead :: pieces (name ++ "(" ++ rest) := by
  rw [← pieces_append hLead]
  simp only [String.append_assoc]

theorem read_class {name : String} (hName : '(' ∉ name.toList) (rest : String) :
    read ("class" ++ " " ++ name ++ "(" ++ rest) = some (.defining name) := by
  simp only [read, pieces_definition (by decide : ' ' ∉ "class".toList), definedName_eq _ hName]

theorem read_def {name : String} (hName : '(' ∉ name.toList) (rest : String) :
    read ("def" ++ " " ++ name ++ "(" ++ rest) = some (.defining name) := by
  simp only [read, pieces_definition (by decide : ' ' ∉ "def".toList), definedName_eq _ hName]

/-- The import statement for a child module. -/
def ofImport (binding : Import) : TopLevel :=
  .importing (if binding.packages = [] then none else some (".".intercalate binding.packages))
    [binding.name]

theorem read_import {binding : Import} (hName : ∀ c ∈ [' ', ','], c ∉ binding.name.toList)
    (hPackages : ∀ part ∈ binding.packages, ' ' ∉ part.toList) :
    read binding.line = some (ofImport binding) := by
  rw [List.forall_mem_cons, List.forall_mem_singleton] at hName
  have hComma : binding.name.toList.filter (· ≠ ',') = binding.name.toList := by
    rw [List.filter_eq_self]
    intro c hc
    rw [decide_eq_true_eq]
    rintro rfl
    exact hName.2 hc
  rw [Import.line, ofImport]
  split
  · have hPieces : pieces ("import " ++ binding.name) = ["import", binding.name] := by
      rw [show "import " = "import" ++ " " from rfl, pieces_append (by decide),
        pieces_eq_singleton hName.1]
    simp only [read, hPieces]
  · have hSpace : ' ' ∉ (".".intercalate binding.packages).toList := by
      intro hMem
      rw [String.toList_intercalate] at hMem
      refine Splitting.forall_mem_intercalate (p := (· ≠ ' '))
        (List.forall_mem_singleton.mpr (by decide)) ?_ ' ' hMem rfl
      rw [List.forall_mem_map]
      rintro part hPart c hc rfl
      exact hPackages part hPart hc
    have hLine : "from " ++ ".".intercalate binding.packages ++ " import " ++ binding.name =
        "from" ++ " " ++ (".".intercalate binding.packages ++ " " ++
          ("import" ++ " " ++ binding.name)) := by
      simp [← String.toList_inj]
    have hPieces : pieces ("from " ++ ".".intercalate binding.packages ++ " import " ++
        binding.name) = ["from", ".".intercalate binding.packages, "import", binding.name] := by
      rw [hLine, pieces_append (by decide), pieces_append hSpace, pieces_append (by decide),
        pieces_eq_singleton hName.1]
    simp only [read, hPieces, List.map_singleton, hComma, String.ofList_toList]

/-- Indented lines bind nothing. -/
theorem read_indented (line : String) : read ("    " ++ line) = none := by
  apply read_eq_none
  rw [String.toList_append]
  simp [otherLeads]

theorem filterMap_read_indented {α : Type} (items : List α) (line : α → String) :
    (items.map fun item => "    " ++ line item).filterMap read = [] := by
  rw [List.filterMap_eq_nil_iff, List.forall_mem_map]
  exact fun item _ => read_indented (line item)

theorem read_empty : read "" = none := by
  decide

theorem read_quoted (line : String) : read (Function.docQuote ++ line) = none := by
  apply read_eq_none
  rw [String.toList_append]
  simp [Function.docQuote, otherLeads]

end TopLevel

open TopLevel

namespace Function

theorem filterMap_read_classLines {function : Function}
    (hClass : ∀ name ∈ function.paramsClass?, '(' ∉ name.toList) :
    function.classLines.filterMap TopLevel.read =
      function.paramsClass?.toList.map .defining := by
  rw [classLines]
  cases hName : function.paramsClass? with
  | none => rfl
  | some name =>
      have hLine : TopLevel.read ("class " ++ name ++ "(TypedDict):") = some (.defining name) := by
        rw [← read_class (hClass name hName) "TypedDict):"]
        simp only [String.append_assoc]
        rfl
      simp only [List.filterMap_append, List.filterMap_cons, List.filterMap_nil, read_empty, hLine,
        filterMap_read_indented, Option.toList_some, List.map_cons, List.map_nil, List.append_nil]

theorem filterMap_read_signature {name : String} (hName : '(' ∉ name.toList)
    (parameters : List Parameter) :
    (signature name parameters).filterMap TopLevel.read = [.defining name] := by
  have hLine (rest : String) :
      TopLevel.read ("def " ++ name ++ "(" ++ rest) = some (.defining name) :=
    read_def hName rest
  rw [signature]
  split
  · rw [String.append_assoc, List.filterMap_cons, hLine]
    rfl
  · have hOpen := hLine ""
    rw [String.append_empty] at hOpen
    have hClose : TopLevel.read ") -> str:" = none := by decide
    have hItems : ((Parameter.items parameters).map fun item =>
        "    " ++ item ++ ",").filterMap TopLevel.read = [] := by
      simp only [String.append_assoc, filterMap_read_indented]
    simp only [List.filterMap_append, List.filterMap_cons, List.filterMap_nil, hOpen, hClose, hItems,
      List.append_nil]

/-- Docstrings and bodies are indented. -/
theorem filterMap_read_docLines (function : Function) :
    function.docLines.filterMap TopLevel.read = [] := by
  simp only [docLines, List.filterMap_append, List.filterMap_cons, List.filterMap_nil, read_empty,
    String.append_assoc, read_indented, filterMap_read_indented, List.append_nil]

/-- A function is written as the class of its parameters and its own definition. -/
theorem filterMap_read_lines {function : Function}
    (hNames : ∀ name ∈ function.exports, '(' ∉ name.toList) :
    function.lines.filterMap TopLevel.read = function.exports.map .defining := by
  rw [exports, List.forall_mem_append, List.forall_mem_singleton] at hNames
  have hClass : ∀ name ∈ function.paramsClass?, '(' ∉ name.toList :=
    fun name hName => hNames.1 name (Option.mem_toList.mpr hName)
  have hBody : ((bodyLines function.body).map ("    " ++ ·)).filterMap TopLevel.read = [] :=
    filterMap_read_indented (bodyLines function.body) id
  simp only [lines, exports, List.filterMap_append, filterMap_read_classLines hClass,
    filterMap_read_signature hNames.2, filterMap_read_docLines, hBody,
    List.filterMap_cons, List.filterMap_nil, read_empty, List.map_append, List.map_cons,
    List.map_nil, List.append_nil]

end Function

namespace Module

/-- The statements that bind names, in the order of the lines. -/
def statements (module : Module) : List TopLevel :=
  module.lines.filterMap TopLevel.read

/-- The imports of names that are defined elsewhere. -/
def libraryStatements (module : Module) : List TopLevel :=
  if module.hasParameters then
    [.importing (some "typing")
        (if module.hasOptional then ["NotRequired", "TypedDict"] else ["TypedDict"]),
      .importing (some "urllib.parse") ["quote"]]
  else []

theorem filterMap_read_headLines (module : Module) :
    module.headLines.filterMap TopLevel.read = [.importing (some "__future__") ["annotations"]] := by
  have hFirst : TopLevel.read (Function.docQuote ++ "Path helpers for " ++ code module.dotted ++ ".") =
      none := by
    simp only [String.append_assoc, read_quoted]
  have hRest : ["", "Generated by railpath from a " ++ code "rails routes" ++
        " table. Do not edit by hand;", "run " ++ code "railpath generate" ++ " instead.",
      Function.docQuote, "", "from __future__ import annotations"].filterMap TopLevel.read =
        [.importing (some "__future__") ["annotations"]] := by
    decide
  rw [headLines, List.filterMap_cons, hFirst]
  exact hRest

theorem filterMap_read_libraryLines (module : Module) :
    module.libraryLines.filterMap TopLevel.read = module.libraryStatements := by
  rw [libraryLines, libraryStatements]
  split
  · split <;> decide
  · rfl

theorem filterMap_read_childLines {module : Module}
    (hImports : ∀ binding ∈ module.imports, (∀ c ∈ [' ', ','], c ∉ binding.name.toList) ∧
      ∀ part ∈ binding.packages, ' ' ∉ part.toList) :
    module.childLines.filterMap TopLevel.read = module.imports.map ofImport := by
  have hLines : (module.imports.map (·.line)).filterMap TopLevel.read = module.imports.map ofImport := by
    rw [List.filterMap_map, ← List.filterMap_eq_map]
    apply List.filterMap_congr
    intro binding hBinding
    exact read_import (hImports binding hBinding).1 (hImports binding hBinding).2
  rw [childLines]
  split
  · rename_i hNone
    rw [List.isEmpty_iff.mp hNone]
    rfl
  · rw [List.filterMap_cons, read_empty]
    exact hLines

theorem filterMap_read_exportLines (module : Module) :
    module.exportLines.filterMap TopLevel.read = [.assigning "__all__"] := by
  have hLine (name : String) :
      "    \"" ++ name ++ "\"," = "    " ++ ("\"" ++ name ++ "\",") := by
    simp [← String.toList_inj]
  have hNames : (module.exports.map fun name =>
      "    \"" ++ name ++ "\",").filterMap TopLevel.read = [] := by
    simp only [hLine, filterMap_read_indented]
  have hOpen : ["", "__all__ = ["].filterMap TopLevel.read = [.assigning "__all__"] := by decide
  have hClose : ["]"].filterMap TopLevel.read = [] := by decide
  rw [exportLines, List.filterMap_append, List.filterMap_append, hOpen, hNames, hClose]
  rfl

theorem filterMap_read_escapeLines (module : Module) :
    module.escapeLines.filterMap TopLevel.read =
      if module.hasParameters then [.defining "_escape"] else [] := by
  rw [escapeLines]
  split
  · decide
  · rfl

/-- The statements of a module: imports of library names and of child modules, the
list of offered names, the helper, and what functions define. -/
theorem statements_eq {module : Module}
    (hImports : ∀ binding ∈ module.imports, (∀ c ∈ [' ', ','], c ∉ binding.name.toList) ∧
      ∀ part ∈ binding.packages, ' ' ∉ part.toList)
    (hNames : ∀ function ∈ module.functions, ∀ name ∈ function.exports, '(' ∉ name.toList) :
    module.statements =
      [.importing (some "__future__") ["annotations"]] ++ module.libraryStatements ++
        module.imports.map ofImport ++ [.assigning "__all__"] ++
        (if module.hasParameters then [.defining "_escape"] else []) ++
        module.functions.flatMap fun function => function.exports.map .defining := by
  have hFunctions : (module.functions.flatMap (·.lines)).filterMap TopLevel.read =
      module.functions.flatMap fun function => function.exports.map .defining := by
    rw [List.filterMap_flatMap]
    exact List.flatMap_congr fun function hFunction =>
      Function.filterMap_read_lines (hNames function hFunction)
  simp only [statements, lines, List.filterMap_append, filterMap_read_headLines,
    filterMap_read_libraryLines, filterMap_read_childLines hImports, filterMap_read_exportLines,
    filterMap_read_escapeLines, hFunctions]

end Module

namespace Branch

variable {layout : Layout} {branch : Branch}

/-- What stands in the text of a module are the statements for its content, provided
that the layout is made of legal names. -/
theorem statements_contents (hLegal : layout.IsLegal) :
    (branch.contents layout).statements =
      [.importing (some "__future__") ["annotations"]] ++
        (branch.contents layout).libraryStatements ++
        (branch.contents layout).imports.map TopLevel.ofImport ++ [.assigning "__all__"] ++
        (if (branch.contents layout).hasParameters then [.defining "_escape"] else []) ++
        branch.functions.flatMap fun function => function.exports.map .defining := by
  have hOther : ∀ c ∈ [' ', ','], Text.isIdentifierChar c = false :=
    List.forall_mem_cons.mpr ⟨by decide, List.forall_mem_singleton.mpr (by decide)⟩
  refine Module.statements_eq ?_ ?_
  · intro binding hBinding
    obtain ⟨child, -, rfl⟩ := List.mem_map.mp hBinding
    have hParts := hLegal.isIdentifier child
    refine ⟨fun c hc => ?_, fun part hPart => ?_⟩
    · exact Text.not_mem_of_isIdentifier (hParts _ (layout.name_mem_qualified child)) (hOther c hc)
    · exact Text.not_mem_of_isIdentifier (hParts part (List.dropLast_subset _ hPart)) (by decide)
  · intro function hFunction name hName
    exact Text.not_mem_of_isIdentifier
      (Name.isIdentifier_of_isLegal (isLegal_of_mem_exports hFunction name hName)) (by decide)

end Branch

end RoutePaths
