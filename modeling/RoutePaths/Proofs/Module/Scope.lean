import RoutePaths.Proofs.Function.Scope
import RoutePaths.Proofs.Module.TopLevel

/-! The names that a generated module binds and uses. Library names and the helper are
bound exactly where a function needs them, nothing else has their names, and what a
module offers is what it binds beside them. Like the statements of a module, all this
is read off its lines. -/
namespace RoutePaths

namespace TopLevel

/-- The names that a statement binds. -/
def names : TopLevel → List String
  | .importing _ names => names
  | .defining name => [name]
  | .assigning name => [name]

/-- The name in an entry of the list of offered names. -/
def entryName (line : String) : String :=
  String.ofList (line.toList.drop 5).dropLast.dropLast

/-- The entries of the list of offered names, which stands between two lines of its
own. -/
def offered (lines : List String) : List String :=
  ((lines.dropWhile (· ≠ "__all__ = [")).tail.takeWhile (· ≠ "]")).map entryName

theorem entryName_eq (name : String) : entryName ("    \"" ++ name ++ "\",") = name := by
  have hDrop : ("    \"" ++ name ++ "\",").toList.drop 5 = name.toList ++ ['"', ','] := by simp
  rw [entryName, hDrop]
  simp

end TopLevel

namespace Module

/-- Some function has a dynamic segment. -/
def HasValues (module : Module) : Prop :=
  ∃ function ∈ module.functions, Segment.names function.route.segments ≠ []

/-- Some field of a class may be missing. -/
def HasOptionalField (module : Module) : Prop :=
  ∃ function ∈ module.functions, ∃ line ∈ function.classLines,
    "NotRequired[".toList <:+: line.toList

/-- The statements bind each library name, and the helper, exactly if it is needed. -/
structure BindsAsNeeded (module : Module) (statements : List TopLevel) : Prop where
  quote : .importing (some "urllib.parse") ["quote"] ∈ statements ↔ module.HasValues
  escape : .defining "_escape" ∈ statements ↔ module.HasValues
  typedDict : (∃ names, .importing (some "typing") names ∈ statements ∧ "TypedDict" ∈ names) ↔
    module.HasValues
  notRequired : (∃ names, .importing (some "typing") names ∈ statements ∧ "NotRequired" ∈ names) ↔
    module.HasOptionalField

/-- The section of library imports and that of the helper. -/
def helperStatements (module : Module) : List TopLevel :=
  (module.libraryLines ++ module.escapeLines).filterMap TopLevel.read

theorem helperStatements_eq (module : Module) :
    module.helperStatements =
      module.libraryStatements ++ if module.hasParameters then [.defining "_escape"] else [] := by
  rw [helperStatements, List.filterMap_append, filterMap_read_libraryLines,
    filterMap_read_escapeLines]

/-- The flags of a module decide what its helper statements are. -/
theorem bindsAsNeeded_of_flags {module : Module}
    (hValues : module.hasParameters = true ↔ module.HasValues)
    (hOptional : module.hasOptional = true ↔ module.HasOptionalField)
    (hBoth : module.hasOptional = true → module.hasParameters = true) :
    module.BindsAsNeeded module.helperStatements := by
  have hStatements := module.helperStatements_eq
  rw [libraryStatements] at hStatements
  rw [hStatements]
  cases hParameters : module.hasParameters with
  | false =>
      have hNone : module.hasOptional ≠ true := by
        intro hSome
        rw [hBoth hSome] at hParameters
        cases hParameters
      rw [hParameters] at hValues
      constructor
      · simpa using hValues
      · simpa using hValues
      · simpa using hValues
      · simpa using hNone.imp hOptional.mpr
  | true =>
      rw [hParameters] at hValues
      constructor
      · simpa using hValues
      · simpa using hValues
      · cases module.hasOptional <;> simpa using hValues
      · rw [← hOptional]
        cases module.hasOptional <;> simp

end Module

namespace Function

theorem isEmpty_parameters_iff {branch : Branch} {function : Function}
    (hFunction : function ∈ branch.functions) :
    function.parameters.isEmpty = true ↔ Segment.names function.route.segments = [] := by
  rw [(Branch.fields_of_mem_functions hFunction).2.1, List.isEmpty_iff, parametersOf_eq_nil_iff]

/-- The field for a parameter is marked if and only if the parameter is optional. The
mark is the only part of a field with a bracket in it. -/
theorem isInfix_field_iff {parameter : Parameter} (hName : '[' ∉ parameter.name.toList) :
    "NotRequired[".toList <:+: ("    " ++ parameter.field).toList ↔ parameter.optional = true := by
  rw [Parameter.field]
  cases hOptional : parameter.optional with
  | true =>
      refine iff_of_true ?_ rfl
      refine ⟨"    ".toList ++ parameter.name.toList ++ ": ".toList, "str | int]".toList, ?_⟩
      simp [valueType]
  | false =>
      refine iff_of_false ?_ Bool.false_ne_true
      intro hInfix
      have hBracket : '[' ∈ ("    " ++ (parameter.name ++ ": " ++ valueType)).toList :=
        hInfix.subset (by decide)
      simp [valueType, hName] at hBracket

/-- A class has a field that may be missing exactly if a parameter is optional. -/
theorem hasOptional_iff {branch : Branch} {function : Function}
    (hFunction : function ∈ branch.functions) :
    function.hasOptional = true ↔
      ∃ line ∈ function.classLines, "NotRequired[".toList <:+: line.toList := by
  have hParameters : ∀ parameter ∈ function.parameters, '[' ∉ parameter.name.toList := by
    rw [(Branch.fields_of_mem_functions hFunction).2.1]
    intro parameter hParameter
    have hLegal := isLegal_of_mem_parametersOf parameter hParameter
    exact Text.not_mem_of_isIdentifier (Name.isIdentifier_of_isLegal hLegal) (by decide)
  rw [hasOptional, List.any_eq_true, classLines]
  cases hClass : function.paramsClass? with
  | none =>
      have hNone : function.parameters = [] := by
        rw [paramsClass?] at hClass
        split at hClass
        · exact List.isEmpty_iff.mp ‹_›
        · cases hClass
      simp [hNone]
  | some name =>
      have hName : '[' ∉ name.toList :=
        Text.not_mem_of_isIdentifier
          (Name.isIdentifier_of_isLegal (isLegal_of_mem_paramsClass? name hClass)) (by decide)
      constructor
      · rintro ⟨parameter, hParameter, hOptional⟩
        refine ⟨"    " ++ parameter.field, ?_, ?_⟩
        · exact List.mem_append_right _ (List.mem_map.mpr ⟨parameter, hParameter, rfl⟩)
        · exact (isInfix_field_iff (hParameters parameter hParameter)).mpr hOptional
      · rintro ⟨line, hLine, hInfix⟩
        rcases List.mem_append.mp hLine with hOther | hField
        · have hBracket : '[' ∈ line.toList := hInfix.subset (by decide)
          simp only [List.mem_cons, List.not_mem_nil, or_false] at hOther
          rcases hOther with rfl | rfl | rfl
          · cases hBracket
          · cases hBracket
          · simp [hName] at hBracket
        · obtain ⟨parameter, hParameter, rfl⟩ := List.mem_map.mp hField
          exact ⟨parameter, hParameter,
            (isInfix_field_iff (hParameters parameter hParameter)).mp hInfix⟩

end Function

namespace Branch

variable {layout : Layout} {branch : Branch}

theorem bindsAsNeeded_helperStatements (layout : Layout) (branch : Branch) :
    (branch.contents layout).BindsAsNeeded (branch.contents layout).helperStatements := by
  apply Module.bindsAsNeeded_of_flags
  · rw [Module.hasParameters, List.any_eq_true]
    refine exists_congr fun function => and_congr_right fun hFunction => ?_
    rw [ne_eq, ← Function.isEmpty_parameters_iff hFunction, Bool.not_eq_true', Bool.not_eq_true]
  · rw [Module.hasOptional, List.any_eq_true]
    exact exists_congr fun function => and_congr_right fun hFunction =>
      Function.hasOptional_iff hFunction
  · rw [Module.hasOptional, Module.hasParameters, List.any_eq_true, List.any_eq_true]
    rintro ⟨function, hFunction, hOptional⟩
    refine ⟨function, hFunction, ?_⟩
    rw [Function.hasOptional, List.any_eq_true] at hOptional
    obtain ⟨parameter, hParameter, -⟩ := hOptional
    simpa using List.ne_nil_of_mem hParameter

/-- No parameter has a reserved name either. -/
theorem not_mem_reserved_of_mem_functions {function : Function}
    (hFunction : function ∈ branch.functions) :
    ∀ parameter ∈ function.parameters, parameter.name ∉ Name.reserved := by
  rw [(fields_of_mem_functions hFunction).2.1]
  intro parameter hParameter hReserved
  obtain ⟨name, hName⟩ := Function.exists_parameterName hParameter
  have hFree := Function.isTaken_parameterName name
  rw [hName, Name.isTaken, Bool.or_eq_false_iff] at hFree
  simp [hReserved] at hFree

end Branch

namespace Module

theorem not_mem_headLines (module : Module) : "__all__ = [" ∉ module.headLines := by
  have hRest : "__all__ = [" ∉ ["", "Generated by railpath from a " ++ code "rails routes" ++
      " table. Do not edit by hand;", "run " ++ code "railpath generate" ++ " instead.",
      Function.docQuote, "", "from __future__ import annotations"] := by
    decide
  have hFirst : "__all__ = [" ≠
      Function.docQuote ++ "Path helpers for " ++ code module.dotted ++ "." := by
    simp [← String.toList_inj, Function.docQuote]
  exact List.not_mem_cons_of_ne_of_not_mem hFirst hRest

theorem not_mem_libraryLines (module : Module) : "__all__ = [" ∉ module.libraryLines := by
  rw [libraryLines]
  split
  · split <;> decide
  · exact List.not_mem_nil

theorem not_mem_childLines (module : Module) : "__all__ = [" ∉ module.childLines := by
  have hImports : "__all__ = [" ∉ module.imports.map (·.line) := by
    intro hMem
    obtain ⟨binding, -, hLine⟩ := List.mem_map.mp hMem
    rw [Import.line] at hLine
    split at hLine <;> simp [← String.toList_inj] at hLine
  rw [childLines]
  split
  · exact List.not_mem_nil
  · exact List.not_mem_cons_of_ne_of_not_mem (by decide) hImports

/-- The list of offered names is the first thing of its kind in a module. -/
theorem offered_lines (module : Module) : TopLevel.offered module.lines = module.exports := by
  have hBefore : ∀ line ∈ module.headLines ++ module.libraryLines ++ module.childLines ++ [""],
      decide (line ≠ "__all__ = [") = true := by
    intro line hLine
    rw [decide_eq_true_eq]
    rintro rfl
    simp only [List.mem_append, not_mem_headLines, not_mem_libraryLines, not_mem_childLines,
      false_or] at hLine
    exact absurd hLine (by decide)
  have hEntries : ∀ line ∈ module.exports.map (fun name => "    \"" ++ name ++ "\","),
      decide (line ≠ "]") = true := by
    rw [List.forall_mem_map]
    intro name _
    simp [← String.toList_inj]
  have hLines : module.lines =
      (module.headLines ++ module.libraryLines ++ module.childLines ++ [""]) ++
        "__all__ = [" :: (module.exports.map (fun name => "    \"" ++ name ++ "\",") ++
          "]" :: (module.escapeLines ++ module.functions.flatMap (·.lines))) := by
    simp only [lines, exportLines, List.append_assoc, List.cons_append, List.nil_append]
  rw [TopLevel.offered, hLines, List.dropWhile_append_of_pos hBefore,
    List.dropWhile_cons_of_neg (by decide), List.tail_cons, List.takeWhile_append_of_pos hEntries,
    List.takeWhile_cons_of_neg (by decide), List.append_nil, List.map_map]
  exact List.map_id'' TopLevel.entryName_eq _

/-- The names of library imports and of the helper. -/
def helperNames : List String :=
  ["quote", "_escape", "TypedDict", "NotRequired"]

/-- Only the statements that bind such a name count. -/
theorem BindsAsNeeded.of_mem_iff {module : Module} {first second : List TopLevel}
    (h : module.BindsAsNeeded first)
    (hSame : ∀ statement, (∃ name ∈ statement.names, name ∈ helperNames) →
      (statement ∈ second ↔ statement ∈ first)) : module.BindsAsNeeded second where
  quote := by
    rw [hSame _ ⟨"quote", List.mem_singleton_self _, by decide⟩]
    exact h.quote
  escape := by
    rw [hSame _ ⟨"_escape", List.mem_singleton_self _, by decide⟩]
    exact h.escape
  typedDict := by
    rw [← h.typedDict]
    exact exists_congr fun names => and_congr_left fun hName =>
      hSame _ ⟨"TypedDict", hName, by decide⟩
  notRequired := by
    rw [← h.notRequired]
    exact exists_congr fun names => and_congr_left fun hName =>
      hSame _ ⟨"NotRequired", hName, by decide⟩

end Module

namespace Branch

variable {layout : Layout} {branch : Branch}

/-- What a module binds for its children and functions is what it offers. -/
theorem exports_contents (layout : Layout) (branch : Branch) :
    ((branch.contents layout).imports.map TopLevel.ofImport).flatMap TopLevel.names ++
        (branch.functions.flatMap fun function =>
          function.exports.map TopLevel.defining).flatMap TopLevel.names =
      (branch.contents layout).exports := by
  have hFunction (function : Function) :
      (function.exports.map TopLevel.defining).flatMap TopLevel.names = function.exports := by
    rw [List.flatMap_map]
    exact List.flatMap_singleton' _
  have hImports : ((branch.contents layout).imports.map TopLevel.ofImport).flatMap TopLevel.names =
      (branch.contents layout).imports.map (·.name) := by
    rw [List.flatMap_map, List.map_eq_flatMap]
    rfl
  rw [List.flatMap_assoc, hImports]
  simp only [hFunction, Module.exports]
  rfl

theorem not_mem_reserved_of_mem_exports (hFree : ¬ branch.Collides layout) {name : String}
    (hName : name ∈ (branch.contents layout).exports) : name ∉ Name.reserved := by
  intro hReserved
  exact (List.nodup_append'.mp (nodup_reserved_append_exports hFree)).2.2 hReserved hName

/-- In the whole text, too, the helpers are bound as they are needed. -/
theorem bindsAsNeeded_statements (hLegal : layout.IsLegal) (hFree : ¬ branch.Collides layout) :
    (branch.contents layout).BindsAsNeeded (branch.contents layout).statements := by
  refine (bindsAsNeeded_helperStatements layout branch).of_mem_iff fun statement hStatement => ?_
  obtain ⟨name, hName, hHelper⟩ := hStatement
  have hReserved : name ∈ Name.reserved := by
    have hAll : ∀ name ∈ Module.helperNames, name ∈ Name.reserved := by decide
    exact hAll name hHelper
  have hOffered : statement ∉ (branch.contents layout).imports.map TopLevel.ofImport ∧
      statement ∉ branch.functions.flatMap fun function => function.exports.map TopLevel.defining := by
    rw [← not_or, ← List.mem_append]
    intro hMem
    refine not_mem_reserved_of_mem_exports hFree ?_ hReserved
    rw [← exports_contents layout branch, ← List.flatMap_append]
    exact List.mem_flatMap.mpr ⟨statement, hMem, hName⟩
  have hFuture : statement ≠ .importing (some "__future__") ["annotations"] := by
    rintro rfl
    rw [List.mem_singleton.mp hName] at hHelper
    exact absurd hHelper (by decide)
  have hAll : statement ≠ .assigning "__all__" := by
    rintro rfl
    rw [List.mem_singleton.mp hName] at hHelper
    exact absurd hHelper (by decide)
  rw [statements_contents hLegal, Module.helperStatements_eq]
  simp only [List.mem_append, List.mem_singleton, hFuture, hAll, hOffered.1, hOffered.2, or_false,
    false_or]

/-- The names that a module binds for itself are all reserved. -/
theorem names_own (module : Module) :
    (["annotations"] ++ module.libraryStatements.flatMap TopLevel.names ++ (["__all__"] ++
        (if module.hasParameters then [.defining "_escape"] else []).flatMap TopLevel.names)).Nodup ∧
      ∀ name ∈ ["annotations"] ++ module.libraryStatements.flatMap TopLevel.names ++ (["__all__"] ++
        (if module.hasParameters then [.defining "_escape"] else []).flatMap TopLevel.names),
        name ∈ Name.reserved := by
  rw [Module.libraryStatements]
  cases module.hasParameters <;> cases module.hasOptional <;> decide

/-- Reserved names can be put around names that are not reserved, and be told from
them. -/
theorem nodup_and_filter_of_reserved {reserved front imported back defined : List String}
    (hOwn : (front ++ back).Nodup) (hReserved : ∀ name ∈ front ++ back, name ∈ reserved)
    (hOffered : (reserved ++ (imported ++ defined)).Nodup) :
    (front ++ imported ++ back ++ defined).Nodup ∧
      (front ++ imported ++ back ++ defined).filter (· ∉ reserved) = imported ++ defined := by
  obtain ⟨-, hNodup, hDisjoint⟩ := List.nodup_append'.mp hOffered
  have hOther : ∀ name ∈ imported ++ defined, name ∉ reserved :=
    fun name hName hMem => hDisjoint hMem hName
  constructor
  · have hPerm : (front ++ imported ++ back ++ defined).Perm
        ((front ++ back) ++ (imported ++ defined)) := by
      rw [List.append_assoc, List.append_assoc, List.append_assoc]
      exact (List.perm_append_comm_assoc imported back defined).append_left front
    rw [hPerm.nodup_iff, List.nodup_append']
    exact ⟨hOwn, hNodup, fun name hName hMem => hOther name hMem (hReserved name hName)⟩
  · have hNone {part : List String} (hPart : ∀ name ∈ part, name ∈ reserved) :
        part.filter (· ∉ reserved) = [] := by
      rw [List.filter_eq_nil_iff]
      simpa using hPart
    have hSelf {part : List String} (hPart : ∀ name ∈ part, name ∉ reserved) :
        part.filter (· ∉ reserved) = part := by
      rw [List.filter_eq_self]
      exact fun name hName => decide_eq_true (hPart name hName)
    rw [List.forall_mem_append] at hReserved hOther
    rw [List.filter_append, List.filter_append, List.filter_append, hNone hReserved.1,
      hNone hReserved.2, hSelf hOther.1, hSelf hOther.2, List.nil_append, List.append_nil]

/-- The names that a module binds are different from each other, and what it offers
are those that are not reserved. -/
theorem names_statements (hLegal : layout.IsLegal) (hFree : ¬ branch.Collides layout) :
    ((branch.contents layout).statements.flatMap TopLevel.names).Nodup ∧
      ((branch.contents layout).statements.flatMap TopLevel.names).filter (· ∉ Name.reserved) =
        (branch.contents layout).exports := by
  obtain ⟨hOwn, hReserved⟩ := names_own (branch.contents layout)
  have hOffered := nodup_reserved_append_exports hFree
  rw [← exports_contents] at hOffered ⊢
  have hNames : (branch.contents layout).statements.flatMap TopLevel.names =
      ["annotations"] ++ (branch.contents layout).libraryStatements.flatMap TopLevel.names ++
        ((branch.contents layout).imports.map TopLevel.ofImport).flatMap TopLevel.names ++
        (["__all__"] ++ (if (branch.contents layout).hasParameters then [.defining "_escape"]
          else []).flatMap TopLevel.names) ++
        (branch.functions.flatMap fun function =>
          function.exports.map TopLevel.defining).flatMap TopLevel.names := by
    rw [statements_contents hLegal]
    simp only [List.flatMap_append, List.append_assoc]
    rfl
  rw [hNames]
  exact nodup_and_filter_of_reserved hOwn hReserved hOffered

end Branch

/-- A module that is closed. It imports library names and defines the helper exactly if
it needs them, bodies of functions evaluate nothing but the helper and their own
parameters, nothing takes the name of what the module needs, and each name that it
offers is offered once. -/
structure Module.IsClosed (module : Module) : Prop where
  needed : module.BindsAsNeeded module.helperStatements
  bodies : ∀ function ∈ module.functions, ∃ expression,
    Statement.returned? (Function.bodyLines function.body) = some expression ∧
      ∀ name ∈ expression.names,
        name = "_escape" ∨ name ∈ function.parameters.map (·.name)
  unshadowed : ∀ name ∈ module.imports.map (·.name) ++
    module.functions.flatMap (fun function => function.paramsClass?.toList ++ [function.name] ++
      function.parameters.map (·.name)), name ∉ Name.reserved
  offered : TopLevel.offered module.lines = module.imports.map (·.name) ++
    module.functions.flatMap fun function => function.paramsClass?.toList ++ [function.name]
  once : (TopLevel.offered module.lines).Nodup

/-- The same of the text of a module as a whole: there is no other statement that binds
a helper, no name is bound twice, and what is bound beside the reserved names is what
is offered. -/
structure Module.IsClosedAsText (module : Module) : Prop where
  needed : module.BindsAsNeeded module.statements
  once : (module.statements.flatMap TopLevel.names).Nodup
  offered : (module.statements.flatMap TopLevel.names).filter (· ∉ Name.reserved) =
    TopLevel.offered module.lines

namespace Branch

variable {layout : Layout} {branch : Branch}

theorem isClosed_contents (hFree : ¬ branch.Collides layout) :
    (branch.contents layout).IsClosed where
  needed := bindsAsNeeded_helperStatements layout branch
  bodies := by
    intro function hFunction
    obtain ⟨-, hParameters, hBody⟩ := fields_of_mem_functions hFunction
    rw [hBody, hParameters, Function.map_name_parametersOf]
    exact Function.exists_returned function.route.segments
  unshadowed := by
    intro name hName
    rcases List.mem_append.mp hName with hImport | hDefined
    · exact not_mem_reserved_of_mem_exports hFree (List.mem_append_left _ hImport)
    · obtain ⟨function, hFunction, hOwn⟩ := List.mem_flatMap.mp hDefined
      rcases List.mem_append.mp hOwn with hExported | hParameter
      · exact not_mem_reserved_of_mem_exports hFree
          (List.mem_append_right _ (List.mem_flatMap.mpr ⟨function, hFunction, hExported⟩))
      · obtain ⟨parameter, hMem, rfl⟩ := List.mem_map.mp hParameter
        exact not_mem_reserved_of_mem_functions hFunction parameter hMem
  offered := Module.offered_lines _
  once := by
    rw [Module.offered_lines]
    exact (List.nodup_append'.mp (nodup_reserved_append_exports hFree)).2.1

theorem isClosedAsText_contents (hLegal : layout.IsLegal) (hFree : ¬ branch.Collides layout) :
    (branch.contents layout).IsClosedAsText where
  needed := bindsAsNeeded_statements hLegal hFree
  once := (names_statements hLegal hFree).1
  offered := by
    rw [Module.offered_lines]
    exact (names_statements hLegal hFree).2

end Branch

namespace ModuleTree

/-- Routes with values and without, and a child module. -/
def reportTree : ModuleTree :=
  ⟨⟨["myapp"], "Routes"⟩,
    .node []
      [⟨"reports", "GET", "/reports(.:format)", [.literal "reports", .dynamic "format" true "."],
        "reports#index", 2, false⟩,
        ⟨"class", "GET", "/classes/:str", [.literal "classes", .dynamic "str" false "/"],
          "classes#show", 3, false⟩,
        ⟨"health", "GET", "/health", [.literal "health"], "health#show", 4, false⟩]
      [.node ["admin"] [⟨"admin", "GET", "/admin", [.literal "admin"], "admin/home#show", 5, false⟩]
        []]⟩

end ModuleTree

end RoutePaths
