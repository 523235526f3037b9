import RoutePaths.Proofs.Module.Documentation

/-! The names in a module. What functions define has legal names, and so have the
packages. The names of child modules are identifiers at least. -/
namespace RoutePaths

namespace Module

/-- The names in the import statements for child modules. -/
def importedNames (module : Module) : List String :=
  module.imports.flatMap fun binding => binding.packages ++ [binding.name]

/-- The names of classes, functions and parameters. The fields of a class have the
names of the parameters. -/
def definedNames (module : Module) : List String :=
  module.functions.flatMap fun function => function.exports ++ function.parameters.map (·.name)

end Module

namespace Function

theorem isLegal_nameFor (parts : List String) (routeName : String) :
    Name.isLegal (nameFor parts routeName) = true :=
  Name.isLegal_sanitize _ (by decide)

theorem isLegal_of_mem_paramsClass? {function : Function} :
    ∀ name ∈ function.paramsClass?, Name.isLegal name = true := by
  intro name hName
  rw [paramsClass?] at hName
  split at hName
  · exact absurd hName (Option.not_mem_none name)
  · rw [← Option.some.inj hName]
    exact Name.isLegal_pascal_append_params _

theorem isLegal_of_mem_parametersOf {segments : List Segment} :
    ∀ parameter ∈ parametersOf segments, Name.isLegal parameter.name = true := by
  intro parameter hParameter
  obtain ⟨name, hName⟩ := exists_parameterName hParameter
  rw [← hName]
  exact Name.isLegal_sanitize name (by decide)

end Function

namespace Branch

/-- A function has its name, its parameters and its body from its first route. -/
theorem fields_of_mem_functions {branch : Branch} {function : Function}
    (hFunction : function ∈ branch.functions) :
    function.name = branch.functionName function.route ∧
      function.parameters = Function.parametersOf function.route.segments ∧
      function.body = Function.bodyOf function.route.segments := by
  obtain ⟨first, -, hFirst⟩ := mem_functions_iff.mp hFunction
  refine ⟨?_, ?_, ?_⟩
  · rw [← hFirst, Function.forGroup, RouteGroup.ofFirst]
  · rw [← hFirst, Function.forGroup]
  · rw [← hFirst, Function.forGroup]

theorem isLegal_of_mem_exports {branch : Branch} {function : Function}
    (hFunction : function ∈ branch.functions) :
    ∀ name ∈ function.exports, Name.isLegal name = true := by
  intro name hName
  rw [Function.exports, List.mem_append, List.mem_singleton] at hName
  rcases hName with hClass | hOwn
  · exact Function.isLegal_of_mem_paramsClass? name (Option.mem_toList.mp hClass)
  · rw [hOwn, (fields_of_mem_functions hFunction).1]
    exact Function.isLegal_nameFor _ _

/-- What is defined in a module has a legal name. -/
theorem isLegal_of_mem_definedNames (layout : Layout) (branch : Branch) :
    ∀ name ∈ (branch.contents layout).definedNames, Name.isLegal name = true := by
  intro name hName
  obtain ⟨function, hFunction, hName⟩ := List.mem_flatMap.mp hName
  rcases List.mem_append.mp hName with hExported | hParameter
  · exact isLegal_of_mem_exports hFunction name hExported
  · obtain ⟨parameter, hMem, rfl⟩ := List.mem_map.mp hParameter
    rw [(fields_of_mem_functions hFunction).2.1] at hMem
    exact Function.isLegal_of_mem_parametersOf parameter hMem

/-- The names that are imported are those of the packages, and those on the paths
of the modules that are bound. -/
theorem mem_importedNames_iff {layout : Layout} {branch : Branch} (hGrown : branch.Grown)
    {name : String} :
    name ∈ (branch.contents layout).importedNames ↔
      ∃ child, branch.Binds child ∧ (name ∈ layout.packages ∨ name ∈ child.path) := by
  have hNames {child : Branch} (hChild : branch.Binds child) :
      name ∈ (Module.importOf layout child).packages ++ [(Module.importOf layout child).name] ↔
        name ∈ layout.packages ∨ name ∈ child.path := by
    obtain ⟨last, hPath⟩ := hChild.exists_path hGrown branch.mem_walk_self
    rw [layout.importOf_of_path_eq hPath, hPath]
    simp only [List.mem_append, or_assoc]
  simp only [Module.importedNames, contents, List.flatMap_map, List.mem_flatMap]
  exact exists_congr fun child => and_congr_right hNames

/-- Without a collision, the names that a module offers are different from each
other, and none of them is reserved. -/
theorem nodup_reserved_append_exports {layout : Layout} {branch : Branch}
    (hFree : ¬ branch.Collides layout) :
    (Name.reserved ++ (branch.contents layout).exports).Nodup := by
  have hNodup : (branch.boundNames layout).Nodup := by
    by_contra hNot
    exact hFree (Or.inr (Or.inr (Or.inr hNot)))
  have hFunction (function : Function) : function.entries.map Prod.fst = function.exports := by
    rw [Function.entries, Function.exports, List.map_append, List.map_map]
    exact congrArg (· ++ [function.name]) (List.map_id _)
  have hExports : (branch.contents layout).exports =
      (branch.emitting.map (Module.childEntry layout) ++
        branch.functions.flatMap Function.entries).map Prod.fst := by
    rw [List.map_append, List.map_map, List.map_flatMap]
    simp only [hFunction, Module.exports, contents, List.map_map]
    rfl
  rw [hExports]
  exact (branch.perm_boundNames layout).nodup_iff.mpr hNodup

theorem isIdentifier_of_mem_path (branch : Branch) :
    ∀ name ∈ branch.path, Text.isIdentifier name.toList = true :=
  List.forall_mem_map.mpr fun component _ => Name.isIdentifier_pascal component

end Branch

namespace Layout

variable {layout : Layout}

/-- A full name is made of identifiers. -/
theorem IsLegal.isIdentifier (hLegal : layout.IsLegal) (branch : Branch) :
    ∀ part ∈ layout.qualified branch, Text.isIdentifier part.toList = true := by
  rw [Layout.qualified, List.forall_mem_append]
  refine ⟨fun part hPart => Name.isIdentifier_of_isLegal (hLegal.packages part hPart), ?_⟩
  split
  · exact List.forall_mem_singleton.mpr (Name.isIdentifier_of_isLegal hLegal.rootName)
  · exact branch.isIdentifier_of_mem_path

/-- A full name tells its components. -/
theorem IsLegal.dottedParts_dotted (hLegal : layout.IsLegal) (branch : Branch) :
    Name.dottedParts (layout.dotted branch) = layout.qualified branch :=
  Name.dottedParts_intercalate (hLegal.isIdentifier branch)

end Layout

end RoutePaths
