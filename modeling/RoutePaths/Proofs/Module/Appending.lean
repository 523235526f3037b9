import RoutePaths.Proofs.Module.Documentation

/-! One more route at the end of a table. A tree grows by it in one place: the module that
the route goes into, or the module above those that have to be made for it. All other
modules have the files that they had. -/
namespace RoutePaths
open Firsts Result

namespace Branch

/-- What a module becomes when a route is put into the tree, at the path of its target. It
stays as it is, or the route comes to it, or it is the one below which the modules on the
way to the target are missing. -/
inductive Extends (route : Route) (target : List String) (old new : Branch) : Prop
  | same (namespaceOf : new.namespaceOf = old.namespaceOf) (routes : new.routes = old.routes)
    (children : new.children.map Branch.namespaceOf = old.children.map Branch.namespaceOf)
  | placed (namespaceOf : new.namespaceOf = old.namespaceOf) (here : old.path = target)
    (routes : new.routes = old.routes ++ [route]) (children : new.children = old.children)
  | bound (component : String) (namespaceOf : new.namespaceOf = old.namespaceOf)
    (toward : old.path ++ [Name.pascal component] <+: target) (routes : new.routes = old.routes)
    (missing : ∀ child ∈ old.children, child.isFor component = false)
    (children : new.children.map Branch.namespaceOf =
      old.children.map Branch.namespaceOf ++ [old.namespaceOf ++ [component]])

/-- Every module of a tree is there again after a route has been put into it, and what lies
between them is new. -/
theorem Grown.extends_insert {branch : Branch} (h : branch.Grown) (route : Route)
    (components : List String) :
    ∃ kept, kept.Sublist (branch.insert route components).walk ∧
      List.Forall₂ (Extends route (branch.path ++ components.map Name.pascal)) branch.walk kept := by
  have hUnchanged (target : List String) (branches : List Branch) :
      List.Forall₂ (Extends route target) branches branches :=
    List.forall₂_same.mpr fun _ _ => .same rfl rfl rfl
  induction components generalizing branch with
  | nil =>
      obtain ⟨parts, routes, children⟩ := branch
      refine ⟨_, List.Sublist.refl _, ?_⟩
      rw [Branch.insert, walk_node, walk_node, List.map_nil, List.append_nil]
      exact .cons (.placed rfl rfl rfl rfl) (hUnchanged _ _)
  | cons component deeper ih =>
      cases h with
      | @node parts routes children longer distinct below =>
          rw [Branch.insert, walk_node, walk_node]
          rcases alter_cases (isFor component) (fresh (parts ++ [component]))
            (Branch.insert route deeper) children with
            ⟨before, child, after, rfl, hFor, hAlter⟩ | ⟨hNone, hAlter⟩
          · obtain ⟨-, hGrown, -⟩ : _ ∧ child.Grown ∧ _ := by
              simpa only [List.forall_mem_append, List.forall_mem_cons] using below
            have hPath : child.path = parts.map Name.pascal ++ [Name.pascal component] :=
              (path_eq_of_isFor (longer child (by simp))).mp hFor
            obtain ⟨kept, hKept, hInner⟩ := ih hGrown
            rw [hPath, List.append_assoc, List.singleton_append, ← List.map_cons] at hInner
            rw [hAlter]
            refine ⟨.node parts routes (before ++ Branch.insert route deeper child :: after) ::
              (before.flatMap walk ++ (kept ++ after.flatMap walk)), ?_, ?_⟩
            · rw [List.flatMap_append, List.flatMap_cons]
              exact ((hKept.append_right _).append_left _).cons_cons _
            · rw [List.flatMap_append, List.flatMap_cons]
              refine .cons (.same rfl rfl ?_) ?_
              · simp [Branch.children, namespaceOf_insert]
              · exact List.rel_append (hUnchanged _ _) (List.rel_append hInner (hUnchanged _ _))
          · rw [hAlter]
            refine ⟨.node parts routes (children ++ [Branch.insert route deeper (fresh (parts ++
              [component]))]) :: children.flatMap walk, ?_, .cons ?_ (hUnchanged _ _)⟩
            · rw [List.flatMap_append]
              exact (List.sublist_append_left _ _).cons_cons _
            · refine .bound component rfl ?_ rfl hNone ?_
              · simp [path, Branch.namespaceOf]
              · rw [Branch.children, List.map_append, List.map_singleton, namespaceOf_insert]
                rfl

namespace Extends

variable {route : Route} {target : List String} {old new : Branch} {layout : Layout}

theorem namespaceOf_eq (h : Extends route target old new) : new.namespaceOf = old.namespaceOf := by
  cases h <;> assumption

theorem path_eq (h : Extends route target old new) : new.path = old.path := by
  rw [path, path, h.namespaceOf_eq]

/-- A module has its rows and children in the same order as before, with at most one new one
behind them. -/
theorem prefix_routes (h : Extends route target old new) : old.routes <+: new.routes := by
  cases h with
  | same _ routes _ => exact routes ▸ List.prefix_refl _
  | placed _ _ routes _ => exact routes ▸ List.prefix_append _ _
  | bound _ _ _ routes _ _ => exact routes ▸ List.prefix_refl _

theorem prefix_children (h : Extends route target old new) :
    old.children.map Branch.namespaceOf <+: new.children.map Branch.namespaceOf := by
  cases h with
  | same _ _ children => exact children ▸ List.prefix_refl _
  | placed _ _ _ children => exact children ▸ List.prefix_refl _
  | bound _ _ _ _ _ children => exact children ▸ List.prefix_append _ _

/-- Nothing collides in a module in which nothing collides when it has grown. -/
theorem not_collides (h : Extends route target old new) (hOld : old.Filled) (hNew : new.Filled)
    (hFree : ¬ new.Collides layout) : ¬ old.Collides layout := by
  have hFunctions := functionName_congr h.namespaceOf_eq
  obtain ⟨more, hRoutes⟩ := h.prefix_routes
  have hAgree : RouteGroup.Agree new.functionName new.routes :=
    not_rowsCollide_iff.mp fun hRows => hFree (Or.inl hRows)
  rw [← hRoutes, hFunctions] at hAgree
  refine not_collides_of_sublist h.namespaceOf_eq.symm hAgree.of_append ?_ ?_ hFree
  · rw [firstRows, firstRows, ← hRoutes, hFunctions]
    exact (firsts_append_prefixed _ _ _).sublist
  · have hName : layout.name = (fun parts => layout.name (fresh parts)) ∘ namespaceOf := by
      funext branch
      exact layout.name_congr rfl
    rw [hOld.emitting_eq, hNew.emitting_eq, hName, ← List.map_map, ← List.map_map]
    exact (h.prefix_children.map _).sublist.subperm

/-- A module that stays as it is keeps its file. -/
theorem file_eq (hOld : old.Filled) (hNew : new.Filled)
    (hNamespace : new.namespaceOf = old.namespaceOf) (hRoutes : new.routes = old.routes)
    (hChildren : new.children.map Branch.namespaceOf = old.children.map Branch.namespaceOf) :
    new.file layout = old.file layout := by
  refine file_congr layout hNamespace hRoutes ?_
  rw [hOld.emitting_eq, hNew.emitting_eq, hChildren]

end Extends

end Branch

namespace ModuleTree

variable {packages rootName : String} {rule : NamespaceRule} {routes : List Route} {route : Route}
  {before tree : ModuleTree} {files earlier : List SourceFile}

/-- A tree grows from some rows first and from the others then. -/
theorem grow_append (seen front back : List Route) (root : Branch) :
    grow rule seen root (front ++ back) =
      grow rule seen root front >>= fun middle => grow rule (front.reverse ++ seen) middle back := by
  induction front generalizing seen root with
  | nil => rfl
  | cons route rest ih =>
      rw [List.cons_append, grow, grow]
      cases seen.find? (sameEntry route) with
      | some first => rfl
      | none =>
          cases rule route with
          | error error => rfl
          | ok parts => simp only [ih, List.reverse_cons, List.append_assoc, List.singleton_append]

/-- The last route is put into the tree that the others have grown. -/
theorem exists_build_of_concat
    (hBuild : build packages rootName rule (routes ++ [route]) = .ok tree) :
    ∃ before parts, build packages rootName rule routes = .ok before ∧ rule route = .ok parts ∧
      tree = ⟨before.layout, before.root.insert route parts⟩ := by
  simp only [build, grow_append, bind_eq_ok_iff, grow_cons_eq_ok_iff, pure, Except.pure,
    Except.ok.injEq] at hBuild ⊢
  obtain ⟨layout, hLayout, root, ⟨middle, hMiddle, -, parts, hRule, hLast⟩, rfl⟩ := hBuild
  cases hLast
  exact ⟨⟨layout, middle⟩, parts, ⟨layout, hLayout, middle, hMiddle, rfl⟩, hRule, rfl⟩

/-- A module that had a file has a child now that had none. -/
def GainsChild (earlier files : List SourceFile) (parent : List String) : Prop :=
  parent ∈ earlier.map (·.directories) ∧
    ∃ name, parent ++ [name] ∈ files.map (·.directories) ∧
      parent ++ [name] ∉ earlier.map (·.directories)

/-- What becomes of a file when a route for the target is appended. -/
structure Reprints (earlier files : List SourceFile) (target : List String)
    (file again : SourceFile) : Prop where
  directories : again.directories = file.directories
  filename : again.filename = file.filename
  content : again.content = file.content ∨ file.directories = target ∨
    GainsChild earlier files file.directories

/-- Generation from some routes, and from the same routes with one more behind them. -/
structure Appended (packages rootName : String) (rule : NamespaceRule) (routes : List Route)
    (route : Route) (parts : List String) (before tree : ModuleTree)
    (earlier files : List SourceFile) : Prop where
  rule_eq : rule route = .ok parts
  tree_eq : tree = ⟨before.layout, before.root.insert route parts⟩
  build : ModuleTree.build packages rootName rule routes = .ok before
  buildAll : ModuleTree.build packages rootName rule (routes ++ [route]) = .ok tree
  filesBefore : before.files = .ok earlier
  filesAll : tree.files = .ok files

/-- The modules of a tree are there again after a route has been put into it. -/
theorem exists_kept (h : Holds rule before.root routes) (route : Route) (parts : List String) :
    ∃ kept, kept.Sublist (before.root.insert route parts).walk ∧
      List.Forall₂ (Branch.Extends route (parts.map Name.pascal)) before.modules kept := by
  have hKept := h.grown.extends_insert route parts
  rwa [h.path_root, List.nil_append] at hKept

/-- Where generation succeeds with a route at the end, it succeeds without it. -/
theorem exists_appended (hBuild : build packages rootName rule (routes ++ [route]) = .ok tree)
    (hFiles : tree.files = .ok files) :
    ∃ parts before earlier,
      Appended packages rootName rule routes route parts before tree earlier files := by
  obtain ⟨before, parts, hBefore, hRule, rfl⟩ := exists_build_of_concat hBuild
  have hFilled := filled_of_build hBuild
  obtain ⟨kept, hKept, hExtends⟩ := exists_kept (holds_of_build hBefore) route parts
  have hFree : ∀ old ∈ before.modules, old.hasContent = true → ¬ old.Collides before.layout := by
    intro old hOld _
    obtain ⟨new, hNew, hStep⟩ := exists_mem_of_forall₂ hExtends.flip hOld
    have hMem := hKept.subset hNew
    have hContent := hFilled.hasContent_of_mem_walk (Branch.hasContent_insert ..) hMem
    exact hStep.not_collides ((filled_of_build hBefore).of_mem_walk hOld) (hFilled.of_mem_walk hMem)
      ((files_eq_ok_iff.mp hFiles).1 new hMem hContent)
  exact ⟨parts, before, _, hRule, rfl, hBefore, hBuild, files_eq_ok_iff.mpr ⟨hFree, rfl⟩, hFiles⟩

namespace Appended

variable {parts : List String}

theorem target?_eq (h : Appended packages rootName rule routes route parts before tree earlier files) :
    target? rule route = some (parts.map Name.pascal) :=
  target?_eq_some_iff.mpr ⟨parts, h.rule_eq, rfl⟩

/-- New files are those of modules on the way to the target. -/
theorem mem_or_above
    (h : Appended packages rootName rule routes route parts before tree earlier files)
    {directories : List String} (hMem : directories ∈ files.map (·.directories)) :
    directories ∈ earlier.map (·.directories) ∨ directories <+: parts.map Name.pascal := by
  obtain ⟨row, hRow, names, hNames, hPrefix⟩ := (mem_directories_iff h.buildAll h.filesAll).mp hMem
  rcases List.mem_append.mp hRow with hRow | hRow
  · exact Or.inl ((mem_directories_iff h.build h.filesBefore).mpr ⟨row, hRow, names, hNames, hPrefix⟩)
  · rw [List.mem_singleton.mp hRow, h.target?_eq, Option.some.injEq] at hNames
    exact Or.inr (hNames ▸ hPrefix)

/-- Above a module that had a file, all modules had one. -/
theorem mem_of_above
    (h : Appended packages rootName rule routes route parts before tree earlier files)
    {directories above : List String} (hMem : directories ∈ earlier.map (·.directories))
    (hAbove : above <+: directories) : above ∈ earlier.map (·.directories) := by
  obtain ⟨row, hRow, names, hNames, hPrefix⟩ := (mem_directories_iff h.build h.filesBefore).mp hMem
  exact (mem_directories_iff h.build h.filesBefore).mpr ⟨row, hRow, names, hNames, hAbove.trans hPrefix⟩

/-- A child is gained on the way to the target only. -/
theorem exists_name
    (h : Appended packages rootName rule routes route parts before tree earlier files)
    {parent : List String} (hGains : GainsChild earlier files parent) :
    ∃ name, parent ++ [name] <+: parts.map Name.pascal ∧
      parent ++ [name] ∉ earlier.map (·.directories) := by
  obtain ⟨-, name, hFile, hMissing⟩ := hGains
  exact ⟨name, (h.mem_or_above hFile).resolve_left hMissing, hMissing⟩

theorem gainsChild_above
    (h : Appended packages rootName rule routes route parts before tree earlier files)
    {parent : List String} (hGains : GainsChild earlier files parent) :
    parent <+: parts.map Name.pascal ∧ parent ≠ parts.map Name.pascal := by
  obtain ⟨name, hToward, -⟩ := h.exists_name hGains
  refine ⟨(List.prefix_append _ _).trans hToward, ?_⟩
  rintro rfl
  have hLength := hToward.length_le
  rw [List.length_append, List.length_singleton] at hLength
  omega

/-- Of two modules on the way to the target, the upper one gains no child: the next module on
the way had a file already. -/
theorem gainsChild_unique
    (h : Appended packages rootName rule routes route parts before tree earlier files)
    {first second : List String} (hFirst : GainsChild earlier files first)
    (hSecond : GainsChild earlier files second) : first = second := by
  have hNever {upper lower : List String} {name next : String}
      (hLower : lower ∈ earlier.map (·.directories))
      (hMissing : upper ++ [name] ∉ earlier.map (·.directories))
      (hPrefix : upper ++ [name] <+: lower ++ [next]) : upper = lower := by
    rcases List.prefix_concat_iff.mp hPrefix with hEq | hAbove
    · exact (List.append_inj' hEq rfl).1
    · exact absurd (h.mem_of_above hLower hAbove) hMissing
  obtain ⟨name, hToward, hMissing⟩ := h.exists_name hFirst
  obtain ⟨next, hToward', hMissing'⟩ := h.exists_name hSecond
  rcases List.prefix_or_prefix_of_prefix hToward hToward' with hPrefix | hPrefix
  · exact hNever hSecond.1 hMissing hPrefix
  · exact (hNever hFirst.1 hMissing' hPrefix).symm

/-- Where a child was missing, no file was below it. -/
theorem not_mem_of_missing
    (h : Appended packages rootName rule routes route parts before tree earlier files)
    {old : Branch} (hOld : old ∈ before.modules) {component : String}
    (hMissing : ∀ child ∈ old.children, child.isFor component = false) :
    old.path ++ [Name.pascal component] ∉ earlier.map (·.directories) := by
  intro hMem
  obtain ⟨row, hRow, _, hTarget, deeper, rfl⟩ := (mem_directories_iff h.build h.filesBefore).mp hMem
  rw [List.append_assoc, List.singleton_append] at hTarget
  have hFound : row ∈ old.routesAt (Name.pascal component :: deeper) := by
    rw [(holds_of_build h.build).routesAt_eq hOld, List.mem_filter, decide_eq_true_eq]
    exact ⟨hRow, hTarget⟩
  have hNone : old.children.find? (Branch.isNamed (Name.pascal component)) = none := by
    rw [List.find?_eq_none]
    intro child hChild hNamed
    have hFor : child.isFor component = true := hNamed
    rw [hMissing child hChild] at hFor
    cases hFor
  rw [Branch.routesAt, hNone] at hFound
  cases hFound

theorem reprints (h : Appended packages rootName rule routes route parts before tree earlier files)
    {old new : Branch} (hOld : old ∈ before.modules) (hContent : old.hasContent = true)
    (hNew : new ∈ tree.modules) (hExtends : Branch.Extends route (parts.map Name.pascal) old new) :
    Reprints earlier files (parts.map Name.pascal) (old.file before.layout)
      (new.file tree.layout) := by
  have hDirectories (branch : Branch) (layout : Layout) :
      (branch.file layout).directories = branch.path := branch.directories_eq_path
  have hLayout : tree.layout = before.layout := by rw [h.tree_eq]
  rw [hLayout]
  refine ⟨?_, ?_, ?_⟩
  · rw [hDirectories, hDirectories, hExtends.path_eq]
  · show before.layout.filename new = before.layout.filename old
    rw [Branch.filename_eq, Branch.filename_eq, hExtends.path_eq]
  · rw [hDirectories]
    cases hExtends with
    | same hNamespace hRoutes hChildren =>
        rw [Branch.Extends.file_eq ((filled_of_build h.build).of_mem_walk hOld)
          ((filled_of_build h.buildAll).of_mem_walk hNew) hNamespace hRoutes hChildren]
        exact Or.inl rfl
    | placed _ hHere _ _ => exact Or.inr (Or.inl hHere)
    | bound component _ hToward _ hMissing _ =>
        refine Or.inr (Or.inr ⟨?_, Name.pascal component, ?_, h.not_mem_of_missing hOld hMissing⟩)
        · refine List.mem_map.mpr ⟨_, (mem_files_iff h.filesBefore).mpr ⟨old, hOld, hContent, rfl⟩, ?_⟩
          exact hDirectories old before.layout
        · refine (mem_directories_iff h.buildAll h.filesAll).mpr ⟨route, ?_, _, h.target?_eq, hToward⟩
          exact List.mem_append_right _ (List.mem_singleton_self _)

/-- All files are printed again, in their order. -/
theorem exists_again
    (h : Appended packages rootName rule routes route parts before tree earlier files) :
    ∃ again, again.Sublist files ∧
      List.Forall₂ (Reprints earlier files (parts.map Name.pascal)) earlier again := by
  obtain ⟨kept, hKept, hExtends⟩ := exists_kept (holds_of_build h.build) route parts
  have hModules : kept.Sublist tree.modules := by
    rw [h.tree_eq]
    exact hKept
  have hAllContent : tree.root.hasContent = true := by
    rw [h.tree_eq]
    exact Branch.hasContent_insert ..
  have hAll : tree.modules.filter (·.hasContent) = tree.modules :=
    (filled_of_build h.buildAll).filter_walk hAllContent
  have hEarlier := (files_eq_ok_iff.mp h.filesBefore).2
  have hFiles := (files_eq_ok_iff.mp h.filesAll).2
  rw [hAll] at hFiles
  cases hContent : before.root.hasContent with
  | false =>
      have hNone : before.modules.filter (·.hasContent) = [] := by
        rw [List.filter_eq_nil_iff]
        intro old hOld hOldContent
        have hRoot := Branch.hasContent_of_mem_walk hOld hOldContent
        rw [hContent] at hRoot
        cases hRoot
      rw [hNone] at hEarlier
      exact ⟨[], List.nil_sublist _, hEarlier ▸ .nil⟩
  | true =>
      have hFilled := filled_of_build h.build
      have hFilter : before.modules.filter (·.hasContent) = before.modules :=
        hFilled.filter_walk hContent
      have hPrinted : List.Forall₂ (Reprints earlier files (parts.map Name.pascal))
          (before.modules.map (Branch.file before.layout)) (kept.map (Branch.file tree.layout)) := by
        rw [List.forall₂_map_left_iff, List.forall₂_map_right_iff, List.forall₂_iff_zip]
        refine ⟨hExtends.length_eq, fun {old new} hPair => ?_⟩
        obtain ⟨hOld, hNew⟩ := List.of_mem_zip hPair
        exact h.reprints hOld (hFilled.hasContent_of_mem_walk hContent hOld) (hModules.subset hNew)
          ((List.forall₂_iff_zip.mp hExtends).2 hPair)
      rw [← hFilter, hEarlier] at hPrinted
      exact ⟨_, hFiles ▸ hModules.map _, hPrinted⟩

end Appended

/-- A route at the end of a table disturbs only its own branch of the modules. Without it,
generation succeeds too. With it, all files are there again in their order, and their
contents are the same, but for the file of its module and that of the one module above
which gains a child. -/
theorem files_concat (hBuild : build packages rootName rule (routes ++ [route]) = .ok tree)
    (hFiles : tree.files = .ok files) :
    ∃ before earlier parts, build packages rootName rule routes = .ok before ∧
      before.files = .ok earlier ∧ rule route = .ok parts ∧
      (∃ again, again.Sublist files ∧
        List.Forall₂ (Reprints earlier files (parts.map Name.pascal)) earlier again) ∧
      (∀ parent, GainsChild earlier files parent →
        parent <+: parts.map Name.pascal ∧ parent ≠ parts.map Name.pascal) ∧
      ∀ first second, GainsChild earlier files first → GainsChild earlier files second →
        first = second := by
  obtain ⟨parts, before, earlier, h⟩ := exists_appended hBuild hFiles
  exact ⟨before, earlier, parts, h.build, h.filesBefore, h.rule_eq, h.exists_again,
    fun _ => h.gainsChild_above, fun _ _ => h.gainsChild_unique⟩

/-- Rows of the root module and of one below it. -/
def staffRows : List Route :=
  [⟨"reports", "GET", "/reports", [.literal "reports"], "reports#index", 1, false⟩,
    ⟨"admin_users", "GET", "/admin/users", [.literal "admin", .literal "users"],
      "admin/users#index", 2, false⟩]

/-- A row of a module that has to be made. -/
def auditRow : Route :=
  ⟨"admin_audit_logs", "GET", "/admin/audit/logs",
    [.literal "admin", .literal "audit", .literal "logs"], "admin/audit/logs#index", 3, false⟩

def auditTree : ModuleTree :=
  ⟨⟨[], "Routes"⟩, .node [] [staffRows[0]]
    [.node ["admin"] [staffRows[1]] [.node ["admin", "audit"] [auditRow] []]]⟩

/-- The row changes the file of the module above its own, and leaves the root module as it
was. -/
theorem files_concat_auditRow :
    build "" "Routes" byController (staffRows ++ [auditRow]) = .ok auditTree ∧
      ∃ files before earlier, auditTree.files = .ok files ∧
        files.map (·.directories) = [[], ["Admin"], ["Admin", "Audit"]] ∧
        build "" "Routes" byController staffRows = .ok before ∧ before.files = .ok earlier ∧
        (∃ again, again.Sublist files ∧
          List.Forall₂ (Reprints earlier files ["Admin", "Audit"]) earlier again) ∧
        ∀ parent, GainsChild earlier files parent → parent <+: ["Admin", "Audit"] := by
  have hReports : byController staffRows[0] = .ok [] := rfl
  have hUsers : byController staffRows[1] = .ok ["admin"] := rfl
  have hLogs : byController auditRow = .ok ["admin", "audit"] := rfl
  have hLayout : layout? "" "Routes" = .ok auditTree.layout := rfl
  have hBuild : build "" "Routes" byController (staffRows ++ [auditRow]) = .ok auditTree := by
    have hGrow : grow byController [] emptyRoot (staffRows ++ [auditRow]) = .ok auditTree.root := by
      refine grow_cons_eq_ok_iff.mpr ⟨by decide, [], hReports, ?_⟩
      refine grow_cons_eq_ok_iff.mpr ⟨by decide, ["admin"], hUsers, ?_⟩
      exact grow_cons_eq_ok_iff.mpr ⟨by decide, ["admin", "audit"], hLogs, rfl⟩
    rw [build, hLayout, hGrow]
    rfl
  obtain ⟨files, hFiles⟩ := exists_eq_ok_of_isOk (by decide : auditTree.files.isOk = true)
  obtain ⟨before, earlier, parts, hBefore, hEarlier, hRule, hAgain, hAbove, -⟩ :=
    files_concat hBuild hFiles
  obtain rfl : ["admin", "audit"] = parts := Except.ok.inj (hLogs.symm.trans hRule)
  refine ⟨hBuild, files, before, earlier, hFiles, ?_, hBefore, hEarlier, hAgain,
    fun parent hGains => (hAbove parent hGains).1⟩
  rw [← (files_eq_ok_iff.mp hFiles).2, List.map_map]
  decide

end ModuleTree

end RoutePaths
