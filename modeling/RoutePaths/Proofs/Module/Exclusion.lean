import RoutePaths.Proofs.Module.Collisions
import RoutePaths.Proofs.Module.Spelling
import RoutePaths.Proofs.Selection

/-! Generation after some routes have been excluded. What is left of a module has
fewer names to bind, but only under one condition do its functions keep the names
that they had: the namespace of the module has to be spelled as before. It is
taken from the first route of the module, and that one may be gone. -/
namespace RoutePaths
open Firsts Result

/-- What is left of a module when only routes of selected names are kept and its
namespace is spelled as before. -/
structure Branch.Remains (layout : Layout) (selects : String → Bool) (whole branch : Branch) :
    Prop where
  namespaceOf : branch.namespaceOf = whole.namespaceOf
  routes : branch.routes = whole.routes.filter (selects ·.name)
  names : (branch.emitting.map layout.name).Subperm (whole.emitting.map layout.name)

namespace Branch.Remains

variable {layout : Layout} {selects : String → Bool} {whole branch : Branch}

/-- A function is left with its first row, or not at all. -/
theorem firstRows (h : Remains layout selects whole branch)
    (hAgree : RouteGroup.Agree whole.functionName whole.routes) :
    branch.firstRows = whole.firstRows.filter (selects ·.name) := by
  rw [Branch.firstRows, functionName_congr h.namespaceOf, h.routes]
  apply firsts_filter
  intro first hFirst second hSecond hName
  rw [hAgree.name_eq hFirst hSecond hName]

/-- Nothing collides in what is left of a module in which nothing collided. -/
theorem not_collides (h : Remains layout selects whole branch) (hFree : ¬ whole.Collides layout) :
    ¬ branch.Collides layout := by
  have hAgree : RouteGroup.Agree whole.functionName whole.routes :=
    not_rowsCollide_iff.mp fun hRows => hFree (Or.inl hRows)
  refine not_collides_of_sublist h.namespaceOf ?_ ?_ h.names hFree
  · rw [functionName_congr h.namespaceOf, h.routes]
    exact hAgree.filter selects
  · rw [h.firstRows hAgree]
    exact List.filter_sublist

end Branch.Remains

namespace ModuleTree

variable {packages rootName : String} {rule : NamespaceRule} {routes kept : List Route}
  {tree rest : ModuleTree}

/-- Leaving routes out never makes the rest ambiguous. -/
theorem exists_build_of_sublist (hBuild : build packages rootName rule routes = .ok tree)
    (hKept : kept.Sublist routes) :
    ∃ rest, build packages rootName rule kept = .ok rest ∧ rest.layout = tree.layout := by
  simp only [build, bind_eq_ok_iff, pure, Except.pure, Except.ok.injEq] at hBuild ⊢
  obtain ⟨layout, hLayout, root, hGrow, rfl⟩ := hBuild
  obtain ⟨hRules, -, hPairs⟩ := exists_grow_iff.mp ⟨root, hGrow⟩
  have hNone : ∀ route ∈ kept, ∀ earlier ∈ [], sameEntry route earlier = false := by simp
  obtain ⟨final, hFinal⟩ := exists_grow_iff.mpr
    ⟨fun route hRoute => hRules route (hKept.subset hRoute), hNone, hPairs.sublist hKept⟩
  exact ⟨⟨layout, final⟩, ⟨layout, hLayout, final, hFinal, rfl⟩, rfl⟩

/-- All modules of what is left were there before, under the namespace that they
have now. -/
def KeepsNamespaces (tree rest : ModuleTree) : Prop :=
  ∀ branch ∈ rest.modules, ∃ whole ∈ tree.modules, whole.namespaceOf = branch.namespaceOf

theorem remains_of_holds {selects : String → Bool} {layout : Layout} {whole branch : Branch}
    (h : Holds rule tree.root routes)
    (hLeft : Holds rule rest.root (routes.filter (selects ·.name)))
    (hWhole : whole ∈ tree.modules) (hBranch : branch ∈ rest.modules)
    (hNamespace : whole.namespaceOf = branch.namespaceOf) :
    Branch.Remains layout selects whole branch := by
  have hPath : branch.path = whole.path := by rw [Branch.path, Branch.path, hNamespace]
  refine ⟨hNamespace.symm, ?_, ?_⟩
  · rw [hLeft.routes_eq hBranch, h.routes_eq hWhole, hPath, List.filter_comm]
  · apply List.subperm_of_subset (hLeft.nodup_names hBranch layout)
    intro name hName
    obtain ⟨row, hRow, hTarget⟩ := (hLeft.mem_names_iff hBranch layout).mp hName
    rw [hPath] at hTarget
    exact (h.mem_names_iff hWhole layout).mpr ⟨row, List.mem_of_mem_filter hRow, hTarget⟩

/-- Rows that spell alike have modules whose namespaces do not depend on which of
the rows are left. -/
theorem keepsNamespaces_of_spelledAlike (hBuild : build packages rootName rule routes = .ok tree)
    (hRest : build packages rootName rule kept = .ok rest) (hKept : kept.Sublist routes)
    (hAlike : SpelledAlike rule routes) : KeepsNamespaces tree rest := by
  have hHolds := holds_of_build hBuild
  intro branch hBranch
  rcases spelledFrom_of_build hRest (hAlike.subset hKept.subset) branch hBranch with
    hTop | ⟨row, hRow, parts, hRule, hFront⟩
  · exact ⟨tree.root, tree.root.mem_walk_self, hHolds.top.trans hTop.symm⟩
  · obtain ⟨whole, hWhole, hPath⟩ := hHolds.exists_path_eq (hKept.subset hRow) hRule hFront
    refine ⟨whole, hWhole, ?_⟩
    exact (spelledFrom_of_build hBuild hAlike).spells hAlike (fun other hOther => hOther)
      (hKept.subset hRow) hRule whole hWhole _ hFront hPath

/-- Selecting some of the routes never makes them ambiguous, and it causes no
collision unless a module takes its namespace from another route than before. That
cannot happen if all routes spell their namespaces alike. -/
theorem files_of_selection {selection : Selection} {files : List SourceFile}
    (hBuild : build packages rootName rule routes = .ok tree) (hFiles : tree.files = .ok files)
    (hKept : selection.apply routes = .ok kept) :
    ∃ rest, build packages rootName rule kept = .ok rest ∧
      (KeepsNamespaces tree rest → ∃ files, rest.files = .ok files) ∧
      (SpelledAlike rule routes → KeepsNamespaces tree rest) := by
  simp only [Selection.apply, bind_eq_ok_iff, pure, Except.pure, Except.ok.injEq] at hKept
  obtain ⟨checked, -, rfl⟩ := hKept
  have hSublist : (routes.filter (checked.selects ·.name)).Sublist routes := List.filter_sublist
  obtain ⟨rest, hRest, hLayout⟩ := exists_build_of_sublist hBuild hSublist
  have hHolds := holds_of_build hBuild
  have hLeft := holds_of_build hRest
  refine ⟨rest, hRest, ?_, keepsNamespaces_of_spelledAlike hBuild hRest hSublist⟩
  intro hKeeps
  refine ⟨_, files_eq_ok_iff.mpr ⟨?_, rfl⟩⟩
  intro branch hBranch hContent
  obtain ⟨whole, hWhole, hNamespace⟩ := hKeeps branch hBranch
  have hPath : branch.path = whole.path := by rw [Branch.path, Branch.path, hNamespace]
  have hBefore : whole.hasContent = true := by
    obtain ⟨row, hRow, hTarget⟩ := (hLeft.hasContent_iff hBranch).mp hContent
    rw [hPath] at hTarget
    exact (hHolds.hasContent_iff hWhole).mpr ⟨row, List.mem_of_mem_filter hRow, hTarget⟩
  rw [hLayout]
  exact (remains_of_holds hHolds hLeft hWhole hBranch hNamespace).not_collides
    ((files_eq_ok_iff.mp hFiles).1 whole hWhole hBefore)

/-- Rows of one namespace, the second of which is left when the first one is
excluded. -/
def accountRows : List Route :=
  [⟨"admin_accounts", "GET", "/admin/accounts", [.literal "admin", .literal "accounts"],
      "admin/accounts#index", 2, false⟩,
    ⟨"admin_users", "GET", "/admin/users", [.literal "admin", .literal "users"],
      "admin/users#index", 3, false⟩]

def accountTree : ModuleTree :=
  ⟨⟨[], "Routes"⟩, .node [] [] [.node ["admin"] accountRows []]⟩

theorem files_of_selection_accountRows :
    build "" "Routes" byController accountRows = .ok accountTree ∧
      (∃ files, accountTree.files = .ok files) ∧
      (Selection.without "admin_accounts").apply accountRows = .ok accountRows.tail ∧
      ∃ rest, build "" "Routes" byController accountRows.tail = .ok rest ∧
        KeepsNamespaces accountTree rest ∧ ∃ files, rest.files = .ok files := by
  have hAccounts : byController accountRows[0] = .ok ["admin"] := rfl
  have hUsers : byController accountRows[1] = .ok ["admin"] := rfl
  have hLayout : layout? "" "Routes" = .ok accountTree.layout := rfl
  have hBuild : build "" "Routes" byController accountRows = .ok accountTree := by
    have hGrow : grow byController [] emptyRoot accountRows = .ok accountTree.root := by
      refine grow_cons_eq_ok_iff.mpr ⟨by decide, ["admin"], hAccounts, ?_⟩
      exact grow_cons_eq_ok_iff.mpr ⟨by decide, ["admin"], hUsers, rfl⟩
    rw [build, hLayout, hGrow]
    rfl
  obtain ⟨files, hFiles⟩ := exists_eq_ok_of_isOk (by decide : accountTree.files.isOk = true)
  have hKept : (Selection.without "admin_accounts").apply accountRows = .ok accountRows.tail :=
    Selection.apply_without (by decide) (by decide) accountRows
  obtain ⟨rest, hRest, hAgain, -⟩ := files_of_selection hBuild hFiles hKept
  have hGrow : grow byController [] emptyRoot accountRows.tail =
      .ok (.node [] [] [.node ["admin"] accountRows.tail []]) :=
    grow_cons_eq_ok_iff.mpr ⟨by decide, ["admin"], hUsers, rfl⟩
  have hKeeps : KeepsNamespaces accountTree rest := by
    rw [build, hLayout, hGrow] at hRest
    cases hRest
    simp [KeepsNamespaces, modules, accountTree, Branch.namespaceOf]
  exact ⟨hBuild, ⟨files, hFiles⟩, hKept, rest, hRest, hKeeps, hAgain hKeeps⟩

/-- Rows whose namespaces are spelled in two ways. The first row makes the module,
and the names of the last two are told apart by its spelling alone. -/
def respelledRows : List Route :=
  [⟨"status", "GET", "/status", [.literal "status"], "api_v1/status#show", 2, false⟩,
    ⟨"health", "GET", "/health", [.literal "health"], "apiV1/health#show", 3, false⟩,
    ⟨"api_v1_users", "GET", "/users", [.literal "users"], "api_v1/users#index", 4, false⟩,
    ⟨"api_v1-users", "GET", "/other-users", [.literal "other-users"], "api_v1/people#index", 5,
      false⟩]

def respelledTree : ModuleTree :=
  ⟨⟨[], "Routes"⟩, .node [] [] [.node ["api_v1"] respelledRows []]⟩

/-- What is left of that tree. Its module has the other spelling. -/
def respelledRest : ModuleTree :=
  ⟨⟨[], "Routes"⟩, .node [] [] [.node ["apiV1"] respelledRows.tail []]⟩

/-- Excluding a row can make the others collide. -/
theorem files_collide_respelledRows :
    build "" "Routes" byController respelledRows = .ok respelledTree ∧
      (∃ files, respelledTree.files = .ok files) ∧
      (Selection.without "status").apply respelledRows = .ok respelledRows.tail ∧
      build "" "Routes" byController respelledRows.tail = .ok respelledRest ∧
      ∃ collision, respelledRest.files = .error collision := by
  have hStatus : byController respelledRows[0] = .ok ["api_v1"] := rfl
  have hHealth : byController respelledRows[1] = .ok ["apiV1"] := rfl
  have hUsers : byController respelledRows[2] = .ok ["api_v1"] := rfl
  have hOthers : byController respelledRows[3] = .ok ["api_v1"] := rfl
  have hLayout : layout? "" "Routes" = .ok ⟨[], "Routes"⟩ := rfl
  refine ⟨?_, exists_eq_ok_of_isOk (by decide), ?_, ?_,
    exists_eq_error_of_isOk (by decide +kernel)⟩
  · have hGrow : grow byController [] emptyRoot respelledRows = .ok respelledTree.root := by
      refine grow_cons_eq_ok_iff.mpr ⟨by decide, ["api_v1"], hStatus, ?_⟩
      refine grow_cons_eq_ok_iff.mpr ⟨by decide, ["apiV1"], hHealth, ?_⟩
      refine grow_cons_eq_ok_iff.mpr ⟨by decide, ["api_v1"], hUsers, ?_⟩
      exact grow_cons_eq_ok_iff.mpr ⟨by decide, ["api_v1"], hOthers, rfl⟩
    rw [build, hLayout, hGrow]
    rfl
  · exact Selection.apply_without (by decide) (by decide) respelledRows
  · have hGrow : grow byController [] emptyRoot respelledRows.tail = .ok respelledRest.root := by
      refine grow_cons_eq_ok_iff.mpr ⟨by decide, ["apiV1"], hHealth, ?_⟩
      refine grow_cons_eq_ok_iff.mpr ⟨by decide, ["api_v1"], hUsers, ?_⟩
      exact grow_cons_eq_ok_iff.mpr ⟨by decide, ["api_v1"], hOthers, rfl⟩
    rw [build, hLayout, hGrow]
    rfl

end ModuleTree

end RoutePaths
