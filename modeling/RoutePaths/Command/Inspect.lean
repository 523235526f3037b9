import RoutePaths.Command.Basic

/-! The commands that show what would be generated. They go through the whole
generation, so that its errors are found, but they write nothing, and they do
without a file of settings. -/
namespace RoutePaths.Command

/-- Where the table and the settings are. -/
structure InspectOptions where
  routes : String
  config : Option String
  deriving DecidableEq, Repr

/-- The generation to be shown, with its settings and the messages so far,
or the report of the failure. -/
def inspected (options : InspectOptions) (around : Surroundings) :
    Except Report (List Notice × Config × Generation) :=
  match Config.resolve around.files around.directory options.config around.configVariable false with
  | .error error => .error (.failed around.files [] (.ofFailing .config error))
  | .ok (path, config) =>
    let notices : List Notice :=
      if path.isNone then [.info "No railpath.json found; using default settings."] else []
    match Table.load around.files around.directory around.input options.routes with
    | .error error => .error (.failed around.files notices (.ofFailing .table error))
    | .ok text =>
      match Generation.run text config ModuleTree.byController with
      | .error error => .error (.failed around.files notices (.generation error))
      | .ok generation => .ok (notices ++ skippedLines generation.diagnostics, config, generation)

/-- A text, or a dash for an empty one. -/
def orDash (text : String) : String :=
  if text = "" then "-" else text

/-- The row of a route in the module it was put into. -/
def routeRow (layout : Layout) (branch : Branch) (route : Route) : List String :=
  [route.name, orDash route.verb, route.uri, orDash route.action, layout.dotted branch,
   Function.nameFor branch.namespaceOf route.name]

/-- The selected routes, module by module. -/
def routeGrid (tree : ModuleTree) : Grid :=
  let rows := tree.modules.flatMap fun branch => branch.routes.map (routeRow tree.layout branch)
  { title := some ("Routes (" ++ toString rows.length ++ ")")
    head := ["Name", "Verb", "URI", "Controller#Action", "Module", "Function"]
    rows }

/-- Shows the selected routes with the function for each. -/
def InspectOptions.showRoutes (options : InspectOptions) (around : Surroundings) : Report :=
  match inspected options around with
  | .error report => report
  | .ok (notices, _, generation) =>
    ⟨[.grid (routeGrid generation.tree)], notices, 0, around.files⟩

/-- A path without the slashes at its end. -/
def withoutEndSlashes (path : String) : String :=
  String.ofList ((path.toList.reverse.dropWhile (· = '/')).reverse)

/-- The path of the file of a module, below a source directory. -/
def location (sourceDirectory : String) (layout : Layout) (branch : Branch) : String :=
  "/".intercalate
    (withoutEndSlashes sourceDirectory :: Layout.directories branch ++ [layout.filename branch])

/-- The names of the functions of a module. A module that cannot be
generated has none. -/
def functionNames (layout : Layout) (branch : Branch) : List String :=
  match Module.ofBranch layout branch with
  | .ok module => module.functions.map (·.name)
  | .error _ => []

mutual

/-- A module with its file, and below it its child modules and its
functions. -/
def moduleOutline (sourceDirectory : String) (layout : Layout) : Branch → Outline
  | .node parts routes children =>
    let branch := Branch.node parts routes children
    .node (layout.dotted branch ++ " (" ++ location sourceDirectory layout branch ++ ")")
      (moduleOutlines sourceDirectory layout children ++
        (functionNames layout branch).map fun name => .node (name ++ "()") [])

/-- The modules among the given ones for which something is generated. -/
def moduleOutlines (sourceDirectory : String) (layout : Layout) : List Branch → List Outline
  | [] => []
  | child :: rest =>
    if child.hasContent then
      moduleOutline sourceDirectory layout child :: moduleOutlines sourceDirectory layout rest
    else moduleOutlines sourceDirectory layout rest

end

/-- Shows the modules with their files and functions. -/
def InspectOptions.showTree (options : InspectOptions) (around : Surroundings) : Report :=
  match inspected options around with
  | .error report => report
  | .ok (notices, config, generation) =>
    let tree := generation.tree
    if tree.root.hasContent then
      ⟨[.outline (moduleOutline config.sourceDirectory tree.layout tree.root).toRecord], notices, 0,
        around.files⟩
    else
      ⟨[], notices ++ [.warning "No routes selected; the tree is empty."], 0, around.files⟩

/-- Shows the settings that would be used. -/
def showSettings (config : Option String) (around : Surroundings) : Report :=
  match Config.resolve around.files around.directory config around.configVariable true with
  | .error error => .failed around.files [] (.ofFailing .config error)
  | .ok (path, settings) =>
    ⟨[.document settings.toRecord],
      [.info ("Config file: " ++ (path.map (·.text)).getD "")], 0, around.files⟩

end RoutePaths.Command
