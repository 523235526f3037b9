import RoutePaths.Module.Basic
import RoutePaths.Value.Json.Printer

/-! The text of a generated module. Every line of it is fixed by the content
of the module: there is no date in it and no order but that of the
content. -/
namespace RoutePaths

/-- Lines are broken up when they would be longer than this. -/
def maxLineLength : Nat := 88

/-- The type of every value. -/
def valueType : String := "str | int"

/-- A string literal for a text. -/
def literal (text : String) : String :=
  String.ofList (Json.quote true text.toList)

/-- Text with three single quotes for each three double quotes in a row,
read from the left. -/
def replaceTripleQuotes : List Char → List Char
  | '"' :: '"' :: '"' :: rest => '\'' :: '\'' :: '\'' :: replaceTripleQuotes rest
  | c :: rest => c :: replaceTripleQuotes rest
  | [] => []

/-- Text of a table as it may stand in a docstring, which it can neither
close nor escape. -/
def docText (text : String) : String :=
  String.ofList (replaceTripleQuotes (text.toList.map fun c => if c = '\\' then '/' else c))

/-- Text between the marks for code. -/
def code (text : String) : String :=
  "\x60\x60" ++ text ++ "\x60\x60"

namespace Parameter

/-- The parameter as it stands in a signature. -/
def declaration (parameter : Parameter) : String :=
  parameter.name ++ ": " ++ valueType ++ (if parameter.optional then " | None = None" else "")

/-- The parameter as a field of the class of parameters. -/
def field (parameter : Parameter) : String :=
  parameter.name ++ ": " ++
    (if parameter.optional then "NotRequired[" ++ valueType ++ "]" else valueType)

/-- The items of a signature. They keep path order; when a required
parameter follows an optional one, a star makes everything from the first
optional one on keyword-only. -/
def items (parameters : List Parameter) : List String :=
  let front := parameters.takeWhile (!·.optional)
  let back := parameters.dropWhile (!·.optional)
  let star := if back.any (!·.optional) then ["*"] else []
  front.map declaration ++ star ++ back.map declaration

end Parameter

namespace Function

/-- The signature: on one line if it fits, and otherwise with a line for each
item. -/
def signature (name : String) (parameters : List Parameter) : List String :=
  let items := Parameter.items parameters
  let line := "def " ++ name ++ "(" ++ ", ".intercalate items ++ ") -> str:"
  if line.length ≤ maxLineLength then [line]
  else ["def " ++ name ++ "("] ++ items.map (fun item => "    " ++ item ++ ",") ++ [") -> str:"]

/-- A piece as an expression. -/
def pieceText : Piece → String
  | .text text => literal text
  | .value parameter => "_escape(" ++ parameter ++ ")"
  | .optional parameter separator =>
    "(\"\" if " ++ parameter ++ " is None else " ++ literal separator ++ " + _escape(" ++
      parameter ++ "))"

/-- The statement that returns the path. -/
def bodyLines (body : Body) : List String :=
  match body.pieces with
  | [] => ["return \"/\""]
  | first :: rest =>
    if rest.isEmpty && !body.orRoot then ["return " ++ pieceText first]
    else
      ["return (", "    " ++ pieceText first] ++
        rest.map (fun piece => "    + " ++ pieceText piece) ++
        [if body.orRoot then ") or \"/\"" else ")"]

/-- The line of the docstring for a route. -/
def docLine (route : Route) : String :=
  let verb := if route.verb = "" then "ANY" else route.verb
  let action := if route.action = "" then "" else " -> " ++ code (docText route.action)
  code (verb ++ " " ++ docText route.uri) ++ action

/-- The first line of the docstring. -/
def summary (route : Route) : String :=
  "Path of route " ++ code (docText route.name) ++ "."

/-- Three double quotes. -/
def docQuote : String :=
  "\"\"\""

/-- The class of parameters with the blank lines in front of it. -/
def classLines (function : Function) : List String :=
  match function.paramsClass? with
  | none => []
  | some name =>
    ["", "", "class " ++ name ++ "(TypedDict):"] ++
      function.parameters.map (fun parameter => "    " ++ parameter.field)

/-- The docstring. -/
def docLines (function : Function) : List String :=
  ["    " ++ docQuote ++ summary function.route, ""] ++
    function.routes.map (fun route => "    " ++ docLine route) ++ ["    " ++ docQuote]

/-- The function with its class and the blank lines in front of both. -/
def lines (function : Function) : List String :=
  function.classLines ++ ["", ""] ++ signature function.name function.parameters ++
    function.docLines ++ (bodyLines function.body).map ("    " ++ ·)

end Function

/-- The line that binds a child module. -/
def Import.line (binding : Import) : String :=
  if binding.packages = [] then "import " ++ binding.name
  else "from " ++ ".".intercalate binding.packages ++ " import " ++ binding.name

namespace Module

/-- The docstring of the module and the line after it. -/
def headLines (module : Module) : List String :=
  [Function.docQuote ++ "Path helpers for " ++ code module.dotted ++ ".", "",
   "Generated by railpath from a " ++ code "rails routes" ++ " table. Do not edit by hand;",
   "run " ++ code "railpath generate" ++ " instead.", Function.docQuote, "",
   "from __future__ import annotations"]

/-- The imports of library names, as far as the module uses them. -/
def libraryLines (module : Module) : List String :=
  if module.hasParameters then
    ["", if module.hasOptional then "from typing import NotRequired, TypedDict"
      else "from typing import TypedDict", "from urllib.parse import quote"]
  else []

/-- The imports of child modules. -/
def childLines (module : Module) : List String :=
  if module.imports.isEmpty then [] else "" :: module.imports.map (·.line)

/-- The list of offered names. -/
def exportLines (module : Module) : List String :=
  ["", "__all__ = ["] ++ module.exports.map (fun name => "    \"" ++ name ++ "\",") ++ ["]"]

/-- The helper that makes a value safe as a component of a path. -/
def escapeLines (module : Module) : List String :=
  if module.hasParameters then
    ["", "", "def _escape(value: " ++ valueType ++ ") -> str:",
     "    return quote(str(value), safe=\"\")"]
  else []

/-- The lines of the module. -/
def lines (module : Module) : List String :=
  module.headLines ++ module.libraryLines ++ module.childLines ++ module.exportLines ++
    module.escapeLines ++ module.functions.flatMap (·.lines)

/-- The text of the module. Every line is closed by a line feed. -/
def print (module : Module) : String :=
  String.join (module.lines.map (· ++ "\n"))

end Module

end RoutePaths
