import PageServer.Environment

/-! What every program has in scope: the standard library, markup elements and its own tables. -/

namespace PageServer.Library

/-- The names of the markup elements. -/
def elements : List String :=
  ["html", "head", "title", "meta", "link", "style", "script", "body",
   "header", "footer", "nav", "main", "section", "article", "aside",
   "h1", "h2", "h3", "h4", "h5", "h6",
   "div", "span", "p", "a", "em", "strong", "small", "code", "pre",
   "blockquote", "br", "hr", "img",
   "ul", "ol", "li", "dl", "dt", "dd",
   "table", "thead", "tbody", "tr", "th", "td",
   "form", "label", "input", "textarea", "button", "select", "option"]

/-- The standard library: each name with its value and its type. -/
def standard : Fields (Value × Ty) :=
  [("now", .deferred .now, .int), ("redirect", .builtin .redirect, .function .text .response)]

/-- The values of the standard library. -/
def standardFrame : Frame := standard.map fun entry => (entry.1, entry.2.1)

/-- The markup elements, each under its own name. -/
def elementFrame : Frame := elements.map fun name => (name, .tag name)

/-- The program's tables, each under its own name, as queries for all of their columns. -/
def tableFrame (tables : List Table) : Frame :=
  tables.map fun table => (table.name, .query (Query.ofTable table))

/-- The path variables of a request, as texts. -/
def pathFrame (pathVars : Fields String) : Frame :=
  pathVars.map fun entry => (entry.1, .text entry.2)

/-- The scope of a request: standard library, elements, tables, then path variables. -/
def environment (tables : List Table) (pathVars : Fields String) : Environment :=
  (((Environment.ofBindings standardFrame).extend elementFrame).extend
    (tableFrame tables)).extend (pathFrame pathVars)

end PageServer.Library
