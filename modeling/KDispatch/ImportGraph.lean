import KDispatch.Definition.Basic
import KDispatch.Text.Lines

/-!
Import graphs of definitions: module names and pairs of importing and imported modules, each once
and in lexicographic order, and their rendering in the DOT language.
-/

namespace KDispatch

/-- Lexicographic order of pairs of names. -/
def pairBefore (a b : String × String) : Bool :=
  Ordered.nameBefore a.1 b.1 || (a.1 == b.1 && Ordered.nameBefore a.2 b.2)

structure ImportGraph where
  nodes : List String
  edges : List (String × String)
  deriving DecidableEq

namespace ImportGraph

/-- The elements in ascending order, each once. -/
def ascending {α : Type} (before : α → α → Bool) (xs : List α) : List α :=
  xs.foldl (fun acc x => Ordered.insert before x acc) []

/-- Every module together with the modules it imports. -/
def names (definition : Definition) : List String :=
  definition.modules.flatMap fun m => m.name :: m.imports

def imports (definition : Definition) : List (String × String) :=
  definition.modules.flatMap fun m => m.imports.map (m.name, ·)

def ofDefinition (definition : Definition) : ImportGraph where
  nodes := ascending Ordered.nameBefore (names definition)
  edges := ascending pairBefore (imports definition)

def escapeChar (c : Char) : Text :=
  if c = '\\' then ['\\', '\\'] else if c = '"' then ['\\', '"'] else [c]

/-- A name between quotation marks. -/
def quote (name : String) : Text := '"' :: (name.toList.flatMap escapeChar ++ ['"'])

def nodeLine (name : String) : Text := "  ".toList ++ quote name ++ ";\n".toList

def edgeLine (edge : String × String) : Text :=
  "  ".toList ++ quote edge.1 ++ " -> ".toList ++ quote edge.2 ++ ";\n".toList

def dotText (graph : ImportGraph) : Text :=
  "digraph imports \x7b\n".toList ++ graph.nodes.flatMap nodeLine ++
    graph.edges.flatMap edgeLine ++ "\x7d\n".toList

/-- The graph in the DOT language. -/
def toDot (graph : ImportGraph) : String := String.ofList graph.dotText

end ImportGraph

end KDispatch
