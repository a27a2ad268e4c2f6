import KDispatch.Definition.Basic
import KDispatch.Text.Lines

/-!
How applications of a label are laid out. A mixfix layout puts the arguments between fixed texts and
asks for as many as it has places; a cell layout puts any number of arguments between two tags. The
table of a definition has the layout of the first production of each label, and of the connectives
of matching logic that no production declares.
-/

namespace KDispatch

inductive Segment where
  | text (text : String)
  | arg
  deriving DecidableEq

namespace Segment

def isArg : Segment → Bool
  | .arg => true
  | .text _ => false

def ofItem? : ProductionItem → Option Segment
  | .terminal t => some (.text t)
  | .nonTerminal _ => some .arg
  | .other => none

/-- The texts of the segments, with the arguments in order at their places. -/
def fill : List Segment → List Text → List Text
  | [], _ => []
  | .text t :: segments, args => t.toList :: fill segments args
  | .arg :: segments, a :: args => a :: fill segments args
  | .arg :: segments, [] => fill segments []

end Segment

inductive Layout where
  | mixfix (segments : List Segment)
  | cell (opening closing : String)
  deriving DecidableEq

namespace Layout

/-- The closing tag of a cell whose production has none. -/
def closingTag (label : String) : String :=
  let inner := (label.toList.dropWhile (· == '<')).reverse.dropWhile (· == '>')
  String.ofList ('<' :: '/' :: (inner.reverse ++ ['>']))

/-- The layout of a cell: its tags are the first terminal and the last one after it. -/
def ofTags (label : String) : List String → Layout
  | [] => .cell label (closingTag label)
  | opening :: others => .cell opening (others.getLast?.getD (closingTag label))

def ofProduction (label : String) (production : Production) : Layout :=
  if production.attributes.contains Attributes.cellKey then
    ofTags label (production.items.filterMap ProductionItem.terminal?)
  else .mixfix (production.items.filterMap Segment.ofItem?)

/-- The number of arguments a layout asks for, if it does. -/
def arity? : Layout → Option Nat
  | .mixfix segments => some (segments.countP Segment.isArg)
  | .cell _ _ => none

/-- The text of an application, unless the layout asks for another number of arguments. -/
def render? (args : List Text) : Layout → Option Text
  | .mixfix segments =>
    if segments.countP Segment.isArg = args.length then
      some (Text.join [' '] ((Segment.fill segments args).filter (!·.isEmpty)))
    else none
  | .cell opening closing =>
    if args.isEmpty then some (opening.toList ++ ' ' :: closing.toList)
    else
      some (opening.toList ++ '\n' :: (Text.indent (Text.join ['\n'] args) ++
        '\n' :: closing.toList))

end Layout

/-- Layouts by label. -/
abbrev SymbolTable := KeyMap Layout

namespace SymbolTable

/-- The connectives of matching logic. -/
def connectives : List (String × Layout) :=
  [("#And", .mixfix [.arg, .text "#And", .arg]),
   ("#Or", .mixfix [.arg, .text "#Or", .arg]),
   ("#Not", .mixfix [.text "#Not", .text "(", .arg, .text ")"]),
   ("#Equals", .mixfix [.text "\x7b", .arg, .text "#Equals", .arg, .text "\x7d"]),
   ("#Ceil", .mixfix [.text "#Ceil", .text "(", .arg, .text ")"]),
   ("#Top", .mixfix [.text "#Top"]),
   ("#Bottom", .mixfix [.text "#Bottom"])]

def basic : SymbolTable := KeyMap.ofList connectives

/-- Declares the label of a production, if it has one, in place of an earlier declaration. -/
def declare (production : Production) (table : SymbolTable) : SymbolTable :=
  match production.label with
  | some label => table.insert label (Layout.ofProduction label production)
  | none => table

/-- The productions are declared from the last one to the first, so that the first one counts. -/
def ofProductions (productions : List Production) : SymbolTable := productions.foldr declare basic

def ofDefinition (definition : Definition) : SymbolTable := ofProductions definition.productions

/-- Label and arguments between parentheses. -/
def appliedForm (label : String) (args : List Text) : Text :=
  label.toList ++ '(' :: (Text.join [',', ' '] args ++ [')'])

/-- An application by the layout of its label, or in applied form if there is none that fits. -/
def render (table : SymbolTable) (label : String) (args : List Text) : Text :=
  ((table.find? label).bind (Layout.render? args)).getD (appliedForm label args)

end SymbolTable

end KDispatch
