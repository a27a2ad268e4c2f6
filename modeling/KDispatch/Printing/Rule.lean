import KDispatch.Json.Printer
import KDispatch.Printing.SymbolTable
import KDispatch.Rule.Basic
import KDispatch.Term.Basic

/-!
Terms and rules in concrete syntax, under a symbol table.
-/

namespace KDispatch.Term

mutual

def text (table : SymbolTable) : Term → Text
  | .var name => name.toList
  | .token text _ => text.toList
  | .apply label args => table.render label (textAll table args)
  | .asPattern pattern binder => text table pattern ++ " #as ".toList ++ text table binder
  | .rewrite lhs rhs => text table lhs ++ " => ".toList ++ text table rhs
  | .sequence items =>
    if items.isEmpty then ['.'] else Text.join "\n~> ".toList (textAll table items)

def textAll (table : SymbolTable) : List Term → List Text
  | [] => []
  | t :: ts => text table t :: textAll table ts

end

@[simp] theorem textAll_eq_map (table : SymbolTable) (ts : List Term) :
    textAll table ts = ts.map (text table) := by
  induction ts with
  | nil => rfl
  | cons t ts ih => simp [textAll, ih]

theorem text_apply (table : SymbolTable) (label : String) (args : List Term) :
    (apply label args).text table = table.render label (args.map (text table)) := by
  rw [← textAll_eq_map]
  rfl

/-- The concrete syntax as a string. -/
def print (table : SymbolTable) (t : Term) : String := String.ofList (t.text table)

end KDispatch.Term

/-! ## Rules

Rules as sentences: the body after the keyword and the label, then the conditions and the attributes
on lines of their own. Further lines of the body are indented by five spaces, of conditions by two.
-/

namespace KDispatch.Rule

/-- An attribute: its key alone if it has no value to show. -/
def attributeText (entry : String × Json) : Text :=
  match entry.2 with
  | .null => entry.1.toList
  | .string "" => entry.1.toList
  | .string value => entry.1.toList ++ '(' :: (value.toList ++ [')'])
  | value => entry.1.toList ++ '(' :: (value.text ++ [')'])

/-- The attributes that the list after a rule shows. -/
def listedAttributes (attributes : Attributes) : List (String × Json) :=
  attributes.entries.filter (·.1 ≠ Attributes.labelKey)

/-- The attribute list in brackets, or nothing if it has no entries. -/
def attributesText (attributes : Attributes) : Text :=
  let listed := listedAttributes attributes
  if listed.isEmpty then []
  else '[' :: (Text.join [',', ' '] (listed.map attributeText) ++ [']'])

/-- The label of a rule that has one, before its body. -/
def headerText (attributes : Attributes) : Text :=
  match attributes.string? Attributes.labelKey with
  | some label => '[' :: (label.toList ++ "]: ".toList)
  | none => []

def conditionText (table : SymbolTable) (keyword : Text) : Option Term → Text
  | some condition => '\n' :: ' ' :: ' ' :: (keyword ++ ' ' :: Text.hang 2 (condition.text table))
  | none => []

def text (table : SymbolTable) (rule : Rule) : Text :=
  let attributes := attributesText rule.attributes
  "rule ".toList ++ headerText rule.attributes ++ Text.hang 5 (rule.body.text table) ++
    conditionText table "requires".toList rule.requires ++
    conditionText table "ensures".toList rule.ensures ++
    (if attributes.isEmpty then [] else '\n' :: ' ' :: ' ' :: attributes)

/-- The sentence as a string. -/
def print (table : SymbolTable) (rule : Rule) : String := String.ofList (rule.text table)

end KDispatch.Rule
