import KDispatch.Printing.Rule
import KDispatch.Rule.CoverageLogger
import KDispatch.Rule.Minimize
import KDispatch.Text.Lines

/-!
Coverage logs. A coverage file names one rule on each line; the log has an entry for each of them, up
to the first line that names no rule of the definition or is not text.
-/

namespace KDispatch

/-- Why a line of a coverage file stops the log. -/
inductive CoverageFailure where
  | invalidText
  | unknownRule (id : String)
  deriving DecidableEq

/-- What the log says about a rule: its identifier and its text. -/
structure CoverageEntry where
  id : String
  rule : Text
  deriving DecidableEq

namespace CoverageEntry

/-- The parts of the entry in the order in which they are written. -/
def pieces (entry : CoverageEntry) : List Text :=
  ["\n\nRule: ".toList, entry.id.toList, "\nUnparsed:\n".toList, entry.rule]

def text (entry : CoverageEntry) : Text := entry.pieces.flatten

end CoverageEntry

/-- The entries for the lines before the first failing one, and its failure if there is one. -/
structure CoverageLog where
  entries : List CoverageEntry
  failure : Option CoverageFailure

namespace CoverageLog

/-- The lines of a coverage file. -/
def lines (content : Bytes) : List Bytes := Text.linesBy 0x0A 0x0D content

/-- The rule as it was written: without the logging wrapper, minimized. -/
def ruleText (table : SymbolTable) (rule : Rule) : Text :=
  rule.stripCoverageLogger.minimize.text table

/-- The identifier on a line, without the blanks around it. -/
def idOnLine (line : Text) : String := String.ofList (Text.trim line)

/-- The entry for a line; a blank line has none. -/
def entry? (definition : Definition) (table : SymbolTable) (line : Bytes) :
    Except CoverageFailure (Option CoverageEntry) :=
  match Utf8.decode? line with
  | none => .error .invalidText
  | some line =>
    if (Text.trim line).isEmpty then .ok none
    else
      match definition.ruleById? (idOnLine line) with
      | none => .error (.unknownRule (idOnLine line))
      | some rule => .ok (some ⟨idOnLine line, ruleText table rule⟩)

def ofLines (definition : Definition) (table : SymbolTable) : List Bytes → CoverageLog
  | [] => ⟨[], none⟩
  | line :: more =>
    match entry? definition table line with
    | .error failure => ⟨[], some failure⟩
    | .ok none => ofLines definition table more
    | .ok (some entry) =>
      let log := ofLines definition table more
      ⟨entry :: log.entries, log.failure⟩

theorem ofLines_cons (definition : Definition) (table : SymbolTable) (line : Bytes)
    (more : List Bytes) : ofLines definition table (line :: more) =
      match entry? definition table line with
      | .error failure => ⟨[], some failure⟩
      | .ok none => ofLines definition table more
      | .ok (some entry) =>
        let log := ofLines definition table more
        ⟨entry :: log.entries, log.failure⟩ := rfl

/-- The log of a coverage file; source-map attributes of the definition do not show in it. -/
def ofContent (definition : Definition) (content : Bytes) : CoverageLog :=
  let definition := definition.withoutSourceMap
  ofLines definition (SymbolTable.ofDefinition definition) (lines content)

def text (log : CoverageLog) : Text := log.entries.flatMap CoverageEntry.text

end CoverageLog

end KDispatch
