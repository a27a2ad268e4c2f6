import KDispatch.CoverageLog
import KDispatch.Proofs.Printing.SymbolTable
import KDispatch.Proofs.Text.Lines
import KDispatch.Proofs.Text.Utf8
import Mathlib.Data.List.Forall2

/-!
What a coverage log holds. Each line of the coverage file has one result, and the log has the texts of the
lines before the first one that fails. Logs can be put one after the other like the files they are about.
-/

namespace KDispatch.CoverageLog

/-- A coverage file with its lines: each is ended by a line feed, of which a return before it is a part, or
by the end of the file. -/
inductive IsSplit : Bytes → List Bytes → Prop
  | empty : IsSplit [] []
  | last {line : Bytes} (h : 0x0A ∉ line) (hne : line ≠ []) : IsSplit line [line]
  | next {line rest : Bytes} {more : List Bytes} (h : 0x0A ∉ line) (hrest : IsSplit rest more) :
      IsSplit (line ++ 0x0A :: rest) (Text.withoutReturn 0x0D line :: more)

/-- The lines of a coverage file are the only ones it is split into. -/
theorem isSplit_iff {content : Bytes} {ls : List Bytes} : IsSplit content ls ↔ ls = lines content := by
  constructor
  · intro h
    induction h with
    | empty => rfl
    | last h hne => exact (Text.linesBy_of_notMem 0x0A 0x0D h hne).symm
    | next h hrest ih => rw [ih, lines, lines, Text.linesBy_append_cons 0x0A 0x0D h]
  · rintro rfl
    induction hlength : content.length using Nat.strongRecOn generalizing content with
    | ind n ih =>
      by_cases hmem : 0x0A ∈ content
      · obtain ⟨line, rest, rfl, hline⟩ := List.eq_append_cons_of_mem hmem
        rw [lines, Text.linesBy_append_cons 0x0A 0x0D hline]
        exact .next hline (ih rest.length (by simp_all; omega) rfl)
      · by_cases hempty : content = []
        · exact hempty ▸ .empty
        · rw [lines, Text.linesBy_of_notMem 0x0A 0x0D hmem hempty]
          exact .last hmem hempty

/-! ## Results of lines -/

/-- What an entry, or a blank line, adds to the text of a log. -/
def textOf (found : Option CoverageEntry) : Text := (found.map CoverageEntry.text).getD []

theorem entry?_of_trim {definition : Definition} {table : SymbolTable} {line : Bytes} {text : Text}
    {id : String} (h : Utf8.encode text = line) (hid : Text.trim text = id.toList)
    (hne : id ≠ "") :
    entry? definition table line =
      match definition.ruleById? id with
      | none => .error (.unknownRule id)
      | some rule => .ok (some ⟨id, ruleText table rule⟩) := by
  have hnotEmpty : (Text.trim text).isEmpty = false := by simpa [hid] using hne
  have hline : idOnLine text = id := by rw [idOnLine, hid, String.ofList_toList]
  unfold entry?
  rw [Utf8.decode?_eq_some_iff_encode.2 h]
  dsimp only
  rw [hnotEmpty, hline]
  rfl

/-- The table may as well be made before the source map is left out. -/
theorem ofContent_eq (definition : Definition) (content : Bytes) :
    ofContent definition content =
      ofLines definition.withoutSourceMap (SymbolTable.ofDefinition definition) (lines content) := by
  rw [ofContent, SymbolTable.ofDefinition_withoutSourceMap]

/-- Logs depend on the first rules and on the table only. -/
theorem ofLines_congr {d e : Definition} (h : ∀ id, d.ruleById? id = e.ruleById? id)
    (table : SymbolTable) (ls : List Bytes) : ofLines d table ls = ofLines e table ls := by
  induction ls with
  | nil => rfl
  | cons line more ih =>
    have hentry : entry? d table line = entry? e table line := by
      unfold entry?
      simp only [h]
    rw [ofLines_cons, ofLines_cons, hentry, ih]

/-- Two definitions make the same log if their first rules are the same up to the source map, and they have the same
table. -/
theorem ofContent_congr_table {d e : Definition}
    (hrules : ∀ id, (d.ruleById? id).map Rule.withoutSourceMap =
      (e.ruleById? id).map Rule.withoutSourceMap)
    (htable : SymbolTable.ofDefinition d = SymbolTable.ofDefinition e) (content : Bytes) :
    ofContent d content = ofContent e content := by
  rw [ofContent_eq, ofContent_eq, htable]
  refine ofLines_congr (fun id => ?_) _ _
  rw [Definition.ruleById?_withoutSourceMap, Definition.ruleById?_withoutSourceMap, hrules]

/-- Two definitions make the same log if their first rules are the same up to the source map, and their first
productions have the same shapes. -/
theorem ofContent_congr {d e : Definition}
    (hrules : ∀ id, (d.ruleById? id).map Rule.withoutSourceMap =
      (e.ruleById? id).map Rule.withoutSourceMap)
    (hproductions : ∀ label, (d.productionByLabel? label).map Production.shape =
      (e.productionByLabel? label).map Production.shape) (content : Bytes) :
    ofContent d content = ofContent e content :=
  ofContent_congr_table hrules (SymbolTable.ofDefinition_congr hproductions) content

end KDispatch.CoverageLog
