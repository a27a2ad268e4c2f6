import KDispatch.Printing.Rule
import KDispatch.Proofs.Term.Subterms
import KDispatch.Proofs.Text.Layout

/-!
Nested cells. Each cell indents all lines of its arguments once more, so in the end every line is indented as
deep as the cells are nested around it.
-/

namespace KDispatch

/-- Moves a line to the right by two spaces for each cell around it. -/
def Text.shift (depth : Nat) (line : Text) : Text := List.replicate (2 * depth) ' ' ++ line

namespace Term

/-- The tags of an application that is printed as a cell. -/
def cellTags? (table : SymbolTable) : Term → Option (String × String)
  | .apply label _ =>
    match table.find? label with
    | some (.cell opening closing) => some (opening, closing)
    | _ => none
  | _ => none

/-- The lines of a term that is no cell, all at the same depth. -/
def contentLines (table : SymbolTable) (depth : Nat) (t : Term) : List Text :=
  (Text.lines (t.text table)).map (Text.shift depth)

mutual

/-- The lines of a term with so many cells around it: the tags of a cell at its own depth and the lines of
its arguments one deeper. -/
def nestedLines (table : SymbolTable) (depth : Nat) : Term → List Text
  | .apply label args =>
    match table.find? label with
    | some (.cell opening closing) =>
      if args.isEmpty then [Text.shift depth (opening.toList ++ ' ' :: closing.toList)]
      else
        Text.shift depth opening.toList ::
          (nestedLinesAll table (depth + 1) args ++ [Text.shift depth closing.toList])
    | _ => contentLines table depth (.apply label args)
  | t => contentLines table depth t

def nestedLinesAll (table : SymbolTable) (depth : Nat) : List Term → List Text
  | [] => []
  | t :: ts => nestedLines table depth t ++ nestedLinesAll table depth ts

end

@[simp] theorem nestedLinesAll_eq_flatMap (table : SymbolTable) (depth : Nat) (ts : List Term) :
    nestedLinesAll table depth ts = ts.flatMap (nestedLines table depth) := by
  induction ts with
  | nil => rfl
  | cons t ts ih => simp [nestedLinesAll, ih]

/-- Whether tags and contents can be told apart by lines: no tag is empty or ends a line, and what stands in
cells without being a cell is printed as a whole text. -/
inductive Indentable (table : SymbolTable) : Term → Prop
  | cell {t : Term} {opening closing : String} (htags : t.cellTags? table = some (opening, closing))
      (hopening : opening ≠ "" ∧ Text.OnOneLine opening.toList)
      (hclosing : closing ≠ "" ∧ Text.OnOneLine closing.toList)
      (hchildren : ∀ c ∈ t.children, Indentable table c) : Indentable table t
  | content {t : Term} (htags : t.cellTags? table = none) (htext : Text.IsWhole (t.text table)) :
      Indentable table t

open Text

variable {table : SymbolTable} {t : Term}

theorem nestedLines_apply_of_cell {label opening closing : String}
    (hfind : table.find? label = some (.cell opening closing)) (depth : Nat) (args : List Term) :
    (apply label args).nestedLines table depth =
      if args.isEmpty then [shift depth (opening.toList ++ ' ' :: closing.toList)]
      else
        shift depth opening.toList ::
          (args.flatMap (nestedLines table (depth + 1)) ++ [shift depth closing.toList]) := by
  rw [← nestedLinesAll_eq_flatMap, nestedLines, hfind]

theorem nestedLines_of_content (htags : t.cellTags? table = none) (depth : Nat) :
    t.nestedLines table depth = t.contentLines table depth := by
  cases t with
  | apply label args =>
    unfold cellTags? at htags
    unfold nestedLines
    split
    case h_1 hfind => simp [hfind] at htags
    case h_2 => rfl
  | _ => rfl

section Cell

variable {opening closing : String} (htags : t.cellTags? table = some (opening, closing))

include htags

theorem exists_of_cellTags? :
    ∃ label args, t = .apply label args ∧ table.find? label = some (.cell opening closing) := by
  cases t with
  | apply label args =>
    simp only [cellTags?] at htags
    split at htags
    case h_1 hfind =>
      obtain ⟨rfl, rfl⟩ := Prod.mk.inj (Option.some.inj htags)
      exact ⟨label, args, rfl, hfind⟩
    case h_2 => contradiction
  | _ => simp [cellTags?] at htags

theorem nestedLines_of_childless (hchildren : t.children = []) (depth : Nat) :
    t.nestedLines table depth = [shift depth (opening.toList ++ ' ' :: closing.toList)] := by
  obtain ⟨label, args, rfl, hfind⟩ := exists_of_cellTags? htags
  obtain rfl : args = [] := hchildren
  rw [nestedLines_apply_of_cell hfind]
  rfl

theorem nestedLines_of_cell (hchildren : t.children ≠ []) (depth : Nat) :
    t.nestedLines table depth =
      shift depth opening.toList ::
        (t.children.flatMap (nestedLines table (depth + 1)) ++ [shift depth closing.toList]) := by
  obtain ⟨label, args, rfl, hfind⟩ := exists_of_cellTags? htags
  have hargs : args ≠ [] := hchildren
  simp [nestedLines_apply_of_cell hfind, hargs]

theorem text_of_childless (hchildren : t.children = []) :
    t.text table = opening.toList ++ ' ' :: closing.toList := by
  obtain ⟨label, args, rfl, hfind⟩ := exists_of_cellTags? htags
  obtain rfl : args = [] := hchildren
  simp [text_apply, SymbolTable.render, hfind, Layout.render?]

theorem text_of_cell (hchildren : t.children ≠ []) :
    t.text table =
      opening.toList ++ '\n' :: (indent (join ['\n'] (t.children.map (text table))) ++
        '\n' :: closing.toList) := by
  obtain ⟨label, args, rfl, hfind⟩ := exists_of_cellTags? htags
  have hargs : args ≠ [] := hchildren
  simp [text_apply, SymbolTable.render, hfind, Layout.render?, hargs]

end Cell

theorem shift_succ (depth : Nat) (line : Text) :
    shift (depth + 1) line = [' ', ' '] ++ shift depth line := by
  rw [shift, Nat.mul_succ, Nat.add_comm, List.replicate_add, List.append_assoc]
  rfl

/-- One cell more around a term moves all its lines by two spaces. -/
theorem nestedLines_succ (table : SymbolTable) (depth : Nat) (t : Term) :
    t.nestedLines table (depth + 1) = (t.nestedLines table depth).map ([' ', ' '] ++ ·) := by
  induction t using children_induction generalizing depth with
  | step t ih =>
    cases htags : t.cellTags? table with
    | none =>
      rw [nestedLines_of_content htags, nestedLines_of_content htags, contentLines, contentLines,
        List.map_map]
      exact List.map_congr_left fun line _ => shift_succ depth line
    | some tags =>
      obtain ⟨opening, closing⟩ := tags
      by_cases hchildren : t.children = []
      · rw [nestedLines_of_childless htags hchildren, nestedLines_of_childless htags hchildren, shift_succ]
        rfl
      · rw [nestedLines_of_cell htags hchildren, nestedLines_of_cell htags hchildren, List.map_cons,
          List.map_append, List.map_flatMap, List.flatMap_congr fun c hc => ih c hc (depth + 1), shift_succ,
          shift_succ]
        rfl

theorem flatMap_nestedLines_one (table : SymbolTable) (ts : List Term) :
    ts.flatMap (nestedLines table 1) = (ts.flatMap (nestedLines table 0)).map ([' ', ' '] ++ ·) := by
  rw [List.map_flatMap]
  exact List.flatMap_congr fun t _ => nestedLines_succ table 0 t

/-- The lines of the arguments of a cell are a block if those of each argument are. -/
theorem isBlock_flatMap_nestedLines {ts : List Term} (hne : ts ≠ [])
    (h : ∀ t ∈ ts, IsBlock (t.nestedLines table 0)) : IsBlock (ts.flatMap (nestedLines table 0)) := by
  rw [List.flatMap_def]
  exact .flatten (by simpa using hne) (List.forall_mem_map.2 h)

/-- The texts of the arguments of a cell, joined and indented. -/
theorem indent_join_text {ts : List Term} (hne : ts ≠ [])
    (h : ∀ t ∈ ts, IsBlock (t.nestedLines table 0) ∧ t.text table = join ['\n'] (t.nestedLines table 0)) :
    indent (join ['\n'] (ts.map (text table))) = join ['\n'] (ts.flatMap (nestedLines table 1)) := by
  have hblock := isBlock_flatMap_nestedLines hne fun t ht => (h t ht).1
  have htexts : join ['\n'] (ts.map (text table)) = join ['\n'] (ts.flatMap (nestedLines table 0)) := by
    rw [List.flatMap_def, ← join_map_join, List.map_map]
    · exact congrArg _ (List.map_congr_left fun t ht => (h t ht).2)
    · exact List.forall_mem_map.2 fun t ht => (h t ht).1.ne_nil
  rw [htexts, hblock.indent_join, flatMap_nestedLines_one]

/-- The text of a term without cells around it consists of its nested lines, which are a block, so that they
can be read back when a cell indents them. -/
theorem text_eq_join_nestedLines (h : t.Indentable table) :
    IsBlock (t.nestedLines table 0) ∧ t.text table = join ['\n'] (t.nestedLines table 0) := by
  induction h with
  | @content t htags htext =>
    have hlines : t.nestedLines table 0 = lines (t.text table) := by
      rw [nestedLines_of_content htags, contentLines]
      exact List.map_id' _
    obtain ⟨hblock, hjoin⟩ := htext.isBlock_lines
    exact hlines ▸ ⟨hblock, hjoin.symm⟩
  | @cell t opening closing htags hopening hclosing _ ih =>
    have hlast : IsBlock [closing.toList] := .last hclosing.2 (by simpa using hclosing.1)
    by_cases hchildren : t.children = []
    · have hspace : OnOneLine [' '] := by decide
      rw [nestedLines_of_childless htags hchildren, text_of_childless htags hchildren]
      exact ⟨.last (hopening.2.append (hspace.append hclosing.2)) (by simp [shift]), rfl⟩
    · have hblock : IsBlock (t.children.flatMap (nestedLines table 1)) := by
        rw [flatMap_nestedLines_one]
        exact (isBlock_flatMap_nestedLines hchildren fun c hc => (ih c hc).1).map_append (by decide)
      rw [nestedLines_of_cell htags hchildren, text_of_cell htags hchildren,
        indent_join_text hchildren ih]
      refine ⟨.cons hopening.2 (hblock.append hlast), ?_⟩
      rw [join_cons_append_singleton _ _ _ hblock.ne_nil]
      simp [shift]

/-- Nested cells are indented by depth: a printed term consists of its nested lines. -/
theorem print_eq_join_nestedLines (h : t.Indentable table) :
    t.print table = String.ofList (join ['\n'] (t.nestedLines table 0)) :=
  congrArg String.ofList (text_eq_join_nestedLines h).2

/-- Cells under their own labels. -/
def cellTable : SymbolTable :=
  .ofList [("<top>", .cell "<top>" "</top>"), ("<k>", .cell "<k>" "</k>"), ("<out>", .cell "<out>" "</out>")]

/-- A cell of two cells, one with a token of three lines and one without arguments. -/
def cellTerm : Term :=
  .apply "<top>" [.apply "<k>" [.token "a\n\nb" "String"], .apply "<out>" []]

theorem print_cellTerm :
    cellTerm.Indentable cellTable ∧
      cellTerm.print cellTable =
        "<top>\n  <k>\n    a\n    \n    b\n  </k>\n  <out> </out>\n</top>" := by
  have htop : cellTerm.cellTags? cellTable = some ("<top>", "</top>") := by decide +kernel
  have hk : (apply "<k>" [.token "a\n\nb" "String"]).cellTags? cellTable = some ("<k>", "</k>") := by
    decide +kernel
  have hout : (apply "<out>" []).cellTags? cellTable = some ("<out>", "</out>") := by decide +kernel
  have hindentable : cellTerm.Indentable cellTable := by
    refine .cell htop (by decide) (by decide) fun c hc => ?_
    simp only [cellTerm, children_apply, List.mem_cons, List.not_mem_nil, or_false] at hc
    rcases hc with rfl | rfl
    · refine .cell hk (by decide) (by decide) fun c hc => ?_
      obtain rfl := List.mem_singleton.1 hc
      exact .content rfl ⟨by decide, by decide, by decide⟩
    · exact .cell hout (by decide) (by decide) (by simp)
  refine ⟨hindentable, ?_⟩
  rw [print_eq_join_nestedLines hindentable]
  decide +kernel

end Term

end KDispatch
