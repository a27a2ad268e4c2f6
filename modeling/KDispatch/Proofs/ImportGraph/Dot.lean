import KDispatch.ImportGraph
import KDispatch.Proofs.KeyMap
import Mathlib.Data.String.Basic

/-!
Import graphs and their text. The nodes and the edges of a graph are the names and the imports of a definition,
each once and in lexicographic order. A reader of the text that undoes the escaping gets them back, whatever the
names contain, so the texts of two definitions are the same exactly if their names and their imports are.
-/

namespace KDispatch

/-! ## Ascending lists

In an order in which only equal elements rank the same, the ascending list of some elements holds just these, each
once, so it depends on the set of them only.
-/

namespace Ordered

/-- Whether elements are ordered strictly, and only equal ones rank the same. -/
structure IsStrict {α : Type} (before : α → α → Bool) : Prop where
  irrefl : ∀ a, before a a = false
  trans : ∀ a b c, before a b → before b c → before a c
  eq : ∀ a b, before a b = false → before b a = false → a = b

namespace IsStrict

variable {α : Type} {before : α → α → Bool}

theorem ne (h : IsStrict before) {a b : α} (hab : before a b) : a ≠ b := by
  rintro rfl
  rw [h.irrefl] at hab
  contradiction

theorem mem_insert_iff (h : IsStrict before) {x z : α} {ys : List α} :
    z ∈ insert before x ys ↔ z = x ∨ z ∈ ys := by
  refine ⟨eq_or_mem_of_mem_insert, ?_⟩
  rintro (rfl | hz)
  · exact mem_insert_self z ys
  induction ys with
  | nil => contradiction
  | cons y ys ih =>
    unfold insert
    split
    case isTrue => exact List.mem_cons_of_mem x hz
    case isFalse hxy =>
      split
      case isTrue =>
        rcases List.mem_cons.1 hz with rfl | hz
        · exact List.mem_cons_self
        · exact List.mem_cons_of_mem y (ih hz)
      case isFalse hyx =>
        -- the element that is replaced is the one that is put there
        obtain rfl := h.eq x y (by simpa using hxy) (by simpa using hyx)
        exact hz

theorem pairwise_insert (h : IsStrict before) {x : α} {ys : List α} (hys : ys.Pairwise (before · ·)) :
    (insert before x ys).Pairwise (before · ·) :=
  Ordered.pairwise_insert h.trans (fun a b _ hab hba hbc => h.eq a b hab hba ▸ hbc) hys

/-- Ascending lists with the same members are equal. -/
theorem eq_of_mem_iff (h : IsStrict before) {xs ys : List α} (hxs : xs.Pairwise (before · ·))
    (hys : ys.Pairwise (before · ·)) (hmem : ∀ z, z ∈ xs ↔ z ∈ ys) : xs = ys := by
  have hperm : xs.Perm ys := (List.perm_ext_iff_of_nodup (hxs.imp h.ne) (hys.imp h.ne)).2 hmem
  refine hperm.eq_of_pairwise (fun a b _ _ hab hba => ?_) hxs hys
  exact absurd rfl (h.ne (h.trans a b a hab hba))

end IsStrict

end Ordered

namespace ImportGraph

open Ordered (IsStrict nameBefore)

variable {α : Type} {before : α → α → Bool}

theorem ascending_append (xs : List α) (x : α) :
    ascending before (xs ++ [x]) = Ordered.insert before x (ascending before xs) := by
  simp [ascending]

theorem mem_ascending (h : IsStrict before) {xs : List α} {x : α} : x ∈ ascending before xs ↔ x ∈ xs := by
  induction xs using List.reverseRecOn with
  | nil => rfl
  | append_singleton xs y ih =>
    rw [ascending_append, h.mem_insert_iff, ih, List.mem_append, List.mem_singleton, or_comm]

theorem pairwise_ascending (h : IsStrict before) (xs : List α) :
    (ascending before xs).Pairwise (before · ·) := by
  induction xs using List.reverseRecOn with
  | nil => exact .nil
  | append_singleton xs y ih =>
    rw [ascending_append]
    exact h.pairwise_insert ih

theorem ascending_eq_iff (h : IsStrict before) {xs ys : List α} :
    ascending before xs = ascending before ys ↔ ∀ x, x ∈ xs ↔ x ∈ ys := by
  constructor
  · intro heq x
    rw [← mem_ascending h, heq, mem_ascending h]
  · intro hmem
    refine h.eq_of_mem_iff (pairwise_ascending h xs) (pairwise_ascending h ys) fun x => ?_
    rw [mem_ascending h, mem_ascending h, hmem]

/-! ## Lexicographic order -/

theorem precedes_iff_lt {s t : List Char} : Ordered.precedes s t ↔ s < t := by
  induction s generalizing t with
  | nil => cases t <;> simp [Ordered.precedes]
  | cons a s ih =>
    cases t with
    | nil => simp [Ordered.precedes]
    | cons b t =>
      simp only [Ordered.precedes, Bool.or_eq_true, decide_eq_true_eq, Bool.and_eq_true, beq_iff_eq, ih,
        List.cons_lt_cons_iff]
      rfl

theorem nameBefore_iff_lt {a b : String} : nameBefore a b ↔ a < b :=
  precedes_iff_lt.trans String.lt_iff_toList_lt.symm

theorem isStrict_nameBefore : IsStrict nameBefore where
  irrefl a := Ordered.precedes_irrefl a.toList
  trans _ _ _ := Ordered.precedes_trans
  eq _ _ hab hba := String.toList_inj.1 (Ordered.eq_of_not_precedes hab hba)

theorem pairBefore_iff_lt {a b : String × String} :
    pairBefore a b ↔ a.1 < b.1 ∨ a.1 = b.1 ∧ a.2 < b.2 := by
  simp [pairBefore, nameBefore_iff_lt]

theorem isStrict_pairBefore : IsStrict pairBefore where
  irrefl a := by simp [pairBefore, isStrict_nameBefore.irrefl]
  trans a b c hab hbc := by
    rw [pairBefore_iff_lt] at hab hbc ⊢
    rcases hab with hab | ⟨hab, hab'⟩ <;> rcases hbc with hbc | ⟨hbc, hbc'⟩
    · exact .inl (hab.trans hbc)
    · exact .inl (hbc ▸ hab)
    · exact .inl (hab ▸ hbc)
    · exact .inr ⟨hab.trans hbc, hab'.trans hbc'⟩
  eq a b hab hba := by
    simp only [pairBefore, Bool.or_eq_false_iff, Bool.and_eq_false_imp, beq_iff_eq] at hab hba
    have hfst : a.1 = b.1 := isStrict_nameBefore.eq _ _ hab.1 hba.1
    exact Prod.ext hfst (isStrict_nameBefore.eq _ _ (hab.2 hfst) (hba.2 hfst.symm))

end ImportGraph

/-! ## Nodes and edges -/

namespace Definition

/-- Whether a name is that of a module, or of one that a module imports. -/
def HasName (definition : Definition) (name : String) : Prop :=
  ∃ m ∈ definition.modules, name = m.name ∨ name ∈ m.imports

/-- Whether a module with the first name imports one with the second name. -/
def HasImport (definition : Definition) (importer imported : String) : Prop :=
  ∃ m ∈ definition.modules, importer = m.name ∧ imported ∈ m.imports

theorem HasImport.hasName {definition : Definition} {importer imported : String}
    (h : definition.HasImport importer imported) :
    definition.HasName importer ∧ definition.HasName imported := by
  obtain ⟨m, hm, himporter, himported⟩ := h
  exact ⟨⟨m, hm, .inl himporter⟩, ⟨m, hm, .inr himported⟩⟩

end Definition

namespace ImportGraph

variable {definition : Definition}

theorem mem_names_iff {name : String} : name ∈ names definition ↔ definition.HasName name := by
  simp [names, Definition.HasName]

theorem mem_imports_iff {edge : String × String} :
    edge ∈ imports definition ↔ definition.HasImport edge.1 edge.2 := by
  obtain ⟨importer, imported⟩ := edge
  simp [imports, Definition.HasImport, and_left_comm, eq_comm]

theorem mem_nodes_iff {name : String} :
    name ∈ (ofDefinition definition).nodes ↔ definition.HasName name :=
  (mem_ascending isStrict_nameBefore).trans mem_names_iff

theorem mem_edges_iff {edge : String × String} :
    edge ∈ (ofDefinition definition).edges ↔ definition.HasImport edge.1 edge.2 :=
  (mem_ascending isStrict_pairBefore).trans mem_imports_iff

/-- The graph depends on the set of names and the set of imports only. -/
theorem ofDefinition_eq_iff {d e : Definition} : ofDefinition d = ofDefinition e ↔
    (∀ name, d.HasName name ↔ e.HasName name) ∧
      ∀ importer imported, d.HasImport importer imported ↔ e.HasImport importer imported := by
  rw [ofDefinition, ofDefinition, ImportGraph.mk.injEq, ascending_eq_iff isStrict_nameBefore,
    ascending_eq_iff isStrict_pairBefore]
  simp only [mem_names_iff, mem_imports_iff, Prod.forall]

end ImportGraph

/-! ## Reading the text

A text lists statements, first the nodes and then the edges. A name ends at the first quotation mark that is not
escaped, so nothing that a name contains is taken for the end of its statement.
-/

namespace ImportGraph

inductive Statement where
  | node (name : String)
  | edge (importer imported : String)

namespace Statement

def text : Statement → Text
  | .node name => nodeLine name
  | .edge importer imported => edgeLine (importer, imported)

def node? : Statement → Option String
  | .node name => some name
  | .edge _ _ => none

def edge? : Statement → Option (String × String)
  | .node _ => none
  | .edge importer imported => some (importer, imported)

end Statement

/-- The nodes and then the edges of a graph. -/
def statements (graph : ImportGraph) : List Statement :=
  graph.nodes.map .node ++ graph.edges.map fun edge => .edge edge.1 edge.2

/-- Reads a name up to its closing quotation mark; what follows a backslash stands for itself. -/
def readName : Text → Option (Text × Text)
  | [] => none
  | '"' :: rest => some ([], rest)
  | '\\' :: c :: rest => (readName rest).map fun (name, rest) => (c :: name, rest)
  | c :: rest => (readName rest).map fun (name, rest) => (c :: name, rest)

/-- Reads a statement after the quotation mark that it begins with. -/
def readStatement (text : Text) : Option (Statement × Text) := do
  let (name, rest) ← readName text
  match rest with
  | ';' :: '\n' :: rest => return (.node (String.ofList name), rest)
  | ' ' :: '-' :: '>' :: ' ' :: '"' :: rest =>
    let (imported, rest) ← readName rest
    match rest with
    | ';' :: '\n' :: rest => return (.edge (String.ofList name) (String.ofList imported), rest)
    | _ => none
  | _ => none

/-- Reads statements up to the closing brace; `fuel` bounds their number. -/
def readStatements : (fuel : Nat) → Text → Option (List Statement)
  | _, ['\x7d', '\n'] => some []
  | fuel + 1, ' ' :: ' ' :: '"' :: text => do
    let (statement, rest) ← readStatement text
    return statement :: (← readStatements fuel rest)
  | _, _ => none

/-- The graph that a text in the DOT language lists. -/
def ofDot? (dot : String) : Option ImportGraph := do
  let rest ← dot.toList.dropPrefix? "digraph imports \x7b\n".toList
  let statements ← readStatements rest.length rest
  return ⟨statements.filterMap Statement.node?, statements.filterMap Statement.edge?⟩

theorem readName_escaped (name rest : Text) :
    readName (name.flatMap escapeChar ++ '"' :: rest) = some (name, rest) := by
  induction name with
  | nil => rfl
  | cons c name ih =>
    rw [List.flatMap_cons, List.append_assoc]
    by_cases hbackslash : c = '\\'
    · subst hbackslash
      simp [escapeChar, readName, ih]
    by_cases hquote : c = '"'
    · subst hquote
      simp [escapeChar, readName, ih]
    simp [escapeChar, readName, hbackslash, hquote, ih]

/-- What follows the first quotation mark of a statement. -/
def Statement.afterQuote : Statement → Text
  | .node name => name.toList.flatMap escapeChar ++ ['"', ';', '\n']
  | .edge importer imported => importer.toList.flatMap escapeChar ++
      '"' :: ' ' :: '-' :: '>' :: ' ' :: '"' :: (imported.toList.flatMap escapeChar ++ ['"', ';', '\n'])

theorem Statement.text_eq (statement : Statement) :
    statement.text = ' ' :: ' ' :: '"' :: statement.afterQuote := by
  cases statement with
  | node name => simp [text, nodeLine, quote, afterQuote]
  | edge importer imported => simp [text, edgeLine, quote, afterQuote]

theorem readStatement_afterQuote (statement : Statement) (rest : Text) :
    readStatement (statement.afterQuote ++ rest) = some (statement, rest) := by
  cases statement with
  | node name =>
    have hname := readName_escaped name.toList (';' :: '\n' :: rest)
    simp [Statement.afterQuote, readStatement, hname]
  | edge importer imported =>
    have himported := readName_escaped imported.toList (';' :: '\n' :: rest)
    have himporter := readName_escaped importer.toList
      (' ' :: '-' :: '>' :: ' ' :: '"' ::
        (imported.toList.flatMap escapeChar ++ '"' :: ';' :: '\n' :: rest))
    simp [Statement.afterQuote, readStatement, himporter, himported]

/-- All statements are read back, by induction on them. -/
theorem readStatements_flatMap_text (statements : List Statement) {fuel : Nat}
    (hfuel : (statements.flatMap Statement.text).length ≤ fuel) :
    readStatements fuel (statements.flatMap Statement.text ++ ['\x7d', '\n']) = some statements := by
  induction statements generalizing fuel with
  | nil => cases fuel <;> rfl
  | cons statement statements ih =>
    rw [List.flatMap_cons, Statement.text_eq] at hfuel ⊢
    obtain ⟨fuel, rfl⟩ : ∃ n, fuel = n + 1 := ⟨fuel - 1, by simp at hfuel; omega⟩
    have hrest : (statements.flatMap Statement.text).length ≤ fuel := by
      simp only [List.length_append, List.length_cons] at hfuel
      omega
    simp only [List.cons_append, List.append_assoc, readStatements]
    rw [readStatement_afterQuote]
    simp [ih hrest]

theorem flatMap_text_statements (graph : ImportGraph) : graph.statements.flatMap Statement.text =
    graph.nodes.flatMap nodeLine ++ graph.edges.flatMap edgeLine := by
  rw [statements, List.flatMap_append, List.flatMap_map, List.flatMap_map]
  rfl

theorem dotText_eq (graph : ImportGraph) : graph.dotText = "digraph imports \x7b\n".toList ++
    (graph.statements.flatMap Statement.text ++ ['\x7d', '\n']) := by
  have hclosing : "\x7d\n".toList = ['\x7d', '\n'] := rfl
  unfold dotText
  rw [flatMap_text_statements, hclosing, List.append_assoc, List.append_assoc, List.append_assoc]

theorem filterMap_node?_statements (graph : ImportGraph) :
    graph.statements.filterMap Statement.node? = graph.nodes := by
  simp [statements, List.filterMap_append, List.filterMap_map, Function.comp_def, Statement.node?]

theorem filterMap_edge?_statements (graph : ImportGraph) :
    graph.statements.filterMap Statement.edge? = graph.edges := by
  simp [statements, List.filterMap_append, List.filterMap_map, Function.comp_def, Statement.edge?]

/-- The reader gets back every graph from its text. -/
theorem ofDot?_toDot (graph : ImportGraph) : ofDot? graph.toDot = some graph := by
  have hopening (rest : Text) : ("digraph imports \x7b\n".toList ++ rest).dropPrefix?
      "digraph imports \x7b\n".toList = some rest := List.dropPrefix?_append_of_beq rest (by simp)
  have hread := @readStatements_flatMap_text graph.statements
    (graph.statements.flatMap Statement.text ++ ['\x7d', '\n']).length (by simp)
  unfold ofDot? toDot
  rw [String.toList_ofList, dotText_eq, hopening]
  simp only [Option.bind_eq_bind, Option.bind_some]
  rw [hread, Option.bind_some, filterMap_node?_statements, filterMap_edge?_statements]
  rfl

theorem toDot_inj {g h : ImportGraph} : g.toDot = h.toDot ↔ g = h := by
  refine ⟨fun heq => ?_, congrArg toDot⟩
  have hread := ofDot?_toDot g
  rw [heq, ofDot?_toDot] at hread
  exact (Option.some.inj hread).symm

/-- Definitions have the same text exactly if they have the same names and the same imports. A reader of the text
finds the graph, in which every module of an import is a node, and nodes and edges are in lexicographic order, each
once. -/
theorem toDot_ofDefinition_eq_iff :
    (∀ d e : Definition, (ofDefinition d).toDot = (ofDefinition e).toDot ↔
      (∀ name, d.HasName name ↔ e.HasName name) ∧
        ∀ importer imported, d.HasImport importer imported ↔ e.HasImport importer imported) ∧
    ∀ definition : Definition, ofDot? (ofDefinition definition).toDot = some (ofDefinition definition) ∧
      (∀ name, name ∈ (ofDefinition definition).nodes ↔ definition.HasName name) ∧
      (∀ edge, edge ∈ (ofDefinition definition).edges ↔ definition.HasImport edge.1 edge.2) ∧
      (∀ edge ∈ (ofDefinition definition).edges,
        edge.1 ∈ (ofDefinition definition).nodes ∧ edge.2 ∈ (ofDefinition definition).nodes) ∧
      (ofDefinition definition).nodes.Pairwise (· < ·) ∧
      (ofDefinition definition).edges.Pairwise fun a b => a.1 < b.1 ∨ a.1 = b.1 ∧ a.2 < b.2 := by
  refine ⟨fun d e => toDot_inj.trans ofDefinition_eq_iff, fun definition => ?_⟩
  refine ⟨ofDot?_toDot _, fun name => mem_nodes_iff, fun edge => mem_edges_iff, fun edge hedge => ?_, ?_, ?_⟩
  · obtain ⟨himporter, himported⟩ := (mem_edges_iff.1 hedge).hasName
    exact ⟨mem_nodes_iff.2 himporter, mem_nodes_iff.2 himported⟩
  · exact (pairwise_ascending isStrict_nameBefore _).imp nameBefore_iff_lt.1
  · exact (pairwise_ascending isStrict_pairBefore _).imp pairBefore_iff_lt.1

/-- A name that contains the end of its statement and another one is not taken for two names. -/
example : ofDot? (toDot ⟨["A\";\n  \"B"], []⟩) = some ⟨["A\";\n  \"B"], []⟩ ∧
    ofDot? (toDot ⟨["A", "B"], []⟩) = some ⟨["A", "B"], []⟩ := by
  decide

end ImportGraph

end KDispatch
