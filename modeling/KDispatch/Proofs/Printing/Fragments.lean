import KDispatch.Proofs.Printing.Rule
import KDispatch.Proofs.Term.Subterms
import KDispatch.Proofs.Text.Layout
import Mathlib.Data.List.Forall2

/-!
What terms and rules are printed as, up to spacing. A printed term spells its fragments: the names of its
variables and the texts of its tokens, each once and in their order, between the marks that labels and their
layouts put in. How it is split into lines and indented is spacing only.
-/

namespace KDispatch

/-- A part of a printed term. -/
inductive Fragment where
  /-- The name of a variable or the text of a token. -/
  | content (text : String)
  /-- What a label or its layout puts between the others. -/
  | mark (text : String)

namespace Fragment

def text : Fragment → Text
  | .content t => t.toList
  | .mark t => t.toList

def content? : Fragment → Option String
  | .content t => some t
  | .mark _ => none

/-- The texts of the fragments, one after the other. -/
def flat (fragments : List Fragment) : Text := fragments.flatMap text

/-- The names of variables and the texts of tokens among the fragments. -/
def contents (fragments : List Fragment) : List String := fragments.filterMap content?

/-- The parts one after the other, with a mark between neighbours. -/
def separated (separator : String) (parts : List (List Fragment)) : List Fragment :=
  [.mark separator].intercalate parts

/-- A label applied to parts between parentheses. -/
def applied (label : String) (parts : List (List Fragment)) : List Fragment :=
  .mark label :: .mark "(" :: (separated "," parts ++ [.mark ")"])

end Fragment

/-- The terminals of the segments as marks, with the parts in order at the places for arguments. -/
def Segment.place : List Segment → List (List Fragment) → List Fragment
  | [], _ => []
  | .text t :: segments, parts => .mark t :: place segments parts
  | .arg :: segments, part :: parts => part ++ place segments parts
  | .arg :: segments, [] => place segments []

/-- The fragments of an application whose arguments have the given ones. -/
def SymbolTable.fragments (table : SymbolTable) (label : String) (parts : List (List Fragment)) :
    List Fragment :=
  match table.find? label with
  | some (.mixfix segments) =>
    if segments.countP Segment.isArg = parts.length then Segment.place segments parts
    else Fragment.applied label parts
  | some (.cell opening closing) => .mark opening :: (parts.flatten ++ [.mark closing])
  | none => Fragment.applied label parts

namespace Term

mutual

def fragments (table : SymbolTable) : Term → List Fragment
  | .var name => [.content name]
  | .token text _ => [.content text]
  | .apply label args => table.fragments label (fragmentsAll table args)
  | .asPattern pattern binder => fragments table pattern ++ .mark "#as" :: fragments table binder
  | .rewrite lhs rhs => fragments table lhs ++ .mark "=>" :: fragments table rhs
  | .sequence items =>
    if items.isEmpty then [.mark "."] else Fragment.separated "~>" (fragmentsAll table items)

def fragmentsAll (table : SymbolTable) : List Term → List (List Fragment)
  | [] => []
  | t :: ts => fragments table t :: fragmentsAll table ts

end

@[simp] theorem fragmentsAll_eq_map (table : SymbolTable) (ts : List Term) :
    fragmentsAll table ts = ts.map (fragments table) := by
  induction ts with
  | nil => rfl
  | cons t ts ih => simp [fragmentsAll, ih]

/-- The term in concrete syntax on one line, without any spaces of its own. -/
def flat (table : SymbolTable) (t : Term) : Text := Fragment.flat (t.fragments table)

/-- The name of a variable or the text of a token. -/
def leafText? : Term → Option String
  | .var name => some name
  | .token text _ => some text
  | _ => none

/-- The names of the variables and the texts of the tokens, from left to right. -/
def leafTexts (t : Term) : List String := t.preorder.filterMap leafText?

theorem leafTexts_eq (t : Term) :
    t.leafTexts = t.leafText?.toList ++ t.children.flatMap leafTexts := by
  rw [leafTexts, preorder_eq]
  cases h : t.leafText? <;> simp only [h, List.filterMap_cons, List.filterMap_flatMap] <;> rfl

end Term

namespace Rule

/-- The label of a rule that has one. -/
def headerFragments (attributes : Attributes) : List Fragment :=
  match attributes.string? Attributes.labelKey with
  | some label => [.mark "[", .mark label, .mark "]:"]
  | none => []

def conditionFragments (table : SymbolTable) (keyword : String) : Option Term → List Fragment
  | some condition => .mark keyword :: condition.fragments table
  | none => []

def attributeFragments (attributes : Attributes) : List Fragment :=
  let listed := listedAttributes attributes
  if listed.isEmpty then []
  else
    .mark "[" :: (Fragment.separated ","
      (listed.map fun entry => [.mark (String.ofList (attributeText entry))]) ++ [.mark "]"])

def fragments (table : SymbolTable) (rule : Rule) : List Fragment :=
  .mark "rule" :: (headerFragments rule.attributes ++ (rule.body.fragments table ++
    (conditionFragments table "requires" rule.requires ++
      (conditionFragments table "ensures" rule.ensures ++ attributeFragments rule.attributes))))

/-- The sentence on one line, without any spaces of its own. -/
def flat (table : SymbolTable) (rule : Rule) : Text := Fragment.flat (rule.fragments table)

end Rule

open Text

namespace Fragment

@[simp] theorem flat_append (xs ys : List Fragment) : flat (xs ++ ys) = flat xs ++ flat ys :=
  List.flatMap_append

@[simp] theorem flat_cons (x : Fragment) (xs : List Fragment) : flat (x :: xs) = x.text ++ flat xs :=
  rfl

theorem flat_flatten (parts : List (List Fragment)) : flat parts.flatten = (parts.map flat).flatten := by
  induction parts with
  | nil => rfl
  | cons part parts ih => rw [List.flatten_cons, flat_append, ih, List.map_cons, List.flatten_cons]

theorem flat_separated (separator : String) (parts : List (List Fragment)) :
    flat (separated separator parts) = join separator.toList (parts.map flat) := by
  unfold separated
  induction parts with
  | nil => rfl
  | cons part parts ih =>
    cases parts with
    | nil => simp
    | cons next more =>
      have hmark : flat [mark separator] = separator.toList := List.append_nil _
      rw [List.intercalate_cons_cons, flat_append, flat_append, ih, hmark]
      rfl

theorem contents_append (xs ys : List Fragment) : contents (xs ++ ys) = contents xs ++ contents ys :=
  List.filterMap_append

theorem contents_flatten (parts : List (List Fragment)) :
    contents parts.flatten = parts.flatMap contents := by
  rw [contents, List.filterMap_flatten, List.flatMap_def]
  rfl

theorem contents_separated (separator : String) (parts : List (List Fragment)) :
    contents (separated separator parts) = parts.flatMap contents := by
  unfold separated
  induction parts with
  | nil => rfl
  | cons part parts ih =>
    cases parts with
    | nil => simp
    | cons next more =>
      have hmark : contents [mark separator] = [] := rfl
      rw [List.intercalate_cons_cons, contents_append, contents_append, ih, hmark, List.append_nil]
      rfl

theorem contents_applied (label : String) (parts : List (List Fragment)) :
    contents (applied label parts) = parts.flatMap contents := by
  have hmarks : contents (applied label parts) = contents (separated "," parts ++ [mark ")"]) := rfl
  rw [hmarks, contents_append, contents_separated]
  exact List.append_nil _

/-- If there are as many places as parts, each part gets one place. -/
theorem contents_place {segments : List Segment} {parts : List (List Fragment)}
    (h : segments.countP Segment.isArg = parts.length) :
    contents (Segment.place segments parts) = parts.flatMap contents := by
  induction segments generalizing parts with
  | nil =>
    obtain rfl := List.length_eq_zero_iff.1 h.symm
    rfl
  | cons segment segments ih =>
    cases segment with
    | text t => exact ih h
    | arg =>
      cases parts with
      | nil => simp [Segment.isArg] at h
      | cons part parts =>
        rw [List.countP_cons_of_pos rfl, List.length_cons] at h
        have hmore : segments.countP Segment.isArg = parts.length := Nat.succ.inj h
        rw [Segment.place, contents_append, ih hmore, List.flatMap_cons]

/-- Whatever its layout, an application has the contents of its arguments in their order. -/
theorem contents_fragments (table : SymbolTable) (label : String) (parts : List (List Fragment)) :
    contents (table.fragments label parts) = parts.flatMap contents := by
  unfold SymbolTable.fragments
  split
  case h_1 segments _ =>
    split
    case isTrue harity => exact contents_place harity
    case isFalse => exact contents_applied label parts
  case h_2 opening closing _ =>
    have hmark : contents (mark opening :: (parts.flatten ++ [mark closing])) =
        contents (parts.flatten ++ [mark closing]) := rfl
    rw [hmark, contents_append, contents_flatten]
    exact List.append_nil _
  case h_3 => exact contents_applied label parts

section Spelling

/-- The text is, up to spacing, what the fragments say. -/
def Spells (part : List Fragment) (text : Text) : Prop :=
  withoutSpacing text = withoutSpacing (flat part)

theorem spells_mark_iff {t : String} {text : Text} :
    Spells [.mark t] text ↔ withoutSpacing text = withoutSpacing t.toList := by
  rw [Spells, flat_cons, withoutSpacing_append]
  exact iff_of_eq (congrArg _ (List.append_nil _))

theorem Spells.mark (t : String) : Spells [.mark t] t.toList := spells_mark_iff.2 rfl

theorem Spells.append {xs ys : List Fragment} {s t : Text} (hs : Spells xs s) (ht : Spells ys t) :
    Spells (xs ++ ys) (s ++ t) := by
  rw [Spells, withoutSpacing_append, hs, ht, flat_append, withoutSpacing_append]

/-- Spacing may be put in wherever one likes. -/
theorem Spells.space {xs : List Fragment} {s : Text} (hs : Spells xs s) {c : Char} (hc : isSpacing c) :
    Spells xs (c :: s) := by
  rw [Spells, ← hs, withoutSpacing, List.filter_cons_of_neg (by simp [hc])]
  rfl

theorem Spells.hang {xs : List Fragment} {s : Text} (hs : Spells xs s) (width : Nat) :
    Spells xs (Text.hang width s) := by
  rw [Spells, withoutSpacing_hang, hs]

variable {parts : List (List Fragment)} {texts : List Text}

/-- Texts that spell parts one by one are, up to spacing, the texts of these parts. -/
theorem map_withoutSpacing_eq (h : List.Forall₂ Spells parts texts) :
    texts.map withoutSpacing = (parts.map flat).map withoutSpacing := by
  induction h with
  | nil => rfl
  | cons hpart _ ih => rw [List.map_cons, hpart, ih, List.map_cons, List.map_cons]

theorem spells_flatten (h : List.Forall₂ Spells parts texts) : Spells parts.flatten texts.flatten := by
  rw [Spells, flat_flatten, withoutSpacing_flatten, withoutSpacing_flatten, map_withoutSpacing_eq h]

/-- A mark between neighbours may have spacing around it. -/
theorem spells_separated {separator : String} {spaced : Text} (hspaced : Spells [.mark separator] spaced)
    (h : List.Forall₂ Spells parts texts) : Spells (separated separator parts) (join spaced texts) := by
  rw [spells_mark_iff] at hspaced
  rw [Spells, flat_separated, withoutSpacing_join, withoutSpacing_join, hspaced, map_withoutSpacing_eq h]

theorem spells_applied (label : String) (h : List.Forall₂ Spells parts texts) :
    Spells (applied label parts) (SymbolTable.appliedForm label texts) := by
  have hcomma : Spells [.mark ","] [',', ' '] := rfl
  exact (Spells.mark label).append
    ((Spells.mark "(").append ((spells_separated hcomma h).append (Spells.mark ")")))

theorem spells_place (segments : List Segment) (h : List.Forall₂ Spells parts texts) :
    Spells (Segment.place segments parts) (Segment.fill segments texts).flatten := by
  induction segments generalizing parts texts with
  | nil => rfl
  | cons segment segments ih =>
    cases segment with
    | text t => exact (Spells.mark t).append (ih h)
    | arg =>
      cases h with
      | nil => exact ih .nil
      | cons hpart hparts => exact hpart.append (ih hparts)

/-- A layout spells what there is to print of an application, on however many lines. -/
theorem spells_render (table : SymbolTable) (label : String) (h : List.Forall₂ Spells parts texts) :
    Spells (table.fragments label parts) (table.render label texts) := by
  unfold SymbolTable.fragments SymbolTable.render
  cases table.find? label with
  | none => exact spells_applied label h
  | some layout =>
    cases layout with
    | mixfix segments =>
      rw [Option.bind_some, Layout.render?, ← h.length_eq]
      dsimp only
      split
      case isTrue =>
        rw [Option.getD_some, Spells, withoutSpacing_join_of_spacing rfl, ← withoutSpacing_flatten,
          List.flatten_filter_not_isEmpty]
        exact spells_place segments h
      case isFalse => exact spells_applied label h
    | cell opening closing =>
      rw [Option.bind_some, Layout.render?]
      cases h with
      | nil => exact (Spells.mark opening).append ((Spells.mark closing).space rfl)
      | @cons part text parts texts hpart hparts =>
        have hlines : Spells (part :: parts).flatten (indent (join ['\n'] (text :: texts))) := by
          rw [Spells, withoutSpacing_indent, withoutSpacing_join_of_spacing rfl, ← withoutSpacing_flatten]
          exact spells_flatten (.cons hpart hparts)
        exact (Spells.mark opening).append
          ((hlines.append ((Spells.mark closing).space rfl)).space rfl)

end Spelling

end Fragment

namespace Term

open Fragment

theorem spells_text (table : SymbolTable) (t : Term) : Spells (t.fragments table) (t.text table) := by
  have hall {ts : List Term} (h : ∀ t ∈ ts, Spells (t.fragments table) (t.text table)) :
      List.Forall₂ Spells (ts.map (fragments table)) (ts.map (text table)) := by
    rw [List.forall₂_map_left_iff, List.forall₂_map_right_iff, List.forall₂_same]
    exact h
  induction t with
  | var | token => exact congrArg withoutSpacing (List.append_nil _).symm
  | apply label args ih =>
    rw [fragments, text, fragmentsAll_eq_map, textAll_eq_map]
    exact spells_render table label (hall ih)
  | asPattern pattern binder ihp ihb =>
    rw [fragments, text, List.append_assoc]
    have hword : Spells [.mark "#as"] " #as ".toList := rfl
    exact ihp.append (hword.append ihb)
  | rewrite lhs rhs ihl ihr =>
    rw [fragments, text, List.append_assoc]
    have harrow : Spells [.mark "=>"] " => ".toList := rfl
    exact ihl.append (harrow.append ihr)
  | sequence items ih =>
    rw [fragments, text, fragmentsAll_eq_map, textAll_eq_map]
    split
    case isTrue => exact Spells.mark "."
    case isFalse =>
      have harrow : Spells [.mark "~>"] "\n~> ".toList := rfl
      exact spells_separated harrow (hall ih)

theorem contents_fragments (table : SymbolTable) (t : Term) :
    contents (t.fragments table) = t.leafTexts := by
  induction t with
  | var | token => rfl
  | apply label args ih =>
    rw [fragments, fragmentsAll_eq_map, Fragment.contents_fragments, List.flatMap_map, leafTexts_eq]
    exact List.flatMap_congr ih
  | asPattern pattern binder ihp ihb =>
    have hmark : contents (mark "#as" :: binder.fragments table) = contents (binder.fragments table) := rfl
    rw [fragments, contents_append, hmark, ihp, ihb, leafTexts_eq (.asPattern _ _)]
    simp [children, leafText?]
  | rewrite lhs rhs ihl ihr =>
    have hmark : contents (mark "=>" :: rhs.fragments table) = contents (rhs.fragments table) := rfl
    rw [fragments, contents_append, hmark, ihl, ihr, leafTexts_eq (.rewrite _ _)]
    simp [children, leafText?]
  | sequence items ih =>
    rw [fragments, fragmentsAll_eq_map, leafTexts_eq]
    split
    case isTrue hempty =>
      obtain rfl := List.isEmpty_iff.1 hempty
      rfl
    case isFalse =>
      rw [contents_separated, List.flatMap_map]
      exact List.flatMap_congr ih

end Term

namespace Rule

open Fragment

theorem spells_headerText (attributes : Attributes) :
    Spells (headerFragments attributes) (headerText attributes) := by
  unfold headerFragments headerText
  cases attributes.string? Attributes.labelKey with
  | none => rfl
  | some label =>
    have hend : Spells [.mark "]:"] "]: ".toList := rfl
    exact (Spells.mark "[").append ((Spells.mark label).append hend)

theorem spells_conditionText (table : SymbolTable) (keyword : String) (condition : Option Term) :
    Spells (conditionFragments table keyword condition)
      (conditionText table keyword.toList condition) := by
  cases condition with
  | none => rfl
  | some condition =>
    have htext := (condition.spells_text table).hang 2
    exact ((((Spells.mark keyword).append (htext.space rfl)).space rfl).space rfl).space rfl

theorem spells_attributesText (attributes : Attributes) :
    Spells (attributeFragments attributes) (attributesText attributes) := by
  have hcomma : Spells [.mark ","] [',', ' '] := rfl
  have hlisted : List.Forall₂ Spells
      ((listedAttributes attributes).map fun entry => [.mark (String.ofList (attributeText entry))])
      ((listedAttributes attributes).map attributeText) := by
    rw [List.forall₂_map_left_iff, List.forall₂_map_right_iff, List.forall₂_same]
    intro entry _
    rw [spells_mark_iff, String.toList_ofList]
  unfold attributeFragments attributesText
  dsimp only
  split
  · rfl
  · exact (Spells.mark "[").append ((spells_separated hcomma hlisted).append (Spells.mark "]"))

theorem spells_text (table : SymbolTable) (rule : Rule) :
    Spells (rule.fragments table) (rule.text table) := by
  have hattributes : Spells (attributeFragments rule.attributes)
      (if (attributesText rule.attributes).isEmpty then []
        else '\n' :: ' ' :: ' ' :: attributesText rule.attributes) := by
    have h := spells_attributesText rule.attributes
    split
    case isTrue hempty => rwa [List.isEmpty_iff.1 hempty] at h
    case isFalse => exact ((h.space rfl).space rfl).space rfl
  have hkeyword : Spells [.mark "rule"] "rule ".toList := rfl
  rw [text_eq_append_afterBody]
  unfold throughBody
  rw [List.append_assoc, List.append_assoc]
  exact hkeyword.append ((spells_headerText rule.attributes).append
    (((rule.body.spells_text table).hang 5).append
      ((spells_conditionText table "requires" rule.requires).append
        ((spells_conditionText table "ensures" rule.ensures).append hattributes))))

theorem contents_headerFragments (attributes : Attributes) :
    contents (headerFragments attributes) = [] := by
  unfold headerFragments
  split <;> rfl

theorem contents_conditionFragments (table : SymbolTable) (keyword : String) (condition : Option Term) :
    contents (conditionFragments table keyword condition) =
      condition.toList.flatMap Term.leafTexts := by
  cases condition with
  | none => rfl
  | some condition =>
    have hmark : contents (.mark keyword :: condition.fragments table) =
        contents (condition.fragments table) := rfl
    rw [conditionFragments, hmark, condition.contents_fragments]
    exact (List.append_nil _).symm

theorem contents_attributeFragments (attributes : Attributes) :
    contents (attributeFragments attributes) = [] := by
  have hmarks (parts : List (List Fragment)) :
      contents (.mark "[" :: (separated "," parts ++ [.mark "]"])) = parts.flatMap contents := by
    rw [← contents_separated "," parts]
    exact (contents_append _ _).trans (List.append_nil _)
  unfold attributeFragments
  dsimp only
  split
  · rfl
  · rw [hmarks, List.flatMap_map]
    exact List.flatMap_eq_nil_iff.2 fun _ _ => rfl

/-- Only the body and the conditions have contents; the keywords, the label and the attributes are marks. -/
theorem contents_fragments (table : SymbolTable) (rule : Rule) :
    contents (rule.fragments table) = rule.terms.flatMap Term.leafTexts := by
  have hkeyword (xs : List Fragment) : contents (.mark "rule" :: xs) = contents xs := rfl
  rw [fragments, hkeyword, contents_append, contents_append, contents_append, contents_append,
    contents_headerFragments, contents_conditionFragments, contents_conditionFragments,
    contents_attributeFragments, rule.body.contents_fragments, List.nil_append, List.append_nil, terms,
    List.flatMap_cons, List.flatMap_append]

end Rule

/-- Under every table terms and rules are printed, up to spacing, as their flat texts, in which the names of
the variables and the texts of the tokens stand once each and in their order. -/
theorem SymbolTable.print_spells_flat (table : SymbolTable) :
    (∀ t : Term,
      withoutSpacing (t.print table).toList = withoutSpacing (t.flat table) ∧
        Fragment.contents (t.fragments table) = t.leafTexts) ∧
    ∀ rule : Rule,
      withoutSpacing (rule.print table).toList = withoutSpacing (rule.flat table) ∧
        Fragment.contents (rule.fragments table) = rule.terms.flatMap Term.leafTexts := by
  refine ⟨fun t => ⟨?_, t.contents_fragments table⟩, fun rule => ⟨?_, rule.contents_fragments table⟩⟩
  · rw [Term.print, String.toList_ofList]
    exact t.spells_text table
  · rw [Rule.print, String.toList_ofList]
    exact rule.spells_text table

end KDispatch
