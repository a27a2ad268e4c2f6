import KDispatch.Printing.Rule
import KDispatch.Proofs.Json.Printer
import KDispatch.Proofs.Json.Value
import KDispatch.Proofs.KeyMap
import KDispatch.Proofs.Text.Lines
import Mathlib.Data.List.Nodup

/-!
Printed rules. Whatever the texts of its terms are, all lines after the first one are indented, by five spaces in
the body and by two at least after it, if the attributes of the rule fit on one line. Each attribute is shown once,
unless it is a label that is no string.
-/

namespace KDispatch

/-- Whether no key and no string value has a line feed in it. -/
def Attributes.IsSingleLine (attributes : Attributes) : Prop :=
  ∀ entry ∈ attributes.entries,
    '\n' ∉ entry.1.toList ∧ ∀ value, entry.2 = .string value → '\n' ∉ value.toList

namespace Rule

/-- The body and the conditions. -/
def terms (rule : Rule) : List Term := rule.body :: (rule.requires.toList ++ rule.ensures.toList)

theorem forall_mem_terms_iff {rule : Rule} {P : Term → Prop} :
    (∀ t ∈ rule.terms, P t) ↔
      P rule.body ∧ (∀ condition ∈ rule.requires, P condition) ∧
        ∀ condition ∈ rule.ensures, P condition := by
  simp [terms, or_imp, forall_and]

variable {attributes : Attributes}

/-- A value that is no string cannot have a line feed in its text. -/
theorem newline_notMem_attributeText {entry : String × Json} (hkey : '\n' ∉ entry.1.toList)
    (hvalue : ∀ value, entry.2 = .string value → '\n' ∉ value.toList) :
    '\n' ∉ attributeText entry := by
  unfold attributeText
  split
  case h_1 => exact hkey
  case h_2 => exact hkey
  case h_3 value _ heq => simp [hkey, hvalue value heq]
  case h_4 => simp [hkey, entry.2.newline_notMem_text]

theorem newline_notMem_attributesText (h : attributes.IsSingleLine) :
    '\n' ∉ attributesText attributes := by
  have hlisted : ∀ text ∈ (listedAttributes attributes).map attributeText, '\n' ∉ text := by
    intro text htext
    obtain ⟨entry, hentry, rfl⟩ := List.mem_map.1 htext
    obtain ⟨hkey, hvalue⟩ := h entry (List.mem_filter.1 hentry).1
    exact newline_notMem_attributeText hkey hvalue
  have hjoin := Text.notMem_join [',', ' '] (by decide) hlisted
  unfold attributesText
  dsimp only
  split
  · simp
  · simp [hjoin]

theorem newline_notMem_headerText (h : attributes.IsSingleLine) : '\n' ∉ headerText attributes := by
  unfold headerText
  split
  case h_2 => simp
  case h_1 label hlabel =>
    have hfind := Json.bind_string?_eq_some_iff.1 hlabel
    obtain ⟨-, hline⟩ := h _ (KeyMap.mem_entries_iff.2 hfind)
    simp [hline label rfl]

/-- A line of its own that is indented by two spaces. -/
theorem laterLines_indented (text : Text) :
    Text.laterLines ('\n' :: ' ' :: ' ' :: text) =
      (' ' :: ' ' :: text.takeWhile (· != '\n')) :: Text.laterLines text := by
  rw [Text.laterLines_cons_newline, Text.laterLines_cons_of_ne (by decide),
    Text.laterLines_cons_of_ne (by decide)]
  rfl

theorem laterLines_conditionText {keyword : Text} (hkeyword : '\n' ∉ keyword) (table : SymbolTable)
    (condition : Option Term) :
    ∀ line ∈ Text.laterLines (conditionText table keyword condition), [' ', ' '] <+: line := by
  cases condition with
  | none => simp [conditionText, Text.laterLines]
  | some condition =>
    have hspace : '\n' ∉ keyword ++ [' '] := by simp [hkeyword]
    rw [conditionText, laterLines_indented, List.append_cons,
      Text.laterLines_append_of_notMem hspace, Text.laterLines_hang, List.forall_mem_cons]
    refine ⟨⟨_, rfl⟩, ?_⟩
    intro line hline
    obtain ⟨line, -, rfl⟩ := List.mem_map.1 hline
    exact List.prefix_append _ _

/-- A printed rule up to the end of its body. -/
def throughBody (table : SymbolTable) (rule : Rule) : Text :=
  "rule ".toList ++ headerText rule.attributes ++ Text.hang 5 (rule.body.text table)

/-- What stands after the body of a printed rule. -/
def afterBody (table : SymbolTable) (rule : Rule) : Text :=
  let attributes := attributesText rule.attributes
  conditionText table "requires".toList rule.requires ++
    (conditionText table "ensures".toList rule.ensures ++
      if attributes.isEmpty then [] else '\n' :: ' ' :: ' ' :: attributes)

theorem text_eq_append_afterBody (table : SymbolTable) (rule : Rule) :
    rule.text table = rule.throughBody table ++ rule.afterBody table := by
  unfold text throughBody afterBody
  dsimp only
  simp only [List.append_assoc]

/-- What stands after the body begins on a line of its own. -/
theorem head?_afterBody (table : SymbolTable) (rule : Rule) :
    ∀ c ∈ (rule.afterBody table).head?, c = '\n' := by
  have happend (s t : Text) (hs : ∀ c ∈ s.head?, c = '\n') (ht : ∀ c ∈ t.head?, c = '\n') :
      ∀ c ∈ (s ++ t).head?, c = '\n' := by
    cases s with
    | nil => exact ht
    | cons => exact hs
  have hcondition (keyword : Text) (condition : Option Term) :
      ∀ c ∈ (conditionText table keyword condition).head?, c = '\n' := by
    cases condition <;> simp [conditionText]
  refine happend _ _ (hcondition _ _) (happend _ _ (hcondition _ _) ?_)
  split <;> simp

/-- The further lines of the body are those of its text, moved to the right. -/
theorem laterLines_throughBody {rule : Rule} (h : rule.attributes.IsSingleLine) (table : SymbolTable) :
    Text.laterLines (rule.throughBody table) =
      (Text.laterLines (rule.body.text table)).map (List.replicate 5 ' ' ++ ·) := by
  have hfirst : '\n' ∉ "rule ".toList ++ headerText rule.attributes := by
    simp [newline_notMem_headerText h]
  unfold throughBody
  rw [Text.laterLines_append_of_notMem hfirst, Text.laterLines_hang]

theorem laterLines_afterBody {rule : Rule} (h : rule.attributes.IsSingleLine) (table : SymbolTable) :
    ∀ line ∈ Text.laterLines (rule.afterBody table), [' ', ' '] <+: line := by
  have hprefix (line more : Text) (hline : [' ', ' '] <+: line) : [' ', ' '] <+: line ++ more :=
    hline.trans (List.prefix_append _ _)
  refine Text.forall_laterLines_append hprefix (laterLines_conditionText (by decide) _ _) ?_
  refine Text.forall_laterLines_append hprefix (laterLines_conditionText (by decide) _ _) ?_
  split
  · simp [Text.laterLines]
  · rw [laterLines_indented, Text.laterLines_of_notMem (newline_notMem_attributesText h)]
    simp

/-- How the lines of a printed rule are indented. What stands after the body begins on a line of its own. -/
structure IsIndented (table : SymbolTable) (rule : Rule) : Prop where
  lines : ∀ line ∈ Text.laterLines (rule.text table), [' ', ' '] <+: line
  body : Text.laterLines (rule.throughBody table) =
    (Text.laterLines (rule.body.text table)).map (List.replicate 5 ' ' ++ ·)
  after : ∃ after, rule.text table = rule.throughBody table ++ after ∧ ∀ c ∈ after.head?, c = '\n'

theorem isIndented {rule : Rule} (h : rule.attributes.IsSingleLine) (table : SymbolTable) :
    rule.IsIndented table where
  lines := by
    rw [text_eq_append_afterBody]
    refine Text.forall_laterLines_append (fun line more hline => hline.trans (List.prefix_append _ _))
      (fun line hline => ?_) (laterLines_afterBody h table)
    rw [laterLines_throughBody h] at hline
    obtain ⟨line, -, rfl⟩ := List.mem_map.1 hline
    exact ⟨List.replicate 3 ' ' ++ line, rfl⟩
  body := laterLines_throughBody h table
  after := ⟨_, text_eq_append_afterBody table rule, head?_afterBody table rule⟩

/-! ## Attributes

The header and the list decide apart from each other what the label of a rule is: the header by the value, the list
by the key. So a label that is no string is in neither of them.
-/

/-- The attribute that the header of a printed rule shows. -/
def headerAttribute? (attributes : Attributes) : Option (String × Json) :=
  (attributes.string? Attributes.labelKey).map fun label => (Attributes.labelKey, .string label)

/-- The attributes that the header does not show, in the order of their keys. -/
def remainingAttributes (attributes : Attributes) : List (String × Json) :=
  attributes.entries.filter (some · ≠ headerAttribute? attributes)

/-- A header with the attribute that it shows. -/
def headerWith : Option (String × Json) → Text
  | some (_, .string label) => '[' :: (label.toList ++ "]: ".toList)
  | _ => []

/-- A list of attributes on a line of its own. -/
def listWith : List (String × Json) → Text
  | [] => []
  | listed => "\n  [".toList ++ Text.join [',', ' '] (listed.map attributeText) ++ [']']

/-- A printed rule without its keyword, its header and its attributes. -/
def coreText (table : SymbolTable) (rule : Rule) : Text :=
  Text.hang 5 (rule.body.text table) ++ conditionText table "requires".toList rule.requires ++
    conditionText table "ensures".toList rule.ensures

theorem headerText_eq_headerWith (attributes : Attributes) :
    headerText attributes = headerWith (headerAttribute? attributes) := by
  unfold headerText headerAttribute?
  cases attributes.string? Attributes.labelKey <;> rfl

theorem text_eq_listWith (table : SymbolTable) (rule : Rule) :
    rule.text table =
      "rule ".toList ++ headerWith (headerAttribute? rule.attributes) ++ rule.coreText table ++
        listWith (listedAttributes rule.attributes) := by
  have hlist : (if (attributesText rule.attributes).isEmpty then []
      else '\n' :: ' ' :: ' ' :: attributesText rule.attributes) =
        listWith (listedAttributes rule.attributes) := by
    unfold attributesText
    cases listedAttributes rule.attributes <;> rfl
  rw [text_eq_append_afterBody, ← hlist, ← headerText_eq_headerWith]
  unfold throughBody afterBody coreText
  simp only [List.append_assoc]

def withoutLabel (rule : Rule) : Rule :=
  { rule with attributes := rule.attributes.eraseAll [Attributes.labelKey] }

/-- The label is a string if there is one. -/
def LabelIsString (attributes : Attributes) : Prop :=
  ∀ value ∈ attributes.find? Attributes.labelKey, ∃ label, value = .string label

theorem mem_headerAttribute?_iff {entry : String × Json} :
    entry ∈ headerAttribute? attributes ↔
      entry ∈ attributes.entries ∧ entry.1 = Attributes.labelKey ∧ ∃ label, entry.2 = .string label := by
  obtain ⟨key, value⟩ := entry
  simp only [headerAttribute?, Option.mem_def, Option.map_eq_some_iff, Attributes.string?,
    Json.bind_string?_eq_some_iff, KeyMap.mem_entries_iff, Prod.mk.injEq]
  constructor
  · rintro ⟨label, hfind, rfl, rfl⟩
    exact ⟨hfind, rfl, label, rfl⟩
  · rintro ⟨hfind, rfl, label, rfl⟩
    exact ⟨label, hfind, rfl, rfl⟩

/-- The header shows one of the attributes at most, and the others remain. -/
theorem length_remainingAttributes_add (attributes : Attributes) :
    (remainingAttributes attributes).length + (headerAttribute? attributes).toList.length =
      attributes.size := by
  unfold remainingAttributes
  cases hheader : headerAttribute? attributes with
  | none => simp [KeyMap.size]
  | some entry =>
    have hmem : entry ∈ attributes.entries := (mem_headerAttribute?_iff.1 hheader).1
    have herase : attributes.entries.filter (some · ≠ some entry) = attributes.entries.erase entry := by
      rw [attributes.nodup_entries.erase_eq_filter]
      refine List.filter_congr fun other _ => ?_
      by_cases heq : other = entry <;> simp [heq]
    rw [herase, List.length_erase_of_mem hmem]
    exact Nat.sub_add_cancel (List.length_pos_of_mem hmem)

/-- What is listed is not shown by the header. -/
theorem listedAttributes_sublist (attributes : Attributes) :
    (listedAttributes attributes).Sublist (remainingAttributes attributes) := by
  refine List.monotone_filter_right _ fun entry hkey => ?_
  rw [decide_eq_true_eq] at hkey ⊢
  exact fun hheader => hkey (mem_headerAttribute?_iff.1 hheader.symm).2.1

theorem listedAttributes_eq_iff :
    listedAttributes attributes = remainingAttributes attributes ↔ LabelIsString attributes := by
  constructor
  · intro h value hfind
    by_contra hvalue
    -- the label remains, but it is not listed
    have hmem : (Attributes.labelKey, value) ∈ remainingAttributes attributes :=
      List.mem_filter.2 ⟨KeyMap.mem_entries_iff.2 hfind, decide_eq_true fun hheader =>
        hvalue (mem_headerAttribute?_iff.1 hheader.symm).2.2⟩
    rw [← h] at hmem
    simpa using (List.mem_filter.1 hmem).2
  · intro h
    refine List.filter_congr fun entry hentry => decide_eq_decide.2 (not_congr ?_)
    constructor
    · intro hkey
      exact (mem_headerAttribute?_iff.2 ⟨hentry, hkey,
        h entry.2 (KeyMap.mem_entries_iff.1 (hkey ▸ hentry))⟩).symm
    · intro hheader
      exact (mem_headerAttribute?_iff.1 hheader.symm).2.1

theorem headerAttribute?_eq_none (h : ¬ LabelIsString attributes) : headerAttribute? attributes = none := by
  rw [Option.eq_none_iff_forall_ne_some]
  intro entry hheader
  obtain ⟨hmem, hkey, hstring⟩ := mem_headerAttribute?_iff.1 hheader
  refine h fun value hfind => ?_
  obtain rfl : entry.2 = value :=
    Option.some.inj ((KeyMap.mem_entries_iff.1 (hkey ▸ hmem)).symm.trans hfind)
  exact hstring

/-- A label that is no string leaves no trace in the printed rule. -/
theorem text_withoutLabel (table : SymbolTable) {rule : Rule} (h : ¬ LabelIsString rule.attributes) :
    rule.withoutLabel.text table = rule.text table := by
  have hheader : headerAttribute? rule.withoutLabel.attributes = none := by
    simp [withoutLabel, headerAttribute?, Attributes.string?, KeyMap.find?_eraseAll]
  have hlisted : listedAttributes rule.withoutLabel.attributes = listedAttributes rule.attributes := by
    simp [withoutLabel, listedAttributes, KeyMap.eraseAll, List.filter_filter]
  rw [text_eq_listWith, text_eq_listWith, hheader, hlisted, headerAttribute?_eq_none h]
  rfl

/-- A printed rule has its header before its core and its list, if that is not empty, after it. Header and list
show every attribute once between them exactly if the label is a string or there is none; any other label leaves
no trace. -/
theorem print_shows_attributes_once_iff (table : SymbolTable) (rule : Rule) :
    (rule.print table).toList =
        "rule ".toList ++ headerWith (headerAttribute? rule.attributes) ++ rule.coreText table ++
          listWith (listedAttributes rule.attributes) ∧
      (listedAttributes rule.attributes = remainingAttributes rule.attributes ↔
        LabelIsString rule.attributes) ∧
      ((listedAttributes rule.attributes).length + (headerAttribute? rule.attributes).toList.length =
        rule.attributes.size ↔ LabelIsString rule.attributes) ∧
      (¬ LabelIsString rule.attributes → rule.withoutLabel.print table = rule.print table) := by
  refine ⟨?_, listedAttributes_eq_iff, ?_, ?_⟩
  · rw [print, String.toList_ofList, text_eq_listWith]
  · rw [← listedAttributes_eq_iff, ← length_remainingAttributes_add, Nat.add_right_cancel_iff]
    exact ⟨(listedAttributes_sublist _).eq_of_length, congrArg List.length⟩
  · exact fun h => congrArg String.ofList (text_withoutLabel table h)

/-- A rule with a number for its label. -/
def numberedRule : Rule where
  body := .var "X"
  requires := none
  ensures := none
  attributes := .ofList [(Attributes.labelKey, .number (.integer 5))]

theorem numberedRule_label_hidden :
    numberedRule.print .basic = "rule X" ∧
      listedAttributes numberedRule.attributes ≠ remainingAttributes numberedRule.attributes ∧
      (listedAttributes numberedRule.attributes).length +
        (headerAttribute? numberedRule.attributes).toList.length ≠ numberedRule.attributes.size := by
  decide +kernel

end Rule

end KDispatch
