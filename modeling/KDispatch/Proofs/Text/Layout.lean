import KDispatch.Proofs.Text.Lines
import Mathlib.Data.List.Flatten

/-!
Texts that are split into lines and moved to the right. Up to spacing they stay the same, and the lines of a
block can be read back from its text.
-/

namespace KDispatch.Text

/-! ## Spacing

Spaces and the characters that end lines are spacing; splitting a text into lines and moving lines to the right
takes away and adds nothing else.
-/

/-- Spaces, line feeds and returns. -/
def isSpacing (c : Char) : Bool := c == ' ' || c == '\n' || c == '\r'

def withoutSpacing (text : Text) : Text := text.filter (!isSpacing ·)

@[simp] theorem withoutSpacing_nil : withoutSpacing [] = [] := rfl

@[simp] theorem withoutSpacing_append (s t : Text) :
    withoutSpacing (s ++ t) = withoutSpacing s ++ withoutSpacing t :=
  List.filter_append s t

theorem withoutSpacing_cons (c : Char) (text : Text) :
    withoutSpacing (c :: text) = withoutSpacing [c] ++ withoutSpacing text :=
  withoutSpacing_append [c] text

theorem withoutSpacing_flatten (texts : List Text) :
    withoutSpacing texts.flatten = (texts.map withoutSpacing).flatten :=
  List.filter_flatten

theorem join_nil_left (pieces : List Text) : join [] pieces = pieces.flatten := by
  induction pieces with
  | nil => rfl
  | cons piece pieces ih => cases pieces <;> simp_all [join]

theorem withoutSpacing_join (separator : Text) (pieces : List Text) :
    withoutSpacing (join separator pieces) =
      join (withoutSpacing separator) (pieces.map withoutSpacing) := by
  induction pieces with
  | nil => rfl
  | cons piece pieces ih =>
    cases pieces with
    | nil => rfl
    | cons next more => simp_all [join_cons_cons]

/-- A separator of spacing alone leaves the pieces one after the other. -/
theorem withoutSpacing_join_of_spacing {separator : Text} (h : withoutSpacing separator = [])
    (pieces : List Text) :
    withoutSpacing (join separator pieces) = (pieces.map withoutSpacing).flatten := by
  rw [withoutSpacing_join, h, join_nil_left]

/-- Lines are without their terminators, which are spacing. -/
theorem withoutSpacing_flatten_lines (text : Text) :
    withoutSpacing (lines text).flatten = withoutSpacing text := by
  unfold lines
  induction text with
  | nil => rfl
  | cons c text ih =>
    have hcons : withoutSpacing (c :: text) =
        withoutSpacing [c] ++ withoutSpacing (linesBy '\n' '\r' text).flatten := by
      rw [ih, withoutSpacing_cons]
    rw [hcons, linesBy]
    split
    case isTrue hfeed =>
      subst hfeed
      rfl
    case isFalse =>
      split
      case isTrue hreturn =>
        rw [hreturn.1]
        rfl
      case isFalse =>
        -- the character is put before the first line, if there is one
        cases linesBy '\n' '\r' text with
        | nil => exact (List.append_nil _).symm
        | cons line more => exact withoutSpacing_cons c (line ++ more.flatten)

theorem withoutSpacing_indent (text : Text) : withoutSpacing (indent text) = withoutSpacing text := by
  have hspaces (line : Text) : withoutSpacing ([' ', ' '] ++ line) = withoutSpacing line := rfl
  unfold indent
  rw [withoutSpacing_join_of_spacing rfl, List.map_map, ← withoutSpacing_flatten_lines text,
    withoutSpacing_flatten]
  exact congrArg _ (List.map_congr_left fun line _ => hspaces line)

theorem withoutSpacing_hang (width : Nat) (text : Text) :
    withoutSpacing (hang width text) = withoutSpacing text := by
  induction text with
  | nil => rfl
  | cons c text ih =>
    have hfirst : withoutSpacing (hang width [c]) = withoutSpacing [c] := by
      by_cases hc : c = '\n'
      · simp [hang, hc, withoutSpacing, isSpacing]
      · simp [hang, hc]
    rw [← List.singleton_append, hang_append, withoutSpacing_append, hfirst, ih,
      ← withoutSpacing_append]

/-! ## Blocks

Lines are a block if they can be read back from the text in which line feeds join them; indenting that text
indents each of them, and blocks one after the other are a block again.
-/

/-- Whether nothing in the text ends a line or is taken for a part of its end. -/
def OnOneLine (text : Text) : Prop := '\n' ∉ text ∧ '\r' ∉ text

instance (text : Text) : Decidable (OnOneLine text) := inferInstanceAs (Decidable (_ ∧ _))

/-- Lines of which the last one is not empty, so that a text does not lose it. -/
inductive IsBlock : List Text → Prop
  | last {line : Text} (h : OnOneLine line) (hne : line ≠ []) : IsBlock [line]
  | cons {line : Text} {block : List Text} (h : OnOneLine line) (hblock : IsBlock block) :
      IsBlock (line :: block)

/-- A text that consists of its lines: it is not empty, has no returns and does not end in a line feed. -/
structure IsWhole (text : Text) : Prop where
  ne_nil : text ≠ []
  return_notMem : '\r' ∉ text
  getLast?_ne : text.getLast? ≠ some '\n'

theorem join_cons_of_ne_nil (separator piece : Text) {pieces : List Text} (h : pieces ≠ []) :
    join separator (piece :: pieces) = piece ++ separator ++ join separator pieces := by
  cases pieces with
  | nil => contradiction
  | cons next more => rfl

theorem join_append (separator : Text) {ps qs : List Text} (hps : ps ≠ []) (hqs : qs ≠ []) :
    join separator (ps ++ qs) = join separator ps ++ separator ++ join separator qs := by
  induction ps with
  | nil => contradiction
  | cons p ps ih =>
    cases ps with
    | nil => exact join_cons_of_ne_nil separator p hqs
    | cons next more =>
      rw [List.cons_append, join_cons_of_ne_nil separator p (by simp), ih (by simp),
        join_cons_of_ne_nil separator p (by simp)]
      simp only [List.append_assoc]

/-- A first and a last piece stand around the others. -/
theorem join_cons_append_singleton (separator first last : Text) {pieces : List Text} (h : pieces ≠ []) :
    join separator (first :: (pieces ++ [last])) =
      first ++ separator ++ (join separator pieces ++ separator ++ last) := by
  rw [join_cons_of_ne_nil _ _ (by simp), join_append separator h (by simp), join_singleton]

/-- Texts that are joined lines are joined to the lines of all of them. -/
theorem join_map_join (separator : Text) {blocks : List (List Text)} (h : ∀ block ∈ blocks, block ≠ []) :
    join separator (blocks.map (join separator)) = join separator blocks.flatten := by
  induction blocks with
  | nil => rfl
  | cons block blocks ih =>
    rw [List.forall_mem_cons] at h
    cases blocks with
    | nil => simp
    | cons next more =>
      have hrest : (next :: more).flatten ≠ [] := by simp [h.2 next]
      rw [List.map_cons, join_cons_of_ne_nil separator _ (by simp), ih h.2,
        ← join_append separator h.1 hrest]
      rfl

theorem OnOneLine.append {s t : Text} (hs : OnOneLine s) (ht : OnOneLine t) : OnOneLine (s ++ t) := by
  simp only [OnOneLine, List.mem_append, not_or] at *
  exact ⟨⟨hs.1, ht.1⟩, hs.2, ht.2⟩

theorem withoutReturn_of_onOneLine {line : Text} (h : OnOneLine line) : withoutReturn '\r' line = line := by
  rw [withoutReturn, if_neg]
  intro hlast
  exact h.2 (List.mem_of_getLast? hlast)

namespace IsBlock

variable {block : List Text}

theorem ne_nil (h : IsBlock block) : block ≠ [] := by
  cases h <;> exact List.cons_ne_nil _ _

theorem append {xs ys : List Text} (hxs : IsBlock xs) (hys : IsBlock ys) : IsBlock (xs ++ ys) := by
  induction hxs with
  | last h => exact .cons h hys
  | cons h _ ih => exact .cons h ih

theorem flatten {blocks : List (List Text)} (hne : blocks ≠ []) (h : ∀ block ∈ blocks, IsBlock block) :
    IsBlock blocks.flatten := by
  induction blocks with
  | nil => contradiction
  | cons block blocks ih =>
    rw [List.forall_mem_cons] at h
    by_cases hblocks : blocks = []
    · simpa [hblocks] using h.1
    · exact h.1.append (ih hblocks h.2)

/-- A block may be moved to the right. -/
theorem map_append (h : IsBlock block) {start : Text} (hstart : OnOneLine start) :
    IsBlock (block.map (start ++ ·)) := by
  induction h with
  | last h hne => exact .last (hstart.append h) (by simp [hne])
  | cons h _ ih => exact .cons (hstart.append h) ih

/-- The lines of a block are read back from its text. -/
theorem lines_join (h : IsBlock block) : lines (join ['\n'] block) = block := by
  induction h with
  | last h hne => exact linesBy_of_notMem '\n' '\r' h.1 hne
  | @cons line block h hblock ih =>
    rw [join_cons_of_ne_nil _ _ hblock.ne_nil, List.append_assoc, List.singleton_append, lines,
      linesBy_append_cons '\n' '\r' h.1, withoutReturn_of_onOneLine h]
    exact congrArg _ ih

theorem indent_join (h : IsBlock block) :
    indent (join ['\n'] block) = join ['\n'] (block.map ([' ', ' '] ++ ·)) := by
  rw [indent, h.lines_join]

end IsBlock

theorem join_cons_head (separator : Text) (c : Char) (line : Text) (more : List Text) :
    join separator ((c :: line) :: more) = c :: join separator (line :: more) := by
  cases more <;> rfl

/-- A character that ends no line is put before the first line of a block. -/
theorem IsBlock.cons_head {c : Char} {line : Text} {more : List Text} (hc : OnOneLine [c])
    (h : IsBlock (line :: more)) : IsBlock ((c :: line) :: more) := by
  cases h with
  | last h => exact .last (hc.append h) (List.cons_ne_nil _ _)
  | cons h hmore => exact .cons (hc.append h) hmore

/-- A whole text is the block of its lines, joined. -/
theorem IsWhole.isBlock_lines {text : Text} (h : IsWhole text) :
    IsBlock (lines text) ∧ join ['\n'] (lines text) = text := by
  obtain ⟨hne, hreturn, hlast⟩ := h
  unfold lines
  induction text with
  | nil => contradiction
  | cons c rest ih =>
    obtain ⟨hc, hrest⟩ : '\r' ≠ c ∧ '\r' ∉ rest := by simpa using hreturn
    cases rest with
    | nil =>
      have hfeed : c ≠ '\n' := by simpa using hlast
      have hlines : linesBy '\n' '\r' [c] = [[c]] := by simp [linesBy, hfeed]
      have hone : OnOneLine [c] := by simp [OnOneLine, hfeed.symm, hc]
      rw [hlines]
      exact ⟨.last hone (List.cons_ne_nil _ _), rfl⟩
    | cons d more =>
      obtain ⟨hblock, hjoin⟩ := ih (List.cons_ne_nil _ _) hrest (by simpa using hlast)
      rw [linesBy]
      split
      case isTrue hfeed =>
        rw [join_cons_of_ne_nil _ _ hblock.ne_nil, hjoin, hfeed]
        exact ⟨.cons (by simp [OnOneLine]) hblock, rfl⟩
      case isFalse hfeed =>
        have hone : OnOneLine [c] := by simp [OnOneLine, Ne.symm hfeed, hc]
        rw [if_neg fun hcr => hc hcr.1.symm]
        cases hlines : linesBy '\n' '\r' (d :: more) with
        | nil => exact absurd hlines hblock.ne_nil
        | cons line others =>
          rw [hlines] at hblock hjoin
          exact ⟨hblock.cons_head hone, by rw [join_cons_head, hjoin]⟩

end KDispatch.Text
