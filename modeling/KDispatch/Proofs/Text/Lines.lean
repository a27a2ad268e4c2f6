import KDispatch.Text.Lines

/-!
Lines of a sequence, and blanks at the end of a text. Up to the first terminator a sequence is one line,
which loses a return at its end; what follows is split on its own.
-/

namespace KDispatch.Text

section Lines

variable {α : Type} [DecidableEq α]

/-- A line without one `cr` at its end. -/
def withoutReturn (cr : α) (line : List α) : List α :=
  if line.getLast? = some cr then line.dropLast else line

theorem withoutReturn_cons (cr c : α) {line : List α} (h : ¬ (c = cr ∧ line = [])) :
    withoutReturn cr (c :: line) = c :: withoutReturn cr line := by
  cases line with
  | nil => simpa [withoutReturn] using h
  | cons d line =>
    simp only [withoutReturn, List.getLast?_cons_cons, List.dropLast_cons_cons]
    split <;> rfl

theorem linesBy_append_cons (lf cr : α) {line : List α} (h : lf ∉ line) (rest : List α) :
    linesBy lf cr (line ++ lf :: rest) = withoutReturn cr line :: linesBy lf cr rest := by
  induction line with
  | nil => simp [linesBy, withoutReturn]
  | cons c line ih =>
    obtain ⟨hc, hline⟩ : lf ≠ c ∧ lf ∉ line := by simpa using h
    rw [List.cons_append, linesBy, if_neg hc.symm]
    by_cases hreturn : c = cr ∧ line = []
    · obtain ⟨rfl, rfl⟩ := hreturn
      simp [linesBy, withoutReturn]
    · have hhead : ¬ (c = cr ∧ (line ++ lf :: rest).head? = some lf) := by
        rintro ⟨rfl, hhead⟩
        cases line with
        | nil => exact hreturn ⟨rfl, rfl⟩
        | cons d line => simp_all
      rw [if_neg hhead, ih hline, withoutReturn_cons cr c hreturn]

theorem linesBy_of_notMem (lf cr : α) {line : List α} (h : lf ∉ line) (hne : line ≠ []) :
    linesBy lf cr line = [line] := by
  induction line with
  | nil => contradiction
  | cons c line ih =>
    obtain ⟨hc, hline⟩ : lf ≠ c ∧ lf ∉ line := by simpa using h
    cases line with
    | nil => simp [linesBy, hc.symm]
    | cons d line =>
      have hd : ¬ (c = cr ∧ (d :: line).head? = some lf) := fun ⟨_, hhead⟩ => by simp_all
      rw [linesBy, if_neg hc.symm, if_neg hd, ih hline (List.cons_ne_nil d line)]

end Lines

/-- The pieces between the occurrences of two consecutive line feeds, which are looked for from the start. -/
def paragraphs : Text → List Text
  | '\n' :: '\n' :: rest => [] :: paragraphs rest
  | c :: rest => (paragraphs rest).modifyHead (c :: ·)
  | [] => [[]]

/-- The lines after the first one. -/
def laterLines (text : Text) : List Text := (text.splitOn '\n').tail

/-! ### Lines after the first -/

theorem splitOn_eq_cons_laterLines (text : Text) :
    text.splitOn '\n' = text.takeWhile (· != '\n') :: laterLines text := by
  induction text with
  | nil => rfl
  | cons c text ih =>
    unfold laterLines
    rw [List.splitOn_cons_eq_if_modifyHead, ih]
    by_cases hc : c = '\n' <;> simp [hc]

theorem laterLines_cons_newline (text : Text) :
    laterLines ('\n' :: text) = text.takeWhile (· != '\n') :: laterLines text := by
  rw [← splitOn_eq_cons_laterLines, laterLines, List.splitOn_cons_eq_if_modifyHead]
  rfl

theorem laterLines_cons_of_ne {c : Char} (h : c ≠ '\n') (text : Text) :
    laterLines (c :: text) = laterLines text := by
  simp [laterLines, List.splitOn_cons_eq_if_modifyHead, h]

theorem laterLines_append_of_notMem {s : Text} (h : '\n' ∉ s) (t : Text) :
    laterLines (s ++ t) = laterLines t := by
  induction s with
  | nil => rfl
  | cons c s ih =>
    obtain ⟨hc, hs⟩ : '\n' ≠ c ∧ '\n' ∉ s := by simpa using h
    rw [List.cons_append, laterLines_cons_of_ne hc.symm, ih hs]

theorem laterLines_of_notMem {text : Text} (h : '\n' ∉ text) : laterLines text = [] := by
  rw [← List.append_nil text, laterLines_append_of_notMem h]
  rfl

/-- What all later lines of two texts begin with, those of both in a row begin with. -/
theorem forall_laterLines_append {p : Text → Prop} (hp : ∀ line more, p line → p (line ++ more))
    {s t : Text} (hs : ∀ line ∈ laterLines s, p line) (ht : ∀ line ∈ laterLines t, p line) :
    ∀ line ∈ laterLines (s ++ t), p line := by
  induction s with
  | nil => exact ht
  | cons c s ih =>
    rw [List.cons_append]
    by_cases hc : c = '\n'
    · subst hc
      rw [laterLines_cons_newline, List.forall_mem_cons] at hs ⊢
      refine ⟨?_, ih hs.2⟩
      rw [List.takeWhile_append]
      split
      case isTrue hall =>
        rw [(List.takeWhile_prefix _).eq_of_length hall] at hs
        exact hp _ _ hs.1
      case isFalse => exact hs.1
    · rw [laterLines_cons_of_ne hc] at hs ⊢
      exact ih hs

theorem takeWhile_hang (width : Nat) (text : Text) :
    (hang width text).takeWhile (· != '\n') = text.takeWhile (· != '\n') := by
  induction text with
  | nil => rfl
  | cons c text ih =>
    by_cases hc : c = '\n'
    · simp [hang, hc]
    · have hhang : hang width (c :: text) = c :: hang width text := by simp [hang, hc]
      simp [hhang, hc, ih]

/-- Hanging moves each line after the first to the right. -/
theorem laterLines_hang (width : Nat) (text : Text) :
    laterLines (hang width text) = (laterLines text).map (List.replicate width ' ' ++ ·) := by
  have hspaces : ∀ c ∈ List.replicate width ' ', c ≠ '\n' := fun c hc => by
    rw [List.eq_of_mem_replicate hc]
    decide
  induction text with
  | nil => rfl
  | cons c text ih =>
    by_cases hc : c = '\n'
    · have hhang : hang width (c :: text) = '\n' :: (List.replicate width ' ' ++ hang width text) := by
        simp [hang, hc]
      rw [hhang, laterLines_cons_newline, laterLines_append_of_notMem fun hmem => hspaces _ hmem rfl,
        List.takeWhile_append_of_pos (by simp), takeWhile_hang, ih, hc,
        laterLines_cons_newline]
      rfl
    · have hhang : hang width (c :: text) = c :: hang width text := by simp [hang, hc]
      rw [hhang, laterLines_cons_of_ne hc, laterLines_cons_of_ne hc, ih]

/-! ### Paragraphs -/

theorem paragraphs_cons {c : Char} {rest : Text} (h : ¬ (c = '\n' ∧ rest.head? = some '\n')) :
    paragraphs (c :: rest) = (paragraphs rest).modifyHead (c :: ·) := by
  rw [paragraphs]
  rintro more rfl rfl
  exact h ⟨rfl, rfl⟩

/-- A text without empty later lines is a part of one paragraph. -/
theorem paragraphs_append {text : Text} (h : ∀ line ∈ laterLines text, line ≠ []) (rest : Text) :
    paragraphs (text ++ rest) = (paragraphs rest).modifyHead (text ++ ·) := by
  induction text with
  | nil => exact (congrFun List.modifyHead_id _).symm
  | cons c text ih =>
    -- a line feed in the text is followed by a character of its line
    have hsingle : ¬ (c = '\n' ∧ (text ++ rest).head? = some '\n') := by
      rintro ⟨rfl, hhead⟩
      rw [laterLines_cons_newline, List.forall_mem_cons] at h
      cases text with
      | nil => exact h.1 rfl
      | cons d text =>
        obtain rfl : d = '\n' := by simpa using hhead
        simp at h
    have hlater : ∀ line ∈ laterLines text, line ≠ [] := by
      by_cases hc : c = '\n'
      · subst hc
        rw [laterLines_cons_newline, List.forall_mem_cons] at h
        exact h.2
      · rwa [laterLines_cons_of_ne hc] at h
    rw [List.cons_append, paragraphs_cons hsingle, ih hlater, List.modifyHead_modifyHead]
    rfl

/-- Texts after two line feeds each are the paragraphs after the empty beginning. -/
theorem paragraphs_flatMap {texts : List Text}
    (h : ∀ text ∈ texts, ∀ line ∈ laterLines text, line ≠ []) :
    paragraphs (texts.flatMap ('\n' :: '\n' :: ·)) = [] :: texts := by
  induction texts with
  | nil => rfl
  | cons text texts ih =>
    rw [List.forall_mem_cons] at h
    have hbegin (rest : Text) : paragraphs ('\n' :: '\n' :: rest) = [] :: paragraphs rest := by
      rw [paragraphs]
    rw [List.flatMap_cons, List.cons_append, List.cons_append, hbegin, paragraphs_append h.1, ih h.2]
    simp

end KDispatch.Text
