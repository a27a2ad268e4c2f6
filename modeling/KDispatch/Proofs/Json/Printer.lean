import KDispatch.Json.Printer

/-!
The compact text of a JSON value is a single line: line feeds in strings and keys are escaped, and there are
none anywhere else.
-/

namespace KDispatch

theorem Text.notMem_join {c : Char} (separator : Text) (hseparator : c ∉ separator)
    {pieces : List Text} (h : ∀ piece ∈ pieces, c ∉ piece) : c ∉ join separator pieces := by
  induction pieces with
  | nil => simp
  | cons piece pieces ih =>
    rw [List.forall_mem_cons] at h
    cases pieces with
    | nil => exact h.1
    | cons next more =>
      rw [join_cons_cons, List.append_assoc]
      simp [h.1, hseparator, ih h.2]

theorem newline_notMem_toDigits (n : Nat) : '\n' ∉ Nat.toDigits 10 n := fun h =>
  absurd (Nat.isDigit_of_mem_toDigits (by decide) (by decide) h) (by decide)

namespace Decimal

variable {digits : Text} {leading : Int}

theorem newline_notMem_significantDigits (x : Decimal) : '\n' ∉ x.significantDigits := by
  unfold significantDigits
  dsimp only
  split
  · decide
  · intro h
    have hmem := (List.dropWhile_sublist _).subset (List.mem_reverse.1 h)
    exact newline_notMem_toDigits _ (List.mem_reverse.1 hmem)

theorem newline_notMem_positional (h : '\n' ∉ digits) : '\n' ∉ positional digits leading := by
  have htake (n : Nat) : '\n' ∉ digits.take n := fun hmem => h (List.mem_of_mem_take hmem)
  have hdrop (n : Nat) : '\n' ∉ digits.drop n := fun hmem => h (List.mem_of_mem_drop hmem)
  unfold positional
  dsimp only
  split
  · simp [h]
  · split <;> simp [htake, hdrop]

theorem newline_notMem_scientific (h : '\n' ∉ digits) : '\n' ∉ scientific digits leading := by
  have htake (n : Nat) : '\n' ∉ digits.take n := fun hmem => h (List.mem_of_mem_take hmem)
  have htail : '\n' ∉ digits.tail := fun hmem => h (List.mem_of_mem_tail hmem)
  have hexponent := newline_notMem_toDigits leading.natAbs
  unfold scientific
  dsimp only
  split <;> split <;> simp [htake, htail, hexponent]

theorem newline_notMem_text (x : Decimal) : '\n' ∉ x.text := by
  have h := x.newline_notMem_significantDigits
  unfold text
  dsimp only
  split
  · exact newline_notMem_positional h
  · exact newline_notMem_scientific h

end Decimal

theorem Number.newline_notMem_text (n : Number) : '\n' ∉ n.text := by
  cases n with
  | integer n =>
    have h := newline_notMem_toDigits n.natAbs
    rw [text, integerText]
    split
    · simp [h]
    · exact h
  | double d =>
    have h := (Decimal.shortest d).newline_notMem_text
    rw [text]
    split <;> simp [h]

namespace Json

theorem newline_ne_hexDigit : ∀ n, '\n' ≠ hexDigit n
  | 0 | 1 | 2 | 3 | 4 | 5 | 6 | 7 | 8 | 9 | 10 | 11 | 12 | 13 | 14 | 15 => by decide
  | _ + 16 => by simp [hexDigit, Nat.digitChar]

theorem newline_notMem_escapeChar (c : Char) : '\n' ∉ escapeChar c := by
  unfold escapeChar
  repeat' split
  case isFalse => simp_all [eq_comm]
  all_goals simp [newline_ne_hexDigit]

theorem newline_notMem_quote (s : String) : '\n' ∉ quote s := by
  simp [quote, newline_notMem_escapeChar]

mutual

theorem newline_notMem_text : ∀ value : Json, '\n' ∉ value.text
  | .null => by decide
  | .bool true => by decide
  | .bool false => by decide
  | .number n => n.newline_notMem_text
  | .string s => newline_notMem_quote s
  | .array items => by
    have h := Text.notMem_join [','] (by decide) (newline_notMem_itemTexts items)
    simp [h]
  | .object members => by
    have h := Text.notMem_join [','] (by decide) (newline_notMem_memberTexts members)
    simp [h]

theorem newline_notMem_itemTexts : ∀ (items : List Json), ∀ piece ∈ itemTexts items, '\n' ∉ piece
  | [] => by simp [itemTexts]
  | item :: items => by
    rw [itemTexts, List.forall_mem_cons]
    exact ⟨newline_notMem_text item, newline_notMem_itemTexts items⟩

theorem newline_notMem_memberTexts :
    ∀ (members : List (String × Json)), ∀ piece ∈ memberTexts members, '\n' ∉ piece
  | [] => by simp [memberTexts]
  | (key, value) :: members => by
    rw [memberTexts, List.forall_mem_cons]
    refine ⟨?_, newline_notMem_memberTexts members⟩
    simp [newline_notMem_quote, newline_notMem_text value]

end

end Json

end KDispatch
