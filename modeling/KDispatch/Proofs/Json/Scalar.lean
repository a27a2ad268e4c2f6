import KDispatch.Json.Printer
import KDispatch.Json.Reader
import KDispatch.Json.StringLiteral
import Mathlib.Algebra.Group.Int.Defs

/-!
Written literals are read back. A character that is written inside a string literal is read back as itself,
whatever the text after it, so that a quoted text is read back whole; an integer in the range of numbers is read
back as itself if the text does not go on with a digit, a point or an exponent.
-/

namespace KDispatch.Json

variable {c : Char} {rest : Text} {s : String}

/-! ## Hexadecimal digits -/

theorem hexValue?_hexDigit {d : Nat} (h : d < 16) : hexValue? (hexDigit d) = some d := by
  revert d
  decide

/-- The two zeros and the two digits that a control character is written with are complete. -/
theorem hasFourBytes_cons (a b d e : Char) (rest : Text) : hasFourBytes (a :: b :: d :: e :: rest) = true := by
  have hsize (c : Char) : 0 < c.utf8Size := c.utf8Size_pos
  have ha := hsize a
  have hb := hsize b
  have hd := hsize d
  have he := hsize e
  simp [hasFourBytes]
  omega

/-! ## One character -/

theorem readStringFrom_go {state next : StringState} (h : state.next .keep c rest = .ok (.go next)) :
    readStringFrom .keep state (c :: rest) = readStringFrom .keep next rest := by
  rw [readStringFrom_cons, h]

theorem readStringFrom_emit {state next : StringState} {d : Char}
    (h : state.next .keep c rest = .ok (.emit d next)) : readStringFrom .keep state (c :: rest) =
      (readStringFrom .keep next rest).map fun (body, rest) => (d :: body, rest) := by
  rw [readStringFrom_cons, h]

/-- A backslash, and the character after it. -/
theorem readStringFrom_short {e : Char} (hu : e ≠ 'u') (h : shortEscape? e = some c) :
    readStringFrom .keep .plain ('\\' :: e :: rest) =
      (readStringFrom .keep .plain rest).map fun (body, rest) => (c :: body, rest) := by
  have hescape : StringState.plain.next .keep '\\' (e :: rest) = .ok (.go .escape) := rfl
  rw [readStringFrom_go hescape]
  exact readStringFrom_emit (by rw [StringState.next_escape, if_neg hu, h])

theorem next_hex {high : Option Nat} {owed value d : Nat} (h : hexValue? c = some d) :
    (StringState.hex high (owed + 1) value).next .keep c rest = .ok (.go (.hex high owed (value * 16 + d))) := by
  rw [StringState.next_hex, h]

/-- The digits of a control character. -/
theorem readStringFrom_control (h : c.toNat < 0x20) :
    readStringFrom .keep .plain
        ('\\' :: 'u' :: '0' :: '0' :: hexDigit (c.toNat / 16) :: hexDigit (c.toNat % 16) :: rest) =
      (readStringFrom .keep .plain rest).map fun (body, rest) => (c :: body, rest) := by
  have hfirst : hexValue? (hexDigit (c.toNat / 16)) = some (c.toNat / 16) := hexValue?_hexDigit (by omega)
  have hlast : hexValue? (hexDigit (c.toNat % 16)) = some (c.toNat % 16) := hexValue?_hexDigit (by omega)
  have hvalue : c.toNat / 16 * 16 + c.toNat % 16 = c.toNat := by omega
  have hhigh : isHighSurrogate c.toNat = false := by
    simp [isHighSurrogate]
    omega
  have hlow : isLowSurrogate c.toNat = false := by
    simp [isLowSurrogate]
    omega
  have hzero : hexValue? '0' = some 0 := rfl
  have hu {text : Text} (hfour : hasFourBytes text = true) :
      StringState.escape.next .keep 'u' text = .ok (.go (.hex none 3 0)) := by
    rw [StringState.next_escape, if_pos rfl, if_pos hfour]
  rw [readStringFrom_go (rfl : StringState.plain.next .keep '\\' _ = .ok (.go .escape)),
    readStringFrom_go (hu (hasFourBytes_cons ..)), readStringFrom_go (next_hex hzero),
    readStringFrom_go (next_hex hzero), readStringFrom_go (next_hex hfirst)]
  refine readStringFrom_emit ?_
  rw [StringState.next_hex, hlast]
  simp [unicodeStep, hvalue, hhigh, hlow]

/-- A character that is written inside a literal is read back, and the literal goes on after it. -/
theorem readStringFrom_escapeChar (c : Char) (rest : Text) :
    readStringFrom .keep .plain (escapeChar c ++ rest) =
      (readStringFrom .keep .plain rest).map fun (body, rest) => (c :: body, rest) := by
  unfold escapeChar
  split
  · subst c
    exact readStringFrom_short (by decide) rfl
  split
  · subst c
    exact readStringFrom_short (by decide) rfl
  split
  · subst c
    exact readStringFrom_short (by decide) rfl
  split
  · subst c
    exact readStringFrom_short (by decide) rfl
  split
  · subst c
    exact readStringFrom_short (by decide) rfl
  split
  · subst c
    exact readStringFrom_short (by decide) rfl
  split
  · subst c
    exact readStringFrom_short (by decide) rfl
  split
  · exact readStringFrom_control ‹_›
  · refine readStringFrom_emit ?_
    simp [StringState.next, *]

/-! ## Quoted texts -/

theorem readStringFrom_flatMap_escapeChar (text rest : Text) :
    readStringFrom .keep .plain (text.flatMap escapeChar ++ '"' :: rest) = .ok (text, rest) := by
  induction text with
  | nil => rfl
  | cons c text ih =>
    rw [List.flatMap_cons, List.append_assoc, readStringFrom_escapeChar, ih]
    rfl

/-- A quoted text is read back whole. -/
theorem readString_quote (s : String) (rest : Text) :
    ∃ literal, quote s ++ rest = '"' :: literal ∧ readString .keep literal = .ok (s, rest) := by
  refine ⟨s.toList.flatMap escapeChar ++ '"' :: rest, by simp [quote], ?_⟩
  rw [readString, readStringFrom_flatMap_escapeChar]
  simp [Except.map]

end KDispatch.Json

namespace KDispatch.Numeral

/-- Whether a text does not go on with anything that can belong to a number. -/
def IsPast (rest : Text) : Prop :=
  ∀ c ∈ rest.head?, c.isDigit = false ∧ c ≠ '.' ∧ c ≠ 'e' ∧ c ≠ 'E'

variable {rest : Text}

/-! ## Decimal digits -/

theorem exists_toDigits_eq_cons (n : Nat) : ∃ c digits, Nat.toDigits 10 n = c :: digits ∧ c.isDigit = true := by
  cases hdigits : Nat.toDigits 10 n with
  | nil => exact absurd hdigits Nat.toDigits_ne_nil
  | cons c digits =>
    have hmem : c ∈ Nat.toDigits 10 n := by simp [hdigits]
    exact ⟨c, digits, rfl, Nat.isDigit_of_mem_toDigits (by decide) (by decide) hmem⟩

/-- The only decimal number that begins with a zero is zero itself. -/
theorem head?_toDigits {n : Nat} (h : 0 < n) : (Nat.toDigits 10 n).head? ≠ some '0' := by
  induction n using Nat.base_induction 10 (by decide) with
  | single m hm =>
    have hdigit : ∀ m < 10, 0 < m → Nat.digitChar m ≠ '0' := by decide
    simpa [Nat.toDigits_of_lt_base hm] using hdigit m hm h
  | digit m k hk hm ih =>
    rw [← Nat.toDigits_append_toDigits (by decide) hm hk, List.head?_append]
    obtain ⟨c, digits, hdigits, -⟩ := exists_toDigits_eq_cons m
    simpa [hdigits] using ih hm

/-- The digits of a number make up the number. -/
theorem ofDigits_toDigits (n : Nat) : ofDigits ((Nat.toDigits 10 n).map digitValue) = n := by
  have hdigits := @Nat.ofDigitChars_ten_toDigits n
  rw [Nat.ofDigitChars_eq_foldl] at hdigits
  simpa [ofDigits, List.foldl_map, digitValue, Nat.mul_comm] using hdigits

theorem le_foldl_digits (digits : List Nat) (n : Nat) : n ≤ digits.foldl (fun n d => n * 10 + d) n := by
  induction digits generalizing n with
  | nil => exact Nat.le_refl n
  | cons d digits ih => exact Nat.le_trans (by omega) (ih (n * 10 + d))

/-- Digits that make a number in range are all collected. -/
theorem collect_eq {digits : List Nat} {n : Nat} (h : digits.foldl (fun n d => n * 10 + d) n < twoTo 64) :
    collect n digits = (digits.foldl (fun n d => n * 10 + d) n, []) := by
  induction digits generalizing n with
  | nil => rfl
  | cons d digits ih =>
    have hle := le_foldl_digits digits (n * 10 + d)
    rw [List.foldl_cons] at h ⊢
    rw [collect, if_pos (by omega), ih h]

/-! ## Integers -/

theorem takeWhile_digits (n : Nat) (hrest : IsPast rest) :
    (Nat.toDigits 10 n ++ rest).takeWhile Char.isDigit = Nat.toDigits 10 n ∧
      (Nat.toDigits 10 n ++ rest).dropWhile Char.isDigit = rest := by
  have hdigits : ∀ c ∈ Nat.toDigits 10 n, c.isDigit = true := fun c hc =>
    Nat.isDigit_of_mem_toDigits (by decide) (by decide) hc
  rw [List.takeWhile_append_of_pos hdigits, List.dropWhile_append_of_pos hdigits]
  cases rest with
  | nil => simp
  | cons c rest =>
    have hc := (hrest c rfl).1
    simp [hc]

theorem readDigits_toDigits (n : Nat) (hrest : IsPast rest) :
    readDigits (Nat.toDigits 10 n ++ rest) = .ok ((Nat.toDigits 10 n).map digitValue, rest) := by
  obtain ⟨htake, hdrop⟩ := takeWhile_digits n hrest
  obtain ⟨c, digits, hdigits, hc⟩ := exists_toDigits_eq_cons n
  rw [hdigits, List.cons_append] at htake hdrop ⊢
  rw [readDigits, if_pos hc, htake, hdrop]

theorem eq_zero_of_digitValue {c : Char} (hdigit : c.isDigit = true) (h : digitValue c = 0) : c = '0' := by
  have hrange : '0'.toNat ≤ c.toNat ∧ c.toNat ≤ '9'.toNat := Char.isDigit_iff_toNat.1 hdigit
  have hvalue : c.toNat - '0'.toNat = 0 := h
  exact Char.toNat_inj.1 (by omega)

/-- A number is written without leading zeros. -/
theorem map_digitValue_toDigits_ne (n d : Nat) (digits : List Nat) :
    (Nat.toDigits 10 n).map digitValue ≠ 0 :: d :: digits := by
  intro h
  obtain ⟨c, more, hwritten, hc⟩ := exists_toDigits_eq_cons n
  rw [hwritten, List.map_cons] at h
  obtain rfl := eq_zero_of_digitValue hc (List.cons.inj h).1
  rcases Nat.eq_zero_or_pos n with rfl | hpos
  · obtain rfl : more = [] := by simpa using hwritten.symm
    simp at h
  · exact head?_toDigits hpos (by simp [hwritten])

theorem readWhole_toDigits (n : Nat) (hrest : IsPast rest) :
    readWhole (Nat.toDigits 10 n ++ rest) = .ok ((Nat.toDigits 10 n).map digitValue, rest) := by
  rw [readWhole, readDigits_toDigits n hrest]
  split
  case h_1 heq => exact (map_digitValue_toDigits_ne n _ _ (Prod.mk.inj (Except.ok.inj heq)).1).elim
  case h_2 => rfl

theorem readFraction_of_isPast (hrest : IsPast rest) : readFraction rest = .ok ([], rest) := by
  unfold readFraction
  split
  · exact absurd rfl (hrest '.' rfl).2.1
  · rfl

theorem readExponent_of_isPast (hrest : IsPast rest) : readExponent rest = .ok (none, rest) := by
  unfold readExponent
  split
  · exact absurd rfl (hrest 'e' rfl).2.2.1
  · exact absurd rfl (hrest 'E' rfl).2.2.2
  · rfl

theorem readUnsigned_toDigits (negative : Bool) (n : Nat) (hrest : IsPast rest) :
    readUnsigned negative (Nat.toDigits 10 n ++ rest) =
      .ok (⟨negative, (Nat.toDigits 10 n).map digitValue, [], none⟩, rest) := by
  simp [readUnsigned, readWhole_toDigits n hrest, readFraction_of_isPast hrest, readExponent_of_isPast hrest,
    bind, Except.bind, pure, Except.pure]

/-- The literal of an integer is read up to its end. -/
theorem read_integerText (n : Int) (hrest : IsPast rest) : read (Number.integerText n ++ rest) =
    .ok (⟨decide (n < 0), (Nat.toDigits 10 n.natAbs).map digitValue, [], none⟩, rest) := by
  by_cases h : n < 0
  · rw [Number.integerText, if_pos h, decide_eq_true h]
    exact readUnsigned_toDigits true n.natAbs hrest
  · rw [Number.integerText, if_neg h, decide_eq_false h, ← readUnsigned_toDigits false n.natAbs hrest]
    unfold read
    split
    case h_1 heq =>
      -- a sign is no digit
      obtain ⟨c, digits, hdigits, hc⟩ := exists_toDigits_eq_cons n.natAbs
      rw [hdigits] at heq
      obtain rfl := (List.cons.inj heq).1
      contradiction
    case h_2 => rfl

theorem integer?_natAbs {n : Int} (h : -2 ^ 63 ≤ n) : integer? (decide (n < 0)) n.natAbs = some (.integer n) := by
  have h63 : twoTo 63 = 2 ^ 63 := rfl
  by_cases hnegative : n < 0
  · have hinside : ¬ (n.natAbs = 0 ∨ twoTo 63 < n.natAbs) := by omega
    have habs : -(n.natAbs : Int) = n := by omega
    rw [decide_eq_true hnegative, integer?, if_neg (by decide), if_neg hinside, habs]
  · have habs : (n.natAbs : Int) = n := by omega
    rw [decide_eq_false hnegative, integer?, if_pos (by decide), habs]

/-- The literal of an integer in range stands for it. -/
theorem number?_integer {n : Int} (hlow : -2 ^ 63 ≤ n) (hhigh : n < 2 ^ 64) :
    number? ⟨decide (n < 0), (Nat.toDigits 10 n.natAbs).map digitValue, [], none⟩ = some (.integer n) := by
  have h64 : twoTo 64 = 2 ^ 64 := rfl
  have hdigits := ofDigits_toDigits n.natAbs
  have hcollect := @collect_eq ((Nat.toDigits 10 n.natAbs).map digitValue) 0
  unfold ofDigits at hdigits
  rw [hdigits] at hcollect
  rw [← integer?_natAbs hlow, number?]
  dsimp only
  rw [hcollect (by omega)]
  rfl

end KDispatch.Numeral

namespace KDispatch.Json

/-- An integer in range is read back. -/
theorem readNumber_integerText {n : Int} {rest : Text} (hlow : -2 ^ 63 ≤ n) (hhigh : n < 2 ^ 64)
    (hrest : Numeral.IsPast rest) :
    readNumber .keep (Number.integerText n ++ rest) = .ok (.number (.integer n), rest) := by
  unfold readNumber
  rw [Numeral.read_integerText n hrest]
  dsimp only
  rw [Numeral.number?_integer hlow hhigh]

end KDispatch.Json
