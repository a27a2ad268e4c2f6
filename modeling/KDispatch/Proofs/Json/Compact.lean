import KDispatch.Proofs.Json.Reader
import KDispatch.Proofs.Json.Scalar

/-!
Compact text. A value whose numbers are integers is read back from its compact text, whatever the depth that is
allowed beyond its own, if the text ends there or goes on as inside a container.
-/

namespace KDispatch.Json

variable {value : Json} {rest : Text}

/-! ## Values that are read back -/

/-- Whether all numbers in a value are integers in the range of numbers. -/
def HasIntegers (value : Json) : Prop :=
  value.Everywhere fun v => ∀ number, v = .number number →
    ∃ n : Int, number = .integer n ∧ -2 ^ 63 ≤ n ∧ n < 2 ^ 64

def isContainer : Json → Bool
  | .array _ | .object _ => true
  | .null | .bool _ | .number _ | .string _ => false

/-- Whether arrays and objects nest at most `depth` deep. -/
def NestsWithin : (depth : Nat) → Json → Prop
  | 0, value => value.isContainer = false
  | depth + 1, value => ∀ child ∈ value.children, NestsWithin depth child

theorem NestsWithin.mono {m n : Nat} (h : value.NestsWithin m) (hle : m ≤ n) : value.NestsWithin n := by
  induction m generalizing n value with
  | zero =>
    cases n with
    | zero => exact h
    | succ n =>
      cases value with
      | array _ | object _ => contradiction
      | null | bool _ | number _ | string _ => exact fun child hchild => absurd hchild List.not_mem_nil
  | succ m ih =>
    obtain ⟨n, rfl⟩ : ∃ k, n = k + 1 := Nat.exists_eq_succ_of_ne_zero (by omega)
    exact fun child hchild => ih (h child hchild) (by omega)

/-! ## What stands around a value -/

/-- Whether a text ends, or goes on with what may follow a value in a container. -/
def FollowsValue (rest : Text) : Prop := ∀ c ∈ rest.head?, c = ',' ∨ c = ']' ∨ c = '}'

theorem FollowsValue.isPast (h : FollowsValue rest) : Numeral.IsPast rest := by
  intro c hc
  rcases h c hc with rfl | rfl | rfl <;> decide

/-- Whether a character may begin a value: it is no blank and closes no array. -/
def OpensValue (c : Char) : Prop := c ∉ [' ', '\n', '\t', '\r', ']']

instance (c : Char) : Decidable (OpensValue c) := inferInstanceAs (Decidable (c ∉ _))

theorem OpensValue.skipBlank_cons {c : Char} (h : OpensValue c) (text : Text) :
    skipBlank (c :: text) = c :: text := by
  simp [OpensValue] at h
  simp [skipBlank, h]

theorem opensValue_of_isDigit {c : Char} (h : c.isDigit = true) : OpensValue c := by
  intro hc
  obtain rfl | rfl | rfl | rfl | rfl : c = ' ' ∨ c = '\n' ∨ c = '\t' ∨ c = '\r' ∨ c = ']' := by simpa using hc
  all_goals contradiction

/-- The text of a value begins with a character of its own. -/
theorem exists_text_eq_cons (h : value.HasIntegers) : ∃ c text, value.text = c :: text ∧ OpensValue c := by
  cases value with
  | null => exact ⟨_, _, rfl, by decide⟩
  | bool b => cases b <;> exact ⟨_, _, rfl, by decide⟩
  | string s => exact ⟨'"', _, by rw [text_string, quote], by decide⟩
  | array items => exact ⟨'[', _, text_array items, by decide⟩
  | object members => exact ⟨'{', _, text_object members, by decide⟩
  | number number =>
    obtain ⟨n, rfl, -⟩ := h.here number rfl
    obtain ⟨c, digits, hdigits, hc⟩ := Numeral.exists_toDigits_eq_cons n.natAbs
    rw [text_number, Number.text, Number.integerText]
    split
    · exact ⟨'-', _, rfl, by decide⟩
    · exact ⟨c, digits, hdigits, opensValue_of_isDigit hc⟩

/-! ## Scalars -/

theorem readWith_number (inner : Option (Reader Json)) {c : Char} (h : c = '-' ∨ c.isDigit = true) (text : Text) :
    readWith .keep inner (c :: text) = readNumber .keep (c :: text) := by
  have hopens : OpensValue c := by
    rcases h with rfl | hc
    · decide
    · exact opensValue_of_isDigit hc
  unfold readWith
  rw [hopens.skipBlank_cons]
  split
  case h_1 heq => contradiction
  case h_8 c' rest' _ _ _ _ _ _ heq =>
    obtain ⟨rfl, rfl⟩ := List.cons.inj heq
    rw [if_pos h]
  -- no other value begins with a digit or a sign
  all_goals
    obtain ⟨rfl, -⟩ := List.cons.inj ‹_ :: _ = _ :: _›
    rcases h with h | h <;> contradiction

theorem readWith_scalar (inner : Option (Reader Json)) (hscalar : value.isContainer = false)
    (hintegers : value.HasIntegers) (hrest : FollowsValue rest) :
    readWith .keep inner (value.text ++ rest) = .ok (value, rest) := by
  cases value with
  | null => rfl
  | bool b => cases b <;> rfl
  | string s =>
    obtain ⟨literal, hquote, hread⟩ := readString_quote s rest
    have hstring : readWith .keep inner ('"' :: literal) =
        (readString .keep literal).map fun read => (.string read.1, read.2) := rfl
    rw [text_string, hquote, hstring, hread]
    rfl
  | number number =>
    obtain ⟨n, rfl, hlow, hhigh⟩ := hintegers.here number rfl
    rw [text_number, Number.text, ← readNumber_integerText hlow hhigh hrest.isPast]
    obtain ⟨c, digits, hdigits, hc⟩ := Numeral.exists_toDigits_eq_cons n.natAbs
    unfold Number.integerText
    split
    · exact readWith_number inner (.inl rfl) _
    · rw [hdigits]
      exact readWith_number inner (.inr hc) _
  | array _ | object _ => contradiction

/-! ## Containers -/

theorem itemTexts_eq_map (items : List Json) : itemTexts items = items.map text := by
  induction items with
  | nil => rfl
  | cons item items ih => rw [itemTexts, ih, List.map_cons]

theorem memberTexts_eq_map (members : List (String × Json)) :
    memberTexts members = members.map fun member => quote member.1 ++ ':' :: member.2.text := by
  induction members with
  | nil => rfl
  | cons member members ih => rw [memberTexts, ih, List.map_cons]

/-- Whether a reader reads a value back from its text. -/
def ReadsBack (reader : Reader Json) (value : Json) : Prop :=
  ∀ rest, FollowsValue rest → reader (value.text ++ rest) = .ok (value, rest)

theorem followsValue_cons {c : Char} (h : c = ',' ∨ c = ']' ∨ c = '}') (rest : Text) :
    FollowsValue (c :: rest) := by
  intro d hd
  obtain rfl : c = d := by simpa using hd
  exact h

/-- Items that are read back are read back as a list, by induction on the items. -/
theorem readItems_text {reader : Reader Json} {items : List Json}
    (hreader : ∀ item ∈ items, ReadsBack reader item) (hnonempty : items ≠ []) {fuel : Nat}
    (hfuel : items.length ≤ fuel) (rest : Text) :
    readItems reader fuel (Text.join [','] (itemTexts items) ++ ']' :: rest) = .ok (items, rest) := by
  induction items generalizing fuel with
  | nil => contradiction
  | cons item items ih =>
    obtain ⟨fuel, rfl⟩ : ∃ n, fuel = n + 1 := Nat.exists_eq_succ_of_ne_zero (by simp at hfuel; omega)
    rw [List.forall_mem_cons] at hreader
    cases items with
    | nil =>
      have hitem := hreader.1 (']' :: rest) (followsValue_cons (by decide) rest)
      rw [itemTexts, itemTexts, Text.join_singleton, readItems, hitem]
      rfl
    | cons next more =>
      have hlength : (next :: more).length ≤ fuel := by simpa using hfuel
      have hmore := ih hreader.2 (by simp) hlength
      have hitem := hreader.1 (',' :: (Text.join [','] (itemTexts (next :: more)) ++ ']' :: rest))
        (followsValue_cons (by decide) _)
      have htext : Text.join [','] (itemTexts (item :: next :: more)) ++ ']' :: rest =
          item.text ++ ',' :: (Text.join [','] (itemTexts (next :: more)) ++ ']' :: rest) := by
        simp [itemTexts, Text.join_cons_cons]
      rw [htext, readItems, hitem]
      simp [bind, Except.bind, skipBlank, hmore, pure, Except.pure]

theorem readKey_quote (key : String) (text : Text) : readKey .keep (quote key ++ text) = .ok (key, text) := by
  obtain ⟨literal, hquote, hread⟩ := readString_quote key text
  rw [hquote, ← hread]
  rfl

/-- Members whose values are read back are read back with their keys, by induction on the members. -/
theorem readMembers_text {reader : Reader Json} {members : List (String × Json)}
    (hreader : ∀ member ∈ members, ReadsBack reader member.2) (hnonempty : members ≠ []) {fuel : Nat}
    (hfuel : members.length ≤ fuel) (rest : Text) :
    readMembers .keep reader fuel (Text.join [','] (memberTexts members) ++ '}' :: rest) =
      .ok (members, rest) := by
  induction members generalizing fuel with
  | nil => contradiction
  | cons member members ih =>
    obtain ⟨key, value⟩ := member
    obtain ⟨fuel, rfl⟩ : ∃ n, fuel = n + 1 := Nat.exists_eq_succ_of_ne_zero (by simp at hfuel; omega)
    rw [List.forall_mem_cons] at hreader
    cases members with
    | nil =>
      have hvalue := hreader.1 ('}' :: rest) (followsValue_cons (by decide) rest)
      have htext : Text.join [','] (memberTexts [(key, value)]) ++ '}' :: rest =
          quote key ++ ':' :: (value.text ++ '}' :: rest) := by
        simp [memberTexts]
      rw [htext, readMembers, readKey_quote]
      simp [bind, Except.bind, readColon, skipBlank, hvalue, pure, Except.pure]
    | cons next more =>
      have hlength : (next :: more).length ≤ fuel := by simpa using hfuel
      have hmore := ih hreader.2 (by simp) hlength
      have hvalue := hreader.1 (',' :: (Text.join [','] (memberTexts (next :: more)) ++ '}' :: rest))
        (followsValue_cons (by decide) _)
      have htext : Text.join [','] (memberTexts ((key, value) :: next :: more)) ++ '}' :: rest =
          quote key ++ ':' :: (value.text ++ ',' ::
            (Text.join [','] (memberTexts (next :: more)) ++ '}' :: rest)) := by
        simp [memberTexts, Text.join_cons_cons]
      rw [htext, readMembers, readKey_quote]
      simp [bind, Except.bind, readColon, skipBlank, hvalue, hmore, pure, Except.pure]

/-- There are enough characters for all pieces, as there is a separator between any two of them. -/
theorem length_le_length_join (pieces : List Text) (c : Char) (rest : Text) :
    pieces.length ≤ (Text.join [','] pieces ++ c :: rest).length := by
  induction pieces with
  | nil => simp
  | cons piece pieces ih =>
    cases pieces with
    | nil => simp; omega
    | cons next more =>
      rw [Text.join_cons_cons]
      simp only [List.length_append, List.length_cons] at ih ⊢
      omega

theorem exists_join_cons_eq_append (piece : Text) (pieces : List Text) :
    ∃ text, Text.join [','] (piece :: pieces) = piece ++ text := by
  cases pieces with
  | nil => exact ⟨[], by simp⟩
  | cons next more => exact ⟨[','] ++ Text.join [','] (next :: more), by simp [Text.join_cons_cons]⟩

theorem readArray_text {reader : Reader Json} {items : List Json}
    (hreader : ∀ item ∈ items, ReadsBack reader item) (hintegers : ∀ item ∈ items, item.HasIntegers)
    (rest : Text) :
    readArray reader (Text.join [','] (itemTexts items) ++ ']' :: rest) = .ok (.array items, rest) := by
  cases items with
  | nil => rfl
  | cons item more =>
    have hlength := length_le_length_join (itemTexts (item :: more)) ']' rest
    rw [itemTexts_eq_map, List.length_map, ← itemTexts_eq_map] at hlength
    have hread := readItems_text hreader (by simp) hlength rest
    obtain ⟨c, text, htext, hc⟩ := exists_text_eq_cons (hintegers item (by simp))
    obtain ⟨tail, htail⟩ := exists_join_cons_eq_append item.text (itemTexts more)
    rw [itemTexts, htail, htext, List.cons_append, List.cons_append] at hread ⊢
    unfold readArray
    rw [hc.skipBlank_cons]
    split
    case h_1 heq =>
      obtain ⟨rfl, -⟩ := List.cons.inj heq
      exact absurd hc (by decide)
    case h_2 => simp only [hread, Except.map]

theorem readObject_text {reader : Reader Json} {members : List (String × Json)}
    (hreader : ∀ member ∈ members, ReadsBack reader member.2)
    (hascending : members.Pairwise fun a b => Ordered.nameBefore a.1 b.1) (rest : Text) :
    readObject .keep reader (Text.join [','] (memberTexts members) ++ '}' :: rest) =
      .ok (.object members, rest) := by
  cases members with
  | nil => rfl
  | cons member more =>
    have hlength := length_le_length_join (memberTexts (member :: more)) '}' rest
    rw [memberTexts_eq_map, List.length_map, ← memberTexts_eq_map] at hlength
    have hread := readMembers_text hreader (by simp) hlength rest
    obtain ⟨tail, htail⟩ := exists_join_cons_eq_append (quote member.1 ++ ':' :: member.2.text) (memberTexts more)
    rw [memberTexts, htail, quote] at hread ⊢
    simp only [List.cons_append] at hread ⊢
    have hquote : OpensValue '"' := by decide
    unfold readObject
    rw [hquote.skipBlank_cons]
    split
    case h_1 heq => simp at heq
    case h_2 => simp only [hread, Except.map, KeyMap.entries_ofList hascending]

/-! ## Values -/

/-- A value is read back from its compact text, by induction on the depth. -/
theorem readValue_text {depth : Nat} (hdepth : NestsWithin depth value) (hintegers : value.HasIntegers)
    (hordered : value.IsOrdered) : ReadsBack (readValue .keep depth) value := by
  intro rest hrest
  induction depth generalizing value rest with
  | zero => exact readWith_scalar none hdepth hintegers hrest
  | succ depth ih =>
    have hinside : ∀ child ∈ value.children, ReadsBack (readValue .keep depth) child :=
      fun child hchild rest hrest =>
        ih (hdepth child hchild) (hintegers.inside hchild) (hordered.inside hchild) rest hrest
    rw [readValue]
    cases value with
    | array items =>
      have hitems := readArray_text hinside (fun item hitem => hintegers.inside hitem) rest
      rw [text_array, List.cons_append, List.append_assoc, List.singleton_append]
      exact hitems
    | object members =>
      have hmembers := readObject_text (fun member hmember => hinside _ (List.mem_map_of_mem hmember))
        hordered.ascending rest
      rw [text_object, List.cons_append, List.append_assoc, List.singleton_append]
      exact hmembers
    | null | bool _ | number _ | string _ => exact readWith_scalar _ rfl hintegers hrest

end KDispatch.Json
