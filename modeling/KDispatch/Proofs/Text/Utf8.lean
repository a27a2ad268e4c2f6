import KDispatch.Text.Utf8
import Mathlib.Tactic.SplitIfs

/-!
Reading bytes as text undoes writing text as bytes: bytes are read as a text if and only if they are the
bytes of this text. The bytes of one character and its code point are related once for each number of
bytes; each relation says how the character is written and how it is read. Of bytes that are read as text and
written again, what is well-formed comes back as it was.
-/

namespace KDispatch.Utf8

/-- Whether a byte goes on with a character. -/
def IsNext (b : UInt8) : Prop := 0x80 ≤ b.toNat ∧ b.toNat ≤ 0xBF

theorem isNext_iff {b : UInt8} : 0x80 ≤ b ∧ b ≤ 0xBF ↔ IsNext b := by
  simp only [IsNext, UInt8.le_iff_toNat_le, UInt8.reduceToNat]

/-- Two bytes and the code point of their character. -/
structure AreTwo (b₀ b₁ : UInt8) (v : Nat) : Prop where
  first : 0xC2 ≤ b₀.toNat ∧ b₀.toNat < 0xE0
  second : IsNext b₁
  value : v = b₀.toNat % 32 * 64 + b₁.toNat % 64

/-- Three bytes and the code point of their character, which two bytes have no room for. -/
structure AreThree (b₀ b₁ b₂ : UInt8) (v : Nat) : Prop where
  first : 0xE0 ≤ b₀.toNat ∧ b₀.toNat < 0xF0
  second : IsNext b₁
  third : IsNext b₂
  value : v = (b₀.toNat % 16 * 64 + b₁.toNat % 64) * 64 + b₂.toNat % 64
  long : 0x800 ≤ v
  valid : v.isValidChar

/-- Four bytes and the code point of their character, which three bytes have no room for. -/
structure AreFour (b₀ b₁ b₂ b₃ : UInt8) (v : Nat) : Prop where
  first : 0xF0 ≤ b₀.toNat ∧ b₀.toNat < 0xF5
  second : IsNext b₁
  third : IsNext b₂
  fourth : IsNext b₃
  value : v = ((b₀.toNat % 8 * 64 + b₁.toNat % 64) * 64 + b₂.toNat % 64) * 64 + b₃.toNat % 64
  long : 0x10000 ≤ v
  valid : v.isValidChar

/-! ## Writing -/

theorem toNat_val_ofNat {v : Nat} (h : v.isValidChar) : (Char.ofNat v).val.toNat = v := by
  rw [Char.ofNat, dif_pos h]
  rfl

theorem ofNat_eq_iff {n : Nat} {b : UInt8} (h : n < 256) : UInt8.ofNat n = b ↔ n = b.toNat := by
  rw [← UInt8.toNat_inj, UInt8.toNat_ofNat', Nat.mod_eq_of_lt h]

theorem encodeChar_of_lt {b : UInt8} (h : b.toNat < 0x80) :
    String.utf8EncodeChar (Char.ofNat b.toNat) = [b] := by
  rw [String.utf8EncodeChar, toNat_val_ofNat (.inl (by omega))]
  rw [if_pos (by omega), UInt8.ofNat_toNat]

theorem AreTwo.encodeChar {b₀ b₁ : UInt8} {v : Nat} (h : AreTwo b₀ b₁ v) :
    String.utf8EncodeChar (Char.ofNat v) = [b₀, b₁] := by
  obtain ⟨first, ⟨low, high⟩, value⟩ := h
  rw [String.utf8EncodeChar, toNat_val_ofNat (.inl (by omega))]
  rw [if_neg (by omega), if_pos (by omega)]
  simp only [List.cons.injEq, and_true]
  refine ⟨(ofNat_eq_iff ?_).2 ?_, (ofNat_eq_iff ?_).2 ?_⟩
  all_goals omega

theorem AreThree.encodeChar {b₀ b₁ b₂ : UInt8} {v : Nat} (h : AreThree b₀ b₁ b₂ v) :
    String.utf8EncodeChar (Char.ofNat v) = [b₀, b₁, b₂] := by
  obtain ⟨first, ⟨low, high⟩, ⟨low', high'⟩, value, long, valid⟩ := h
  rw [String.utf8EncodeChar, toNat_val_ofNat valid]
  rw [if_neg (by omega), if_neg (by omega), if_pos (by omega)]
  simp only [List.cons.injEq, and_true]
  refine ⟨(ofNat_eq_iff ?_).2 ?_, (ofNat_eq_iff ?_).2 ?_, (ofNat_eq_iff ?_).2 ?_⟩
  all_goals omega

theorem AreFour.encodeChar {b₀ b₁ b₂ b₃ : UInt8} {v : Nat} (h : AreFour b₀ b₁ b₂ b₃ v) :
    String.utf8EncodeChar (Char.ofNat v) = [b₀, b₁, b₂, b₃] := by
  obtain ⟨first, ⟨low, high⟩, ⟨low', high'⟩, ⟨low'', high''⟩, value, long, valid⟩ := h
  rw [String.utf8EncodeChar, toNat_val_ofNat valid]
  rw [if_neg (by omega), if_neg (by omega), if_neg (by omega)]
  simp only [List.cons.injEq, and_true]
  refine ⟨(ofNat_eq_iff ?_).2 ?_, (ofNat_eq_iff ?_).2 ?_, (ofNat_eq_iff ?_).2 ?_, (ofNat_eq_iff ?_).2 ?_⟩
  all_goals omega

/-! ## Reading -/

/-- A byte below 0x80 is a character of its own. -/
theorem pieces_of_lt {b : UInt8} (h : b.toNat < 0x80) (rest : Bytes) :
    pieces (b :: rest) = .ok (Char.ofNat b.toNat) :: pieces rest := by
  simp [pieces, lead, h]

theorem lead_of_two {b : UInt8} (h : 0xC2 ≤ b.toNat ∧ b.toNat < 0xE0) :
    lead b = .begins ⟨[b], b.toNat % 32, 0, 0x80, 0xBF⟩ := by
  unfold lead
  dsimp only
  rw [if_neg (by omega), if_neg (by omega), if_pos h.2]

/-- The range of the second of three bytes leaves out just the code points that two bytes have room for, and
the surrogates. -/
theorem lead_of_three {b : UInt8} (h : 0xE0 ≤ b.toNat ∧ b.toNat < 0xF0) :
    ∃ low high, lead b = .begins ⟨[b], b.toNat % 16, 1, low, high⟩ ∧
      ∀ n, low ≤ n ∧ n ≤ high ↔ IsNext n ∧ 0x20 ≤ b.toNat % 16 * 64 + n.toNat % 64 ∧
        (b.toNat % 16 * 64 + n.toNat % 64 < 0x360 ∨ 0x37F < b.toNat % 16 * 64 + n.toNat % 64) := by
  unfold lead
  dsimp only
  rw [if_neg (by omega), if_neg (by omega), if_neg (by omega)]
  split_ifs
  all_goals first
    | omega
    | refine ⟨_, _, rfl, fun n => ?_⟩
      simp only [IsNext, UInt8.le_iff_toNat_le, UInt8.reduceToNat]
      omega

/-- The range of the second of four bytes leaves out just the code points that three bytes have room for, and
those above U+10FFFF. -/
theorem lead_of_four {b : UInt8} (h : 0xF0 ≤ b.toNat ∧ b.toNat < 0xF5) :
    ∃ low high, lead b = .begins ⟨[b], b.toNat % 8, 2, low, high⟩ ∧
      ∀ n, low ≤ n ∧ n ≤ high ↔ IsNext n ∧ 0x10 ≤ b.toNat % 8 * 64 + n.toNat % 64 ∧
        b.toNat % 8 * 64 + n.toNat % 64 < 0x110 := by
  unfold lead
  dsimp only
  rw [if_neg (by omega), if_neg (by omega), if_neg (by omega), if_neg (by omega),
    if_neg (by omega), if_neg (by omega)]
  split_ifs
  all_goals first
    | omega
    | refine ⟨_, _, rfl, fun n => ?_⟩
      simp only [IsNext, UInt8.le_iff_toNat_le, UInt8.reduceToNat]
      omega

theorem lead_cases (b : UInt8) :
    b.toNat < 0x80 ∨ (0xC2 ≤ b.toNat ∧ b.toNat < 0xE0) ∨ (0xE0 ≤ b.toNat ∧ b.toNat < 0xF0) ∨
      (0xF0 ≤ b.toNat ∧ b.toNat < 0xF5) ∨ lead b = .malformed := by
  unfold lead
  dsimp only
  split_ifs <;> simp <;> omega

/-- A character that has begun goes on with a byte in its range, or is malformed. -/
theorem piecesAfter_cases (p : Pending) (bytes : Bytes) :
    (∃ n rest, bytes = n :: rest ∧ (p.low ≤ n ∧ n ≤ p.high)) ∨
      ∃ part more, piecesAfter p bytes = .error part :: more := by
  cases bytes with
  | nil => exact .inr ⟨_, _, rfl⟩
  | cons n rest =>
    by_cases hrange : p.low ≤ n ∧ n ≤ p.high
    · exact .inl ⟨n, rest, rfl, hrange⟩
    · right
      rw [piecesAfter_cons, Pending.next, if_neg hrange]
      exact ⟨_, _, rfl⟩

theorem piecesAfter_last {p : Pending} (howed : p.owed = 0) {n : UInt8} (hrange : p.low ≤ n ∧ n ≤ p.high)
    (rest : Bytes) :
    piecesAfter p (n :: rest) = .ok (Char.ofNat (p.value * 64 + n.toNat % 64)) :: pieces rest := by
  rw [piecesAfter_cons, Pending.next, if_pos hrange, howed]

theorem piecesAfter_next {p : Pending} {owed : Nat} (howed : p.owed = owed + 1) {n : UInt8}
    (hrange : p.low ≤ n ∧ n ≤ p.high) (rest : Bytes) :
    piecesAfter p (n :: rest) =
      piecesAfter ⟨p.bytes ++ [n], p.value * 64 + n.toNat % 64, owed, 0x80, 0xBF⟩ rest := by
  rw [piecesAfter_cons, Pending.next, if_pos hrange, howed]

theorem AreTwo.pieces {b₀ b₁ : UInt8} {v : Nat} (h : AreTwo b₀ b₁ v) (rest : Bytes) :
    pieces (b₀ :: b₁ :: rest) = .ok (Char.ofNat v) :: Utf8.pieces rest := by
  rw [Utf8.pieces, lead_of_two h.first, h.value]
  exact piecesAfter_last rfl (isNext_iff.2 h.second) rest

theorem AreThree.pieces {b₀ b₁ b₂ : UInt8} {v : Nat} (h : AreThree b₀ b₁ b₂ v) (rest : Bytes) :
    pieces (b₀ :: b₁ :: b₂ :: rest) = .ok (Char.ofNat v) :: Utf8.pieces rest := by
  obtain ⟨first, second, third, rfl, long, valid⟩ := h
  obtain ⟨low, high, hlead, hrange⟩ := lead_of_three first
  have hsecond : low ≤ b₁ ∧ b₁ ≤ high := by
    unfold Nat.isValidChar at valid
    exact (hrange b₁).2 ⟨second, by omega, by omega⟩
  rw [Utf8.pieces, hlead]
  dsimp only
  rw [piecesAfter_next rfl hsecond]
  exact piecesAfter_last rfl (isNext_iff.2 third) rest

theorem AreFour.pieces {b₀ b₁ b₂ b₃ : UInt8} {v : Nat} (h : AreFour b₀ b₁ b₂ b₃ v) (rest : Bytes) :
    pieces (b₀ :: b₁ :: b₂ :: b₃ :: rest) = .ok (Char.ofNat v) :: Utf8.pieces rest := by
  obtain ⟨first, second, third, fourth, rfl, long, valid⟩ := h
  obtain ⟨low, high, hlead, hrange⟩ := lead_of_four first
  have hsecond : low ≤ b₁ ∧ b₁ ≤ high := by
    unfold Nat.isValidChar at valid
    exact (hrange b₁).2 ⟨second, by omega, by omega⟩
  rw [Utf8.pieces, hlead]
  dsimp only
  rw [piecesAfter_next rfl hsecond, piecesAfter_next rfl (isNext_iff.2 third)]
  exact piecesAfter_last rfl (isNext_iff.2 fourth) rest

/-- The bytes of a character are read as this character. -/
theorem pieces_encodeChar (c : Char) (rest : Bytes) :
    pieces (String.utf8EncodeChar c ++ rest) = .ok c :: pieces rest := by
  have hvalid : c.val.toNat.isValidChar := c.valid
  have hc : Char.ofNat c.val.toNat = c := Char.ofNat_toNat c
  unfold String.utf8EncodeChar
  dsimp only
  generalize c.val.toNat = v at hvalid hc
  subst hc
  have hlt : v < 0x110000 := by
    unfold Nat.isValidChar at hvalid
    omega
  split_ifs with hone htwo hthree
  · have hbyte : (UInt8.ofNat v).toNat = v := by
      rw [UInt8.toNat_ofNat', Nat.mod_eq_of_lt (by omega)]
    rw [List.singleton_append, pieces_of_lt (by omega), hbyte]
  · refine AreTwo.pieces ⟨⟨?_, ?_⟩, ⟨?_, ?_⟩, ?_⟩ rest
    all_goals
      simp only [UInt8.toNat_ofNat']
      omega
  · refine AreThree.pieces ⟨⟨?_, ?_⟩, ⟨?_, ?_⟩, ⟨?_, ?_⟩, ?_, Nat.lt_of_not_le htwo, hvalid⟩ rest
    all_goals
      simp only [UInt8.toNat_ofNat']
      omega
  · refine AreFour.pieces ⟨⟨?_, ?_⟩, ⟨?_, ?_⟩, ⟨?_, ?_⟩, ⟨?_, ?_⟩, ?_, Nat.lt_of_not_le hthree, hvalid⟩ rest
    all_goals
      simp only [UInt8.toNat_ofNat']
      omega

/-- Whether bytes begin with those of a character, or are read as malformed. -/
def FirstIsRead (bytes : Bytes) : Prop :=
  (∃ c rest, bytes = String.utf8EncodeChar c ++ rest) ∨ ∃ part more, pieces bytes = .error part :: more

theorem firstIsRead_of_two {b : UInt8} (hb : 0xC2 ≤ b.toNat ∧ b.toNat < 0xE0) (bytes : Bytes) :
    FirstIsRead (b :: bytes) := by
  unfold FirstIsRead
  rw [pieces, lead_of_two hb]
  dsimp only
  rcases piecesAfter_cases ⟨[b], b.toNat % 32, 0, 0x80, 0xBF⟩ bytes with ⟨b₁, rest, rfl, h₁⟩ | hmalformed
  · have h : AreTwo b b₁ _ := ⟨hb, isNext_iff.1 h₁, rfl⟩
    exact .inl ⟨_, rest, by rw [h.encodeChar]; rfl⟩
  · exact .inr hmalformed

theorem firstIsRead_of_three {b : UInt8} (hb : 0xE0 ≤ b.toNat ∧ b.toNat < 0xF0) (bytes : Bytes) :
    FirstIsRead (b :: bytes) := by
  obtain ⟨low, high, hlead, hrange⟩ := lead_of_three hb
  unfold FirstIsRead
  rw [pieces, hlead]
  dsimp only
  rcases piecesAfter_cases ⟨[b], b.toNat % 16, 1, low, high⟩ bytes with ⟨b₁, rest, rfl, h₁⟩ | hmalformed
  case inr => exact .inr hmalformed
  rw [piecesAfter_next rfl h₁]
  rcases piecesAfter_cases ⟨[b] ++ [b₁], b.toNat % 16 * 64 + b₁.toNat % 64, 0, 0x80, 0xBF⟩ rest with
    ⟨b₂, rest, rfl, h₂⟩ | hmalformed
  case inr => exact .inr hmalformed
  obtain ⟨hsecond, hlong, hvalid⟩ := (hrange b₁).1 h₁
  have h : AreThree b b₁ b₂ _ := ⟨hb, hsecond, isNext_iff.1 h₂, rfl, by omega, by
    unfold Nat.isValidChar
    omega⟩
  exact .inl ⟨_, rest, by rw [h.encodeChar]; rfl⟩

theorem firstIsRead_of_four {b : UInt8} (hb : 0xF0 ≤ b.toNat ∧ b.toNat < 0xF5) (bytes : Bytes) :
    FirstIsRead (b :: bytes) := by
  obtain ⟨low, high, hlead, hrange⟩ := lead_of_four hb
  unfold FirstIsRead
  rw [pieces, hlead]
  dsimp only
  rcases piecesAfter_cases ⟨[b], b.toNat % 8, 2, low, high⟩ bytes with ⟨b₁, rest, rfl, h₁⟩ | hmalformed
  case inr => exact .inr hmalformed
  rw [piecesAfter_next rfl h₁]
  rcases piecesAfter_cases ⟨[b] ++ [b₁], b.toNat % 8 * 64 + b₁.toNat % 64, 1, 0x80, 0xBF⟩ rest with
    ⟨b₂, rest, rfl, h₂⟩ | hmalformed
  case inr => exact .inr hmalformed
  rw [piecesAfter_next rfl h₂]
  rcases piecesAfter_cases ⟨[b] ++ [b₁] ++ [b₂],
      (b.toNat % 8 * 64 + b₁.toNat % 64) * 64 + b₂.toNat % 64, 0, 0x80, 0xBF⟩ rest with
    ⟨b₃, rest, rfl, h₃⟩ | hmalformed
  case inr => exact .inr hmalformed
  obtain ⟨hsecond, hlong, hvalid⟩ := (hrange b₁).1 h₁
  have h : AreFour b b₁ b₂ b₃ _ := ⟨hb, hsecond, isNext_iff.1 h₂, isNext_iff.1 h₃, rfl, by omega, by
    unfold Nat.isValidChar
    omega⟩
  exact .inl ⟨_, rest, by rw [h.encodeChar]; rfl⟩

theorem firstIsRead_cons (b : UInt8) (bytes : Bytes) : FirstIsRead (b :: bytes) := by
  rcases lead_cases b with hone | htwo | hthree | hfour | hlead
  · exact .inl ⟨_, bytes, by rw [encodeChar_of_lt hone]; rfl⟩
  · exact firstIsRead_of_two htwo bytes
  · exact firstIsRead_of_three hthree bytes
  · exact firstIsRead_of_four hfour bytes
  · exact .inr ⟨[b], pieces bytes, by rw [pieces, hlead]⟩

/-! ## Pieces -/

theorem bytes_of_lead {b : UInt8} {p : Pending} (h : lead b = .begins p) : p.bytes = [b] := by
  unfold lead at h
  dsimp only at h
  split_ifs at h
  all_goals
    cases h
    rfl

theorem bytes_of_next {p q : Pending} {b : UInt8} (h : p.next b = some (.inr q)) :
    q.bytes = p.bytes ++ [b] := by
  unfold Pending.next at h
  split at h
  · dsimp only at h
    split at h <;> cases h
    rfl
  · contradiction

/-- A malformed part is made of the bytes before the next piece, by induction on what follows its beginning. -/
theorem eq_append_of_piecesAfter {p : Pending} {bytes part : Bytes} {more : List Piece}
    (h : piecesAfter p bytes = .error part :: more) :
    ∃ taken rest, bytes = taken ++ rest ∧ part = p.bytes ++ taken ∧ more = pieces rest ∧
      piecesAfter p taken = [.error part] := by
  induction bytes generalizing p with
  | nil =>
    obtain ⟨hpart, hmore⟩ := List.cons.inj h
    rw [← Except.error.inj hpart]
    exact ⟨[], [], rfl, (List.append_nil _).symm, hmore.symm, rfl⟩
  | cons b bytes ih =>
    rw [piecesAfter_cons] at h
    split at h
    case h_1 => cases h
    case h_2 q hnext =>
      obtain ⟨taken, rest, rfl, rfl, hmore, htaken⟩ := ih h
      refine ⟨b :: taken, rest, rfl, ?_, hmore, ?_⟩
      · rw [bytes_of_next hnext, List.append_assoc, List.singleton_append]
      · rw [piecesAfter_cons, hnext]
        exact htaken
    case h_3 =>
      obtain ⟨hpart, hmore⟩ := List.cons.inj h
      rw [← Except.error.inj hpart]
      exact ⟨[], b :: bytes, rfl, (List.append_nil _).symm, hmore.symm, rfl⟩

/-- A malformed part at the start is read as malformed by itself, too, and the rest as if it came first. -/
theorem eq_append_of_pieces {bytes part : Bytes} {more : List Piece}
    (h : pieces bytes = .error part :: more) :
    pieces part = [.error part] ∧ ∃ rest, bytes = part ++ rest ∧ more = pieces rest := by
  cases bytes with
  | nil => contradiction
  | cons b bytes =>
    rw [pieces] at h
    split at h
    case h_1 => cases h
    case h_2 p hlead =>
      obtain ⟨taken, rest, rfl, rfl, hmore, htaken⟩ := eq_append_of_piecesAfter h
      rw [bytes_of_lead hlead] at htaken ⊢
      refine ⟨?_, rest, rfl, hmore⟩
      rw [List.singleton_append, pieces, hlead]
      exact htaken
    case h_3 hlead =>
      obtain ⟨hpart, hmore⟩ := List.cons.inj h
      rw [← Except.error.inj hpart]
      exact ⟨by rw [pieces, hlead, pieces], bytes, rfl, hmore.symm⟩

/-- What holds of no bytes, and of bytes with a character or a malformed part before them if it holds of these, holds
of all bytes: they get fewer with each piece. -/
theorem pieces_induction {motive : Bytes → Prop} (nil : motive [])
    (char : ∀ c rest, motive rest → motive (String.utf8EncodeChar c ++ rest))
    (malformed : ∀ part rest, pieces part = [.error part] →
      pieces (part ++ rest) = .error part :: pieces rest → motive rest → motive (part ++ rest))
    (bytes : Bytes) : motive bytes := by
  induction hlength : bytes.length using Nat.strongRecOn generalizing bytes with
  | ind n ih =>
    have hshorter {first rest : Bytes} (hne : first ≠ []) (hbytes : bytes = first ++ rest) :
        motive rest := by
      have hpos := List.length_pos_iff.2 hne
      rw [hbytes, List.length_append] at hlength
      exact ih rest.length (by omega) rest rfl
    cases bytes with
    | nil => exact nil
    | cons b bytes =>
      rcases firstIsRead_cons b bytes with ⟨c, rest, hbytes⟩ | ⟨part, more, hpieces⟩
      · rw [hbytes]
        exact char c rest (hshorter String.utf8EncodeChar_ne_nil hbytes)
      · obtain ⟨hpart, rest, hbytes, rfl⟩ := eq_append_of_pieces hpieces
        have hne : part ≠ [] := by
          rintro rfl
          contradiction
        rw [hbytes] at hpieces ⊢
        exact malformed part rest hpart hpieces (hshorter hne hbytes)

/-- Bytes that are read without malformed parts are those of the text. -/
theorem encode_of_pieces {bytes : Bytes} {text : Text} (h : pieces bytes = text.map .ok) :
    encode text = bytes := by
  induction bytes using pieces_induction generalizing text with
  | nil =>
    rw [pieces, eq_comm, List.map_eq_nil_iff] at h
    rw [h]
    rfl
  | char c rest ih =>
    rw [pieces_encodeChar, eq_comm, List.map_eq_cons_iff] at h
    obtain ⟨d, text, rfl, hd, htext⟩ := h
    obtain rfl : d = c := Except.ok.inj hd
    rw [encode, List.flatMap_cons]
    exact congrArg _ (ih htext.symm)
  | malformed part rest hpart hpieces ih => cases text <;> simp [hpieces] at h

/-- The text of well-formed bytes is the one whose bytes they are. -/
theorem decode?_eq_some_iff_encode {bytes : Bytes} {text : Text} :
    decode? bytes = some text ↔ encode text = bytes := by
  rw [decode?_eq_some_iff]
  refine ⟨encode_of_pieces, ?_⟩
  rintro rfl
  induction text with
  | nil => rfl
  | cons c text ih =>
    rw [encode, List.flatMap_cons, pieces_encodeChar]
    exact congrArg _ ih

theorem decode?_eq_none_iff {bytes : Bytes} : decode? bytes = none ↔ ∀ text, encode text ≠ bytes := by
  simp only [Option.eq_none_iff_forall_ne_some, ne_eq, decode?_eq_some_iff_encode]

/-! ## Returns -/

@[simp] theorem encode_nil : encode [] = [] := rfl

@[simp] theorem encode_append (s t : Text) : encode (s ++ t) = encode s ++ encode t :=
  List.flatMap_append

/-- The bytes that a piece has been read from. -/
def Piece.bytes : Piece → Bytes
  | .ok c => String.utf8EncodeChar c
  | .error part => part

/-- The bytes that a piece becomes: those of U+FFFD for a malformed part. -/
def Piece.mended : Piece → Bytes
  | .ok c => String.utf8EncodeChar c
  | .error _ => [0xEF, 0xBF, 0xBD]

/-- Any bytes as those of the text that they are read as. -/
def mend (bytes : Bytes) : Bytes := encode (decodeLossy bytes)

/-- Characters come back as they were, malformed parts are replaced. -/
theorem mend_eq_flatMap (bytes : Bytes) : mend bytes = (pieces bytes).flatMap Piece.mended := by
  have hreplacement : String.utf8EncodeChar '\uFFFD' = [0xEF, 0xBF, 0xBD] := by decide
  have hpiece (piece : Piece) : String.utf8EncodeChar (charOrReplacement piece) = Piece.mended piece := by
    cases piece with
    | ok c => rfl
    | error part => exact hreplacement
  rw [mend, encode, decodeLossy, List.flatMap_map]
  exact congrArg (List.flatMap · _) (funext hpiece)

/-- Bytes come back unchanged exactly if they are well-formed. -/
theorem mend_eq_self_iff {bytes : Bytes} : mend bytes = bytes ↔ ∃ text, encode text = bytes := by
  constructor
  · exact fun h => ⟨decodeLossy bytes, h⟩
  · rintro ⟨text, h⟩
    rw [mend, decodeLossy_of_decode? (decode?_eq_some_iff_encode.2 h), h]

/-- The pieces of bytes are these bytes again. -/
theorem flatMap_bytes_pieces (bytes : Bytes) : (pieces bytes).flatMap Piece.bytes = bytes := by
  induction bytes using pieces_induction with
  | nil => rfl
  | char c rest ih =>
    rw [pieces_encodeChar, List.flatMap_cons, ih]
    rfl
  | malformed part rest hpart hpieces ih =>
    rw [hpieces, List.flatMap_cons, ih]
    rfl

/-- No malformed part is the bytes of a text. -/
theorem encode_ne_of_mem_pieces {bytes part : Bytes} (h : .error part ∈ pieces bytes) (text : Text) :
    encode text ≠ part := by
  induction bytes using pieces_induction with
  | nil => contradiction
  | char c rest ih =>
    rw [pieces_encodeChar] at h
    exact ih (by simpa using h)
  | malformed first rest hfirst hpieces ih =>
    rw [hpieces] at h
    rcases List.mem_cons.1 h with heq | hrest
    · rw [Except.error.inj heq]
      refine decode?_eq_none_iff.1 ?_ text
      rw [decode?, hfirst]
      rfl
    · exact ih hrest

/-- What mending does to bytes: they come apart into characters and malformed parts, and only the latter, which are
no text, are replaced. -/
structure IsMended (bytes mended : Bytes) : Prop where
  pieces : (Utf8.pieces bytes).flatMap Piece.bytes = bytes
  malformed : ∀ part, .error part ∈ Utf8.pieces bytes → ∀ text, encode text ≠ part
  replaced : mended = (Utf8.pieces bytes).flatMap Piece.mended
  unchanged : mended = bytes ↔ ∃ text, encode text = bytes

theorem isMended_mend (bytes : Bytes) : IsMended bytes (mend bytes) where
  pieces := flatMap_bytes_pieces bytes
  malformed _ hpart := encode_ne_of_mem_pieces hpart
  replaced := mend_eq_flatMap bytes
  unchanged := mend_eq_self_iff

end KDispatch.Utf8
