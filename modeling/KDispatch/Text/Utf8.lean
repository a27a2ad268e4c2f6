/-!
UTF-8 text. `encode` writes characters as bytes and `pieces` reads bytes one at a time, as characters
and malformed parts; `decode?` accepts well-formed bytes only, and `decodeLossy` accepts all bytes.
-/

namespace KDispatch

abbrev Bytes := List UInt8

/-- Text as the list of its characters. -/
abbrev Text := List Char

namespace Utf8

def encode (text : Text) : Bytes := text.flatMap String.utf8EncodeChar

/-- A character that has begun: the bytes so far and their value, how many bytes are owed after the
next one, and the range the next one must lie in. -/
structure Pending where
  bytes : Bytes
  value : Nat
  owed : Nat
  low : UInt8
  high : UInt8

/-- What a byte between two characters can be. -/
inductive Lead where
  | char (c : Char)
  | begins (p : Pending)
  | malformed

/-- The ranges leave out overlong forms, surrogates and values above U+10FFFF. -/
def lead (b : UInt8) : Lead :=
  let n := b.toNat
  if n < 0x80 then .char (Char.ofNat n)
  else if n < 0xC2 then .malformed
  else if n < 0xE0 then .begins ⟨[b], n % 32, 0, 0x80, 0xBF⟩
  else if n = 0xE0 then .begins ⟨[b], n % 16, 1, 0xA0, 0xBF⟩
  else if n = 0xED then .begins ⟨[b], n % 16, 1, 0x80, 0x9F⟩
  else if n < 0xF0 then .begins ⟨[b], n % 16, 1, 0x80, 0xBF⟩
  else if n = 0xF0 then .begins ⟨[b], n % 8, 2, 0x90, 0xBF⟩
  else if n < 0xF4 then .begins ⟨[b], n % 8, 2, 0x80, 0xBF⟩
  else if n = 0xF4 then .begins ⟨[b], n % 8, 2, 0x80, 0x8F⟩
  else .malformed

/-- The next byte of a character that has begun: the character, or what is still pending, or
`none` when the byte cannot continue it. -/
def Pending.next (p : Pending) (b : UInt8) : Option (Char ⊕ Pending) :=
  if p.low ≤ b ∧ b ≤ p.high then
    let value := p.value * 64 + b.toNat % 64
    match p.owed with
    | 0 => some (.inl (Char.ofNat value))
    | owed + 1 => some (.inr ⟨p.bytes ++ [b], value, owed, 0x80, 0xBF⟩)
  else none

/-- A character, or the bytes of a malformed part. -/
abbrev Piece := Except Bytes Char

mutual

/-- The characters of a byte sequence and its maximal malformed parts. -/
def pieces : Bytes → List Piece
  | [] => []
  | b :: rest =>
    match lead b with
    | .char c => .ok c :: pieces rest
    | .begins p => piecesAfter p rest
    | .malformed => .error [b] :: pieces rest

/-- The pieces of a byte sequence that follows the beginning of a character. -/
def piecesAfter (p : Pending) : Bytes → List Piece
  | [] => [.error p.bytes]
  | b :: rest =>
    match p.next b with
    | some (.inl c) => .ok c :: pieces rest
    | some (.inr p) => piecesAfter p rest
    | none =>
      .error p.bytes ::
        match lead b with
        | .char c => .ok c :: pieces rest
        | .begins p => piecesAfter p rest
        | .malformed => .error [b] :: pieces rest

end

theorem piecesAfter_cons (p : Pending) (b : UInt8) (rest : Bytes) :
    piecesAfter p (b :: rest) =
      match p.next b with
      | some (.inl c) => .ok c :: pieces rest
      | some (.inr p) => piecesAfter p rest
      | none => .error p.bytes :: pieces (b :: rest) := rfl

/-- The text of well-formed bytes. -/
def decode? (bytes : Bytes) : Option Text := (pieces bytes).mapM Except.toOption

def charOrReplacement : Piece → Char
  | .ok c => c
  | .error _ => '\uFFFD'

/-- The text of any bytes: U+FFFD stands for each maximal malformed part. -/
def decodeLossy (bytes : Bytes) : Text := (pieces bytes).map charOrReplacement

theorem decode?_eq_some_iff {bytes : Bytes} {text : Text} :
    decode? bytes = some text ↔ pieces bytes = text.map .ok := by
  unfold decode?
  generalize pieces bytes = us
  induction us generalizing text with
  | nil => cases text <;> simp
  | cons u us ih =>
    cases u with
    | error b => cases text <;> simp [Except.toOption]
    | ok c =>
      cases text with
      | nil => simp [Option.bind_eq_some_iff]
      | cons d text =>
        simp only [List.mapM_cons, Except.toOption, Option.bind_eq_bind, Option.bind_some,
          Option.pure_def, Option.bind_eq_some_iff, Option.some.injEq, List.cons.injEq,
          List.map_cons, Except.ok.injEq, ih]
        exact ⟨fun ⟨_, h, hc, ht⟩ => ⟨hc, ht ▸ h⟩, fun ⟨hc, h⟩ => ⟨text, h, hc, rfl⟩⟩

theorem decodeLossy_of_decode? {bytes : Bytes} {text : Text} (h : decode? bytes = some text) :
    decodeLossy bytes = text := by
  simp [decodeLossy, decode?_eq_some_iff.1 h, Function.comp_def, charOrReplacement]

end Utf8

/-- The bytes of a string. -/
def utf8 (s : String) : Bytes := Utf8.encode s.toList

end KDispatch

/-! ## Bytes as text

Bytes as text in which each character stands for the byte with its code. Texts of this kind hold any
bytes and are told apart from proper text by the functions that convert them; the two kinds agree on
ASCII. Reading bytes and writing them again changes nothing.
-/

namespace KDispatch.ByteText

def ofBytes (bytes : Bytes) : Text := bytes.map fun b => Char.ofNat b.toNat

def toBytes (text : Text) : Bytes := text.map fun c => UInt8.ofNat c.toNat

def isAscii (s : String) : Bool := s.toList.all (·.toNat < 0x80)

/-- The byte text of a string. -/
def ofString (s : String) : String := if isAscii s then s else String.ofList (ofBytes (utf8 s))

/-- The string that a byte text spells; malformed parts become U+FFFD. -/
def toString (s : String) : String :=
  if isAscii s then s else String.ofList (Utf8.decodeLossy (toBytes s.toList))

theorem toBytes_ofBytes (bytes : Bytes) : toBytes (ofBytes bytes) = bytes := by
  induction bytes with
  | nil => rfl
  | cons b bytes ih =>
    have hb : UInt8.ofNat (Char.ofNat b.toNat).toNat = b := by
      have h : b.toNat < 256 := b.toNat_lt
      have hv : b.toNat.isValidChar := Or.inl (by omega)
      have hc : (Char.ofNat b.toNat).toNat = b.toNat := by
        unfold Char.ofNat
        rw [dif_pos hv]
        rfl
      rw [hc]
      simp
    simpa [toBytes, ofBytes, hb] using ih

end KDispatch.ByteText
