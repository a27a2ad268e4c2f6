import KDispatch.Text.Utf8

/-!
Text as lines. `lines` splits at line feeds, `join` puts pieces together with a separator, `indent`
moves every line to the right and `hang` every line but the first.
-/

namespace KDispatch.Text

/-- Splits a sequence at the terminator `lf`, of which a directly preceding `cr` is a part; what
follows the last terminator is a line of its own unless it is empty. -/
def linesBy {α : Type} [DecidableEq α] (lf cr : α) : List α → List (List α)
  | [] => []
  | c :: rest =>
    if c = lf then [] :: linesBy lf cr rest
    else if c = cr ∧ rest.head? = some lf then linesBy lf cr rest
    else
      match linesBy lf cr rest with
      | [] => [[c]]
      | line :: more => (c :: line) :: more

def lines (text : Text) : List Text := linesBy '\n' '\r' text

/-- The pieces in order, with `separator` between neighbours. -/
def join (separator : Text) : List Text → Text
  | [] => []
  | [piece] => piece
  | piece :: next :: more => piece ++ separator ++ join separator (next :: more)

/-- Puts two spaces before every line. -/
def indent (text : Text) : Text :=
  join ['\n'] ((lines text).map ([' ', ' '] ++ ·))

/-- Puts `width` spaces after every line feed. -/
def hang (width : Nat) (text : Text) : Text :=
  text.flatMap fun c => if c = '\n' then '\n' :: List.replicate width ' ' else [c]

@[simp] theorem join_nil (separator : Text) : join separator [] = [] := rfl

@[simp] theorem join_singleton (separator piece : Text) : join separator [piece] = piece := rfl

theorem join_cons_cons (separator piece next : Text) (more : List Text) :
    join separator (piece :: next :: more) = piece ++ separator ++ join separator (next :: more) :=
  rfl

@[simp] theorem hang_nil (width : Nat) : hang width [] = [] := rfl

@[simp] theorem hang_append (width : Nat) (s t : Text) :
    hang width (s ++ t) = hang width s ++ hang width t := by
  simp [hang]

/-! ## Blanks

Blank characters: those with the Unicode property White_Space. `trim` removes them from both ends of
a text.
-/

/-- The code points with the property White_Space, as inclusive ranges. -/
def blankRanges : List (Nat × Nat) :=
  [(0x09, 0x0D), (0x20, 0x20), (0x85, 0x85), (0xA0, 0xA0), (0x1680, 0x1680), (0x2000, 0x200A),
   (0x2028, 0x2029), (0x202F, 0x202F), (0x205F, 0x205F), (0x3000, 0x3000)]

def isBlank (c : Char) : Bool :=
  blankRanges.any fun r => r.1 ≤ c.toNat && c.toNat ≤ r.2

/-- Removes the elements that satisfy `p` from the end of a list. -/
def dropEndWhile {α : Type} (p : α → Bool) (xs : List α) : List α :=
  (xs.reverse.dropWhile p).reverse

def trim (text : Text) : Text := dropEndWhile isBlank (text.dropWhile isBlank)

theorem isBlank_of_isWhitespace {c : Char} (h : c.isWhitespace) : isBlank c := by
  simp only [Char.isWhitespace, Bool.or_eq_true, decide_eq_true_eq] at h
  rcases h with ((rfl | rfl) | rfl) | rfl <;> decide

end KDispatch.Text
