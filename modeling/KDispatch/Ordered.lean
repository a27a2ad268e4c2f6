/-!
Strictly ascending lists. `insert` puts an element at its place and replaces one that ranks the
same; `precedes` is the order of texts by their characters; `KeyMap` is a list of named values in
ascending order of names, so that two maps with the same look-ups are equal.
-/

namespace KDispatch

namespace Ordered

/-- Puts `x` at its place in an ascending list, instead of an element that ranks the same. -/
def insert {α : Type} (before : α → α → Bool) (x : α) : List α → List α
  | [] => [x]
  | y :: ys =>
    if before x y then x :: y :: ys
    else if before y x then y :: insert before x ys
    else x :: ys

variable {α : Type} {before : α → α → Bool}

@[simp] theorem insert_nil (x : α) : insert before x [] = [x] := rfl

theorem insert_cons (x y : α) (ys : List α) :
    insert before x (y :: ys) =
      if before x y then x :: y :: ys
      else if before y x then y :: insert before x ys
      else x :: ys := rfl

theorem eq_or_mem_of_mem_insert {x z : α} {ys : List α} (h : z ∈ insert before x ys) :
    z = x ∨ z ∈ ys := by
  induction ys with
  | nil => simpa using h
  | cons y ys ih =>
    rw [insert_cons] at h
    split at h
    · simpa using h
    · split at h
      · rcases List.mem_cons.1 h with rfl | h
        · simp
        · rcases ih h with rfl | h <;> simp [*]
      · rcases List.mem_cons.1 h with rfl | h <;> simp [*]

theorem mem_insert_self (x : α) (ys : List α) : x ∈ insert before x ys := by
  induction ys with
  | nil => simp
  | cons y ys ih =>
    rw [insert_cons]
    split
    · simp
    · split <;> simp [ih]

/-- Insertion keeps a list ascending. -/
theorem pairwise_insert (trans : ∀ a b c, before a b → before b c → before a c)
    (replace : ∀ a b c, before a b = false → before b a = false → before b c → before a c)
    {x : α} {ys : List α} (h : ys.Pairwise (before · ·)) :
    (insert before x ys).Pairwise (before · ·) := by
  induction ys with
  | nil => simp
  | cons y ys ih =>
    have ⟨hy, hys⟩ := List.pairwise_cons.1 h
    rw [insert_cons]
    split
    case isTrue hxy =>
      refine List.pairwise_cons.2 ⟨fun z hz => ?_, h⟩
      rcases List.mem_cons.1 hz with rfl | hz
      · exact hxy
      · exact trans _ _ _ hxy (hy z hz)
    case isFalse hxy =>
      split
      case isTrue hyx =>
        refine List.pairwise_cons.2 ⟨fun z hz => ?_, ih hys⟩
        rcases eq_or_mem_of_mem_insert hz with rfl | hz
        · exact hyx
        · exact hy z hz
      case isFalse hyx =>
        exact List.pairwise_cons.2
          ⟨fun z hz => replace _ _ _ (by simpa using hxy) (by simpa using hyx) (hy z hz), hys⟩

/-- Whether a text comes before another one: the first characters that differ decide by their code
points, and a text comes before those that go on after it. -/
def precedes : List Char → List Char → Bool
  | [], [] => false
  | [], _ :: _ => true
  | _ :: _, [] => false
  | a :: s, b :: t => a.toNat < b.toNat || (a == b && precedes s t)

@[simp] theorem precedes_nil_left (t : List Char) : precedes [] t = !t.isEmpty := by cases t <;> rfl

@[simp] theorem precedes_nil_right (s : List Char) : precedes s [] = false := by cases s <;> rfl

@[simp] theorem precedes_cons_cons (a b : Char) (s t : List Char) :
    precedes (a :: s) (b :: t) = (a.toNat < b.toNat || (a == b && precedes s t)) := rfl

theorem precedes_irrefl (s : List Char) : precedes s s = false := by
  induction s with
  | nil => rfl
  | cons a s ih => simp [ih]

theorem precedes_trans {s t u : List Char} (hst : precedes s t) (htu : precedes t u) :
    precedes s u := by
  induction s generalizing t u with
  | nil =>
    cases u with
    | nil => simp at htu
    | cons c u => rfl
  | cons a s ih =>
    cases t with
    | nil => simp at hst
    | cons b t =>
      cases u with
      | nil => simp at htu
      | cons c u =>
        simp only [precedes_cons_cons, Bool.or_eq_true, decide_eq_true_eq, Bool.and_eq_true, beq_iff_eq] at hst htu ⊢
        rcases hst with hab | ⟨rfl, hst⟩
        · rcases htu with hbc | ⟨rfl, htu⟩
          · exact .inl (Nat.lt_trans hab hbc)
          · exact .inl hab
        · rcases htu with hac | ⟨rfl, htu⟩
          · exact .inl hac
          · exact .inr ⟨rfl, ih hst htu⟩

/-- Of two texts that differ one comes before the other. -/
theorem eq_of_not_precedes {s t : List Char} (hst : precedes s t = false)
    (hts : precedes t s = false) : s = t := by
  induction s generalizing t with
  | nil => cases t <;> simp_all
  | cons a s ih =>
    cases t with
    | nil => simp at hts
    | cons b t =>
      simp only [precedes_cons_cons, Bool.or_eq_false_iff, decide_eq_false_iff_not, Bool.and_eq_false_imp,
        beq_iff_eq] at hst hts
      have hab : a = b := Char.toNat_inj.1 (by omega)
      rw [hab, ih (hst.2 hab) (hts.2 hab.symm)]

/-- The order of names. -/
def nameBefore (a b : String) : Bool := precedes a.toList b.toList

end Ordered

/-- Named values, each name once, in ascending order of names. -/
structure KeyMap (α : Type) where
  entries : List (String × α)
  ascending : entries.Pairwise (fun a b => Ordered.nameBefore a.1 b.1)
  deriving DecidableEq

namespace KeyMap

variable {α : Type}

theorem ext {m n : KeyMap α} (h : m.entries = n.entries) : m = n := by
  cases m; cases n; simp_all

def empty : KeyMap α := ⟨[], .nil⟩

instance : Inhabited (KeyMap α) := ⟨empty⟩

/-- Whether an entry comes before another one. -/
def isBefore (a b : String × α) : Bool := Ordered.nameBefore a.1 b.1

/-- Binds `key` to `value`, whatever it was bound to before. -/
def insert (m : KeyMap α) (key : String) (value : α) : KeyMap α where
  entries := Ordered.insert isBefore (key, value) m.entries
  ascending := by
    have trans (a b c : String × α) (hab : isBefore a b) (hbc : isBefore b c) : isBefore a c :=
      Ordered.precedes_trans hab hbc
    have replace (a b c : String × α) (hab : isBefore a b = false) (hba : isBefore b a = false)
        (hbc : isBefore b c) : isBefore a c := by
      have hkeys : a.1.toList = b.1.toList := Ordered.eq_of_not_precedes hab hba
      simpa only [isBefore, Ordered.nameBefore, hkeys] using hbc
    exact Ordered.pairwise_insert trans replace m.ascending

/-- The value of a name. -/
def find? (m : KeyMap α) (key : String) : Option α :=
  (m.entries.find? (·.1 = key)).map (·.2)

def contains (m : KeyMap α) (key : String) : Bool := (m.find? key).isSome

/-- The names, ascending. -/
def keys (m : KeyMap α) : List String := m.entries.map (·.1)

def size (m : KeyMap α) : Nat := m.entries.length

def isEmpty (m : KeyMap α) : Bool := m.entries.isEmpty

/-- Leaves out every entry whose name is in `keys`. -/
def eraseAll (m : KeyMap α) (keys : List String) : KeyMap α :=
  ⟨m.entries.filter (fun e => !keys.contains e.1), m.ascending.filter _⟩

/-- The map with the given entries; of entries with one name the last one counts. -/
def ofList (entries : List (String × α)) : KeyMap α :=
  entries.foldl (fun m e => m.insert e.1 e.2) empty

@[simp] theorem find?_empty (key : String) : (empty : KeyMap α).find? key = none := rfl

theorem find?_entries_insert (entries : List (String × α)) (key k : String) (value : α) :
    (Ordered.insert isBefore (key, value) entries).find? (·.1 = k) =
      if k = key then some (key, value) else entries.find? (·.1 = k) := by
  induction entries with
  | nil => by_cases h : k = key <;> simp [h, eq_comm]
  | cons e entries ih =>
    rw [Ordered.insert_cons]
    split
    case isTrue => by_cases h : k = key <;> simp [h, eq_comm]
    case isFalse hlt =>
      split
      case isTrue hgt =>
        have hne : e.1 ≠ key := fun h => by
          simp [isBefore, Ordered.nameBefore, h, Ordered.precedes_irrefl] at hgt
        by_cases h : k = key <;> simp_all [List.find?_cons]
      case isFalse hgt =>
        have heq : e.1 = key := String.toList_inj.1
          (Ordered.eq_of_not_precedes (Bool.not_eq_true _ ▸ hgt) (Bool.not_eq_true _ ▸ hlt))
        subst heq
        by_cases h : k = e.1
        · simp [h]
        · have h' : e.1 ≠ k := fun he => h he.symm
          simp [h, h']

theorem find?_insert (m : KeyMap α) (key k : String) (value : α) :
    (m.insert key value).find? k = if k = key then some value else m.find? k := by
  unfold find? insert
  rw [find?_entries_insert]
  split <;> rfl

theorem find?_eraseAll (m : KeyMap α) (keys : List String) (k : String) :
    (m.eraseAll keys).find? k = if k ∈ keys then none else m.find? k := by
  unfold find? eraseAll
  rw [List.find?_filter]
  split
  case isTrue hk =>
    rw [Option.map_eq_none_iff, List.find?_eq_none]
    intro e _ he
    have ⟨habsent, heq⟩ : e.1 ∉ keys ∧ e.1 = k := by simpa using he
    exact habsent (heq ▸ hk)
  case isFalse hk =>
    congr 2
    funext e
    by_cases he : e.1 = k <;> simp [he, hk]

end KeyMap

end KDispatch
