import KDispatch.Json.Reader
import KDispatch.Proofs.Json.Value

/-!
What the reader gives. The members of all objects that are read are in ascending order of keys, whatever their
order in the text.
-/

namespace KDispatch

namespace Json

theorem bind_eq_ok_iff {α β : Type} {x : Except ReadError α} {f : α → Except ReadError β} {b : β} :
    (x >>= f) = .ok b ↔ ∃ a, x = .ok a ∧ f a = .ok b := by
  cases x <;> simp [bind, Except.bind]

theorem map_eq_ok_iff {α β : Type} {x : Except ReadError α} {f : α → β} {b : β} :
    x.map f = .ok b ↔ ∃ a, x = .ok a ∧ f a = b := by
  cases x <;> simp [Except.map]

/-! ## Order -/

/-- Whether a reader gives ordered values only. -/
def GivesOrdered (reader : Reader Json) : Prop :=
  ∀ text value rest, reader text = .ok (value, rest) → value.IsOrdered

variable {mode : Mode} {reader : Reader Json} {text rest : Text} {value : Json}

theorem eq_of_readWord {word : Text} {result : Json} (h : readWord value word text = .ok (result, rest)) :
    result = value := by
  induction word generalizing text with
  | nil =>
    cases h
    rfl
  | cons w word ih =>
    cases text with
    | nil => contradiction
    | cons c text =>
      unfold readWord at h
      split at h
      · exact ih h
      · contradiction

theorem forall_mem_readItems {fuel : Nat} {items : List Json} (hreader : GivesOrdered reader)
    (h : readItems reader fuel text = .ok (items, rest)) : ∀ item ∈ items, item.IsOrdered := by
  induction fuel generalizing text items rest with
  | zero => contradiction
  | succ fuel ih =>
    obtain ⟨⟨item, after⟩, hitem, h⟩ := bind_eq_ok_iff.1 h
    have hordered := hreader _ _ _ hitem
    dsimp only at h
    split at h
    · contradiction
    · cases h
      simpa using hordered
    · obtain ⟨⟨more, last⟩, hmore, h⟩ := bind_eq_ok_iff.1 h
      cases h
      simpa using ⟨hordered, ih hmore⟩
    · contradiction

theorem forall_mem_readMembers {fuel : Nat} {members : List (String × Json)} (hreader : GivesOrdered reader)
    (h : readMembers mode reader fuel text = .ok (members, rest)) : ∀ member ∈ members, member.2.IsOrdered := by
  induction fuel generalizing text members rest with
  | zero => contradiction
  | succ fuel ih =>
    obtain ⟨⟨key, afterKey⟩, -, h⟩ := bind_eq_ok_iff.1 h
    obtain ⟨afterColon, -, h⟩ := bind_eq_ok_iff.1 h
    obtain ⟨⟨item, after⟩, hitem, h⟩ := bind_eq_ok_iff.1 h
    have hordered := hreader _ _ _ hitem
    dsimp only at h
    split at h
    · contradiction
    · cases h
      simpa using hordered
    · obtain ⟨⟨more, last⟩, hmore, h⟩ := bind_eq_ok_iff.1 h
      cases h
      exact List.forall_mem_cons.2 ⟨hordered, ih hmore⟩
    · contradiction

theorem isOrdered_object_ofList {members : List (String × Json)} (h : ∀ member ∈ members, member.2.IsOrdered) :
    (object (KeyMap.ofList members).entries).IsOrdered := by
  refine Everywhere.object_iff.2 ⟨?_, fun member hmember => h member (KeyMap.mem_of_mem_ofList hmember)⟩
  exact hasAscendingKeys_object_iff.2 (KeyMap.ofList members).ascending

theorem givesOrdered_readArray (hreader : GivesOrdered reader) : GivesOrdered (readArray reader) := by
  intro text value rest h
  unfold readArray at h
  split at h
  · cases h
    exact isOrdered_array (by simp)
  · obtain ⟨⟨items, last⟩, hitems, h⟩ := map_eq_ok_iff.1 h
    cases h
    exact isOrdered_array (forall_mem_readItems hreader hitems)

theorem givesOrdered_readObject (hreader : GivesOrdered reader) : GivesOrdered (readObject mode reader) := by
  intro text value rest h
  unfold readObject at h
  split at h
  · cases h
    exact @isOrdered_object_ofList [] (by simp)
  · obtain ⟨⟨members, last⟩, hmembers, h⟩ := map_eq_ok_iff.1 h
    cases h
    exact isOrdered_object_ofList (forall_mem_readMembers hreader hmembers)

theorem givesOrdered_readNumber : GivesOrdered (readNumber mode) := by
  intro text value rest h
  unfold readNumber at h
  split at h
  · split at h <;> cases h
    exact isOrdered_of_scalar rfl rfl
  · contradiction
  · cases h
    exact isOrdered_of_scalar rfl rfl
  · contradiction

theorem givesOrdered_readWith {inner : Option (Reader Json)} (hinner : ∀ reader ∈ inner, GivesOrdered reader) :
    GivesOrdered (readWith mode inner) := by
  intro text value rest h
  unfold readWith at h
  split at h
  · contradiction
  · obtain rfl := eq_of_readWord h
    exact isOrdered_of_scalar rfl rfl
  · obtain rfl := eq_of_readWord h
    exact isOrdered_of_scalar rfl rfl
  · obtain rfl := eq_of_readWord h
    exact isOrdered_of_scalar rfl rfl
  · obtain ⟨⟨s, last⟩, -, h⟩ := map_eq_ok_iff.1 h
    cases h
    exact isOrdered_of_scalar rfl rfl
  · cases inner with
    | none => contradiction
    | some reader => exact givesOrdered_readArray (hinner reader rfl) _ _ _ h
  · cases inner with
    | none => contradiction
    | some reader => exact givesOrdered_readObject (hinner reader rfl) _ _ _ h
  · split at h
    · exact givesOrdered_readNumber _ _ _ h
    · contradiction

/-- Values of any depth are read with their members in order. -/
theorem givesOrdered_readValue (mode : Mode) (depth : Nat) : GivesOrdered (readValue mode depth) := by
  induction depth with
  | zero => exact givesOrdered_readWith (by simp)
  | succ depth ih =>
    refine givesOrdered_readWith fun reader hreader => ?_
    cases hreader
    exact ih

end Json

end KDispatch
