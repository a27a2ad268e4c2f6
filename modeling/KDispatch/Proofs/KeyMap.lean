import KDispatch.Ordered
import Mathlib.Data.List.Dedup
import Mathlib.Data.List.Induction

/-!
Maps are told apart by their look-ups: an entry is in a map exactly if its name is found with its value. A map made
of a list has the names in the list, each once, and a list that is in ascending order of names already is not changed.
-/

namespace KDispatch

theorem Ordered.nameBefore_asymm {a b : String} (h : nameBefore a b) : nameBefore b a = false := by
  refine Bool.of_not_eq_true fun hba => ?_
  have hself := precedes_trans h hba
  rw [precedes_irrefl] at hself
  contradiction

/-- What comes after all elements of a list is put at its end. -/
theorem Ordered.insert_eq_append {α : Type} {before : α → α → Bool} {x : α} {ys : List α}
    (h : ∀ y ∈ ys, before y x ∧ before x y = false) : Ordered.insert before x ys = ys ++ [x] := by
  induction ys with
  | nil => rfl
  | cons y ys ih =>
    rw [List.forall_mem_cons] at h
    simp [Ordered.insert, h.1, ih h.2]

namespace KeyMap

variable {α : Type}

theorem find?_entries_of_mem {entries : List (String × α)}
    (h : entries.Pairwise (fun a b => Ordered.nameBefore a.1 b.1)) {key : String} {value : α}
    (hmem : (key, value) ∈ entries) : entries.find? (·.1 = key) = some (key, value) := by
  induction entries with
  | nil => simp at hmem
  | cons e entries ih =>
    have ⟨hlater, hentries⟩ := List.pairwise_cons.1 h
    rcases List.mem_cons.1 hmem with rfl | hmem
    · simp
    · have hne : e.1 ≠ key := fun heq => by
        simpa [heq, Ordered.nameBefore, Ordered.precedes_irrefl] using hlater _ hmem
      simpa [hne] using ih hentries hmem

theorem mem_entries_iff {m : KeyMap α} {key : String} {value : α} :
    (key, value) ∈ m.entries ↔ m.find? key = some value := by
  constructor
  · intro hmem
    rw [find?, find?_entries_of_mem m.ascending hmem, Option.map_some]
  · intro hfind
    obtain ⟨e, he, rfl⟩ := Option.map_eq_some_iff.1 hfind
    have hkey : e.1 = key := by simpa using List.find?_some he
    exact hkey ▸ List.mem_of_find?_eq_some he

theorem nodup_keys (m : KeyMap α) : m.keys.Nodup :=
  List.pairwise_map.2 <| m.ascending.imp fun {a b} hbefore heq => by
    simp [heq, Ordered.nameBefore, Ordered.precedes_irrefl] at hbefore

theorem nodup_entries (m : KeyMap α) : m.entries.Nodup := m.nodup_keys.of_map _

theorem mem_keys_iff {m : KeyMap α} {key : String} : key ∈ m.keys ↔ m.contains key := by
  rw [contains, Option.isSome_iff_exists, keys, List.mem_map]
  simp only [← mem_entries_iff]
  constructor
  · rintro ⟨e, he, rfl⟩
    exact ⟨e.2, he⟩
  · rintro ⟨value, hmem⟩
    exact ⟨(key, value), hmem, rfl⟩

/-- A map has as many entries as there are different names in any list of its names. -/
theorem size_eq_length_dedup {m : KeyMap α} {names : List String}
    (h : ∀ key, m.contains key ↔ key ∈ names) : m.size = names.dedup.length := by
  have hperm : m.keys.Perm names.dedup := by
    refine (List.perm_ext_iff_of_nodup m.nodup_keys names.nodup_dedup).2 fun key => ?_
    rw [mem_keys_iff, h, List.mem_dedup]
  rw [← hperm.length_eq, keys, List.length_map, size]

theorem ext_find? {m n : KeyMap α} (h : ∀ key, m.find? key = n.find? key) : m = n := by
  have hperm : m.entries.Perm n.entries := by
    refine (List.perm_ext_iff_of_nodup m.nodup_entries n.nodup_entries).2 fun e => ?_
    rw [mem_entries_iff, mem_entries_iff, h]
  refine ext (hperm.eq_of_pairwise ?_ m.ascending n.ascending)
  -- no two names come before each other
  intro a b _ _ hab hba
  rw [Ordered.nameBefore_asymm hab] at hba
  contradiction

theorem contains_insert (m : KeyMap α) (key k : String) (value : α) :
    (m.insert key value).contains k ↔ k = key ∨ m.contains k := by
  rw [contains, contains, find?_insert]
  split <;> simp [*]

theorem ofList_append (entries : List (String × α)) (e : String × α) :
    ofList (entries ++ [e]) = (ofList entries).insert e.1 e.2 := by
  simp [ofList]

theorem entries_ofList_append (entries : List (String × α)) (e : String × α) :
    (ofList (entries ++ [e])).entries = Ordered.insert isBefore e (ofList entries).entries := by
  rw [ofList_append, insert]

theorem contains_ofList {entries : List (String × α)} {key : String} :
    (ofList entries).contains key ↔ key ∈ entries.map (·.1) := by
  induction entries using List.reverseRecOn with
  | nil => simp [ofList, contains]
  | append_singleton entries e ih =>
    rw [ofList_append, contains_insert, ih, List.map_append, List.mem_append, List.map_singleton,
      List.mem_singleton, or_comm]

theorem mem_of_mem_ofList {entries : List (String × α)} {e : String × α} (h : e ∈ (ofList entries).entries) :
    e ∈ entries := by
  induction entries using List.reverseRecOn with
  | nil => contradiction
  | append_singleton entries last ih =>
    rw [entries_ofList_append] at h
    rcases Ordered.eq_or_mem_of_mem_insert h with rfl | h
    · simp
    · exact List.mem_append_left _ (ih h)

/-- A list in ascending order of names consists of the entries of the map that it makes. -/
theorem entries_ofList {entries : List (String × α)}
    (h : entries.Pairwise fun a b => Ordered.nameBefore a.1 b.1) : (ofList entries).entries = entries := by
  induction entries using List.reverseRecOn with
  | nil => rfl
  | append_singleton entries e ih =>
    obtain ⟨hentries, -, hlast⟩ := List.pairwise_append.1 h
    rw [entries_ofList_append, ih hentries]
    refine Ordered.insert_eq_append fun entry hentry => ?_
    have hbefore := hlast entry hentry e (by simp)
    exact ⟨hbefore, Ordered.nameBefore_asymm hbefore⟩

end KeyMap

end KDispatch
