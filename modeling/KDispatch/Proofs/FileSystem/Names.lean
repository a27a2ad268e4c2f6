import KDispatch.FileSystem.Access

/-!
What stands where after a file has been placed or written. A regular file may have several names; all
of them lead to it, and placing new content changes what stands at these names and nothing else.
-/

namespace KDispatch.FileSystem

/-- Whether all names of a file lead to it. -/
def NamesAgree (fs : FileSystem) : Prop :=
  ∀ names ∈ fs.shared, ∃ node, ∀ name ∈ names, fs.node? name = some node

theorem namesAgree_ofNodes (workingDirectory : Location) (nodes : List (Location × Node)) :
    (ofNodes workingDirectory nodes).NamesAgree :=
  fun _ hnames => absurd hnames List.not_mem_nil

theorem mem_namesOf_self (fs : FileSystem) (location : Location) :
    location ∈ fs.namesOf location := by
  unfold namesOf
  cases h : fs.shared.find? (·.contains location) with
  | none => simp
  | some names => simpa using List.find?_some h

theorem NamesAgree.node?_of_mem_namesOf {fs : FileSystem} (h : fs.NamesAgree)
    {location name : Location} (hname : name ∈ fs.namesOf location) :
    fs.node? name = fs.node? location := by
  have hself := fs.mem_namesOf_self location
  unfold namesOf at hname hself
  cases hfind : fs.shared.find? (·.contains location) with
  | none =>
    rw [hfind, Option.getD_none, List.mem_singleton] at hname
    rw [hname]
  | some names =>
    rw [hfind, Option.getD_some] at hname hself
    obtain ⟨node, hnode⟩ := h names (List.mem_of_find?_eq_some hfind)
    rw [hnode name hname, hnode location hself]

@[simp] theorem node?_nil (fs : FileSystem) : fs.node? [] = some .directory := rfl

@[simp] theorem node?_stamp (fs : FileSystem) (location other : Location) :
    (fs.stamp location).node? other = fs.node? other := by
  unfold stamp
  split <;> rfl

@[simp] theorem workingDirectory_stamp (fs : FileSystem) (location : Location) :
    (fs.stamp location).workingDirectory = fs.workingDirectory := by
  unfold stamp
  split <;> rfl

theorem node?_foldl_put (fs : FileSystem) (names : List Location) (node : Node)
    {location : Location} (h : location ≠ []) :
    (names.foldl (fun fs name => fs.put name node) fs).node? location =
      if location ∈ names then some node else fs.node? location := by
  induction names generalizing fs with
  | nil => simp
  | cons name names ih =>
    rw [List.foldl_cons, ih]
    by_cases hmem : location ∈ names
    · simp [hmem]
    · by_cases heq : location = name
      · subst heq
        simp [fs.node?_put_self node h]
      · simp [hmem, heq, fs.node?_put_of_ne node heq]

theorem node?_replace_of_mem {fs : FileSystem} {location name : Location}
    (h : name ∈ fs.namesOf location) (hne : name ≠ []) (node : Node) :
    (fs.replace location node).node? name = some node :=
  (node?_foldl_put fs _ node hne).trans (if_pos h)

theorem node?_replace_of_notMem {fs : FileSystem} {location other : Location}
    (h : other ∉ fs.namesOf location) (node : Node) :
    (fs.replace location node).node? other = fs.node? other := by
  by_cases hne : other = []
  · simp [hne]
  · exact (node?_foldl_put fs _ node hne).trans (if_neg h)

@[simp] theorem workingDirectory_replace (fs : FileSystem) (location : Location) (node : Node) :
    (fs.replace location node).workingDirectory = fs.workingDirectory := by
  unfold replace
  induction fs.namesOf location generalizing fs with
  | nil => rfl
  | cons name names ih => rw [List.foldl_cons, ih, workingDirectory_put]

theorem content?_eq_some_iff {fs : FileSystem} {location : Location} {content : Bytes} :
    fs.content? location = some content ↔
      ∃ executable, fs.node? location = some (.file content executable) := by
  unfold content?
  constructor
  · intro h
    split at h
    case h_1 found executable hfile =>
      obtain rfl : found = content := by simpa using h
      exact ⟨executable, hfile⟩
    case h_2 => simp at h
  · rintro ⟨executable, h⟩
    rw [h]

theorem ne_nil_of_file {fs : FileSystem} {location : Location} {content : Bytes} {executable : Bool}
    (h : fs.node? location = some (.file content executable)) : location ≠ [] := by
  rintro rfl
  simp at h

theorem ne_nil_of_missing {fs : FileSystem} {location : Location} (h : fs.node? location = none) :
    location ≠ [] := by
  rintro rfl
  simp at h

/-! ## Writing -/

theorem overwrite_length (content bytes : Bytes) :
    overwrite content content.length bytes = content ++ bytes := by
  simp [overwrite]

/-- Bytes that are written lie over the content of a regular file; what is no regular file stays as it is. -/
theorem content?_writeAt (fs : FileSystem) (location : Location) (offset : Nat) (bytes : Bytes) :
    (fs.writeAt location offset bytes).content? location =
      (fs.content? location).map (overwrite · offset bytes) := by
  cases hcontent : fs.content? location with
  | none =>
    have hnot (content executable) : fs.node? location ≠ some (.file content executable) := by
      intro hfile
      simp [content?_eq_some_iff.2 ⟨executable, hfile⟩] at hcontent
    unfold writeAt
    split
    · exact absurd ‹_› (hnot _ _)
    · exact hcontent
  | some content =>
    obtain ⟨executable, hfile⟩ := content?_eq_some_iff.1 hcontent
    rw [Option.map_some, content?_eq_some_iff]
    refine ⟨executable, ?_⟩
    rw [writeAt, hfile]
    dsimp only
    rw [node?_stamp, node?_replace_of_mem (fs.mem_namesOf_self location) (ne_nil_of_file hfile)]

/-- Bytes written at the end of a regular file are added to it. -/
theorem content?_writeAt_length {fs : FileSystem} {location : Location} {offset : Nat}
    (h : ∀ content ∈ fs.content? location, offset = content.length) (bytes : Bytes) :
    (fs.writeAt location offset bytes).content? location =
      (fs.content? location).map (· ++ bytes) := by
  rw [content?_writeAt]
  refine Option.map_congr fun content hcontent => ?_
  rw [h content hcontent, overwrite_length]

end KDispatch.FileSystem
