import KDispatch.Proofs.FileSystem.Frame

/-!
Files where nothing stood before. Such a file has no other names; it holds what is written into it, and when it is
removed, nothing stands there again.
-/

namespace KDispatch.FileSystem

variable {fs fs' : FileSystem} {location : Location} {path : String}

theorem overwrite_zero (content bytes : Bytes) :
    overwrite content 0 bytes = bytes ++ content.drop bytes.length := by
  simp [overwrite]

theorem content?_congr (h : fs'.node? location = fs.node? location) :
    fs'.content? location = fs.content? location := by
  rw [content?, content?, h]

theorem locate_of_locateToCreate (h : fs.locateToCreate path = .ok location) :
    fs.locate path = .ok location := by
  unfold locateToCreate at h
  split at h
  · dsimp only at h
    split at h <;> cases h
  · exact h

theorem contents?_of_locate {bytes : Bytes} (hlocate : fs.locate path = .ok location)
    (hcontent : fs.content? location = some bytes) : fs.contents? path = some bytes := by
  obtain ⟨executable, hfile⟩ := content?_eq_some_iff.1 hcontent
  rw [contents?, read, openToRead, hlocate]
  dsimp only
  rw [hfile]
  simp [readAt, hfile, Except.toOption]

/-! ## Names -/

theorem SameFile.symm {name : Location} (h : fs.SameFile location name) : fs.SameFile name location :=
  h.imp Eq.symm fun ⟨names, hnames, hlocation, hname⟩ => ⟨names, hnames, hname, hlocation⟩

/-- What does not exist has no other name. -/
theorem NamesAgree.eq_of_sameFile (h : fs.NamesAgree) (hmissing : fs.node? location = none)
    {name : Location} (hsame : fs.SameFile location name) : location = name := by
  rcases hsame with heq | ⟨names, hnames, hlocation, -⟩
  · exact heq
  · obtain ⟨node, hnode⟩ := h names hnames
    rw [hnode location hlocation] at hmissing
    contradiction

/-- Writing leaves alone what is no regular file. -/
theorem NamesAgree.node?_writeAt (h : fs.NamesAgree) (hnone : fs.content? location = none)
    (target : Location) (offset : Nat) (bytes : Bytes) :
    (fs.writeAt target offset bytes).node? location = fs.node? location := by
  unfold writeAt
  split
  case h_1 content executable hfile =>
    rw [node?_stamp, node?_replace_of_notMem]
    intro hname
    rw [← h.node?_of_mem_namesOf hname] at hfile
    rw [content?_eq_some_iff.2 ⟨executable, hfile⟩] at hnone
    contradiction
  case h_2 => rfl

/-! ## Creating and removing -/

theorem exists_createAt (hmissing : fs.node? location = none)
    (hcreatable : additionError? location = none) : ∃ fs', fs.createAt location = .ok fs' := by
  rw [createAt, hmissing]
  dsimp only
  rw [hcreatable]
  exact ⟨_, rfl⟩

/-- A file that is created where nothing stands holds just what is written into it. -/
theorem content?_writeAt_of_createAt (hmissing : fs.node? location = none)
    (hcreate : fs.createAt location = .ok fs') (bytes : Bytes) :
    (fs'.writeAt location 0 bytes).content? location = some bytes := by
  rcases createAt_cases hcreate with hempty | ⟨-, node, hnode, -⟩
  · rw [content?_writeAt, hempty, Option.map_some, overwrite_zero, List.drop_nil, List.append_nil]
  · rw [hmissing] at hnode
    contradiction

theorem node?_remove_of_content? {content : Bytes} (h : fs.content? location = some content) :
    (fs.remove location).node? location = none := by
  obtain ⟨executable, hfile⟩ := content?_eq_some_iff.1 h
  rw [remove, hfile]
  exact fs.node?_erase_self (ne_nil_of_file hfile)

/-- No regular file is left where one has been removed. -/
theorem content?_remove (fs : FileSystem) (location : Location) :
    (fs.remove location).content? location = none := by
  cases h : fs.content? location with
  | some content => rw [content?, node?_remove_of_content? h]
  | none =>
    unfold remove
    split
    case h_1 content executable hfile =>
      rw [content?_eq_some_iff.2 ⟨executable, hfile⟩] at h
      contradiction
    case h_2 => exact h

end KDispatch.FileSystem
