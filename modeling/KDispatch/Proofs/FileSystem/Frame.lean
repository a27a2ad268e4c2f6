import KDispatch.Proofs.FileSystem.Names

/-!
File systems that differ in regular files only. Creating, writing and removing a file leaves all directories,
links and devices alone, so every path leads where it led before, and what stands beside the changed files
reads as before.
-/

namespace KDispatch.FileSystem

/-- Whether nothing but a regular file stands at a location. -/
def Replaceable (fs : FileSystem) (location : Location) : Prop :=
  ∀ node ∈ fs.node? location, ∃ content executable, node = .file content executable

/-- Whether two file systems are the same but for regular files, and these differ at changed locations only. -/
structure SameBeside (changed : Location → Prop) (before after : FileSystem) : Prop where
  workingDirectory : after.workingDirectory = before.workingDirectory
  elsewhere : ∀ location, ¬ changed location → after.node? location = before.node? location
  replaceable : ∀ location, after.node? location = before.node? location ∨
    before.Replaceable location ∧ after.Replaceable location

/-- The bytes that are read at a path, if there are any to read. -/
def contents? (fs : FileSystem) (path : String) : Option Bytes := (fs.read path).toOption

namespace SameBeside

variable {changed : Location → Prop} {before middle after : FileSystem}

theorem refl (changed : Location → Prop) (fs : FileSystem) : SameBeside changed fs fs :=
  ⟨rfl, fun _ _ => rfl, fun _ => .inl rfl⟩

theorem symm (h : SameBeside changed before after) : SameBeside changed after before where
  workingDirectory := h.workingDirectory.symm
  elsewhere location hlocation := (h.elsewhere location hlocation).symm
  replaceable location := (h.replaceable location).imp Eq.symm And.symm

theorem trans (h : SameBeside changed before middle) (h' : SameBeside changed middle after) :
    SameBeside changed before after where
  workingDirectory := h'.workingDirectory.trans h.workingDirectory
  elsewhere location hlocation :=
    (h'.elsewhere location hlocation).trans (h.elsewhere location hlocation)
  replaceable location := by
    rcases h.replaceable location with heq | ⟨hbefore, hmiddle⟩ <;>
      rcases h'.replaceable location with heq' | ⟨hmiddle', hafter⟩
    · exact .inl (heq'.trans heq)
    · refine .inr ⟨?_, hafter⟩
      rwa [Replaceable, ← heq]
    · refine .inr ⟨hbefore, ?_⟩
      rwa [Replaceable, heq']
    · exact .inr ⟨hbefore, hafter⟩

theorem mono {changed' : Location → Prop} (h : SameBeside changed before after)
    (hsub : ∀ location, changed location → changed' location) : SameBeside changed' before after where
  workingDirectory := h.workingDirectory
  elsewhere location hlocation := h.elsewhere location fun hchanged => hlocation (hsub _ hchanged)
  replaceable := h.replaceable

theorem replaceable_iff (h : SameBeside changed before after) (location : Location) :
    after.Replaceable location ↔ before.Replaceable location := by
  rcases h.replaceable location with heq | ⟨hbefore, hafter⟩
  · rw [Replaceable, Replaceable, heq]
  · exact iff_of_true hafter hbefore

/-! ## Paths -/

/-- Directories, links and devices stay and no new ones come. -/
theorem node?_of_not_file (h : SameBeside changed before after) {location : Location} {node : Node}
    (hnode : ∀ content executable, node ≠ .file content executable)
    (hbefore : before.node? location = some node) : after.node? location = some node := by
  rcases h.replaceable location with heq | ⟨hreplaceable, -⟩
  · exact heq.trans hbefore
  · obtain ⟨content, executable, hfile⟩ := hreplaceable node hbefore
    exact absurd hfile (hnode content executable)

theorem walkWith_ok (h : SameBeside changed before after) {follows : Bool}
    {onLink onLink' : Location → List String → Except SystemError Location}
    (hlink : ∀ {location path target}, onLink location path = .ok target →
      onLink' location path = .ok target)
    {location target : Location} {path : List String}
    (hwalk : before.walkWith follows onLink location path = .ok target) :
    after.walkWith follows onLink' location path = .ok target := by
  induction path generalizing location with
  | nil => exact hwalk
  | cons name path ih =>
    unfold walkWith at hwalk ⊢
    split at hwalk
    case h_1 => contradiction
    case h_3 => contradiction
    case h_2 hdirectory =>
      rw [h.node?_of_not_file (by simp) hdirectory]
      dsimp only
      by_cases hhere : name = "" ∨ name = "."
      · rw [if_pos hhere] at hwalk ⊢
        exact ih hwalk
      rw [if_neg hhere] at hwalk ⊢
      by_cases hup : name = ".."
      · rw [if_pos hup] at hwalk ⊢
        exact ih hwalk
      rw [if_neg hup] at hwalk ⊢
      by_cases hlong : Path.maxNameLength < name.utf8ByteSize
      · rw [if_pos hlong] at hwalk
        cases hwalk
      rw [if_neg hlong] at hwalk ⊢
      -- the next name leads to a link before exactly if it does after
      split at hwalk
      case h_1 link hbefore =>
        rw [h.node?_of_not_file (by simp) hbefore]
        dsimp only
        split at hwalk
        · rwa [if_pos ‹_›]
        · rw [if_neg ‹_›]
          exact hlink hwalk
      case h_2 hbefore =>
        split
        case h_1 link hafter =>
          exact absurd (h.symm.node?_of_not_file (by simp) hafter) (hbefore link)
        case h_2 => exact ih hwalk

theorem walk_ok (h : SameBeside changed before after) {follows : Bool} {links : Nat}
    {location target : Location} {path : List String}
    (hwalk : before.walk follows links location path = .ok target) :
    after.walk follows links location path = .ok target := by
  induction links generalizing location path target with
  | zero => exact h.walkWith_ok id hwalk
  | succ links ih => exact h.walkWith_ok ih hwalk

theorem locate_ok (h : SameBeside changed before after) {path : String} {location : Location}
    (hlocate : before.locate path = .ok location) : after.locate path = .ok location := by
  unfold locate locateWith at hlocate ⊢
  rw [h.workingDirectory]
  split at hlocate
  · cases hlocate
  rw [if_neg ‹_›]
  split at hlocate
  · cases hlocate
  rw [if_neg ‹_›]
  split at hlocate
  · cases hlocate
  rw [if_neg ‹_›]
  exact h.walk_ok hlocate

/-- Every path leads to the same place in both file systems. -/
theorem locate_ok_iff (h : SameBeside changed before after) {path : String} {location : Location} :
    after.locate path = .ok location ↔ before.locate path = .ok location :=
  ⟨h.symm.locate_ok, h.locate_ok⟩

theorem locateToCreate_ok (h : SameBeside changed before after) {path : String} {location : Location}
    (hlocate : before.locateToCreate path = .ok location) :
    after.locateToCreate path = .ok location := by
  unfold locateToCreate at hlocate ⊢
  split at hlocate
  · dsimp only at hlocate
    split at hlocate <;> cases hlocate
  · rw [if_neg ‹_›]
    exact h.locate_ok hlocate

/-! ## Contents -/

theorem readAt_eq (h : SameBeside changed before after) {location : Location}
    (hbeside : ¬ changed location) : after.readAt location = before.readAt location := by
  unfold readAt
  rw [h.elsewhere location hbeside]

theorem read_ok (h : SameBeside changed before after) {path : String}
    (hbeside : ∀ location, before.locate path = .ok location → ¬ changed location) {bytes : Bytes}
    (hread : before.read path = .ok bytes) : after.read path = .ok bytes := by
  unfold read openToRead at hread ⊢
  cases hlocate : before.locate path with
  | error cause => simp [hlocate] at hread
  | ok location =>
    have hlocation := hbeside location hlocate
    rw [hlocate] at hread
    rw [h.locate_ok hlocate]
    dsimp only at hread ⊢
    rw [h.elsewhere location hlocation]
    split at hread
    case h_1 => contradiction
    case h_2 opened hopened =>
      split at hopened
      · cases hopened
        exact (h.readAt_eq hlocation).trans hread
      · contradiction

/-- A path beside the changed files has the same contents in both file systems, or in neither. -/
theorem contents?_eq (h : SameBeside changed before after) {path : String}
    (hbeside : ∀ location, before.locate path = .ok location → ¬ changed location) :
    after.contents? path = before.contents? path := by
  have hafter : ∀ location, after.locate path = .ok location → ¬ changed location :=
    fun location hlocate => hbeside location (h.locate_ok_iff.1 hlocate)
  unfold contents?
  cases hread : before.read path with
  | ok bytes => rw [h.read_ok hbeside hread]
  | error cause =>
    cases hread' : after.read path with
    | error cause' => rfl
    | ok bytes => simp [h.symm.read_ok hafter hread'] at hread

end SameBeside

/-! ## Files with several names -/

/-- Whether all names of a file lead to nothing but files. -/
def NamesReplaceable (fs : FileSystem) : Prop :=
  ∀ location, fs.Replaceable location → ∀ name ∈ fs.namesOf location, fs.Replaceable name

theorem NamesAgree.namesReplaceable {fs : FileSystem} (h : fs.NamesAgree) : fs.NamesReplaceable := by
  intro location hlocation name hname
  rwa [Replaceable, h.node?_of_mem_namesOf hname]

theorem NamesReplaceable.of_sameBeside {changed : Location → Prop} {before after : FileSystem}
    (hnames : before.NamesReplaceable) (h : SameBeside changed before after)
    (hshared : after.shared = before.shared) : after.NamesReplaceable := by
  intro location hlocation name hname
  rw [h.replaceable_iff] at hlocation ⊢
  rw [namesOf, hshared] at hname
  exact hnames location hlocation name hname

/-- Whether two locations are names of the same file. -/
def SameFile (fs : FileSystem) (location name : Location) : Prop :=
  location = name ∨ ∃ names ∈ fs.shared, location ∈ names ∧ name ∈ names

theorem sameFile_of_mem_namesOf {fs : FileSystem} {location name : Location}
    (h : name ∈ fs.namesOf location) : fs.SameFile location name := by
  have hself := fs.mem_namesOf_self location
  unfold namesOf at h hself
  cases hfind : fs.shared.find? (·.contains location) with
  | none =>
    rw [hfind] at h
    exact .inl (List.mem_singleton.1 h).symm
  | some names =>
    rw [hfind] at h hself
    exact .inr ⟨names, List.mem_of_find?_eq_some hfind, hself, h⟩

theorem sameFile_congr {fs fs' : FileSystem} (h : fs'.shared = fs.shared) {location name : Location} :
    fs'.SameFile location name ↔ fs.SameFile location name := by
  rw [SameFile, SameFile, h]

theorem ne_nil_of_replaceable {fs : FileSystem} {location : Location} (h : fs.Replaceable location) :
    location ≠ [] := by
  rintro rfl
  obtain ⟨content, executable, hfile⟩ := h .directory rfl
  contradiction

theorem replaceable_of_node? {fs : FileSystem} {location : Location} {content : Bytes}
    {executable : Bool} (h : fs.node? location = some (.file content executable)) :
    fs.Replaceable location := by
  intro node hnode
  rw [h] at hnode
  exact ⟨content, executable, (Option.some.inj hnode).symm⟩

theorem replaceable_of_missing {fs : FileSystem} {location : Location}
    (h : fs.node? location = none) : fs.Replaceable location := by
  intro node hnode
  rw [h] at hnode
  contradiction

/-! ## Changes -/

variable {fs : FileSystem} {location : Location}

/-- New content changes the names of the file only. -/
theorem sameBeside_replace (hnames : fs.NamesReplaceable) (hlocation : fs.Replaceable location)
    (content : Bytes) (executable : Bool) :
    SameBeside (· ∈ fs.namesOf location) fs
      ((fs.replace location (.file content executable)).stamp location) where
  workingDirectory := by simp
  elsewhere other hother := by rw [node?_stamp, node?_replace_of_notMem hother]
  replaceable other := by
    by_cases hother : other ∈ fs.namesOf location
    · have hbefore := hnames location hlocation other hother
      have hafter : ((fs.replace location (.file content executable)).stamp location).node? other =
          some (.file content executable) := by
        rw [node?_stamp, node?_replace_of_mem hother (ne_nil_of_replaceable hbefore)]
      exact .inr ⟨hbefore, replaceable_of_node? hafter⟩
    · exact .inl (by rw [node?_stamp, node?_replace_of_notMem hother])

theorem sameBeside_put (hlocation : fs.Replaceable location) (content : Bytes) (executable : Bool) :
    SameBeside (· = location) fs ((fs.put location (.file content executable)).stamp location) where
  workingDirectory := by simp
  elsewhere other hother := by rw [node?_stamp, node?_put_of_ne fs _ hother]
  replaceable other := by
    by_cases hother : other = location
    · subst hother
      have hafter : ((fs.put other (.file content executable)).stamp other).node? other =
          some (.file content executable) := by
        rw [node?_stamp, fs.node?_put_self _ (ne_nil_of_replaceable hlocation)]
      exact .inr ⟨hlocation, replaceable_of_node? hafter⟩
    · exact .inl (by rw [node?_stamp, node?_put_of_ne fs _ hother])

theorem sameBeside_writeAt (hnames : fs.NamesReplaceable) (location : Location) (offset : Nat)
    (bytes : Bytes) :
    SameBeside (· ∈ fs.namesOf location) fs (fs.writeAt location offset bytes) := by
  unfold writeAt
  split
  case h_1 content executable hfile =>
    exact sameBeside_replace hnames (replaceable_of_node? hfile) _ executable
  case h_2 => exact .refl _ _

theorem node?_erase_self (fs : FileSystem) {location : Location} (h : location ≠ []) :
    (fs.erase location).node? location = none := by
  rw [node?, if_neg h, List.lookup_eq_none_iff]
  intro entry hentry
  simp only [erase, restrict, List.mem_filter] at hentry
  have hne : entry.1 ≠ location := by simpa using hentry.2
  simpa using hne.symm

theorem sameBeside_remove (fs : FileSystem) (location : Location) :
    SameBeside (· = location) fs (fs.remove location) := by
  unfold remove
  split
  case h_2 => exact .refl _ _
  case h_1 content executable hfile =>
    refine ⟨fs.workingDirectory_erase location, fun other hother => fs.node?_erase_of_ne hother, ?_⟩
    intro other
    by_cases hother : other = location
    · subst hother
      have hgone := fs.node?_erase_self (ne_nil_of_file hfile)
      exact .inr ⟨replaceable_of_node? hfile, replaceable_of_missing hgone⟩
    · exact .inl (fs.node?_erase_of_ne hother)

/-! ## Names after a change -/

/-- A file that is removed takes its name away and gives no other file a new one. -/
theorem sameFile_of_remove {fs : FileSystem} {location a b : Location}
    (h : (fs.remove location).SameFile a b) : fs.SameFile a b := by
  unfold remove at h
  split at h
  case h_2 => exact h
  case h_1 =>
    rcases h with rfl | ⟨names, hnames, ha, hb⟩
    · exact .inl rfl
    · simp only [erase, restrict, List.mem_filter, List.mem_map] at hnames
      obtain ⟨⟨all, hall, rfl⟩, -⟩ := hnames
      exact .inr ⟨all, hall, (List.mem_filter.1 ha).1, (List.mem_filter.1 hb).1⟩

theorem NamesAgree.remove {fs : FileSystem} (h : fs.NamesAgree) (location : Location) :
    (fs.remove location).NamesAgree := by
  unfold FileSystem.remove
  split
  case h_2 => exact h
  case h_1 =>
    intro names hnames
    simp only [erase, restrict, List.mem_filter, List.mem_map] at hnames
    obtain ⟨⟨all, hall, rfl⟩, -⟩ := hnames
    obtain ⟨node, hnode⟩ := h all hall
    refine ⟨node, fun name hname => ?_⟩
    obtain ⟨hmem, hne⟩ := List.mem_filter.1 hname
    rw [fs.node?_erase_of_ne (by simpa using hne), hnode name hmem]

@[simp] theorem shared_stamp (fs : FileSystem) (location : Location) :
    (fs.stamp location).shared = fs.shared := by
  unfold stamp
  split <;> rfl

@[simp] theorem shared_replace (fs : FileSystem) (location : Location) (node : Node) :
    (fs.replace location node).shared = fs.shared := by
  unfold replace
  induction fs.namesOf location generalizing fs with
  | nil => rfl
  | cons name names ih => exact ih (fs.put name node)

@[simp] theorem shared_writeAt (fs : FileSystem) (location : Location) (offset : Nat)
    (bytes : Bytes) : (fs.writeAt location offset bytes).shared = fs.shared := by
  unfold writeAt
  split
  · rw [shared_stamp, shared_replace]
  · rfl

/-! ## Creating a file

A regular file is empty afterwards under all its names and everything else stays as it was; a device or a pipe
stays as it is.
-/

variable {fs' : FileSystem} {path : String}

theorem create_eq_ok_iff :
    fs.create path = .ok (location, fs') ↔
      fs.locateToCreate path = .ok location ∧ fs.createAt location = .ok fs' := by
  unfold create
  cases fs.locateToCreate path with
  | error cause => simp
  | ok found =>
    dsimp only
    rw [Except.ok.injEq]
    constructor
    · intro h
      split at h
      · contradiction
      · cases h
        exact ⟨rfl, ‹_›⟩
    · rintro ⟨rfl, h⟩
      rw [h]

/-- A file that is created is empty; what is no file afterwards has not been changed. -/
theorem createAt_cases (h : fs.createAt location = .ok fs') :
    fs'.content? location = some [] ∨
      fs' = fs ∧ ∃ node, fs.node? location = some node ∧ fs.content? location = none := by
  unfold createAt at h
  split at h
  case h_1 => contradiction
  case h_2 content executable hfile =>
    obtain rfl := Except.ok.inj h
    have hself := node?_replace_of_mem (fs.mem_namesOf_self location) (ne_nil_of_file hfile)
      (.file [] executable)
    exact .inl (content?_eq_some_iff.2 ⟨executable, (node?_stamp _ _ _).trans hself⟩)
  case h_3 => contradiction
  case h_4 device _ hdevice =>
    exact .inr ⟨(Except.ok.inj h).symm, .device device, hdevice, by simp [content?, hdevice]⟩
  case h_5 hfifo => exact .inr ⟨(Except.ok.inj h).symm, .fifo, hfifo, by simp [content?, hfifo]⟩
  case h_6 => contradiction
  case h_7 hmissing =>
    split at h
    · contradiction
    · obtain rfl := Except.ok.inj h
      have hself := fs.node?_put_self (.file [] false) (ne_nil_of_missing hmissing)
      exact .inl (content?_eq_some_iff.2 ⟨false, (node?_stamp _ _ _).trans hself⟩)

theorem sameBeside_createAt (hnames : fs.NamesReplaceable) (h : fs.createAt location = .ok fs') :
    SameBeside (· ∈ fs.namesOf location) fs fs' := by
  unfold createAt at h
  split at h
  case h_1 => contradiction
  case h_2 content executable hfile =>
    obtain rfl := Except.ok.inj h
    exact sameBeside_replace hnames (replaceable_of_node? hfile) [] executable
  case h_3 => contradiction
  case h_4 => exact Except.ok.inj h ▸ .refl _ _
  case h_5 => exact Except.ok.inj h ▸ .refl _ _
  case h_6 => contradiction
  case h_7 hmissing =>
    split at h
    · contradiction
    · obtain rfl := Except.ok.inj h
      refine (sameBeside_put (replaceable_of_missing hmissing) [] false).mono ?_
      rintro other rfl
      exact fs.mem_namesOf_self other

theorem shared_createAt (h : fs.createAt location = .ok fs') : fs'.shared = fs.shared := by
  unfold createAt at h
  split at h
  case h_1 => contradiction
  case h_2 => rw [← Except.ok.inj h, shared_stamp, shared_replace]
  case h_3 => contradiction
  case h_4 => rw [← Except.ok.inj h]
  case h_5 => rw [← Except.ok.inj h]
  case h_6 => contradiction
  case h_7 =>
    split at h
    · contradiction
    · rw [← Except.ok.inj h, shared_stamp]
      rfl

/-- Creating a file changes no content exactly if something stands there and no bytes are lost. -/
theorem node?_createAt_eq_iff (hnames : fs.NamesAgree) (h : fs.createAt location = .ok fs') :
    (∀ other, fs'.node? other = fs.node? other) ↔
      (∃ node, fs.node? location = some node) ∧ ∀ content ∈ fs.content? location, content = [] := by
  constructor
  · intro hsame
    rcases createAt_cases h with hempty | ⟨-, node, hnode, hnone⟩
    · obtain ⟨executable, hfile⟩ := content?_eq_some_iff.1 hempty
      rw [hsame] at hfile
      refine ⟨⟨_, hfile⟩, fun content hcontent => ?_⟩
      rw [content?_eq_some_iff.2 ⟨executable, hfile⟩] at hcontent
      exact (Option.some.inj hcontent).symm
    · exact ⟨⟨node, hnode⟩, by simp [hnone]⟩
  · rintro ⟨⟨node, hnode⟩, hcontent⟩ other
    unfold createAt at h
    split at h
    case h_1 => contradiction
    case h_2 content executable hfile =>
      obtain rfl := Except.ok.inj h
      obtain rfl := hcontent content (content?_eq_some_iff.2 ⟨executable, hfile⟩)
      rw [node?_stamp]
      by_cases hother : other ∈ fs.namesOf location
      · have hagree := (hnames.node?_of_mem_namesOf hother).trans hfile
        have hne : other ≠ [] := ne_nil_of_file hagree
        rw [node?_replace_of_mem hother hne, hagree]
      · exact node?_replace_of_notMem hother _
    case h_3 => contradiction
    case h_4 => rw [← Except.ok.inj h]
    case h_5 => rw [← Except.ok.inj h]
    case h_6 => contradiction
    case h_7 hmissing =>
      rw [hmissing] at hnode
      contradiction

end KDispatch.FileSystem
