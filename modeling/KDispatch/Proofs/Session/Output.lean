import KDispatch.Proofs.FileSystem.Frame
import KDispatch.Proofs.Text.Utf8
import KDispatch.Session.Basic

/-!
Opened outputs. What an output shows is what a reader finds there: everything on a standard stream, the
content of a regular file. Bytes that are written come after what is shown, so that texts written one
after the other are shown in this order.
-/

namespace KDispatch

namespace Sink

/-- The sink after so many bytes more have been written to it. -/
def advance (count : Nat) : Sink → Sink
  | .file location offset => .file location (offset + count)
  | sink => sink

@[simp] theorem advance_zero (sink : Sink) : sink.advance 0 = sink := by
  cases sink <;> rfl

@[simp] theorem advance_advance (sink : Sink) (m n : Nat) :
    (sink.advance m).advance n = sink.advance (m + n) := by
  cases sink <;> simp [advance, Nat.add_assoc]

end Sink

namespace Session

/-- The bytes that an output shows, if it shows any. -/
def shown? (s : Session) : Sink → Option Bytes
  | .standard => some s.stdout
  | .errors => some s.stderr
  | .file location _ => s.files.content? location
  | .nowhere | .refusing _ _ => none

/-- Whether an output takes all bytes and puts the next ones after those it shows. -/
def AtEnd (s : Session) : Sink → Prop
  | .file location offset => ∀ content ∈ s.files.content? location, offset = content.length
  | .standard | .errors | .nowhere => True
  | .refusing _ _ => False

variable {s : Session} {sink : Sink}

@[simp] theorem shown?_advance (s : Session) (sink : Sink) (count : Nat) :
    s.shown? (sink.advance count) = s.shown? sink := by
  cases sink <;> rfl

@[simp] theorem shown?_report (s : Session) (message : String) (sink : Sink) :
    (s.report message).shown? sink = s.shown? sink := by
  cases sink <;> rfl

@[simp] theorem shown?_log (s : Session) (level : Log.Level) (message : String)
    (fields : List (String × Log.Value)) (sink : Sink) :
    (s.log level message fields).shown? sink = s.shown? sink := by
  cases sink <;> rfl

/-- What an output shows depends on the files and the output streams only. -/
theorem shown?_congr {t : Session} (hfiles : s.files = t.files) (hstdout : s.stdout = t.stdout)
    (hstderr : s.stderr = t.stderr) (sink : Sink) : s.shown? sink = t.shown? sink := by
  cases sink <;> simp [shown?, hfiles, hstdout, hstderr]

theorem atEnd_congr {t : Session} (hfiles : s.files = t.files) : s.AtEnd sink ↔ t.AtEnd sink := by
  cases sink <;> simp [AtEnd, hfiles]

@[simp] theorem fst_reporting {α : Type} (step : Step α) (s : Session) :
    (step.reporting s).1 = (step s).1 := by
  unfold Step.reporting
  split <;> simp [*]

/-- Recording that a step has failed shows in no output. -/
@[simp] theorem shown?_reporting {α : Type} (step : Step α) (s : Session) (sink : Sink) :
    (step.reporting s).2.shown? sink = (step s).2.shown? sink := by
  unfold Step.reporting
  split <;> simp [*]

theorem files_reporting {α : Type} (step : Step α) (s : Session) :
    (step.reporting s).2.files = (step s).2.files := by
  unfold Step.reporting
  split <;> simp [*, report]

/-- One write: the bytes are shown after what was shown before. -/
theorem write_of_atEnd (h : s.AtEnd sink) (bytes : Bytes) :
    ∃ s', s.write bytes sink = (.ok (sink.advance bytes.length), s') ∧
      s'.AtEnd (sink.advance bytes.length) ∧
      s'.shown? sink = (s.shown? sink).map (· ++ bytes) := by
  cases sink with
  | standard => exact ⟨_, rfl, trivial, rfl⟩
  | errors => exact ⟨_, rfl, trivial, rfl⟩
  | nowhere => exact ⟨_, rfl, trivial, rfl⟩
  | refusing cause held => exact h.elim
  | file location offset =>
    have hcontent := FileSystem.content?_writeAt_length h bytes
    refine ⟨_, rfl, ?_, hcontent⟩
    intro content hmem
    dsimp only at hmem
    rw [hcontent, Option.mem_def, Option.map_eq_some_iff] at hmem
    obtain ⟨before, hbefore, rfl⟩ := hmem
    rw [List.length_append, h before hbefore]

/-- All writes, by induction on the texts: they are shown in order after what was shown before. -/
theorem writeAll_of_atEnd (h : s.AtEnd sink) (texts : List Text) :
    ∃ s', s.writeAll texts sink = (.ok (sink.advance (Utf8.encode texts.flatten).length), s') ∧
      s'.AtEnd (sink.advance (Utf8.encode texts.flatten).length) ∧
      s'.shown? sink = (s.shown? sink).map (· ++ Utf8.encode texts.flatten) := by
  induction texts generalizing s sink with
  | nil => exact ⟨s, by simp [writeAll], by simpa using h, by simp⟩
  | cons text texts ih =>
    obtain ⟨s₁, hwrite, hend, hshown⟩ := write_of_atEnd h (Utf8.encode text)
    obtain ⟨s₂, hwrites, hends, hshowns⟩ := ih hend
    rw [Sink.advance_advance] at hwrites hends
    rw [shown?_advance, shown?_advance, hshown, Option.map_map] at hshowns
    rw [List.flatten_cons, Utf8.encode_append, List.length_append]
    refine ⟨s₂, ?_, hends, ?_⟩
    · rw [writeAll, hwrite]
      exact hwrites
    · rw [hshowns]
      simp [Function.comp_def, List.append_assoc]

/-- At the end nothing is held back. -/
theorem finish_of_atEnd (h : s.AtEnd sink) (bytes : Bytes) :
    ∃ s', s.finish bytes sink = (.ok (), s') ∧
      s'.shown? sink = (s.shown? sink).map (· ++ bytes) := by
  obtain ⟨s', hwrite, hend, hshown⟩ := write_of_atEnd h bytes
  refine ⟨s', ?_, hshown⟩
  unfold finish
  rw [hwrite]
  cases sink with
  | refusing cause held => exact h.elim
  | _ => rfl

/-- What is different at the end is what the last bytes change. -/
theorem snd_finish (s : Session) (bytes : Bytes) (sink : Sink) :
    (s.finish bytes sink).2 = (s.write bytes sink).2 := by
  unfold finish
  split <;> simp [*]

/-! ## Opening -/

theorem ofLocation_of_content? {files : FileSystem} {location : Location} {content : Bytes}
    (h : files.content? location = some content) : Sink.ofLocation files location = .file location 0 := by
  obtain ⟨executable, hfile⟩ := FileSystem.content?_eq_some_iff.1 h
  rw [Sink.ofLocation, hfile]

/-- An output that takes bytes and shows none of the file that was there; a regular file is opened empty. -/
theorem atEnd_ofLocation {location : Location}
    (h : ∀ content ∈ s.files.content? location, content = [])
    (htakes : ∀ cause held, Sink.ofLocation s.files location ≠ .refusing cause held) :
    s.AtEnd (Sink.ofLocation s.files location) := by
  unfold Sink.ofLocation at htakes ⊢
  split
  case h_1 hfull => simp [hfull] at htakes
  case h_2 hreport => simp [hreport] at htakes
  case h_6 => exact fun content hcontent => by simp [h content hcontent]
  all_goals exact trivial

/-- Opening an output leaves the log records alone. -/
theorem openSink_records {place : Place} {opened : Session} (h : s.openSink place = .ok (sink, opened))
    (records : List Log.Record) :
    ({ s with records } : Session).openSink place = .ok (sink, { opened with records }) := by
  cases place with
  | standard =>
    cases h
    rfl
  | file path =>
    rw [openSink] at h ⊢
    dsimp only
    split at h
    · contradiction
    · cases h
      simp [*]

theorem openSink_error_records {place : Place} {e : RequestError} (h : s.openSink place = .error e)
    (records : List Log.Record) : ({ s with records } : Session).openSink place = .error e := by
  cases place with
  | standard => cases h
  | file path =>
    rw [openSink] at h ⊢
    dsimp only
    split at h
    · exact h
    · cases h

theorem openSink_file_eq_ok_iff {path : String} {opened : Session} :
    s.openSink (.file path) = .ok (sink, opened) ↔
      ∃ location files, s.files.locateToCreate path = .ok location ∧
        s.files.createAt location = .ok files ∧ sink = Sink.ofLocation files location ∧
        opened = { s with files } := by
  rw [openSink]
  constructor
  · intro h
    split at h
    case h_1 => contradiction
    case h_2 location files hcreate =>
      obtain ⟨hlocate, hcreated⟩ := FileSystem.create_eq_ok_iff.1 hcreate
      cases h
      exact ⟨location, files, hlocate, hcreated, rfl, rfl⟩
  · rintro ⟨location, files, hlocate, hcreated, rfl, rfl⟩
    rw [FileSystem.create_eq_ok_iff.2 ⟨hlocate, hcreated⟩]

/-- Opening an output leaves everything but the files alone. -/
theorem openSink_eq {place : Place} {opened : Session} (h : s.openSink place = .ok (sink, opened)) :
    opened = { s with files := opened.files } := by
  cases place with
  | standard =>
    cases h
    rfl
  | file path =>
    obtain ⟨_, _, _, _, _, rfl⟩ := openSink_file_eq_ok_iff.1 h
    rfl

/-- A regular file, or one that is missing, is opened as a file. -/
theorem sink_of_openSink {path : String} {location : Location} {opened : Session}
    (h : s.openSink (.file path) = .ok (sink, opened)) (hlocate : s.files.locateToCreate path = .ok location)
    (hfile : s.files.node? location = none ∨ (s.files.content? location).isSome) :
    sink = .file location 0 := by
  obtain ⟨found, files, hfound, hcreated, rfl, rfl⟩ := openSink_file_eq_ok_iff.1 h
  obtain rfl := Except.ok.inj (hlocate.symm.trans hfound)
  rcases FileSystem.createAt_cases hcreated with hempty | ⟨-, node, hnode, hnone⟩
  · exact ofLocation_of_content? hempty
  · simp [hnode, hnone] at hfile

/-- A location that an output is written to. -/
def IsOutput (s : Session) (sink : Sink) (location : Location) : Prop :=
  ∃ output ∈ sink.location?, location ∈ s.files.namesOf output

/-- Opening an output changes no more than the files, and of them only the one that is opened. -/
theorem openSink_cases {place : Place} {opened : Session} (hnames : s.files.NamesReplaceable)
    (h : s.openSink place = .ok (sink, opened)) :
    opened = { s with files := opened.files } ∧ opened.files.shared = s.files.shared ∧
      FileSystem.SameBeside (s.IsOutput sink) s.files opened.files := by
  cases place with
  | standard =>
    cases h
    exact ⟨rfl, rfl, .refl _ _⟩
  | file path =>
    obtain ⟨location, files, hlocate, hcreated, rfl, rfl⟩ := openSink_file_eq_ok_iff.1 h
    refine ⟨rfl, FileSystem.shared_createAt hcreated, ?_⟩
    rcases FileSystem.createAt_cases hcreated with hempty | ⟨rfl, -⟩
    · refine (FileSystem.sameBeside_createAt hnames hcreated).mono fun name hname => ?_
      exact ⟨location, by rw [ofLocation_of_content? hempty]; rfl, hname⟩
    · exact .refl _ _

/-- An output that takes bytes is opened at its end. -/
theorem atEnd_of_openSink {place : Place} {opened : Session}
    (h : s.openSink place = .ok (sink, opened)) (htakes : ∀ cause held, sink ≠ .refusing cause held) :
    opened.AtEnd sink := by
  cases place with
  | standard =>
    cases h
    exact trivial
  | file path =>
    obtain ⟨location, files, -, hcreated, rfl, rfl⟩ := openSink_file_eq_ok_iff.1 h
    refine atEnd_ofLocation ?_ htakes
    rcases FileSystem.createAt_cases hcreated with hempty | ⟨rfl, -, -, hnone⟩
    · simp [hempty]
    · simp [hnone]

end Session

end KDispatch
