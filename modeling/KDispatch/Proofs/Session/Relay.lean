import KDispatch.Program.Run
import KDispatch.Proofs.FileSystem.Fresh
import KDispatch.Proofs.Session.Inputs
import KDispatch.Proofs.Session.Tool
import KDispatch.Proofs.Text.Utf8

/-!
What a tool writes. A request that succeeds leaves the standard output of its tool in the output and relays its
standard error, both as text: bytes that are not well-formed UTF-8 are replaced on the way, all others arrive as
they are.
-/

namespace KDispatch

/-- A sink that takes bytes goes on taking them when its file is moved or removed. -/
theorem Sink.relocate_ne_refusing {sink : Sink} (htakes : ∀ cause held, sink ≠ .refusing cause held)
    (openFile : Option Location) (cause : SystemError) (held : Nat) :
    sink.relocate openFile ≠ .refusing cause held := by
  cases sink with
  | file location offset => cases openFile <;> simp [relocate]
  | refusing cause held => exact absurd rfl (htakes cause held)
  | standard | errors | nowhere => simp [relocate]

namespace Session

variable {s ended : Session} {sink : Sink} {bytes : Bytes}

theorem finish_ok (h : s.finish bytes sink = (.ok (), ended)) : ended = (s.write bytes sink).2 := by
  rw [← snd_finish, h]

theorem exists_finish_ok (htakes : ∀ cause held, sink ≠ .refusing cause held) (s : Session) (bytes : Bytes) :
    ∃ ended, s.finish bytes sink = (.ok (), ended) := by
  cases sink with
  | refusing cause held => exact absurd rfl (htakes cause held)
  | standard | errors | nowhere | file _ _ => exact ⟨_, rfl⟩

end Session

namespace Request

open Session (provideInput)

variable {host : Host} {request : Request} {s ready ended : Session} {tool : Tool} {sink : Sink}
  {input : InputFile} {process : Process} {summary : Summary}

/-- A session at whose end the output of a process has been relayed: its standard output comes after what was on a
standard stream, or stands in the output file from the start on, over what the process itself has left there; its
standard error comes after the diagnostics of the work. -/
structure Relays (request : Request) (s : Session) (sink : Sink) (input : InputFile) (process : Process)
    (summary : Summary) (ended : Session) : Prop where
  exitCode : summary.exitCode = process.ending.code
  stdout : Utf8.encode summary.stdout = Utf8.mend process.stdout
  stderr : Utf8.encode summary.stderr = Utf8.mend process.stderr
  toStandard : request.output = .standard → sink = .standard
  toFile : ∀ path location, request.output = .file path → s.files.locateToCreate path = .ok location →
    s.files.node? location = none ∨ (s.files.content? location).isSome → sink = .file location 0
  standard : sink = .standard → ended.stdout = s.stdout ++ Utf8.mend process.stdout
  errors : sink = .errors → ended.stderr = s.stderr ++ Utf8.mend process.stdout
  file : ∀ location, sink = .file location 0 → ∀ moved ∈ process.openFile, input.temporary ≠ some moved →
    ∀ left ∈ process.files.content? moved, ended.files.content? moved =
      some (Utf8.mend process.stdout ++ left.drop (Utf8.mend process.stdout).length)
  diagnostics : ∃ further, (Program.outcome ended (.ok summary)).diagnostics =
    Program.workDiagnostics ended ++ .text summary.stderr :: further

theorem deliver_eq_ok_iff {written : Summary} {t : Session} :
    request.deliver (.ok (written, sink), t) = (.ok summary, ended) ↔
      written = summary ∧ t.finish (Utf8.encode written.stdout) sink = (.ok (), ended) := by
  unfold deliver
  dsimp only
  constructor
  · intro h
    split at h
    case h_1 => cases h
    case h_2 hfinish =>
      cases h
      exact ⟨rfl, hfinish⟩
  · rintro ⟨rfl, hfinish⟩
    rw [hfinish]

theorem diagnostics_outcome (ended : Session) (summary : Summary) :
    ∃ further, (Program.outcome ended (.ok summary)).diagnostics =
      Program.workDiagnostics ended ++ .text summary.stderr :: further := by
  unfold Program.outcome
  dsimp only
  split
  · exact ⟨[], rfl⟩
  · exact ⟨[.record (Program.exitCodeRecord summary)], by simp⟩

/-- The streams of a session when its process has ended are those of its start. -/
theorem Starts.streams (h : request.Starts host s tool sink input ready process) :
    ready.stdout = s.stdout ∧ ready.stderr = s.stderr := by
  obtain ⟨coverage, opened, records, -, hopen, hprovide⟩ := h.opened
  have heq := Session.openSink_eq hopen
  rcases Session.provideInput_eq_ok hprovide with ⟨-, -, rfl⟩ | ⟨-, -, _, _, _, -, -, rfl⟩
  all_goals
    rw [heq]
    exact ⟨rfl, rfl⟩

theorem content?_afterProcess {call : Call} {location : Location} (hbeside : input.temporary ≠ some location) :
    (ready.afterProcess call input process).files.content? location = process.files.content? location := by
  have hreleased := sameBeside_releaseInput
    ({ ready with files := process.files, calls := ready.calls ++ [call] } : Session) input
  exact FileSystem.content?_congr (hreleased.elsewhere location hbeside)

theorem relays_of_finish {call : Call} {records after : List Log.Record}
    (hstarts : request.Starts host s tool sink input ready process)
    (hfinish : ({ ready.afterProcess call input process with records } : Session).finish
      (Utf8.mend process.stdout) (sink.relocate process.openFile) = (.ok (), ended)) :
    request.Relays s sink input process (request.summaryOf call process) { ended with records := after } where
  exitCode := rfl
  stdout := rfl
  stderr := rfl
  toStandard houtput := by
    obtain ⟨coverage, opened, before, -, hopen, -⟩ := hstarts.opened
    rw [houtput] at hopen
    exact (Prod.mk.inj (Except.ok.inj hopen)).1.symm
  toFile path location houtput hlocate hfile := by
    obtain ⟨coverage, opened, before, -, hopen, -⟩ := hstarts.opened
    rw [houtput] at hopen
    exact Session.sink_of_openSink hopen hlocate hfile
  standard hsink := by
    subst hsink
    rw [Session.finish_ok hfinish, ← hstarts.streams.1]
    simp only [Sink.relocate, Session.write, Session.afterProcess, Session.releaseInput]
    split <;> rfl
  errors hsink := by
    subst hsink
    rw [Session.finish_ok hfinish, ← hstarts.streams.2]
    simp only [Sink.relocate, Session.write, Session.afterProcess, Session.releaseInput]
    split <;> rfl
  file location hsink moved hmoved hbeside left hleft := by
    subst hsink
    have hrelocate : (Sink.file location 0).relocate process.openFile = .file moved 0 := by
      rw [Option.mem_def.1 hmoved]
      rfl
    rw [hrelocate] at hfinish
    rw [Session.finish_ok hfinish]
    simp only [Session.write]
    rw [FileSystem.content?_writeAt, content?_afterProcess hbeside, hleft, Option.map_some,
      FileSystem.overwrite_zero]
  diagnostics := diagnostics_outcome _ _

/-- A request for a tool succeeds exactly by starting it and delivering what it has written, whatever that is. Its
output arrives as text: unchanged exactly if it is text, and otherwise with its malformed parts replaced. -/
theorem run_relays_text (htool : request.command.tool? = some tool) (host : Host) (s : Session) :
    (∀ summary ended, request.run host s = (.ok summary, ended) →
      ∃ sink input ready process, request.Starts host s tool sink input ready process ∧
        request.Relays s sink input process summary ended) ∧
    (∀ sink input ready process, request.Starts host s tool sink input ready process →
      (∀ cause held, sink ≠ .refusing cause held) →
      ∃ summary ended, request.run host s = (.ok summary, ended)) ∧
    ∀ bytes, Utf8.IsMended bytes (Utf8.mend bytes) := by
  refine ⟨fun summary ended hrun => ?_, fun sink input ready process hstarts htakes => ?_,
    Utf8.isMended_mend⟩
  · obtain ⟨coverage, sink, opened, hinputs, hopen⟩ := opened_of_ok (congrArg Prod.fst hrun)
    have hcase := run_toolCase hinputs hopen htool host
    rw [hrun] at hcase
    cases hcase with
    | started hinput hstart hdeliver =>
      have hstarts : request.Starts host s tool sink _ _ _ :=
        ⟨htool, ⟨coverage, opened, opened.records, hinputs, hopen, hinput⟩, hstart⟩
      obtain ⟨rfl, hfinish⟩ := deliver_eq_ok_iff.1 hdeliver
      exact ⟨sink, _, _, _, hstarts, relays_of_finish hstarts hfinish⟩
  · obtain ⟨before, after, result, ended, hdeliver, hrun⟩ := hstarts.run_eq
    obtain ⟨finished, hfinish⟩ := Session.exists_finish_ok
      (Sink.relocate_ne_refusing htakes process.openFile)
      { ready.afterProcess (request.call tool input.path) input process with records := before }
      (Utf8.mend process.stdout)
    rw [deliver_eq_ok_iff.2 ⟨rfl, hfinish⟩] at hdeliver
    obtain ⟨rfl, rfl⟩ := Prod.mk.inj hdeliver
    exact ⟨_, _, hrun⟩

/-! A tool that writes the same bytes to both of its output streams. -/

def writingHost (bytes : Bytes) : Host where
  run _ openFile fs := .ok ⟨.exited 0, bytes, bytes, fs, openFile⟩
  temporaryDirectory := "/tmp"
  temporaryName := "input"

theorem run_relays_text_accented :
    (toolRequest "out").command.tool? = some .kast ∧
      ∃ summary ended sink input ready process,
        (toolRequest "out").run (writingHost (utf8 "é")) (.start toolFiles []) = (.ok summary, ended) ∧
        (toolRequest "out").Starts (writingHost (utf8 "é")) (.start toolFiles []) .kast sink input ready
          process ∧
        (toolRequest "out").Relays (.start toolFiles []) sink input process summary ended ∧
        Utf8.encode summary.stderr = utf8 "é" ∧ ended.files.contents? "out" = some (utf8 "é") := by
  obtain ⟨hrelays, -, -⟩ :=
    @run_relays_text (toolRequest "out") .kast rfl (writingHost (utf8 "é")) (.start toolFiles [])
  obtain ⟨sink, input, ready, process, hstarts, hrelayed⟩ := hrelays _ _ rfl
  exact ⟨rfl, _, _, sink, input, ready, process, rfl, hstarts, hrelayed, rfl, rfl⟩

/-- The byte 0xFF is no text, and U+FFFD arrives in its place. -/
theorem run_replaces_byte :
    ∃ summary, ((toolRequest "out").run (writingHost [0xFF]) (.start toolFiles [])).1 = .ok summary ∧
      Utf8.encode summary.stderr = [0xEF, 0xBF, 0xBD] ∧
      ((toolRequest "out").run (writingHost [0xFF]) (.start toolFiles [])).2.files.contents? "out" =
        some [0xEF, 0xBF, 0xBD] :=
  ⟨_, rfl, rfl, rfl⟩

end Request

end KDispatch
