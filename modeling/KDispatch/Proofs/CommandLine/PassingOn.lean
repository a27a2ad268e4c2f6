import KDispatch.Proofs.CommandLine.Reading
import KDispatch.Proofs.Session.Inputs
import KDispatch.Proofs.Session.Tool

/-!
Words that are passed on. After the command and whatever else is meant for the program itself, a word that does not
start with a hyphen and all words behind it reach the tool unchanged and in their order, whatever they look like.
-/

namespace KDispatch

theorem Flag.ofWord?_of_head {word : String} (h : word.toList.head? ≠ some '-') : ofWord? word = none := by
  unfold ofWord?
  split
  case h_1 htext => simp [htext] at h
  case h_2 htext => simp [htext] at h
  case h_3 htext => simp [htext] at h
  case h_4 => rfl

open Session (provideInput)

namespace Request

variable {release : Option String} {words : List String} {request : Request} {tool : Tool}

/-- A call of a tool, word by word: what the program says about the definition, the input and the formats comes
first. -/
theorem call_passOn (request : Request) (tool : Tool) (path : String) (toolArguments : List String) :
    ({ request with toolArguments } : Request).call tool path =
      ⟨tool.program request.release,
        (request.definition.elim [] fun directory => ["--directory", directory]) ++
          [path, "--input", request.inputFormat.name, "--output", request.outputFormat.name] ++
          toolArguments⟩ := by
  unfold call Call.ofTool formatArguments
  cases request.definition <;> rfl

/-- How a run goes that has one call to make once its output has been opened: standard input cannot be copied for
it, the system does not start it on the input that it gets, or it is started. -/
inductive Makes (host : Host) (place : Place) (sink : Sink) (opened : Session) (call : Call) :
    Except RequestError Summary × Session → Prop
  | uncopied {cause : SystemError} {ended : Session} (hplace : place = .standard)
      (hcreate : opened.files.create host.temporaryPath = .error cause)
      (hcalls : ended.calls = opened.calls) :
      Makes host place sink opened call (.error (.inputOutput host.temporaryDirectory cause), ended)
  | unstarted {input : InputFile} {ready ended : Session} {cause : SystemError}
      (hinput : provideInput host place opened = (.ok input, ready))
      (hstart : host.run.start call sink.location? ready.files = .error cause)
      (hcalls : ended.calls = opened.calls) :
      Makes host place sink opened call (.error (.spawn call.program cause), ended)
  | started {input : InputFile} {ready ended : Session} {process : Process}
      {result : Except RequestError Summary}
      (hinput : provideInput host place opened = (.ok input, ready))
      (hstart : host.run.start call sink.location? ready.files = .ok process)
      (hcalls : ended.calls = opened.calls ++ [call]) :
      Makes host place sink opened call (result, ended)

/-- A request for a tool makes one call, on its input or on a copy of standard input. -/
theorem makes_run {s opened : Session} {sink : Sink} (htool : request.command.tool? = some tool)
    (hinputs : request.InputsReadable s.files) (hopen : s.openSink request.output = .ok (sink, opened))
    (host : Host) :
    ∃ path, (request.input = .file path ∨ request.input = .standard ∧ path = host.temporaryPath) ∧
      Makes host request.input sink opened (request.call tool path) (request.run host s) := by
  obtain ⟨coverage, hopened⟩ := hinputs.openInputs_eq_ok
  have hprovided {input : InputFile} {ready : Session}
      (hinput : provideInput host request.input opened = (.ok input, ready)) :
      (request.input = .file input.path ∨ request.input = .standard ∧ input.path = host.temporaryPath) ∧
        ready.calls = opened.calls := by
    rcases Session.provideInput_eq_ok hinput with
      ⟨hplace, -, rfl⟩ | ⟨hplace, hpath, _, _, _, -, -, rfl⟩
    · exact ⟨.inl hplace, rfl⟩
    · exact ⟨.inr ⟨hplace, hpath⟩, rfl⟩
  have hcase := run_toolCase hopened hopen htool host
  generalize request.run host s = ended at hcase ⊢
  cases hcase with
  | uncopied hplace hcreate => exact ⟨_, .inr ⟨hplace, rfl⟩, .uncopied hplace hcreate rfl⟩
  | @unstarted input ready _ _ hinput hstart =>
    obtain ⟨hplace, hready⟩ := hprovided hinput
    exact ⟨_, hplace, .unstarted hinput hstart ((calls_releaseInput ready input).trans hready)⟩
  | @started input ready process before after result ended hinput hstart hdeliver =>
    obtain ⟨hplace, hready⟩ := hprovided hinput
    refine ⟨_, hplace, .started hinput hstart ?_⟩
    have hended := calls_deliver request
      (.ok (request.summaryOf (request.call tool input.path) process, sink.relocate process.openFile),
        { ready.afterProcess (request.call tool input.path) input process with records := before })
    rw [hdeliver] at hended
    rw [← hready]
    exact hended.trans (calls_releaseInput _ input)

/-- A command line that passes nothing on can be followed by a word without a hyphen at its start and by any others.
It is read as before but for them, and they are the last arguments of the tool. -/
theorem ofWords_passes_on (h : ofWords release words = .ok request) (hnone : request.toolArguments = [])
    (htool : request.command.tool? = some tool) {word : String} (hword : word.toList.head? ≠ some '-')
    (rest : List String) :
    ofWords release (words ++ word :: rest) = .ok { request with toolArguments := word :: rest } ∧
      ∀ (host : Host) (s opened : Session) (sink : Sink), request.InputsReadable s.files →
        s.openSink request.output = .ok (sink, opened) →
        opened.calls = s.calls ∧
        ∃ path, (request.input = .file path ∨ request.input = .standard ∧ path = host.temporaryPath) ∧
          Makes host request.input sink opened
            ⟨tool.program request.release,
              (request.definition.elim [] fun directory => ["--directory", directory]) ++
                [path, "--input", request.inputFormat.name, "--output", request.outputFormat.name] ++
                word :: rest⟩
            (({ request with toolArguments := word :: rest } : Request).run host s) := by
  refine ⟨ofWords_append h hnone (Flag.ofWord?_of_head hword) rest, ?_⟩
  intro host s opened sink hinputs hopen
  have hinputs' : ({ request with toolArguments := word :: rest } : Request).InputsReadable s.files :=
    ⟨hinputs.input, hinputs.coverage⟩
  have hmakes := @makes_run { request with toolArguments := word :: rest } tool s opened sink htool hinputs'
    hopen host
  refine ⟨(keptBeside_opened host hopen).1.calls, ?_⟩
  simpa only [call_passOn] using hmakes

/-! Words that look like flags of the program. -/

def flagLikeTail : List String := ["-o", "other", "--", "--help", ""]

/-- The call with these words at its end. -/
def flagLikeCall : Call :=
  ⟨"kast", ["in", "--input", "pretty", "--output", "kast", "1", "-o", "other", "--", "--help", ""]⟩

theorem ofWords_passes_on_flagLike :
    ofWords none ["-o", "out", "parse", "-t", "kast", "-i", "in"] = .ok (toolRequest "out") ∧
      ofWords none (["-o", "out", "parse", "-t", "kast", "-i", "in"] ++ "1" :: flagLikeTail) =
        .ok { toolRequest "out" with toolArguments := "1" :: flagLikeTail } ∧
      (∃ sink opened, Makes copyingHost (.file "in") sink opened flagLikeCall
        (({ toolRequest "out" with toolArguments := "1" :: flagLikeTail } : Request).run copyingHost
          (.start toolFiles []))) ∧
      (({ toolRequest "out" with toolArguments := "1" :: flagLikeTail } : Request).run copyingHost
        (.start toolFiles [])).2.calls = [flagLikeCall] := by
  have hread : ofWords none ["-o", "out", "parse", "-t", "kast", "-i", "in"] = .ok (toolRequest "out") := rfl
  obtain ⟨hpassed, hmakes⟩ := @ofWords_passes_on _ _ _ _ hread rfl rfl "1" (by decide) flagLikeTail
  have hinputs : (toolRequest "out").InputsReadable toolFiles :=
    ⟨⟨["in"], rfl⟩, fun path hpath => absurd hpath (by simp [toolRequest])⟩
  obtain ⟨-, path, hpath | ⟨hpath, -⟩, hmakes⟩ :=
    hmakes copyingHost (.start toolFiles []) _ _ hinputs rfl
  · cases hpath
    exact ⟨hread, hpassed, ⟨_, _, hmakes⟩, rfl⟩
  · contradiction

end Request

end KDispatch
