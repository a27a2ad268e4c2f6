import KDispatch.Proofs.CommandLine.Reading
import KDispatch.Proofs.Session.Checks

/-!
Where the values of options come from. Each value that is read can be a value of its option and stands in the words
before those that are passed on: attached to the option, or right behind it. A request for a coverage log that has
been read therefore names a coverage file, and carrying it out does not fail for the lack of one.
-/

namespace KDispatch

/-- Whether words give an option a value, attached to it or right behind it. -/
inductive OptionName.GivenIn (name : OptionName) (value : String) (words : List String) : Prop
  | attached {word : String} (hmem : word ∈ words)
      (hword : Flag.ofWord? word = some (.option name (some value)))
  | behind {word : String} (hwords : [word, value] <:+: words)
      (hword : Flag.ofWord? word = some (.option name none))

theorem OptionName.GivenIn.append {name : OptionName} {value : String} {words : List String}
    (h : name.GivenIn value words) (more : List String) : name.GivenIn value (words ++ more) := by
  cases h with
  | attached hmem hword => exact .attached (List.mem_append_left _ hmem) hword
  | behind hwords hword => exact .behind (hwords.trans (List.infix_append' [] words more)) hword

namespace Reading

variable {reading settled final : Reading} {plain : Bool} {before : List String}

/-- Whether words give all the values that options have, and these can be values of them. -/
def ValuesGivenIn (words : List String) (reading : Reading) : Prop :=
  ∀ name value, (name, value) ∈ reading.options → name.GivenIn value words ∧ name.accepts value = true

/-- What has been read comes from the words before: the values of the options, a value that waits to be checked, and
an option that waits for its value, which is the last word then unless the options have ended. -/
structure ComesFrom (plain : Bool) (before : List String) (reading : Reading) : Prop where
  options : reading.ValuesGivenIn before
  value : ∀ name value, reading.pending = .option name (some value) → name.GivenIn value before
  option : ∀ name, reading.pending = .option name none → plain = true ∨
    ∃ word, [word] <:+ before ∧ Flag.ofWord? word = some (.option name none)
  unpassed : reading.toolArguments = []

namespace ComesFrom

theorem of_nothing (hnothing : reading.pending = .nothing) (hoptions : reading.ValuesGivenIn before)
    (hunpassed : reading.toolArguments = []) : ComesFrom plain before reading where
  options := hoptions
  value name value hpending := by simp [hnothing] at hpending
  option name hpending := by simp [hnothing] at hpending
  unpassed := hunpassed

theorem empty : ComesFrom false [] Reading.empty :=
  of_nothing rfl (fun _ _ hmem => absurd hmem List.not_mem_nil) rfl

theorem options_append (h : ComesFrom plain before reading) (more : List String) :
    reading.ValuesGivenIn (before ++ more) :=
  fun name value hmem => (h.options name value hmem).imp_left (·.append more)

theorem assign (h : ComesFrom plain before reading) {name : OptionName} {value : String}
    (hgiven : name.GivenIn value before) (hassign : reading.assign name value = .ok settled) :
    ComesFrom plain before settled := by
  unfold Reading.assign at hassign
  split at hassign
  · contradiction
  split at hassign
  case isFalse => contradiction
  case isTrue haccepts =>
    obtain rfl := Except.ok.inj hassign
    refine of_nothing rfl (fun name' value' hmem => ?_) h.unpassed
    rcases List.mem_append.1 hmem with hmem | hmem
    · exact h.options name' value' hmem
    · obtain ⟨rfl, rfl⟩ := Prod.mk.inj (List.mem_singleton.1 hmem)
      exact ⟨hgiven, haccepts⟩

theorem settle (h : ComesFrom plain before reading) (hsettle : reading.settle = .ok settled) :
    ComesFrom plain before settled := by
  unfold Reading.settle at hsettle
  split at hsettle
  case h_1 =>
    obtain rfl := Except.ok.inj hsettle
    exact h
  case h_2 => contradiction
  case h_3 hpending => exact h.assign (h.value _ _ hpending) hsettle
  case h_4 =>
    split at hsettle
    · obtain rfl := Except.ok.inj hsettle
      exact of_nothing rfl h.options h.unpassed
    · contradiction

/-! One word more. -/

/-- An option is read, with a value attached to it or without one. -/
theorem takeOption (h : ComesFrom plain before reading) {word : String} {name : OptionName}
    {value : Option String} (hword : Flag.ofWord? word = some (.option name value))
    (htake : reading.takeOption name value = .ok settled) : ComesFrom plain (before ++ [word]) settled := by
  unfold Reading.takeOption at htake
  split at htake
  · contradiction
  case h_2 checked hsettle =>
    have hchecked : ComesFrom plain (before ++ [word]) checked :=
      of_nothing (pending_of_settle hsettle).1 ((h.settle hsettle).options_append [word])
        (h.settle hsettle).unpassed
    cases value with
    | some value => exact hchecked.assign (.attached (by simp) hword) htake
    | none =>
      obtain rfl := Except.ok.inj htake
      refine ⟨hchecked.options, fun _ _ hpending => ?_, fun other hpending => ?_, hchecked.unpassed⟩
      · cases hpending
      · cases hpending
        exact .inr ⟨word, List.suffix_append before [word], hword⟩

/-- A word is read as the value of the option that waits for it. -/
theorem takeValue (h : ComesFrom false before reading) {name : OptionName} (word : String)
    (hpending : reading.pending = .option name none) :
    ComesFrom false (before ++ [word]) { reading with pending := .option name (some word) } := by
  refine ⟨h.options_append [word], fun _ _ hvalue => ?_, fun _ hoption => ?_, h.unpassed⟩
  · cases hvalue
    rcases h.option name hpending with hplain | ⟨flag, ⟨earlier, rfl⟩, hflag⟩
    · contradiction
    · exact .behind ⟨earlier, [], by simp⟩ hflag
  · cases hoption

/-- After the end of the options a word is no value. -/
theorem endOfOptions (h : ComesFrom plain before reading) (word : String) :
    ComesFrom true (before ++ [word]) reading where
  options := h.options_append [word]
  value name value hpending := (h.value name value hpending).append [word]
  option _ _ := .inl rfl
  unpassed := h.unpassed

/-- A word is the command, or it is the first one that is passed on. -/
theorem takeWord (h : ComesFrom plain before reading) {word : String} {rest : List String} {goesOn : Bool}
    (htake : reading.takeWord word rest = .ok (settled, goesOn)) :
    (goesOn = true ∧ ComesFrom plain (before ++ [word]) settled) ∨
      (goesOn = false ∧ settled.toolArguments = word :: rest ∧ settled.ValuesGivenIn before) := by
  unfold Reading.takeWord at htake
  split at htake
  · contradiction
  case h_2 checked hsettle =>
    have hchecked := h.settle hsettle
    split at htake
    · obtain ⟨rfl, rfl⟩ := Prod.mk.inj (Except.ok.inj htake)
      exact .inr ⟨rfl, rfl, hchecked.options⟩
    · obtain ⟨rfl, rfl⟩ := Prod.mk.inj (Except.ok.inj htake)
      refine .inl ⟨rfl, hchecked.options_append [word], fun _ _ hpending => ?_, fun _ hpending => ?_,
        hchecked.unpassed⟩
      · cases hpending
      · cases hpending

/-- Words that are read to their end, by induction on them: they are those that give the values and, behind them,
those that are passed on. -/
theorem readWords {words : List String} (h : ComesFrom plain before reading)
    (hread : reading.readWords plain words = .ok final) :
    ∃ read, words = read ++ final.toolArguments ∧ final.ValuesGivenIn (before ++ read) := by
  induction words generalizing plain before reading with
  | nil =>
    have hfinal := h.settle hread
    exact ⟨[], by rw [hfinal.unpassed]; rfl, by rw [List.append_nil]; exact hfinal.options⟩
  | cons word rest ih =>
    have hnext {plain : Bool} {next : Reading} (hnext : ComesFrom plain (before ++ [word]) next)
        (hread : next.readWords plain rest = .ok final) :
        ∃ read, word :: rest = read ++ final.toolArguments ∧ final.ValuesGivenIn (before ++ read) := by
      obtain ⟨read, hrest, hvalues⟩ := ih hnext hread
      exact ⟨word :: read, by rw [hrest]; rfl, by simpa using hvalues⟩
    unfold Reading.readWords at hread
    split at hread
    case h_1 => exact hnext (h.endOfOptions word) hread
    case h_2 => contradiction
    case h_3 => contradiction
    case h_4 => split at hread <;> contradiction
    case h_5 name value hflag =>
      have hword : Flag.ofWord? word = some (.option name value) := by
        cases plain with
        | false => exact hflag
        | true => contradiction
      split at hread
      · contradiction
      · exact hnext (h.takeOption hword ‹_›) hread
    case h_6 =>
      split at hread
      case h_1 hpending _ => exact hnext (h.takeValue word hpending) hread
      case h_2 =>
        split at hread
        · contradiction
        case h_2 htake =>
          rcases h.takeWord htake with ⟨-, htaken⟩ | ⟨hends, -⟩
          · exact hnext htaken hread
          · contradiction
        case h_3 htake =>
          rcases h.takeWord htake with ⟨hgoes, -⟩ | ⟨-, hpassed, hvalues⟩
          · contradiction
          · obtain rfl := Except.ok.inj hread
            exact ⟨[], hpassed.symm, by simpa using hvalues⟩

end ComesFrom

theorem lookup_of_withRelease {release : Option String} (h : reading.withRelease release = .ok settled)
    {name : OptionName} (hname : name ≠ .release) : settled.options.lookup name = reading.options.lookup name := by
  unfold withRelease assign at h
  split at h
  · split at h
    · contradiction
    split at h
    · obtain rfl := Except.ok.inj h
      have hother : (name == OptionName.release) = false := by simpa using hname
      simp [List.lookup_append, List.lookup_cons, hother]
    · contradiction
  · rw [Except.ok.inj h]

/-- What a request says about the coverage file, and that a coverage log has one. -/
theorem coverageFile_of_request {request : Request} (h : reading.request = .ok request) :
    request.coverageFile = reading.options.lookup .coverageFile ∧
      (request.command = .coverageLog → request.coverageFile.isSome) := by
  unfold Reading.request at h
  split at h
  · contradiction
  dsimp only at h
  split at h
  · contradiction
  case isFalse hneeded =>
    obtain rfl := Except.ok.inj h
    refine ⟨rfl, fun hcommand => ?_⟩
    rw [Option.isSome_iff_ne_none]
    exact fun hnone => hneeded ⟨hcommand, hnone⟩

end Reading

namespace Request

/-- A coverage file that has been read stands in the words before those that are passed on. -/
theorem coverageFile_givenIn {release : Option String} {words : List String} {request : Request}
    (h : ofWords release words = .ok request) {path : String} (hfile : request.coverageFile = some path) :
    path ≠ "" ∧ ∃ read, words = read ++ request.toolArguments ∧ OptionName.coverageFile.GivenIn path read := by
  obtain ⟨reading, released, hread, hrelease, hrequest⟩ := ofWords_eq_ok_iff.1 h
  obtain ⟨read, hwords, hvalues⟩ := Reading.ComesFrom.empty.readWords hread
  rw [(Reading.coverageFile_of_request hrequest).1, Reading.lookup_of_withRelease hrelease (by decide)] at hfile
  obtain ⟨earlier, later, hoptions, -⟩ := List.lookup_eq_some_iff.1 hfile
  obtain ⟨hgiven, haccepts⟩ := hvalues .coverageFile path (by simp [hoptions])
  refine ⟨by simpa [OptionName.accepts] using haccepts, read, ?_, hgiven⟩
  rw [(Reading.request_keeps hrequest).2, (Reading.withRelease_keeps hrelease).2]
  exact hwords

/-- A command line that is read as a request for a coverage log names the coverage file before the words that are
passed on, and no request that is read from a command line fails for the lack of one. -/
theorem ofWords_names_coverageFile {release : Option String} {words : List String} {request : Request}
    (h : ofWords release words = .ok request) :
    (request.command = .coverageLog → ∃ path read, request.coverageFile = some path ∧ path ≠ "" ∧
      words = read ++ request.toolArguments ∧ OptionName.coverageFile.GivenIn path read) ∧
    ∀ (host : Host) (s : Session), (request.run host s).1 ≠ .error .missingCoverageFile := by
  have hneeded : request.command = .coverageLog → request.coverageFile.isSome := by
    obtain ⟨reading, released, -, -, hrequest⟩ := ofWords_eq_ok_iff.1 h
    exact (Reading.coverageFile_of_request hrequest).2
  refine ⟨fun hcommand => ?_, fun host s hmissing => ?_⟩
  · obtain ⟨path, hfile⟩ := Option.isSome_iff_exists.1 (hneeded hcommand)
    obtain ⟨hpath, read, hwords, hgiven⟩ := coverageFile_givenIn h hfile
    exact ⟨path, read, hfile, hpath, hwords, hgiven⟩
  · have hlacks := ((run_missing_iff (e := .missingCoverageFile) trivial host s).1 hmissing).1
    cases hlacks with
    | coverageFile hcommand _ hnone =>
      have hnamed := hneeded hcommand
      simp [hnone] at hnamed

/-! A coverage file that is named before `--`, and words behind the command that look like options. -/

def trailingRequest : Request :=
  ⟨.coverageLog, none, .standard, .standard, .pretty, .pretty, some "cov", none, ["--coverage-file", "other"]⟩

theorem ofWords_names_coverageFile_trailing :
    ofWords none ["--coverage-file", "cov", "--", "coverage-log", "--coverage-file", "other"] =
        .ok trailingRequest ∧
      (∃ path read, some "cov" = some path ∧ path ≠ "" ∧
        ["--coverage-file", "cov", "--", "coverage-log", "--coverage-file", "other"] =
          read ++ ["--coverage-file", "other"] ∧ OptionName.coverageFile.GivenIn path read) ∧
      ∀ (host : Host) (s : Session), (trailingRequest.run host s).1 ≠ .error .missingCoverageFile := by
  have hread : ofWords none ["--coverage-file", "cov", "--", "coverage-log", "--coverage-file", "other"] =
      .ok trailingRequest := rfl
  obtain ⟨hnamed, hrun⟩ := ofWords_names_coverageFile hread
  exact ⟨hread, hnamed rfl, hrun⟩

end Request

end KDispatch
