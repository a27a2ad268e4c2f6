import KDispatch.Proofs.CommandLine.Reading
import Mathlib.Data.List.Perm.Basic

/-!
Command lines whose options stand in words of their own. They can be read back: whatever the order of the options
and the place of the command among them, the request has the values that were written and defaults for the rest.
-/

namespace KDispatch

/-! ## Words -/

theorem TermFormat.ofName?_name (format : TermFormat) : ofName? format.name = some format := by
  cases format <;> decide

namespace OptionName

/-- The word that sets an option to a value. -/
def word (option : OptionName) (value : String) : String := "--" ++ option.long ++ "=" ++ value

/-- Whether an option can have a value: formats have to be known, and nothing may be empty. -/
def Allows (option : OptionName) (value : String) : Prop :=
  value ≠ "" ∧ (option = .inputFormat ∨ option = .outputFormat → ∃ format : TermFormat, value = format.name)

theorem accepts_of_allows {option : OptionName} {value : String} (h : option.Allows value) :
    option.accepts value = true := by
  obtain ⟨hvalue, hformat⟩ := h
  cases option with
  | input | output => rfl
  | inputFormat | outputFormat =>
    obtain ⟨format, rfl⟩ := hformat (by simp)
    simp [accepts, format.ofName?_name]
  | definition | coverageFile | release => simpa [accepts] using hvalue

theorem equals_notMem_long (option : OptionName) : '=' ∉ option.long.toList := by
  cases option <;> decide

theorem find?_long (option : OptionName) : all.find? (·.long = option.long) = some option := by
  cases option <;> decide

theorem ofWord?_word (option : OptionName) (value : String) :
    Flag.ofWord? (option.word value) = some (.option option (some value)) := by
  have hword : (option.word value).toList =
      '-' :: '-' :: (option.long.toList ++ '=' :: value.toList) := by
    simp [word]
  have hlong : ∀ c ∈ option.long.toList, (c ≠ '=' : Bool) = true := by
    intro c hc
    have hne : c ≠ '=' := fun heq => option.equals_notMem_long (heq ▸ hc)
    simpa using hne
  have hname : (option.long.toList ++ '=' :: value.toList).takeWhile (· ≠ '=') = option.long.toList := by
    rw [List.takeWhile_append_of_pos hlong]
    simp
  have hvalue : Flag.valueAfterEquals? (option.long.toList ++ '=' :: value.toList) = some value := by
    rw [Flag.valueAfterEquals?, List.dropWhile_append_of_pos hlong]
    simp
  obtain ⟨c, rest, hrest⟩ :=
    List.exists_cons_of_ne_nil (l := option.long.toList ++ '=' :: value.toList) (by simp)
  rw [hrest] at hword hname hvalue
  unfold Flag.ofWord?
  rw [hword]
  change some (Flag.ofLong _ (Flag.valueAfterEquals? (c :: rest))) = _
  rw [hname, hvalue, String.ofList_toList, Flag.ofLong, find?_long]

end OptionName

namespace Command

theorem ofWord?_name (command : Command) : Flag.ofWord? command.name = none := by
  cases command <;> decide

theorem ofName?_name (command : Command) : ofName? command.name = some command := by
  cases command <;> decide

end Command

/-! ## Choices -/

/-- Options with the values they are set to, each at most once. -/
structure Choices where
  entries : List (OptionName × String)
  nodup : (entries.map Prod.fst).Nodup
  allowed : ∀ entry ∈ entries, entry.1.Allows entry.2

namespace Choices

def value? (choices : Choices) (option : OptionName) : Option String := choices.entries.lookup option

/-- The words that set the options. -/
def words (choices : Choices) : List String := choices.entries.map fun entry => entry.1.word entry.2

end Choices

/-- The place that the value of an option stands for. -/
inductive Place.IsGiven : Option String → Place → Prop
  | leftOut : IsGiven none .standard
  | hyphen : IsGiven (some "-") .standard
  | path {path : String} (h : path ≠ "-") : IsGiven (some path) (.file path)

/-- The format that the value of an option stands for. -/
inductive TermFormat.IsGiven : Option String → TermFormat → Prop
  | leftOut : IsGiven none .pretty
  | name (format : TermFormat) : IsGiven (some format.name) format

/-- Whether a request is for a command with the chosen options, and passes certain words on. -/
structure Choices.Describes (choices : Choices) (command : Command) (toolArguments : List String)
    (request : Request) : Prop where
  command : request.command = command
  definition : request.definition = choices.value? .definition
  input : Place.IsGiven (choices.value? .input) request.input
  output : Place.IsGiven (choices.value? .output) request.output
  inputFormat : TermFormat.IsGiven (choices.value? .inputFormat) request.inputFormat
  outputFormat : TermFormat.IsGiven (choices.value? .outputFormat) request.outputFormat
  coverageFile : request.coverageFile = choices.value? .coverageFile
  release : request.release = choices.value? .release
  toolArguments : request.toolArguments = toolArguments

namespace Reading

variable {reading : Reading}

/-- One word sets one option. -/
theorem readWords_option (hnothing : reading.pending = .nothing) {option : OptionName} {value : String}
    (hnew : reading.options.lookup option = none) (hallowed : option.Allows value) (rest : List String) :
    readWords false reading (option.word value :: rest) =
      readWords false { reading with options := reading.options ++ [(option, value)] } rest := by
  have hassign := assign_eq_ok hnew (OptionName.accepts_of_allows hallowed)
  rw [← hnothing] at hassign
  have htake : reading.takeOption option (some value) =
      .ok { reading with options := reading.options ++ [(option, value)] } := by
    rw [takeOption, settle_of_nothing hnothing]
    exact hassign
  conv_lhs => unfold readWords
  simp only [OptionName.ofWord?_word, htake, Bool.false_eq_true, if_false]

/-- All options are set, by induction on their words: each one is new when its word is reached. -/
theorem readWords_options (hnothing : reading.pending = .nothing) {entries : List (OptionName × String)}
    (hnodup : ((reading.options ++ entries).map Prod.fst).Nodup)
    (hallowed : ∀ entry ∈ entries, entry.1.Allows entry.2) (rest : List String) :
    readWords false reading ((entries.map fun entry => entry.1.word entry.2) ++ rest) =
      readWords false { reading with options := reading.options ++ entries } rest := by
  induction entries generalizing reading with
  | nil => rw [List.map_nil, List.nil_append, List.append_nil]
  | cons entry entries ih =>
    obtain ⟨option, value⟩ := entry
    obtain ⟨hfirst, hlater⟩ := List.forall_mem_cons.1 hallowed
    have hnew : reading.options.lookup option = none := by
      rw [List.lookup_eq_none_iff]
      intro earlier hearlier
      rw [List.map_append, List.nodup_append] at hnodup
      have hne := hnodup.2.2 earlier.1 (List.mem_map_of_mem hearlier) option (by simp)
      simpa using hne.symm
    have hrest := @ih { reading with options := reading.options ++ [(option, value)] } hnothing
      (by simpa using hnodup) hlater
    rw [List.map_cons, List.cons_append, readWords_option hnothing hnew hfirst, hrest]
    simp

end Reading

/-! ## Reading a command line -/

/-- An entry is found exactly where its name is. -/
theorem lookup_eq_some_iff_mem {entries : List (OptionName × String)}
    (hnodup : (entries.map Prod.fst).Nodup) {option : OptionName} {value : String} :
    entries.lookup option = some value ↔ (option, value) ∈ entries := by
  induction entries with
  | nil => simp
  | cons entry entries ih =>
    obtain ⟨name, given⟩ := entry
    obtain ⟨hnew, hnodup⟩ := List.nodup_cons.1 hnodup
    by_cases hname : option = name
    · subst hname
      have hlater : (option, value) ∉ entries := fun hmem => hnew (List.mem_map.2 ⟨_, hmem, rfl⟩)
      simp [hlater, eq_comm]
    · have hne : (option == name) = false := by simpa using hname
      simp [List.lookup_cons, hne, hname, ih hnodup]

/-- The order of the entries does not matter. -/
theorem lookup_perm {entries given : List (OptionName × String)} (hperm : given.Perm entries)
    (hnodup : (entries.map Prod.fst).Nodup) (option : OptionName) :
    given.lookup option = entries.lookup option := by
  have hnodup' : (given.map Prod.fst).Nodup := ((hperm.map Prod.fst).nodup_iff).2 hnodup
  ext value
  rw [lookup_eq_some_iff_mem hnodup', lookup_eq_some_iff_mem hnodup, hperm.mem_iff]

namespace Choices

variable {choices : Choices} {command : Command} {words : List String}

/-- The command stands somewhere among the words of the options. -/
theorem exists_of_words_perm (h : words.Perm (command.name :: choices.words)) :
    ∃ earlier later : List (OptionName × String), (earlier ++ later).Perm choices.entries ∧
      words = (earlier.map fun entry => entry.1.word entry.2) ++
        command.name :: later.map fun entry => entry.1.word entry.2 := by
  obtain ⟨before, after, rfl⟩ := List.append_of_mem (h.mem_iff.2 List.mem_cons_self)
  have hothers : (before ++ after).Perm choices.words := by
    have hmiddle : (before ++ command.name :: after).Perm (command.name :: (before ++ after)) :=
      List.perm_middle
    exact (hmiddle.symm.trans h).cons_inv
  obtain ⟨given, hgiven, hperm⟩ : Relation.Comp (· = List.map _ ·) List.Perm (before ++ after)
      choices.entries := by
    rw [List.eq_map_comp_perm]
    exact hothers
  obtain ⟨earlier, later, rfl, rfl, rfl⟩ := List.append_eq_map_iff.1 hgiven
  exact ⟨earlier, later, hperm, rfl⟩

/-- The words of a command and its options are read one after the other, and `--` ends them. -/
theorem readWords_words (h : words.Perm (command.name :: choices.words)) (rest : List String) :
    ∃ given : List (OptionName × String), given.Perm choices.entries ∧
      Reading.empty.readWords false (words ++ "--" :: rest) =
        .ok ⟨some command, given, .nothing, rest⟩ := by
  obtain ⟨earlier, later, hperm, rfl⟩ := exists_of_words_perm h
  have hnodup : ((earlier ++ later).map Prod.fst).Nodup :=
    ((hperm.map Prod.fst).nodup_iff).2 choices.nodup
  have hallowed (entry) (hentry : entry ∈ earlier ++ later) : entry.1.Allows entry.2 :=
    choices.allowed entry (hperm.mem_iff.1 hentry)
  have hearlier : (([] ++ earlier : List (OptionName × String)).map Prod.fst).Nodup := by
    rw [List.map_append] at hnodup
    exact (List.nodup_append.1 hnodup).1
  refine ⟨earlier ++ later, hperm, ?_⟩
  rw [List.append_assoc, List.cons_append, Reading.readWords_options rfl hearlier
    fun entry hentry => hallowed entry (List.mem_append_left _ hentry)]
  rw [Reading.readWords_command rfl rfl command.ofWord?_name command.ofName?_name]
  rw [Reading.readWords_options rfl hnodup
    fun entry hentry => hallowed entry (List.mem_append_right _ hentry)]
  exact Reading.readWords_endOfOptions rfl rfl rfl rest

theorem isGiven_place (value : Option String) :
    Place.IsGiven value ((value.map Place.ofString).getD .standard) := by
  cases value with
  | none => exact .leftOut
  | some path =>
    simp only [Option.map_some, Option.getD_some, Place.ofString]
    split
    case isTrue h => exact h ▸ .hyphen
    case isFalse h => exact .path h

theorem isGiven_format {option : OptionName} (hformat : option = .inputFormat ∨ option = .outputFormat) :
    TermFormat.IsGiven (choices.value? option)
      (((choices.value? option).bind TermFormat.ofName?).getD .pretty) := by
  cases hvalue : choices.value? option with
  | none => exact .leftOut
  | some value =>
    have hentry := (lookup_eq_some_iff_mem choices.nodup).1 hvalue
    obtain ⟨format, rfl⟩ := (choices.allowed _ hentry).2 hformat
    rw [Option.bind_some, format.ofName?_name]
    exact .name format

end Choices

/-- A command line that sets each option at most once, in a word of its own, is read as the request that it
describes, wherever its command and its options stand; what follows `--` is passed on. -/
theorem Request.ofWords_of_choices {choices : Choices} {command : Command} {words : List String}
    (hwords : words.Perm (command.name :: choices.words))
    (hcoverage : command = .coverageLog → choices.value? .coverageFile ≠ none) (rest : List String) :
    ∃ request, ofWords none (words ++ "--" :: rest) = .ok request ∧
      choices.Describes command rest request := by
  obtain ⟨given, hperm, hread⟩ := Choices.readWords_words hwords rest
  have hlookup (option : OptionName) : given.lookup option = choices.value? option :=
    lookup_perm hperm choices.nodup option
  have hrequest : ¬ (command = .coverageLog ∧ given.lookup .coverageFile = none) := by
    rw [hlookup]
    exact fun ⟨hcommand, hnone⟩ => hcoverage hcommand hnone
  refine ⟨_, ofWords_eq_ok_iff.2 ⟨_, _, hread, rfl, if_neg hrequest⟩, ?_⟩
  exact {
    command := rfl
    definition := hlookup .definition
    input := by
      rw [← hlookup]
      exact Choices.isGiven_place _
    output := by
      rw [← hlookup]
      exact Choices.isGiven_place _
    inputFormat := by
      dsimp only [Reading.formatOf]
      rw [hlookup]
      exact Choices.isGiven_format (.inl rfl)
    outputFormat := by
      dsimp only [Reading.formatOf]
      rw [hlookup]
      exact Choices.isGiven_format (.inr rfl)
    coverageFile := hlookup .coverageFile
    release := hlookup .release
    toolArguments := rfl }

/-! Values that look like flags, and options on both sides of the command. -/

def flagLikeChoices : Choices where
  entries := [(.coverageFile, "--help"), (.input, "-x= y"), (.outputFormat, "kore")]
  nodup := by decide
  allowed := by
    intro entry hentry
    simp only [List.mem_cons, List.not_mem_nil, or_false] at hentry
    rcases hentry with rfl | rfl | rfl
    · exact ⟨by decide, by simp⟩
    · exact ⟨by decide, by simp⟩
    · exact ⟨by decide, fun _ => ⟨.kore, rfl⟩⟩

def flagLikeWords : List String :=
  ["--to=kore", "--coverage-file=--help", "coverage-log", "--input=-x= y"]

theorem Request.ofWords_of_choices_flagLike :
    flagLikeWords.Perm (Command.coverageLog.name :: flagLikeChoices.words) ∧
      flagLikeChoices.value? .coverageFile ≠ none ∧
      (∃ request, ofWords none (flagLikeWords ++ ["--", "-h", "--", ""]) = .ok request ∧
        flagLikeChoices.Describes .coverageLog ["-h", "--", ""] request) ∧
      ofWords none (flagLikeWords ++ ["--", "-h", "--", ""]) =
        .ok ⟨.coverageLog, none, .file "-x= y", .standard, .pretty, .kore, some "--help", none,
          ["-h", "--", ""]⟩ := by
  have hwords : flagLikeWords.Perm (Command.coverageLog.name :: flagLikeChoices.words) := by
    decide +kernel
  have hcoverage : flagLikeChoices.value? .coverageFile ≠ none := by decide
  exact ⟨hwords, hcoverage, ofWords_of_choices hwords (fun _ => hcoverage) ["-h", "--", ""], rfl⟩

end KDispatch
