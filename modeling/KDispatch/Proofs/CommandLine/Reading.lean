import KDispatch.CommandLine.Parser

/-!
Reading the words of a command line. What is pending may be checked at once or with the next word, so words that
set options can be read one at a time; the order of the options and the place of the command among them do not
matter. A plain word after the command, or `--`, ends the options, and what follows is passed on as it is.
-/

namespace KDispatch

namespace Reading

variable {reading settled final : Reading} {plain : Bool} {words : List String}

/-! ## Pending words -/

theorem settle_of_nothing (h : reading.pending = .nothing) : reading.settle = .ok reading := by
  rw [settle, h]

theorem assign_eq_ok {name : OptionName} {value : String} (hnew : reading.options.lookup name = none)
    (haccepts : name.accepts value = true) :
    reading.assign name value =
      .ok { reading with options := reading.options ++ [(name, value)], pending := .nothing } := by
  rw [assign, hnew, Option.isSome_none, if_neg (by decide), if_pos haccepts]

theorem pending_of_assign {name : OptionName} {value : String}
    (h : reading.assign name value = .ok settled) : settled.pending = .nothing := by
  unfold assign at h
  split at h
  · contradiction
  split at h
  · rw [← Except.ok.inj h]
  · contradiction

/-- Nothing is pending after a check, and no option waits for its value. -/
theorem pending_of_settle (h : reading.settle = .ok settled) :
    settled.pending = .nothing ∧ ∀ name, reading.pending ≠ .option name none := by
  unfold settle at h
  split at h
  case h_1 hpending =>
    obtain rfl := Except.ok.inj h
    exact ⟨hpending, by simp [hpending]⟩
  case h_2 => contradiction
  case h_3 hpending => exact ⟨pending_of_assign h, by simp [hpending]⟩
  case h_4 hpending =>
    split at h
    · rw [← Except.ok.inj h]
      exact ⟨rfl, by simp [hpending]⟩
    · contradiction

theorem settle_settle (h : reading.settle = .ok settled) : settled.settle = .ok settled :=
  settle_of_nothing (pending_of_settle h).1

theorem readWords_nil : readWords plain reading [] = reading.settle := rfl

/-- A word that is no flag is taken as a word, unless an option waits for its value. -/
theorem readWords_word {word : String} (hflag : (if plain then none else Flag.ofWord? word) = none)
    (hvalue : ∀ name, reading.pending ≠ .option name none) (rest : List String) :
    readWords plain reading (word :: rest) =
      match reading.takeWord word rest with
      | .error e => .error e
      | .ok (reading, true) => readWords plain reading rest
      | .ok (reading, false) => .ok reading := by
  conv => lhs; unfold readWords
  rw [hflag]
  dsimp only
  split
  case h_1 name hpending => exact absurd hpending (hvalue name)
  case h_2 => rfl

/-- What is pending can be checked before the next word is looked at. -/
theorem readWords_settle (h : reading.settle = .ok settled) (plain : Bool) (words : List String) :
    readWords plain reading words = readWords plain settled words := by
  obtain ⟨hnothing, hvalue⟩ := pending_of_settle h
  induction words generalizing plain with
  | nil => rw [readWords_nil, readWords_nil, h, settle_settle h]
  | cons word words ih =>
    cases hflag : if plain then none else Flag.ofWord? word with
    | none =>
      have htake : reading.takeWord word words = settled.takeWord word words := by
        rw [takeWord, takeWord, h, settle_settle h]
      rw [readWords_word hflag hvalue, readWords_word hflag (by simp [hnothing]), htake]
    | some flag =>
      unfold readWords
      rw [hflag]
      cases flag with
      | option name value => simp only [takeOption, h, settle_settle h]
      | help => simp only [h, settle_settle h]
      | helpWithValue => rfl
      | endOfOptions => exact ih true
      | unknown => rfl

/-- A plain word is the command, if there is none yet. -/
theorem readWords_command (hsettle : reading.settle = .ok settled) (hnone : settled.command = none)
    {command : Command} (hword : Flag.ofWord? command.name = none)
    (hname : Command.ofName? command.name = some command) (rest : List String) :
    readWords false reading (command.name :: rest) =
      readWords false { settled with command := some command } rest := by
  obtain ⟨hnothing, hvalue⟩ := pending_of_settle hsettle
  have hhas : settled.hasCommand = false := by simp [hasCommand, hnone, hnothing]
  have hpending : ({ settled with pending := .command command.name } : Reading).settle =
      .ok { settled with command := some command } := by
    simp [settle, hname, hnothing]
  rw [readWords_word (by simpa using hword) hvalue, takeWord, hsettle]
  simp only [hhas]
  exact readWords_settle hpending false rest

/-! ## The end of the options -/

/-- A plain word after the command ends the reading. -/
theorem readWords_passedOn (hsettle : reading.settle = .ok settled) (hcommand : settled.command.isSome)
    {word : String} (hword : plain = true ∨ Flag.ofWord? word = none) (rest : List String) :
    readWords plain reading (word :: rest) = .ok { settled with toolArguments := word :: rest } := by
  have hflag : (if plain then none else Flag.ofWord? word) = none := by
    rcases hword with rfl | hword <;> simp [*]
  have hhas : settled.hasCommand = true := by simp [hasCommand, hcommand]
  rw [readWords_word hflag (pending_of_settle hsettle).2, takeWord, hsettle]
  simp only [hhas, if_true]

/-- After `--` all words are passed on. -/
theorem readWords_endOfOptions (hnothing : reading.pending = .nothing) (hcommand : reading.command.isSome)
    (hnone : reading.toolArguments = []) (rest : List String) :
    readWords false reading ("--" :: rest) = .ok { reading with toolArguments := rest } := by
  have hend : readWords false reading ("--" :: rest) = readWords true reading rest := rfl
  rw [hend]
  cases rest with
  | nil => rw [readWords_nil, settle_of_nothing hnothing, ← hnone]
  | cons word rest => exact readWords_passedOn (settle_of_nothing hnothing) hcommand (.inl rfl) rest

/-- Words that are read to their end can be followed by words that are passed on, by induction on the words. -/
theorem readWords_append (h : readWords plain reading words = .ok final)
    (hnone : final.toolArguments = []) (hcommand : final.command.isSome) {word : String}
    (hword : Flag.ofWord? word = none) (rest : List String) :
    readWords plain reading (words ++ word :: rest) =
      .ok { final with toolArguments := word :: rest } := by
  induction words generalizing plain reading with
  | nil => exact readWords_passedOn h hcommand (.inr hword) rest
  | cons first words ih =>
    rw [List.cons_append]
    unfold readWords at h ⊢
    split at h
    case h_1 => exact ih h
    case h_2 => contradiction
    case h_3 => contradiction
    case h_4 => split at h <;> contradiction
    case h_5 name value _ =>
      cases htake : reading.takeOption name value with
      | error e => simp [htake] at h
      | ok taken =>
        simp only [htake] at h ⊢
        exact ih h
    case h_6 =>
      split at h
      case h_1 => exact ih h
      case h_2 =>
        -- the first word that is passed on would have ended the reading
        unfold takeWord at h ⊢
        cases hsettle : reading.settle with
        | error e => simp [hsettle] at h
        | ok settled =>
          simp only [hsettle] at h ⊢
          by_cases hhas : settled.hasCommand
          · simp only [hhas, if_true, Except.ok.injEq] at h
            rw [← h] at hnone
            contradiction
          · simp only [hhas] at h ⊢
            exact ih h

/-! What is passed on has no part in the rest of the reading. -/

theorem assign_passOn (reading : Reading) (toolArguments : List String) (name : OptionName)
    (value : String) :
    ({ reading with toolArguments } : Reading).assign name value =
      (reading.assign name value).map fun assigned => { assigned with toolArguments } := by
  unfold assign
  split
  · rfl
  · split <;> rfl

theorem withRelease_passOn (reading : Reading) (toolArguments : List String)
    (release : Option String) :
    ({ reading with toolArguments } : Reading).withRelease release =
      (reading.withRelease release).map fun released => { released with toolArguments } := by
  unfold withRelease
  dsimp only
  split
  · exact assign_passOn ..
  · rfl

theorem withRelease_keeps {release : Option String} (h : reading.withRelease release = .ok final) :
    final.command = reading.command ∧ final.toolArguments = reading.toolArguments := by
  unfold withRelease assign at h
  split at h
  · split at h
    · contradiction
    split at h
    · rw [← Except.ok.inj h]
      exact ⟨rfl, rfl⟩
    · contradiction
  · rw [Except.ok.inj h]
    exact ⟨rfl, rfl⟩

theorem request_keeps {request : Request} (h : reading.request = .ok request) :
    reading.command = some request.command ∧ request.toolArguments = reading.toolArguments := by
  unfold Reading.request at h
  split at h
  · contradiction
  case h_2 hcommand =>
    dsimp only at h
    split at h
    · contradiction
    · rw [← Except.ok.inj h]
      exact ⟨hcommand, rfl⟩

theorem request_passOn (reading : Reading) (toolArguments : List String) :
    ({ reading with toolArguments } : Reading).request =
      reading.request.map fun request => { request with toolArguments } := by
  unfold request
  dsimp only
  split
  · rfl
  · split <;> rfl

end Reading

theorem Request.ofWords_eq_ok_iff {release : Option String} {words : List String} {request : Request} :
    ofWords release words = .ok request ↔ ∃ reading released,
      Reading.empty.readWords false words = .ok reading ∧ reading.withRelease release = .ok released ∧
        released.request = .ok request := by
  unfold ofWords
  constructor
  · intro h
    split at h
    · contradiction
    split at h
    · contradiction
    exact ⟨_, _, ‹_›, ‹_›, h⟩
  · rintro ⟨reading, released, hread, hrelease, hrequest⟩
    rw [hread]
    dsimp only
    rw [hrelease]
    exact hrequest

/-- A command line that passes nothing on can be followed by a word that is no flag and any others: the request
is the same but that they are passed on. -/
theorem Request.ofWords_append {release : Option String} {words : List String} {request : Request}
    (h : ofWords release words = .ok request) (hnone : request.toolArguments = []) {word : String}
    (hword : Flag.ofWord? word = none) (rest : List String) :
    ofWords release (words ++ word :: rest) = .ok { request with toolArguments := word :: rest } := by
  obtain ⟨reading, released, hread, hrelease, hrequest⟩ := ofWords_eq_ok_iff.1 h
  obtain ⟨hcommand, harguments⟩ := Reading.request_keeps hrequest
  obtain ⟨hcommand', harguments'⟩ := Reading.withRelease_keeps hrelease
  have hread' := Reading.readWords_append hread (by rw [← harguments', ← harguments, hnone])
    (by rw [← hcommand', hcommand, Option.isSome_some]) hword rest
  refine ofWords_eq_ok_iff.2 ⟨_, { released with toolArguments := word :: rest }, hread', ?_, ?_⟩
  · rw [Reading.withRelease_passOn, hrelease]
    rfl
  · rw [Reading.request_passOn, hrequest]
    rfl

end KDispatch
