import KDispatch.Kast.Document
import KDispatch.Proofs.FileSystem.Fresh
import KDispatch.Proofs.Json.Compact
import KDispatch.Proofs.Text.Utf8

/-!
Documents. The term of an envelope that is read has the members of its objects in order, a term that is written
in an envelope is read back from it, and so is a document that is written to a file.
-/

namespace KDispatch.Envelope

open Json (bind_eq_ok_iff map_eq_ok_iff)

variable {text rest : Text} {parts : Parts} {envelope : Envelope}

/-- Whether the term is ordered, if there is one yet. -/
def Parts.IsOrdered (parts : Parts) : Prop := ∀ term ∈ parts.term, term.IsOrdered

theorem isOrdered_readPart {read : Parts} {key : String} (hparts : parts.IsOrdered)
    (h : readPart parts key text = .ok (read, rest)) : read.IsOrdered := by
  unfold readPart at h
  split at h
  · split at h
    · contradiction
    · obtain ⟨afterColon, -, h⟩ := bind_eq_ok_iff.1 h
      obtain ⟨⟨format, last⟩, -, h⟩ := bind_eq_ok_iff.1 h
      cases h
      exact hparts
  split at h
  · split at h
    · contradiction
    · obtain ⟨afterColon, -, h⟩ := bind_eq_ok_iff.1 h
      obtain ⟨⟨version, last⟩, -, h⟩ := bind_eq_ok_iff.1 h
      cases h
      exact hparts
  split at h
  · split at h
    · contradiction
    · obtain ⟨afterColon, -, h⟩ := bind_eq_ok_iff.1 h
      obtain ⟨⟨term, last⟩, hterm, h⟩ := bind_eq_ok_iff.1 h
      cases h
      intro found hfound
      obtain rfl := Option.mem_some_iff.1 hfound
      exact Json.givesOrdered_readValue _ _ _ _ _ hterm
  · obtain ⟨afterColon, -, h⟩ := bind_eq_ok_iff.1 h
    obtain ⟨last, -, h⟩ := bind_eq_ok_iff.1 h
    cases h
    exact hparts

theorem isOrdered_readParts {fuel : Nat} {read : Parts} (hparts : parts.IsOrdered)
    (h : readParts fuel parts text = .ok (read, rest)) : read.IsOrdered := by
  induction fuel generalizing parts text with
  | zero => contradiction
  | succ fuel ih =>
    obtain ⟨⟨key, afterKey⟩, -, h⟩ := bind_eq_ok_iff.1 h
    obtain ⟨⟨more, after⟩, hpart, h⟩ := bind_eq_ok_iff.1 h
    have hmore := isOrdered_readPart hparts hpart
    dsimp only at h
    split at h
    · contradiction
    · cases h
      exact hmore
    · exact ih hmore h
    · contradiction

theorem isOrdered_readObject (h : readObject text = .ok (envelope, rest)) : envelope.term.IsOrdered := by
  unfold readObject at h
  split at h
  · contradiction
  · obtain ⟨⟨parts, last⟩, hparts, h⟩ := bind_eq_ok_iff.1 h
    obtain ⟨made, hmade, h⟩ := bind_eq_ok_iff.1 h
    cases h
    have hempty : Parts.IsOrdered ⟨none, none, none⟩ := by simp [Parts.IsOrdered]
    have hordered := isOrdered_readParts hempty hparts
    unfold ofParts at hmade
    split at hmade
    · cases hmade
      exact hordered _ ‹_›
    · contradiction

theorem isOrdered_readArray (h : readArray text = .ok (envelope, rest)) : envelope.term.IsOrdered := by
  unfold readArray at h
  split at h
  · contradiction
  · obtain ⟨⟨format, afterFormat⟩, -, h⟩ := bind_eq_ok_iff.1 h
    obtain ⟨beforeVersion, -, h⟩ := bind_eq_ok_iff.1 h
    obtain ⟨⟨version, afterVersion⟩, -, h⟩ := bind_eq_ok_iff.1 h
    obtain ⟨beforeTerm, -, h⟩ := bind_eq_ok_iff.1 h
    obtain ⟨⟨term, afterTerm⟩, hterm, h⟩ := bind_eq_ok_iff.1 h
    obtain ⟨last, -, h⟩ := bind_eq_ok_iff.1 h
    cases h
    exact Json.givesOrdered_readValue _ _ _ _ _ hterm

/-- The term of an envelope is ordered, whatever the order in the text. -/
theorem isOrdered_of_ofText (h : ofText text = .ok envelope) : envelope.term.IsOrdered := by
  obtain ⟨⟨read, rest⟩, hread, h⟩ := bind_eq_ok_iff.1 h
  obtain ⟨-, -, h⟩ := bind_eq_ok_iff.1 h
  cases h
  unfold Envelope.read at hread
  split at hread
  · exact isOrdered_readObject hread
  · exact isOrdered_readArray hread
  · contradiction

/-! ## Written envelopes -/

theorem readParts_comma {read : Parts} {key : String} {fuel : Nat}
    (h : readPart parts key text = .ok (read, ',' :: rest)) :
    readParts (fuel + 1) parts (Json.quote key ++ text) = readParts fuel read rest := by
  rw [readParts, Json.readKey_quote]
  simp [bind, Except.bind, h, Json.skipBlank]

theorem readParts_close {read : Parts} {key : String} {fuel : Nat}
    (h : readPart parts key text = .ok (read, '}' :: rest)) :
    readParts (fuel + 1) parts (Json.quote key ++ text) = .ok (read, rest) := by
  rw [readParts, Json.readKey_quote]
  simp [bind, Except.bind, h, Json.skipBlank, pure, Except.pure]

theorem readPart_format (hparts : parts.format = none) (format : String) (rest : Text) :
    readPart parts "format" (':' :: (Json.quote format ++ rest)) =
      .ok ({ parts with format := some (some format) }, rest) := by
  obtain ⟨literal, hquote, hread⟩ := Json.readString_quote format rest
  have hformat : readOptional readFormat (Json.quote format ++ rest) = .ok (some format, rest) := by
    have hliteral : readOptional readFormat ('"' :: literal) =
        (Json.readString .keep literal).map fun read => (some read.1, read.2) := rfl
    rw [hquote, hliteral, hread]
    rfl
  simp [readPart, hparts, Json.readColon, Json.skipBlank, hformat, bind, Except.bind, pure, Except.pure]

theorem readPart_term {term : Json} (hparts : parts.term = none)
    (hterm : Json.ReadsBack readTerm term) (hrest : Json.FollowsValue rest) :
    readPart parts "term" (':' :: (term.text ++ rest)) = .ok ({ parts with term := some term }, rest) := by
  simp [readPart, hparts, Json.readColon, Json.skipBlank, hterm rest hrest, bind, Except.bind, pure, Except.pure]

/-- The members of a written envelope, after its opening brace. -/
def writtenMembers (term : Json) : Text :=
  Json.quote "format" ++ ':' :: (Json.quote "KAST" ++ ',' :: (Json.quote "term" ++ ':' :: (term.text ++
    ',' :: (Json.quote "version" ++ [':', '2', '}']))))

theorem text_ofTerm (term : Json) : (ofTerm term).text = '{' :: writtenMembers term := by
  have hversion : Nat.toDigits 10 2 = ['2'] := rfl
  simp [ofTerm, writtenMembers, Json.memberTexts, Text.join_cons_cons, Number.text, Number.integerText,
    hversion]

theorem readParts_writtenMembers {term : Json} (hterm : Json.ReadsBack readTerm term) (fuel : Nat) :
    readParts (fuel + 3) ⟨none, none, none⟩ (writtenMembers term) =
      .ok (⟨some (some "KAST"), some (some 2), some term⟩, []) := by
  have hfollows (rest : Text) : Json.FollowsValue (',' :: rest) := Json.followsValue_cons (by decide) rest
  rw [writtenMembers, readParts_comma (readPart_format rfl _ _),
    readParts_comma (readPart_term rfl hterm (hfollows _))]
  exact readParts_close rfl

/-- A term that is read back is read back from its envelope. -/
theorem ofText_text_ofTerm {term : Json} (hterm : Json.ReadsBack readTerm term) :
    ofText (ofTerm term).text = .ok ⟨some "KAST", some 2, term⟩ := by
  obtain ⟨fuel, hfuel⟩ : ∃ fuel, (writtenMembers term).length = fuel + 3 :=
    ⟨(writtenMembers term).length - 3, by simp [writtenMembers]; omega⟩
  have hparts := readParts_writtenMembers hterm fuel
  rw [← hfuel] at hparts
  have hobject : readObject (writtenMembers term) = .ok (⟨some "KAST", some 2, term⟩, []) := by
    obtain ⟨tail, htail⟩ : ∃ tail, writtenMembers term = '"' :: tail := ⟨_, rfl⟩
    have hquote : Json.OpensValue '"' := by decide
    rw [htail] at hparts ⊢
    unfold readObject
    rw [hquote.skipBlank_cons]
    split
    case h_1 heq => simp at heq
    case h_2 =>
      rw [hparts]
      rfl
  have hread : read ('{' :: writtenMembers term) = readObject (writtenMembers term) := rfl
  rw [text_ofTerm, ofText, hread, hobject]
  rfl

end KDispatch.Envelope

namespace KDispatch.Document

/-- The term of a document is ordered. -/
theorem isOrdered_of_read {fs : FileSystem} {path : String} {envelope : Envelope}
    (h : read fs path = .ok envelope) : envelope.term.IsOrdered := by
  unfold read at h
  split at h
  · contradiction
  · split at h
    · contradiction
    · cases h
      exact Envelope.isOrdered_of_ofText ‹_›

end KDispatch.Document

/-! ## Documents in files

A file holds what has been written to its path, and a document that has been written is read
back with its term, unless the path leads to a device or a pipe.
-/

namespace KDispatch

namespace FileSystem

variable {fs written : FileSystem} {path : String}

/-- Whether a path leads to a device or a pipe, which do not hold what is written to them. -/
def LeadsToDevice (fs : FileSystem) (path : String) : Prop :=
  ∃ location, fs.locateToCreate path = .ok location ∧
    (fs.node? location = some .fifo ∨ ∃ device, fs.node? location = some (.device device))

/-- Where a file can be created, there is an empty file then, or else a device or a pipe. -/
theorem content?_of_createAt {location : Location} {created : FileSystem} (h : fs.createAt location = .ok created)
    (hfifo : fs.node? location ≠ some .fifo) (hdevice : ∀ device, fs.node? location ≠ some (.device device)) :
    created.content? location = some [] := by
  rcases createAt_cases h with hempty | ⟨-, node, hnode, hnone⟩
  · exact hempty
  · unfold createAt at h
    cases node with
    | file content executable => simp [content?, hnode] at hnone
    | fifo => exact absurd hnode hfifo
    | device device => exact absurd hnode (hdevice device)
    | directory | link _ => simp [hnode] at h

/-- The bytes that have been written to a path are read at it. -/
theorem NamesReplaceable.contents?_of_write {bytes : Bytes} (hnames : fs.NamesReplaceable)
    (hplain : ¬ fs.LeadsToDevice path) (h : fs.write path bytes = .ok written) :
    written.contents? path = some bytes := by
  unfold write at h
  cases hcreate : fs.create path with
  | error cause => simp [hcreate] at h
  | ok created =>
    obtain ⟨location, created⟩ := created
    obtain ⟨hlocate, hat⟩ := create_eq_ok_iff.1 hcreate
    have hempty : created.content? location = some [] := content?_of_createAt hat
      (fun hfifo => hplain ⟨location, hlocate, .inl hfifo⟩)
      fun device hdevice => hplain ⟨location, hlocate, .inr ⟨device, hdevice⟩⟩
    obtain ⟨executable, hfile⟩ := content?_eq_some_iff.1 hempty
    rw [hcreate] at h
    simp only [hfile] at h
    obtain rfl := Except.ok.inj h
    -- neither creating the file nor writing to it moves what the path leads to
    have hcreated := sameBeside_createAt hnames hat
    have hreplaceable : created.NamesReplaceable :=
      hnames.of_sameBeside hcreated (shared_createAt hat)
    have hwritten := sameBeside_writeAt hreplaceable location 0 bytes
    refine contents?_of_locate (hwritten.locate_ok (hcreated.locate_ok (locate_of_locateToCreate hlocate))) ?_
    rw [content?_writeAt, hempty, Option.map_some, overwrite_zero, List.drop_nil, List.append_nil]

theorem contents?_of_write {bytes : Bytes} (hnames : fs.NamesAgree) (hplain : ¬ fs.LeadsToDevice path)
    (h : fs.write path bytes = .ok written) : written.contents? path = some bytes :=
  hnames.namesReplaceable.contents?_of_write hplain h

end FileSystem

namespace Document

variable {fs written : FileSystem} {path : String} {term : Json}

/-- A text that has been written to a path is read at it. -/
theorem readText_of_contents? {text : Text} (h : fs.contents? path = some (Utf8.encode text)) :
    fs.readText path = .ok text := by
  have hdecode : Utf8.decode? (Utf8.encode text) = some text := Utf8.decode?_eq_some_iff_encode.2 rfl
  unfold FileSystem.contents? at h
  unfold FileSystem.readText
  cases hread : fs.read path with
  | error cause => simp [hread, Except.toOption] at h
  | ok bytes =>
    obtain rfl : bytes = Utf8.encode text := by simpa [hread, Except.toOption] using h
    dsimp only
    rw [hdecode]

/-- A document that has been written is read back, with its term as it was, unless its path leads to a device or a
pipe: numbers are integers, and arrays and objects nest at most 126 deep. -/
theorem read_of_write (hnames : fs.NamesAgree) (hplain : ¬ fs.LeadsToDevice path) (hordered : term.IsOrdered)
    (hintegers : term.HasIntegers) (hdepth : term.NestsWithin 126) (h : write fs path term = .ok written) :
    read written path = .ok ⟨some "KAST", some 2, term⟩ := by
  have htext := readText_of_contents? (FileSystem.contents?_of_write hnames hplain h)
  have hterm : Json.ReadsBack Envelope.readTerm term := Json.readValue_text hdepth hintegers hordered
  rw [read, htext]
  dsimp only
  rw [Envelope.ofText_text_ofTerm hterm]

/-! A term with a control character in a string, and quotes and a backslash in a key. -/

def writtenTerm : Json :=
  .object [("a\"\\", .array [.number (.integer (-2 ^ 63)), .string "\x01é", .object []]),
    ("b", .number (.integer (2 ^ 64 - 1)))]

theorem isOrdered_writtenTerm : writtenTerm.IsOrdered := by
  simp [writtenTerm, Json.IsOrdered, Json.HasAscendingKeys]
  decide

theorem hasIntegers_writtenTerm : writtenTerm.HasIntegers := by
  simp [writtenTerm, Json.HasIntegers]

theorem nestsWithin_writtenTerm : writtenTerm.NestsWithin 126 := by
  have hdepth : writtenTerm.NestsWithin 3 := by
    simp [writtenTerm, Json.NestsWithin, Json.isContainer]
  exact hdepth.mono (by decide)

theorem read_of_write_writtenTerm :
    (FileSystem.ofNodes [] []).NamesAgree ∧ ¬ (FileSystem.ofNodes [] []).LeadsToDevice "doc" ∧
      writtenTerm.IsOrdered ∧ writtenTerm.HasIntegers ∧ writtenTerm.NestsWithin 126 ∧
      ∃ written, write (.ofNodes [] []) "doc" writtenTerm = .ok written ∧
        read written "doc" = .ok ⟨some "KAST", some 2, writtenTerm⟩ := by
  have hnames : (FileSystem.ofNodes [] []).NamesAgree := FileSystem.namesAgree_ofNodes _ _
  have hplain : ¬ (FileSystem.ofNodes [] []).LeadsToDevice "doc" := by
    rintro ⟨location, hlocate, hnode⟩
    obtain rfl : ["doc"] = location := Except.ok.inj hlocate
    rcases hnode with hfifo | ⟨device, hdevice⟩ <;> contradiction
  have hordered := isOrdered_writtenTerm
  have hintegers := hasIntegers_writtenTerm
  have hdepth := nestsWithin_writtenTerm
  have hwrite : write (.ofNodes [] []) "doc" writtenTerm = .ok _ := rfl
  exact ⟨hnames, hplain, hordered, hintegers, hdepth, _, hwrite,
    read_of_write hnames hplain hordered hintegers hdepth hwrite⟩

/-! A device takes a document, and nothing can be read from it. -/

def nullDeviceFiles : FileSystem :=
  .ofNodes [] [(["dev"], .directory), (["dev", "null"], .device .null)]

def variableTerm : Json := .object [("name", .string "X"), ("node", .string "KVariable")]

theorem device_keeps_no_document :
    variableTerm.IsOrdered ∧ variableTerm.HasIntegers ∧ variableTerm.NestsWithin 126 ∧
      write nullDeviceFiles "/dev/null" variableTerm = .ok nullDeviceFiles ∧
      read nullDeviceFiles "/dev/null" = .error (.invalid "/dev/null" .ended) := by
  refine ⟨?_, ?_, ?_, rfl, rfl⟩
  · simp [variableTerm, Json.IsOrdered, Json.HasAscendingKeys]
    decide
  · simp [variableTerm, Json.HasIntegers]
  · have hdepth : variableTerm.NestsWithin 1 := by
      simp [variableTerm, Json.NestsWithin, Json.isContainer]
    exact hdepth.mono (by decide)

end Document

end KDispatch
