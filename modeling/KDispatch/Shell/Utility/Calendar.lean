import KDispatch.Shell.Number

/-!
Days, times and how they are written. Times are counted in seconds since the first day of 1970, and all
clocks show the time of Greenwich.
-/

namespace KDispatch.Shell.Calendar

/-- A day of the calendar. -/
structure Day where
  year : Int
  month : Nat
  day : Nat

/-- How many days come before a day since the first day of 1970. -/
def Day.number (d : Day) : Int :=
  let year := if d.month ≤ 2 then d.year - 1 else d.year
  let era := year.fdiv 400
  let yearOfEra := year - era * 400
  let shifted : Int := if 2 < d.month then d.month - 3 else d.month + 9
  let dayOfYear := (153 * shifted + 2).fdiv 5 + d.day - 1
  let dayOfEra := yearOfEra * 365 + yearOfEra.fdiv 4 - yearOfEra.fdiv 100 + dayOfYear
  era * 146097 + dayOfEra - 719468

/-- The day with so many days before it. -/
def Day.ofNumber (n : Int) : Day :=
  let z := n + 719468
  let era := z.fdiv 146097
  let dayOfEra := z - era * 146097
  let yearOfEra :=
    (dayOfEra - dayOfEra.fdiv 1460 + dayOfEra.fdiv 36524 - dayOfEra.fdiv 146096).fdiv 365
  let dayOfYear := dayOfEra - (365 * yearOfEra + yearOfEra.fdiv 4 - yearOfEra.fdiv 100)
  let shifted := (5 * dayOfYear + 2).fdiv 153
  let day := dayOfYear - (153 * shifted + 2).fdiv 5 + 1
  let month := if shifted < 10 then shifted + 3 else shifted - 9
  let year := yearOfEra + era * 400 + (if month ≤ 2 then 1 else 0)
  ⟨year, month.toNat, day.toNat⟩

/-- A moment as clocks show it. -/
structure Moment where
  day : Day
  seconds : Nat

def Moment.ofSeconds (n : Int) : Moment := ⟨Day.ofNumber (n.fdiv 86400), (n.fmod 86400).toNat⟩

def Moment.toSeconds (m : Moment) : Int := m.day.number * 86400 + m.seconds

/-- The day of the week, from Sunday on. -/
def weekday (n : Int) : Nat := ((n.fdiv 86400 + 4).fmod 7).toNat

def weekdayNames : List String :=
  ["Sunday", "Monday", "Tuesday", "Wednesday", "Thursday", "Friday", "Saturday"]

def monthNames : List String :=
  ["January", "February", "March", "April", "May", "June", "July", "August", "September", "October",
    "November", "December"]

/-- A number with at least so many digits. -/
def digits (width : Nat) (fill : Char) (n : Int) : Text :=
  let text := Number.decimal n.natAbs
  (if n < 0 then ['-'] else []) ++ List.replicate (width - text.length) fill ++ text

/-- The number of the week in a year whose weeks begin with a day of the week. -/
def weekOfYear (first dayOfYear weekday : Nat) : Nat := (dayOfYear + 7 - (weekday + 7 - first) % 7) / 7

/-- The year and the number of the week by the rule that a week belongs to the year of its Thursday. -/
def thursdayWeek (seconds : Int) : Int × Nat :=
  let number := seconds.fdiv 86400
  let monday := ((weekday seconds + 6) % 7 : Nat)
  let thursday := Day.ofNumber (number - monday + 3)
  let first := Day.number ⟨thursday.year, 1, 1⟩
  (thursday.year, ((thursday.number - first) / 7 + 1).toNat)

/-- What a letter behind a percent sign stands for. -/
def field (seconds : Int) (nanoseconds : Nat) (letter : Char) : Option Text :=
  let m := Moment.ofSeconds seconds
  let hour := m.seconds / 3600
  let minute := m.seconds / 60 % 60
  let second := m.seconds % 60
  let two (n : Int) : Text := digits 2 '0' n
  let dayOfYear := (m.day.number - Day.number ⟨m.day.year, 1, 1⟩).toNat
  let name (names : List String) (n : Nat) : Text := (names.getD n "").toList
  let clock := two hour ++ ':' :: two minute ++ ':' :: two second
  let hour12 := if hour % 12 = 0 then 12 else hour % 12
  match letter with
  | 'Y' => some (Number.decimal m.day.year)
  | 'C' => some (two (m.day.year / 100))
  | 'y' => some (two (m.day.year % 100))
  | 'm' => some (two m.day.month)
  | 'd' => some (two m.day.day)
  | 'e' => some (digits 2 ' ' m.day.day)
  | 'H' => some (two hour)
  | 'k' => some (digits 2 ' ' hour)
  | 'I' => some (two hour12)
  | 'l' => some (digits 2 ' ' hour12)
  | 'M' => some (two minute)
  | 'S' => some (two second)
  | 'N' => some (digits 9 '0' nanoseconds)
  | 's' => some (Number.decimal seconds)
  | 'j' => some (digits 3 '0' (dayOfYear + 1))
  | 'a' => some ((name weekdayNames (weekday seconds)).take 3)
  | 'A' => some (name weekdayNames (weekday seconds))
  | 'b' | 'h' => some ((name monthNames (m.day.month - 1)).take 3)
  | 'B' => some (name monthNames (m.day.month - 1))
  | 'u' => some (Number.decimal (if weekday seconds = 0 then 7 else weekday seconds))
  | 'w' => some (Number.decimal (weekday seconds))
  | 'U' => some (two (weekOfYear 0 dayOfYear (weekday seconds)))
  | 'W' => some (two (weekOfYear 1 dayOfYear (weekday seconds)))
  | 'V' => some (two (thursdayWeek seconds).2)
  | 'G' => some (Number.decimal (thursdayWeek seconds).1)
  | 'g' => some (two ((thursdayWeek seconds).1 % 100))
  | 'p' => some (if hour < 12 then "AM" else "PM").toList
  | 'P' => some (if hour < 12 then "am" else "pm").toList
  | 'q' => some (Number.decimal ((m.day.month - 1) / 3 + 1))
  | 'F' => some (Number.decimal m.day.year ++ '-' :: two m.day.month ++ '-' :: two m.day.day)
  | 'T' | 'X' => some clock
  | 'R' => some (two hour ++ ':' :: two minute)
  | 'r' => some (two hour12 ++ ':' :: two minute ++ ':' :: two second ++
      (if hour < 12 then " AM" else " PM").toList)
  | 'D' | 'x' => some (two m.day.month ++ '/' :: two m.day.day ++ '/' :: two (m.day.year % 100))
  | 'c' => some ((name weekdayNames (weekday seconds)).take 3 ++ ' ' ::
      (name monthNames (m.day.month - 1)).take 3 ++ ' ' :: digits 2 ' ' m.day.day ++
      ' ' :: clock ++ ' ' :: Number.decimal m.day.year)
  | 'z' => some "+0000".toList
  | 'Z' => some "UTC".toList
  | 'n' => some ['\n']
  | 't' => some ['\t']
  | '%' => some ['%']
  | _ => none

/-- The fill and the width that flags behind a percent sign ask for. -/
structure Adjustment where
  fill : Option Char
  upper : Bool
  width : Option Nat

/-- The usual fill and width of a field of digits. -/
def usualWidth? (letter : Char) : Option (Char × Nat) :=
  if "CymdHIMSUWVg".toList.contains letter then some ('0', 2)
  else if "ekl".toList.contains letter then some (' ', 2)
  else if letter = 'j' then some ('0', 3)
  else if letter = 'N' then some ('0', 9)
  else if "YGsuwq".toList.contains letter then some ('0', 1)
  else none

/-- A field with other fill and width. -/
def adjusted (adjustment : Adjustment) (letter : Char) (text : Text) : Text :=
  let text := if adjustment.upper then text.map Char.toUpper else text
  match usualWidth? letter with
  | some (fill, width) =>
    if adjustment.fill.isNone && adjustment.width.isNone then text
    else if letter = 'N' then
      match adjustment.width with
      | some width => text.take width ++ List.replicate (width - 9) '0'
      | none => if adjustment.fill = some '-' then text else text
    else
      let bare := match text.dropWhile fun c => c = '0' || c = ' ' with
        | [] => ['0']
        | bare => bare
      if adjustment.fill = some '-' then bare
      else
        let fill := adjustment.fill.getD fill
        List.replicate (adjustment.width.getD width - bare.length) fill ++ bare
  | none =>
    let fill := if adjustment.fill = some '0' then '0' else ' '
    List.replicate (adjustment.width.getD 0 - text.length) fill ++ text

/-- The flags at the start of a text, and the text after them. -/
def flags : Text → Adjustment → Adjustment × Text
  | '-' :: rest, a => flags rest { a with fill := some '-' }
  | '_' :: rest, a => flags rest { a with fill := some ' ' }
  | '0' :: rest, a => flags rest { a with fill := some '0' }
  | '^' :: rest, a => flags rest { a with upper := true }
  | '#' :: rest, a => flags rest { a with upper := true }
  | rest, a =>
    match Number.digits 10 rest 0 0 with
    | (_, 0, rest) => (a, rest)
    | (n, _, rest) => ({ a with width := some n }, rest)

/-- A moment as a format tells it. -/
def format (seconds : Int) (nanoseconds : Nat) : (fuel : Nat) → Text → Text
  | 0, text => text
  | _ + 1, [] => []
  | fuel + 1, '%' :: rest =>
    let (adjustment, after) := flags rest ⟨none, false, none⟩
    let colons := (after.takeWhile (· = ':')).length
    match after.drop colons with
    | [] => '%' :: rest
    | letter :: after =>
      let zone : Option Text :=
        if letter = 'z' && 0 < colons then
          some (if colons = 1 then "+00:00" else if colons = 2 then "+00:00:00" else "+00").toList
        else none
      match zone.or (field seconds nanoseconds letter) with
      | some text => adjusted adjustment letter text ++ format seconds nanoseconds fuel after
      | none => '%' :: rest.take (rest.length - after.length) ++ format seconds nanoseconds fuel after
  | fuel + 1, c :: rest => c :: format seconds nanoseconds fuel rest

/-- A moment as a format tells it. -/
def formatted (seconds : Int) (nanoseconds : Nat) (text : Text) : Text :=
  format seconds nanoseconds (text.length + 1) text

/-! Reading moments. -/

/-- What is known of a moment while it is read. -/
structure Reading where
  /-- The moment, in nanoseconds. -/
  time : Int
  hasDay : Bool
  hasClock : Bool

/-- The words of a text: numbers, words of letters, and single signs. -/
def tokens : (fuel : Nat) → Text → List Text
  | 0, _ => []
  | _ + 1, [] => []
  | fuel + 1, c :: rest =>
    if Number.isSpace c || c = ',' then tokens fuel rest
    else if c.isDigit then
      let word := (c :: rest).takeWhile Char.isDigit
      word :: tokens fuel ((c :: rest).drop word.length)
    else if c.isAlpha then
      let word := (c :: rest).takeWhile Char.isAlpha
      word.map Char.toLower :: tokens fuel ((c :: rest).drop word.length)
    else [c] :: tokens fuel rest

def value (digits : Text) : Nat := (Number.digits 10 digits 0 0).1

def isNumber (word : Text) : Bool := !word.isEmpty && word.all Char.isDigit

/-- The place of a name in a list of which the first three letters are enough. -/
def placeOf? (names : List String) (word : Text) : Option Nat :=
  names.findIdx? fun name =>
    let name := name.toList.map Char.toLower
    3 ≤ word.length && word.isPrefixOf name && (word.length = 3 || word = name)

def nanosecond : Int := 1000000000

/-- Seconds in a unit of time of fixed length. -/
def unitSeconds? (word : Text) : Option Int :=
  let word := if 3 < word.length && word.getLast? = some 's' then word.dropLast else word
  match String.ofList word with
  | "sec" | "second" => some 1
  | "min" | "minute" => some 60
  | "hour" => some 3600
  | "day" => some 86400
  | "week" => some 604800
  | "fortnight" => some 1209600
  | _ => none

/-- Months in a unit of time of changing length. -/
def unitMonths? (word : Text) : Option Int :=
  let word := if 3 < word.length && word.getLast? = some 's' then word.dropLast else word
  match String.ofList word with
  | "month" => some 1
  | "year" => some 12
  | _ => none

/-- A time moved by months. -/
def addMonths (time : Int) (months : Int) : Int :=
  let m := Moment.ofSeconds (time.fdiv nanosecond)
  let count := m.day.year * 12 + (m.day.month - 1) + months
  let next : Moment := ⟨⟨count.fdiv 12, (count.fmod 12).toNat + 1, m.day.day⟩, m.seconds⟩
  next.toSeconds * nanosecond + time.fmod nanosecond

/-- A time moved by a number of units. -/
def moved? (time : Int) (count : Int) (unit : Text) : Option Int :=
  match unitSeconds? unit, unitMonths? unit with
  | some seconds, _ => some (time + count * seconds * nanosecond)
  | none, some months => some (addMonths time (count * months))
  | none, none => none

/-- A time on another day. -/
def withDay (r : Reading) (day : Day) : Reading :=
  let clock := if r.hasClock then r.time.fmod (86400 * nanosecond) else 0
  { r with time := day.number * 86400 * nanosecond + clock, hasDay := true }

/-- A time with another clock. -/
def withClock (r : Reading) (nanoseconds : Int) : Reading :=
  let day := r.time.fdiv (86400 * nanosecond)
  { r with time := day * 86400 * nanosecond + nanoseconds, hasClock := true }

/-- Whether a day is on the calendar. -/
def isDay (month day : Nat) : Bool := 1 ≤ month && month ≤ 12 && 1 ≤ day && day ≤ 31

/-- The clock that tokens begin with, in nanoseconds, and the tokens after it. -/
def clock? : List Text → Option (Int × List Text)
  | hour :: [':'] :: minute :: rest =>
    if isNumber hour && isNumber minute && value hour < 24 && value minute < 60 then
      let base : Int := (value hour * 3600 + value minute * 60 : Nat)
      match rest with
      | [':'] :: second :: rest =>
        if isNumber second && value second < 61 then
          match rest with
          | ['.'] :: fraction :: rest =>
            if isNumber fraction then
              let nine := (fraction ++ List.replicate 9 '0').take 9
              some ((base + value second) * nanosecond + value nine, rest)
            else none
          | rest => some ((base + value second) * nanosecond, rest)
        else none
      | rest => some (base * nanosecond, rest)
    else none
  | _ => none

/-- The moment that tokens tell, given what is known already. -/
def readTokens (now : Int) : (fuel : Nat) → List Text → Reading → Option Reading
  | 0, _, _ => none
  | _ + 1, [], r => some r
  | fuel + 1, tokens, r =>
    let go (rest : List Text) (r : Reading) : Option Reading := readTokens now fuel rest r
    let relative (sign : Int) (count unit : Text) (rest : List Text) : Option Reading :=
      let (sign, rest) := if rest.head? = some "ago".toList then (-sign, rest.drop 1) else (sign, rest)
      (moved? r.time (sign * value count) unit).bind fun time => go rest { r with time }
    let isUnit (word : Text) : Bool := (unitSeconds? word).isSome || (unitMonths? word).isSome
    match clock? tokens with
    | some (clock, rest) => go rest (withClock r clock)
    | none =>
      match tokens with
      | ['@'] :: ['-'] :: n :: rest =>
        if isNumber n then go rest ⟨-(value n : Int) * nanosecond, true, true⟩ else none
      | ['@'] :: n :: ['.'] :: fraction :: rest =>
        if isNumber n && isNumber fraction then
          go rest ⟨value n * nanosecond + value ((fraction ++ List.replicate 9 '0').take 9), true, true⟩
        else none
      | ['@'] :: n :: rest => if isNumber n then go rest ⟨value n * nanosecond, true, true⟩ else none
      | year :: ['-'] :: month :: ['-'] :: day :: rest =>
        if isNumber year && isNumber month && isNumber day && isDay (value month) (value day) then
          go rest (withDay r ⟨value year, value month, value day⟩)
        else none
      | first :: ['/'] :: second :: ['/'] :: third :: rest =>
        if !(isNumber first && isNumber second && isNumber third) then none
        else if first.length = 4 && isDay (value second) (value third) then
          go rest (withDay r ⟨value first, value second, value third⟩)
        else if isDay (value first) (value second) then
          let year := value third
          let year := if third.length ≤ 2 then (if year < 69 then 2000 + year else 1900 + year) else year
          go rest (withDay r ⟨year, value first, value second⟩)
        else none
      | ['+'] :: count :: unit :: rest =>
        if isNumber count && isUnit unit then relative 1 count unit rest
        else if isNumber count && r.hasClock then zone r 1 count (unit :: rest) go else none
      | ['-'] :: count :: unit :: rest =>
        if isNumber count && isUnit unit then relative (-1) count unit rest
        else if isNumber count && r.hasClock then zone r (-1) count (unit :: rest) go else none
      | [['+'], count] => if isNumber count && r.hasClock then zone r 1 count [] go else none
      | [['-'], count] => if isNumber count && r.hasClock then zone r (-1) count [] go else none
      | word :: rest =>
        if isNumber word then
          match rest with
          | next :: more =>
            if isUnit next then relative 1 word next more
            else
              match placeOf? monthNames next with
              | some month =>
                match more with
                | year :: more =>
                  if isNumber year && year.length = 4 && !(more.head? = some [':']) then
                    go more (withDay r ⟨value year, month + 1, value word⟩)
                  else go (year :: more) (withDay r ⟨thisYear, month + 1, value word⟩)
                | [] => go [] (withDay r ⟨thisYear, month + 1, value word⟩)
              | none => compact word rest r go
          | [] => compact word [] r go
        else
          match String.ofList word with
          | "now" => go rest r
          | "today" => go rest r
          | "yesterday" => go rest { r with time := r.time - 86400 * nanosecond }
          | "tomorrow" => go rest { r with time := r.time + 86400 * nanosecond }
          | "midnight" => go rest (withClock r 0)
          | "noon" => go rest (withClock r (43200 * nanosecond))
          | "utc" | "gmt" | "z" | "t" | "at" => go rest r
          | "am" => go rest r
          | "pm" => go rest { r with time := r.time + 43200 * nanosecond }
          | "next" =>
            match rest with
            | unit :: rest => if isUnit unit then relative 1 ['1'] unit rest else none
            | [] => none
          | "last" =>
            match rest with
            | unit :: rest => if isUnit unit then relative (-1) ['1'] unit rest else none
            | [] => none
          | _ =>
            if isUnit word then relative 1 ['1'] word rest
            else
              match placeOf? monthNames word, placeOf? weekdayNames word with
              | some month, _ =>
                match rest with
                | day :: year :: rest =>
                  if isNumber day && isNumber year && year.length = 4 && !(rest.head? = some [':']) then
                    go rest (withDay r ⟨value year, month + 1, value day⟩)
                  else if isNumber day then go (year :: rest) (withDay r ⟨thisYear, month + 1, value day⟩)
                  else none
                | [day] =>
                  if isNumber day then go [] (withDay r ⟨thisYear, month + 1, value day⟩) else none
                | [] => none
              | none, some weekdayPlace =>
                if r.hasDay then go rest r
                else
                  let today := weekday (r.time.fdiv nanosecond)
                  let ahead : Int := ((weekdayPlace + 7 - today) % 7 : Nat)
                  go rest (withDay r (Day.ofNumber (r.time.fdiv (86400 * nanosecond) + ahead)))
              | none, none => none
      | [] => some r
where
  thisYear : Int := (Moment.ofSeconds (now.fdiv nanosecond)).day.year
  /-- A zone behind a clock. -/
  zone (r : Reading) (sign : Int) (digits : Text) (rest : List Text)
      (go : List Text → Reading → Option Reading) : Option Reading :=
    let (hours, minutes, rest) : Nat × Nat × List Text :=
      if 2 < digits.length then (value digits / 100, value digits % 100, rest)
      else
        match rest with
        | [':'] :: minutes :: rest => (value digits, value minutes, rest)
        | rest => (value digits, 0, rest)
    go rest { r with time := r.time - sign * (hours * 3600 + minutes * 60 : Nat) * nanosecond }
  /-- A day or a clock written with digits alone. -/
  compact (word : Text) (rest : List Text) (r : Reading)
      (go : List Text → Reading → Option Reading) : Option Reading :=
    let n := value word
    if word.length = 8 && isDay (n / 100 % 100) (n % 100) then
      go rest (withDay r ⟨n / 10000, n / 100 % 100, n % 100⟩)
    else if word.length = 4 && n / 100 < 24 && n % 100 < 60 then
      go rest (withClock r ((n / 100 * 3600 + n % 100 * 60 : Nat) * nanosecond))
    else if word.length ≤ 2 && n < 24 then go rest (withClock r ((n * 3600 : Nat) * nanosecond))
    else none

/-- The time that a text tells, in nanoseconds; `now` is the time at which it is read. -/
def read? (now : Int) (text : Text) : Option Int :=
  let tokens := tokens (text.length + 1) text
  if tokens.isEmpty then
    some (now.fdiv (86400 * nanosecond) * 86400 * nanosecond)
  else (readTokens now (tokens.length + 2) tokens ⟨now, false, false⟩).map (·.time)

/-- The time that digits tell as month, day, hour and minute, with a year before them and seconds behind
them if they are given. -/
def ofStamp? (now : Int) (text : Text) : Option Int :=
  let digits := text.takeWhile (· ≠ '.')
  let second := (text.drop digits.length).drop 1
  if !digits.all Char.isDigit || !second.all Char.isDigit then none
  else
    let thisYear := (Moment.ofSeconds (now.fdiv nanosecond)).day.year
    let year? : Option Int :=
      match digits.length with
      | 8 => some thisYear
      | 10 =>
        let n := value (digits.take 2)
        some (if n < 69 then 2000 + n else 1900 + n)
      | 12 => some (value (digits.take 4))
      | _ => none
    year?.bind fun year =>
      let n := value (digits.drop (digits.length - 8))
      let (month, day, hour, minute) := (n / 1000000, n / 10000 % 100, n / 100 % 100, n % 100)
      if isDay month day && hour < 24 && minute < 60 then
        let m : Moment := ⟨⟨year, month, day⟩, hour * 3600 + minute * 60 + value second⟩
        some (m.toSeconds * nanosecond)
      else none

end KDispatch.Shell.Calendar
