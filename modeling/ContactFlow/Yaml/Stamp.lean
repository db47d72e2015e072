import ContactFlow.Value.Display

/-!
Days and moments in YAML texts: a day as year, month and day, and a moment as a day with a time and
perhaps a distance from universal time.
-/

namespace ContactFlow.Yaml

/-- The parts of a stamp as they are written. -/
structure StampText where
  year : Nat
  month : Nat
  day : Nat
  time : Option (Nat × Nat × Nat × List Char) := none
  zone : Option Int := none
  deriving Repr, Inhabited

namespace StampText

def number (cs : List Char) : Nat := cs.foldl (fun n c => 10 * n + (c.toNat - '0'.toNat)) 0

/-- Between `least` and `most` digits. -/
def digits? (least most : Nat) (cs : List Char) : Option (List Char × List Char) :=
  let ds := (cs.take most).takeWhile Char.isDigit
  if ds.length < least then none else some (ds, cs.drop ds.length)

def char? (c : Char) : List Char → Option (List Char)
  | d :: rest => if c == d then some rest else none
  | [] => none

def isGap (c : Char) : Bool := c == ' ' || c == '\t'

/-- What parts the day from the time: the letter T or blanks. -/
def timeMark? (cs : List Char) : Option (List Char) :=
  match cs with
  | 'T' :: rest | 't' :: rest => some rest
  | c :: _ => if isGap c then some (cs.dropWhile isGap) else none
  | [] => none

def zone? (cs : List Char) : Option (Option Int) :=
  match cs.dropWhile isGap with
  | [] => if cs.isEmpty then some none else none
  | ['Z'] => some (some 0)
  | sign :: rest => do
    guard (sign == '+' || sign == '-')
    let (hours, rest) ← digits? 1 2 rest
    let minutes ← match rest with
      | [] => some 0
      | ':' :: rest => do
        let (minutes, rest) ← digits? 2 2 rest
        guard rest.isEmpty
        pure (number minutes)
      | _ => none
    let seconds : Int := (number hours * 60 + minutes) * 60
    pure (some (if sign == '-' then -seconds else seconds))

def time? (cs : List Char) : Option ((Nat × Nat × Nat × List Char) × Option Int) := do
  let (hour, cs) ← digits? 1 2 cs
  let (minute, cs) ← digits? 2 2 (← char? ':' cs)
  let (second, cs) ← digits? 2 2 (← char? ':' cs)
  let (fraction, cs) := match cs with
    | '.' :: rest => (rest.takeWhile Char.isDigit, rest.dropWhile Char.isDigit)
    | _ => ([], cs)
  let zone ← zone? cs
  pure ((number hour, number minute, number second, fraction), zone)

/-- Reads a stamp. The month and the day have one or two digits each. -/
def read? (cs : List Char) : Option StampText := do
  let (year, rest) ← digits? 4 4 cs
  let (month, rest) ← digits? 1 2 (← char? '-' rest)
  let (day, rest) ← digits? 1 2 (← char? '-' rest)
  match rest with
  | [] => pure { year := number year, month := number month, day := number day }
  | _ =>
    let (time, zone) ← time? (← timeMark? rest)
    pure ⟨number year, number month, number day, some time, zone⟩

/-- A text is a stamp by itself when the month and the day of one without a time have two digits
each, so that ten characters are all there is. -/
def isPlain (cs : List Char) : Bool := (read? cs).any fun t => t.time.isSome || cs.length == 10

def isLeap (year : Nat) : Bool := year % 4 == 0 && (year % 100 != 0 || year % 400 == 0)

def daysIn (year month : Nat) : Nat :=
  if month = 2 then (if isLeap year then 29 else 28)
  else if month = 4 || month = 6 || month = 9 || month = 11 then 30
  else 31

def checkDay (s : StampText) : Except String Unit :=
  if s.year = 0 then .error "year 0 is out of range"
  else if s.month < 1 || 12 < s.month then .error "month must be in 1..12"
  else if s.day < 1 || daysIn s.year s.month < s.day then .error "day is out of range for month"
  else .ok ()

def checkTime (hour minute second : Nat) : Except String Unit :=
  if 23 < hour then .error "hour must be in 0..23"
  else if 59 < minute then .error "minute must be in 0..59"
  else if 59 < second then .error "second must be in 0..59"
  else .ok ()

def secondsInDay : Int := 86400

def checkZone : Option Int → Except String Unit
  | none => .ok ()
  | some offset =>
    if -secondsInDay < offset && offset < secondsInDay then .ok ()
    else .error ("offset must be a timedelta strictly between -timedelta(hours=24) and " ++
      "timedelta(hours=24), not " ++ Stamp.spanText offset ++ ".")

/-- Millionths of a second. Further digits do not count. -/
def micro (fraction : List Char) : Nat :=
  number (fraction.take 6) * Nat.pow 10 (6 - (fraction.take 6).length)

/-- The day or moment, or what is wrong with it. -/
def stamp (s : StampText) : Except String Stamp :=
  match s.time with
  | none => do
    s.checkDay
    pure (.day s.year s.month s.day)
  | some (hour, minute, second, fraction) => do
    checkZone s.zone
    s.checkDay
    checkTime hour minute second
    pure (.moment s.year s.month s.day hour minute second (micro fraction) s.zone)

end StampText

end ContactFlow.Yaml
