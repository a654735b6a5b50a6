/-!
Dates and times of day, as a configuration file may hold them: together or one of them alone, and
together perhaps with the distance from universal time.
-/

namespace EndpointInference.Toml

structure Date where
  year : Nat
  month : Nat
  day : Nat
deriving DecidableEq, Repr

/-- A time of day; the last minute may have a second more. -/
structure Clock where
  hour : Nat
  minute : Nat
  second : Nat
  nanosecond : Nat := 0
deriving DecidableEq, Repr

inductive Offset
  | universal
  | minutes (distance : Int)
deriving DecidableEq, Repr

structure Moment where
  date : Option Date := none
  clock : Option Clock := none
  offset : Option Offset := none
deriving DecidableEq, Repr

/-! ### Reading -/

abbrev Reader (α : Type) := List Char → Option (α × List Char)

def digits (count : Nat) : Reader Nat := fun cs =>
  let taken := cs.take count
  if taken.length == count && taken.all Char.isDigit then
    some (taken.foldl (fun value c => value * 10 + (c.toNat - '0'.toNat)) 0, cs.drop count)
  else none

def pair (least greatest : Nat) : Reader Nat := fun cs => do
  let (value, rest) ← digits 2 cs
  if least ≤ value && value ≤ greatest then some (value, rest) else none

def mark (c : Char) : Reader Unit
  | first :: rest => if first == c then some ((), rest) else none
  | [] => none

def isLeapYear (year : Nat) : Bool :=
  year % 4 == 0 && (year % 100 != 0 || year % 400 == 0)

def daysIn (year month : Nat) : Nat :=
  if month == 2 then if isLeapYear year then 29 else 28
  else if [4, 6, 9, 11].contains month then 30
  else 31

def Date.read : Reader Date := fun cs => do
  let (year, cs) ← digits 4 cs
  let (_, cs) ← mark '-' cs
  let (month, cs) ← pair 1 12 cs
  let (_, cs) ← mark '-' cs
  let (day, cs) ← pair 1 31 cs
  if day ≤ daysIn year month then some (⟨year, month, day⟩, cs) else none

/-- The nanoseconds of a fraction; digits behind the ninth are left out. -/
def nanoseconds (fraction : List Char) : Nat :=
  (fraction.take 9 ++ List.replicate (9 - fraction.length) '0').foldl
    (fun value c => value * 10 + (c.toNat - '0'.toNat)) 0

def readFraction (cs : List Char) : Nat × List Char :=
  match cs with
  | '.' :: rest =>
    let fraction := rest.takeWhile Char.isDigit
    if fraction.isEmpty then (0, cs) else (nanoseconds fraction, rest.dropWhile Char.isDigit)
  | cs => (0, cs)

def Clock.read (lastHour : Nat) : Reader Clock := fun cs => do
  let (hour, cs) ← pair 0 lastHour cs
  let (_, cs) ← mark ':' cs
  let (minute, cs) ← pair 0 59 cs
  let (_, cs) ← mark ':' cs
  let (second, cs) ← pair 0 60 cs
  let (nanosecond, cs) := readFraction cs
  some (⟨hour, minute, second, nanosecond⟩, cs)

def Offset.read : Reader Offset
  | [] => none
  | c :: cs =>
    if c == 'Z' || c == 'z' then some (.universal, cs)
    else if c == '+' || c == '-' then do
      let (hour, cs) ← pair 0 23 cs
      let (_, cs) ← mark ':' cs
      let (minute, cs) ← pair 0 59 cs
      let distance : Int := hour * 60 + minute
      some (.minutes (if c == '-' then -distance else distance), cs)
    else none

def readBehindDate : Reader (Clock × Option Offset)
  | [] => none
  | c :: cs =>
    if c == 'T' || c == 't' || c == ' ' then do
      let (clock, cs) ← Clock.read 23 cs
      match Offset.read cs with
      | some (offset, cs) => some ((clock, some offset), cs)
      | none => some ((clock, none), cs)
    else none

def Moment.read : Reader Moment := fun cs =>
  match Date.read cs with
  | some (date, cs) =>
    match readBehindDate cs with
    | some ((clock, offset), cs) => some (⟨some date, some clock, offset⟩, cs)
    | none => some ({ date := some date }, cs)
  | none => (Clock.read 23 cs).map fun (clock, cs) => ({ clock := some clock }, cs)

/-! ### Moments that are texts

A text is read more loosely than a value in a file: an hour may be the twenty-fourth, and an offset
any distance up to a day. -/

def Offset.readLoosely : Reader Offset
  | [] => none
  | c :: cs =>
    if c == 'Z' || c == 'z' then some (.universal, cs)
    else if c == '+' || c == '-' then do
      let (hour, cs) ← digits 2 cs
      let (_, cs) ← mark ':' cs
      let (minute, cs) ← digits 2 cs
      let distance : Int := hour * 60 + minute
      if distance ≤ 24 * 60 then
        some (.minutes (if c == '-' then -distance else distance), cs)
      else none
    else none

/-- A time of day behind a date, and its offset, if the text does not end before it. -/
def Clock.ofTextBehind? (date : Date) (cs : List Char) : Option Moment := do
  let (clock, cs) ← Clock.read 24 cs
  if cs.isEmpty then
    some { date := some date, clock := some clock }
  else do
    let (offset, cs) ← Offset.readLoosely cs
    if cs.isEmpty then some ⟨some date, some clock, some offset⟩ else none

/-- The moment that a text says: a time of day alone, if its third character is a colon. -/
def Moment.ofText? (text : String) : Option Moment :=
  let cs := text.toList
  if cs[2]? == some ':' then do
    let (clock, cs) ← Clock.read 24 cs
    if cs.isEmpty then some { clock := some clock } else none
  else do
    let (date, cs) ← Date.read cs
    match cs with
    | [] => some { date := some date }
    | c :: cs =>
      if c == 'T' || c == 't' || c == ' ' then Clock.ofTextBehind? date cs else none

/-! ### Writing -/

def padded (width value : Nat) : String :=
  let digits := Nat.toDigits 10 value
  String.ofList (List.replicate (width - digits.length) '0' ++ digits)

def Date.text (date : Date) : String :=
  padded 4 date.year ++ "-" ++ padded 2 date.month ++ "-" ++ padded 2 date.day

def fractionText (nanosecond : Nat) : String :=
  if nanosecond == 0 then ""
  else "." ++ String.ofList ((padded 9 nanosecond).toList.reverse.dropWhile (· == '0')).reverse

def Clock.text (clock : Clock) : String :=
  padded 2 clock.hour ++ ":" ++ padded 2 clock.minute ++ ":" ++ padded 2 clock.second ++
    fractionText clock.nanosecond

def Offset.text : Offset → String
  | universal => "Z"
  | minutes distance =>
    (if distance < 0 then "-" else "+") ++ padded 2 (distance.natAbs / 60) ++ ":" ++
      padded 2 (distance.natAbs % 60)

def Moment.text (moment : Moment) : String :=
  (moment.date.map Date.text).getD "" ++
    (if moment.date.isSome && moment.clock.isSome then "T" else "") ++
    (moment.clock.map Clock.text).getD "" ++ (moment.offset.map Offset.text).getD ""

end EndpointInference.Toml
