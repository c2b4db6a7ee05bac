import ObjectStorage.Text.Number

/-!
# Dates and times in TOML

A moment is a date, a time of day, or both; both together may tell how far the clock is from
universal time.  Seconds may be missing, and of their decimals nine count.

* `Moment` — a date, a time of day, or both;
* `Moment.text` — the form in which moments are shown;
* `Moment.read?` — the moment that a word stands for;
* `Moment.isDate` — is a word a date alone?
-/

namespace ObjectStorage.Toml

/-- A day of the calendar. -/
structure Date where
  year : Nat
  month : Nat
  day : Nat
  deriving DecidableEq, Repr

/-- A time of day, with seconds and their billionths as far as they are told. -/
structure Clock where
  hour : Nat
  minute : Nat
  second : Option Nat
  nanos : Option Nat
  deriving DecidableEq, Repr

/-- A date, a time of day, or both. -/
inductive Moment
  | date (d : Date)
  | clock (c : Clock)
  | both (d : Date) (c : Clock)
  /-- With the minutes that the clock is ahead of universal time; none if it shows that time. -/
  | placed (d : Date) (c : Clock) (ahead : Option Int)
  deriving DecidableEq, Repr

/-- The number of days of a month. -/
def daysOf (year month : Nat) : Nat :=
  if month = 2 then (if year % 4 = 0 ∧ (year % 100 ≠ 0 ∨ year % 400 = 0) then 29 else 28)
  else if month = 4 ∨ month = 6 ∨ month = 9 ∨ month = 11 then 30 else 31

/-! ### Showing -/

/-- The form of a date. -/
def Date.text (d : Date) : String :=
  s!"{Text.padded 4 d.year}-{Text.padded 2 d.month}-{Text.padded 2 d.day}"

/-- The decimals of a second without the zeros at the end, of which one stays if there is nothing
else. -/
def decimals (nanos : Nat) : String :=
  let ds := ((Text.padded 9 nanos).toList.reverse.dropWhile (· = '0')).reverse
  String.ofList (if ds.isEmpty then ['0'] else ds)

/-- The form of a time of day. -/
def Clock.text (c : Clock) : String :=
  s!"{Text.padded 2 c.hour}:{Text.padded 2 c.minute}"
    ++ (match c.second with | some s => ":" ++ Text.padded 2 s | none => "")
    ++ (match c.nanos with | some n => "." ++ decimals n | none => "")

/-- The form of the distance from universal time. -/
def aheadText : Option Int → String
  | none => "Z"
  | some m => (if m < 0 then "-" else "+")
    ++ s!"{Text.padded 2 (m.natAbs / 60)}:{Text.padded 2 (m.natAbs % 60)}"

/-- The form of a moment. -/
def Moment.text : Moment → String
  | .date d => d.text
  | .clock c => c.text
  | .both d c => s!"{d.text}T{c.text}"
  | .placed d c ahead => s!"{d.text}T{c.text}{aheadText ahead}"

/-! ### Reading -/

/-- Read a number of exactly so many digits. -/
def fixed? (width : Nat) (cs : List Char) : Option (Nat × List Char) :=
  let ds := cs.takeWhile Char.isDigit
  if ds.length = width then (Text.digits? ds).map fun n => (n, cs.drop width) else none

/-- Read a date: four, two and two digits, of a day that exists. -/
def date? (cs : List Char) : Option (Date × List Char) := do
  let (year, cs) ← fixed? 4 cs
  let '-' :: cs := cs | none
  let (month, cs) ← fixed? 2 cs
  let '-' :: cs := cs | none
  let (day, cs) ← fixed? 2 cs
  if 1 ≤ month ∧ month ≤ 12 ∧ 1 ≤ day ∧ day ≤ daysOf year month then
    some (⟨year, month, day⟩, cs)
  else none

/-- The billionths of a second that decimals stand for; those after the ninth do not count. -/
def billionths (ds : List Char) : Nat :=
  let ds := ds.take 9
  (Text.digits? (ds ++ List.replicate (9 - ds.length) '0')).getD 0

/-- Read what may follow the minutes of a time: seconds with or without decimals. -/
def seconds? (cs : List Char) : Option (Option Nat × Option Nat × List Char) :=
  match cs with
  | ':' :: cs => do
    let (second, cs) ← fixed? 2 cs
    if 60 < second then none
    match cs with
    | '.' :: cs =>
      let ds := cs.takeWhile Char.isDigit
      if ds.isEmpty then none else some (some second, some (billionths ds), cs.drop ds.length)
    | cs => some (some second, none, cs)
  | cs => some (none, none, cs)

/-- Read hours and minutes. -/
def hourMinute? (cs : List Char) : Option (Nat × Nat × List Char) := do
  let (hour, cs) ← fixed? 2 cs
  let ':' :: cs := cs | none
  let (minute, cs) ← fixed? 2 cs
  if hour ≤ 23 ∧ minute ≤ 59 then some (hour, minute, cs) else none

/-- Read a time of day. -/
def clock? (cs : List Char) : Option (Clock × List Char) := do
  let (hour, minute, cs) ← hourMinute? cs
  let (second, nanos, cs) ← seconds? cs
  some (⟨hour, minute, second, nanos⟩, cs)

/-- Read the distance from universal time at the end of a word. -/
def ahead? : List Char → Option (Option Int)
  | ['Z'] | ['z'] => some none
  | '+' :: cs => do
    let (hour, minute, []) ← hourMinute? cs | none
    some (some (hour * 60 + minute : Nat))
  | '-' :: cs => do
    let (hour, minute, []) ← hourMinute? cs | none
    some (some (-(hour * 60 + minute : Nat)))
  | _ => none

/-- Does a character stand between a date and a time? -/
def joins (c : Char) : Bool := c = 'T' || c = 't' || c = ' '

/-- The moment that a word stands for. -/
def Moment.read? (cs : List Char) : Option Moment :=
  match date? cs with
  | some (d, []) => some (.date d)
  | some (d, c :: cs) => do
    if !joins c then none
    match ← clock? cs with
    | (t, []) => some (.both d t)
    | (t, cs) => do some (.placed d t (← ahead? cs))
  | none =>
    match clock? cs with
    | some (t, []) => some (.clock t)
    | _ => none

/-- Is a word a date alone? -/
def isDate (cs : List Char) : Bool :=
  match date? cs with
  | some (_, []) => true
  | _ => false

end ObjectStorage.Toml
