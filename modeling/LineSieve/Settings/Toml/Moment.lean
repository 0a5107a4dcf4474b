import LineSieve.Settings.Number

/-!
# Dates and times

Moments as TOML files write them: a date, a time of day, or both, and then also with an offset.

* `Moment.read?`: reads a moment.
* `Moment.render`: its one written form.
-/

namespace LineSieve.Settings.Toml

structure Date where
  year : Nat
  month : Nat
  day : Nat

structure TimeOfDay where
  hour : Nat
  minute : Nat
  second : Option Nat
  nanosecond : Nat

/-- An offset in minutes; `zulu` is written `Z`. -/
inductive Offset where
  | zulu
  | minutes (negative : Bool) (n : Nat)

structure Moment where
  date : Option Date
  time : Option TimeOfDay
  offset : Option Offset

namespace Moment

/-- The number of exactly `n` digits, and what follows them. -/
def digits? (n : Nat) (cs : List Char) : Option (Nat × List Char) :=
  let digits := cs.take n
  if digits.length = n && digits.all Char.isDigit then some (Number.natOf digits, cs.drop n)
  else none

def isLeap (year : Nat) : Bool := year % 4 = 0 && (year % 100 ≠ 0 || year % 400 = 0)

def daysOf (year month : Nat) : Nat :=
  if month = 2 then if isLeap year then 29 else 28
  else if month = 4 || month = 6 || month = 9 || month = 11 then 30
  else 31

def date? (cs : List Char) : Option (Date × List Char) := do
  let (year, cs) ← digits? 4 cs
  let '-' :: cs := cs | none
  let (month, cs) ← digits? 2 cs
  let '-' :: cs := cs | none
  let (day, cs) ← digits? 2 cs
  if 1 ≤ month && month ≤ 12 && 1 ≤ day && day ≤ daysOf year month then
    return (⟨year, month, day⟩, cs)
  else none

/-- Digits of a fraction of a second, as nanoseconds; more than nine are cut off. -/
def fractionOf (digits : List Char) : Nat := Number.natOf ((digits ++ List.replicate 9 '0').take 9)

def time? (cs : List Char) : Option (TimeOfDay × List Char) := do
  let (hour, cs) ← digits? 2 cs
  let ':' :: cs := cs | none
  let (minute, cs) ← digits? 2 cs
  if !(hour ≤ 23 && minute ≤ 59) then none
  match cs with
  | ':' :: cs =>
    let (second, cs) ← digits? 2 cs
    if 60 < second then none
    match cs with
    | '.' :: cs =>
      let digits := cs.takeWhile Char.isDigit
      if digits.isEmpty then none
      return (⟨hour, minute, some second, fractionOf digits⟩, cs.dropWhile Char.isDigit)
    | cs => return (⟨hour, minute, some second, 0⟩, cs)
  | cs => return (⟨hour, minute, none, 0⟩, cs)

def offset? (cs : List Char) : Option Offset :=
  let minutes (negative : Bool) (cs : List Char) : Option Offset := do
    let (hour, cs) ← digits? 2 cs
    let ':' :: cs := cs | none
    let (minute, []) ← digits? 2 cs | none
    if hour ≤ 23 && minute ≤ 59 then return .minutes negative (60 * hour + minute) else none
  match cs with
  | ['Z'] | ['z'] => some .zulu
  | '+' :: cs => minutes false cs
  | '-' :: cs => minutes true cs
  | _ => none

def read? (cs : List Char) : Option Moment :=
  match date? cs with
  | some (date, []) => some ⟨some date, none, none⟩
  | some (date, c :: cs) =>
    if c = 'T' || c = 't' || c = ' ' then do
      let (time, cs) ← time? cs
      if cs.isEmpty then return ⟨some date, some time, none⟩
      else return ⟨some date, some time, some (← offset? cs)⟩
    else none
  | none =>
    match time? cs with
    | some (time, []) => some ⟨none, some time, none⟩
    | _ => none

/-- A number with zeros in front. -/
def padded (width n : Nat) : String :=
  let digits := Nat.toDigits 10 n
  String.ofList (List.replicate (width - digits.length) '0' ++ digits)

def renderDate (d : Date) : String :=
  padded 4 d.year ++ "-" ++ padded 2 d.month ++ "-" ++ padded 2 d.day

def renderTime (t : TimeOfDay) : String :=
  let fraction :=
    if t.nanosecond = 0 then ""
    else "." ++ String.ofList
      ((padded 9 t.nanosecond).toList.reverse.dropWhile (· == '0')).reverse
  let second := match t.second with
    | some s => ":" ++ padded 2 s ++ fraction
    | none => ""
  padded 2 t.hour ++ ":" ++ padded 2 t.minute ++ second

def renderOffset : Offset → String
  | .zulu => "Z"
  | .minutes negative n =>
    (if negative && n ≠ 0 then "-" else "+") ++ padded 2 (n / 60) ++ ":" ++ padded 2 (n % 60)

def render (m : Moment) : String :=
  let date := (m.date.map renderDate).getD ""
  let time := (m.time.map renderTime).getD ""
  let between := if m.date.isSome && m.time.isSome then "T" else ""
  date ++ between ++ time ++ (m.offset.map renderOffset).getD ""

end Moment

end LineSieve.Settings.Toml
