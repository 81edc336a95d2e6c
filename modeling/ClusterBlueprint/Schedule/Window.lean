import ClusterBlueprint.Text.Blank
import ClusterBlueprint.Text.Digits
/-!
# Schedule — backup and maintenance windows

Two windows are fixed for a cluster: a daily one for backups and a weekly
one for maintenance. Each is half open and lies on a circle, of 1440 and of
10080 minutes, so it may wrap past midnight or past the end of the week. A
window has at least thirty minutes; that bound is part of its type.

A time is read leniently inside exactly five bytes: each of its two numbers
may have blanks before it and one or two digits. It is shown in two digits.
-/

namespace ClusterBlueprint

/-- Minutes of a day. -/
def minutesPerDay : Nat := 1440

/-- Minutes of a week. -/
def minutesPerWeek : Nat := 10080

/-- The shortest window, in minutes. -/
def shortestWindow : Nat := 30

/-- Why a text is no window. -/
inductive WindowError where
  /-- A separator is missing. -/
  | form (window : String)
  /-- A part is no time of day. -/
  | time (part : String)
  /-- A part is no day of the week. -/
  | weekday (part : String)
  /-- The window closes too soon. -/
  | tooShort (window : String) (minutes : Nat)
deriving DecidableEq

namespace WindowError

/-- The text of the error. -/
def message : WindowError → String
  | .form window => "Invalid window format: " ++ window
  | .time part => "Invalid time of day: " ++ part ++ " (expected hh:mm)"
  | .weekday part => "Invalid weekday: " ++ part ++ " (expected mon..sun)"
  | .tooShort window minutes =>
    "Window " ++ window ++ " lasts " ++ toString minutes ++ " minutes (minimum "
      ++ toString shortestWindow ++ ")"

end WindowError

/-- A time of day, to the minute. -/
structure Clock where
  hour : Fin 24
  minute : Fin 60
deriving DecidableEq

namespace Clock

/-- Minutes since midnight. -/
def minutes (t : Clock) : Nat := t.hour.val * 60 + t.minute.val

/-- A time of day lies before the end of the day. -/
theorem minutes_lt (t : Clock) : t.minutes < minutesPerDay := by
  have := t.hour.isLt
  have := t.minute.isLt
  simp only [minutes, minutesPerDay]
  omega

/-- Hour and minute in two digits each. -/
def chars (t : Clock) : List Char :=
  Text.twoDigits t.hour.val ++ ':' :: Text.twoDigits t.minute.val

/-- Hour and minute in two digits each, as text. -/
def text (t : Clock) : String := String.ofList t.chars

/-- A number of one or two digits after any blanks, and what follows it. -/
def readNumber (cs : List Char) : Option (Nat × List Char) :=
  let cs := cs.dropWhile Text.isBlank
  let digits := (cs.take 2).takeWhile Char.isDigit
  (Text.digitsValue? digits).map fun n => (n, cs.drop digits.length)

/-- An hour, a colon and a minute, with nothing after them. -/
def readParts (cs : List Char) : Option Clock :=
  match readNumber cs with
  | some (hour, ':' :: rest) =>
    match readNumber rest with
    | some (minute, []) =>
      if h : hour < 24 ∧ minute < 60 then some ⟨⟨hour, h.1⟩, ⟨minute, h.2⟩⟩ else none
    | _ => none
  | _ => none

/-- Reads a time of day from a text of exactly five bytes. -/
def read (cs : List Char) : Except WindowError Clock :=
  let part := String.ofList cs
  if part.utf8ByteSize ≠ 5 then .error (.time part)
  else match readParts cs with
    | some t => .ok t
    | none => .error (.time part)

end Clock

/-- A day of the week. -/
inductive Weekday where
  | mon | tue | wed | thu | fri | sat | sun
deriving DecidableEq

namespace Weekday

/-- The days in order. -/
def all : List Weekday := [.mon, .tue, .wed, .thu, .fri, .sat, .sun]

/-- Days since Monday. -/
def index : Weekday → Nat
  | .mon => 0 | .tue => 1 | .wed => 2 | .thu => 3 | .fri => 4 | .sat => 5 | .sun => 6

/-- The three letters of the day. -/
def chars : Weekday → List Char
  | .mon => ['m', 'o', 'n'] | .tue => ['t', 'u', 'e'] | .wed => ['w', 'e', 'd']
  | .thu => ['t', 'h', 'u'] | .fri => ['f', 'r', 'i'] | .sat => ['s', 'a', 't']
  | .sun => ['s', 'u', 'n']

theorem index_lt (d : Weekday) : d.index < 7 := by cases d <;> decide

/-- Reads the three letters of a day, in lower case. -/
def read (cs : List Char) : Except WindowError Weekday :=
  match all.find? fun d => d.chars = cs with
  | some d => .ok d
  | none => .error (.weekday (String.ofList cs))

end Weekday

/-- The minutes from `opens` to `closes` on a circle of `period` minutes. -/
def cyclicLength (opens closes period : Nat) : Nat := (closes + period - opens) % period

/-- Whether two half-open intervals on a circle of `period` minutes meet:
one of them starts inside the other. -/
def cyclicOverlap (aStart aLength bStart bLength period : Nat) : Bool :=
  decide ((bStart + period - aStart % period) % period < aLength) ||
    decide ((aStart + period - bStart % period) % period < bLength)

/-- The daily window for backups. -/
structure BackupWindow where
  opens : Clock
  closes : Clock
  lasts : shortestWindow ≤ cyclicLength opens.minutes closes.minutes minutesPerDay
deriving DecidableEq

namespace BackupWindow

/-- The minute of the day at which the window opens. -/
def start (w : BackupWindow) : Nat := w.opens.minutes

/-- The length in minutes. -/
def length (w : BackupWindow) : Nat :=
  cyclicLength w.opens.minutes w.closes.minutes minutesPerDay

/-- The window as text. -/
def text (w : BackupWindow) : String :=
  String.ofList (w.opens.chars ++ '-' :: w.closes.chars)

/-- Reads the two times around the first hyphen. -/
def read (s : String) : Except WindowError BackupWindow :=
  match Text.splitFirst '-' s.toList with
  | none => .error (.form s)
  | some (before, after) => do
    let opens ← Clock.read before
    let closes ← Clock.read after
    if h : shortestWindow ≤ cyclicLength opens.minutes closes.minutes minutesPerDay then
      pure ⟨opens, closes, h⟩
    else throw (.tooShort s (cyclicLength opens.minutes closes.minutes minutesPerDay))

end BackupWindow

/-- A minute of the week, as a day and a time. -/
structure WeekTime where
  day : Weekday
  clock : Clock
deriving DecidableEq

namespace WeekTime

/-- Minutes since Monday, 00:00. -/
def minutes (t : WeekTime) : Nat := t.day.index * minutesPerDay + t.clock.minutes

/-- The day, a colon and the time. -/
def chars (t : WeekTime) : List Char := t.day.chars ++ ':' :: t.clock.chars

end WeekTime

/-- The weekly window for maintenance. -/
structure MaintenanceWindow where
  opens : WeekTime
  closes : WeekTime
  lasts : shortestWindow ≤ cyclicLength opens.minutes closes.minutes minutesPerWeek
deriving DecidableEq

namespace MaintenanceWindow

/-- The minute of the week at which the window opens. -/
def start (w : MaintenanceWindow) : Nat := w.opens.minutes

/-- The length in minutes. -/
def length (w : MaintenanceWindow) : Nat :=
  cyclicLength w.opens.minutes w.closes.minutes minutesPerWeek

/-- The window as text. -/
def text (w : MaintenanceWindow) : String :=
  String.ofList (w.opens.chars ++ '-' :: w.closes.chars)

/-- Reads the two ends around the first hyphen. Both ends must split at a
colon before any of their parts is judged. -/
def read (s : String) : Except WindowError MaintenanceWindow :=
  match Text.splitFirst '-' s.toList with
  | none => .error (.form s)
  | some (before, after) =>
    match Text.splitFirst ':' before, Text.splitFirst ':' after with
    | some (openDay, openTime), some (closeDay, closeTime) => do
      let openDay ← Weekday.read openDay
      let openTime ← Clock.read openTime
      let closeDay ← Weekday.read closeDay
      let closeTime ← Clock.read closeTime
      let opens : WeekTime := ⟨openDay, openTime⟩
      let closes : WeekTime := ⟨closeDay, closeTime⟩
      if h : shortestWindow ≤ cyclicLength opens.minutes closes.minutes minutesPerWeek then
        pure ⟨opens, closes, h⟩
      else throw (.tooShort s (cyclicLength opens.minutes closes.minutes minutesPerWeek))
    | _, _ => .error (.form s)

/-- Whether the backup window of some day meets this window. -/
def overlaps (w : MaintenanceWindow) (b : BackupWindow) : Bool :=
  (List.range 7).any fun day =>
    cyclicOverlap w.start w.length (day * minutesPerDay + b.start) b.length minutesPerWeek

end MaintenanceWindow

end ClusterBlueprint
