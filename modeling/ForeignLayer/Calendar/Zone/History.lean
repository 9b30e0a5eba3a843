import ForeignLayer.Calendar.Date

/-!
# Histories of time zones

What the clocks of a place showed, as the places themselves decree it: in eras. An era has an
offset from universal time and, on top of it, summer time, which is either the same for the whole
era or set by rules that come back every year. `History.timeline` turns the eras into the plain
list of the moments at which the offset changes, and everything else is asked of that list.

A rule names the time of a change by the clock on the wall, by standard time or by universal time,
so a change depends on the summer time that the change before it left behind. That is why the
changes of a year are found one after the other, always the earliest first. Rules are followed up
to `lastYear`, and the offset that is in force at its end stays.
-/

namespace ForeignLayer.Calendar

/-- The last year in which rules are followed. -/
def lastYear : Nat := 2099

/-! ## Rules -/

/-- A day of a month. Weekdays are numbered from Monday, which is zero. -/
inductive DayRule where
  /-- The day with a number. -/
  | on (day : Nat)
  /-- The last of a weekday. -/
  | last (weekday : Nat)
  /-- The first of a weekday that is no earlier than the day with a number. -/
  | since (weekday day : Nat)
  /-- The last of a weekday that is no later than the day with a number. -/
  | upTo (weekday day : Nat)
deriving DecidableEq, Repr

/-- A time of day in seconds, by one of three clocks. -/
inductive ClockTime where
  /-- By the clock on the wall. -/
  | wall (seconds : Nat)
  /-- By a clock without summer time. -/
  | standard (seconds : Nat)
  /-- By universal time. -/
  | universal (seconds : Nat)
deriving DecidableEq, Repr

/-- A change of summer time in each of some years. -/
structure Rule where
  /-- The first year. -/
  first : Nat
  /-- The last year. -/
  last : Nat
  month : Nat
  day : DayRule
  time : ClockTime
  /-- The summer time from then on, in seconds. -/
  saving : Int
deriving DecidableEq, Repr

/-- The weekday of a day. -/
def weekday (day : Int) : Int := (day + 3) % 7

/-- The number of a day of a month, counted from the first of January 1970. -/
def DayRule.toDays (year month : Nat) : DayRule → Int
  | on day => Date.toDays ⟨year, month, day⟩
  | last w =>
    let n := Date.toDays ⟨year, month, daysInMonth year month⟩
    n - (weekday n - w) % 7
  | since w day =>
    let n := Date.toDays ⟨year, month, day⟩
    n + (w - weekday n) % 7
  | upTo w day =>
    let n := Date.toDays ⟨year, month, day⟩
    n - (weekday n - w) % 7

/-- The second of universal time at a time of a day, under an offset and summer time. -/
def ClockTime.toUniversal (offset saving day : Int) : ClockTime → Int
  | wall seconds => day * 86400 + seconds - offset - saving
  | standard seconds => day * 86400 + seconds - offset
  | universal seconds => day * 86400 + seconds

/-- The second of universal time at which a rule takes effect in a year. -/
def Rule.effect (offset saving : Int) (year : Nat) (r : Rule) : Int :=
  r.time.toUniversal offset saving (r.day.toDays year r.month)

/-- Whether a rule belongs to a year. -/
def Rule.appliesTo (year : Nat) (r : Rule) : Bool := r.first ≤ year && year ≤ r.last

/-! ## Eras -/

/-- The summer time of an era. -/
inductive Saving where
  | fixed (seconds : Int)
  | rules (rules : List Rule)
deriving DecidableEq, Repr

/-- The end of an era. -/
structure EraEnd where
  year : Nat
  month : Nat
  day : DayRule
  time : ClockTime
deriving DecidableEq, Repr

/-- A time during which a place keeps its offset and its rules. -/
structure Era where
  /-- Seconds ahead of universal time, without summer time. -/
  offset : Int
  saving : Saving
  /-- The end, unless the era lasts. -/
  finish : Option EraEnd
deriving DecidableEq, Repr

/-- The second of universal time at which an era ends, under a summer time. -/
def Era.finish? (saving : Int) (e : Era) : Option Int :=
  e.finish.map fun f ↦ f.time.toUniversal e.offset saving (f.day.toDays f.year f.month)

/-- A moment from which on an offset is in force. -/
structure Change where
  /-- The second of universal time. -/
  time : Int
  offset : Int
deriving DecidableEq, Repr

/-! ## The changes of an era -/

/-- How far the changes of an era are known. -/
structure EraProgress where
  /-- The summer time in force. -/
  saving : Int
  /-- The start of the era, as long as no change falls on it. -/
  start : Option Int
  /-- The summer time at the start, once it is known. -/
  startSaving : Option Int
  /-- The changes of the era, the last one first. -/
  changes : List Change
deriving DecidableEq, Repr

namespace EraProgress

/-- One more rule takes effect. Before the start of the era it only tells with what summer time the
era starts, and if no rule does, a later change back to standard time tells that there was none. -/
def step (offset time : Int) (r : Rule) (p : EraProgress) : EraProgress :=
  let changed := { p with saving := r.saving, changes := ⟨time, offset + r.saving⟩ :: p.changes }
  match p.start with
  | none => changed
  | some start =>
    if time < start then { p with saving := r.saving, startSaving := some r.saving }
    else if time = start then { changed with start := none }
    else if p.startSaving = none ∧ r.saving = 0 then { changed with startSaving := some 0 }
    else changed

end EraProgress

/-- The earliest of some rules with its time, and the other rules. -/
def earliest? (effect : Rule → Int) : List Rule → Option (Int × Rule × List Rule)
  | [] => none
  | r :: rs =>
    match earliest? effect rs with
    | some (time, first, others) =>
      if effect r ≤ time then some (effect r, r, rs) else some (time, first, r :: others)
    | none => some (effect r, r, [])

namespace Era

/-- The rules of a year take effect, up to `count` of them, unless the era ends before. -/
def stepYear (e : Era) (year : Nat) : Nat → List Rule → EraProgress → EraProgress
  | 0, _, p => p
  | count + 1, rules, p =>
    match earliest? (Rule.effect e.offset p.saving year) rules with
    | none => p
    | some (time, r, others) =>
      if (e.finish? p.saving).any (· ≤ time) then p
      else stepYear e year count others (p.step e.offset time r)

/-- The years in which rules can take effect in an era. -/
def years (e : Era) (rules : List Rule) : List Nat :=
  let first := rules.foldl (fun year r ↦ min year r.first) lastYear
  let last := (e.finish.map EraEnd.year).getD lastYear
  List.range' first (min last lastYear + 1 - first)

/-- The changes of an era that starts at a time, or that is the first one, and the summer time at
its end. -/
def changes (start : Option Int) (e : Era) : List Change × Int :=
  match e.saving with
  | .fixed s => ((start.map fun time ↦ ⟨time, e.offset + s⟩).toList, s)
  | .rules rules =>
    let p := (e.years rules).foldl (fun p year ↦
      let active := rules.filter (Rule.appliesTo year)
      e.stepYear year active.length active p) ⟨0, start, none, []⟩
    let begun := match p.start, p.startSaving with
      | some time, some s => [⟨time, e.offset + s⟩]
      | _, _ => []
    (begun ++ p.changes.reverse, p.saving)

/-- The changes of eras that follow each other. -/
def allChanges : Option Int → List Era → List Change
  | _, [] => []
  | start, e :: others =>
    let (cs, saving) := e.changes start
    cs ++ allChanges (e.finish? saving) others

end Era

/-! ## Timelines -/

/-- The offsets of a place: the one before all changes, and the changes in order. -/
structure Timeline where
  first : Int
  changes : List Change
deriving DecidableEq, Repr

namespace Timeline

/-- Adds a change in front of earlier ones. A change that comes before the clocks have caught up
with the one before it takes its place, and one that changes nothing is left out. -/
def addChange (cs : List Change) (c : Change) : List Change :=
  match cs with
  | a :: b :: others =>
    if c.time + a.offset ≤ a.time + b.offset then ⟨a.time, c.offset⟩ :: b :: others
    else if a.offset = c.offset then cs
    else c :: cs
  | [a] => if a.offset = c.offset then cs else [c, a]
  | [] => [c]

/-- The timeline of the changes after a first offset. -/
def ofChanges (first : Int) (cs : List Change) : Timeline :=
  match (cs.foldl addChange []).reverse with
  | c :: others => ⟨first, if c.offset = first then others else c :: others⟩
  | [] => ⟨first, []⟩

/-- The offset at a second of universal time. -/
def offsetAt (l : Timeline) (time : Int) : Int :=
  l.changes.foldl (fun offset c ↦ if c.time ≤ time then c.offset else offset) l.first

/-- The offsets under which the clocks show a time, which is given in seconds as if it were
universal time: none while clocks are put forward, two while they are put back. -/
def offsetsShowing (l : Timeline) (shown : Int) : List Int :=
  go none l.first l.changes
where
  /-- The offsets from the one of a start on. -/
  go (start : Option Int) (offset : Int) : List Change → List Int
    | [] => if start.all (· + offset ≤ shown) then [offset] else []
    | c :: cs =>
      let rest := go (some c.time) c.offset cs
      if start.all (· + offset ≤ shown) && shown < c.time + offset then offset :: rest else rest

end Timeline

/-- The history of a place: its eras in order. -/
abbrev History := List Era

/-- The timeline of a history. Its first offset is that of the first era. -/
def History.timeline (h : History) : Timeline :=
  let first := match h with
    | ⟨offset, .fixed s, _⟩ :: _ => offset + s
    | ⟨offset, .rules _, _⟩ :: _ => offset
    | [] => 0
  .ofChanges first (Era.allChanges none h)

end ForeignLayer.Calendar
