import AgendaLinks.Event

/-!
Windows of time from a start up to, but not including, an end. An event with a point in time as its
start is in the window when the two overlap, or when its start is inside if it takes no time. A
whole-day event takes its days at the offset of the end of the window; events without a start are
always inside.
-/

namespace AgendaLinks

/-- A window of time. -/
structure Window where
  start : Stamp
  finish : Stamp
  deriving DecidableEq, Repr

/-- Why a window cannot be compared with an event or be made. -/
inductive WindowFault where
  /-- There is no day after the last one. -/
  | noDayAfter
  deriving DecidableEq, Repr

def WindowFault.message : WindowFault → String
  | noDayAfter => "date value out of range"

namespace Window

/-- Whether a time from a start up to an end overlaps the window. -/
def overlaps (w : Window) (start finish : Stamp) : Bool :=
  start.instant < w.finish.instant && w.start.instant < finish.instant

/-- Whether an event is in the window. -/
def includes (w : Window) (e : Event) : Except WindowFault Bool :=
  match e.startAt, e.startOn with
  | some start, _ =>
    let finish := e.endAt.getD start
    if finish.instant ≤ start.instant then
      .ok (w.start.instant ≤ start.instant && start.instant < w.finish.instant)
    else .ok (w.overlaps start finish)
  | none, some first =>
    match (e.endOn.getD first).next? with
    | none => .error .noDayAfter
    | some after =>
      .ok (w.overlaps (.startOf first w.finish.offset) (.startOf after w.finish.offset))
  | none, none => .ok true

/-- The window from a start to an end, or to the end of its day. -/
def ofStart (start : Stamp) (finish : Option Stamp) : Except WindowFault Window :=
  match finish with
  | some finish => .ok ⟨start, finish⟩
  | none =>
    match start.date.next? with
    | some day => .ok ⟨start, .startOf day start.offset⟩
    | none => .error .noDayAfter

end Window

end AgendaLinks
