/-!
# DueDispatch — what happens to a schedule from outside

A `Script` lists what is done to a running schedule, and when. Besides the
signals and changes of the world it can move the clock at once, as when the
process was suspended; whatever came due meanwhile is handled afterwards.
-/

namespace DueDispatch.Schedule

/-- One outside step on a schedule over a world `W`. -/
inductive Step (W : Type)
  /-- No more work is to be started. -/
  | shutdown
  /-- Work that has been started is to be given up. -/
  | abort
  /-- The clock moves by `span` nanoseconds while nothing runs. -/
  | jump (span : Nat)
  /-- The world changes. -/
  | edit (change : W → W)

/-- Outside steps with their times, in order of time. -/
abbrev Script (W : Type) := List (Nat × Step W)

/-- A world after the changes in a script, if nothing else acts on it. -/
def edited {W : Type} (script : Script W) (world : W) : W :=
  script.foldl (fun w entry =>
    match entry.2 with
    | .edit change => change w
    | _ => w) world

/-- Whether a script asks for an abort somewhere. -/
def asksForAbort {W : Type} (script : Script W) : Bool :=
  script.any fun entry =>
    match entry.2 with
    | .abort => true
    | _ => false

end DueDispatch.Schedule
