import OrderFlow.Outbox.Publisher

/-!
A running publisher. Between two bursts of batches it is idle until the next poll, unless somebody
asks for a batch. `runUntil` follows a publisher up to a point in time, with things that happen to
its desk meanwhile.
-/
namespace OrderFlow.Outbox
open OrderFlow Surroundings

/-- How often the pending events of a table can still fail. -/
def triesLeft (c : Config) (t : Table) : Nat :=
  ((t.rows.filter Row.isPending).map fun r => (c.maxAttempts - r.attempts).toNat).foldl (· + ·) 0

/-- Does batch after batch as long as they are full, `fuel` of them at most. -/
def burst (c : Config) (name : String) : Nat → StateM Desk (Except Failure Unit)
  | 0 => return .ok ()
  | fuel + 1 => do
    match ← round c name with
    | .error e => return .error e
    | .ok true => burst c name fuel
    | .ok false => return .ok ()

/-- Does batches until one is not full. Every full batch uses up a try of an event. -/
def fullBurst (c : Config) (name : String) : StateM Desk (Except Failure Unit) := do
  burst c name (triesLeft c (← get).table + 1)

/-- Something that happens to the desk of a publisher. -/
structure Happening where
  time : Instant
  act : Desk → Desk

/-- The desk at another time. -/
def Desk.atTime (t : Instant) (d : Desk) : Desk := { d with around := { d.around with now := t } }

/-- Lets everything that is still to happen happen. -/
def finish (happenings : List Happening) : StateM Desk Unit :=
  modify fun d =>
    happenings.foldl (fun d h => h.act (d.atTime (.latestOf d.around.now h.time))) d

/-- Follows an idle publisher up to `stop`: it wakes up at `poll`, or as soon as it is asked to. -/
def idle (c : Config) (name : String) (stop : Instant) :
    Nat → Instant → List Happening → StateM Desk (Except Failure Unit)
  | 0, _, _ => return .ok ()
  | fuel + 1, poll, happenings => do
    if (← get).notified then
      modify fun d => { d with notified := false }
      wakeUp fuel happenings
    else
      match happenings with
      | h :: rest =>
        if h.time < poll ∧ h.time < stop then
          modify fun d => h.act (d.atTime h.time)
          idle c name stop fuel poll rest
        else elapse fuel poll happenings
      | [] => elapse fuel poll []
where
  /-- Nothing happens before the next poll or the end. -/
  elapse (fuel : Nat) (poll : Instant) (happenings : List Happening) :
      StateM Desk (Except Failure Unit) := do
    if stop ≤ poll then
      modify (Desk.atTime stop)
      finish happenings
      return .ok ()
    else
      modify (Desk.atTime poll)
      wakeUp fuel happenings
  /-- Does its batches and is idle again. -/
  wakeUp (fuel : Nat) (happenings : List Happening) : StateM Desk (Except Failure Unit) := do
    match ← fullBurst c name with
    | .error e => return .error e
    | .ok () => idle c name stop fuel ((← clock).after c.pollInterval) happenings

/-- Runs a publisher up to `stop`. Every round of the idle publisher uses up a happening, the
request that it was left with, or a millisecond. -/
def runUntil (c : Config) (name : String) (stop : Instant) (happenings : List Happening) :
    StateM Desk (Except Failure Unit) := do
  match ← fullBurst c name with
  | .error e => return .error e
  | .ok () =>
    let now ← clock
    let rounds := (stop.since now).millis + 2 * happenings.length + 2
    idle c name stop rounds (now.after c.pollInterval) happenings

end OrderFlow.Outbox
