import OrderFlow.Settings.Sections
import OrderFlow.Time.Instant

/-!
A circuit breaker in front of a service that may be out of order. While it is closed it remembers
how the last calls went, and it trips when too large a share of them has failed. Tripped, it lets
nothing through until it has cooled down; then a limited number of trial calls decides: if enough
of them succeed it closes, and the first failure trips it again.
-/
namespace OrderFlow.Breaker
open OrderFlow

/-- When a breaker trips and how it recovers. -/
structure Config where
  name : String
  /-- How many calls a closed breaker remembers. -/
  window : Nat := 10
  /-- How many calls it has to remember before it trips. -/
  minimum : Nat := 5
  /-- The share of failures from which on it trips. -/
  threshold : Binary64 := Settings.half
  /-- How long it stays tripped. -/
  openFor : Span := .ofSeconds 30
  /-- How many trial calls it lets through. -/
  permits : Nat := 3
  deriving DecidableEq, Repr, Inhabited

namespace Config

/-- The configuration that the settings ask for. Counts are at least one. -/
def ofSettings (name : String) (s : Settings.Breaker) : Config where
  name
  window := max 1 s.windowSize
  minimum := max 1 s.minimumCalls
  threshold := s.failureRateThreshold
  openFor := .ofMillis s.openDurationMs
  permits := max 1 s.halfOpenPermits

/-- The configuration with another memory. -/
def withWindow (c : Config) (window minimum : Nat) : Config :=
  { c with window := max 1 window, minimum := max 1 minimum }

/-- The configuration with another share of failures. -/
def withThreshold (c : Config) (threshold : Binary64) : Config := { c with threshold }

/-- The configuration with another time to cool down. -/
def withOpenFor (c : Config) (openFor : Span) : Config := { c with openFor }

/-- The configuration with another number of trial calls. -/
def withPermits (c : Config) (permits : Nat) : Config := { c with permits := max 1 permits }

/-- Whether the memory can be laid out at all. -/
def isFeasible (c : Config) : Bool := c.window < 2 ^ 63

end Config

/-- The state of a breaker. -/
inductive State where
  /-- Calls go through; the results of the last ones, oldest first, true for a failure. -/
  | closed (window : List Bool)
  /-- Nothing goes through. -/
  | tripped (since : Instant)
  /-- Trial calls go through: how many are under way or done, and how many have succeeded. -/
  | halfOpen (attempts successes : Nat)
  deriving DecidableEq, Repr, Inhabited

/-- The name of a kind of state. -/
inductive Mode where
  | closed
  | tripped
  | halfOpen
  deriving DecidableEq, Repr, Inhabited

namespace Mode

/-- The name of a mode. -/
def name : Mode → String
  | .closed => "closed"
  | .tripped => "open"
  | .halfOpen => "half_open"

/-- The number of a mode on the meters. -/
def number : Mode → Int
  | .closed => 0
  | .halfOpen => 1
  | .tripped => 2

end Mode

namespace State

/-- A new breaker is closed and remembers nothing. -/
def initial : State := .closed []

/-- The mode of a state. -/
def mode : State → Mode
  | .closed _ => .closed
  | .tripped _ => .tripped
  | .halfOpen .. => .halfOpen

end State

/-- How many of the remembered calls have failed, as a share of all. -/
def failureRate (window : List Bool) : Binary64 :=
  if window = [] then .ofNat 0
  else .ofRatio false (window.filter id).length window.length

/-- Remembers one more call; the oldest one is forgotten if there is no more room. -/
def remember (c : Config) (failed : Bool) (window : List Bool) : List Bool :=
  (if c.window ≤ window.length then window.tail else window) ++ [failed]

/-- Whether what is remembered makes the breaker trip. -/
def trips (c : Config) (window : List Bool) : Bool :=
  c.minimum ≤ window.length && c.threshold.le (failureRate window)

/-- Whether a breaker that tripped at `since` has cooled down. -/
def hasCooled (c : Config) (since now : Instant) : Bool := since.after c.openFor ≤ now

/-- The mode that a breaker shows: one that has cooled down shows as half open. -/
def shown (c : Config) (now : Instant) : State → Mode
  | .tripped since => if hasCooled c since now then .halfOpen else .tripped
  | s => s.mode

/-- Asks whether a call may go through. -/
def permit (c : Config) (now : Instant) : State → Bool × State
  | .closed window => (true, .closed window)
  | .tripped since =>
    if hasCooled c since now then (true, .halfOpen 1 0) else (false, .tripped since)
  | .halfOpen attempts successes =>
    if attempts < c.permits then (true, .halfOpen (attempts + 1) successes)
    else (false, .halfOpen attempts successes)

/-- A call has succeeded. -/
def succeed (c : Config) : State → State
  | .closed window => .closed (remember c false window)
  | .tripped since => .tripped since
  | .halfOpen attempts successes =>
    if c.permits ≤ successes + 1 then .closed [] else .halfOpen attempts (successes + 1)

/-- A call has failed. -/
def fail (c : Config) (now : Instant) : State → State
  | .closed window =>
    let window := remember c true window
    if trips c window then .tripped now else .closed window
  | .tripped since => .tripped since
  | .halfOpen _ _ => .tripped now

/-- A call has ended in a way that says nothing about the service: its trial may be repeated. -/
def ignore : State → State
  | .halfOpen attempts successes => .halfOpen (attempts - 1) successes
  | s => s

/-- How a call that went through has ended. -/
inductive Result where
  | success
  | failure
  | ignored
  deriving DecidableEq, Repr, Inhabited

/-- The state after a call has ended. -/
def settle (c : Config) (now : Instant) : Result → State → State
  | .success => succeed c
  | .failure => fail c now
  | .ignored => ignore

/-- The text of a refusal. -/
def refusal (name : String) : String := "熔断器 '" ++ name ++ "' 处于跳闸状态，请求被拒绝"

end OrderFlow.Breaker
