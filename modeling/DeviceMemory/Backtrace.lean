/-!
# Where an error was raised

An error may hold the stack at the place where it was raised. Whether stacks are
recorded is decided by the environment; where they are not, a hint says how to
record them.
-/

namespace DeviceMemory

/-- The stack recorded with an error. -/
inductive Backtrace
  /-- No stack was recorded. -/
  | absent
  /-- The stack was recorded. -/
  | recorded
  deriving DecidableEq, Repr

namespace Backtrace

/-- How to have stacks recorded. -/
def hint : String := "<not captured, run with RUST_BACKTRACE=1 to capture it>"

/-- The text of a stack. -/
def text : Backtrace → String
  | absent => hint
  | recorded => "<frames>"

/-- The last lines of a message that tells where the error was raised. -/
def closing (b : Backtrace) : String := "\nBacktrace\n" ++ b.text

end Backtrace

end DeviceMemory
