import Seismicity.Decimal.Fixed
import Seismicity.Message

/-!
# Notices

What is reported while sources are described, gridded and enumerated, apart
from the results themselves.

## Main definitions

* `Notice`: What is reported.
* `Notice.level`, `Notice.text`: How urgent it is, and its wording.
-/

namespace Seismicity

/-- How urgent a notice is, from the most to the least. -/
inductive Level where
  | warn
  | info
  | debug
  | trace
  deriving DecidableEq, Repr

/-- The name of a level. -/
def Level.name : Level → String
  | .warn => "WARN"
  | .info => "INFO"
  | .debug => "DEBUG"
  | .trace => "TRACE"

/-- What is reported. -/
inductive Notice where
  /-- Weights do not sum to one. -/
  | weights (total : Float)
  /-- A rupture width was clipped. -/
  | clip (clip : Clip Float)
  /-- A grid was laid out. -/
  | gridded (report : GridReport Float)
  /-- A model was built. -/
  | built (model : String) (sources : Nat)
  /-- The number of threads was chosen. -/
  | threads (count : Nat)
  /-- No grid is laid out for want of a positive spacing. -/
  | noSpacing
  /-- Ruptures were written. -/
  | written (count : Nat) (source : String)
  deriving Repr

namespace Notice

/-- The urgency of a notice. -/
def level : Notice → Level
  | .weights _ | .noSpacing => .warn
  | .built _ _ | .threads _ | .written _ _ => .info
  | .gridded _ => .debug
  | .clip _ => .trace

/-- The wording of a grid report. -/
def gridText (r : GridReport Float) : String :=
  "grp_id=" ++ toString r.group ++ " task=" ++ toString r.task ++ ": " ++ toString r.points
    ++ " point sources on a " ++ shown r.spacing ++ " km grid (" ++ Double.fixed 5 r.deltaX
    ++ "° x " ++ Double.fixed 5 r.deltaY ++ "°) -> " ++ toString r.cells ++ " cells, "
    ++ toString r.collapsed ++ " collapsed; " ++ toString r.input ++ " -> "
    ++ toString r.output ++ " sources"

/-- The wording of a notice. -/
def text : Notice → String
  | .weights total => "PMF weights sum to " ++ shown total ++ ", expected 1"
  | .clip c =>
    "M" ++ Double.fixed 2 c.magnitude ++ ": rupture width " ++ Double.fixed 3 c.width
      ++ " km clipped to " ++ Double.fixed 3 c.widest ++ " km, aspect ratio "
      ++ shown c.aspectRatio ++ " not kept"
  | .gridded report => gridText report
  | .built model sources =>
    "Model '" ++ model ++ "': " ++ toString sources ++ " point sources built"
  | .threads count => "Using " ++ toString count ++ " threads"
  | .noSpacing => "No positive grid spacing given, sources are left as they are"
  | .written count source => toString count ++ " ruptures written for " ++ source

/-- A notice as one line: its level and its wording. -/
def line (n : Notice) : String := n.level.name ++ " " ++ n.text

end Notice

/-- The notices of a list of clips. -/
def clipNotices (clips : List (Clip Float)) : List Notice := clips.map .clip

end Seismicity
