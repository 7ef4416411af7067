import Seismicity.Main
import Seismicity.Proofs.Binning.Positions
import Seismicity.Proofs.Binning.Classes
import Seismicity.Proofs.Binning.Partition
import Seismicity.Proofs.Gridding.Cells
import Seismicity.Proofs.Exact.Real
import Seismicity.Proofs.Gridding.Layout
import Seismicity.Proofs.Gridding.Batches
import Seismicity.Proofs.Gridding.Runs
import Seismicity.Proofs.Gridding.Failures
import Seismicity.Proofs.Rupture.Extent
import Seismicity.Proofs.Geodesy.Travel
import Seismicity.Proofs.Gridding.Rates
import Seismicity.Proofs.Rupture.Layer
import Seismicity.Proofs.Source.Enumeration
import Seismicity.Proofs.Exact.Means
import Seismicity.Proofs.Source.Acceptance
import Seismicity.Proofs.Source.Averages
import Seismicity.Proofs.Exact.Extremes
import Seismicity.Proofs.Rupture.Growth
import Seismicity.Proofs.Source.Radius
import Seismicity.Proofs.Source.Merging
import Seismicity.Proofs.Source.Order
import Seismicity.Proofs.Gridding.Order
import Seismicity.Proofs.Command.Collapse
import Seismicity.Proofs.Command.Ruptures
import Seismicity.Proofs.Rupture.Offset
import Seismicity.Proofs.Source.Envelope
import Seismicity.Proofs.Double.Packing
import Seismicity.Proofs.Double.Signs
import Seismicity.Proofs.Double.Finite
import Seismicity.Proofs.Double.Counts
import Seismicity.Proofs.Exchange.Contents
import Seismicity.Proofs.Source.Productive
import Seismicity.Proofs.Json.Strings
import Seismicity.Proofs.Json.Numerals
import Seismicity.Proofs.Json.Layout
import Seismicity.Proofs.Json.Scanning
import Seismicity.Proofs.Json.Codecs
import Seismicity.Proofs.Json.Ranges
import Seismicity.Proofs.Json.Yields
import Seismicity.Proofs.Exchange.Geometry
import Seismicity.Proofs.Exchange.Models
import Seismicity.Proofs.Exchange.Weights
import Seismicity.Proofs.Geodesy.Course
import Seismicity.Proofs.Recurrence.Ascending
import Seismicity.Proofs.Source.Copies
import Seismicity.Proofs.Geodesy.Boxes
import Seismicity.Proofs.Gridding.Tags
import Seismicity.Proofs.Source.Prefilter
import Seismicity.Proofs.Binning.Edges
import Seismicity.Proofs.Gridding.Tightness
import Seismicity.Proofs.Rupture.Area
import Seismicity.Proofs.Rupture.Rectangle
import Seismicity.Proofs.Source.Modes
import Seismicity.Proofs.Source.Selection
import Seismicity.Proofs.Source.Sampling
import Seismicity.Proofs.Source.Pooling
import Seismicity.Proofs.Recurrence.Discretization
import Seismicity.Proofs.Geodesy.DateLine
import Seismicity.Proofs.Source.Scenarios
import Seismicity.Proofs.Source.Probabilities
