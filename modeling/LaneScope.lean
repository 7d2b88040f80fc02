import LaneScope.Coord.Comparator
import LaneScope.Coord.Grammar
import LaneScope.Coord.Granularity
import LaneScope.Interchange.Kernel
import LaneScope.Kernel.Registry
import LaneScope.Query.Focus
import LaneScope.RangeMap
import LaneScope.Session.Run
import LaneScope.Settings
import LaneScope.Proofs.Coord.Order
import LaneScope.Proofs.Query.CoordSet
import LaneScope.Proofs.Query.Rounds
import LaneScope.Proofs.Query.Listing
import LaneScope.Proofs.Query.Lanes
import LaneScope.Proofs.Query.Units
import LaneScope.Proofs.RangeMap.Insertion
import LaneScope.Proofs.RangeMap.Covering
import LaneScope.Proofs.Coord.Spelling
import LaneScope.Proofs.Coord.Parsing
import LaneScope.Proofs.Coord.RoundTrip
import LaneScope.Proofs.Kernel.Table
import LaneScope.Proofs.Query.Faults
import LaneScope.Proofs.Query.FirstFault
import LaneScope.Proofs.Query.Visibility
import LaneScope.Proofs.Session.Learning
import LaneScope.Proofs.Session.Course
import LaneScope.Proofs.Session.Safety
import LaneScope.Proofs.Query.SingleUnit
import LaneScope.Proofs.Coord.Acceptance
import LaneScope.Proofs.Session.Conversion
import LaneScope.Proofs.Session.Noninterference
import LaneScope.Proofs.Session.Masking
import LaneScope.Proofs.Session.Invalidation
import LaneScope.Proofs.Coord.Projection
import LaneScope.Proofs.Query.Searching
import LaneScope.Proofs.Query.Soundness
import LaneScope.Proofs.Session.Exit
import LaneScope.Proofs.Kernel.Ancestry
import LaneScope.Proofs.Kernel.Depth
import LaneScope.Proofs.Session.Residency
import LaneScope.Proofs.Session.Tenure
import LaneScope.Proofs.Session.Formatting
import LaneScope.Proofs.Session.Epochs
import LaneScope.Proofs.Session.Filling
import LaneScope.Proofs.Session.ResidencyViews
import LaneScope.Proofs.Session.Nearest
import LaneScope.Proofs.Device.Populate
import LaneScope.Proofs.Device.Readback
import LaneScope.Proofs.Coord.Stopping
import LaneScope.Proofs.Coord.Inclusion
import LaneScope.Proofs.Query.Rejection
import LaneScope.Proofs.Kernel.Children
