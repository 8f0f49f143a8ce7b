import VgiPprof.Core.Alignment
import VgiPprof.Core.Join
import VgiPprof.Core.Labels
import VgiPprof.Core.RawGraph
import VgiPprof.Core.Renumbering
import VgiPprof.Core.RoundTrip
import VgiPprof.Core.Targets
import VgiPprof.Worker.Builds
import VgiPprof.Worker.Capacity
import VgiPprof.Worker.Faults
import VgiPprof.Worker.GlobScan
import VgiPprof.Worker.Isolation
import VgiPprof.Worker.Joins
import VgiPprof.Worker.Metadata
import VgiPprof.Worker.Recreated
import VgiPprof.Worker.RoundTrip
