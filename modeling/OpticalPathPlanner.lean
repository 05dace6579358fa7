import OpticalPathPlanner.ArcRules
import OpticalPathPlanner.PlannerOutcomes
import OpticalPathPlanner.SnapshotInvariants
import OpticalPathPlanner.SnapshotAdjacency
import OpticalPathPlanner.BuildOrder
import OpticalPathPlanner.ExpressRoutes
import OpticalPathPlanner.DisjointCandidates
import OpticalPathPlanner.PlanTotals
import OpticalPathPlanner.ProvenPaths
import OpticalPathPlanner.TransparentPlanning
import OpticalPathPlanner.RouteEvidence
import OpticalPathPlanner.WavelengthRuns
import OpticalPathPlanner.WireCodecs
import OpticalPathPlanner.RequestRoundTrip
import OpticalPathPlanner.PlanStoreRuns
import OpticalPathPlanner.PlannedResults
import OpticalPathPlanner.RereadSnapshots
import OpticalPathPlanner.StoredPlans
import OpticalPathPlanner.Incarnations
import OpticalPathPlanner.ServiceRuns
import OpticalPathPlanner.Connections
import OpticalPathPlanner.AlternativeRoutes
import OpticalPathPlanner.CancelledPlans
import OpticalPathPlanner.CanonicalSnapshots
import OpticalPathPlanner.ConcurrentIngests
import OpticalPathPlanner.CandidateOrder
import OpticalPathPlanner.RepeatedFields
import OpticalPathPlanner.RevalidatedPlans
import OpticalPathPlanner.BuilderRuns
import OpticalPathPlanner.PlanShapes
import OpticalPathPlanner.FreeReservations
import OpticalPathPlanner.LateCancellation
import OpticalPathPlanner.CutAccounting
import OpticalPathPlanner.StrippedCycles
import OpticalPathPlanner.HasherRuns
import OpticalPathPlanner.BoundedSearches
import OpticalPathPlanner.TableSimulation
import OpticalPathPlanner.SourceContributions
import OpticalPathPlanner.CycleRemoval
import OpticalPathPlanner.PlannedArtifacts
import OpticalPathPlanner.DominatedSteps
import OpticalPathPlanner.SlotWords
import OpticalPathPlanner.LineCodec
import OpticalPathPlanner.SegmentAccounts
import OpticalPathPlanner.ReproducedPlans
import OpticalPathPlanner.IdentifiedSnapshots
import OpticalPathPlanner.ByteSpellings
import OpticalPathPlanner.WireImages
import OpticalPathPlanner.FrameStreams
import OpticalPathPlanner.ServiceClient
import OpticalPathPlanner.ClientSessions
import OpticalPathPlanner.ConcurrentClients
import OpticalPathPlanner.GrownStores
import OpticalPathPlanner.IsolatedPlans
import OpticalPathPlanner.ServiceLives
import OpticalPathPlanner.ServiceInstances
import OpticalPathPlanner.Runs
import OpticalPathPlanner.RaisedCeilings
import OpticalPathPlanner.UnrelatedChanges
import OpticalPathPlanner.ValidatedAnswers
import OpticalPathPlanner.ShutdownDrains
import OpticalPathPlanner.FinalVerdicts
