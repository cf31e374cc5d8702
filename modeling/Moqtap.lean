import Moqtap.ByteCursor
import Moqtap.Varint
import Moqtap.CodecTypes
import Moqtap.Draft22Parameters
import Moqtap.Draft22Properties
import Moqtap.Draft22Messages
import Moqtap.Draft22RoundTrip
import Moqtap.FetchStream
import Moqtap.FetchRestating
import Moqtap.Draft15Fetch
import Moqtap.Draft16Fetch
import Moqtap.AnyFetch
import Moqtap.FetchReemission
import Moqtap.Draft22Subgroup
import Moqtap.Framer
import Moqtap.FramerConservation
import Moqtap.SubgroupRelay
import Moqtap.SubgroupFraming
import Moqtap.SubgroupChunking
import Moqtap.AffineOrbit
import Moqtap.Pcg32
import Moqtap.LeakyBucket
import Moqtap.NetemModels
import Moqtap.NetemEngine
import Moqtap.NetemRate
import Moqtap.NetemAblation
import Moqtap.NetemAttribution
import Moqtap.StreamFraming
import Moqtap.ControlParser
import Moqtap.Draft22Machines
import Moqtap.RangeFilters
import Moqtap.Draft22EndpointState
import Moqtap.Draft22Endpoint
import Moqtap.EndpointCalls
import Moqtap.EndpointEffects
import Moqtap.Runs
import Moqtap.EndpointRuns
import Moqtap.EndpointDiscipline
import Moqtap.EndpointEndings
import Moqtap.EndpointCredit
import Moqtap.EndpointOverlap
import Moqtap.EndpointAliases
import Moqtap.EndpointUpdates
import Moqtap.ControlWalker
import Moqtap.ControlInjections
import Moqtap.EgressQueue
import Moqtap.Exec
import Moqtap.ControlMutation
import Moqtap.FetchTable
import Moqtap.FetchOrders
import Moqtap.SubgroupObjects
import Moqtap.PropertyRuns
import Moqtap.Draft22Arrival
import Moqtap.RangeFilterCodec
import Moqtap.TokenBucket
import Moqtap.TrackReach
import Moqtap.ShapeScheduler
import Moqtap.ShapeFairness
import Moqtap.ShapeWaking
import Moqtap.GroupSampling
import Moqtap.QuicVarint
import Moqtap.SetupPeek
import Moqtap.JsonText
import Moqtap.ColumnDeltas
import Moqtap.EndpointIdentity
import Moqtap.ParameterValues
import Moqtap.EndpointMalformed
import Moqtap.FillParameters
import Moqtap.EgressArming
import Moqtap.EgressCeilings
import Moqtap.BinarySearch
import Moqtap.RangeSets
import Moqtap.DelaySamples
import Moqtap.Gregorian
import Moqtap.RelayCap
import Moqtap.RelayCount
import Moqtap.RelayOutbox
import Moqtap.EgressOrder
import Moqtap.EgressAccounts
import Moqtap.Collector
import Moqtap.CollectorCalls
import Moqtap.Packing
import Moqtap.MonitorRuns
import Moqtap.MarkerSearch
import Moqtap.TraceStream
import Moqtap.RemovalGuards
import Moqtap.CborValue
import Moqtap.TraceEvents
import Moqtap.TraceRewrites
import Moqtap.TraceHeaders
import Moqtap.HeaderRewrites
