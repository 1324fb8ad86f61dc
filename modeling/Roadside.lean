import Roadside.Json.Coded
import Roadside.Main
import Roadside.Proofs.Layout
import Roadside.Proofs.Passages
import Roadside.Proofs.ListingOrder
import Roadside.Proofs.SideLabels
import Roadside.Proofs.Renumbering
import Roadside.Proofs.Segments
import Roadside.Proofs.Arms
import Roadside.Proofs.Reversal
import Roadside.Proofs.Search
import Roadside.Proofs.UTurns
import Roadside.Proofs.TurnedBlock
import Roadside.Proofs.OpenStreetMap.Geometry
import Roadside.Proofs.OpenStreetMap.Joints
import Roadside.Proofs.OpenStreetMap.Parts
import Roadside.Proofs.OpenStreetMap.TurnedLines
import Roadside.Proofs.OpenStreetMap.TurnedWays
import Roadside.Proofs.OpenStreetMap.SpareNodes
import Roadside.Proofs.OpenStreetMap.Retelling
import Roadside.Proofs.OpenStreetMap.Loading
import Roadside.Proofs.Queries
import Roadside.Proofs.Locality
import Roadside.Proofs.StoredEdges
import Roadside.Proofs.Closures
import Roadside.Proofs.Inquiries
import Roadside.Proofs.InRange
import Roadside.Proofs.FirstEdge
import Roadside.Proofs.BothEnds
import Roadside.Proofs.Loops
import Roadside.Proofs.StoredClosures
import Roadside.Proofs.ExactSides
import Roadside.Proofs.Across
import Roadside.Proofs.Refusals
import Roadside.Proofs.OpenStreetMap.LoopedWays
import Roadside.Proofs.Records
import Roadside.Proofs.NearestNodes
import Roadside.Proofs.Runs
import Roadside.Proofs.Spellings
import Roadside.Proofs.Phrases
import Roadside.Proofs.Wishes
