import TileIndex.Address
import TileIndex.Bus.Line
import TileIndex.Bus.Message
import TileIndex.Bus.Name
import TileIndex.Bus.Queues
import TileIndex.Bus.Script
import TileIndex.Bus.Transport
import TileIndex.Channel
import TileIndex.Client
import TileIndex.Client.Answer
import TileIndex.Client.Connect
import TileIndex.Client.WriteBuffer
import TileIndex.Deployment
import TileIndex.Failure
import TileIndex.Fleet
import TileIndex.Plate
import TileIndex.Protocol.Format
import TileIndex.Protocol.Operation
import TileIndex.Protocol.Reply
import TileIndex.Protocol.Request
import TileIndex.Protocol.Wire
import TileIndex.Server
import TileIndex.Service
import TileIndex.Session
import TileIndex.Settings.Document
import TileIndex.SortedMap
import TileIndex.Store
import TileIndex.Text.Decimal
import TileIndex.Text.Quoted
import TileIndex.Text.Visible
import TileIndex.Tile
import TileIndex.Wire.Coding
import TileIndex.Proofs.Service.Commutation
import TileIndex.Proofs.Service.Registry
import TileIndex.Proofs.Client.Batching
import TileIndex.Proofs.Client.Delivery
import TileIndex.Proofs.Client.Fate
import TileIndex.Proofs.Bus.Network
import TileIndex.Proofs.Bus.Linearizability
import TileIndex.Proofs.Store.Failure
import TileIndex.Proofs.Store.Publication
import TileIndex.Proofs.Sharing.Scene
import TileIndex.Proofs.Service.Isolation
import TileIndex.Proofs.Service.Names
import TileIndex.Proofs.Service.Batches
import TileIndex.Proofs.Store.InPlace
import TileIndex.Proofs.Service.InPlace
import TileIndex.Proofs.Store.Transcript
import TileIndex.Proofs.Store.Lifecycle
import TileIndex.Proofs.Store.Numbering
import TileIndex.Proofs.Store.Reservations
import TileIndex.Proofs.Store.Watermark
import TileIndex.Proofs.Bus.Serving
import TileIndex.Proofs.Bus.Waiting
import TileIndex.Proofs.Bus.Calls
import TileIndex.Proofs.Client.Construction
import TileIndex.Proofs.Service.Refusals
import TileIndex.Proofs.Sharing.Agreement
import TileIndex.Proofs.Store.Reads
import TileIndex.Proofs.Store.Regions
import TileIndex.Proofs.Store.Levels
import TileIndex.Proofs.Store.Progress
import TileIndex.Proofs.Store.Snapshots
import TileIndex.Proofs.Client.Interpretation
import TileIndex.Proofs.Address.Reading
import TileIndex.Proofs.Service.Addresses
import TileIndex.Proofs.Bus.Draining
import TileIndex.Proofs.Address.Grammar
import TileIndex.Proofs.Bus.Handles
import TileIndex.Proofs.Json.Literals
import TileIndex.Proofs.Settings.Documents
import TileIndex.Proofs.Settings.Loading
import TileIndex.Proofs.Tile.Extents
import TileIndex.Proofs.Settings.Timeouts
import TileIndex.Proofs.Bus.Metadata
