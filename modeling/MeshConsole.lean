import MeshConsole.Text.Blank
import MeshConsole.Text.Digits
import MeshConsole.Text.FormEncoding
import MeshConsole.Text.Split
import MeshConsole.Text.UpperCase
import MeshConsole.Decimal.Fixed
import MeshConsole.Decimal.Layout
import MeshConsole.Decimal.Reader
import MeshConsole.Decimal.Whole
import MeshConsole.Json.Printer
import MeshConsole.Json.Reader
import MeshConsole.Log
import MeshConsole.NodeId
import MeshConsole.Record.Link
import MeshConsole.Record.Node
import MeshConsole.Record.Pairing
import MeshConsole.Record.Reply
import MeshConsole.Config
import MeshConsole.Form
import MeshConsole.Notice
import MeshConsole.Backend.Client
import MeshConsole.Backend.Collection
import MeshConsole.Backend.Exchange
import MeshConsole.Backend.Failure
import MeshConsole.Backend.ListRequest
import MeshConsole.Topology.Assembler
import MeshConsole.Topology.NetworkKind
import MeshConsole.Topology.Picture
import MeshConsole.Topology.Status
import MeshConsole.Graph.Color
import MeshConsole.Graph.Diagram
import MeshConsole.Graph.Frame
import MeshConsole.Graph.Highlight
import MeshConsole.Graph.Host
import MeshConsole.Graph.Simulation
import MeshConsole.Graph.Sizing
import MeshConsole.Graph.Theme
import MeshConsole.Graph.View
import MeshConsole.Markup.Outline
import MeshConsole.Page.Dashboard
import MeshConsole.Page.DiscoveredNode
import MeshConsole.Page.LinkForms
import MeshConsole.Page.Listing
import MeshConsole.Page.NetworkGraph
import MeshConsole.Page.NodeForms
import MeshConsole.Page.Shell
import MeshConsole.Page.Tables
import MeshConsole.App.Action
import MeshConsole.App.Page
import MeshConsole.App.Route
import MeshConsole.App.Session
import MeshConsole.Proofs.Topology.AssemblerRun
import MeshConsole.Proofs.Topology.AssemblerCycle
import MeshConsole.Proofs.Topology.AssemblerAgreement
import MeshConsole.Proofs.Topology.FetchDiscipline
import MeshConsole.Proofs.Page.LoaderCourse
import MeshConsole.Proofs.Page.GraphCourse
import MeshConsole.Proofs.Page.GraphPhase
import MeshConsole.Proofs.Page.ShownPicture
import MeshConsole.Proofs.Page.ShownFailure
import MeshConsole.Proofs.NodeId.Display
import MeshConsole.Proofs.Json.Quoted
import MeshConsole.Proofs.Json.Printed
import MeshConsole.Proofs.Record.NodeWire
import MeshConsole.Proofs.Backend.QueryRoundTrip
import MeshConsole.Proofs.Backend.RecordAddress
import MeshConsole.Proofs.Backend.CallOutcome
import MeshConsole.Proofs.Backend.Paging
import MeshConsole.Proofs.Graph.DrawnLinks
import MeshConsole.Proofs.Page.TableCourse
import MeshConsole.Proofs.Notice.NoticeCourse
import MeshConsole.Proofs.Graph.PinnedNodes
import MeshConsole.Proofs.Graph.CanvasInteraction
import MeshConsole.Proofs.Page.Commands
import MeshConsole.Proofs.Page.CommandRequests
import MeshConsole.Proofs.Page.ShownFaults
import MeshConsole.Proofs.App.SessionRun
import MeshConsole.Proofs.App.CommandCourse
import MeshConsole.Proofs.App.SessionNotices
import MeshConsole.Proofs.Record.NodeViews
import MeshConsole.Proofs.Config.StartSettings
import MeshConsole.Proofs.Graph.CurrentPicture
import MeshConsole.Proofs.Page.PagerCourse
import MeshConsole.Proofs.Topology.CountedReplies
import MeshConsole.Proofs.Topology.LatestFailure
import MeshConsole.Proofs.Topology.IgnoredReplies
import MeshConsole.Proofs.NodeId.Reading
import MeshConsole.Proofs.Graph.ResolvedLinks
import MeshConsole.Proofs.Graph.PointerGesture
import MeshConsole.Proofs.Decimal.TypedNumber
import MeshConsole.Proofs.Form.LinkReading
import MeshConsole.Proofs.Form.WholePercent
import MeshConsole.Proofs.Page.UntouchedLink
import MeshConsole.Proofs.Graph.FrameDrawing
import MeshConsole.Proofs.Graph.AnimationLoop
import MeshConsole.Proofs.Json.Taken
import MeshConsole.Proofs.Json.TakenMembers
import MeshConsole.Proofs.Json.ObjectText
import MeshConsole.Proofs.Json.OrderedMembers
import MeshConsole.Proofs.Text.ByteOrder
import MeshConsole.Proofs.Record.MemberOrder
import MeshConsole.Proofs.Record.PairingColumns
import MeshConsole.Proofs.Backend.ListTotal
import MeshConsole.Proofs.Graph.ColorReading
import MeshConsole.Proofs.Backend.SortClicks
import MeshConsole.Proofs.Graph.LinkEnds
