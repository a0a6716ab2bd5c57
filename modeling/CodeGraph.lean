import CodeGraph.Analysis.Response
import CodeGraph.Analysis.Session
import CodeGraph.Drawing.Canvas
import CodeGraph.Drawing.Markup
import CodeGraph.Drawing.Svg
import CodeGraph.Geometry
import CodeGraph.Graph.Basic
import CodeGraph.Graph.Normalize
import CodeGraph.Graph.Records
import CodeGraph.Json.Basic
import CodeGraph.Json.Bracket
import CodeGraph.Json.Cursor
import CodeGraph.Json.Fault
import CodeGraph.Json.Number
import CodeGraph.Json.Record
import CodeGraph.Json.Text
import CodeGraph.Json.Value
import CodeGraph.Layout
import CodeGraph.Number.Text
import CodeGraph.Page.Analyzer
import CodeGraph.Page.Basic
import CodeGraph.Page.Browser
import CodeGraph.Page.Document
import CodeGraph.Page.Surface
import CodeGraph.Scene
import CodeGraph.Text.Composition
import CodeGraph.Text.Hidden
import CodeGraph.Text.Pair
import CodeGraph.Text.Script
import CodeGraph.Text.Table
import CodeGraph.Url.Basic
import CodeGraph.Url.Domain.Basic
import CodeGraph.Url.Domain.Mapping
import CodeGraph.Url.Host
import CodeGraph.Url.Parse
import CodeGraph.Url.Path
import CodeGraph.Url.Punycode
import CodeGraph.View.Action
import CodeGraph.View.Basic
import CodeGraph.View.Config
import CodeGraph.View.Hover
import CodeGraph.Proofs.Adjacency
import CodeGraph.Proofs.CleanGraph
import CodeGraph.Proofs.DocumentReader
import CodeGraph.Proofs.DragPins
import CodeGraph.Proofs.HoverHighlight
import CodeGraph.Proofs.LayoutUpdate
import CodeGraph.Proofs.SceneShapes
import CodeGraph.Proofs.SessionHistory
import CodeGraph.Proofs.ShownGraph
import CodeGraph.Proofs.ViewBuild
import CodeGraph.Proofs.ViewRun
import CodeGraph.Proofs.PageRun
import CodeGraph.Proofs.RecordFates
import CodeGraph.Proofs.TooltipCoherence
import CodeGraph.Proofs.SingleRequest
import CodeGraph.Proofs.CanvasGraph
import CodeGraph.Proofs.HoverIndependence
import CodeGraph.Proofs.LayoutTemperature
import CodeGraph.Proofs.InterruptedGesture
import CodeGraph.Proofs.SceneDocument
import CodeGraph.Proofs.JsonGrammar
import CodeGraph.Proofs.PlacelessReading
import CodeGraph.Proofs.TokenReading
import CodeGraph.Proofs.ValueReading
import CodeGraph.Proofs.RecordReading
import CodeGraph.Proofs.AcceptedTexts
import CodeGraph.Proofs.AcceptedRecords
import CodeGraph.Proofs.GraphDocuments
import CodeGraph.Proofs.NumberLiterals
import CodeGraph.Proofs.CompactTexts
import CodeGraph.Proofs.RecordFields
import CodeGraph.Proofs.DocumentEdits
import CodeGraph.Proofs.ResponseOutcome
import CodeGraph.Proofs.WireGrammar
import CodeGraph.Proofs.KindField
import CodeGraph.Proofs.IdSpelling
import CodeGraph.Proofs.NumberOrder
import CodeGraph.Proofs.NearestHit
import CodeGraph.Proofs.DragPath
import CodeGraph.Proofs.SceneHighlight
import CodeGraph.Proofs.EdgeRims
import CodeGraph.Proofs.NormalGraphs
import CodeGraph.Proofs.NeighborSets
import CodeGraph.Proofs.CanvasMarks
import CodeGraph.Proofs.Arrowheads
import CodeGraph.Proofs.SubmittedText
import CodeGraph.Proofs.UniqueTrees
import CodeGraph.Proofs.PointerZoom
import CodeGraph.Proofs.HighlightEasing
import CodeGraph.Proofs.LayoutCooling
import CodeGraph.Proofs.EscapedTexts
import CodeGraph.Proofs.SegmentDistance
