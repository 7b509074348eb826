import NestChart.Chart
import NestChart.Flow.Check
import NestChart.Flow.Listing
import NestChart.CommandLine
import NestChart.Config
import NestChart.Config.Location
import NestChart.Program
import NestChart.Text.Cluster
import NestChart.Text.Width
import NestChart.Viewer.Screen
import NestChart.Web.MediaType
import NestChart.Web.Multipart
import NestChart.Web.Page
import NestChart.Web.Server
import NestChart.Web.Target
import NestChart.Proofs.Brace.Balance
import NestChart.Proofs.Brace.Beside
import NestChart.Proofs.Brace.Between
import NestChart.Proofs.Brace.Braceless
import NestChart.Proofs.Brace.Breaks
import NestChart.Proofs.Brace.Coherent
import NestChart.Proofs.Brace.CommentLine
import NestChart.Proofs.Brace.Cover
import NestChart.Proofs.Brace.Initializer
import NestChart.Proofs.Brace.Layout
import NestChart.Proofs.Brace.Level
import NestChart.Proofs.Brace.Place
import NestChart.Proofs.Brace.Shape
import NestChart.Proofs.Brace.Shift
import NestChart.Proofs.Brace.Spacing
import NestChart.Proofs.Brace.Tree
import NestChart.Proofs.Brace.Waiting
import NestChart.Proofs.Brace.WellFormed
import NestChart.Proofs.Chart
import NestChart.Proofs.Format.Markup
import NestChart.Proofs.Format.Terminal
import NestChart.Proofs.Indent.Columns
import NestChart.Proofs.Indent.Lexing
import NestChart.Proofs.Indent.Lines
import NestChart.Proofs.Indent.Reindent
import NestChart.Proofs.Indent.Shift
import NestChart.Proofs.Indent.Strings
import NestChart.Proofs.Indent.WellFormed
import NestChart.Proofs.Packing
import NestChart.Proofs.Pattern
import NestChart.Proofs.Reading
import NestChart.Proofs.Shift
import NestChart.Proofs.Brace.CaseLabel
import NestChart.Proofs.Brace.Segments
import NestChart.Proofs.Indent.Brackets
import NestChart.Proofs.Indent.Closing
import NestChart.Proofs.Brace.Statement
import NestChart.Proofs.Insertion
import NestChart.Proofs.Brace.Directives
import NestChart.Proofs.Indent.Place
import NestChart.Proofs.Indent.Comments
import NestChart.Proofs.Brace.Forms
import NestChart.Proofs.Drawing
import NestChart.Proofs.Viewer
import NestChart.Proofs.Text.Encoding
import NestChart.Proofs.Web.Upload
import NestChart.Proofs.Text.Quoted
import NestChart.Proofs.Listing
import NestChart.Proofs.Text.Slice
import NestChart.Proofs.Line
import NestChart.Proofs.Brace.Bytes
import NestChart.Proofs.Indent.Bytes
import NestChart.Proofs.Bytes
import NestChart.Proofs.Settings
