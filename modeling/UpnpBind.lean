import UpnpBind.Text.Ranges
import UpnpBind.Text.Letter
import UpnpBind.Text.Case
import UpnpBind.Text.Blank
import UpnpBind.Text.Printable
import UpnpBind.Text.Quoted
import UpnpBind.Text.Edit
import UpnpBind.Text.JsonText
import UpnpBind.Text.Decimal
import UpnpBind.Text.Utf8
import UpnpBind.Naming.Rule
import UpnpBind.Naming.Normalize
import UpnpBind.Naming.Bytes
import UpnpBind.Naming.Identifier
import UpnpBind.Failure
import UpnpBind.DataType
import UpnpBind.Xml.Node
import UpnpBind.Xml.Charset
import UpnpBind.Xml.Reader
import UpnpBind.Xml.Namespaces
import UpnpBind.Xml.Path
import UpnpBind.Description.Device
import UpnpBind.Description.Scpd
import UpnpBind.Description.Traversal
import UpnpBind.Model.NameSet
import UpnpBind.Model.Unit
import UpnpBind.Fetch.Basic
import UpnpBind.GoSource.Ast
import UpnpBind.GoSource.DocComment
import UpnpBind.GoSource.Format
import UpnpBind.GoSource.Imports
import UpnpBind.GoSource.Nodes
import UpnpBind.GoSource.ParseState
import UpnpBind.GoSource.Parser
import UpnpBind.GoSource.Printer
import UpnpBind.GoSource.Scanner
import UpnpBind.GoSource.Span
import UpnpBind.GoSource.Tabwriter
import UpnpBind.GoSource.Token
import UpnpBind.Layout
import UpnpBind.Model.Builder
import UpnpBind.Render.Artifact
import UpnpBind.Render.Data
import UpnpBind.Render.Source
import UpnpBind.Render.Templates
import UpnpBind.Template.Run
import UpnpBind.Template.Scan
import UpnpBind.Template.Tree
import UpnpBind.Template.Value
import UpnpBind.Text.SlashPath
import UpnpBind.Walk
import UpnpBind.Yaml.Events
import UpnpBind.Yaml.Scanner
import UpnpBind.Text.Numeral
import UpnpBind.Yaml.Resolve
import UpnpBind.Yaml.Node
import UpnpBind.Text.Duration
import UpnpBind.Web.Url
import UpnpBind.Yaml.Decode
import UpnpBind.Config
import UpnpBind.Log
import UpnpBind.Disk
import UpnpBind.Web.MediaType
import UpnpBind.Fetch.Http
import UpnpBind.Sink
import UpnpBind.Generate
import UpnpBind.Text.Integer
import UpnpBind.Cli.Flags
import UpnpBind.Text.Glob
import UpnpBind.Cli.Run
import UpnpBind.Main
import UpnpBind.Proofs.Logged
import UpnpBind.Proofs.NameSet
import UpnpBind.Proofs.WalkInOrder
import UpnpBind.Proofs.ConcurrentWalk
import UpnpBind.Proofs.SlashPath
import UpnpBind.Proofs.ArtifactPaths
import UpnpBind.Proofs.CaseMappings
import UpnpBind.Proofs.Identifier
import UpnpBind.Proofs.ActionModels
import UpnpBind.Proofs.UnitNames
import UpnpBind.Proofs.FinalizedSets
import UpnpBind.Proofs.EnvelopeNames
import UpnpBind.Proofs.RunResults
import UpnpBind.Proofs.PrefixRuns
import UpnpBind.Proofs.DeclaredNames
import UpnpBind.Proofs.DecimalIntegers
import UpnpBind.Proofs.DeviceReading
import UpnpBind.Proofs.ServiceReading
import UpnpBind.Proofs.DeviceTraversal
import UpnpBind.Proofs.SnapshotFiles
import UpnpBind.Proofs.Utf8Forms
import UpnpBind.Proofs.SnakeForm
import UpnpBind.Proofs.NormalizedIdentifiers
import UpnpBind.Proofs.TemplateReading
import UpnpBind.Proofs.TemplatePieces
import UpnpBind.Proofs.ExpansionHoles
