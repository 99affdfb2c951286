import SpringRoutes.Cli.Arguments
import SpringRoutes.Cli.Command
import SpringRoutes.Cli.Run
import SpringRoutes.Discovery
import SpringRoutes.Failure
import SpringRoutes.Ignore.Glob
import SpringRoutes.Ignore.Rule
import SpringRoutes.Json.Basic
import SpringRoutes.Json.Printer
import SpringRoutes.Json.Reader
import SpringRoutes.Main
import SpringRoutes.Number.Binary64
import SpringRoutes.Number.Shortest
import SpringRoutes.Outline.Annotation
import SpringRoutes.Outline.Basic
import SpringRoutes.Outline.Header
import SpringRoutes.Outline.Reading
import SpringRoutes.Project
import SpringRoutes.Proofs.AppendedText
import SpringRoutes.Proofs.CacheModes
import SpringRoutes.Proofs.ClientAttributes
import SpringRoutes.Proofs.Clients
import SpringRoutes.Proofs.FailedScans
import SpringRoutes.Proofs.Files
import SpringRoutes.Proofs.HeaderSyntax
import SpringRoutes.Proofs.History
import SpringRoutes.Proofs.InsertedRules
import SpringRoutes.Proofs.IrrelevantSources
import SpringRoutes.Proofs.JsonKeys
import SpringRoutes.Proofs.JsonText
import SpringRoutes.Proofs.KeyedStore
import SpringRoutes.Proofs.Lines
import SpringRoutes.Proofs.Linking
import SpringRoutes.Proofs.LiteralPatterns
import SpringRoutes.Proofs.JsonLimits
import SpringRoutes.Proofs.MethodNames
import SpringRoutes.Proofs.Methods
import SpringRoutes.Proofs.Navigation
import SpringRoutes.Proofs.NormalForms
import SpringRoutes.Proofs.Paths
import SpringRoutes.Proofs.ProjectRoots
import SpringRoutes.Proofs.Recognisers
import SpringRoutes.Proofs.Relisting
import SpringRoutes.Proofs.Respacing
import SpringRoutes.Proofs.RoutingAnnotations
import SpringRoutes.Proofs.ScanReads
import SpringRoutes.Proofs.Segments
import SpringRoutes.Proofs.SettingsContents
import SpringRoutes.Proofs.SourceListing
import SpringRoutes.Proofs.StoreAnswers
import SpringRoutes.Proofs.StoreContents
import SpringRoutes.Proofs.StoreFile
import SpringRoutes.Proofs.StoreRuns
import SpringRoutes.Proofs.TableOrder
import SpringRoutes.Proofs.TextForms
import SpringRoutes.Proofs.TimeStamps
import SpringRoutes.Proofs.Trees
import SpringRoutes.Proofs.TypeHeaders
import SpringRoutes.Proofs.UsableSettings
import SpringRoutes.Reply
import SpringRoutes.Root
import SpringRoutes.Route.Basic
import SpringRoutes.Route.Codec
import SpringRoutes.Route.Path
import SpringRoutes.Scan
import SpringRoutes.Service
import SpringRoutes.Settings.Basic
import SpringRoutes.Settings.Load
import SpringRoutes.Store
import SpringRoutes.Table.Client
import SpringRoutes.Table.Index
import SpringRoutes.Table.Link
import SpringRoutes.Text.Blank
import SpringRoutes.Text.Casing
import SpringRoutes.Text.Digit
import SpringRoutes.Text.Integer
import SpringRoutes.Text.Lines
import SpringRoutes.Text.Printable
import SpringRoutes.Text.Quoted
import SpringRoutes.Text.Ranges
import SpringRoutes.Text.Search
import SpringRoutes.Text.Utf8
import SpringRoutes.Text.Word
import SpringRoutes.Time.Calendar
import SpringRoutes.Time.Iso
import SpringRoutes.Time.Moment
import SpringRoutes.Workspace.Basic
import SpringRoutes.Workspace.Fault
import SpringRoutes.Workspace.Path
import SpringRoutes.Workspace.Tree
import SpringRoutes.Yaml.Base64
import SpringRoutes.Yaml.BlockText
import SpringRoutes.Yaml.Composition
import SpringRoutes.Yaml.Cursor
import SpringRoutes.Yaml.Fault
import SpringRoutes.Yaml.Node
import SpringRoutes.Yaml.Number
import SpringRoutes.Yaml.PlainText
import SpringRoutes.Yaml.QuotedText
import SpringRoutes.Yaml.Resolve
import SpringRoutes.Yaml.Scalar
import SpringRoutes.Yaml.Stamp
import SpringRoutes.Yaml.Token
import SpringRoutes.Yaml.Tokens
import SpringRoutes.Yaml.Value
