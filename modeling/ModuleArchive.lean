import ModuleArchive.Bucket
import ModuleArchive.Cache.Catalog
import ModuleArchive.Cache.Locks
import ModuleArchive.Cache.Lookup
import ModuleArchive.Cache.Policy
import ModuleArchive.Cache.Procedure
import ModuleArchive.Cache.Tasks
import ModuleArchive.Catalog.Basic
import ModuleArchive.Catalog.Error
import ModuleArchive.Catalog.Listing
import ModuleArchive.Catalog.Memory
import ModuleArchive.Cli.Arguments
import ModuleArchive.Cli.Session
import ModuleArchive.Clock
import ModuleArchive.Config.Basic
import ModuleArchive.Config.Environment
import ModuleArchive.Config.Inline
import ModuleArchive.Config.Json
import ModuleArchive.Config.Load
import ModuleArchive.Config.Platform
import ModuleArchive.Config.Toml
import ModuleArchive.Config.Toml.Scalar
import ModuleArchive.Config.Toml.Tables
import ModuleArchive.Config.Value
import ModuleArchive.Config.Yaml
import ModuleArchive.Config.Yaml.Node
import ModuleArchive.Config.Yaml.Scalar
import ModuleArchive.Config.Yaml.Scanner
import ModuleArchive.Config.Yaml.Token
import ModuleArchive.Content.Error
import ModuleArchive.Content.Reader
import ModuleArchive.Content.Stream
import ModuleArchive.Filesystem.Basic
import ModuleArchive.Filesystem.Node
import ModuleArchive.Grouping
import ModuleArchive.Html.Adoption
import ModuleArchive.Html.Arena
import ModuleArchive.Html.Body
import ModuleArchive.Html.Builder
import ModuleArchive.Html.Construction
import ModuleArchive.Html.Doctype
import ModuleArchive.Html.Document
import ModuleArchive.Html.Entity
import ModuleArchive.Html.Tables
import ModuleArchive.Html.Token
import ModuleArchive.Html.Tokenizer
import ModuleArchive.Index.Basic
import ModuleArchive.Index.Members
import ModuleArchive.Index.Repository
import ModuleArchive.Index.Table
import ModuleArchive.Location
import ModuleArchive.Location.Identifier
import ModuleArchive.Main
import ModuleArchive.Record
import ModuleArchive.Remote.Catalog
import ModuleArchive.Remote.Page
import ModuleArchive.Remote.Server
import ModuleArchive.Remote.Site
import ModuleArchive.Source
import ModuleArchive.Storage.Error
import ModuleArchive.Storage.FileTree
import ModuleArchive.Storage.Key
import ModuleArchive.Storage.Store
import ModuleArchive.Text.ByteCount
import ModuleArchive.Text.Case
import ModuleArchive.Text.Classes
import ModuleArchive.Text.CodeTable
import ModuleArchive.Text.Decimal
import ModuleArchive.Text.Escape
import ModuleArchive.Text.NormalForm
import ModuleArchive.Text.NormalForm.Table
import ModuleArchive.Text.Percent
import ModuleArchive.Text.Printable
import ModuleArchive.Text.Quoted
import ModuleArchive.Text.Split
import ModuleArchive.Text.Utf8
import ModuleArchive.Url.Basic
import ModuleArchive.Url.Domain
import ModuleArchive.Url.Domain.Direction
import ModuleArchive.Url.Domain.Direction.Table
import ModuleArchive.Url.Domain.Joining
import ModuleArchive.Url.Domain.Joining.Table
import ModuleArchive.Url.Domain.Mapping
import ModuleArchive.Url.Domain.Mapping.Table
import ModuleArchive.Url.Domain.Punycode
import ModuleArchive.Url.Form
import ModuleArchive.Url.Host
import ModuleArchive.Url.Parser
import ModuleArchive.Proofs.Traverse
import ModuleArchive.Proofs.Text.Utf8
import ModuleArchive.Proofs.Text.Percent
import ModuleArchive.Proofs.Text.Split
import ModuleArchive.Proofs.Text.Decimal
import ModuleArchive.Proofs.Location.RoundTrip
import ModuleArchive.Proofs.Location.Grammar
import ModuleArchive.Proofs.Catalog.Answers
import ModuleArchive.Proofs.Index.Members
import ModuleArchive.Proofs.Scope
import ModuleArchive.Proofs.Index.Log
import ModuleArchive.Proofs.Index.Soundness
import ModuleArchive.Proofs.Index.Table
import ModuleArchive.Proofs.Index.Reading
import ModuleArchive.Proofs.Index.Run
import ModuleArchive.Proofs.Index.Refinement
import ModuleArchive.Proofs.Cache.Exchange
import ModuleArchive.Proofs.Cache.Lookup
import ModuleArchive.Proofs.Cache.History
import ModuleArchive.Proofs.Cache.Run
import ModuleArchive.Proofs.Cache.Untorn
import ModuleArchive.Proofs.Cache.Transparency
import ModuleArchive.Proofs.Cache.Warm
import ModuleArchive.Proofs.Content.Arrival
import ModuleArchive.Proofs.Content.Reading
import ModuleArchive.Proofs.Content.Retry
import ModuleArchive.Proofs.Storage.Key
import ModuleArchive.Proofs.Storage.FileTree
import ModuleArchive.Proofs.Remote.Address
import ModuleArchive.Proofs.Storage.Store
import ModuleArchive.Proofs.Remote.Server
import ModuleArchive.Proofs.Remote.Download
import ModuleArchive.Proofs.Cache.Content
import ModuleArchive.Proofs.Url.Base
import ModuleArchive.Proofs.Url.Path
import ModuleArchive.Proofs.Url.Rooted
import ModuleArchive.Proofs.Remote.Link
import ModuleArchive.Proofs.Url.Scheme
import ModuleArchive.Proofs.Filesystem.Resolving
import ModuleArchive.Proofs.Filesystem.Children
import ModuleArchive.Proofs.Index.Recording
import ModuleArchive.Proofs.Cache.Recorded
import ModuleArchive.Proofs.Filesystem.Offline
import ModuleArchive.Proofs.Cache.Immutable
import ModuleArchive.Proofs.Cache.Stale
import ModuleArchive.Proofs.Cache.Locks
import ModuleArchive.Proofs.Cache.Interleaving
import ModuleArchive.Proofs.Cache.Sections
import ModuleArchive.Proofs.Cache.SingleFlight
import ModuleArchive.Proofs.Cache.Overtaking
import ModuleArchive.Proofs.Cache.Provenance
import ModuleArchive.Proofs.Catalog.Hint
import ModuleArchive.Proofs.Html.Written
import ModuleArchive.Proofs.Remote.Layout
import ModuleArchive.Proofs.Remote.GroupPage
import ModuleArchive.Proofs.Url.Printed
import ModuleArchive.Proofs.Html.Arena
import ModuleArchive.Proofs.Html.Lexing
import ModuleArchive.Proofs.Remote.TrackPage
import ModuleArchive.Proofs.Html.Building
import ModuleArchive.Proofs.Html.Position
import ModuleArchive.Proofs.Html.Reading
import ModuleArchive.Proofs.Remote.Markup
import ModuleArchive.Proofs.Remote.Count
import ModuleArchive.Proofs.Remote.Entries
import ModuleArchive.Proofs.Storage.Directory
import ModuleArchive.Proofs.Storage.WellFormed
import ModuleArchive.Proofs.Remote.Pagination
import ModuleArchive.Proofs.Cache.Refresh
import ModuleArchive.Proofs.Storage.Confinement
import ModuleArchive.Proofs.Index.Finding
import ModuleArchive.Proofs.Filesystem.Ancestry
import ModuleArchive.Proofs.Remote.Search
import ModuleArchive.Proofs.Index.Keys
import ModuleArchive.Proofs.Index.Independence
import ModuleArchive.Index.Statement
import ModuleArchive.Proofs.Index.Transaction
import ModuleArchive.Cache.Age
import ModuleArchive.Proofs.Cache.Trust
import ModuleArchive.Proofs.Url.Form
import ModuleArchive.Proofs.Remote.PageUrl
import ModuleArchive.Proofs.Catalog.Consuming
import ModuleArchive.Cache.Locks.Shared
import ModuleArchive.Proofs.Cache.SharedLocks
import ModuleArchive.Proofs.Cache.Exclusion
