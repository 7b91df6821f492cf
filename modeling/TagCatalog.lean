import TagCatalog.Auth.Authorizer
import TagCatalog.Auth.Challenge
import TagCatalog.Auth.ChallengeSet
import TagCatalog.Auth.Credentials
import TagCatalog.Auth.Store
import TagCatalog.Auth.Token
import TagCatalog.Calendar
import TagCatalog.Catalog
import TagCatalog.Catalog.Builder
import TagCatalog.Config
import TagCatalog.Config.Json
import TagCatalog.Connection
import TagCatalog.Digest
import TagCatalog.Double
import TagCatalog.Double.Reader
import TagCatalog.Double.Shortest
import TagCatalog.Error
import TagCatalog.FanOut
import TagCatalog.Http.Exchange
import TagCatalog.Http.Message
import TagCatalog.Http.Script
import TagCatalog.Json
import TagCatalog.Json.Reader
import TagCatalog.Json.Token
import TagCatalog.Proofs.Catalog.Fetch
import TagCatalog.Proofs.FanOut.Coordination
import TagCatalog.Proofs.FanOut.Schedule
import TagCatalog.Proofs.Record.Recency
import TagCatalog.Proofs.Record.Ties
import TagCatalog.Proofs.Registry.Listing
import TagCatalog.Proofs.Registry.Page
import TagCatalog.Proofs.Session.Interleaving
import TagCatalog.Proofs.Session.Log
import TagCatalog.Record
import TagCatalog.Record.Json
import TagCatalog.Registry.Client
import TagCatalog.Registry.Link
import TagCatalog.Repository
import TagCatalog.Repository.Name
import TagCatalog.Session
import TagCatalog.Setting
import TagCatalog.Setting.Decode
import TagCatalog.Setting.Path
import TagCatalog.Setting.Yaml
import TagCatalog.Text.Base64
import TagCatalog.Text.Blank
import TagCatalog.Text.CodePoints
import TagCatalog.Text.Hex
import TagCatalog.Text.Numeral
import TagCatalog.Text.Quoted
import TagCatalog.Text.Split
import TagCatalog.Text.Utf8
import TagCatalog.Url
import TagCatalog.Url.Address
import TagCatalog.Url.Domain
import TagCatalog.Url.Form
import TagCatalog.Url.Idna.Classes
import TagCatalog.Url.Idna.Composition
import TagCatalog.Url.Idna.Mapping
import TagCatalog.Url.Idna.Table
import TagCatalog.Url.Parser
import TagCatalog.Url.Percent
import TagCatalog.Url.Punycode
import TagCatalog.Version
import TagCatalog.Yaml.Lexer
import TagCatalog.Yaml.Node
import TagCatalog.Yaml.Reader
import TagCatalog.Yaml.Token
import TagCatalog.Proofs.Auth.Exchange
import TagCatalog.Proofs.Text.Blank
import TagCatalog.Proofs.Text.Split
import TagCatalog.Proofs.Registry.Link
import TagCatalog.Proofs.Auth.Challenge
import TagCatalog.Proofs.Url.Host
import TagCatalog.Proofs.Url.Origin
import TagCatalog.Proofs.Registry.Origin
import TagCatalog.Proofs.Session.Stateless
import TagCatalog.Proofs.Catalog.Branches
import TagCatalog.Proofs.Auth.Alike
import TagCatalog.Proofs.Catalog.Password
import TagCatalog.Proofs.Auth.Refresh
import TagCatalog.Proofs.Registry.Refresh
import TagCatalog.Proofs.Url.Append
import TagCatalog.Proofs.Registry.Discovery
import TagCatalog.Proofs.Catalog.Stages
import TagCatalog.Proofs.Text.Language
import TagCatalog.Proofs.Repository.Name
import TagCatalog.Proofs.Auth.Framing
import TagCatalog.Proofs.Url.Path
import TagCatalog.Proofs.Registry.Address
import TagCatalog.Proofs.Url.Segment
import TagCatalog.Proofs.Registry.Manifest
import TagCatalog.Proofs.Text.Numeral
import TagCatalog.Proofs.Record.Tag
import TagCatalog.Proofs.Registry.Asking
import TagCatalog.Proofs.Registry.Wire
import TagCatalog.Proofs.Url.Mark
import TagCatalog.Proofs.Registry.Endpoint
import TagCatalog.Proofs.Auth.Collection
import TagCatalog.Proofs.Text.Utf8
import TagCatalog.Proofs.Url.Form
import TagCatalog.Proofs.Auth.Parameters
import TagCatalog.Proofs.Auth.Outcome
import TagCatalog.Proofs.Repository.Letters
import TagCatalog.Proofs.Auth.Pieces
import TagCatalog.Proofs.Auth.Malformed
import TagCatalog.Proofs.Digest.Grammar
import TagCatalog.Proofs.Catalog.LookUp
import TagCatalog.Proofs.Catalog.Reference
import TagCatalog.Proofs.Text.Base64
import TagCatalog.Proofs.Auth.Credentials
import TagCatalog.Proofs.Catalog.Builder
import TagCatalog.Proofs.Registry.EmptyTokens
import TagCatalog.Proofs.Http.Joined
import TagCatalog.Proofs.Registry.LinkFields
import TagCatalog.Proofs.Calendar.Gregorian
import TagCatalog.Proofs.Calendar.Time
import TagCatalog.Proofs.Config.Layers
import TagCatalog.Proofs.Config.Load
import TagCatalog.Proofs.Json.Token
import TagCatalog.Proofs.Record.Date
import TagCatalog.Proofs.Record.Json
