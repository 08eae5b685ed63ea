import Understudy.Bytes.Base64
import Understudy.Bytes.Basic
import Understudy.Bytes.Percent
import Understudy.CommandLine.Basic
import Understudy.CommandLine.Parser
import Understudy.CommandLine.Settings
import Understudy.Engine.Admin
import Understudy.Engine.Basic
import Understudy.Engine.Handle
import Understudy.Error
import Understudy.Files.Basic
import Understudy.Files.Mappings
import Understudy.Form.Basic
import Understudy.Form.Printing
import Understudy.Form.Reading
import Understudy.Forward.Client
import Understudy.Forward.Headers
import Understudy.Forward.Outbound
import Understudy.Forward.Relay
import Understudy.Forward.Target
import Understudy.Guid
import Understudy.Json.Basic
import Understudy.Json.Comparison
import Understudy.Json.Labelled
import Understudy.Json.Printer
import Understudy.Json.Written
import Understudy.JsonPath.Basic
import Understudy.JsonPath.Parser
import Understudy.Log.Basic
import Understudy.Log.Entry
import Understudy.Main
import Understudy.Mapping.Basic
import Understudy.Mapping.Form
import Understudy.Matcher.Basic
import Understudy.Matcher.Compile
import Understudy.Matcher.Input
import Understudy.Matcher.NumericRange
import Understudy.Matcher.Wildcard
import Understudy.Matching.Dimension
import Understudy.Matching.Form
import Understudy.Matching.Result
import Understudy.Net.Address
import Understudy.Net.Network
import Understudy.Number.Binary64
import Understudy.Number.Decimal
import Understudy.Number.Numeral
import Understudy.Proofs.Bytes.Base64
import Understudy.Proofs.Bytes.Percent
import Understudy.Proofs.Engine.Administration
import Understudy.Proofs.Engine.Chain
import Understudy.Proofs.Engine.Effects
import Understudy.Proofs.Engine.Events
import Understudy.Proofs.Engine.Handle
import Understudy.Proofs.Engine.Precedence
import Understudy.Proofs.Engine.Soundness
import Understudy.Proofs.Engine.Writes
import Understudy.Proofs.Error.Traversal
import Understudy.Proofs.Files.Directory
import Understudy.Proofs.Files.Mappings
import Understudy.Proofs.Files.SavedMappings
import Understudy.Proofs.Form.Limits
import Understudy.Proofs.Form.Reading
import Understudy.Proofs.Form.Storage
import Understudy.Proofs.Forward.Carried
import Understudy.Proofs.Forward.Failure
import Understudy.Proofs.Forward.Location
import Understudy.Proofs.Forward.Pool
import Understudy.Proofs.Forward.Relocation
import Understudy.Proofs.Forward.Target
import Understudy.Proofs.Guid
import Understudy.Proofs.Json.Containment
import Understudy.Proofs.Json.Free
import Understudy.Proofs.Json.Literal
import Understudy.Proofs.Json.Numbers
import Understudy.Proofs.Json.Strings
import Understudy.Proofs.Json.Texts
import Understudy.Proofs.Json.WholeNumbers
import Understudy.Proofs.Log.Expiry
import Understudy.Proofs.Log.Window
import Understudy.Proofs.Mapping.Form
import Understudy.Proofs.Mapping.Held
import Understudy.Proofs.Matcher.Compile
import Understudy.Proofs.Matcher.Duality
import Understudy.Proofs.Matcher.Form
import Understudy.Proofs.Matcher.Wildcard
import Understudy.Proofs.Matching.Body
import Understudy.Proofs.Matching.Form
import Understudy.Proofs.Matching.Named
import Understudy.Proofs.Net.AddressText
import Understudy.Proofs.Net.Network
import Understudy.Proofs.Number.Digits
import Understudy.Proofs.Number.Rounding
import Understudy.Proofs.Record.Reader
import Understudy.Proofs.Recording.Acceptance
import Understudy.Proofs.Recording.RepeatedFiles
import Understudy.Proofs.Recording.Repetition
import Understudy.Proofs.Recording.Replay
import Understudy.Proofs.Recording.Restart
import Understudy.Proofs.Recording.Stored
import Understudy.Proofs.Recording.Synthesis
import Understudy.Proofs.Regex.Series
import Understudy.Proofs.Regex.Spans
import Understudy.Proofs.Registry.History
import Understudy.Proofs.Registry.Selection
import Understudy.Proofs.Registry.Slots
import Understudy.Proofs.Request.Assembled
import Understudy.Proofs.Request.MultiMap
import Understudy.Proofs.Request.Target
import Understudy.Proofs.Response.Form
import Understudy.Proofs.Scenario.Finished
import Understudy.Proofs.Scenario.History
import Understudy.Proofs.Scenario.Store
import Understudy.Proofs.Scenario.Waits
import Understudy.Proofs.Score.Binary64
import Understudy.Proofs.Score.Lawful
import Understudy.Proofs.Score.Perfect
import Understudy.Proofs.Score.Rational
import Understudy.Proofs.Settings.Replacement
import Understudy.Proofs.Settings.StatusFilter
import Understudy.Proofs.Text.Ascending
import Understudy.Proofs.Text.Cut
import Understudy.Proofs.Text.Replacement
import Understudy.Proofs.Time.Calendar
import Understudy.Proofs.Time.Instant
import Understudy.Proofs.Url.Reread
import Understudy.Record.Reader
import Understudy.Record.Tree
import Understudy.Recording.Basic
import Understudy.Recording.Synthesis
import Understudy.Regex.Basic
import Understudy.Regex.Parser
import Understudy.Regex.Property
import Understudy.Regex.Replacement
import Understudy.Registry.Basic
import Understudy.Registry.Resolution
import Understudy.Request.Basic
import Understudy.Request.MultiMap
import Understudy.Request.Target
import Understudy.Response.Basic
import Understudy.Response.Form
import Understudy.Response.Wire
import Understudy.Scenario.Basic
import Understudy.Score.Fold
import Understudy.Score.Scale
import Understudy.Server.Basic
import Understudy.Settings.Proxy
import Understudy.Settings.Replacement
import Understudy.Settings.Server
import Understudy.Settings.Source
import Understudy.Settings.StatusFilter
import Understudy.Text.Ascending
import Understudy.Text.Ascii
import Understudy.Text.Blank
import Understudy.Text.Category
import Understudy.Text.CodePoints
import Understudy.Text.Cut
import Understudy.Text.Folding
import Understudy.Text.LetterCase
import Understudy.Text.Property
import Understudy.Text.PropertyName
import Understudy.Text.Script
import Understudy.Time.Calendar
import Understudy.Time.Instant
import Understudy.Url.Basic
import Understudy.Url.Fault
import Understudy.Url.Host
import Understudy.Url.Parser
import Understudy.Url.Punycode
import Understudy.World
import Understudy.XPath.Basic
import Understudy.XPath.Parser
import Understudy.XPath.Token
import Understudy.Xml.Basic
import Understudy.Xml.Parser
import Understudy.Yaml.Basic
import Understudy.Yaml.Cursor
import Understudy.Yaml.Parser
import Understudy.Yaml.Scalar
import Understudy.Yaml.Token
