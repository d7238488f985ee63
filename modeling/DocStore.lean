import DocStore.Document.Codec
import DocStore.Document.Reading
import DocStore.Document.Schema
import DocStore.DomainName.Ascii
import DocStore.DomainName.Direction
import DocStore.DomainName.Fault
import DocStore.DomainName.Joining
import DocStore.DomainName.Label
import DocStore.DomainName.Permitted
import DocStore.DomainName.Punycode
import DocStore.DomainName.Script
import DocStore.Failure
import DocStore.Failure.Kind
import DocStore.Filter.Basic
import DocStore.Filter.Reading
import DocStore.Filter.Selector
import DocStore.Http.Address
import DocStore.Http.Base64
import DocStore.Http.Call
import DocStore.Http.Endpoint
import DocStore.Http.Path
import DocStore.Http.Percent
import DocStore.Http.Remote
import DocStore.Http.Url
import DocStore.Json.Encoding
import DocStore.Json.Keys
import DocStore.Json.Reader
import DocStore.Json.Writer
import DocStore.Number.Decimal
import DocStore.Number.Double
import DocStore.Operator
import DocStore.Order.Insertion
import DocStore.Order.Key
import DocStore.Order.Runs
import DocStore.Order.Sort
import DocStore.Pattern.Basic
import DocStore.Pattern.Reading
import DocStore.Proofs.Document.Copies
import DocStore.Proofs.Document.Fields
import DocStore.Proofs.Document.Renaming
import DocStore.Proofs.Document.RoundTrip
import DocStore.Proofs.Filter.Alike
import DocStore.Proofs.Filter.Branching
import DocStore.Proofs.Filter.Forms
import DocStore.Proofs.Filter.Grouping
import DocStore.Proofs.Filter.Leaves
import DocStore.Proofs.Filter.Meaning
import DocStore.Proofs.Filter.Nesting
import DocStore.Proofs.Filter.Refusal
import DocStore.Proofs.Filter.Renaming
import DocStore.Proofs.Filter.Runs
import DocStore.Proofs.Filter.Tagged
import DocStore.Proofs.Filter.Texts
import DocStore.Proofs.Http.Address
import DocStore.Proofs.Http.Credentials
import DocStore.Proofs.Http.Cutting
import DocStore.Proofs.Http.Host
import DocStore.Proofs.Http.Percent
import DocStore.Proofs.Http.Resource
import DocStore.Proofs.Order.Collation
import DocStore.Proofs.Order.Lexicographic
import DocStore.Proofs.Order.Lists
import DocStore.Proofs.Order.Request
import DocStore.Proofs.Order.Sorted
import DocStore.Proofs.Session.Create
import DocStore.Proofs.Session.Deleting
import DocStore.Proofs.Session.FirstMatch
import DocStore.Proofs.Session.Indexes
import DocStore.Proofs.Session.Isolation
import DocStore.Proofs.Session.LastWritten
import DocStore.Proofs.Session.Matches
import DocStore.Proofs.Session.Named
import DocStore.Proofs.Session.Ordered
import DocStore.Proofs.Session.Ownership
import DocStore.Proofs.Session.Paging
import DocStore.Proofs.Session.Race
import DocStore.Proofs.Session.Removing
import DocStore.Proofs.Session.Replacing
import DocStore.Proofs.Session.Rereading
import DocStore.Proofs.Session.Rewriting
import DocStore.Proofs.Session.Scan
import DocStore.Proofs.Session.Tags
import DocStore.Proofs.Session.TwoRuns
import DocStore.Proofs.Session.Update
import DocStore.Proofs.Session.Upsert
import DocStore.Proofs.Session.Vanishing
import DocStore.Proofs.Session.WriteBack
import DocStore.Proofs.Session.Yields
import DocStore.Proofs.Store.History
import DocStore.Proofs.Store.Lives
import DocStore.Proofs.Text.Lowercase
import DocStore.Proofs.Text.Split
import DocStore.Proofs.Text.Utf8
import DocStore.Proofs.Value.Agreement
import DocStore.Proofs.Value.Equality
import DocStore.Proofs.Value.Path
import DocStore.Selector.Match
import DocStore.Session.Basic
import DocStore.Session.Read
import DocStore.Session.Scan
import DocStore.Session.Write
import DocStore.Settings.Basic
import DocStore.Settings.Reading
import DocStore.Store.Database
import DocStore.Store.Program
import DocStore.Store.Request
import DocStore.Store.Server
import DocStore.Store.Table
import DocStore.Store.Trouble
import DocStore.Text.Blank
import DocStore.Text.CodeRuns
import DocStore.Text.Composed
import DocStore.Text.Digit
import DocStore.Text.Lowercase
import DocStore.Text.Mark
import DocStore.Text.Numeral
import DocStore.Text.Printable
import DocStore.Text.Quoted
import DocStore.Text.Split
import DocStore.Text.Utf8
import DocStore.Value.Access
import DocStore.Value.Basic
import DocStore.Value.Entries
import DocStore.Value.Equality
import DocStore.Value.Path
import DocStore.Value.Written
