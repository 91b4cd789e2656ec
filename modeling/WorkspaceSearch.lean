import WorkspaceSearch.Condition
import WorkspaceSearch.Database.Answer
import WorkspaceSearch.Database.Basic
import WorkspaceSearch.Database.Cell
import WorkspaceSearch.Database.Limits
import WorkspaceSearch.Database.Location
import WorkspaceSearch.Database.Lookup
import WorkspaceSearch.Database.Opened
import WorkspaceSearch.Database.Rows
import WorkspaceSearch.Database.Saved
import WorkspaceSearch.Database.Scalar
import WorkspaceSearch.Database.Schema
import WorkspaceSearch.Database.Stored
import WorkspaceSearch.Database.Table
import WorkspaceSearch.Error
import WorkspaceSearch.Form.Options
import WorkspaceSearch.Form.Query
import WorkspaceSearch.Form.Result
import WorkspaceSearch.Form.SavedSearch
import WorkspaceSearch.Form.Settings
import WorkspaceSearch.Json.Form
import WorkspaceSearch.Json.Reader
import WorkspaceSearch.Json.Value
import WorkspaceSearch.Json.Writer
import WorkspaceSearch.Number.Decimal
import WorkspaceSearch.Number.Machine
import WorkspaceSearch.Number.Precision
import WorkspaceSearch.Number.Scientific
import WorkspaceSearch.Options
import WorkspaceSearch.Proofs.Text.Words
import WorkspaceSearch.Query.Operators
import WorkspaceSearch.Query.Parse
import WorkspaceSearch.Query.Rule
import WorkspaceSearch.Relevance.Context
import WorkspaceSearch.Relevance.Highlight
import WorkspaceSearch.Relevance.Score
import WorkspaceSearch.Result
import WorkspaceSearch.SavedSearch
import WorkspaceSearch.SavedSearch.Keeping
import WorkspaceSearch.Scope
import WorkspaceSearch.Search.File
import WorkspaceSearch.Search.Machine
import WorkspaceSearch.Search.Message
import WorkspaceSearch.Search.People
import WorkspaceSearch.Search.Request
import WorkspaceSearch.Search.Service
import WorkspaceSearch.Settings.Basic
import WorkspaceSearch.Settings.Document
import WorkspaceSearch.Settings.Folder
import WorkspaceSearch.Settings.Key
import WorkspaceSearch.Store.Call
import WorkspaceSearch.Store.Lookup
import WorkspaceSearch.Store.Row
import WorkspaceSearch.Suggestion
import WorkspaceSearch.Text.Blank
import WorkspaceSearch.Text.Like
import WorkspaceSearch.Text.LowerCase
import WorkspaceSearch.Text.LowerCase.Table
import WorkspaceSearch.Text.Numeral
import WorkspaceSearch.Text.Occurrence
import WorkspaceSearch.Text.Quoted
import WorkspaceSearch.Text.Quoted.Table
import WorkspaceSearch.Text.Runs
import WorkspaceSearch.Text.Terminated
import WorkspaceSearch.Time.Calendar
import WorkspaceSearch.Time.Instant
import WorkspaceSearch.Time.JulianDay
import WorkspaceSearch.Time.Pattern
import WorkspaceSearch.Time.Reading
import WorkspaceSearch.Time.Writing
import WorkspaceSearch.Toml.Number
import WorkspaceSearch.Toml.Quoted
import WorkspaceSearch.Toml.Reader
import WorkspaceSearch.Toml.Value
import WorkspaceSearch.Uuid
import WorkspaceSearch.Proofs.Query.Scan
import WorkspaceSearch.Proofs.Database.Keys
import WorkspaceSearch.Proofs.Database.Looking
import WorkspaceSearch.Proofs.Database.Newest
import WorkspaceSearch.Proofs.Database.Visible
import WorkspaceSearch.Proofs.Query.Reading
import WorkspaceSearch.Proofs.Search.Access
import WorkspaceSearch.Proofs.Search.Paging
import WorkspaceSearch.Proofs.Query.Token
import WorkspaceSearch.Proofs.Query.Pass
import WorkspaceSearch.Proofs.Query.Quotes
import WorkspaceSearch.Proofs.Query.Free
import WorkspaceSearch.Proofs.Query.Normal
import WorkspaceSearch.Proofs.Text.Matching
import WorkspaceSearch.Proofs.Relevance.Annotation
import WorkspaceSearch.Proofs.Number.Rounding
import WorkspaceSearch.Proofs.Time.Calendar
import WorkspaceSearch.Proofs.Text.Digits
import WorkspaceSearch.Proofs.Time.Milliseconds
import WorkspaceSearch.Proofs.Time.Stamp
import WorkspaceSearch.Proofs.Time.JulianScale
import WorkspaceSearch.Proofs.Database.Anchored
import WorkspaceSearch.Proofs.Search.Wanted
import WorkspaceSearch.Proofs.Search.Complete
import WorkspaceSearch.Proofs.Search.Isolation
import WorkspaceSearch.Proofs.Search.Restricted
import WorkspaceSearch.Proofs.Time.Text
import WorkspaceSearch.Proofs.Time.Scale
import WorkspaceSearch.Proofs.Database.Dated
import WorkspaceSearch.Proofs.Search.Dated
import WorkspaceSearch.Proofs.Json.Reading
import WorkspaceSearch.Proofs.SavedSearch.Stored
import WorkspaceSearch.Proofs.Database.Saved
import WorkspaceSearch.Proofs.SavedSearch.Keeping
import WorkspaceSearch.Proofs.Database.Shelf
import WorkspaceSearch.Proofs.SavedSearch.Lifetime
import WorkspaceSearch.Proofs.Database.History
import WorkspaceSearch.Proofs.Database.ReadBack
import WorkspaceSearch.Proofs.SavedSearch.Concurrent
import WorkspaceSearch.Proofs.Time.Order
import WorkspaceSearch.Proofs.Search.Recorded
import WorkspaceSearch.Proofs.FirstOccurrences
import WorkspaceSearch.Proofs.Database.Recent
import WorkspaceSearch.Proofs.Text.Folding
import WorkspaceSearch.Proofs.Database.Names
import WorkspaceSearch.Proofs.Search.Named
import WorkspaceSearch.Proofs.Query.Written
import WorkspaceSearch.Proofs.Database.Suggested
import WorkspaceSearch.Proofs.Text.Lowered
import WorkspaceSearch.Proofs.Search.Guarded
import WorkspaceSearch.Proofs.Database.Rearranged
import WorkspaceSearch.Proofs.Search.Rearranged
import WorkspaceSearch.Proofs.Search.Calls
import WorkspaceSearch.Proofs.Database.Excluded
import WorkspaceSearch.Proofs.Search.Excluded
import WorkspaceSearch.Proofs.Database.Linked
import WorkspaceSearch.Proofs.Search.Linked
import WorkspaceSearch.Proofs.Relevance.Highlight
import WorkspaceSearch.Proofs.Json.Whole
import WorkspaceSearch.Proofs.Form.Lossless
import WorkspaceSearch.Proofs.Form.RoundTrip
import WorkspaceSearch.Proofs.Database.Cascade
import WorkspaceSearch.Proofs.Database.Intact
import WorkspaceSearch.Proofs.Database.Integrity
import WorkspaceSearch.Proofs.Toml.Quoted
import WorkspaceSearch.Proofs.Toml.Number
import WorkspaceSearch.Proofs.Toml.Sections
import WorkspaceSearch.Proofs.Settings.Document
import WorkspaceSearch.Proofs.Settings.Folder
import WorkspaceSearch.Proofs.Text.Wildcards
import WorkspaceSearch.Proofs.Relevance.Context
import WorkspaceSearch.Proofs.Relevance.Pieces
import WorkspaceSearch.Proofs.Time.Counting
import WorkspaceSearch.Proofs.Time.Figures
import WorkspaceSearch.Proofs.Text.Numeral
import WorkspaceSearch.Proofs.Settings.Key
import WorkspaceSearch.Proofs.SavedSearch.Listing
import WorkspaceSearch.Proofs.Search.Suggestions
import WorkspaceSearch.Proofs.Database.Migrations
import WorkspaceSearch.Proofs.Search.Machine
