import ResourceCatalog.Catalog
import ResourceCatalog.Command.Arguments
import ResourceCatalog.Command.Execute
import ResourceCatalog.Command.Level
import ResourceCatalog.Command.Output
import ResourceCatalog.Command.Table
import ResourceCatalog.Command.Usage
import ResourceCatalog.Config.Error
import ResourceCatalog.Config.Files
import ResourceCatalog.Config.Load
import ResourceCatalog.Config.Path
import ResourceCatalog.Config.Reading
import ResourceCatalog.Config.Settings
import ResourceCatalog.Config.Value
import ResourceCatalog.Config.Variables
import ResourceCatalog.Database.Error
import ResourceCatalog.Database.Pattern
import ResourceCatalog.Database.Program
import ResourceCatalog.Database.Repository
import ResourceCatalog.Database.Row
import ResourceCatalog.Database.Schema
import ResourceCatalog.Database.Script
import ResourceCatalog.Database.Statement
import ResourceCatalog.Database.Url
import ResourceCatalog.Decimal.Layout
import ResourceCatalog.Decimal.Nearest
import ResourceCatalog.Decimal.Shortest
import ResourceCatalog.Failure
import ResourceCatalog.Id.Basic
import ResourceCatalog.Id.Spelling
import ResourceCatalog.Id.Uuid
import ResourceCatalog.Json.Number
import ResourceCatalog.Json.Problem
import ResourceCatalog.Json.Reader
import ResourceCatalog.Json.Token
import ResourceCatalog.Json.Tree
import ResourceCatalog.Json.Value
import ResourceCatalog.Main
import ResourceCatalog.Page.Data
import ResourceCatalog.Page.Link
import ResourceCatalog.Page.SortOrder
import ResourceCatalog.Page.Walk
import ResourceCatalog.Proofs.Command.Arguments
import ResourceCatalog.Proofs.Command.Failures
import ResourceCatalog.Proofs.Command.ListAll
import ResourceCatalog.Proofs.Command.LongArguments
import ResourceCatalog.Proofs.Command.PageText
import ResourceCatalog.Proofs.Config.Merging
import ResourceCatalog.Proofs.Config.Reading
import ResourceCatalog.Proofs.Config.Resolution
import ResourceCatalog.Proofs.Database.Agreement
import ResourceCatalog.Proofs.Database.Course
import ResourceCatalog.Proofs.Database.Exchanges
import ResourceCatalog.Proofs.Database.Failures
import ResourceCatalog.Proofs.Database.Masking
import ResourceCatalog.Proofs.Database.PageNumbers
import ResourceCatalog.Proofs.Database.Pattern
import ResourceCatalog.Proofs.Database.Places
import ResourceCatalog.Proofs.Database.Replies
import ResourceCatalog.Proofs.Database.Reports
import ResourceCatalog.Proofs.Database.SortKey
import ResourceCatalog.Proofs.Database.SortText
import ResourceCatalog.Proofs.Database.Transaction
import ResourceCatalog.Proofs.Database.Window
import ResourceCatalog.Proofs.Id.Bytes
import ResourceCatalog.Proofs.Id.Layout
import ResourceCatalog.Proofs.Id.Order
import ResourceCatalog.Proofs.Id.Reading
import ResourceCatalog.Proofs.Id.Spelling
import ResourceCatalog.Proofs.Json.Numeral
import ResourceCatalog.Proofs.Json.Quoted
import ResourceCatalog.Proofs.Json.Reader
import ResourceCatalog.Proofs.Json.Text
import ResourceCatalog.Proofs.Json.Tree
import ResourceCatalog.Proofs.Page.Existence
import ResourceCatalog.Proofs.Page.Growth
import ResourceCatalog.Proofs.Page.Json
import ResourceCatalog.Proofs.Page.Link
import ResourceCatalog.Proofs.Page.LinkJson
import ResourceCatalog.Proofs.Page.Progress
import ResourceCatalog.Proofs.Page.Slice
import ResourceCatalog.Proofs.Page.Walk
import ResourceCatalog.Proofs.Resource.Arrangement
import ResourceCatalog.Proofs.Resource.Json
import ResourceCatalog.Proofs.Resource.Ordering
import ResourceCatalog.Proofs.Resource.Sorting
import ResourceCatalog.Proofs.Resource.TextOrder
import ResourceCatalog.Proofs.Resource.TotalOrder
import ResourceCatalog.Proofs.Store.Algebra
import ResourceCatalog.Proofs.Store.Appends
import ResourceCatalog.Proofs.Store.Commutation
import ResourceCatalog.Proofs.Store.Consistency
import ResourceCatalog.Proofs.Store.Isolation
import ResourceCatalog.Proofs.Store.Lifetime
import ResourceCatalog.Proofs.Store.Listing
import ResourceCatalog.Proofs.Store.Lookup
import ResourceCatalog.Proofs.Store.Narrowing
import ResourceCatalog.Proofs.Store.Recasing
import ResourceCatalog.Proofs.Store.Rows
import ResourceCatalog.Proofs.Store.Search
import ResourceCatalog.Proofs.Store.Shadowing
import ResourceCatalog.Proofs.Store.Steps
import ResourceCatalog.Proofs.Text.Blank
import ResourceCatalog.Proofs.Text.Digits
import ResourceCatalog.Proofs.Text.Lowercase
import ResourceCatalog.Proofs.Text.Recasing
import ResourceCatalog.Proofs.Text.Utf8
import ResourceCatalog.Proofs.Time.Parser
import ResourceCatalog.Resource.Basic
import ResourceCatalog.Resource.Ordering
import ResourceCatalog.Resource.Type
import ResourceCatalog.Store.Basic
import ResourceCatalog.Store.Rows
import ResourceCatalog.Store.Run
import ResourceCatalog.Text.Ascii
import ResourceCatalog.Text.Blank
import ResourceCatalog.Text.CellWidth
import ResourceCatalog.Text.CodeOrder
import ResourceCatalog.Text.CodeRange
import ResourceCatalog.Text.DisplayClass
import ResourceCatalog.Text.Follower
import ResourceCatalog.Text.LetterCase
import ResourceCatalog.Text.Lowercase
import ResourceCatalog.Text.Quoted
import ResourceCatalog.Text.Unprintable
import ResourceCatalog.Time.Date
import ResourceCatalog.Time.Parser
import ResourceCatalog.Time.Timestamp
import ResourceCatalog.Toml.Document
import ResourceCatalog.Toml.Line
import ResourceCatalog.Toml.Moment
import ResourceCatalog.Toml.Number
import ResourceCatalog.Toml.Quote
import ResourceCatalog.Toml.Value
import ResourceCatalog.Word
