import EntitySql.Action
import EntitySql.Backend
import EntitySql.Backend.Script
import EntitySql.Binding
import EntitySql.Calendar.Date
import EntitySql.Calendar.DateTime
import EntitySql.Calendar.Pattern
import EntitySql.Calendar.Rfc3339
import EntitySql.Calendar.Time
import EntitySql.Call
import EntitySql.Chunk
import EntitySql.Condition
import EntitySql.Datum
import EntitySql.Diagnostic
import EntitySql.Entity
import EntitySql.Entity.Column
import EntitySql.Entity.StorageName
import EntitySql.Entries
import EntitySql.Error
import EntitySql.Gateway
import EntitySql.Hooks
import EntitySql.Hooks.Scripted
import EntitySql.Item
import EntitySql.Item.Document
import EntitySql.Item.Field
import EntitySql.Json
import EntitySql.Json.Reader
import EntitySql.Key
import EntitySql.LikeMode
import EntitySql.Number.Binary
import EntitySql.Number.Shortest
import EntitySql.Number.Text
import EntitySql.Operator
import EntitySql.Options
import EntitySql.Options.Environment
import EntitySql.Order
import EntitySql.Outcome
import EntitySql.Predicate
import EntitySql.Predicate.OfField
import EntitySql.Proofs.Command
import EntitySql.Proofs.ConditionText
import EntitySql.Proofs.Deletion
import EntitySql.Proofs.Distinct
import EntitySql.Proofs.FieldForm
import EntitySql.Proofs.Grouping
import EntitySql.Proofs.Meaning
import EntitySql.Proofs.Membership
import EntitySql.Proofs.ParameterNames
import EntitySql.Proofs.Parentheses
import EntitySql.Proofs.PredicateText
import EntitySql.Proofs.QueryParameters
import EntitySql.Proofs.QueryText
import EntitySql.Proofs.Reader
import EntitySql.Proofs.SearchCondition
import EntitySql.Proofs.Shapes
import EntitySql.Proofs.Spelling
import EntitySql.Proofs.StatementText
import EntitySql.Proofs.Token
import EntitySql.Proofs.Truth
import EntitySql.Proofs.Uses
import EntitySql.Proofs.WrittenRows
import EntitySql.Query
import EntitySql.Query.Delete
import EntitySql.Query.Find
import EntitySql.Query.Insert
import EntitySql.Query.Update
import EntitySql.Registry
import EntitySql.Relation
import EntitySql.Row
import EntitySql.Row.Document
import EntitySql.Row.Json
import EntitySql.Shape
import EntitySql.Sql.Batch
import EntitySql.Sql.Identifier
import EntitySql.SqlType
import EntitySql.Text.Alphanumeric
import EntitySql.Text.Base64
import EntitySql.Text.Blank
import EntitySql.Text.Digits
import EntitySql.Text.Escaped
import EntitySql.Text.Hexadecimal
import EntitySql.Text.Lowercase
import EntitySql.Text.Order
import EntitySql.Text.Printable
import EntitySql.Text.Search
import EntitySql.Transaction
import EntitySql.Unrecognized
import EntitySql.Value
import EntitySql.Values
import EntitySql.Proofs.Partition
import EntitySql.Proofs.Writing
import EntitySql.Proofs.Insertion
import EntitySql.Proofs.Updating
import EntitySql.Proofs.Access
import EntitySql.Proofs.NestedLoops
import EntitySql.Proofs.Resolution
import EntitySql.Proofs.Validation
import EntitySql.Proofs.Builder
import EntitySql.Proofs.Coverage
import EntitySql.Proofs.DeclaredColumns
import EntitySql.Proofs.Alike
import EntitySql.Proofs.AlikeFields
import EntitySql.Proofs.AlikeRows
import EntitySql.Proofs.ValueFree
import EntitySql.Proofs.Alternatives
import EntitySql.Proofs.Course
import EntitySql.Proofs.FailFast
import EntitySql.Proofs.BoundConnection
import EntitySql.Proofs.TransactionJournal
import EntitySql.Proofs.Registration
import EntitySql.Proofs.CalendarText
import EntitySql.Proofs.Rebinding
import EntitySql.Proofs.DeletedKeys
import EntitySql.Proofs.NullElements
import EntitySql.Proofs.IntegerBinding
import EntitySql.Proofs.ReportedPlaces
import EntitySql.Proofs.Comparisons
import EntitySql.Proofs.UnmatchedKeys
import EntitySql.Proofs.LikePattern
import EntitySql.Proofs.Words
import EntitySql.Proofs.SortSpecification
import EntitySql.Proofs.NameBytes
import EntitySql.Proofs.ItemHistory
import EntitySql.Proofs.Vocabulary
import EntitySql.Proofs.WellFormedJson
import EntitySql.Proofs.DocumentForm
import EntitySql.Proofs.CalendarCount
import EntitySql.Proofs.Instants
import EntitySql.Proofs.QuotedNames
import EntitySql.Proofs.StorageNames
