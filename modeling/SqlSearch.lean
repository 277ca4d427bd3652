import SqlSearch.Compile.Error
import SqlSearch.Compile.Filter
import SqlSearch.Compile.Metrics
import SqlSearch.Compile.Statement
import SqlSearch.Document.Aggregation
import SqlSearch.Document.Basic
import SqlSearch.Document.Clause
import SqlSearch.Document.OfSql
import SqlSearch.Entries
import SqlSearch.Field
import SqlSearch.Json.Basic
import SqlSearch.Json.Printer
import SqlSearch.Main
import SqlSearch.Options
import SqlSearch.Program.Arguments
import SqlSearch.Program.Run
import SqlSearch.Proofs.Acceptance
import SqlSearch.Proofs.AggregationFields
import SqlSearch.Proofs.AggregationMode
import SqlSearch.Proofs.Buckets
import SqlSearch.Proofs.ByteCuts
import SqlSearch.Proofs.ColumnReference
import SqlSearch.Proofs.CommandLine
import SqlSearch.Proofs.Dependence
import SqlSearch.Proofs.Document
import SqlSearch.Proofs.FieldName
import SqlSearch.Proofs.Filter
import SqlSearch.Proofs.Flattening
import SqlSearch.Proofs.Json.Grammar
import SqlSearch.Proofs.Json.KeyOrder
import SqlSearch.Proofs.Json.Layout
import SqlSearch.Proofs.Json.Reader
import SqlSearch.Proofs.Json.Structure
import SqlSearch.Proofs.Meaning
import SqlSearch.Proofs.MetricTable
import SqlSearch.Proofs.Metrics
import SqlSearch.Proofs.NumberToken
import SqlSearch.Proofs.Outcome
import SqlSearch.Proofs.Parentheses
import SqlSearch.Proofs.Place
import SqlSearch.Proofs.ReadBack
import SqlSearch.Proofs.Reduction
import SqlSearch.Proofs.RowCount
import SqlSearch.Proofs.Shape
import SqlSearch.Proofs.StrictMode
import SqlSearch.Proofs.StringLiteral
import SqlSearch.Proofs.Subquery
import SqlSearch.Request.Condition
import SqlSearch.Request.OfSql
import SqlSearch.Request.Statement
import SqlSearch.Sql.Expr
import SqlSearch.Sql.Keyword
import SqlSearch.Sql.Lexer
import SqlSearch.Sql.Name
import SqlSearch.Sql.Parser.Alter
import SqlSearch.Sql.Parser.Basic
import SqlSearch.Sql.Parser.Call
import SqlSearch.Sql.Parser.Change
import SqlSearch.Sql.Parser.Column
import SqlSearch.Sql.Parser.Grammar
import SqlSearch.Sql.Parser.Name
import SqlSearch.Sql.Parser.Operand
import SqlSearch.Sql.Parser.Operator
import SqlSearch.Sql.Parser.Privilege
import SqlSearch.Sql.Parser.Query
import SqlSearch.Sql.Parser.Routine
import SqlSearch.Sql.Parser.RowPattern
import SqlSearch.Sql.Parser.Schema
import SqlSearch.Sql.Parser.Session
import SqlSearch.Sql.Parser.Statement
import SqlSearch.Sql.Parser.Table
import SqlSearch.Sql.Parser.TableForm
import SqlSearch.Sql.Parser.TypeName
import SqlSearch.Sql.Parser.Upkeep
import SqlSearch.Sql.Precedence
import SqlSearch.Sql.Query
import SqlSearch.Sql.Token
import SqlSearch.Sql.Value
import SqlSearch.Text.Blank
import SqlSearch.Text.Letter
import SqlSearch.Text.Lowercase
import SqlSearch.Text.Ranges
