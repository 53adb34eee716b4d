import ColumnQuery.Main
import ColumnQuery.Proofs.Agreement
import ColumnQuery.Proofs.CommandLine
import ColumnQuery.Proofs.Condition.Like
import ColumnQuery.Proofs.Condition.OneValue
import ColumnQuery.Proofs.Condition.ReadBack
import ColumnQuery.Proofs.Condition.Rows
import ColumnQuery.Proofs.Condition.Units
import ColumnQuery.Proofs.Lexing.Compiled
import ColumnQuery.Proofs.Params
import ColumnQuery.Proofs.Query.Lookups
import ColumnQuery.Proofs.Query.NamingRule
import ColumnQuery.Proofs.Query.NullClauses
import ColumnQuery.Proofs.Query.Printed
import ColumnQuery.Proofs.Query.ResultNames
import ColumnQuery.Proofs.Query.SortTargets
import ColumnQuery.Proofs.Query.Violations
import ColumnQuery.Proofs.Renaming
import ColumnQuery.Proofs.Sql.Pieces
import ColumnQuery.Proofs.Template.Comments
import ColumnQuery.Proofs.Template.Faults
import ColumnQuery.Proofs.Template.Grammar
import ColumnQuery.Proofs.Template.Isolation
import ColumnQuery.Proofs.Template.Meaning
import ColumnQuery.Proofs.Sql.Windows
import ColumnQuery.Proofs.Environment
import ColumnQuery.Proofs.Calendar.Texts
import ColumnQuery.Proofs.KeptNames
import ColumnQuery.Proofs.Sql.Times
import ColumnQuery.Proofs.Settings.Catalog
import ColumnQuery.Proofs.Settings.Documents
