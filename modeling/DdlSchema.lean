import DdlSchema.Main
import DdlSchema.Proofs.Schema.BatchFallback
import DdlSchema.Proofs.Schema.Cardinality
import DdlSchema.Proofs.Schema.ConstraintPlacement
import DdlSchema.Proofs.Schema.Indexing
import DdlSchema.Proofs.Schema.KeyNulls
import DdlSchema.Proofs.Schema.KeyPlacement
import DdlSchema.Proofs.Schema.Preparation
import DdlSchema.Proofs.Text.Lowering
import DdlSchema.Proofs.Schema.Isolation
import DdlSchema.Proofs.Schema.TableLookup
import DdlSchema.Proofs.Ddl.Screening
import DdlSchema.Proofs.Schema.Growth
import DdlSchema.Proofs.Schema.Screened
import DdlSchema.Proofs.Text.Elements
import DdlSchema.Proofs.Text.Level
import DdlSchema.Proofs.Statement.NoiseElements
import DdlSchema.Proofs.Statement.NoiseWords
import DdlSchema.Proofs.Statement.TableColumns
import DdlSchema.Proofs.Schema.TypeFixpoint
import DdlSchema.Proofs.Schema.Declaration
import DdlSchema.Proofs.Schema.Redefinition
import DdlSchema.Proofs.Ddl.TokenScreen
import DdlSchema.Proofs.Schema.ClauseContents
import DdlSchema.Proofs.Text.Separation
import DdlSchema.Proofs.Schema.MergedKeys
import DdlSchema.Proofs.Text.Spelling
import DdlSchema.Proofs.Text.Enumeration
import DdlSchema.Proofs.Schema.Misspelling
import DdlSchema.Proofs.Schema.ClauseHeader
import DdlSchema.Proofs.Schema.ClauseList
import DdlSchema.Proofs.Schema.KeyReplacement
import DdlSchema.Proofs.Text.CommentSeams
import DdlSchema.Proofs.Schema.ConstraintOrder
import DdlSchema.Proofs.Schema.KeyRanking
import DdlSchema.Proofs.Statement.TableComment
import DdlSchema.Proofs.Schema.TypeSpelling
import DdlSchema.Proofs.Text.Unmasking
import DdlSchema.Proofs.Text.ClosingParen
import DdlSchema.Proofs.Text.ColumnList
import DdlSchema.Proofs.Text.ListedColumns
import DdlSchema.Proofs.Schema.ReferentialActions
