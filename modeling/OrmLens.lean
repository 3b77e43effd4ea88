import OrmLens.Bounded
import OrmLens.Cli
import OrmLens.Cursor.Chain
import OrmLens.Cursor.Completion
import OrmLens.Cursor.Context
import OrmLens.Cursor.LineForm
import OrmLens.Cursor.Scope
import OrmLens.Cursor.Symbol
import OrmLens.Document
import OrmLens.Framework.Defaults
import OrmLens.Framework.FieldType
import OrmLens.Framework.QuerySet
import OrmLens.Index.Basic
import OrmLens.Index.Cache
import OrmLens.Index.Graph
import OrmLens.Json.Basic
import OrmLens.Json.Parser
import OrmLens.Json.Printer
import OrmLens.Main
import OrmLens.Model.DefaultValue
import OrmLens.Model.Encode
import OrmLens.Model.Entity
import OrmLens.Model.Field
import OrmLens.Model.Inheritance
import OrmLens.Model.Location
import OrmLens.Model.Members
import OrmLens.Model.Named
import OrmLens.Model.Relation
import OrmLens.Model.Reverse
import OrmLens.Model.Schema
import OrmLens.Model.SourceUnit
import OrmLens.Number.Binary64
import OrmLens.Number.Integer
import OrmLens.Proofs.AbstractModels
import OrmLens.Proofs.Accessors
import OrmLens.Proofs.Address
import OrmLens.Proofs.ClassBody
import OrmLens.Proofs.Columns
import OrmLens.Proofs.Cursor.ChainText
import OrmLens.Proofs.Cursor.Environment
import OrmLens.Proofs.Cursor.Grounded
import OrmLens.Proofs.Cursor.Keywords
import OrmLens.Proofs.Cursor.LineComment
import OrmLens.Proofs.Cursor.Locations
import OrmLens.Proofs.Cursor.LookBack
import OrmLens.Proofs.Cursor.ManagerChain
import OrmLens.Proofs.Cursor.Narrowing
import OrmLens.Proofs.Cursor.OpenCall
import OrmLens.Proofs.Cursor.PendingEscape
import OrmLens.Proofs.Cursor.Precedence
import OrmLens.Proofs.Cursor.Selection
import OrmLens.Proofs.Cursor.TrailingBytes
import OrmLens.Proofs.Cursor.TrailingChain
import OrmLens.Proofs.Extraction
import OrmLens.Proofs.Index.Cache
import OrmLens.Proofs.Index.Commit
import OrmLens.Proofs.Index.CommitOrder
import OrmLens.Proofs.Index.Eviction
import OrmLens.Proofs.Index.FiledRelations
import OrmLens.Proofs.Index.Freshness
import OrmLens.Proofs.Index.LiveReports
import OrmLens.Proofs.Index.Members
import OrmLens.Proofs.Index.NameSearch
import OrmLens.Proofs.Index.Ownership
import OrmLens.Proofs.Index.ReverseAccessors
import OrmLens.Proofs.Index.Succession
import OrmLens.Proofs.Inheritance
import OrmLens.Proofs.Lines
import OrmLens.Proofs.ManagerMethods
import OrmLens.Proofs.Named
import OrmLens.Proofs.Positions
import OrmLens.Proofs.RelationTargets
import OrmLens.Proofs.Schema
import OrmLens.Proofs.Server.DeletedUnit
import OrmLens.Proofs.Server.Invariant
import OrmLens.Proofs.Server.Moves
import OrmLens.Proofs.Server.OpenDocument
import OrmLens.Proofs.Server.RemovedFolder
import OrmLens.Proofs.Server.Replacement
import OrmLens.Proofs.Server.Restoration
import OrmLens.Proofs.Server.RestoredNames
import OrmLens.Proofs.Server.Rival
import OrmLens.Proofs.Server.Step
import OrmLens.Proofs.Source.Blocks
import OrmLens.Proofs.Source.Bodies
import OrmLens.Proofs.Source.Groups
import OrmLens.Proofs.Source.Heads
import OrmLens.Proofs.Source.Joining
import OrmLens.Proofs.Source.Layout
import OrmLens.Proofs.Source.Lockstep
import OrmLens.Proofs.Source.Places
import OrmLens.Proofs.Source.Recovery
import OrmLens.Proofs.Source.Search
import OrmLens.Proofs.Source.Spacing
import OrmLens.Proofs.Source.Splitting
import OrmLens.Proofs.StringLiterals
import OrmLens.Proofs.Table
import OrmLens.Proofs.Words
import OrmLens.Server.Answer
import OrmLens.Server.Config
import OrmLens.Server.Frame
import OrmLens.Server.Item
import OrmLens.Server.Message
import OrmLens.Server.Reads
import OrmLens.Server.Shape
import OrmLens.Server.Shape.Client
import OrmLens.Server.Shape.Document
import OrmLens.Server.Shape.Params
import OrmLens.Server.State
import OrmLens.Server.Step
import OrmLens.Settings
import OrmLens.Source.Argument
import OrmLens.Source.Assignment
import OrmLens.Source.Declaration
import OrmLens.Source.Error
import OrmLens.Source.Lexical
import OrmLens.Source.Method
import OrmLens.Source.Pattern
import OrmLens.Source.Span
import OrmLens.Table
import OrmLens.Text.Alphabetic
import OrmLens.Text.Basic
import OrmLens.Text.CaseTable
import OrmLens.Text.CharClass
import OrmLens.Text.LetterCase
import OrmLens.Text.Line
import OrmLens.Text.PrintTable
import OrmLens.Text.Quoted
import OrmLens.Text.Utf8
import OrmLens.UnitPath
import OrmLens.Workspace.FileTree
import OrmLens.Workspace.Glob
import OrmLens.Workspace.Uri
