import SqlQuery.Script.Clauses
import SqlQuery.Script.DialectMethods
import SqlQuery.Script.Functions
import SqlQuery.Script.SettingsSteps
import SqlQuery.Script.Statements
import SqlQuery.Session.Naming
import SqlQuery.Steps.Adapter
import SqlQuery.Steps.Collection
import SqlQuery.Steps.Connections
import SqlQuery.Steps.Layers
import SqlQuery.Steps.Numbering
import SqlQuery.Steps.Registry
import SqlQuery.Proofs.Layout
import SqlQuery.Proofs.Results
import SqlQuery.Proofs.Writing
import SqlQuery.Proofs.Clauses
import SqlQuery.Proofs.Queries
import SqlQuery.Proofs.Numbers
import SqlQuery.Proofs.Requests
import SqlQuery.Proofs.Placeholders
import SqlQuery.Proofs.Blank
import SqlQuery.Proofs.BlankText
import SqlQuery.Proofs.HiddenValues
import SqlQuery.Proofs.PairingOrder
import SqlQuery.Proofs.KeyedRows
import SqlQuery.Proofs.Effects
import SqlQuery.Proofs.Sending
import SqlQuery.Proofs.PathLiterals
import SqlQuery.Proofs.Recording
import SqlQuery.Proofs.Durability
import SqlQuery.Proofs.Transactions
import SqlQuery.Proofs.CursorTables
import SqlQuery.Proofs.IdBatches
import SqlQuery.Proofs.CachedWrites
import SqlQuery.Proofs.TimedMaps
import SqlQuery.Proofs.Writable
import SqlQuery.Proofs.DialectAgreement
import SqlQuery.Proofs.CompoundPaging
import SqlQuery.Proofs.TransactionScopes
import SqlQuery.Proofs.AppliedScopes
import SqlQuery.Proofs.FailedScopes
import SqlQuery.Proofs.AsynchronousReads
import SqlQuery.Proofs.SoundSessions
import SqlQuery.Proofs.CursorBounds
import SqlQuery.Proofs.CachedReads
import SqlQuery.Proofs.LoggedCalls
import SqlQuery.Proofs.Sections
import SqlQuery.Proofs.FixedResults
import SqlQuery.Proofs.SimplePages
import SqlQuery.Proofs.Histories
import SqlQuery.Proofs.OffsetBatches
import SqlQuery.Proofs.CursorPages
import SqlQuery.Proofs.TopLevelWords
import SqlQuery.Proofs.FilterTexts
import SqlQuery.Proofs.RawBounds
import SqlQuery.Proofs.SlotAccounts
import SqlQuery.Proofs.CountedPages
import SqlQuery.Proofs.CountStatements
import SqlQuery.Proofs.DigitTexts
import SqlQuery.Proofs.JsonTexts
import SqlQuery.Proofs.PlainTexts
import SqlQuery.Proofs.CacheKeys
import SqlQuery.Proofs.PolledSlots
import SqlQuery.Proofs.WholeFetches
import SqlQuery.Proofs.RaggedRows
import SqlQuery.Proofs.InsertedRows
import SqlQuery.Proofs.ConflictClauses
import SqlQuery.Proofs.SharedConditions
import SqlQuery.Proofs.PairedOperations
import SqlQuery.Proofs.NullAttributes
import SqlQuery.Proofs.BuilderQueries
import SqlQuery.Proofs.TextArrays
import SqlQuery.Proofs.NegatedFilters
import SqlQuery.Proofs.RefusedCalls
import SqlQuery.Proofs.StandardLiterals
import SqlQuery.Proofs.ShownMarkers
import SqlQuery.Proofs.AggregateResults
import SqlQuery.Proofs.Projections
import SqlQuery.Proofs.DefaultConnections
import SqlQuery.Proofs.GroupedRows
import SqlQuery.Proofs.Phrases
import SqlQuery.Proofs.ShownOperators
import SqlQuery.Proofs.WidenedChanges
import SqlQuery.Proofs.RawSegments
