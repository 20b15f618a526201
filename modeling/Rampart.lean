import Rampart.Action.Basic
import Rampart.Action.Reference
import Rampart.Address
import Rampart.Anchored
import Rampart.Calendar
import Rampart.Checksum
import Rampart.Collection.Basic
import Rampart.Collection.Compartment
import Rampart.Collection.Entry
import Rampart.Collection.Registry
import Rampart.Decision
import Rampart.Engine
import Rampart.Error
import Rampart.Exceptions
import Rampart.Exclusions
import Rampart.FileTree
import Rampart.Handler
import Rampart.MacroText
import Rampart.MatchLog
import Rampart.MatchRecord
import Rampart.Operator.Basic
import Rampart.Operator.Reference
import Rampart.Pattern.Basic
import Rampart.Pattern.CharSet
import Rampart.Pattern.Error
import Rampart.Pattern.Expr
import Rampart.Pattern.Matcher
import Rampart.Pattern.Reader
import Rampart.Proofs.AddedTargets
import Rampart.Proofs.Answers
import Rampart.Proofs.BodyPlace
import Rampart.Proofs.ByteOrder
import Rampart.Proofs.Candidates
import Rampart.Proofs.CanonicalPath
import Rampart.Proofs.CaseFolding
import Rampart.Proofs.ChainShape
import Rampart.Proofs.ChainVerdict
import Rampart.Proofs.CheckDigits
import Rampart.Proofs.CodePoints
import Rampart.Proofs.CollectionNames
import Rampart.Proofs.CommentRemoval
import Rampart.Proofs.Compile
import Rampart.Proofs.Contents
import Rampart.Proofs.Counters
import Rampart.Proofs.DeclaredIds
import Rampart.Proofs.Denotation
import Rampart.Proofs.DirectFiles
import Rampart.Proofs.Disguise
import Rampart.Proofs.DryRun
import Rampart.Proofs.DuplicateIds
import Rampart.Proofs.EmptiedTargets
import Rampart.Proofs.Evidence
import Rampart.Proofs.Exhibit
import Rampart.Proofs.Footprint
import Rampart.Proofs.FormEncoding
import Rampart.Proofs.Frame
import Rampart.Proofs.Fresh
import Rampart.Proofs.History
import Rampart.Proofs.Includes
import Rampart.Proofs.Isolation
import Rampart.Proofs.JoinedTexts
import Rampart.Proofs.KeyExclusions
import Rampart.Proofs.KeyPrefix
import Rampart.Proofs.LeftmostPhrase
import Rampart.Proofs.LinkMatch
import Rampart.Proofs.LoadErrors
import Rampart.Proofs.Loading
import Rampart.Proofs.LogTail
import Rampart.Proofs.LongCodes
import Rampart.Proofs.LossyDecoding
import Rampart.Proofs.Matchers
import Rampart.Proofs.NameOrigins
import Rampart.Proofs.Networks
import Rampart.Proofs.NumberTests
import Rampart.Proofs.Numerals
import Rampart.Proofs.Occurrences
import Rampart.Proofs.Offsets
import Rampart.Proofs.Origins
import Rampart.Proofs.Overlap
import Rampart.Proofs.Parts
import Rampart.Proofs.PhaseRuns
import Rampart.Proofs.Places
import Rampart.Proofs.PlainKeys
import Rampart.Proofs.Purge
import Rampart.Proofs.ReadBack
import Rampart.Proofs.ReaderAgreement
import Rampart.Proofs.Recasing
import Rampart.Proofs.Recollection
import Rampart.Proofs.Reference
import Rampart.Proofs.Removal
import Rampart.Proofs.RemovalText
import Rampart.Proofs.RepeatedReads
import Rampart.Proofs.Reporting
import Rampart.Proofs.Resolution
import Rampart.Proofs.Retargeting
import Rampart.Proofs.RoundTrips
import Rampart.Proofs.RuleIndex
import Rampart.Proofs.Scan
import Rampart.Proofs.Seclusion
import Rampart.Proofs.SequentialDecoding
import Rampart.Proofs.Session
import Rampart.Proofs.SingleEntries
import Rampart.Proofs.Skips
import Rampart.Proofs.Slices
import Rampart.Proofs.Spared
import Rampart.Proofs.Stages
import Rampart.Proofs.Standalone
import Rampart.Proofs.TagIndex
import Rampart.Proofs.TargetList
import Rampart.Proofs.Tightening
import Rampart.Proofs.Trim
import Rampart.Proofs.Unbound
import Rampart.Proofs.Unescaping
import Rampart.Proofs.Verdicts
import Rampart.Proofs.Walk
import Rampart.Request
import Rampart.Rule.Basic
import Rampart.Rule.Compile
import Rampart.Rule.Settings
import Rampart.RuleInfo
import Rampart.RuleSet
import Rampart.Settings.Basic
import Rampart.Settings.Document
import Rampart.Settings.Loader
import Rampart.Settings.Validation
import Rampart.Severity
import Rampart.Statistics
import Rampart.Text.Blank
import Rampart.Text.Cut
import Rampart.Text.FixedPoint
import Rampart.Text.Fold
import Rampart.Text.Numeral
import Rampart.Text.Utf8
import Rampart.Toml.Document
import Rampart.Toml.Item
import Rampart.Toml.Literal
import Rampart.Toml.Printer
import Rampart.Toml.Section
import Rampart.Transaction
import Rampart.Transform.Base64
import Rampart.Transform.Basic
import Rampart.Transform.Comments
import Rampart.Transform.Entity
import Rampart.Transform.Path
import Rampart.Transform.Percent
import Rampart.Transform.Pipeline
import Rampart.Unicode.Casing
import Rampart.Unicode.Category
import Rampart.Unicode.Folding
import Rampart.Unicode.Property
import Rampart.Unicode.Ranges
import Rampart.Unicode.Run
import Rampart.Unicode.Script
import Rampart.Value
import Rampart.Variable.Basic
import Rampart.Variable.Reference
