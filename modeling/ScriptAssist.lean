import ScriptAssist.Analysis.Engine
import ScriptAssist.Analysis.Frame
import ScriptAssist.Analysis.Link
import ScriptAssist.Analysis.Query
import ScriptAssist.Analysis.Supervisor
import ScriptAssist.Answer.Completion
import ScriptAssist.Answer.Outline
import ScriptAssist.Answer.Signature
import ScriptAssist.Files.Failure
import ScriptAssist.Files.Listed
import ScriptAssist.Files.Path
import ScriptAssist.Files.Tree
import ScriptAssist.Json.Binary64
import ScriptAssist.Json.Number
import ScriptAssist.Json.Reader
import ScriptAssist.Json.Record
import ScriptAssist.Json.Value
import ScriptAssist.Machine.Basic
import ScriptAssist.Machine.Command
import ScriptAssist.Main
import ScriptAssist.Script.AutoClass
import ScriptAssist.Script.Declaration
import ScriptAssist.Script.Decoration
import ScriptAssist.Script.Directive
import ScriptAssist.Script.Generated
import ScriptAssist.Script.Options
import ScriptAssist.Script.Project
import ScriptAssist.Script.Prologue
import ScriptAssist.Script.Region
import ScriptAssist.Script.Source
import ScriptAssist.Service.Dispatch
import ScriptAssist.Service.Operation
import ScriptAssist.Service.Reply
import ScriptAssist.Service.Request
import ScriptAssist.Service.Server
import ScriptAssist.Service.Session
import ScriptAssist.Service.Settings
import ScriptAssist.Service.Watch
import ScriptAssist.Text.Basic
import ScriptAssist.Text.Blank
import ScriptAssist.Text.Caret
import ScriptAssist.Text.LineTable
import ScriptAssist.Text.Numeral
import ScriptAssist.Text.Reindent
import ScriptAssist.Text.Utf8
import ScriptAssist.Text.WordChar
import ScriptAssist.Tool.Binding
import ScriptAssist.Tool.Compiler
import ScriptAssist.Tool.Listing
import ScriptAssist.Tool.Location
import ScriptAssist.Tool.Toolchain
import ScriptAssist.Proofs.TextLines
import ScriptAssist.Proofs.Numerals
import ScriptAssist.Proofs.Encoding
import ScriptAssist.Proofs.LineNumbers
import ScriptAssist.Proofs.TextCuts
import ScriptAssist.Proofs.Wrapping
import ScriptAssist.Proofs.CaretLines
import ScriptAssist.Proofs.FrameStream
import ScriptAssist.Proofs.CallOutcomes
import ScriptAssist.Proofs.SequentialService
import ScriptAssist.Proofs.LateClients
import ScriptAssist.Proofs.TemporaryFiles
import ScriptAssist.Proofs.ToolchainLoads
import ScriptAssist.Proofs.HistoryIndependence
import ScriptAssist.Proofs.RequestFields
import ScriptAssist.Proofs.RequestWire
import ScriptAssist.Proofs.SessionWork
import ScriptAssist.Proofs.ReplyKinds
import ScriptAssist.Proofs.JsonTokens
import ScriptAssist.Proofs.JsonText
import ScriptAssist.Proofs.JsonRecords
import ScriptAssist.Proofs.RecordLines
import ScriptAssist.Proofs.Reindentation
import ScriptAssist.Proofs.Rejections
import ScriptAssist.Proofs.LossyLines
import ScriptAssist.Proofs.FirstReads
import ScriptAssist.Proofs.PathPlaces
import ScriptAssist.Proofs.TemporaryScripts
import ScriptAssist.Proofs.UnsavedScripts
import ScriptAssist.Proofs.WrappedLines
import ScriptAssist.Proofs.UndecoratedRegions
import ScriptAssist.Proofs.LineEndings
import ScriptAssist.Proofs.MovedCarets
import ScriptAssist.Proofs.NarrowCounters
import ScriptAssist.Proofs.RegionReplies
import ScriptAssist.Proofs.UsingDirectives
import ScriptAssist.Proofs.PrologueParts
import ScriptAssist.Proofs.StrippedMembers
import ScriptAssist.Proofs.OutlineRuns
import ScriptAssist.Proofs.TitleGroups
import ScriptAssist.Proofs.LiteralContents
import ScriptAssist.Proofs.TableColumns
import ScriptAssist.Proofs.CompletionEntries
import ScriptAssist.Proofs.OverloadChoice
import ScriptAssist.Proofs.HintedTooltips
import ScriptAssist.Proofs.TidyBlocks
import ScriptAssist.Proofs.ScriptFolders
import ScriptAssist.Proofs.ListedScripts
import ScriptAssist.Proofs.DirectiveTooltips
import ScriptAssist.Proofs.TextOrder
import ScriptAssist.Proofs.FileSearch
import ScriptAssist.Proofs.GeneratedSources
import ScriptAssist.Proofs.Stretches
import ScriptAssist.Proofs.DirectiveHits
import ScriptAssist.Proofs.InsertedFrames
import ScriptAssist.Proofs.MirroredRuns
import ScriptAssist.Proofs.InsertedMessages
import ScriptAssist.Proofs.ParameterCounts
import ScriptAssist.Proofs.ScriptOptions
import ScriptAssist.Proofs.DefaultArguments
import ScriptAssist.Proofs.OfferedFiles
import ScriptAssist.Proofs.CharBoundaries
import ScriptAssist.Proofs.ByteCuts
import ScriptAssist.Proofs.LongestStretches
import ScriptAssist.Proofs.LineStarts
