import CppIntrospect.Argument
import CppIntrospect.CommandLine.Invocation
import CppIntrospect.CommandLine.Run
import CppIntrospect.CppType.Basic
import CppIntrospect.CppType.Parse
import CppIntrospect.Cursor.Accessor
import CppIntrospect.Cursor.Basic
import CppIntrospect.Cursor.Flat
import CppIntrospect.Cursor.Kind
import CppIntrospect.Data.Datum
import CppIntrospect.Decl
import CppIntrospect.Expr
import CppIntrospect.Id
import CppIntrospect.Json.Basic
import CppIntrospect.Json.Number
import CppIntrospect.Json.Pretty
import CppIntrospect.Log.Event
import CppIntrospect.Log.Record
import CppIntrospect.Main
import CppIntrospect.Manifest.Basic
import CppIntrospect.Manifest.Decode
import CppIntrospect.Manifest.Directory
import CppIntrospect.Manifest.Encode
import CppIntrospect.Manifest.Error
import CppIntrospect.Manifest.File
import CppIntrospect.Manifest.Json
import CppIntrospect.Manifest.Load
import CppIntrospect.Manifest.Lower
import CppIntrospect.Manifest.Toml
import CppIntrospect.Proofs.AccessorGate
import CppIntrospect.Proofs.ArgumentPayload
import CppIntrospect.Proofs.ArgumentShapes
import CppIntrospect.Proofs.BaseArena
import CppIntrospect.Proofs.BaseLists
import CppIntrospect.Proofs.BaseOccurrences
import CppIntrospect.Proofs.CheckRuns
import CppIntrospect.Proofs.CursorIdentity
import CppIntrospect.Proofs.CursorSession
import CppIntrospect.Proofs.EntryMeaning
import CppIntrospect.Proofs.ExpressionLayout
import CppIntrospect.Proofs.FlatSentinels
import CppIntrospect.Proofs.ForeignCursors
import CppIntrospect.Proofs.LoadAtomic
import CppIntrospect.Proofs.LoweringFaults
import CppIntrospect.Proofs.LoweringInPlace
import CppIntrospect.Proofs.LoweringPasses
import CppIntrospect.Proofs.LoweringRange
import CppIntrospect.Proofs.LoweringSteps
import CppIntrospect.Proofs.ManifestReport
import CppIntrospect.Proofs.ManifestRoundTrip
import CppIntrospect.Proofs.NameIndex
import CppIntrospect.Proofs.OperandCycles
import CppIntrospect.Proofs.OriginLinks
import CppIntrospect.Proofs.PatternMarks
import CppIntrospect.Proofs.ReferenceCheck
import CppIntrospect.Proofs.RejectedAdd
import CppIntrospect.Proofs.ReportLists
import CppIntrospect.Proofs.ReportOrder
import CppIntrospect.Proofs.SpellingStability
import CppIntrospect.Proofs.StoreHistory
import CppIntrospect.Proofs.StoreView
import CppIntrospect.Proofs.StoredTypes
import CppIntrospect.Proofs.TemplateLists
import CppIntrospect.Proofs.TypeInterning
import CppIntrospect.Proofs.TypeSpelling
import CppIntrospect.Proofs.UnitLocality
import CppIntrospect.Proofs.UnitReport
import CppIntrospect.Proofs.VisibleText
import CppIntrospect.Report.Basic
import CppIntrospect.Report.Render
import CppIntrospect.Store
import CppIntrospect.Text.Blank
import CppIntrospect.Text.Decimal
import CppIntrospect.Text.Hexadecimal
import CppIntrospect.Toml.Document
import CppIntrospect.Toml.Scalar
import CppIntrospect.Toml.Table
import CppIntrospect.Toml.Text
import CppIntrospect.TranslationUnit.Basic
import CppIntrospect.TranslationUnit.Builder
import CppIntrospect.TranslationUnit.Error
import CppIntrospect.TranslationUnit.References
import CppIntrospect.TranslationUnit.Spelling
import CppIntrospect.TranslationUnit.TypeTable
