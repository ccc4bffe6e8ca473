import ReportGrid.Command.Disk
import ReportGrid.Embed
import ReportGrid.Main
import ReportGrid.Proofs.AbsentShortcodes
import ReportGrid.Proofs.AddressedSections
import ReportGrid.Proofs.AppendedTokens
import ReportGrid.Proofs.BracketWalk
import ReportGrid.Proofs.ChartSeries
import ReportGrid.Proofs.CommandRuns
import ReportGrid.Proofs.DirectCharts
import ReportGrid.Proofs.DiskWrites
import ReportGrid.Proofs.DocumentPlaces
import ReportGrid.Proofs.DumpPlaces
import ReportGrid.Proofs.EmbeddedRuns
import ReportGrid.Proofs.EndingCommas
import ReportGrid.Proofs.Escaping
import ReportGrid.Proofs.FiniteHeights
import ReportGrid.Proofs.FirstAccepted
import ReportGrid.Proofs.GivenSettings
import ReportGrid.Proofs.HeightRange
import ReportGrid.Proofs.HeightTexts
import ReportGrid.Proofs.IntegerForms
import ReportGrid.Proofs.IntegerHeights
import ReportGrid.Proofs.LayoutRoundTrip
import ReportGrid.Proofs.MarkupParts
import ReportGrid.Proofs.NearestHeights
import ReportGrid.Proofs.NearestValues
import ReportGrid.Proofs.NestedTexts
import ReportGrid.Proofs.OverlaidSettings
import ReportGrid.Proofs.PageDump
import ReportGrid.Proofs.PageMirror
import ReportGrid.Proofs.PageStretches
import ReportGrid.Proofs.PayloadEdits
import ReportGrid.Proofs.PayloadFences
import ReportGrid.Proofs.PayloadInfluence
import ReportGrid.Proofs.PayloadShapes
import ReportGrid.Proofs.PlanDump
import ReportGrid.Proofs.PlanMirror
import ReportGrid.Proofs.ReadDocuments
import ReportGrid.Proofs.ReadValues
import ReportGrid.Proofs.RecordFields
import ReportGrid.Proofs.RecordMembers
import ReportGrid.Proofs.RefusedDocuments
import ReportGrid.Proofs.RelaxedTokens
import ReportGrid.Proofs.SectionPushes
import ReportGrid.Proofs.SectionReread
import ReportGrid.Proofs.ShownTables
import ReportGrid.Proofs.ShownTexts
import ReportGrid.Proofs.TagReader
import ReportGrid.Proofs.TemplateLines
import ReportGrid.Proofs.TemplateRows
import ReportGrid.Proofs.TextCutting
import ReportGrid.Proofs.VisibleText
import ReportGrid.Proofs.WrittenDocuments
import ReportGrid.Proofs.WrittenNumerals
import ReportGrid.Proofs.WrittenParts
import ReportGrid.Proofs.WrittenPayloads
import ReportGrid.Proofs.WrittenSettings
