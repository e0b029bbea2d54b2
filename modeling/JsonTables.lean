import JsonTables.Field.Reader
import JsonTables.Main
import JsonTables.Proofs.FieldNames
import JsonTables.Proofs.Ingestion
import JsonTables.Proofs.Loosening
import JsonTables.Proofs.ValidShapes
import JsonTables.Proofs.MadeShapes
import JsonTables.Proofs.LongerText
import JsonTables.Proofs.StrictObjects
import JsonTables.Proofs.LongerValues
import JsonTables.Proofs.Deliveries
import JsonTables.Proofs.RenderedText
import JsonTables.Proofs.WrittenNumbers
import JsonTables.Proofs.CalendarDays
import JsonTables.Proofs.WrittenInstants
import JsonTables.Proofs.RenderedValues
import JsonTables.Proofs.SettledShapes
import JsonTables.Proofs.StoredContents
import JsonTables.Proofs.StoredParts
import JsonTables.Proofs.KeptShapes
import JsonTables.Proofs.MirroredValues
import JsonTables.Proofs.DroppedRepeats
import JsonTables.Proofs.EntryOrder
import JsonTables.Proofs.FirstEntries
import JsonTables.Proofs.NestedLists
import JsonTables.Proofs.TypedObjects
import JsonTables.Proofs.UnknownEntries
import JsonTables.Proofs.GuardedLeaves
import JsonTables.Proofs.ReadableKinds
import JsonTables.Proofs.ExactNumbers
import JsonTables.Proofs.AskedParts
import JsonTables.Proofs.VisitedParts
import JsonTables.Proofs.Rounding
import JsonTables.Proofs.NumberOrder
import JsonTables.Proofs.CellOrder
import JsonTables.Proofs.ConvertedCells
import JsonTables.Proofs.IntegerCells
import JsonTables.Proofs.Overflow
import JsonTables.Proofs.FiniteNumbers
import JsonTables.Proofs.RectangularTables
import JsonTables.Proofs.FilteredRows
import JsonTables.Proofs.CellPositions
import JsonTables.Proofs.SameShapes
import JsonTables.Proofs.SpelledParts
import JsonTables.Proofs.SpelledValues
import JsonTables.Proofs.ReadBackValues
import JsonTables.Proofs.KeptStructure
import JsonTables.Proofs.IntegerParts
import JsonTables.Proofs.TruncatedNumbers
import JsonTables.Proofs.SpelledAbsence
import JsonTables.Proofs.FoldedMatches
import JsonTables.Proofs.WrittenLiterals
import JsonTables.Proofs.WrittenConditions
import JsonTables.Proofs.EpochNumbers
import JsonTables.Proofs.BigIntegers
import JsonTables.Proofs.LocatedFaults
import JsonTables.Proofs.MapsAsLists
import JsonTables.Proofs.TypeNames
import JsonTables.Proofs.NearestNumbers
import JsonTables.Proofs.RoundedTwice
import JsonTables.Proofs.FiniteCells
import JsonTables.Proofs.LongerPatterns
import JsonTables.Proofs.LongerGroups
import JsonTables.Proofs.AnchoredPatterns
import JsonTables.Proofs.CountedRows
