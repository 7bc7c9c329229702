import RecordDiff.Attribute.Inspect
import RecordDiff.ByteFormat
import RecordDiff.Differ.Build
import RecordDiff.Differ.Compare
import RecordDiff.Differ.Inspect
import RecordDiff.Json.Printer
import RecordDiff.Proofs.Lawful
import RecordDiff.Proofs.ScalarOrder
import RecordDiff.Proofs.ValueOrder
import RecordDiff.Proofs.DefaultOrder
import RecordDiff.Proofs.Expression
import RecordDiff.Proofs.ValueIdentity
import RecordDiff.Proofs.AttributeOutcome
import RecordDiff.Proofs.AttributeLocal
import RecordDiff.Proofs.AttributeComparator
import RecordDiff.Proofs.BatchedReading
import RecordDiff.Proofs.Configuration
import RecordDiff.Proofs.InstanceOrder
import RecordDiff.Proofs.JsonIdentity
import RecordDiff.Proofs.DocumentDiff
import RecordDiff.Proofs.ExchangedInstances
import RecordDiff.Proofs.InstanceTransitivity
import RecordDiff.Proofs.AlikeInstances
import RecordDiff.Proofs.Schema
import RecordDiff.Proofs.AbsentPlacement
import RecordDiff.Proofs.RepeatedNames
import RecordDiff.Proofs.FirstOccurrences
import RecordDiff.Proofs.Blueprint
import RecordDiff.Proofs.InheritanceChain
import RecordDiff.Proofs.FirstDifference
import RecordDiff.Proofs.StrictBytes
import RecordDiff.Proofs.LenientBytes
import RecordDiff.Proofs.JsonRoundTrip
import RecordDiff.Proofs.FloatOrder
import RecordDiff.Proofs.IntegerOrder
import RecordDiff.Proofs.CombinatorLaws
import RecordDiff.Proofs.FilterRuns
import RecordDiff.Proofs.CaseForms
import RecordDiff.Proofs.LocaleTags
import RecordDiff.Proofs.Rankings
import RecordDiff.Proofs.RecordFields
import RecordDiff.Proofs.Previews
