import RecordListing.Binary64.Notation
import RecordListing.Main
import RecordListing.Proofs.AbsentCells
import RecordListing.Proofs.Chronology
import RecordListing.Proofs.ConfiguredOverrides
import RecordListing.Proofs.Consultation
import RecordListing.Proofs.Declarations
import RecordListing.Proofs.Descriptions
import RecordListing.Proofs.EnvironmentColumns
import RecordListing.Proofs.EnvironmentTexts
import RecordListing.Proofs.IntegerNumerals
import RecordListing.Proofs.IntegerOrder
import RecordListing.Proofs.JsonListing
import RecordListing.Proofs.Layering
import RecordListing.Proofs.LoggingPrecedence
import RecordListing.Proofs.MaskPaths
import RecordListing.Proofs.MaskSufficiency
import RecordListing.Proofs.PrintedSettings
import RecordListing.Proofs.PruneLaws
import RecordListing.Proofs.RegisteredPaths
import RecordListing.Proofs.SelectedColumns
import RecordListing.Proofs.ShownNumbers
import RecordListing.Proofs.TableLayout
import RecordListing.Proofs.UntiedOrder
import RecordListing.Proofs.UtcTexts
import RecordListing.Settings.JsonForm
import RecordListing.Proofs.JoinedPaths
import RecordListing.Proofs.OverridesByKind
