import Settings.Backoff.Wait
import Settings.Main
import Settings.Proofs.Accessor.Namespace
import Settings.Proofs.Backoff.Bounded
import Settings.Proofs.Backoff.ReadOrder
import Settings.Proofs.Command.Check
import Settings.Proofs.Duration.Accuracy
import Settings.Proofs.Duration.CanonicalForm
import Settings.Proofs.Overlay.ByValue
import Settings.Proofs.Schema.Conformity
import Settings.Proofs.Schema.Document
import Settings.Proofs.Schema.Extension
import Settings.Proofs.Schema.Location
import Settings.Proofs.Schema.Nesting
import Settings.Proofs.Schema.NormalForm
import Settings.Proofs.Schema.Enumeration
import Settings.Proofs.Schema.Omission
import Settings.Proofs.Schema.Reordering
import Settings.Proofs.Overlay.VariableName
import Settings.Proofs.Overlay.Specificity
import Settings.Proofs.Overlay.DeepMerge
import Settings.Proofs.Accessor.Failure
import Settings.Proofs.Backoff.Interval
import Settings.Proofs.File.Outcomes
import Settings.Proofs.Schema.DurationDefaults
import Settings.Proofs.Log.LevelNames
import Settings.Proofs.Log.Messages
