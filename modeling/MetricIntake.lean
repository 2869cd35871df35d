import MetricIntake.Frame.Parse
import MetricIntake.Main
import MetricIntake.Pickle.Canonical
import MetricIntake.Proofs.Pipeline.Accounting
import MetricIntake.Proofs.Pipeline.CanonicalLine
import MetricIntake.Proofs.Pipeline.Delivery
import MetricIntake.Sessions
import MetricIntake.Proofs.Frame.Codec
import MetricIntake.Proofs.Connection.Digest
import MetricIntake.Proofs.Connection.Causality
import MetricIntake.Proofs.Pickle.Sendable
import MetricIntake.Proofs.Pipeline.Chronology
import MetricIntake.Proofs.Pipeline.Batching
import MetricIntake.Proofs.Pipeline.Interleaving
import MetricIntake.Proofs.Server
import MetricIntake.Proofs.Quarantine
import MetricIntake.Proofs.Pipeline.ValueAgreement
import MetricIntake.Proofs.Pipeline.Tightening
import MetricIntake.Proofs.Pipeline.Thinning
import MetricIntake.Proofs.Frame.Truncation
import MetricIntake.Proofs.Pickle.Truncation
import MetricIntake.Proofs.Quarantine.Eviction
import MetricIntake.Proofs.Pipeline.TimestampAgreement
import MetricIntake.Proofs.Backoff
import MetricIntake.Proofs.Dispatch
import MetricIntake.Proofs.Pipeline.Legibility
import MetricIntake.Proofs.Observation.Shape
import MetricIntake.Proofs.Observation.Rendering
import MetricIntake.Proofs.Frame.Buffered
