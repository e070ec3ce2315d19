import PlanComparison.Comparison.Draft
import PlanComparison.Json.Comparison
import PlanComparison.Json.Scheme
import PlanComparison.Json.Substitution
import PlanComparison.Renaming.Standardize
import PlanComparison.Proofs.AllocationTrace
import PlanComparison.Proofs.BindingOrder
import PlanComparison.Proofs.BoundValues
import PlanComparison.Proofs.Canonical
import PlanComparison.Proofs.Composition
import PlanComparison.Proofs.Congruence
import PlanComparison.Proofs.Distinct
import PlanComparison.Proofs.EqualitySimulation
import PlanComparison.Proofs.Evaluability
import PlanComparison.Proofs.EvaluationLog
import PlanComparison.Proofs.FirstFault
import PlanComparison.Proofs.Freshness
import PlanComparison.Proofs.GroundStability
import PlanComparison.Proofs.Grounding
import PlanComparison.Proofs.JsonRoundTrip
import PlanComparison.Proofs.NumberText
import PlanComparison.Proofs.Occurrence
import PlanComparison.Proofs.OccurrenceOrder
import PlanComparison.Proofs.Preorder
import PlanComparison.Proofs.RecordedRenaming
import PlanComparison.Proofs.RenamedSubstitution
import PlanComparison.Proofs.Rereading
import PlanComparison.Proofs.Restoration
import PlanComparison.Proofs.SchemeGate
import PlanComparison.Proofs.SharedImages
import PlanComparison.Proofs.SignedZeros
import PlanComparison.Proofs.SubstitutionAgreement
import PlanComparison.Proofs.UniqueReading
import PlanComparison.Proofs.WellFormedness
