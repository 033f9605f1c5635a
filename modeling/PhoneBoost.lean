import PhoneBoost.Proofs.BoundedSessions
import PhoneBoost.Proofs.BufferLimits
import PhoneBoost.Proofs.ComputeLiveness
import PhoneBoost.Proofs.ComputeResults
import PhoneBoost.Proofs.ContentGrammar
import PhoneBoost.Proofs.DescriptorBinding
import PhoneBoost.Proofs.EarnedAvailability
import PhoneBoost.Proofs.GateSoundness
import PhoneBoost.Proofs.GuardClocks
import PhoneBoost.Proofs.HealthHysteresis
import PhoneBoost.Proofs.ImportOnce
import PhoneBoost.Proofs.KeyText
import PhoneBoost.Proofs.LeaseAuthority
import PhoneBoost.Proofs.LeaseTurnover
import PhoneBoost.Proofs.MismatchCount
import PhoneBoost.Proofs.PinnedWorker
import PhoneBoost.Proofs.PlacementSafety
import PhoneBoost.Proofs.PreferenceSafety
import PhoneBoost.Proofs.ProfileAgreement
import PhoneBoost.Proofs.ReassemblyProgress
import PhoneBoost.Proofs.RenewalSchedule
import PhoneBoost.Proofs.RequestParsing
import PhoneBoost.Proofs.VisibleCooldown
