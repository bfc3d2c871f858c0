import LinkWatch.Host.Program
import LinkWatch.Main
import LinkWatch.Proofs.CutDictionaries
import LinkWatch.Proofs.DamagedValues
import LinkWatch.Proofs.ExactKeys
import LinkWatch.Proofs.NewHistories
import LinkWatch.Proofs.NoiseBlindness
import LinkWatch.Proofs.NoiseStarts
import LinkWatch.Proofs.OverlaidSettings
import LinkWatch.Proofs.RefusedSaves
import LinkWatch.Proofs.SchemeKinds
import LinkWatch.Proofs.SettledWaits
import LinkWatch.Proofs.TunnelNames
import LinkWatch.Proofs.WatchReports
import LinkWatch.Proofs.WellFormedStatus
