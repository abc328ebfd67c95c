import CipherString.Interpreter.Outside
import CipherString.Main
import CipherString.RootLogger
import CipherString.Suite.Raw
import CipherString.Surroundings
import CipherString.Proofs.Effect
import CipherString.Proofs.Invariant
import CipherString.Proofs.Membership
import CipherString.Proofs.Restriction
import CipherString.Proofs.Hoisting
import CipherString.Proofs.Denotation
import CipherString.Proofs.Preference
import CipherString.Proofs.Exclusion
import CipherString.Proofs.Language
import CipherString.Proofs.Subcatalog
import CipherString.Proofs.History
import CipherString.Proofs.Naming
import CipherString.Proofs.RoundTrip
import CipherString.Proofs.DefaultToken
import CipherString.Proofs.Leniency
import CipherString.Proofs.Generation
import CipherString.Proofs.Trials
import CipherString.Proofs.Absorption
import CipherString.Proofs.Partition
import CipherString.Proofs.Ranking
import CipherString.Proofs.Hosting
import CipherString.Proofs.Intersection
import CipherString.Proofs.Idempotence
import CipherString.Proofs.Recovery
import CipherString.Proofs.Reporting
import CipherString.Proofs.Caching
import CipherString.Proofs.Construction
import CipherString.Proofs.Lattice
import CipherString.Proofs.Settings
import CipherString.Proofs.Inversion
import CipherString.Proofs.Resolution
import CipherString.Proofs.SetUp
