import MeshLink.Main
import MeshLink.Machine.Session
import MeshLink.Session
import MeshLink.Proofs.Dialogue
import MeshLink.Proofs.Request
import MeshLink.Proofs.Transition
import MeshLink.Proofs.Inventory
import MeshLink.Proofs.Format
import MeshLink.Proofs.Offsets
import MeshLink.Proofs.Wire
import MeshLink.Proofs.Answers
import MeshLink.Proofs.Reports
import MeshLink.Proofs.Mirror
import MeshLink.Proofs.Routes
import MeshLink.Proofs.MemoryKernel
import MeshLink.Proofs.Agreement
import MeshLink.Proofs.Course
import MeshLink.Proofs.Discipline
import MeshLink.Proofs.Replay
import MeshLink.Proofs.Healing
import MeshLink.Proofs.Lifecycle
import MeshLink.Proofs.Teardown
import MeshLink.Proofs.Bare
import MeshLink.Proofs.Repetition
import MeshLink.Proofs.WellFormed
import MeshLink.Proofs.Numbering
import MeshLink.Proofs.Fleet
import MeshLink.Proofs.Direct
import MeshLink.Proofs.Desk
import MeshLink.Proofs.Linearization
import MeshLink.Proofs.Callers
import MeshLink.Proofs.Heeding
import MeshLink.Proofs.MainLoop
import MeshLink.Proofs.Remaining
import MeshLink.Proofs.Alike
import MeshLink.Proofs.SideBySide
import MeshLink.Proofs.Transcript
import MeshLink.Proofs.Consistency
import MeshLink.Proofs.Prefixes
import MeshLink.Proofs.Malformed
import MeshLink.Proofs.Isolation
import MeshLink.Proofs.Lexing
import MeshLink.Proofs.Reading
import MeshLink.Proofs.RoundTrip
import MeshLink.Proofs.Preference
import MeshLink.Proofs.Overriding
import MeshLink.Proofs.Difference
import MeshLink.Proofs.Networks
import MeshLink.Proofs.Documents
import MeshLink.Proofs.Attribution
import MeshLink.Proofs.Memberships
import MeshLink.Proofs.Changes
