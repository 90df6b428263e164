import Chroma420.Image
import Chroma420.Main
import Chroma420.Proofs.Layout
import Chroma420.Proofs.Reading
import Chroma420.Proofs.Cells
import Chroma420.Proofs.Painting
import Chroma420.Proofs.Copying
import Chroma420.Proofs.Agreement
import Chroma420.Proofs.Atomicity
import Chroma420.Proofs.Decision
import Chroma420.Proofs.Completion
import Chroma420.Proofs.Runs
import Chroma420.Proofs.Comparison
import Chroma420.Proofs.GreyModes
import Chroma420.Proofs.Difference
import Chroma420.Proofs.Influence
import Chroma420.Proofs.Interleaving
import Chroma420.Proofs.Parts
import Chroma420.Proofs.Bands
import Chroma420.Proofs.AnyOrder
import Chroma420.Proofs.ChannelOrders
import Chroma420.Proofs.Allocation
import Chroma420.Proofs.Verdicts
import Chroma420.Proofs.Offsets
import Chroma420.Proofs.Faults
import Chroma420.Proofs.OwnBuffers
import Chroma420.Proofs.FrameVerdicts
import Chroma420.Proofs.Mismatches
import Chroma420.Proofs.Accuracy
import Chroma420.Proofs.Luminance
import Chroma420.Proofs.Monotonicity
import Chroma420.Proofs.Messages
import Chroma420.Proofs.EventLog
import Chroma420.Proofs.TestFrames
import Chroma420.Proofs.FreshPlanes
