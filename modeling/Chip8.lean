import Chip8.About
import Chip8.Console.Operation
import Chip8.Instr.Lemmas
import Chip8.Main
import Chip8.Proofs.Words
import Chip8.Proofs.Transfers
import Chip8.Proofs.Execution
import Chip8.Proofs.Faults
import Chip8.Proofs.Residue
import Chip8.Proofs.Effects
import Chip8.Proofs.Bounds
import Chip8.Proofs.Drawings
import Chip8.Proofs.Calls
import Chip8.Proofs.Halting
import Chip8.Proofs.Frames
import Chip8.Proofs.Rounding
import Chip8.Proofs.Rounds
import Chip8.Proofs.Cadence
import Chip8.Proofs.Showing
import Chip8.Proofs.Devices
import Chip8.Proofs.Polling
import Chip8.Proofs.Unread
import Chip8.Proofs.Ticks
import Chip8.Proofs.Schedules
import Chip8.Proofs.Loading
import Chip8.Proofs.Waiting
import Chip8.Proofs.Placement
import Chip8.Proofs.Glyphs
import Chip8.Proofs.Pacing
import Chip8.Proofs.Statuses
import Chip8.Proofs.Pixels
import Chip8.Proofs.Flow
import Chip8.Proofs.Flags
import Chip8.Proofs.Dumps
import Chip8.Proofs.Erasing
import Chip8.Proofs.Edits
import Chip8.Proofs.Batches
import Chip8.Proofs.HostKeys
import Chip8.Proofs.Rendering
import Chip8.Proofs.Decimals
