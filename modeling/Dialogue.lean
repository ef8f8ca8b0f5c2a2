import Dialogue.Json.Printer
import Dialogue.Settings.Environment
import Dialogue.Service
import Dialogue.Proofs.Homegrown
import Dialogue.Proofs.Run.Abandoned
import Dialogue.Proofs.Run.Course
import Dialogue.Proofs.Import
import Dialogue.Proofs.Ways
import Dialogue.Proofs.Run.Ground
import Dialogue.Proofs.Run.Visits
import Dialogue.Proofs.Run.InStep
import Dialogue.Proofs.Run.Latency
import Dialogue.Proofs.Run.Afresh
import Dialogue.Proofs.Run.HangUps
import Dialogue.Proofs.Imported
import Dialogue.Proofs.Isolation
import Dialogue.Proofs.Upkeep
import Dialogue.Proofs.Frozen
import Dialogue.Proofs.Succession
import Dialogue.Proofs.Admission
import Dialogue.Proofs.Run.Calls
import Dialogue.Proofs.Run.Tally
import Dialogue.Proofs.Run.Budget
import Dialogue.Proofs.Lockstep
import Dialogue.Proofs.NextSteps
import Dialogue.Proofs.Aftermath
import Dialogue.Proofs.Refusals
import Dialogue.Proofs.Removal
import Dialogue.Proofs.Acceptance
import Dialogue.Proofs.Run.Persistence
import Dialogue.Proofs.Run.Hearing
import Dialogue.Proofs.Run.Adrift
import Dialogue.Proofs.Undo
import Dialogue.Proofs.Atomicity
import Dialogue.Proofs.Updates
import Dialogue.Proofs.Reachability
import Dialogue.Proofs.Selection
import Dialogue.Proofs.Matching
import Dialogue.Proofs.Shelves
import Dialogue.Proofs.Listing
import Dialogue.Proofs.Gestures
import Dialogue.Proofs.Run.Inputs
