import AttachService.Commands.Builtin
import AttachService.Commands.Session
import AttachService.Commands.Table
import AttachService.Desk
import AttachService.Errand
import AttachService.Fault
import AttachService.Files.Access
import AttachService.Files.AttachFile
import AttachService.Files.Lookup
import AttachService.Files.OwnedFile
import AttachService.Files.Path
import AttachService.Files.Socket
import AttachService.Files.Summoning
import AttachService.Files.Summons
import AttachService.Files.Traffic
import AttachService.Files.Workdir
import AttachService.Intake.Basic
import AttachService.Intake.Next
import AttachService.Intake.Race
import AttachService.Intake.Submit
import AttachService.Job
import AttachService.Limits
import AttachService.Notice
import AttachService.Pool.Basic
import AttachService.Pool.Chains
import AttachService.Pool.Copies
import AttachService.Pool.Text
import AttachService.Proofs.Commands.Answering
import AttachService.Proofs.Commands.Completing
import AttachService.Proofs.Commands.Lasting
import AttachService.Proofs.Commands.Transparent
import AttachService.Proofs.Files.AtMostOnce
import AttachService.Proofs.Files.Claiming
import AttachService.Proofs.Files.Distinct
import AttachService.Proofs.Files.Drafts
import AttachService.Proofs.Files.Folder
import AttachService.Proofs.Files.HandOver
import AttachService.Proofs.Files.Lookups
import AttachService.Proofs.Files.Moves
import AttachService.Proofs.Files.Names
import AttachService.Proofs.Files.Places
import AttachService.Proofs.Files.Publishing
import AttachService.Proofs.Files.Scanning
import AttachService.Proofs.Files.Undisturbed
import AttachService.Proofs.Intake.Deciding
import AttachService.Proofs.Intake.Handling
import AttachService.Proofs.Intake.Materializing
import AttachService.Proofs.Intake.Orderly
import AttachService.Proofs.Intake.Turns
import AttachService.Proofs.Pool.Layout
import AttachService.Proofs.Pool.Ledger
import AttachService.Proofs.Pool.Overwriting
import AttachService.Proofs.Pool.Slots
import AttachService.Proofs.Race.Aftermath
import AttachService.Proofs.Race.Answers
import AttachService.Proofs.Race.Conservation
import AttachService.Proofs.Race.Crowd
import AttachService.Proofs.Race.Drain
import AttachService.Proofs.Race.Frames
import AttachService.Proofs.Race.Onward
import AttachService.Proofs.Race.Order
import AttachService.Proofs.Race.Queue
import AttachService.Proofs.Race.Rest
import AttachService.Proofs.Race.Shutdown
import AttachService.Proofs.Race.Steps
import AttachService.Proofs.Race.Tenure
import AttachService.Proofs.Race.Undisturbed
import AttachService.Proofs.Relaying.Accounts
import AttachService.Proofs.Relaying.Balance
import AttachService.Proofs.Relaying.Faithful
import AttachService.Proofs.Relaying.Steps
import AttachService.Proofs.Relaying.Through
import AttachService.Proofs.Semaphore.Waking
import AttachService.Proofs.Shift.Attended
import AttachService.Proofs.Shift.Deserted
import AttachService.Proofs.Shift.Record
import AttachService.Proofs.Shift.Returning
import AttachService.Proofs.Shift.Settling
import AttachService.Proofs.Shift.Steps
import AttachService.Proofs.Shift.Undisturbed
import AttachService.Proofs.Stream.Arrivals
import AttachService.Proofs.Stream.Writing
import AttachService.Proofs.Summoning.Appearing
import AttachService.Proofs.Summoning.Kept
import AttachService.Proofs.Summoning.Silence
import AttachService.Proofs.Summoning.Sparing
import AttachService.Proofs.Summoning.Steps
import AttachService.Proofs.Summoning.Undisturbed
import AttachService.Proofs.Text.Encoding
import AttachService.Proofs.Text.Numerals
import AttachService.Proofs.Text.Trimming
import AttachService.Proofs.Wire.Bytewise
import AttachService.Proofs.Wire.Canonical
import AttachService.Proofs.Wire.Confined
import AttachService.Proofs.Wire.CutShort
import AttachService.Proofs.Wire.Enough
import AttachService.Proofs.Wire.Fields
import AttachService.Proofs.Wire.Grammar
import AttachService.Proofs.Wire.Messages
import AttachService.Proofs.Wire.Prompt
import AttachService.Proofs.Wire.Reading
import AttachService.Proofs.Wire.Replies
import AttachService.Proofs.Wire.ReplyGrammar
import AttachService.Proofs.Wire.RoundTrip
import AttachService.Proofs.Wire.Validating
import AttachService.Refusal
import AttachService.Relay
import AttachService.Relaying
import AttachService.Semaphore.Basic
import AttachService.Semaphore.Waiters
import AttachService.Semaphore.WaitingRoom
import AttachService.Service
import AttachService.Settings.Basic
import AttachService.Settings.Document
import AttachService.Shift
import AttachService.Stream.Channel
import AttachService.Stream.Exchange
import AttachService.Stream.Sink
import AttachService.Stream.Source
import AttachService.Text.Blank
import AttachService.Text.Duration
import AttachService.Text.Invisible
import AttachService.Text.Numeral
import AttachService.Text.Quoted
import AttachService.Text.Utf8
import AttachService.Version
import AttachService.Wire.Flaw
import AttachService.Wire.Reply
import AttachService.Wire.Request
