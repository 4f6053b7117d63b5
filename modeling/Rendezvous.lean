import Rendezvous.Catalogue
import Rendezvous.Config.Settings
import Rendezvous.Failure.Described
import Rendezvous.Operation.All
import Rendezvous.World
import Rendezvous.Number.Style
import Rendezvous.Template.Layout
import Rendezvous.Template.Piece
import Rendezvous.Template.Laid
import Rendezvous.Template.Fill
import Rendezvous.Failure.Answer
import Rendezvous.Proofs.Decimal
import Rendezvous.Proofs.Calendar
import Rendezvous.Proofs.Program
import Rendezvous.Proofs.Registration
import Rendezvous.Proofs.Refusal
import Rendezvous.Proofs.Course
import Rendezvous.Proofs.Registering
import Rendezvous.Proofs.Run
import Rendezvous.Proofs.Race
import Rendezvous.Proofs.OneToOne
import Rendezvous.Proofs.Outcomes
import Rendezvous.Proofs.Linearization
import Rendezvous.Proofs.Roll
import Rendezvous.Proofs.Filling
import Rendezvous.Proofs.Contacts
import Rendezvous.Proofs.Trouble
import Rendezvous.Proofs.Book
import Rendezvous.Proofs.Ledger
import Rendezvous.Proofs.Collision
import Rendezvous.Proofs.Blame
import Rendezvous.Proofs.Enrolling
import Rendezvous.Proofs.Sending
import Rendezvous.Proofs.Effects
import Rendezvous.Proofs.Atomic
import Rendezvous.Proofs.Plain
import Rendezvous.Proofs.PlainServices
import Rendezvous.Proofs.Answers
import Rendezvous.Proofs.Declared
import Rendezvous.Proofs.Gateway
import Rendezvous.Proofs.Asking
import Rendezvous.Proofs.Attribution
import Rendezvous.Proofs.Reading
import Rendezvous.Proofs.Wholeness
import Rendezvous.Proofs.Calls
import Rendezvous.Proofs.Relay
import Rendezvous.Proofs.Chat
import Rendezvous.Proofs.Redaction
import Rendezvous.Proofs.Snapshot
import Rendezvous.Proofs.Exchanges
import Rendezvous.Proofs.Complaints
import Rendezvous.Proofs.Fairness
import Rendezvous.Proofs.FairServices
import Rendezvous.Proofs.Traps
import Rendezvous.Proofs.Containment
import Rendezvous.Proofs.Provocation
import Rendezvous.Proofs.Blameless
import Rendezvous.Proofs.Retrying
import Rendezvous.Proofs.Hosting
import Rendezvous.Proofs.Anonymous
import Rendezvous.Proofs.Lengths
import Rendezvous.Proofs.Lookup
import Rendezvous.Proofs.Seeking
import Rendezvous.Proofs.Claiming
import Rendezvous.Proofs.Wire
import Rendezvous.Proofs.Spelling
import Rendezvous.Proofs.Addressing
import Rendezvous.Proofs.Partition
import Rendezvous.Proofs.Privacy
import Rendezvous.Proofs.Unicode
import Rendezvous.Proofs.Decoding
import Rendezvous.Proofs.Settings
import Rendezvous.Proofs.Remembering
import Rendezvous.Proofs.Presence
import Rendezvous.Proofs.Listing
import Rendezvous.Proofs.Rounding
import Rendezvous.Proofs.Numerals
import Rendezvous.Proofs.Rereading
import Rendezvous.Proofs.Headlines
import Rendezvous.Proofs.Journals
import Rendezvous.Proofs.Entries
import Rendezvous.Proofs.Logging
import Rendezvous.Proofs.Unforged
