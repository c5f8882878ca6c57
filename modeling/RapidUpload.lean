import RapidUpload.Digest.Sha1
import RapidUpload.Digest.Md5
import RapidUpload.Bytes.Base64
import RapidUpload.Json.Parser
import RapidUpload.Json.Printer
import RapidUpload.Json.Literal
import RapidUpload.Json.Integer
import RapidUpload.Sample
import RapidUpload.Source
import RapidUpload.Possession
import RapidUpload.Upload
import RapidUpload.Rehearsal.Stream
import RapidUpload.Rehearsal.Record
import RapidUpload.Rehearsal.Script
import RapidUpload.Client
import RapidUpload.Loggers
import RapidUpload.Rehearsal.Tape
import RapidUpload.Rehearsal.Wire
import RapidUpload.Command.Run
import RapidUpload.Main
import RapidUpload.Proofs.Action
import RapidUpload.Proofs.Bytes
import RapidUpload.Proofs.Hashing
import RapidUpload.Proofs.Chunked
import RapidUpload.Proofs.Delivery
import RapidUpload.Proofs.Opening
import RapidUpload.Proofs.Storage
import RapidUpload.Proofs.Window
import RapidUpload.Proofs.Watch
import RapidUpload.Proofs.Handshake
import RapidUpload.Proofs.Exchange
import RapidUpload.Proofs.Course
import RapidUpload.Proofs.Conduct
import RapidUpload.Proofs.Orderly
import RapidUpload.Proofs.Sizes
import RapidUpload.Proofs.Slices
import RapidUpload.Proofs.Sent
import RapidUpload.Proofs.Parallel
import RapidUpload.Proofs.Lockstep
import RapidUpload.Proofs.Independence
import RapidUpload.Proofs.Chronicle
import RapidUpload.Proofs.Replies
import RapidUpload.Proofs.Showing
import RapidUpload.Proofs.Confirmed
import RapidUpload.Proofs.Fitting
import RapidUpload.Proofs.Bodies
import RapidUpload.Proofs.Legible
import RapidUpload.Proofs.Carry
import RapidUpload.Proofs.Calm
import RapidUpload.Proofs.Lifetime
import RapidUpload.Proofs.Tidy
import RapidUpload.Proofs.Planned
import RapidUpload.Proofs.Sessions
import RapidUpload.Proofs.Transports
import RapidUpload.Proofs.Operations
import RapidUpload.Proofs.Blocks
import RapidUpload.Proofs.Candor
import RapidUpload.Proofs.Overheard
import RapidUpload.Proofs.Tracked
import RapidUpload.Proofs.Gathering
import RapidUpload.Proofs.Passage
import RapidUpload.Proofs.Lawful
import RapidUpload.Proofs.Splice
import RapidUpload.Proofs.Spilling
import RapidUpload.Proofs.Discretion
import RapidUpload.Proofs.Base64
import RapidUpload.Proofs.Seeking
import RapidUpload.Proofs.Progress
import RapidUpload.Proofs.Mapping
import RapidUpload.Proofs.Quoting
import RapidUpload.Proofs.Readback
import RapidUpload.Proofs.Posted
import RapidUpload.Proofs.Levels
import RapidUpload.Proofs.Inferred
import RapidUpload.Proofs.Verbatim
import RapidUpload.Proofs.Named
import RapidUpload.Proofs.Held
