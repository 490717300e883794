import AdventureArchive.Main
import AdventureArchive.Proofs.Archive.Canonical
import AdventureArchive.Proofs.Archive.DirectoryOrder
import AdventureArchive.Proofs.Archive.Faithful
import AdventureArchive.Proofs.Archive.Faults
import AdventureArchive.Proofs.Archive.Merging
import AdventureArchive.Proofs.Archive.Restriction
import AdventureArchive.Proofs.Archive.RoundTrip
import AdventureArchive.Proofs.Archive.Saveable
import AdventureArchive.Proofs.Archive.Tiling
import AdventureArchive.Proofs.Database.History
import AdventureArchive.Proofs.Image.EditedCopies
import AdventureArchive.Proofs.Image.Invertible
import AdventureArchive.Proofs.Image.PixelHistory
import AdventureArchive.Proofs.InPlace.Instruction
import AdventureArchive.Proofs.InPlace.Load
import AdventureArchive.Proofs.Interpreter.ByteCounter
import AdventureArchive.Proofs.Interpreter.Failures
import AdventureArchive.Proofs.Interpreter.Path
import AdventureArchive.Proofs.Interpreter.PendingJump
import AdventureArchive.Proofs.Interpreter.Termination
import AdventureArchive.Proofs.Lz.NearestMatch
import AdventureArchive.Proofs.Lz.ReservedWords
import AdventureArchive.Proofs.Lz.Size
import AdventureArchive.Proofs.Program.Canonical
import AdventureArchive.Proofs.Program.CodeSplit
import AdventureArchive.Proofs.Program.Delimited
import AdventureArchive.Proofs.Program.Storable
import AdventureArchive.Proofs.Registry.SlotTable
import AdventureArchive.Proofs.Resource.Duration
import AdventureArchive.Proofs.Resource.Grammar
import AdventureArchive.Proofs.SharedCell.Interleaving
