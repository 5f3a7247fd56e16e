import StorageBlock.Main
import StorageBlock.Proofs.Block.Collections
import StorageBlock.Proofs.Block.Text
import StorageBlock.Proofs.Checksum.Canonical
import StorageBlock.Proofs.Checksum.File
import StorageBlock.Proofs.Checksum.Space
import StorageBlock.Proofs.Checksum.Symbols
import StorageBlock.Proofs.FileName.Aliases
import StorageBlock.Proofs.FileName.DataPath
import StorageBlock.Proofs.FileName.RoundTrip
import StorageBlock.Proofs.Session.Composition
import StorageBlock.Proofs.Session.Ending
import StorageBlock.Proofs.Session.Layout
import StorageBlock.Proofs.Session.ReadBack
import StorageBlock.Proofs.Session.Recovery
import StorageBlock.Proofs.Session.Tracing
import StorageBlock.Proofs.Wire.Layout
import StorageBlock.Proofs.Wire.LengthWord
import StorageBlock.Proofs.Wire.Logging
import StorageBlock.Proofs.Wire.Outcome
import StorageBlock.Proofs.Wire.ShortForm
