import Percussion.Main
import Percussion.Midi.Reading
import Percussion.Proofs.FileReading
import Percussion.Proofs.Order
import Percussion.Proofs.Traversal
import Percussion.Proofs.Playback
import Percussion.Proofs.Layout
import Percussion.Proofs.Notation
import Percussion.Proofs.FileCompilation
import Percussion.Proofs.Calls
import Percussion.Proofs.SameFile
import Percussion.Proofs.Drawing
import Percussion.Proofs.Rhythms
import Percussion.Proofs.Literals
import Percussion.Proofs.OpenNotes
import Percussion.Proofs.Mappings
import Percussion.Proofs.Documents
import Percussion.Proofs.Settings
import Percussion.Proofs.Influence
import Percussion.Proofs.Loudness
import Percussion.Proofs.Passages
import Percussion.Proofs.SideBySide
import Percussion.Proofs.Overflow
import Percussion.Proofs.Ending
import Percussion.Proofs.Length
import Percussion.Proofs.Tempo
import Percussion.Proofs.Voices
import Percussion.Proofs.Agreement
import Percussion.Proofs.Listings
import Percussion.Proofs.Remarks
import Percussion.Proofs.Quietness
import Percussion.Proofs.Circumstances
import Percussion.Proofs.Naming
import Percussion.Proofs.Shares
import Percussion.Proofs.Inspections
import Percussion.Proofs.ConfigLines
