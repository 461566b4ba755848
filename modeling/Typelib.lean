import Typelib.CommandLine.Reach
import Typelib.Generator.World
import Typelib.Main
import Typelib.Proofs.Generator.Closure
import Typelib.Proofs.Generator.Following
import Typelib.Proofs.Generator.Healing
import Typelib.Proofs.Generator.Independence
import Typelib.Proofs.Generator.Retry
import Typelib.Proofs.Generator.WarmStart
import Typelib.Proofs.Store.Directory
import Typelib.Proofs.Wrapper.References
import Typelib.Proofs.Wrapper.Siblings
import Typelib.Proofs.Generator.Members
import Typelib.Proofs.Files.Writes
import Typelib.Proofs.Store.Neighbours
import Typelib.Proofs.Generator.Failure
import Typelib.Proofs.Generator.Switching
import Typelib.Proofs.Module.Opening
import Typelib.Proofs.Files.Listing
import Typelib.Proofs.Store.Refusals
import Typelib.Proofs.Store.Calls
import Typelib.Proofs.Store.Interchange
import Typelib.Proofs.Wrapper.Lines
import Typelib.Proofs.Wrapper.SelfReferences
import Typelib.Proofs.Wrapper.Shadowing
import Typelib.Proofs.Descriptor
import Typelib.Proofs.Generator.Names
import Typelib.Proofs.Generator.Worklist
import Typelib.Proofs.Wrapper.Legal
import Typelib.Proofs.Registry.Versions
import Typelib.Proofs.Registry.Forms
import Typelib.Proofs.Wrapper.OwnReferences
import Typelib.Proofs.Text.Padding
import Typelib.Proofs.Guid.Spelling
import Typelib.Proofs.Descriptor.Entries
import Typelib.Proofs.Library.Designator
import Typelib.Proofs.Naming.Growth
import Typelib.Proofs.Generator.Source
import Typelib.Proofs.Store.Clearing
import Typelib.Proofs.Wrapper.Literals
import Typelib.Proofs.Generator.Accounting
import Typelib.Proofs.Naming.Search
