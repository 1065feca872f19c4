import SceneSchema.Main
import SceneSchema.Proofs.Disk.Components
import SceneSchema.Proofs.Disk.FullNames
import SceneSchema.Proofs.Disk.Launcher
import SceneSchema.Proofs.Disk.Neighbours
import SceneSchema.Proofs.Disk.PathList
import SceneSchema.Proofs.Disk.Rearranged
import SceneSchema.Proofs.Disk.SearchOrder
import SceneSchema.Proofs.Disk.Walks
import SceneSchema.Proofs.Inspect.Candidates
import SceneSchema.Proofs.Inspect.Loading
import SceneSchema.Proofs.Inspect.Reports
import SceneSchema.Proofs.Inspect.Rows
import SceneSchema.Proofs.Object.FailedCalls
import SceneSchema.Proofs.Object.Resetting
import SceneSchema.Proofs.Plugin.ClassNames
import SceneSchema.Proofs.Plugin.LoaderWords
import SceneSchema.Proofs.Plugin.Memory
import SceneSchema.Proofs.Plugin.Opening
import SceneSchema.Proofs.Plugin.Validity
import SceneSchema.Proofs.Program.Access
import SceneSchema.Proofs.Program.Identities
import SceneSchema.Proofs.Program.Interchange
import SceneSchema.Proofs.Program.Marks
import SceneSchema.Proofs.Program.Objects
import SceneSchema.Proofs.Program.Schemas
import SceneSchema.Proofs.Registry.KeptObjects
import SceneSchema.Proofs.Registry.Lasting
import SceneSchema.Proofs.Registry.Redeclaring
import SceneSchema.Proofs.Registry.Twins
import SceneSchema.Proofs.Schema.Annotations
import SceneSchema.Proofs.Schema.Closing
import SceneSchema.Proofs.Schema.FailedEdits
import SceneSchema.Proofs.Snapshot.CanonicalForm
import SceneSchema.Proofs.Snapshot.Exactness
import SceneSchema.Proofs.Snapshot.Shared
import SceneSchema.Proofs.Wire.Guard
import SceneSchema.Proofs.Wire.Sizes
