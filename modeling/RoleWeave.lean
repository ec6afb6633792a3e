import RoleWeave.Activation
import RoleWeave.Settings.Text
import RoleWeave.Settings.Wiring
import RoleWeave.Proofs.Composition.Call
import RoleWeave.Proofs.Composition.Task
import RoleWeave.Proofs.Composition.Accounting
import RoleWeave.Proofs.Composition.Emission
import RoleWeave.Proofs.Composition.Steady
import RoleWeave.Proofs.Composition.Depth
import RoleWeave.Proofs.Composition.Retention
import RoleWeave.Proofs.Markup.Pending
import RoleWeave.Proofs.Markup.Splice
import RoleWeave.Proofs.Markup.Order
import RoleWeave.Proofs.Markup.Grammar
import RoleWeave.Proofs.Markup.Matching
import RoleWeave.Proofs.Markup.Elements
import RoleWeave.Proofs.Markup.Foreign
import RoleWeave.Proofs.Registry.Asking
import RoleWeave.Proofs.Registry.History
import RoleWeave.Proofs.Registry.Soundness
import RoleWeave.Proofs.Registry.SingleFlight
import RoleWeave.Proofs.Registry.Recovery
import RoleWeave.Proofs.Diagram.Chains
import RoleWeave.Proofs.Composition.Skill
import RoleWeave.Proofs.Library.Faults
import RoleWeave.Proofs.Text.Sequence
import RoleWeave.Proofs.Text.Trimming
import RoleWeave.Proofs.Text.Splitting
import RoleWeave.Proofs.Concept.Editing
import RoleWeave.Proofs.Diagram.Label
import RoleWeave.Proofs.Diagram.Preorder
import RoleWeave.Proofs.Diagram.Mindmap
import RoleWeave.Proofs.Reference.Reading
import RoleWeave.Proofs.Registry.Definition
import RoleWeave.Proofs.Registry.Scanned
import RoleWeave.Proofs.Composition.Outcome
import RoleWeave.Proofs.Composition.Mirror
import RoleWeave.Proofs.Composition.Carrying
import RoleWeave.Proofs.Composition.Marking
import RoleWeave.Proofs.Composition.Recording
import RoleWeave.Proofs.Composition.Containment
import RoleWeave.Proofs.Storage.NormalForm
import RoleWeave.Proofs.Storage.Walked
import RoleWeave.Proofs.Storage.Below
import RoleWeave.Proofs.Storage.Coverage
import RoleWeave.Proofs.Storage.Agreement
import RoleWeave.Proofs.Storage.Endless
import RoleWeave.Proofs.Library.Rooted
import RoleWeave.Proofs.Library.Scanned
import RoleWeave.Proofs.Registry.Overriding
import RoleWeave.Proofs.Reference.Scanning
import RoleWeave.Proofs.Library.Inquiry
import RoleWeave.Proofs.Library.Resolution
import RoleWeave.Proofs.Library.Binding
import RoleWeave.Proofs.Composition.Hoisting
import RoleWeave.Proofs.Composition.Isolation
import RoleWeave.Proofs.Composition.Reach
import RoleWeave.Proofs.Composition.Correspondence
import RoleWeave.Proofs.Composition.Pointing
import RoleWeave.Proofs.Reference.Words
import RoleWeave.Proofs.Composition.Concatenation
import RoleWeave.Proofs.Markup.Placement
import RoleWeave.Proofs.Markup.Origins
import RoleWeave.Proofs.Markup.LetterCase
import RoleWeave.Proofs.Composition.Opacity
import RoleWeave.Proofs.Reference.Covering
import RoleWeave.Proofs.Markup.Listing
import RoleWeave.Proofs.Composition.Interruption
import RoleWeave.Proofs.Composition.Tracing
import RoleWeave.Proofs.Concept.Additions
import RoleWeave.Proofs.Concept.Spanning
import RoleWeave.Proofs.Concept.Narrowing
import RoleWeave.Proofs.Diagram.Fences
import RoleWeave.Proofs.Diagram.Flowchart
import RoleWeave.Proofs.Composition.Drawing
import RoleWeave.Proofs.Text.Lines
import RoleWeave.Proofs.Concept.Phrases
import RoleWeave.Proofs.Concept.Captures
import RoleWeave.Proofs.Concept.Indexing
