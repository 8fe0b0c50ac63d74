import Sramp.Assembly
import Sramp.Double.Nearest
import Sramp.Engine
import Sramp.Plan.Agreement
import Sramp.Proofs.Compile.Acceptance
import Sramp.Proofs.Conditions
import Sramp.Proofs.Confinement
import Sramp.Proofs.Expressibility
import Sramp.Proofs.Hierarchical.Masking
import Sramp.Proofs.Meaning.Plan
import Sramp.Proofs.Relational.Binding
import Sramp.Query.Build
import Sramp.Proofs.Walk.Frame
import Sramp.Proofs.Walk.Visit
import Sramp.Proofs.Walk.Agreement
import Sramp.Proofs.Compile.Refusal
import Sramp.Proofs.Walk.Reachable
import Sramp.Proofs.Walk.Contribution
import Sramp.Proofs.Walk.Connectives
import Sramp.Proofs.Compile.Coupling
import Sramp.Proofs.Walk.Siblings
import Sramp.Proofs.Compile.Matching
import Sramp.Proofs.Compile.Grouping
import Sramp.Proofs.Relational.Columns
import Sramp.Proofs.Hierarchical.Flattening
import Sramp.Proofs.Compile.Typing
import Sramp.Proofs.Ontology.Resolution
import Sramp.Proofs.Ontology.Growth
import Sramp.Proofs.Ontology.Ancestry
import Sramp.Proofs.Ontology.Closure
import Sramp.Proofs.Compile.Items
import Sramp.Proofs.Compile.Resolving
import Sramp.Proofs.FullText.Writes
import Sramp.Proofs.FullText.Matching
import Sramp.Proofs.Relational.Reuse
import Sramp.Proofs.Compile.Outline
import Sramp.Proofs.Query.Unambiguous
