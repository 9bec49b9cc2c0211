import DistanceField.Main
import DistanceField.Edit.Session
import DistanceField.Field
import DistanceField.Node.Decode
import DistanceField.Notice
import DistanceField.Shader.Semantics
import DistanceField.Proofs.Edit.Kind
import DistanceField.Proofs.Edit.Validity
import DistanceField.Proofs.Field.Inside
import DistanceField.Proofs.Flat.Canonical
import DistanceField.Proofs.Flat.Lookup
import DistanceField.Proofs.Node.Document
import DistanceField.Proofs.Node.Relevant
import DistanceField.Proofs.Shader.Alphabet
import DistanceField.Proofs.Shader.Declared
import DistanceField.Proofs.Shader.Layout
import DistanceField.Proofs.Node.Outline
import DistanceField.Proofs.Edit.Removal
import DistanceField.Proofs.Edit.Insertion
import DistanceField.Proofs.Edit.Moving
import DistanceField.Proofs.Edit.Adding
import DistanceField.Proofs.Node.Defect
import DistanceField.Proofs.Shader.SingleAssignment
import DistanceField.Proofs.Edit.Exchange
import DistanceField.Proofs.Edit.Rejection
import DistanceField.Proofs.Edit.Frame
import DistanceField.Proofs.Edit.Unfolding
import DistanceField.Proofs.Flat.KeyOrder
import DistanceField.Proofs.Field.Smooth
import DistanceField.Proofs.Field.SiblingOrder
import DistanceField.Proofs.Field.Symmetry
import DistanceField.Proofs.Field.Grid
import DistanceField.Proofs.Edit.Target
