import ControlPlane.Deployment.Session
import ControlPlane.Files.Tree
import ControlPlane.Main
import ControlPlane.Proofs.Build
import ControlPlane.Proofs.NormalForm
import ControlPlane.Proofs.Obtained
import ControlPlane.Proofs.Escapes
import ControlPlane.Text.Split
import ControlPlane.Proofs.Members
import ControlPlane.Text.Replace
import ControlPlane.Proofs.Announcement
import ControlPlane.Proofs.Parsing
import ControlPlane.Deployment.Cluster
import ControlPlane.Proofs.Submission
import ControlPlane.Proofs.Traffic
import ControlPlane.Proofs.Reload.DoubleQuotes
import ControlPlane.Proofs.Reload.PlainScalars
import ControlPlane.Proofs.Rendering
import ControlPlane.Proofs.Reload
import ControlPlane.Proofs.Quantity.Views
import ControlPlane.Proofs.Overriding
import ControlPlane.Proofs.Respelling
import ControlPlane.Proofs.Segments
import ControlPlane.Proofs.Templates
import ControlPlane.Proofs.Assembly
import ControlPlane.Proofs.Pipeline
