import ControlPlane.Manifest.Metadata

/-!
# Names of the control plane

Names, labels and paths that the objects of the control plane share, and the texts that are put
together from them: pod names, host names, member addresses and the list of members.
-/

namespace ControlPlane.Naming

/-! ## fixed names -/

def statefulSet : String := "easemesh-control-plane"
def headlessService : String := "easemesh-control-plane-hs"
def configMap : String := "easemesh-cluster-cm"
def dataVolume : String := "easegress-control-plane-pv"

def container : String := "easegress"
def serverBinary : String := "/opt/easegress/bin/easegress-server"
def dataDirectory : String := "/opt/easegress/data"
def configMountPath : String := "/opt/easegress/config/eg-master.yaml"
def configSubPath : String := "eg-master.yaml"

def adminPort : String := "admin-port"
def clientPort : String := "client-port"
def peerPort : String := "peer-port"

/-- The environment variable in which a pod finds its own name. -/
def podNameVariable : String := "EG_NAME"

def labelKey : String := "mesh-controlpanel-app"
def labelValue : String := "easegress-mesh-controlpanel"

/-- The labels that select the pods of the control plane. -/
def labels : Labels := [(labelKey, labelValue)]

/-! ## composed names -/

/-- The name of a pod by what tells it from the others. -/
def podNamed (mark : String) : String := statefulSet ++ "-" ++ mark

/-- The name of the pod of a replica. -/
def replicaPod (ordinal : Int) : String := podNamed (toString ordinal)

/-- The host name of a pod behind the headless service. -/
def podHost (pod namespaceName : String) : String :=
  pod ++ "." ++ headlessService ++ "." ++ namespaceName

/-- The address of a member; a port is written as a number or by its name. -/
def memberUrl (host port : String) : String := "http://" ++ host ++ ":" ++ port

/-- One entry of the list of members. -/
def memberEntry (port : String) (member : String × String) : String :=
  member.1 ++ "=" ++ memberUrl member.2 port

/-- The list of members: for each its name and its address. -/
def initialCluster (members : List (String × String)) (port : String) : String :=
  String.intercalate "," (members.map (memberEntry port))

end ControlPlane.Naming
