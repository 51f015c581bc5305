import ControlPlane.Proofs.Members
import ControlPlane.Proofs.Server
import ControlPlane.Text.Replace

/-!
# What a pod announces

The pods of a control plane are all given the same arguments.  Where these refer to the name of the
pod, each of them reads its own, so the address that is announced is written with a reference and
the addresses in the list of members are written with numbers:

* references may stand in the namespace too, but there is none in the rest of an address, so both
  addresses become the same text in the pod they belong to (`Naming.inPod_memberUrl`);
* no reference reaches from one entry of the list into the next, nor from the name of a member into
  its address (`Settings.inPod_initialCluster`);
* the name of the pod ends at the first dot of what is announced, so pods announce different
  addresses (`Naming.urlOf_inj`).
-/

namespace ControlPlane

/-! ## references -/

namespace Naming

/-- A text as the pod of a replica reads it, with its own name for every reference to it. -/
def inPod (i : Nat) (text : String) : String :=
  String.ofList (Text.replaceAll "$(EG_NAME)".toList (replicaPod i).toList text.toList)

theorem toList_inPod (i : Nat) (text : String) :
    (inPod i text).toList =
      Text.replaceAll "$(EG_NAME)".toList (replicaPod i).toList text.toList := by
  rw [inPod, String.toList_ofList]

variable (i : Nat)

/-- No reference begins where there is no dollar sign. -/
theorem inPod_append_of_notMem {front : String} (h : '$' ∉ front.toList) (back : String) :
    inPod i (front ++ back) = front ++ inPod i back := by
  rw [← String.toList_inj, toList_inPod, String.toList_append, String.toList_append, toList_inPod]
  exact Text.replaceAll_append_of_notMem _ h _

theorem inPod_of_notMem {text : String} (h : '$' ∉ text.toList) : inPod i text = text := by
  have hempty := inPod_append_of_notMem i h ""
  rw [String.append_empty] at hempty
  rw [hempty]
  exact String.append_empty

/-- A reference is read as the name of the pod. -/
theorem inPod_reference_append (back : String) :
    inPod i ("$(EG_NAME)" ++ back) = replicaPod i ++ inPod i back := by
  rw [← String.toList_inj, toList_inPod, String.toList_append, String.toList_append, toList_inPod]
  exact Text.replaceAll_append_self _ (by decide) _

/-- No reference reaches across an equals sign. -/
theorem inPod_append_equals (front back : String) :
    inPod i (front ++ "=" ++ back) = inPod i front ++ "=" ++ inPod i back := by
  simp only [← String.toList_inj, toList_inPod, String.toList_append, List.append_assoc]
  exact Text.replaceAll_append_cons _ (by decide) (by decide) _ _

/-- No reference reaches across a comma. -/
theorem inPod_intercalate (parts : List String) :
    inPod i (",".intercalate parts) = ",".intercalate (parts.map (inPod i)) := by
  have hparts : (parts.map (inPod i)).map String.toList = (parts.map String.toList).map
      (Text.replaceAll "$(EG_NAME)".toList (replicaPod i).toList) := by
    rw [List.map_map, List.map_map]
    exact List.map_congr_left fun text _ => toList_inPod i text
  rw [← String.toList_inj, toList_inPod, String.toList_intercalate, String.toList_intercalate,
    hparts]
  exact Text.replaceAll_intercalate _ (by decide) (by decide) _

/-! ## addresses -/

theorem dollar_notMem_replicaPod (i : Int) : '$' ∉ (replicaPod i).toList :=
  notMem_replicaPod (by decide) (by decide) (by decide) i

/-- The address of a pod, with the namespace as the pod of a replica reads it. -/
def urlOf (pod : String) (i : Nat) (namespaceName port : String) : String :=
  "http://" ++ (pod ++ ("." ++ (headlessService ++
    ("." ++ inPod i (namespaceName ++ ":" ++ port)))))

/-- Nothing of an address is read differently but the name of the pod and the namespace. -/
theorem inPod_memberUrl {pod name : String}
    (hpod : ∀ back, inPod i (pod ++ back) = name ++ inPod i back) (namespaceName port : String) :
    inPod i (memberUrl (podHost pod namespaceName) port) = urlOf name i namespaceName port := by
  have hscheme : '$' ∉ "http://".toList := by decide
  have hdot : '$' ∉ ".".toList := by decide
  have hservice : '$' ∉ headlessService.toList := by decide
  have hurl : memberUrl (podHost pod namespaceName) port = "http://" ++ (pod ++
      ("." ++ (headlessService ++ ("." ++ (namespaceName ++ ":" ++ port))))) := by
    simp only [memberUrl, podHost, String.append_assoc]
  rw [hurl, inPod_append_of_notMem i hscheme, hpod, inPod_append_of_notMem i hdot,
    inPod_append_of_notMem i hservice, inPod_append_of_notMem i hdot, urlOf]

/-- An address with a reference in it is read as that of the pod itself. -/
theorem inPod_memberUrl_reference (namespaceName port : String) :
    inPod i (memberUrl (podHost "$(EG_NAME)" namespaceName) port) =
      urlOf (replicaPod i) i namespaceName port :=
  inPod_memberUrl i (inPod_reference_append i) namespaceName port

/-- An address with a number in it is read as that of the pod with this number. -/
theorem inPod_memberUrl_replicaPod (j : Nat) (namespaceName port : String) :
    inPod i (memberUrl (podHost (replicaPod j) namespaceName) port) =
      urlOf (replicaPod j) i namespaceName port :=
  inPod_memberUrl i (inPod_append_of_notMem i (dollar_notMem_replicaPod j)) namespaceName port

/-- The name of a replica's pod can be told from its address: it ends at the first dot. -/
theorem urlOf_inj {i j k l : Nat} {namespaceName port : String}
    (h : urlOf (replicaPod i) k namespaceName port = urlOf (replicaPod j) l namespaceName port) :
    i = j := by
  have hdot (n : Nat) : '.' ∉ (replicaPod n).toList :=
    notMem_replicaPod (by decide) (by decide) (by decide) n
  have hcut (n m : Nat) : ∃ back, (urlOf (replicaPod n) m namespaceName port).toList =
      "http://".toList ++ ((replicaPod n).toList ++ '.' :: back) := by
    refine ⟨(headlessService ++ ("." ++ inPod m (namespaceName ++ ":" ++ port))).toList, ?_⟩
    simp [urlOf]
  obtain ⟨back, hback⟩ := hcut i k
  obtain ⟨back', hback'⟩ := hcut j l
  rw [h, hback', List.append_right_inj] at hback
  have hsplit := congrArg (Text.splitFirst? '.') hback
  rw [Text.splitFirst?_append (hdot j), Text.splitFirst?_append (hdot i)] at hsplit
  have hnames : (replicaPod j).toList = (replicaPod i).toList := by
    simp only [Option.some.injEq, Prod.mk.injEq] at hsplit
    exact hsplit.1
  exact (replicaPod_inj.mp (String.toList_inj.mp hnames)).symm

end Naming

open Naming

namespace Settings

/-! ## arguments in a pod -/

/-- The visitor of the server gives an option this value, whatever container it visits, as the pod
of a replica reads it. -/
def PassesIn (s : Settings) (i : Nat) (option value : String) : Prop :=
  ∀ c, ∃ args,
    s.serverVisitor.commandAndArgs c =
      .ok (.pair (textValues serverCommand) (textValues args)) ∧
    optionValue? option (args.map (inPod i)) = some value

theorem passesIn_iff {s : Settings} {i : Nat} {option value : String} :
    s.PassesIn i option value ↔ optionValue? option (s.serverArgs.map (inPod i)) = some value := by
  constructor
  · intro h
    obtain ⟨args, hargs, hvalue⟩ := h s.baseContainer
    have hwords : textValues s.serverArgs = textValues args := by
      simpa [serverVisitor] using hargs
    have hproper := congrArg Value.words? hwords
    rw [words?_textValues, words?_textValues] at hproper
    have hsame : s.serverArgs = args := by simpa using hproper
    rw [hsame]
    exact hvalue
  · intro h c
    exact ⟨s.serverArgs, rfl, h⟩

variable {s : Settings} {i j : Nat}

/-- A pod is told an address of its own. -/
theorem inPod_advertisedUrl (s : Settings) (i : Nat) (port : Int) :
    inPod i (s.advertisedUrl port) = urlOf (replicaPod i) i s.namespaceName (toString port) :=
  inPod_memberUrl_reference i _ _

theorem serverArgs_inPod (s : Settings) (i : Nat) :
    s.serverArgs.map (inPod i) =
      ["-f", configMountPath,
       "--advertise-client-urls", inPod i (s.advertisedUrl s.clientPort),
       "--initial-advertise-peer-urls", inPod i (s.advertisedUrl s.peerPort),
       "--initial-cluster", inPod i s.initialCluster] := by
  have hfile : inPod i "-f" = "-f" := inPod_of_notMem i (by decide)
  have hpath : inPod i configMountPath = configMountPath := inPod_of_notMem i (by decide)
  have hclient : inPod i "--advertise-client-urls" = "--advertise-client-urls" :=
    inPod_of_notMem i (by decide)
  have hpeer : inPod i "--initial-advertise-peer-urls" = "--initial-advertise-peer-urls" :=
    inPod_of_notMem i (by decide)
  have hcluster : inPod i "--initial-cluster" = "--initial-cluster" :=
    inPod_of_notMem i (by decide)
  simp only [serverArgs, List.map_cons, List.map_nil, hfile, hpath, hclient, hpeer, hcluster]

theorem passesIn_client_iff {u : String} :
    s.PassesIn i "--advertise-client-urls" u ↔ inPod i (s.advertisedUrl s.clientPort) = u := by
  rw [passesIn_iff, serverArgs_inPod]
  simp [optionValue?]

theorem passesIn_peer_iff {u : String} :
    s.PassesIn i "--initial-advertise-peer-urls" u ↔
      inPod i (s.advertisedUrl s.peerPort) = u := by
  rw [passesIn_iff, serverArgs_inPod]
  simp [optionValue?]

theorem passesIn_cluster_iff {u : String} :
    s.PassesIn i "--initial-cluster" u ↔ inPod i s.initialCluster = u := by
  rw [passesIn_iff, serverArgs_inPod]
  simp [optionValue?]

/-- Pods announce different addresses, whatever the port. -/
theorem inPod_advertisedUrl_inj {port : Int}
    (h : inPod i (s.advertisedUrl port) = inPod j (s.advertisedUrl port)) : i = j := by
  rw [inPod_advertisedUrl, inPod_advertisedUrl] at h
  exact urlOf_inj h

/-! ## the list of members in a pod -/

/-- The names of members are read as they are, and their addresses each by itself. -/
theorem inPod_initialCluster (s : Settings) (i : Nat) :
    inPod i s.initialCluster =
      ",".intercalate (s.peerMembers.map fun m =>
        m.1 ++ "=" ++ inPod i (memberUrl m.2 (toString s.peerPort))) := by
  rw [initialCluster, Naming.initialCluster, inPod_intercalate, List.map_map]
  congr 1
  refine List.map_congr_left fun m hm => ?_
  obtain ⟨p, -, rfl⟩ := List.mem_map.mp hm
  show inPod i (replicaPod p.2 ++ "=" ++ memberUrl p.1 (toString s.peerPort)) = _
  rw [inPod_append_equals, inPod_of_notMem i (dollar_notMem_replicaPod p.2)]

theorem getElem?_peerMembers (s : Settings) (k : Nat) :
    s.peerMembers[k]? = s.peerHosts[k]?.map fun host => (replicaPod k, host) := by
  rw [peerMembers, List.getElem?_map, List.getElem?_zipIdx, Option.map_map, Nat.zero_add]
  rfl

/-- A member has the name of a replica's pod exactly if it is the one with this number. -/
theorem name_peerMembers_iff (h : s.Valid) (hi : (i : Int) < s.replicas) (k : Nat) :
    s.peerMembers[k]?.map Prod.fst = some (replicaPod i) ↔ k = i := by
  have hlength := length_peerHosts h
  rw [getElem?_peerMembers, Option.map_map]
  constructor
  · intro hname
    obtain ⟨host, -, hpod⟩ := Option.map_eq_some_iff.mp hname
    exact replicaPod_inj.mp hpod
  · rintro rfl
    have hk : k < s.peerHosts.length := by omega
    rw [List.getElem?_eq_getElem hk]
    rfl

/-- Without peer addresses a member has the host name of its pod. -/
theorem getElem?_peerMembers_of_none (haddresses : s.peerAddresses = none)
    (hi : (i : Int) < s.replicas) :
    s.peerMembers[i]? = some (replicaPod i, podHost (replicaPod i) s.namespaceName) := by
  have hrange : i < s.replicas.toNat := by omega
  rw [getElem?_peerMembers, peerHosts, haddresses]
  simp [hrange]

/-! ## main results -/

/-- Every pod finds itself in the list of members, by its name in one place alone and with the
address that it announces, and no other pod announces the addresses that it announces. -/
theorem announces_member (s : Settings) (h : s.Valid) (i : Nat) (hi : (i : Int) < s.replicas) :
    (∀ k, s.peerMembers[k]?.map Prod.fst = some (replicaPod i) ↔ k = i) ∧
    s.PassesIn i "--initial-cluster" (",".intercalate (s.peerMembers.map fun m =>
      m.1 ++ "=" ++ inPod i (memberUrl m.2 (toString s.peerPort)))) ∧
    (s.peerAddresses = none → ∃ host, s.peerMembers[i]? = some (replicaPod i, host) ∧
      s.PassesIn i "--initial-advertise-peer-urls"
        (inPod i (memberUrl host (toString s.peerPort)))) ∧
    (∃ url, s.PassesIn i "--initial-advertise-peer-urls" url ∧
      ∀ j, j ≠ i → ¬ s.PassesIn j "--initial-advertise-peer-urls" url) ∧
    ∃ url, s.PassesIn i "--advertise-client-urls" url ∧
      ∀ j, j ≠ i → ¬ s.PassesIn j "--advertise-client-urls" url := by
  refine ⟨name_peerMembers_iff h hi, ?_, ?_, ⟨_, passesIn_peer_iff.mpr rfl, ?_⟩,
    ⟨_, passesIn_client_iff.mpr rfl, ?_⟩⟩
  · exact passesIn_cluster_iff.mpr (s.inPod_initialCluster i)
  · intro haddresses
    refine ⟨_, getElem?_peerMembers_of_none haddresses hi, passesIn_peer_iff.mpr ?_⟩
    rw [inPod_advertisedUrl, inPod_memberUrl_replicaPod]
  · intro j hne hpasses
    exact hne (inPod_advertisedUrl_inj (passesIn_peer_iff.mp hpasses))
  · intro j hne hpasses
    exact hne (inPod_advertisedUrl_inj (passesIn_client_iff.mp hpasses))

/-- A reference in the namespace, and two pods with numerals that begin alike. -/
theorem announces_member_of_thirteen :
    let s : Settings := { namespaceName := "a$(EG_NAME)b", replicas := 13 }
    let url := "http://easemesh-control-plane-1.easemesh-control-plane-hs." ++
      "aeasemesh-control-plane-1b:2380"
    s.Valid ∧ ((1 : Nat) : Int) < s.replicas ∧
    s.PassesIn 1 "--initial-advertise-peer-urls" url ∧
    ¬ s.PassesIn 12 "--initial-advertise-peer-urls" url := by
  intro s url
  have hvalid : s.Valid := by decide +kernel
  have hreplica : ((1 : Nat) : Int) < s.replicas := by decide
  obtain ⟨-, -, -, ⟨own, hown, hother⟩, -⟩ := announces_member s hvalid 1 hreplica
  have hurl : inPod 1 (s.advertisedUrl s.peerPort) = url := by decide +kernel
  have hsame : own = url := by rw [← passesIn_peer_iff.mp hown, hurl]
  rw [hsame] at hown hother
  exact ⟨hvalid, hreplica, hown, hother 12 (by decide)⟩

end Settings

end ControlPlane
