import ControlPlane.Build.ServerVisitor
import ControlPlane.Proofs.Obtained
import ControlPlane.Text.Split
import Mathlib

/-!
# The list of members

The server is told its cluster as one text: for each member its name, an equals sign and its
address, with commas between the members.  Names and numerals hold neither of these separators, so

* the entries are the members again, each cut at its first equals sign, if no host holds a comma
  (`Settings.Lists.entries`);
* every comma in a host makes one entry more (`Settings.Lists.count`).
-/

namespace ControlPlane

/-! ## numerals and names -/

namespace Naming

/-- A numeral does not tell which numbers it is of. -/
theorem repr_natCast (n : Nat) : (n : Int).repr = n.repr := rfl

/-- A numeral is made of digits and, in front of a negative one, a sign. -/
theorem notMem_toString {c : Char} (hdigit : c.isDigit = false) (hsign : c ≠ '-') (i : Int) :
    c ∉ (toString i).toList := by
  have hnat (n : Nat) : c ∉ n.repr.toList := by
    intro h
    rw [Nat.toList_repr] at h
    have := Nat.isDigit_of_mem_toDigits (by decide) (by decide) h
    rw [hdigit] at this
    cases this
  rw [Int.toString_eq_repr, Int.repr_eq_if]
  split
  · exact hnat _
  · rw [String.toList_append, List.mem_append]
    rintro (h | h)
    · exact hsign (by simpa using h)
    · exact hnat _ h

theorem toList_replicaPod (i : Int) :
    (replicaPod i).toList = (podNamed "").toList ++ (toString i).toList := by
  simp [replicaPod, podNamed]

theorem notMem_replicaPod {c : Char} (hname : c ∉ (podNamed "").toList)
    (hdigit : c.isDigit = false) (hsign : c ≠ '-') (i : Int) : c ∉ (replicaPod i).toList := by
  rw [toList_replicaPod, List.mem_append]
  rintro (h | h)
  · exact hname h
  · exact notMem_toString hdigit hsign i h

/-- Replicas have pods of different names. -/
theorem replicaPod_inj {i j : Nat} : replicaPod i = replicaPod j ↔ i = j := by
  constructor
  · intro h
    have hlists := congrArg String.toList h
    rw [toList_replicaPod, toList_replicaPod, List.append_right_inj, String.toList_inj] at hlists
    exact Nat.repr_inj.mp hlists
  · rintro rfl
    rfl

end Naming

/-! ## options -/

/-- The value behind an option, in arguments that are options and values by turns. -/
def optionValue? (option : String) : List String → Option String
  | name :: value :: rest => if name = option then some value else optionValue? option rest
  | _ => none

namespace Settings

/-- The visitor of the server gives an option this value, whatever container it visits. -/
def Passes (s : Settings) (option value : String) : Prop :=
  ∀ c, ∃ args,
    s.serverVisitor.commandAndArgs c =
      .ok (.pair (textValues serverCommand) (textValues args)) ∧
    optionValue? option args = some value

theorem passes_of_serverArgs {s : Settings} {option value : String}
    (h : optionValue? option s.serverArgs = some value) : s.Passes option value :=
  fun _ => ⟨s.serverArgs, rfl, h⟩

/-! ## entries -/

/-- The names and addresses of the members, in the order of the replicas. -/
def memberPairs (s : Settings) : List (List Char × List Char) :=
  s.peerHosts.zipIdx.map fun (host, i) =>
    (("easemesh-control-plane-" ++ toString i).toList,
      ("http://" ++ host ++ ":" ++ toString s.peerPort).toList)

/-- An entry of the list of members. -/
def entryOf (pair : List Char × List Char) : List Char := pair.1 ++ '=' :: pair.2

/-- The list of members is made of their entries. -/
theorem toList_initialCluster (s : Settings) :
    s.initialCluster.toList = [','].intercalate (s.memberPairs.map entryOf) := by
  have hentry (p : String × Nat) :
      (Naming.memberEntry (toString s.peerPort) (Naming.replicaPod p.2, p.1)).toList =
        entryOf (("easemesh-control-plane-" ++ toString p.2).toList,
          ("http://" ++ p.1 ++ ":" ++ toString s.peerPort).toList) := by
    simp [Naming.memberEntry, Naming.memberUrl, Naming.replicaPod, Naming.podNamed,
      Naming.statefulSet, Naming.repr_natCast, entryOf]
  rw [initialCluster, Naming.initialCluster, String.toList_intercalate, peerMembers, memberPairs,
    List.map_map, List.map_map, List.map_map]
  congr 1
  exact List.map_congr_left fun p _ => hentry p

/-- Joined pairs are cut at the equals sign between them. -/
theorem mapM_splitFirst?_entryOf {pairs : List (List Char × List Char)}
    (h : ∀ p ∈ pairs, '=' ∉ p.1) :
    (pairs.map entryOf).mapM (Text.splitFirst? '=') = some pairs := by
  induction pairs with
  | nil => rfl
  | cons p pairs ih =>
      have hrest := ih fun q hq => h q (List.mem_cons_of_mem _ hq)
      rw [List.map_cons, List.mapM_cons, entryOf,
        Text.splitFirst?_append (h p List.mem_cons_self), hrest]
      rfl

/-- Entries have the commas of their hosts and no other ones. -/
theorem map_count_entryOf (s : Settings) :
    (s.memberPairs.map entryOf).map (List.count ',') =
      s.peerHosts.map fun host => host.toList.count ',' := by
  have hport : (toString s.peerPort).toList.count ',' = 0 :=
    List.count_eq_zero.mpr (Naming.notMem_toString (by decide) (by decide) _)
  have hordinal (i : Nat) : (toString i).toList.count ',' = 0 :=
    List.count_eq_zero.mpr (Naming.notMem_toString (by decide) (by decide) (i : Int))
  have hentry (p : String × Nat) :
      (entryOf (("easemesh-control-plane-" ++ toString p.2).toList,
        ("http://" ++ p.1 ++ ":" ++ toString s.peerPort).toList)).count ',' =
      p.1.toList.count ',' := by
    simp only [entryOf, String.toList_append, List.count_append, List.count_cons, hport, hordinal]
    simp
  calc (s.memberPairs.map entryOf).map (List.count ',')
      = s.peerHosts.zipIdx.map fun p => p.1.toList.count ',' := by
        rw [memberPairs, List.map_map, List.map_map]
        exact List.map_congr_left fun p _ => hentry p
    _ = (s.peerHosts.zipIdx.map Prod.fst).map fun host => host.toList.count ',' := by
        rw [List.map_map]
        rfl
    _ = s.peerHosts.map fun host => host.toList.count ',' := by
        rw [List.zipIdx_map_fst]

/-! ## main results -/

/-- A text lists the members of settings. -/
structure Lists (s : Settings) (text : String) : Prop where
  /-- Without replicas there is nothing to list. -/
  empty : s.replicas = 0 → text = ""
  /-- There is an entry for each replica, and one more for each comma in a host. -/
  count : 1 ≤ s.replicas → ((text.toList.splitOn ',').length : Int) =
    s.replicas + (s.peerHosts.map fun host => host.toList.count ',').sum
  /-- Hosts without commas are cut at the right places: the entries are the members in order. -/
  entries : 1 ≤ s.replicas → (∀ host ∈ s.peerHosts, ',' ∉ host.toList) →
    (text.toList.splitOn ',').mapM (Text.splitFirst? '=') = some s.memberPairs

theorem length_memberPairs (s : Settings) : s.memberPairs.length = s.peerHosts.length := by
  simp [memberPairs]

theorem memberPairs_ne_nil {s : Settings} (h : s.Valid) (hreplicas : 1 ≤ s.replicas) :
    s.memberPairs ≠ [] := by
  have hlength := length_peerHosts h
  have hpos : 0 < s.memberPairs.length := by
    rw [length_memberPairs]
    omega
  exact List.length_pos_iff.mp hpos

theorem lists_initialCluster {s : Settings} (h : s.Valid) : s.Lists s.initialCluster where
  empty := by
    intro hzero
    have hlength := length_peerHosts h
    have hnil : s.memberPairs = [] := by
      rw [← List.length_eq_zero_iff, length_memberPairs]
      omega
    rw [← String.toList_inj, toList_initialCluster, hnil]
    rfl
  count := by
    intro hreplicas
    have hne : s.memberPairs.map entryOf ≠ [] := by
      simpa using memberPairs_ne_nil h hreplicas
    rw [toList_initialCluster, Text.length_splitOn_intercalate ',' hne, List.count_flatten,
      map_count_entryOf, List.length_map, length_memberPairs, Nat.cast_add, length_peerHosts h]
  entries := by
    intro hreplicas hhosts
    have hne : s.memberPairs.map entryOf ≠ [] := by
      simpa using memberPairs_ne_nil h hreplicas
    have hcomma : ∀ entry ∈ s.memberPairs.map entryOf, ',' ∉ entry := by
      intro entry hentry
      rw [← List.count_eq_zero]
      have hmem := List.mem_map_of_mem (f := List.count ',') hentry
      rw [map_count_entryOf] at hmem
      obtain ⟨host, hhost, hcount⟩ := List.mem_map.mp hmem
      rw [← hcount]
      exact List.count_eq_zero.mpr (hhosts host hhost)
    have hname : ∀ p ∈ s.memberPairs, '=' ∉ p.1 := by
      intro p hp
      obtain ⟨q, -, rfl⟩ := List.mem_map.mp hp
      exact Naming.notMem_replicaPod (by decide) (by decide) (by decide) q.2
    rw [toList_initialCluster, List.splitOn_intercalate ',' hcomma hne,
      mapM_splitFirst?_entryOf hname]

/-- The members have different names. -/
theorem nodup_memberPairs (s : Settings) : (s.memberPairs.map Prod.fst).Nodup := by
  have hnames : s.memberPairs.map Prod.fst =
      (s.peerHosts.zipIdx.map Prod.snd).map fun (i : Nat) => (Naming.replicaPod i).toList := by
    rw [memberPairs, List.map_map, List.map_map]
    rfl
  rw [hnames, List.zipIdx_map_snd]
  refine List.Nodup.map ?_ List.nodup_range'
  intro i j hij
  exact Naming.replicaPod_inj.mp (String.toList_inj.mp hij)

/-- The hosts are the peer addresses if there are any, and the host names of the pods if not. -/
theorem peerHosts_cases (s : Settings) :
    (∀ addresses, s.peerAddresses = some addresses → s.peerHosts = addresses) ∧
    (s.peerAddresses = none → s.peerHosts = (List.range s.replicas.toNat).map fun i =>
      "easemesh-control-plane-" ++ toString i ++ ".easemesh-control-plane-hs." ++
        s.namespaceName) := by
  constructor
  · intro addresses h
    rw [peerHosts, h]
  · intro h
    rw [peerHosts, h]
    exact List.map_congr_left fun i _ => by
      simp [Naming.podHost, Naming.replicaPod, Naming.podNamed, Naming.statefulSet,
        Naming.headlessService, Naming.repr_natCast, String.append_assoc]

/-- The server is told the list of its members: as many as there are replicas, with different names,
each with its host. -/
theorem passes_initialCluster (s : Settings) (h : s.Valid) :
    s.Passes "--initial-cluster" s.initialCluster ∧ s.Lists s.initialCluster ∧
    (s.memberPairs.length : Int) = s.replicas ∧ (s.memberPairs.map Prod.fst).Nodup ∧
    (∀ addresses, s.peerAddresses = some addresses → s.peerHosts = addresses) ∧
    (s.peerAddresses = none → s.peerHosts = (List.range s.replicas.toNat).map fun i =>
      "easemesh-control-plane-" ++ toString i ++ ".easemesh-control-plane-hs." ++
        s.namespaceName) := by
  have hpasses : s.Passes "--initial-cluster" s.initialCluster := passes_of_serverArgs rfl
  have hlength : (s.memberPairs.length : Int) = s.replicas := by
    rw [length_memberPairs, length_peerHosts h]
  exact ⟨hpasses, lists_initialCluster h, hlength, s.nodup_memberPairs, s.peerHosts_cases⟩

/-- A comma in a host makes an entry of its own; an equals sign in one does no harm. -/
theorem passes_initialCluster_separators :
    let commas : Settings := { replicas := 2, peerAddresses := some ["a,b", "c=d"] }
    let equals : Settings := { replicas := 1, peerAddresses := some ["c=d"], peerPort := 80 }
    commas.Valid ∧ (commas.initialCluster.toList.splitOn ',').length = 3 ∧
    equals.Valid ∧ (equals.initialCluster.toList.splitOn ',').mapM (Text.splitFirst? '=') =
      some [("easemesh-control-plane-0".toList, "http://c=d:80".toList)] := by
  intro commas equals
  have hcommas : commas.Valid := by decide +kernel
  have hequals : equals.Valid := by decide +kernel
  obtain ⟨-, hlist, -⟩ := passes_initialCluster commas hcommas
  obtain ⟨-, hlist', -⟩ := passes_initialCluster equals hequals
  refine ⟨hcommas, ?_, hequals, ?_⟩
  · have hcount := hlist.count (by decide)
    have hsum : (commas.peerHosts.map fun host => host.toList.count ',').sum = 1 := by
      decide +kernel
    have hreplicas : commas.replicas = 2 := rfl
    omega
  · rw [hlist'.entries (by decide) (by decide +kernel)]
    decide +kernel

end Settings

end ControlPlane
