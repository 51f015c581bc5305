import ControlPlane.Config
import ControlPlane.Proofs.RoundTrip

/-!
# Settings that there are

Settings come from a file, from a text, from a mapping or from a value by itself, and each of these
ways ends in `Settings.read`.  So it is enough to know what reading promises:

* `Settings.valid_iff`: settings are valid exactly if their shape admits them and nothing is wrong
  with their peer addresses, which is what reading checks;
* `Settings.read_toWire`: valid settings are read back from what they are written as, so the
  obtained settings are the valid ones and no others (`Settings.obtained_iff_valid`);
* `Settings.shownAfter?_of_guarded`: assignments to guarded names change nothing that settings show.
-/

namespace ControlPlane

namespace Settings

/-! ## what the shape of settings admits -/

theorem keysApart_shape : shape.keysApart = true := by decide +kernel

theorem defaultsFit_shape : shape.defaultsFit = true := by decide +kernel

theorem violation?_portBounds {i : Int} :
    portBounds.violation? i = none ↔ 0 < i ∧ i < 65536 := by
  simp only [Bounds.violation?, Bounds.violation?.upper, portBounds]
  split <;> [skip; split] <;> simp <;> omega

theorem violation?_replicaBounds {i : Int} : replicaBounds.violation? i = none ↔ 0 ≤ i := by
  simp only [Bounds.violation?, Bounds.violation?.upper, replicaBounds]
  split <;> simp <;> omega

theorem one_le_length_iff (s : String) : 1 ≤ s.length ↔ s ≠ "" := by
  rw [Nat.one_le_iff_ne_zero, Ne, String.length_eq_zero_iff]

/-- The shape asks for texts that are not empty, for ports and for a number of replicas. -/
theorem admits_shape_iff (s : Settings) :
    shape.admits s = true ↔
      s.namespaceName ≠ "" ∧ s.imageName ≠ "" ∧ (0 < s.adminPort ∧ s.adminPort < 65536) ∧
      (0 < s.clientPort ∧ s.clientPort < 65536) ∧ (0 < s.peerPort ∧ s.peerPort < 65536) ∧
      0 ≤ s.replicas := by
  have haddresses : (s.peerAddresses.all fun as => as.all fun _ => true) = true := by
    cases s.peerAddresses <;> simp
  simp [shape, Shape.admits, Fields.admits, ResourcePolicy.shape, PullPolicy.shape,
    violation?_portBounds, violation?_replicaBounds, one_le_length_iff, haddresses]

/-! ## what reading promises -/

/-- Nothing is wrong with peer addresses if none of them is blank and there is one per replica. -/
theorem peerProblem?_eq_none_iff (s : Settings) :
    s.peerProblem? = none ↔ ∀ addresses, s.peerAddresses = some addresses →
      (addresses.length : Int) = s.replicas ∧ ∀ a ∈ addresses, isBlankText a = false := by
  unfold peerProblem?
  cases s.peerAddresses with
  | none => simp
  | some addresses =>
      by_cases hblank : addresses.any isBlankText = true
      · obtain ⟨a, ha, hblank'⟩ := List.any_eq_true.mp hblank
        simp only [hblank, if_true, reduceCtorEq, Option.some.injEq, forall_eq', false_iff]
        intro h
        exact absurd (h.2 a ha) (by simp [hblank'])
      · have hnone : ∀ a ∈ addresses, isBlankText a = false := by simpa using hblank
        simp only [hblank, Bool.false_eq_true, if_false, Option.some.injEq, forall_eq']
        by_cases hcount : (addresses.length : Int) = s.replicas
        · simp only [hcount, if_true, true_and, true_iff]
          exact hnone
        · simp only [hcount, if_false, false_and, iff_false]
          split <;> simp

theorem check_eq_ok_iff {s t : Settings} : s.check = .ok t ↔ s.peerProblem? = none ∧ s = t := by
  unfold check
  cases s.peerProblem? with
  | none => simp
  | some message => simp [Reading.refuse]

theorem read_eq_ok_iff {v : Value} {s : Settings} :
    read v = .ok s ↔ shape.read v = .ok s ∧ s.peerProblem? = none := by
  unfold read
  cases shape.read v with
  | error r => simp
  | ok t =>
      simp only [check_eq_ok_iff, Except.ok.injEq]
      constructor
      · rintro ⟨hproblem, rfl⟩
        exact ⟨rfl, hproblem⟩
      · rintro ⟨rfl, hproblem⟩
        exact ⟨hproblem, rfl⟩

/-- Valid settings are those that pass the checks of a reading. -/
theorem valid_iff (s : Settings) : s.Valid ↔ shape.admits s = true ∧ s.peerProblem? = none := by
  rw [admits_shape_iff, peerProblem?_eq_none_iff]
  constructor
  · intro h
    exact ⟨⟨h.namespaceName, h.imageName, h.adminPort, h.clientPort, h.peerPort, h.replicas⟩,
      fun addresses ha => ⟨h.peerCount addresses ha, h.peerBlank addresses ha⟩⟩
  · rintro ⟨⟨hnamespace, himage, hadmin, hclient, hpeer, hreplicas⟩, haddresses⟩
    exact ⟨hnamespace, himage, hadmin, hclient, hpeer, hreplicas,
      fun addresses ha => (haddresses addresses ha).1,
      fun addresses ha => (haddresses addresses ha).2⟩

instance (s : Settings) : Decidable s.Valid := decidable_of_iff _ s.valid_iff.symm

theorem valid_of_read {v : Value} {s : Settings} (h : read v = .ok s) : s.Valid := by
  obtain ⟨hread, hproblem⟩ := read_eq_ok_iff.mp h
  exact s.valid_iff.mpr ⟨shape.admits_of_read defaultsFit_shape hread, hproblem⟩

/-- Valid settings are read back from what they are written as. -/
theorem read_toWire {s : Settings} (h : s.Valid) : read s.toWire.toValue = .ok s := by
  obtain ⟨hadmits, hproblem⟩ := s.valid_iff.mp h
  exact read_eq_ok_iff.mpr ⟨shape.read_write keysApart_shape hadmits, hproblem⟩

/-! ## numbers of hosts and members -/

theorem length_peerHosts {s : Settings} (h : s.Valid) :
    (s.peerHosts.length : Int) = s.replicas := by
  unfold peerHosts
  cases haddresses : s.peerAddresses with
  | some addresses => exact h.peerCount addresses haddresses
  | none =>
      rw [List.length_map, List.length_range]
      exact Int.toNat_of_nonneg h.replicas

theorem length_peerMembers (s : Settings) : s.peerMembers.length = s.peerHosts.length := by
  simp [peerMembers]

/-! ## ways to settings -/

/-- The ways to come by settings. -/
inductive Obtained (s : Settings) : Prop where
  | file (order : SetOrder) (vars : Variables) (file : Except FileError (List UInt8))
      (overrides : List (Scalar × Value)) (h : Config.ofFile order vars file overrides = .ok s)
  | text (order : SetOrder) (vars : Variables) (text : String) (overrides : List (Scalar × Value))
      (h : Config.ofText order vars text overrides = .ok s)
  | entries (entries overrides : List (Scalar × Value))
      (h : Config.ofEntries entries overrides = .ok s)
  | value (v : Value) (h : read v = .ok s)

end Settings

namespace Config

variable {order : SetOrder} {overrides : List (Scalar × Value)} {s : Settings}

theorem ofEntries_eq_ok_iff {entries : List (Scalar × Value)} :
    ofEntries entries overrides = .ok s ↔
      Settings.read (.map (override overrides entries)) = .ok s := by
  unfold ofEntries
  cases Settings.read (.map (override overrides entries)) with
  | ok t => simp [Except.mapError]
  | error r => simp [Except.mapError]

/-- Settings in a mapping that is written are settings in the one that the process sees. -/
theorem exists_entries_of_ofWritten {written : Except ConfigFailure (List (Scalar × Value))}
    (h : ofWritten order written overrides = .ok s) :
    ∃ entries, ofEntries entries overrides = .ok s := by
  unfold ofWritten at h
  split at h
  · cases h
  · exact ⟨_, h⟩

end Config

namespace Settings

/-- Whatever the way to settings is, they are read. -/
theorem Obtained.exists_read {s : Settings} (h : s.Obtained) : ∃ v, read v = .ok s := by
  have ofEntries {entries overrides} (h : Config.ofEntries entries overrides = .ok s) :
      ∃ v, read v = .ok s := ⟨_, Config.ofEntries_eq_ok_iff.mp h⟩
  cases h with
  | file order vars file overrides h =>
      obtain ⟨entries, h⟩ := Config.exists_entries_of_ofWritten h
      exact ofEntries h
  | text order vars text overrides h =>
      obtain ⟨entries, h⟩ := Config.exists_entries_of_ofWritten h
      exact ofEntries h
  | entries entries overrides h => exact ofEntries h
  | value v h => exact ⟨v, h⟩

/-- The obtained settings are the valid ones. -/
theorem obtained_iff_valid (s : Settings) : s.Obtained ↔ s.Valid := by
  constructor
  · intro h
    obtain ⟨v, hv⟩ := h.exists_read
    exact valid_of_read hv
  · intro h
    exact .value _ (read_toWire h)

/-! ## assignments -/

/-- An assignment to a guarded name leaves what settings show as it was. -/
theorem after?_assign {name : String} (h : isGuarded name = true) (v : Value) (shown : Wire) :
    (assign name v).after? shown = some shown := by
  unfold assign
  rw [if_pos h]
  rfl

/-- So do any number of them. -/
theorem shownAfter?_of_guarded (s : Settings) {assignments : List (String × Value)}
    (h : ∀ a ∈ assignments, isGuarded a.1 = true) :
    s.shownAfter? assignments = some s.toWire := by
  unfold shownAfter?
  induction assignments with
  | nil => rfl
  | cons a rest ih =>
      have hrest := ih fun b hb => h b (List.mem_cons_of_mem _ hb)
      rw [List.foldlM_cons, after?_assign (h a List.mem_cons_self)]
      exact hrest

/-! ## main results -/

/-- All settings that there are, however they were obtained and whatever was assigned to guarded
names, are valid, have a host and a member for each replica, and are obtained again from what they
show. -/
theorem Obtained.lasting {s : Settings} (h : s.Obtained) (assignments : List (String × Value))
    (hguarded : ∀ a ∈ assignments, isGuarded a.1 = true) :
    s.shownAfter? assignments = some s.toWire ∧ s.Valid ∧
    (s.peerHosts.length : Int) = s.replicas ∧ (s.peerMembers.length : Int) = s.replicas ∧
    ∃ entries, s.shownAfter? assignments = some (.object entries) ∧
      Config.ofEntries (Wire.toEntries entries) [] = .ok s := by
  have hvalid := s.obtained_iff_valid.mp h
  have hshown := s.shownAfter?_of_guarded hguarded
  have hhosts := length_peerHosts hvalid
  have hback := read_toWire hvalid
  refine ⟨hshown, hvalid, hhosts, ?_, _, hshown, ?_⟩
  · rw [length_peerMembers, hhosts]
  · exact Config.ofEntries_eq_ok_iff.mpr hback

/-- Two addresses in a text, their number in an override, and assignments to a field, to a derived
setting and to no name at all. -/
theorem lasting_peers_of_text :
    ∃ s, Config.ofText .asWritten [("PORT", "80")]
        "peer_addresses: [a, 10.0.0.1]\nadmin_port: ${PORT}"
        [(.text "replicas", .text " 2.0 ")] = .ok s ∧
      let assignments := [("replicas", .int 5), ("peer_hosts", .null), ("", .map [])]
      s.shownAfter? assignments = some s.toWire ∧ s.Valid ∧
      (s.peerHosts.length : Int) = s.replicas ∧ (s.peerMembers.length : Int) = s.replicas ∧
      ∃ entries, s.shownAfter? assignments = some (.object entries) ∧
        Config.ofEntries (Wire.toEntries entries) [] = .ok s := by
  have hok : (Config.ofText .asWritten [("PORT", "80")]
      "peer_addresses: [a, 10.0.0.1]\nadmin_port: ${PORT}"
      [(.text "replicas", .text " 2.0 ")]).isOk = true := by decide +kernel
  cases h : Config.ofText .asWritten [("PORT", "80")]
      "peer_addresses: [a, 10.0.0.1]\nadmin_port: ${PORT}"
      [(.text "replicas", .text " 2.0 ")] with
  | error e =>
      rw [h] at hok
      cases hok
  | ok s => exact ⟨s, rfl, Obtained.lasting (.text _ _ _ _ h) _ (by decide +kernel)⟩

/-- A new table of fields, with an empty namespace. -/
def emptied : List (String × Value) := [("__dict__", .map [(.text "namespace", .text "")])]

/-- The name of the table is not guarded, and a new table is shown as it was given: no valid settings
show it, and none are obtained from it. -/
theorem shownAfter_emptied :
    (({} : Settings).Obtained ∧
      shownAfter? {} emptied = some (.object [("namespace", .text "")])) ∧
    (∀ s : Settings, s.Valid → shownAfter? {} emptied ≠ some s.toWire) ∧
    ∀ s : Settings, Config.ofEntries (Wire.toEntries [("namespace", .text "")]) [] ≠ .ok s := by
  have hshown : shownAfter? {} emptied = some (.object [("namespace", .text "")]) := by rfl
  have hrefused : (read (.map (Wire.toEntries [("namespace", .text "")]))).isOk = false := by
    decide +kernel
  have hread (s : Settings) : read (.map (Wire.toEntries [("namespace", .text "")])) ≠ .ok s := by
    intro h
    rw [h] at hrefused
    cases hrefused
  refine ⟨⟨.value (.map []) rfl, hshown⟩, ?_, ?_⟩
  · intro s hs heq
    have hwire : s.toWire = .object [("namespace", .text "")] :=
      (Option.some.inj (hshown.symm.trans heq)).symm
    exact hread s (by simpa [hwire, Wire.toValue] using read_toWire hs)
  · intro s hs
    exact hread s (Config.ofEntries_eq_ok_iff.mp hs)

end Settings

end ControlPlane
