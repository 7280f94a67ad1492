import IghMaster.Lib.Packing
import IghMaster.PdoMapping
import Mathlib.Algebra.Order.Group.Nat

/-!
# A bus that serves

The data of the sync managers one after the other, and a bus that finds each entry where it is. Whatever
the slaves are, there is such a bus as long as the offsets can be returned.
-/

namespace IghMaster

namespace Domain

/-- The sizes of the sync managers 0 to 3. -/
def sizesOf (syncs : List SyncManager) : List Nat :=
  (List.range 4).map fun syncIndex =>
    ((syncs.find? fun sync => sync.index = syncIndex).map SyncManager.size).getD 0

def packedSizes (slaves : List (List SyncManager)) : List Nat := slaves.flatMap sizesOf

def packed (slaves : List (List SyncManager)) : Domain where
  syncs slave := slaves.getD slave []
  base slave syncIndex := Packing.offset (packedSizes slaves) (4 * slave + syncIndex)

variable {slaves : List (List SyncManager)}

theorem getD_packedSizes (slave : Nat) {syncIndex : Nat} (hlt : syncIndex < 4) :
    (packedSizes slaves).getD (4 * slave + syncIndex) 0 = (packed slaves).size slave syncIndex := by
  have hsize : (packed slaves).size slave syncIndex =
      (((slaves.getD slave []).find? fun sync => sync.index = syncIndex).map
        SyncManager.size).getD 0 := by
    have hsyncs : (packed slaves).syncs slave = slaves.getD slave [] := rfl
    rw [Domain.size, hsyncs]
    cases (slaves.getD slave []).find? fun sync => decide (sync.index = syncIndex) <;> rfl
  rw [hsize]
  clear hsize
  induction slaves generalizing slave with
  | nil => simp [packedSizes]
  | cons syncs slaves ih =>
      have hcons : packedSizes (syncs :: slaves) = sizesOf syncs ++ packedSizes slaves :=
        List.flatMap_cons
      have hlength : (sizesOf syncs).length = 4 := by
        rw [sizesOf, List.length_map, List.length_range]
      cases slave with
      | zero =>
          rw [hcons, Nat.mul_zero, Nat.zero_add, List.getD_append _ _ _ _ (hlength ▸ hlt),
            List.getD_eq_getElem _ _ (hlength ▸ hlt), List.getD_cons_zero]
          simp only [sizesOf, List.getElem_map, List.getElem_range]
      | succ slave =>
          have hindex : 4 * (slave + 1) + syncIndex - 4 = 4 * slave + syncIndex := by omega
          have hpast : (sizesOf syncs).length ≤ 4 * (slave + 1) + syncIndex := by omega
          rw [hcons, List.getD_append_right _ _ _ _ hpast, hlength, hindex, ih, List.getD_cons_succ]

/-- No slave has sync managers but 0 to 3. -/
def FourSyncs (slaves : List (List SyncManager)) : Prop :=
  ∀ syncs ∈ slaves, ∀ sync ∈ syncs, sync.index < 4

theorem size_eq_zero (hfour : FourSyncs slaves) (slave : Nat) {syncIndex : Nat}
    (hle : 4 ≤ syncIndex) : (packed slaves).size slave syncIndex = 0 := by
  unfold size
  split
  · rename_i sync hfind
    have hmem : sync ∈ slaves.getD slave [] := List.mem_of_find?_eq_some hfind
    have hindex : sync.index = syncIndex := by simpa using List.find?_some hfind
    have hlt : sync.index < 4 := by
      by_cases hslave : slave < slaves.length
      · rw [List.getD_eq_getElem _ _ hslave] at hmem
        exact hfour _ (List.getElem_mem hslave) sync hmem
      · rw [List.getD_eq_default _ _ (Nat.le_of_not_lt hslave)] at hmem
        exact absurd hmem List.not_mem_nil
    omega
  · rfl

theorem disjoint_packed (hfour : FourSyncs slaves) {slave sync slave' sync' : Nat}
    (hne : (slave, sync) ≠ (slave', sync')) :
    Disjoint ((packed slaves).area slave sync) ((packed slaves).area slave' sync') := by
  rw [Set.disjoint_left]
  rintro address ⟨hfirst, hstop⟩ ⟨hfirst', hstop'⟩
  by_cases hsync : 4 ≤ sync
  · rw [size_eq_zero hfour slave hsync] at hstop
    omega
  by_cases hsync' : 4 ≤ sync'
  · rw [size_eq_zero hfour slave' hsync'] at hstop'
    omega
  rw [Nat.not_le] at hsync hsync'
  rw [← getD_packedSizes slave hsync] at hstop
  rw [← getD_packedSizes slave' hsync'] at hstop'
  have hpositions : 4 * slave + sync ≠ 4 * slave' + sync' := by
    intro hsame
    refine hne (Prod.ext ?_ ?_)
    · change slave = slave'
      omega
    · change sync = sync'
      omega
  change Packing.offset (packedSizes slaves) (4 * slave + sync) ≤ address at hfirst
  change Packing.offset (packedSizes slaves) (4 * slave' + sync') ≤ address at hfirst'
  change address < Packing.offset (packedSizes slaves) (4 * slave + sync) + _ at hstop
  change address < Packing.offset (packedSizes slaves) (4 * slave' + sync') + _ at hstop'
  rcases Nat.lt_or_gt_of_ne hpositions with hlt | hlt
  · have hapart := Packing.offset_add_le (packedSizes slaves) hlt
    omega
  · have hapart := Packing.offset_add_le (packedSizes slaves) hlt
    omega

end Domain

/-! ### Bits before an entry -/

theorem bitsBefore_le {index : UInt16} {subindex : UInt8} {entries : List PdoEntry} {bits : Nat}
    (hbefore : bitsBefore index subindex entries = some bits) :
    bits ≤ (entries.map PdoEntry.bitLength).sum := by
  induction entries generalizing bits with
  | nil => exact absurd hbefore.symm (Option.some_ne_none bits)
  | cons entry entries ih =>
      rw [bitsBefore] at hbefore
      split at hbefore
      · obtain rfl := Option.some.inj hbefore
        exact Nat.zero_le _
      · obtain ⟨rest, hrest, rfl⟩ := Option.map_eq_some_iff.mp hbefore
        rw [List.map_cons, List.sum_cons]
        exact Nat.add_le_add_left (ih hrest) _

/-- The bits of all sync managers of a slave. -/
def bitsOf (syncs : List SyncManager) : Nat := (syncs.map SyncManager.bits).sum

theorem bits_le_bitsOf {syncs : List SyncManager} {sync : SyncManager} (hsync : sync ∈ syncs) :
    sync.bits ≤ bitsOf syncs :=
  List.single_le_sum (fun _ _ => Nat.zero_le _) _ (List.mem_map_of_mem hsync)

theorem locate_le {syncs : List SyncManager} {index : UInt16} {subindex : UInt8} {sync bits : Nat}
    (hlocate : locate syncs index subindex = some (sync, bits)) : bits ≤ bitsOf syncs := by
  obtain ⟨manager, hmem, hfound⟩ := List.exists_of_findSome?_eq_some hlocate
  obtain ⟨before, hbefore, hpair⟩ := Option.map_eq_some_iff.mp hfound
  obtain rfl : before = bits := congrArg Prod.snd hpair
  exact (bitsBefore_le hbefore).trans (bits_le_bitsOf hmem)

theorem locateAt_le {syncs : List SyncManager} {syncIndex pdoPos entryPos sync bits : Nat}
    (hlocate : locateAt syncs syncIndex pdoPos entryPos = some (sync, bits)) :
    bits ≤ bitsOf syncs := by
  simp only [locateAt, Option.bind_eq_bind, Option.bind_eq_some_iff, Option.pure_def,
    Option.some.injEq, Prod.mk.injEq] at hlocate
  obtain ⟨manager, hmanager, pdo, hpdo, entry, -, -, rfl⟩ := hlocate
  have hmem : manager ∈ syncs := List.mem_of_find?_eq_some hmanager
  have hlt : pdoPos < manager.pdos.length := (List.getElem?_eq_some_iff.mp hpdo).1
  have hpdoEq : manager.pdos[pdoPos] = pdo := (List.getElem?_eq_some_iff.mp hpdo).2
  have htake : (manager.pdos.take (pdoPos + 1)).flatMap Pdo.entries =
      (manager.pdos.take pdoPos).flatMap Pdo.entries ++ pdo.entries := by
    rw [List.take_succ_eq_append_getElem hlt, hpdoEq, List.flatMap_append, List.flatMap_singleton]
  have hsublist : ((manager.pdos.take pdoPos).flatMap Pdo.entries ++
      pdo.entries.take entryPos).Sublist manager.entries := by
    calc
      List.Sublist ((manager.pdos.take pdoPos).flatMap Pdo.entries ++ pdo.entries.take entryPos)
          ((manager.pdos.take pdoPos).flatMap Pdo.entries ++ pdo.entries) :=
        (List.take_sublist _ _).append_left _
      List.Sublist _ ((manager.pdos.take (pdoPos + 1)).flatMap Pdo.entries) := by rw [htake]
      List.Sublist _ ((manager.pdos.take (pdoPos + 1)).flatMap Pdo.entries ++
          (manager.pdos.drop (pdoPos + 1)).flatMap Pdo.entries) := List.sublist_append_left _ _
      List.Sublist _ manager.entries := by
        rw [← List.flatMap_append, List.take_append_drop]
        exact List.Sublist.refl _
  exact ((hsublist.map PdoEntry.bitLength).sum_le_sum fun _ _ => Nat.zero_le _).trans
    (bits_le_bitsOf hmem)

/-! ### The bus -/

namespace Domain

def offsetAt (domain : Domain) (slave : Nat) : Option (Nat × Nat) → Int32
  | some (sync, bits) =>
      if bits % 8 = 0 then Int32.ofNat (domain.base slave sync + bits / 8) else -1
  | none => -1

/-- A bus whose registrations find what the domain maps, with slaves that do not tell who they are. -/
def setup (domain : Domain) : BusSetup where
  requestMaster := true
  createDomain := true
  slaveInfo _ := none
  slaveConfig _ := true
  configurePdoMapping _ := true
  regPdoEntry slave index subindex :=
    domain.offsetAt slave (locate (domain.syncs slave) index subindex)
  regPdoEntryPos slave syncIndex pdoPos entryPos :=
    domain.offsetAt slave (locateAt (domain.syncs slave) syncIndex pdoPos entryPos)

theorem toInt_offsetAt {domain : Domain} {slave sync bits : Nat}
    (hsmall : domain.base slave sync + bits < 2147483648) (hbits : bits % 8 = 0) :
    (domain.offsetAt slave (some (sync, bits))).toInt = (domain.base slave sync + bits / 8 : Nat) := by
  have hlt : domain.base slave sync + bits / 8 < 2147483648 := by omega
  rw [offsetAt, if_pos hbits]
  exact Int32.toInt_ofNat_of_lt hlt

theorem serves_setup {slaves : List (List SyncManager)} (hfour : FourSyncs slaves)
    (hsmall : ∀ syncs ∈ slaves, (packedSizes slaves).sum + bitsOf syncs < 2147483648) :
    (packed slaves).setup.Serves (packed slaves) := by
  have hbound {slave sync bits : Nat} (hle : bits ≤ bitsOf ((packed slaves).syncs slave))
      (hmapped : (packed slaves).syncs slave ≠ []) :
      (packed slaves).base slave sync + bits < 2147483648 := by
    have hslave : slave < slaves.length := by
      by_contra hout
      exact hmapped (List.getD_eq_default _ _ (Nat.le_of_not_lt hout))
    have hsyncs : (packed slaves).syncs slave = slaves[slave] := List.getD_eq_getElem _ _ hslave
    have hbase : (packed slaves).base slave sync ≤ (packedSizes slaves).sum :=
      Packing.offset_le_sum _ _
    have hsum := hsmall _ (List.getElem_mem hslave)
    rw [hsyncs] at hle
    omega
  refine ⟨fun {slave index subindex sync bits} hlocate hbits => ?_,
    fun {slave index subindex} hnone => ?_,
    fun {slave syncIndex pdoPos entryPos sync bits} hlocate hbits => ?_, fun hne => disjoint_packed hfour hne⟩
  · have hmapped : (packed slaves).syncs slave ≠ [] := by
      intro hnil
      rw [hnil] at hlocate
      exact absurd hlocate.symm (Option.some_ne_none _)
    have hlt : (packed slaves).base slave sync + bits < 2147483648 :=
      hbound (locate_le hlocate) hmapped
    have hret := toInt_offsetAt hlt hbits
    rw [← hlocate] at hret
    exact hret
  · change (packed slaves).offsetAt slave (locate ((packed slaves).syncs slave) index subindex) < 0
    cases hlocate : locate ((packed slaves).syncs slave) index subindex with
    | none =>
        rw [offsetAt]
        decide
    | some found =>
        rw [offsetAt, if_neg (hnone _ _ hlocate)]
        decide
  · have hmapped : (packed slaves).syncs slave ≠ [] := by
      intro hnil
      rw [hnil] at hlocate
      exact absurd hlocate.symm (Option.some_ne_none _)
    have hlt : (packed slaves).base slave sync + bits < 2147483648 :=
      hbound (locateAt_le hlocate) hmapped
    have hret := toInt_offsetAt hlt hbits
    rw [← hlocate] at hret
    exact hret

/-! ### Configurations -/

/-- What is mapped for the slaves, if they are what the configuration says. -/
def ofMotors (motors : List MotorConfig) : Domain :=
  packed (motors.map fun motor => (configurePdoMapping motor).getD [])

theorem bounds_of_mapping (motor : MotorConfig) :
    (∀ sync ∈ (configurePdoMapping motor).getD [], sync.index < 4) ∧
      (sizesOf ((configurePdoMapping motor).getD [])).sum ≤ 401 ∧
        bitsOf ((configurePdoMapping motor).getD []) ≤ 3208 := by
  have hjoint (isSjd17 : Bool) : (∀ sync ∈ jointSyncs isSjd17, sync.index < 4) ∧
      (sizesOf (jointSyncs isSjd17)).sum ≤ 401 ∧ bitsOf (jointSyncs isSjd17) ≤ 3208 := by
    cases isSjd17 <;> decide +kernel
  have hsri (useFloat : Bool) : (∀ sync ∈ sriSyncs useFloat, sync.index < 4) ∧
      (sizesOf (sriSyncs useFloat)).sum ≤ 401 ∧ bitsOf (sriSyncs useFloat) ≤ 3208 := by
    cases useFloat <;> decide +kernel
  unfold configurePdoMapping
  split
  · exact hjoint _
  split
  · rw [Option.getD_some]
    decide +kernel
  split
  · rw [Option.getD_some]
    decide +kernel
  split
  · exact hsri _
  · decide

theorem sum_packedSizes_le (motors : List MotorConfig) :
    (packedSizes (motors.map fun motor => (configurePdoMapping motor).getD [])).sum ≤
      401 * motors.length := by
  induction motors with
  | nil => exact Nat.le_refl 0
  | cons motor motors ih =>
      have hfirst := (bounds_of_mapping motor).2.1
      rw [List.map_cons, packedSizes, List.flatMap_cons, List.sum_append, List.length_cons]
      rw [packedSizes] at ih
      omega

/-- As many slaves as a motor id can name are served, whatever they are. -/
theorem serves_ofMotors {motors : List MotorConfig} (hfew : motors.length ≤ 256) :
    (ofMotors motors).setup.Serves (ofMotors motors) := by
  refine serves_setup ?_ fun syncs hsyncs => ?_
  · intro syncs hsyncs
    obtain ⟨motor, -, rfl⟩ := List.mem_map.mp hsyncs
    exact (bounds_of_mapping motor).1
  · obtain ⟨motor, -, rfl⟩ := List.mem_map.mp hsyncs
    have hsum := sum_packedSizes_le motors
    have hbits := (bounds_of_mapping motor).2.2
    omega

theorem syncs_ofMotors {motors : List MotorConfig} {slave : Nat} {motor : MotorConfig}
    (hmotor : motors[slave]? = some motor) :
    (ofMotors motors).syncs slave = (configurePdoMapping motor).getD [] := by
  change (motors.map fun motor => (configurePdoMapping motor).getD []).getD slave [] = _
  rw [List.getD_eq_getElem?_getD, List.getElem?_map, hmotor]
  rfl

theorem mapped_ofMotors {motors : List MotorConfig}
    (hmapped : ∀ motor ∈ motors, (configurePdoMapping motor).isSome = true) (slave : Nat)
    (motor : MotorConfig) (hmotor : motors[slave]? = some motor) :
    configurePdoMapping ((ofMotors motors).setup.correctIdentity motor) =
      some ((ofMotors motors).syncs slave) := by
  obtain ⟨syncs, hsyncs⟩ := Option.isSome_iff_exists.mp (hmapped motor (List.mem_of_getElem? hmotor))
  have hidentity : (ofMotors motors).setup.correctIdentity motor = motor := rfl
  rw [syncs_ofMotors hmotor, hidentity, hsyncs, Option.getD_some]

end Domain

/-- A slave of each kind. -/
def fourSlaves : List MotorConfig := [
  { position := 0, vendorId := 0x000009CF, productCode := 0x00010001, pdoLayout := .jointModule },
  { position := 1, vendorId := 0x00000748, productCode := 0x00000019, pdoLayout := .coolDriveJmdt },
  { position := 2, vendorId := 0x00000130, productCode := 0x01300060, pdoLayout := .gateway },
  { position := 3, vendorId := 0x00000E53, productCode := 0x00081261, pdoLayout := .sriM8126 }]

end IghMaster
