import IghMaster.Proof.PackedDomain

/-!
# A slave registers what was mapped for it

`configurePDOMapping` and `registerPDOEntries` each tell what kind a slave is. Where they agree every
registration finds its entry, at the address that follows from the mapping; where they do not, some
registration fails and with it the initialization.
-/

namespace IghMaster

variable {bus : BusSetup} {domain : Domain} {slave : Nat} {syncs : List SyncManager}

/-! ### The objects of the drives -/

theorem locate_joint (isSjd17 : Bool) :
    locate (jointSyncs isSjd17) 0x6040 0 = some (2, 8 * 0) ∧
    locate (jointSyncs isSjd17) 0x607A 0 = some (2, 8 * 2) ∧
    locate (jointSyncs isSjd17) 0x60FF 0 = some (2, 8 * 6) ∧
    locate (jointSyncs isSjd17) 0x6071 0 = some (2, 8 * 10) ∧
    locate (jointSyncs isSjd17) 0x6060 0 = some (2, 8 * 12) ∧
    locate (jointSyncs isSjd17) 0x6041 0 = some (3, 8 * 0) ∧
    locate (jointSyncs isSjd17) 0x6064 0 = some (3, 8 * 2) ∧
    locate (jointSyncs isSjd17) 0x606C 0 = some (3, 8 * 6) ∧
    locate (jointSyncs isSjd17) 0x6077 0 = some (3, 8 * 10) ∧
    locate (jointSyncs isSjd17) 0x6061 0 = some (3, 8 * 12) := by
  cases isSjd17 <;> decide

theorem locate_xinqi :
    locate (jointSyncs false) 0x603F 0 = some (3, 8 * 13) ∧
    locate (jointSyncs false) 0x2020 0 = none ∧
    locate (jointSyncs false) 0x2021 0 = none ∧
    locate (jointSyncs false) 0x310B 0 = none ∧
    locate (jointSyncs false) 0x3108 0 = none := by
  decide

theorem locate_sjd17 :
    locate (jointSyncs true) 0x603F 0 = none ∧
    locate (jointSyncs true) 0x2020 0 = some (3, 8 * 13) ∧
    locate (jointSyncs true) 0x2021 0 = some (3, 8 * 17) := by
  decide

theorem locate_jmdt :
    locate jmdtSyncs 0x6040 0 = some (2, 8 * 0) ∧
    locate jmdtSyncs 0x607A 0 = some (2, 8 * 4) ∧
    locate jmdtSyncs 0x60FF 0 = some (2, 8 * 8) ∧
    locate jmdtSyncs 0x6071 0 = some (2, 8 * 12) ∧
    locate jmdtSyncs 0x6060 0 = some (2, 8 * 2) ∧
    locate jmdtSyncs 0x6041 0 = some (3, 8 * 0) ∧
    locate jmdtSyncs 0x6064 0 = some (3, 8 * 4) ∧
    locate jmdtSyncs 0x606C 0 = some (3, 8 * 8) ∧
    locate jmdtSyncs 0x6077 0 = some (3, 8 * 12) ∧
    locate jmdtSyncs 0x6061 0 = some (3, 8 * 2) ∧
    locate jmdtSyncs 0x603F 0 = none ∧
    locate jmdtSyncs 0x2020 0 = none ∧
    locate jmdtSyncs 0x2021 0 = none ∧
    locate jmdtSyncs 0x310B 0 = some (3, 8 * 14) ∧
    locate jmdtSyncs 0x3108 0 = some (3, 8 * 18) := by
  decide

/-! ### Entries of whole bytes -/

theorem eight_dvd_bitsBefore {index : UInt16} {subindex : UInt8} {entries : List PdoEntry}
    {bits : Nat} (hwhole : ∀ entry ∈ entries, 8 ∣ entry.bitLength)
    (hbefore : bitsBefore index subindex entries = some bits) : 8 ∣ bits := by
  induction entries generalizing bits with
  | nil => cases hbefore
  | cons entry entries ih =>
      rw [bitsBefore] at hbefore
      split at hbefore
      · cases hbefore
        exact Nat.dvd_zero 8
      · obtain ⟨rest, hrest, rfl⟩ := Option.map_eq_some_iff.mp hbefore
        have hhead : 8 ∣ entry.bitLength := hwhole entry List.mem_cons_self
        have htail : 8 ∣ rest :=
          ih (fun other hother => hwhole other (List.mem_cons_of_mem _ hother)) hrest
        exact Nat.dvd_add hhead htail

theorem bitsBefore_of_mem {entries : List PdoEntry} {entry : PdoEntry} (hentry : entry ∈ entries) :
    ∃ bits, bitsBefore entry.index entry.subindex entries = some bits := by
  induction entries with
  | nil => cases hentry
  | cons head entries ih =>
      rw [bitsBefore]
      split
      · exact ⟨0, rfl⟩
      · rename_i hne
        have htail : entry ∈ entries := by
          refine (List.mem_cons.mp hentry).resolve_left fun heq => hne ?_
          rw [heq]
          exact ⟨rfl, rfl⟩
        obtain ⟨bits, hbits⟩ := ih htail
        exact ⟨head.bitLength + bits, by rw [hbits, Option.map_some]⟩

theorem eight_dvd_of_locate (hwhole : ∀ sync ∈ syncs, ∀ entry ∈ sync.entries, 8 ∣ entry.bitLength)
    {index : UInt16} {subindex : UInt8} {found : Nat × Nat}
    (hfound : locate syncs index subindex = some found) : 8 ∣ found.2 := by
  obtain ⟨sync, hsync, hmap⟩ := List.exists_of_findSome?_eq_some hfound
  obtain ⟨bits, hbefore, rfl⟩ := Option.map_eq_some_iff.mp hmap
  exact eight_dvd_bitsBefore (hwhole sync hsync) hbefore

theorem locate_of_mem {sync : SyncManager} {entry : PdoEntry} (hsync : sync ∈ syncs)
    (hentry : entry ∈ sync.entries) :
    ∃ found, locate syncs entry.index entry.subindex = some found := by
  obtain ⟨bits, hbits⟩ := bitsBefore_of_mem hentry
  refine Option.isSome_iff_exists.mp (List.findSome?_isSome_iff.mpr ⟨sync, hsync, ?_⟩)
  rw [hbits]
  rfl

theorem subindices_subset {index : UInt16} {first last first' last' : Nat} (hfirst : first' ≤ first)
    (hlast : last ≤ last') :
    BusSetup.subindices first last index ⊆ BusSetup.subindices first' last' index := by
  intro entry hentry
  obtain ⟨subindex, hsubindex, rfl⟩ := List.mem_map.mp hentry
  refine List.mem_map_of_mem (List.mem_range'_1.mpr ?_)
  have hrange := List.mem_range'_1.mp hsubindex
  omega

theorem gateway_wholeBytes : ∀ sync ∈ gatewaySyncs, ∀ entry ∈ sync.entries, 8 ∣ entry.bitLength := by
  have hbytes {index : UInt16} {first last : Nat} {entry : PdoEntry}
      (hentry : entry ∈ byteEntries index first last) : 8 ∣ entry.bitLength := by
    obtain ⟨_, _, rfl⟩ := List.mem_map.mp hentry
    exact Nat.dvd_refl 8
  intro sync hsync entry hentry
  simp only [gatewaySyncs, gatewayRxPdos, gatewayTxPdos, gatewayPadding, List.mem_cons,
    List.not_mem_nil, or_false] at hsync
  rcases hsync with rfl | rfl | rfl | rfl
  all_goals
    simp only [SyncManager.entries, List.flatMap_cons, List.flatMap_nil, List.mem_append,
      List.mem_cons, List.not_mem_nil, or_false, List.cons_append] at hentry
  · grind
  · grind

namespace BusSetup

/-! ### One registration -/

theorem registerEntry_eq_some {index : UInt16} {subindex : UInt8} {offset : Nat}
    (hret : (bus.regPdoEntry slave index subindex).toInt = offset) :
    bus.registerEntry slave index subindex = some offset := by
  have hnonneg : ¬ bus.regPdoEntry slave index subindex < 0 := by
    rw [Int32.lt_iff_toInt_lt, hret]
    exact Int.not_lt.mpr (Int.natCast_nonneg offset)
  rw [registerEntry, if_neg hnonneg, Int32.toNatClampNeg, hret, Int.toNat_natCast]

theorem Serves.registerEntry (hserves : bus.Serves domain) (hsyncs : domain.syncs slave = syncs)
    {index : UInt16} {subindex : UInt8} {sync offset : Nat}
    (hlocate : locate syncs index subindex = some (sync, 8 * offset)) :
    bus.registerEntry slave index subindex = some (domain.base slave sync + offset) := by
  subst hsyncs
  have hret := hserves.found hlocate (Nat.mul_mod_right 8 offset)
  rw [Nat.mul_div_cancel_left offset (by decide)] at hret
  exact registerEntry_eq_some hret

theorem Serves.registerPos (hserves : bus.Serves domain) (hsyncs : domain.syncs slave = syncs)
    {syncManager entry sync offset : Nat}
    (hlocate : locateAt syncs syncManager 0 entry = some (sync, 8 * offset)) :
    bus.registerPos slave syncManager entry = some (domain.base slave sync + offset) := by
  subst hsyncs
  have hret := hserves.foundAt hlocate (Nat.mul_mod_right 8 offset)
  rw [Nat.mul_div_cancel_left offset (by decide)] at hret
  have hnonneg : ¬ bus.regPdoEntryPos slave syncManager 0 entry < 0 := by
    rw [Int32.lt_iff_toInt_lt, hret]
    exact Int.not_lt.mpr (Int.natCast_nonneg _)
  rw [BusSetup.registerPos, if_neg hnonneg, Int32.toNatClampNeg, hret, Int.toNat_natCast]

/-- An object that is not mapped is refused. -/
theorem Serves.registerEntry_eq_none (hserves : bus.Serves domain)
    (hsyncs : domain.syncs slave = syncs) {index : UInt16} {subindex : UInt8}
    (hlocate : locate syncs index subindex = none) :
    bus.registerEntry slave index subindex = none := by
  subst hsyncs
  have hrefused : bus.regPdoEntry slave index subindex < 0 := by
    refine hserves.refused fun sync bits hsome => ?_
    rw [hlocate] at hsome
    exact absurd hsome (Option.some_ne_none _).symm
  rw [BusSetup.registerEntry, if_pos hrefused]

/-- The bytes of an object register where one PDO has them all and every entry takes whole bytes. -/
theorem Serves.registerBytes (hserves : bus.Serves domain) (hsyncs : domain.syncs slave = syncs)
    (hwhole : ∀ sync ∈ syncs, ∀ entry ∈ sync.entries, 8 ∣ entry.bitLength) {sync : SyncManager}
    (hsync : sync ∈ syncs) {pdo : Pdo} (hpdo : pdo ∈ sync.pdos) {index : UInt16}
    {first last first' last' : Nat} (hbytes : byteEntries index first' last' ⊆ pdo.entries)
    (hfirst : first' ≤ first) (hlast : last ≤ last') :
    bus.registerBytes slave index first last = some () := by
  subst hsyncs
  refine if_pos (List.all_eq_true.mpr fun entry hentry => ?_)
  have hmem : { index := entry.1, subindex := entry.2, bitLength := 8 } ∈ sync.entries :=
    List.mem_flatMap_of_mem hpdo
      (hbytes (List.mem_map_of_mem (subindices_subset hfirst hlast hentry)))
  obtain ⟨found, hfound⟩ := locate_of_mem hsync hmem
  have hret := hserves.found hfound (Nat.mod_eq_zero_of_dvd (eight_dvd_of_locate hwhole hfound))
  rw [decide_eq_true_eq, Int32.le_iff_toInt_le, hret]
  exact Int.natCast_nonneg _

/-! ### The kinds of slaves -/

theorem Serves.registerJointModule (hserves : bus.Serves domain) {config : MotorConfig}
    (hsyncs : domain.syncs slave = jointSyncs (isSjd17 config)) :
    bus.registerJointModule slave config =
      some (.joint (isSjd17 config) (domain.base slave 2) (domain.base slave 3)) := by
  have found {index : UInt16} {sync offset : Nat}
      (hlocate : locate (jointSyncs (isSjd17 config)) index 0 = some (sync, 8 * offset)) :
      bus.register slave index = some (domain.base slave sync + offset) :=
    hserves.registerEntry hsyncs hlocate
  have foundAt {syncManager entry sync offset : Nat}
      (hlocate : locateAt (jointSyncs (isSjd17 config)) syncManager 0 entry =
        some (sync, 8 * offset)) :
      bus.registerPos slave syncManager entry = some (domain.base slave sync + offset) :=
    hserves.registerPos hsyncs hlocate
  obtain ⟨h6040, h607A, h60FF, h6071, h6060, h6041, h6064, h606C, h6077, h6061⟩ :=
    locate_joint (isSjd17 config)
  simp only [BusSetup.registerJointModule, registerMotorEntries, found h6040, found h607A,
    found h60FF, found h6071, found h6060, found h6041, found h6064, found h606C, found h6077,
    found h6061]
  cases hsjd : isSjd17 config with
  | false =>
      rw [hsjd] at found foundAt
      have hpaddingRx := foundAt (by decide : locateAt (jointSyncs false) 2 0 5 = some (2, 8 * 13))
      have hpaddingTx := foundAt (by decide : locateAt (jointSyncs false) 3 0 6 = some (3, 8 * 15))
      simp only [reduceIte, Bool.false_eq_true, hpaddingRx, hpaddingTx, found locate_xinqi.1]
      rfl
  | true =>
      rw [hsjd] at found foundAt
      have hpaddingRx := foundAt (by decide : locateAt (jointSyncs true) 2 0 5 = some (2, 8 * 13))
      have hpaddingTx := foundAt (by decide : locateAt (jointSyncs true) 3 0 7 = some (3, 8 * 21))
      simp only [reduceIte, hpaddingRx, hpaddingTx, found locate_sjd17.2.1, found locate_sjd17.2.2]
      rfl

theorem Serves.registerCoolDriveJmdt (hserves : bus.Serves domain)
    (hsyncs : domain.syncs slave = jmdtSyncs) :
    bus.registerCoolDriveJmdt slave = some (.jmdt (domain.base slave 2) (domain.base slave 3)) := by
  have found {index : UInt16} {sync offset : Nat}
      (hlocate : locate jmdtSyncs index 0 = some (sync, 8 * offset)) :
      bus.register slave index = some (domain.base slave sync + offset) :=
    hserves.registerEntry hsyncs hlocate
  have hlocate : locate jmdtSyncs 0x5FFE 0 = some (2, 8 * 3) := by decide
  obtain ⟨h6040, h607A, h60FF, h6071, h6060, h6041, h6064, h606C, h6077, h6061, -, -, -, h310B,
    h3108⟩ := locate_jmdt
  simp only [BusSetup.registerCoolDriveJmdt, registerMotorEntries, found hlocate, found h6040,
    found h607A, found h60FF, found h6071, found h6060, found h6041, found h6064, found h606C,
    found h6077, found h6061, found h310B, found h3108]
  rfl

theorem Serves.registerGateway (hserves : bus.Serves domain)
    (hsyncs : domain.syncs slave = gatewaySyncs) :
    bus.registerGateway slave =
      some (SlaveOffsets.ofGateway (domain.base slave 2) (domain.base slave 3)).gateway := by
  have found {index : UInt16} {subindex : UInt8} {sync offset : Nat}
      (hlocate : locate gatewaySyncs index subindex = some (sync, 8 * offset)) :
      bus.registerEntry slave index subindex = some (domain.base slave sync + offset) :=
    hserves.registerEntry hsyncs hlocate
  have bytesOut {pdo : Pdo} (hpdo : pdo ∈ gatewayRxPdos) {index : UInt16}
      {first last first' last' : Nat} (hbytes : byteEntries index first' last' ⊆ pdo.entries)
      (hfirst : first' ≤ first) (hlast : last ≤ last') :
      bus.registerBytes slave index first last = some () :=
    hserves.registerBytes hsyncs gateway_wholeBytes (.tail _ (.tail _ (.head _))) hpdo hbytes
      hfirst hlast
  have bytesIn {pdo : Pdo} (hpdo : pdo ∈ gatewayTxPdos) {index : UInt16}
      {first last first' last' : Nat} (hbytes : byteEntries index first' last' ⊆ pdo.entries)
      (hfirst : first' ≤ first) (hlast : last ≤ last') :
      bus.registerBytes slave index first last = some () :=
    hserves.registerBytes hsyncs gateway_wholeBytes (.tail _ (.tail _ (.tail _ (.head _)))) hpdo
      hbytes hfirst hlast
  have hfirst : 0x02 ≤ 0x04 ∧ 0x01 ≤ 0x03 := by decide
  have h2000 : bus.registerBytes slave 0x2000 0x04 0x41 = some () :=
    bytesOut (.head _) (List.subset_cons_self _ _) hfirst.1 (by decide : 0x41 ≤ 0x42)
  have h2002 : bus.registerBytes slave 0x2002 0x03 0x41 = some () :=
    bytesOut (.tail _ (.head _)) (List.Subset.refl _) hfirst.2 (Nat.le_refl 0x41)
  have h2004 : bus.registerBytes slave 0x2004 0x03 0x41 = some () :=
    bytesOut (.tail _ (.tail _ (.head _))) (List.Subset.refl _) hfirst.2 (Nat.le_refl 0x41)
  have h2001 : bus.registerBytes slave 0x2001 0x04 0x42 = some () :=
    bytesIn (.head _) (List.Subset.trans (List.subset_cons_self _ _)
      (List.subset_append_left _ _)) hfirst.1 (Nat.le_refl 0x42)
  have h2003 : bus.registerBytes slave 0x2003 0x03 0x41 = some () :=
    bytesIn (.tail _ (.head _)) (List.subset_append_left _ _) hfirst.2 (Nat.le_refl 0x41)
  simp only [BusSetup.registerGateway, registerSecondTx,
    found (by decide +kernel : locate gatewaySyncs 0x2000 0x01 = some (2, 8 * 0)),
    found (by decide +kernel : locate gatewaySyncs 0x2000 0x02 = some (2, 8 * 4)),
    found (by decide +kernel : locate gatewaySyncs 0x2000 0x03 = some (2, 8 * 5)),
    found (by decide +kernel : locate gatewaySyncs 0x2002 0x01 = some (2, 8 * 69)),
    found (by decide +kernel : locate gatewaySyncs 0x2002 0x02 = some (2, 8 * 70)),
    found (by decide +kernel : locate gatewaySyncs 0x2004 0x01 = some (2, 8 * 134)),
    found (by decide +kernel : locate gatewaySyncs 0x2004 0x02 = some (2, 8 * 135)),
    found (by decide +kernel : locate gatewaySyncs 0x2001 0x01 = some (3, 8 * 0)),
    found (by decide +kernel : locate gatewaySyncs 0x2001 0x02 = some (3, 8 * 4)),
    found (by decide +kernel : locate gatewaySyncs 0x2001 0x03 = some (3, 8 * 5)),
    found (by decide +kernel : locate gatewaySyncs 0x2003 0x01 = some (3, 8 * 70)),
    found (by decide +kernel : locate gatewaySyncs 0x2003 0x02 = some (3, 8 * 71)),
    found (by decide +kernel : locate gatewaySyncs 0x2005 0x01 = some (3, 8 * 136)),
    found (by decide +kernel : locate gatewaySyncs 0x2005 0x02 = some (3, 8 * 137)), h2000, h2002, h2004, h2001,
    h2003]
  rfl

/-- The sensor's values are found where it is registered with the format that is mapped. -/
theorem Serves.registerSri (hserves : bus.Serves domain) {mappedFloat : Bool}
    (hsyncs : domain.syncs slave = sriSyncs mappedFloat) (useFloat : Bool) :
    bus.registerSri slave useFloat =
      if useFloat = mappedFloat then
        some (SlaveOffsets.ofSri (domain.base slave 2) (domain.base slave 3)).sri
      else none := by
  have found {index : UInt16} {subindex : UInt8} {sync offset : Nat}
      (hlocate : locate (sriSyncs mappedFloat) index subindex = some (sync, 8 * offset)) :
      bus.registerEntry slave index subindex = some (domain.base slave sync + offset) :=
    hserves.registerEntry hsyncs hlocate
  have hpara1 := found (by cases mappedFloat <;> decide :
    locate (sriSyncs mappedFloat) 0x7010 0x01 = some (2, 8 * 0))
  have hpara2 := found (by cases mappedFloat <;> decide :
    locate (sriSyncs mappedFloat) 0x7010 0x02 = some (2, 8 * 2))
  have hpara3 := found (by cases mappedFloat <;> decide :
    locate (sriSyncs mappedFloat) 0x7010 0x03 = some (2, 8 * 4))
  by_cases hsame : useFloat = mappedFloat
  · subst hsame
    simp only [BusSetup.registerSri, hpara1, hpara2, hpara3, if_true,
      found (by cases useFloat <;> decide : locate (sriSyncs useFloat)
        (if useFloat then 0x6030 else 0x6020) 0x01 = some (3, 8 * 0)),
      found (by cases useFloat <;> decide : locate (sriSyncs useFloat)
        (if useFloat then 0x6030 else 0x6020) 0x02 = some (3, 8 * 2)),
      found (by cases useFloat <;> decide : locate (sriSyncs useFloat)
        (if useFloat then 0x6030 else 0x6020) 0x03 = some (3, 8 * 6)),
      found (by cases useFloat <;> decide : locate (sriSyncs useFloat)
        (if useFloat then 0x6030 else 0x6020) 0x04 = some (3, 8 * 10)),
      found (by cases useFloat <;> decide : locate (sriSyncs useFloat)
        (if useFloat then 0x6030 else 0x6020) 0x05 = some (3, 8 * 14)),
      found (by cases useFloat <;> decide : locate (sriSyncs useFloat)
        (if useFloat then 0x6030 else 0x6020) 0x06 = some (3, 8 * 18)),
      found (by cases useFloat <;> decide : locate (sriSyncs useFloat)
        (if useFloat then 0x6030 else 0x6020) 0x07 = some (3, 8 * 22))]
    rfl
  · have hrefused := hserves.registerEntry_eq_none hsyncs
      (by revert hsame; cases useFloat <;> cases mappedFloat <;> decide :
        locate (sriSyncs mappedFloat) (if useFloat then 0x6030 else 0x6020) 0x01 = none)
    simp only [BusSetup.registerSri, hpara1, hpara2, hpara3, hrefused, if_neg hsame]
    rfl

/-- A gateway's objects are not among those of a drive. -/
theorem Serves.registerGateway_eq_none (hserves : bus.Serves domain)
    (hsyncs : domain.syncs slave = syncs) (hlocate : locate syncs 0x2000 0x01 = none) :
    bus.registerGateway slave = none := by
  rw [BusSetup.registerGateway, hserves.registerEntry_eq_none hsyncs hlocate]
  rfl

end BusSetup

/-! ### Any slave -/

theorem syncs_of_jointModule {config : MotorConfig}
    (hmapped : configurePdoMapping config = some syncs) (hlayout : config.pdoLayout = .jointModule) :
    syncs = jointSyncs (BusSetup.isSjd17 config) := by
  rw [configurePdoMapping, hlayout] at hmapped
  exact (Option.some.inj hmapped).symm

theorem syncs_of_coolDriveJmdt {config : MotorConfig}
    (hmapped : configurePdoMapping config = some syncs)
    (hlayout : config.pdoLayout = .coolDriveJmdt) : syncs = jmdtSyncs := by
  rw [configurePdoMapping, hlayout] at hmapped
  exact (Option.some.inj hmapped).symm

theorem syncs_of_other {config : MotorConfig} (hmapped : configurePdoMapping config = some syncs)
    (hjoint : config.pdoLayout ≠ .jointModule)
    (hjmdt : config.pdoLayout ≠ .coolDriveJmdt) :
    (config.isGateway = true ∧ syncs = gatewaySyncs) ∨
      (config.isGateway = false ∧ config.isSriM8126 = true ∧
        syncs = sriSyncs (BusSetup.isSriM8126F32 config)) := by
  rw [configurePdoMapping, if_neg (by simpa using hjoint), if_neg (by simpa using hjmdt)] at hmapped
  split at hmapped
  · rename_i hgateway
    exact .inl ⟨hgateway, (Option.some.inj hmapped).symm⟩
  · rename_i hgateway
    split at hmapped
    · rename_i hsri
      exact .inr ⟨by simpa using hgateway, hsri, (Option.some.inj hmapped).symm⟩
    · exact absurd hmapped.symm (Option.some_ne_none _)

theorem isSriM8126_eq_false {config : MotorConfig} (hlayout : config.pdoLayout ≠ .sriM8126) :
    config.isSriM8126 = false := by
  simpa [MotorConfig.isSriM8126] using hlayout

/-- The registration of a mapped slave succeeds just if it takes the slave for the kind that was mapped,
and then returns where its entries are. -/
theorem registerSlave_eq (hserves : bus.Serves domain) {config : MotorConfig}
    (hmapped : configurePdoMapping config = some (domain.syncs slave)) (useFloat : Bool) :
    bus.registerSlave slave useFloat config =
      if config.registersAsMapped useFloat then
        some (.mapped config (domain.base slave 2) (domain.base slave 3))
      else none := by
  unfold BusSetup.registerSlave MotorConfig.registersAsMapped SlaveOffsets.mapped
  by_cases hjoint : config.pdoLayout = .jointModule
  · have hsyncs := syncs_of_jointModule hmapped hjoint
    have hsri := isSriM8126_eq_false (hjoint ▸ (by decide) : config.pdoLayout ≠ .sriM8126)
    cases hgateway : config.isGateway with
    | true =>
        have hnone := hserves.registerGateway_eq_none hsyncs
          (by cases BusSetup.isSjd17 config <;> decide)
        simp [hnone, hjoint]
    | false => simp [hsri, hjoint, hserves.registerJointModule hsyncs]
  by_cases hjmdt : config.pdoLayout = .coolDriveJmdt
  · have hsyncs := syncs_of_coolDriveJmdt hmapped hjmdt
    have hsri := isSriM8126_eq_false (hjmdt ▸ (by decide) : config.pdoLayout ≠ .sriM8126)
    cases hgateway : config.isGateway with
    | true =>
        have hnone := hserves.registerGateway_eq_none hsyncs (by decide)
        simp [hnone, hjmdt]
    | false => simp [hsri, hjmdt, hserves.registerCoolDriveJmdt hsyncs]
  rcases syncs_of_other hmapped hjoint hjmdt with ⟨hgateway, hsyncs⟩ | ⟨hgateway, hsri, hsyncs⟩
  · simp [hgateway, hjoint, hjmdt, hserves.registerGateway hsyncs, SlaveOffsets.ofGateway]
  · by_cases hsame : useFloat = BusSetup.isSriM8126F32 config <;>
      simp [hgateway, hsri, hsame, hserves.registerSri hsyncs, SlaveOffsets.ofSri]

/-- What a slave is, what was mapped for it and what it registered. -/
inductive Laid (domain : Domain) (slave : Nat) (config : MotorConfig) (useFloat : Bool) :
    SlaveOffsets → Prop where
  | joint (hgateway : config.isGateway = false) (hlayout : config.pdoLayout = .jointModule)
      (hsyncs : domain.syncs slave = jointSyncs (BusSetup.isSjd17 config)) :
      Laid domain slave config useFloat
        (.joint (BusSetup.isSjd17 config) (domain.base slave 2) (domain.base slave 3))
  | jmdt (hgateway : config.isGateway = false) (hlayout : config.pdoLayout = .coolDriveJmdt)
      (hsyncs : domain.syncs slave = jmdtSyncs) :
      Laid domain slave config useFloat (.jmdt (domain.base slave 2) (domain.base slave 3))
  | gateway (hgateway : config.isGateway = true) (hsyncs : domain.syncs slave = gatewaySyncs) :
      Laid domain slave config useFloat (.ofGateway (domain.base slave 2) (domain.base slave 3))
  | sri (hgateway : config.isGateway = false) (hlayout : config.pdoLayout = .sriM8126)
      (hsyncs : domain.syncs slave = sriSyncs useFloat) :
      Laid domain slave config useFloat (.ofSri (domain.base slave 2) (domain.base slave 3))

theorem laid_of_registerSlave (hserves : bus.Serves domain) {config : MotorConfig}
    (hmapped : configurePdoMapping config = some (domain.syncs slave)) {useFloat : Bool}
    {offsets : SlaveOffsets} (hregister : bus.registerSlave slave useFloat config = some offsets) :
    Laid domain slave config useFloat offsets := by
  rw [registerSlave_eq hserves hmapped, Option.ite_none_right_eq_some] at hregister
  obtain ⟨hagree, hoffsets⟩ := hregister
  obtain rfl := Option.some.inj hoffsets
  unfold SlaveOffsets.mapped
  unfold MotorConfig.registersAsMapped at hagree
  by_cases hjoint : config.pdoLayout = .jointModule
  · have hgateway : config.isGateway = false := by
      by_contra h
      simp [h, hjoint] at hagree
    have hsri := isSriM8126_eq_false (hjoint ▸ (by decide) : config.pdoLayout ≠ .sriM8126)
    simpa [hgateway, hsri, hjoint] using
      Laid.joint hgateway hjoint (syncs_of_jointModule hmapped hjoint)
  by_cases hjmdt : config.pdoLayout = .coolDriveJmdt
  · have hgateway : config.isGateway = false := by
      by_contra h
      simp [h, hjmdt] at hagree
    have hsri := isSriM8126_eq_false (hjmdt ▸ (by decide) : config.pdoLayout ≠ .sriM8126)
    simpa [hgateway, hsri, hjmdt] using
      Laid.jmdt hgateway hjmdt (syncs_of_coolDriveJmdt hmapped hjmdt)
  rcases syncs_of_other hmapped hjoint hjmdt with ⟨hgateway, hsyncs⟩ | ⟨hgateway, hsri, hsyncs⟩
  · rw [if_pos hgateway]
    exact .gateway hgateway hsyncs
  · have hfloat : useFloat = BusSetup.isSriM8126F32 config := by
      simpa [hgateway, hsri] using hagree
    rw [if_neg (by simp [hgateway]), if_pos hsri]
    exact .sri hgateway (by simpa [MotorConfig.isSriM8126] using hsri) (hfloat ▸ hsyncs)

/-! ### All slaves -/

/-- What succeeds on the inputs that pass a test succeeds on a list if all of them do. -/
theorem mapM_of_each {α β : Type} {f : α → Option β} {test : α → Bool} {result : α → β}
    {inputs : List α}
    (heach : ∀ input ∈ inputs, f input = if test input then some (result input) else none) :
    inputs.mapM f = if inputs.all test then some (inputs.map result) else none := by
  induction inputs with
  | nil => rfl
  | cons input inputs ih =>
      obtain ⟨hfirst, hrest⟩ := List.forall_mem_cons.mp heach
      rw [List.mapM_cons, hfirst, ih hrest, List.all_cons, List.map_cons]
      cases test input with
      | false => rfl
      | true => cases inputs.all test <;> rfl

/-- The registration, slave by slave. -/
theorem initialSlaves_eq_map (hserves : bus.Serves domain) {motors : List MotorConfig}
    (hmapped : ∀ (slave : Nat) (motor : MotorConfig), motors[slave]? = some motor →
      configurePdoMapping (bus.correctIdentity motor) = some (domain.syncs slave)) :
    bus.initialSlaves motors =
      if motors.zipIdx.all fun entry =>
          (bus.correctIdentity entry.1).registersAsMapped (BusSetup.isSriM8126F32 entry.1) then
        some (motors.zipIdx.map fun entry =>
          .mapped (bus.correctIdentity entry.1) (domain.base entry.2 2) (domain.base entry.2 3))
      else none := by
  refine mapM_of_each fun entry hentry => ?_
  exact registerSlave_eq hserves (hmapped _ _ (List.mem_zipIdx_iff_getElem?.mp hentry)) _

/-- The registration of all slaves fails if one of them is not taken for what was mapped, and otherwise
it finds every entry at the place that its mapping gives it. -/
theorem initialSlaves_eq (hserves : bus.Serves domain) {motors : List MotorConfig}
    (hmapped : ∀ (slave : Nat) (motor : MotorConfig), motors[slave]? = some motor →
      configurePdoMapping (bus.correctIdentity motor) = some (domain.syncs slave)) :
    bus.initialSlaves motors =
      if motors.all fun motor =>
          (bus.correctIdentity motor).registersAsMapped (BusSetup.isSriM8126F32 motor) then
        some (motors.mapIdx fun slave motor =>
          .mapped (bus.correctIdentity motor) (domain.base slave 2) (domain.base slave 3))
      else none := by
  have hall : (motors.zipIdx.all fun entry =>
      (bus.correctIdentity entry.1).registersAsMapped (BusSetup.isSriM8126F32 entry.1)) =
        motors.all fun motor =>
          (bus.correctIdentity motor).registersAsMapped (BusSetup.isSriM8126F32 motor) := by
    conv_rhs => rw [← List.zipIdx_map_fst 0 motors, List.all_map]
    rfl
  rw [initialSlaves_eq_map hserves hmapped, hall, List.mapIdx_eq_zipIdx_map]

theorem initialSlaves_fourSlaves :
    (Domain.ofMotors fourSlaves).setup.initialSlaves fourSlaves =
      if fourSlaves.all fun motor => ((Domain.ofMotors fourSlaves).setup.correctIdentity
          motor).registersAsMapped (BusSetup.isSriM8126F32 motor) then
        some (fourSlaves.mapIdx fun slave motor =>
          .mapped ((Domain.ofMotors fourSlaves).setup.correctIdentity motor)
            ((Domain.ofMotors fourSlaves).base slave 2) ((Domain.ofMotors fourSlaves).base slave 3))
      else none :=
  initialSlaves_eq (Domain.serves_ofMotors (by decide)) (Domain.mapped_ofMotors (by decide))

end IghMaster
