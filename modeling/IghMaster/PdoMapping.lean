import IghMaster.Lib.Footprint
import IghMaster.Servo
import Mathlib.Algebra.Ring.Nat

/-!
# The mapping of the process data

`configurePDOMapping`: the entries that each kind of slave exchanges in a cycle, in their order. The
master packs those of a sync manager one after the other, and a registration finds an entry among them.
-/

namespace IghMaster

/-- `ec_pdo_entry_info_t`. A gap between entries has index 0. -/
structure PdoEntry where
  index : UInt16
  subindex : UInt8 := 0
  bitLength : Nat
  deriving DecidableEq

/-- `ec_pdo_info_t`. -/
structure Pdo where
  index : UInt16
  entries : List PdoEntry
  deriving DecidableEq

inductive SyncDirection where
  | output
  | input
  deriving DecidableEq

/-- `ec_sync_info_t`; a list of them ends without the terminator of the source. -/
structure SyncManager where
  index : Nat
  direction : SyncDirection
  pdos : List Pdo
  watchdog : Bool := false
  deriving DecidableEq

/-! ### The layouts -/

def jointRxEntries : List PdoEntry := [
  { index := 0x6040, bitLength := 16 },
  { index := 0x607A, bitLength := 32 },
  { index := 0x60FF, bitLength := 32 },
  { index := 0x6071, bitLength := 16 },
  { index := 0x6060, bitLength := 8 },
  { index := 0x0000, bitLength := 8 }]

def jointTxEntriesXinqi : List PdoEntry := [
  { index := 0x6041, bitLength := 16 },
  { index := 0x6064, bitLength := 32 },
  { index := 0x606C, bitLength := 32 },
  { index := 0x6077, bitLength := 16 },
  { index := 0x6061, bitLength := 8 },
  { index := 0x603F, bitLength := 16 },
  { index := 0x0000, bitLength := 8 }]

def jointTxEntriesSjd17 : List PdoEntry := [
  { index := 0x6041, bitLength := 16 },
  { index := 0x6064, bitLength := 32 },
  { index := 0x606C, bitLength := 32 },
  { index := 0x6077, bitLength := 16 },
  { index := 0x6061, bitLength := 8 },
  { index := 0x2020, bitLength := 32 },
  { index := 0x2021, bitLength := 32 },
  { index := 0x0000, bitLength := 8 }]

def jointSyncs (isSjd17 : Bool) : List SyncManager := [
  { index := 2, direction := .output, pdos := [⟨0x1600, jointRxEntries⟩], watchdog := true },
  { index := 3, direction := .input,
    pdos := [⟨0x1A00, if isSjd17 then jointTxEntriesSjd17 else jointTxEntriesXinqi⟩] }]

def jmdtRxEntries : List PdoEntry := [
  { index := 0x6040, bitLength := 16 },
  { index := 0x6060, bitLength := 8 },
  { index := 0x5FFE, bitLength := 8 },
  { index := 0x607A, bitLength := 32 },
  { index := 0x60FF, bitLength := 32 },
  { index := 0x6071, bitLength := 16 }]

def jmdtTxEntries : List PdoEntry := [
  { index := 0x6041, bitLength := 16 },
  { index := 0x6061, bitLength := 8 },
  { index := 0x5FFE, bitLength := 8 },
  { index := 0x6064, bitLength := 32 },
  { index := 0x606C, bitLength := 32 },
  { index := 0x6077, bitLength := 16 },
  { index := 0x310B, bitLength := 32 },
  { index := 0x3108, bitLength := 32 }]

def jmdtSyncs : List SyncManager := [
  { index := 2, direction := .output, pdos := [⟨0x1600, jmdtRxEntries⟩], watchdog := true },
  { index := 3, direction := .input, pdos := [⟨0x1A00, jmdtTxEntries⟩] }]

/-- Consecutive subindices of one object, a byte each. -/
def byteEntries (index : UInt16) (first last : Nat) : List PdoEntry :=
  (BusSetup.subindices first last index).map fun entry =>
    { index := entry.1, subindex := entry.2, bitLength := 8 }

def gatewayPadding : PdoEntry := { index := 0x2007, subindex := 0x01, bitLength := 8 }

def gatewayRxPdos : List Pdo := [
  ⟨0x1600, { index := 0x2000, subindex := 0x01, bitLength := 32 } :: byteEntries 0x2000 0x02 0x42⟩,
  ⟨0x1601, byteEntries 0x2002 0x01 0x41⟩,
  ⟨0x1602, byteEntries 0x2004 0x01 0x41⟩]

def gatewayTxPdos : List Pdo := [
  ⟨0x1A00, { index := 0x2001, subindex := 0x01, bitLength := 32 } :: byteEntries 0x2001 0x02 0x42 ++
    [gatewayPadding]⟩,
  ⟨0x1A01, byteEntries 0x2003 0x01 0x41 ++ [gatewayPadding]⟩,
  ⟨0x1A02, byteEntries 0x2005 0x01 0x41 ++ [gatewayPadding]⟩]

def gatewaySyncs : List SyncManager := [
  { index := 0, direction := .output, pdos := [] },
  { index := 1, direction := .input, pdos := [] },
  { index := 2, direction := .output, pdos := gatewayRxPdos, watchdog := true },
  { index := 3, direction := .input, pdos := gatewayTxPdos }]

def sriRxEntries : List PdoEntry := [
  { index := 0x7010, subindex := 0x01, bitLength := 16 },
  { index := 0x7010, subindex := 0x02, bitLength := 16 },
  { index := 0x7010, subindex := 0x03, bitLength := 16 }]

/-- The float entries and the integer entries of the sensor differ in the object alone. -/
def sriTxEntries (index : UInt16) : List PdoEntry := [
  { index := index, subindex := 0x01, bitLength := 16 },
  { index := index, subindex := 0x02, bitLength := 32 },
  { index := index, subindex := 0x03, bitLength := 32 },
  { index := index, subindex := 0x04, bitLength := 32 },
  { index := index, subindex := 0x05, bitLength := 32 },
  { index := index, subindex := 0x06, bitLength := 32 },
  { index := index, subindex := 0x07, bitLength := 32 }]

def sriSyncs (useFloat : Bool) : List SyncManager := [
  { index := 2, direction := .output, pdos := [⟨0x1601, sriRxEntries⟩], watchdog := true },
  { index := 3, direction := .input,
    pdos := [if useFloat then ⟨0x1A03, sriTxEntries 0x6030⟩ else ⟨0x1A02, sriTxEntries 0x6020⟩] }]

/-- `configurePDOMapping` for one slave: the layout is asked before the identity of a gateway. -/
def configurePdoMapping (config : MotorConfig) : Option (List SyncManager) :=
  if config.pdoLayout == .jointModule then some (jointSyncs (BusSetup.isSjd17 config))
  else if config.pdoLayout == .coolDriveJmdt then some jmdtSyncs
  else if config.isGateway then some gatewaySyncs
  else if config.isSriM8126 then some (sriSyncs (BusSetup.isSriM8126F32 config))
  else none

/-! ### Where the master finds an entry -/

namespace SyncManager

def entries (sync : SyncManager) : List PdoEntry := sync.pdos.flatMap Pdo.entries

def bits (sync : SyncManager) : Nat := (sync.entries.map PdoEntry.bitLength).sum

/-- The bytes of the process data that the sync manager takes. -/
def size (sync : SyncManager) : Nat := (sync.bits + 7) / 8

end SyncManager

/-- The bits before the first entry of the object. -/
def bitsBefore (index : UInt16) (subindex : UInt8) : List PdoEntry → Option Nat
  | [] => none
  | entry :: entries =>
      if entry.index = index ∧ entry.subindex = subindex then some 0
      else (bitsBefore index subindex entries).map (entry.bitLength + ·)

/-- The sync manager whose entries have the object, and the bits before it. -/
def locate (syncs : List SyncManager) (index : UInt16) (subindex : UInt8) : Option (Nat × Nat) :=
  syncs.findSome? fun sync => (bitsBefore index subindex sync.entries).map (Prod.mk sync.index ·)

/-- The bits before an entry given by its position. -/
def locateAt (syncs : List SyncManager) (syncIndex pdoPos entryPos : Nat) : Option (Nat × Nat) := do
  let sync ← syncs.find? fun sync => sync.index = syncIndex
  let pdo ← sync.pdos[pdoPos]?
  let _ ← pdo.entries[entryPos]?
  let before := (sync.pdos.take pdoPos).flatMap Pdo.entries ++ pdo.entries.take entryPos
  return (syncIndex, (before.map PdoEntry.bitLength).sum)

/-- What is mapped for each slave of a bus, and where the data of its sync managers begin. -/
structure Domain where
  syncs : Nat → List SyncManager
  base : Nat → Nat → Nat

namespace Domain

def size (domain : Domain) (slave syncIndex : Nat) : Nat :=
  match (domain.syncs slave).find? fun sync => sync.index = syncIndex with
  | some sync => sync.size
  | none => 0

/-- The bytes of one sync manager. -/
def area (domain : Domain) (slave syncIndex : Nat) : Set Nat :=
  { address | domain.base slave syncIndex ≤ address ∧
      address < domain.base slave syncIndex + domain.size slave syncIndex }

end Domain

/-- The master documents that a registration searches what is mapped for the slave and returns the offset
of the entry, or a negative code if there is none or if it does not begin at a byte. The data of different
sync managers are apart. -/
structure BusSetup.Serves (bus : BusSetup) (domain : Domain) : Prop where
  found : ∀ {slave index subindex sync bits},
    locate (domain.syncs slave) index subindex = some (sync, bits) → bits % 8 = 0 →
      (bus.regPdoEntry slave index subindex).toInt = (domain.base slave sync + bits / 8 : Nat)
  refused : ∀ {slave index subindex},
    (∀ sync bits, locate (domain.syncs slave) index subindex = some (sync, bits) → bits % 8 ≠ 0) →
      bus.regPdoEntry slave index subindex < 0
  foundAt : ∀ {slave syncIndex pdoPos entryPos sync bits},
    locateAt (domain.syncs slave) syncIndex pdoPos entryPos = some (sync, bits) → bits % 8 = 0 →
      (bus.regPdoEntryPos slave syncIndex pdoPos entryPos).toInt =
        (domain.base slave sync + bits / 8 : Nat)
  apart : ∀ {slave sync slave' sync'}, (slave, sync) ≠ (slave', sync') →
    Disjoint (domain.area slave sync) (domain.area slave' sync')

end IghMaster
