import OspfMdr.Lib.KeyedList

/-!
# The link-state databases of IS-IS

`isisd/isis_lsp.c` and the receipt of LSPs and sequence-number PDUs in `isisd/isis_pdu.c`,
as far as they create, change and remove LSPs. An LSP is known by its address, a number
that is not used again in its database; a zero LSP lists the addresses of its fragments.
An address that no LSP of the database has is one of freed memory, and reading through it
has no result, like an assertion that fails. The flags that schedule transmissions, the
contents of the TLVs and the timers are left out; how many fragments a generation fills is
part of the event.
-/

namespace OspfMdr.Isis

open OspfMdr.Lib

/-- System identifier, pseudonode identifier and fragment number as one number; `lsp_id_cmp` is the order. -/
abbrev LspId := Nat

variable (own : Nat) (db : Lspdb) (id : LspId)

def fragment : Nat := id % 256

def node : Nat := id / 256

def sysId : Nat := id / 65536

/-- The identifier with `LSP_FRAGMENT` set. -/
def fragId (frag : Nat) : LspId := node id * 256 + frag % 256

/-- The fields read of a link-state header or of an entry of a sequence-number PDU. -/
structure Header where
  lspId : LspId
  seqNum : Nat
  checksum : Nat
  remLifetime : Nat
  lspBits : Nat
deriving DecidableEq, Repr

structure Lsp where
  ptr : Nat
  lspId : LspId
  seqNum : Nat
  checksum : Nat
  remLifetime : Nat
  ageOut : Nat
  ownLsp : Bool
  frags : Option (List Nat)
  zeroLsp : Option Nat
deriving DecidableEq, Repr

def zeroAgeLifetime : Nat := 60

inductive Comparison
  | older
  | equal
  | newer
deriving DecidableEq

/-- Whether a received instance is newer. -/
def lspCompare (lsp : Lsp) (hdr : Header) : Comparison :=
  if lsp.seqNum = hdr.seqNum ∧ lsp.checksum = hdr.checksum ∧
      ((lsp.remLifetime = 0 ∧ hdr.remLifetime = 0) ∨ (lsp.remLifetime ≠ 0 ∧ hdr.remLifetime ≠ 0)) then .equal
  else if lsp.seqNum ≤ hdr.seqNum then .newer
  else .older

def lspIncSeqnum (seqNum : Nat) (lsp : Lsp) : Lsp :=
  { lsp with
    seqNum := (if seqNum = 0 ∨ lsp.seqNum > seqNum then lsp.seqNum + 1 else seqNum + 1) % 2 ^ 32 }

/-- The LSP with the data of a received instance. -/
def lspUpdateData (hdr : Header) (lsp : Lsp) : Lsp :=
  { lsp with seqNum := hdr.seqNum, checksum := hdr.checksum, remLifetime := hdr.remLifetime
             ageOut := zeroAgeLifetime }

/-- `lsp_purge_pseudo` keeps the number, in network byte order, in a variable of 16 bits. -/
def purgedSeqNum (bigEndian : Bool) (seqNum : Nat) : Nat :=
  if bigEndian then seqNum % 2 ^ 16 else seqNum / 2 ^ 16 * 2 ^ 16

def purged (bigEndian : Bool) (checksum maxLifetime : Nat) (lsp : Lsp) : Lsp :=
  { lsp with seqNum := purgedSeqNum bigEndian lsp.seqNum, checksum := checksum, remLifetime := 0
             ageOut := maxLifetime }

def lspNew (ptr : Nat) (lspId : LspId) (remLifetime seqNum checksum : Nat) : Lsp where
  ptr := ptr
  lspId := lspId
  seqNum := seqNum
  checksum := checksum
  remLifetime := remLifetime
  ageOut := zeroAgeLifetime
  ownLsp := false
  frags := if fragment lspId = 0 then some [] else none
  zeroLsp := none

def lspSetTime (lsp : Lsp) : Lsp :=
  if lsp.remLifetime = 0 then { lsp with ageOut := lsp.ageOut - 1 }
  else { lsp with remLifetime := lsp.remLifetime - 1 }

structure Lspdb where
  lsps : List Lsp
  /-- The address of the next LSP allocated. -/
  next : Nat

namespace Lspdb

def lspSearch : Option Lsp := keyLookup Lsp.lspId id db.lsps

def deref (ptr : Nat) : Option Lsp := db.lsps.find? fun lsp => lsp.ptr = ptr

def map (db : Lspdb) (f : Lsp → Lsp) : Lspdb := { db with lsps := db.lsps.map f }

def modify (ptr : Nat) (f : Lsp → Lsp) : Lspdb := db.map fun lsp => if lsp.ptr = ptr then f lsp else lsp

def lspInsert (lsp : Lsp) : Lspdb := ⟨keyInsert Lsp.lspId lsp db.lsps, db.next + 1⟩

def remove : Lspdb := { db with lsps := keyRemove Lsp.lspId id db.lsps }

/-- A new fragment is put into the list of its zero LSP and into the database;
`listnode_add` asserts that there is a list. -/
def addFrag (lsp0 frag : Lsp) : Option Lspdb :=
  lsp0.frags.map fun frags =>
    (db.modify lsp0.ptr fun lsp => { lsp with frags := some (frags ++ [frag.ptr]) }).lspInsert
      { frag with zeroLsp := some lsp0.ptr }

def receiveOther (hdr : Header) : Option Lspdb :=
  match db.lspSearch hdr.lspId with
  | some lsp =>
    match lspCompare lsp hdr with
    | .newer =>
      if fragment hdr.lspId ≠ 0 ∧ db.lspSearch (fragId hdr.lspId 0) = none then some db
      else some (db.modify lsp.ptr (lspUpdateData hdr))
    | .equal => some (db.modify lsp.ptr (lspUpdateData hdr))
    | .older => some db
  | none =>
    -- `lsp_new_from_stream_ptr`
    if fragment hdr.lspId = 0 then some (db.lspInsert (lspUpdateData hdr (lspNew db.next hdr.lspId 0 0 0)))
    else
      match db.lspSearch (fragId hdr.lspId 0) with
      | none => some db
      | some lsp0 => db.addFrag lsp0 (lspUpdateData hdr (lspNew db.next hdr.lspId 0 0 0))

/-- An LSP received with remaining lifetime zero; `own` is the own system identifier. -/
def receivePurge (hdr : Header) : Lspdb :=
  match db.lspSearch hdr.lspId with
  | none => db
  | some lsp =>
    if sysId hdr.lspId ≠ own then
      if lspCompare lsp hdr = .newer then db.modify lsp.ptr (lspUpdateData hdr) else db
    else if lsp.remLifetime ≠ 0 ∧ lspCompare lsp hdr = .newer then db.modify lsp.ptr (lspIncSeqnum hdr.seqNum)
    else db

/-- `lsp_purge_non_exist`: the LSP is neither given a list nor put into one. `dict_insert`
asserts that the key is new. -/
def lspPurgeNonExist (hdr : Header) : Option Lspdb :=
  if db.lspSearch hdr.lspId = none then
    some (db.lspInsert
      { lspNew db.next hdr.lspId 0 hdr.seqNum hdr.checksum with ageOut := 0, frags := none })
  else none

/-- One entry of a sequence numbers PDU. -/
def snpEntry (entry : Header) : Lspdb :=
  match db.lspSearch entry.lspId with
  | some lsp =>
    if lspCompare lsp entry = .newer ∧ sysId entry.lspId = own then
      db.modify lsp.ptr (lspIncSeqnum entry.seqNum)
    else db
  | none =>
    if entry.remLifetime ≠ 0 ∧ entry.checksum ≠ 0 ∧ entry.seqNum ≠ 0 ∧ sysId entry.lspId ≠ own then
      db.lspInsert (lspNew db.next entry.lspId entry.remLifetime 0 entry.checksum)
    else db

/-- Removes the LSP at an address, found in the database by its identifier. -/
def destroyAt (ptr : Nat) : Option Lspdb := (db.deref ptr).map fun lsp => db.remove lsp.lspId

def lspRemoveFrags (frags : List Nat) : Option Lspdb := frags.foldlM destroyAt db

def lspSearchAndDestroy : Option Lspdb :=
  match db.lspSearch id with
  | none => some db
  | some lsp =>
    if fragment lsp.lspId = 0 then (db.remove id).lspRemoveFrags (lsp.frags.getD [])
    else
      match lsp.zeroLsp with
      | none => some (db.remove id)
      | some zeroPtr =>
        (db.deref zeroPtr).map fun lsp0 =>
          (db.remove id).modify lsp0.ptr fun x => { x with frags := x.frags.map fun l => l.erase lsp.ptr }

/-- `lsp_next_frag` for the zero LSP at `zeroPtr`; `frag_num` is a byte. -/
def lspNextFrag (zeroPtr : Nat) (db : Lspdb) (fragNum : Nat) : Option Lspdb :=
  (db.deref zeroPtr).bind fun lsp0 =>
    match db.lspSearch (fragId lsp0.lspId fragNum) with
    | some _ => some db
    | none =>
      db.addFrag lsp0 { lspNew db.next (fragId lsp0.lspId fragNum) lsp0.remLifetime 0 0 with ownLsp := true }

/-- `lsp_build` for the zero LSP at `zeroPtr`, when its TLVs go on into `n` fragments. -/
def lspBuild (zeroPtr n : Nat) : Option Lspdb :=
  ((List.range n).map (· + 1)).foldlM (lspNextFrag zeroPtr) db

def forFrags (f : Lsp → Lsp) (db : Lspdb) (frags : List Nat) : Option Lspdb :=
  frags.foldlM (fun db ptr => (db.deref ptr).map fun _ => db.modify ptr f) db

def lspSeqnumUpdate (zeroPtr : Nat) : Option Lspdb :=
  (db.deref zeroPtr).bind fun lsp0 =>
    (db.modify zeroPtr (lspIncSeqnum 0)).forFrags (lspIncSeqnum 0) (lsp0.frags.getD [])

def ownId : LspId := own * 65536

/-- `lsp_generate` from where the old LSP is gone, with its sequence number. -/
def lspOriginate (seqNum remLifetime n : Nat) : Option Lspdb :=
  ((db.lspInsert { lspNew db.next (ownId own) remLifetime seqNum 0 with ownLsp := true }).lspBuild db.next n).bind
    fun db' => db'.lspSeqnumUpdate db.next

/-- The router's own LSP, with its fragments. -/
def lspGenerate (remLifetime n : Nat) : Option Lspdb :=
  match db.lspSearch (ownId own) with
  | none => db.lspOriginate own 0 remLifetime n
  | some old => (db.lspSearchAndDestroy (ownId own)).bind fun db => db.lspOriginate own old.seqNum remLifetime n

def lspRegenerate (remLifetime n : Nat) : Option Lspdb :=
  match db.lspSearch (ownId own) with
  | none => some db
  | some lsp =>
    (db.lspBuild lsp.ptr n).bind fun db =>
      ((db.modify lsp.ptr fun x => { x with remLifetime := remLifetime }).lspSeqnumUpdate lsp.ptr).bind fun db =>
        (db.deref lsp.ptr).bind fun lsp0 =>
          db.forFrags (fun x => { x with remLifetime := remLifetime }) (lsp0.frags.getD [])

def pseudoId (own circuitId : Nat) : LspId := own * 65536 + circuitId % 256 * 256

/-- A pseudonode LSP that is there already is refreshed by an event of its own. -/
def lspGeneratePseudo (circuitId remLifetime : Nat) : Lspdb :=
  match db.lspSearch (pseudoId own circuitId) with
  | some _ => db
  | none => db.lspInsert { lspNew db.next (pseudoId own circuitId) remLifetime 1 0 with ownLsp := true }

def lspRegeneratePseudo (circuitId remLifetime : Nat) : Lspdb :=
  match db.lspSearch (pseudoId own circuitId) with
  | none => db
  | some lsp => db.modify lsp.ptr fun x => lspIncSeqnum 0 { x with remLifetime := remLifetime }

/-- The checksum is that of the PDU, which is not modelled. -/
def lspPurgePseudo (bigEndian : Bool) (checksum maxLifetime : Nat) : Lspdb :=
  match db.lspSearch id with
  | none => db
  | some lsp => db.modify lsp.ptr (purged bigEndian checksum maxLifetime)

/-- What happens to the database each second. -/
def lspTick : Lspdb :=
  { db with lsps := (db.lsps.map lspSetTime).filter fun lsp => lsp.ageOut ≠ 0 }

end Lspdb

inductive Level
  | one
  | two
deriving DecidableEq, Repr

/-- An area with a database for each level; areas of one level are left out. -/
structure Area where
  sysid : Nat
  lspdb : Level → Lspdb

namespace Area

def onLevel (a : Area) (level : Level) (f : Lspdb → Option Lspdb) : Option Area :=
  (f (a.lspdb level)).map fun db => { a with lspdb := Function.update a.lspdb level db }

/-- The level that `lsp_purge_non_exist` reads off the header. -/
def purgeLevel (hdr : Header) : Level := if hdr.lspBits % 4 = 1 then .one else .two

/-- `process_lsp` for a PDU that passed the checks of its contents; `adj` says that the
sender has an adjacency of the level. -/
def processLsp (a : Area) (level : Level) (hdr : Header) (adj : Bool) : Option Area :=
  let lsp := (a.lspdb level).lspSearch hdr.lspId
  if (lsp.elim true fun lsp => !lsp.ownLsp) && !adj then some a
  else if hdr.remLifetime = 0 then a.onLevel level fun db => some (db.receivePurge a.sysid hdr)
  else if sysId hdr.lspId = a.sysid then
    match lsp with
    | none => a.onLevel (purgeLevel hdr) fun db => db.lspPurgeNonExist hdr
    | some lsp =>
      a.onLevel level fun db =>
        some (if hdr.seqNum > lsp.seqNum then db.modify lsp.ptr (lspIncSeqnum hdr.seqNum) else db)
  else a.onLevel level fun db => db.receiveOther hdr

end Area

inductive Event
  | receiveLsp (level : Level) (hdr : Header) (adj : Bool)
  | receiveSnp (level : Level) (entries : List Header)
  | generate (level : Level) (remLifetime n : Nat)
  | regenerate (level : Level) (remLifetime n : Nat)
  | generatePseudo (level : Level) (circuitId remLifetime : Nat)
  | regeneratePseudo (level : Level) (circuitId remLifetime : Nat)
  | purgePseudo (level : Level) (id : LspId) (bigEndian : Bool) (checksum maxLifetime : Nat)
  | tick

namespace Area

/-- One event of an area; it may fail. -/
def event (a : Area) : Event → Option Area
  | .receiveLsp level hdr adj => a.processLsp level hdr adj
  | .receiveSnp level entries => a.onLevel level fun db => some (entries.foldl (Lspdb.snpEntry a.sysid) db)
  | .generate level remLifetime n => a.onLevel level fun db => db.lspGenerate a.sysid remLifetime n
  | .regenerate level remLifetime n => a.onLevel level fun db => db.lspRegenerate a.sysid remLifetime n
  | .generatePseudo level circuitId remLifetime =>
    a.onLevel level fun db => some (db.lspGeneratePseudo a.sysid circuitId remLifetime)
  | .regeneratePseudo level circuitId remLifetime =>
    a.onLevel level fun db => some (db.lspRegeneratePseudo a.sysid circuitId remLifetime)
  | .purgePseudo level id bigEndian checksum maxLifetime =>
    a.onLevel level fun db => some (db.lspPurgePseudo id bigEndian checksum maxLifetime)
  | .tick => some { a with lspdb := fun level => (a.lspdb level).lspTick }

def step (a : Option Area) (e : Event) : Option Area := a.bind fun a => a.event e

def init (sysid : Nat) : Area := ⟨sysid, fun _ => ⟨[], 0⟩⟩

end Area

end OspfMdr.Isis
