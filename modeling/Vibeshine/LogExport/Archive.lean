import Mathlib

/-! # The archive of the support logs

`build_zip_from_entries` writes the files with their headers, then the directory, then the
record at the end. A reader finds them the other way around.
-/

namespace Vibeshine.LogExport

open List

abbrev Bytes := List UInt8

def writeLe16 (v : UInt16) : Bytes := [v.toUInt8, (v >>> 8).toUInt8]

def writeLe32 (v : UInt32) : Bytes :=
  [v.toUInt8, (v >>> 8).toUInt8, (v >>> 16).toUInt8, (v >>> 24).toUInt8]

def crcShift (crc : UInt32) : UInt32 :=
  if crc &&& 1 = 1 then (crc >>> 1) ^^^ 0xEDB88320 else crc >>> 1

def crcByte (crc : UInt32) (byte : UInt8) : UInt32 :=
  (List.range 8).foldl (fun crc _ => crcShift crc) (crc ^^^ byte.toUInt32)

/-- `boost::crc_32_type`. -/
def crc32 (data : Bytes) : UInt32 := data.foldl crcByte 0xFFFFFFFF ^^^ 0xFFFFFFFF

abbrev FileTime := Int

structure ZipDataEntry where
  name : Bytes
  data : Bytes
  writeTime : Option FileTime := none
  deriving DecidableEq

/-- The library that deflates, and the local time of an export as DOS time and date. -/
structure Zip where
  deflateBuffer : Bytes → Option Bytes
  inflate : Bytes → Option Bytes
  dosDatetime : Option FileTime → UInt16 × UInt16
  /-- A stream is one of its input. -/
  inflates : ∀ data stream, deflateBuffer data = some stream → inflate stream = some data

structure CdEnt where
  name : Bytes
  crc : UInt32
  compSize : UInt32
  uncompSize : UInt32
  method : UInt16
  offset : UInt32
  dostime : UInt16
  dosdate : UInt16
  deriving DecidableEq

namespace Zip

variable (zip : Zip)

def packed (data : Bytes) : UInt16 × Bytes :=
  match zip.deflateBuffer data with
  | some compressed => if compressed.length < data.length then (8, compressed) else (0, data)
  | none => (0, data)

def describe (offset : Nat) (e : ZipDataEntry) : CdEnt :=
  let (method, payload) := zip.packed e.data
  let (dostime, dosdate) := zip.dosDatetime e.writeTime
  { name := e.name, crc := crc32 e.data, compSize := payload.length.toUInt32
    uncompSize := e.data.length.toUInt32, method, offset := offset.toUInt32, dostime, dosdate }

def localHeader (ent : CdEnt) : Bytes :=
  writeLe32 0x04034b50 ++ writeLe16 20 ++ writeLe16 0 ++ writeLe16 ent.method ++
    writeLe16 ent.dostime ++ writeLe16 ent.dosdate ++ writeLe32 ent.crc ++
    writeLe32 ent.compSize ++ writeLe32 ent.uncompSize ++ writeLe16 ent.name.length.toUInt16 ++
    writeLe16 0 ++ ent.name

def writeEntry (written : Bytes × List CdEnt) (e : ZipDataEntry) : Bytes × List CdEnt :=
  let (out, cd) := written
  let ent := zip.describe out.length e
  (out ++ localHeader ent ++ (zip.packed e.data).2, cd ++ [ent])

def record (e : CdEnt) : Bytes :=
  writeLe32 0x02014b50 ++ writeLe16 20 ++ writeLe16 20 ++ writeLe16 0 ++ writeLe16 e.method ++
    writeLe16 e.dostime ++ writeLe16 e.dosdate ++ writeLe32 e.crc ++ writeLe32 e.compSize ++
    writeLe32 e.uncompSize ++ writeLe16 e.name.length.toUInt16 ++ writeLe16 0 ++ writeLe16 0 ++
    writeLe16 0 ++ writeLe16 0 ++ writeLe32 0 ++ writeLe32 e.offset ++ e.name

def writeRecord (written : Bytes × UInt32) (e : CdEnt) : Bytes × UInt32 :=
  (written.1 ++ record e, written.2 + (record e).length.toUInt32)

def endRecord (count : UInt16) (cdSize cdStart : UInt32) : Bytes :=
  writeLe32 0x06054b50 ++ writeLe16 0 ++ writeLe16 0 ++ writeLe16 count ++ writeLe16 count ++
    writeLe32 cdSize ++ writeLe32 cdStart ++ writeLe16 0

def buildZipFromEntries (entries : List ZipDataEntry) : Bytes :=
  let (out, cd) := entries.foldl zip.writeEntry ([], [])
  let cdStart := out.length.toUInt32
  let (out, cdSize) := cd.foldl writeRecord (out, 0)
  out ++ endRecord cd.length.toUInt16 cdSize cdStart

end Zip

/-! ## A reader -/

abbrev Reader := StateT Bytes Option

def fromLe : Bytes → Nat
  | [] => 0
  | byte :: bytes => byte.toNat + 256 * fromLe bytes

def take (n : Nat) : Reader Bytes := fun rest =>
  if rest.length < n then none else some (rest.take n, rest.drop n)

def word (n : Nat) : Reader Nat := do return fromLe (← take n)

def expect (n value : Nat) : Reader Unit := do
  let found ← word n
  if found = value then return () else failure

/-- What a header says of a file. -/
structure Header where
  method : Nat
  dostime : Nat
  dosdate : Nat
  crc : Nat
  compSize : Nat
  uncompSize : Nat
  deriving DecidableEq

def readHeader : Reader Header := do
  return { method := ← word 2, dostime := ← word 2, dosdate := ← word 2, crc := ← word 4
           compSize := ← word 4, uncompSize := ← word 4 }

def readLocal : Reader (Header × Bytes) := do
  expect 4 0x04034b50
  let _version ← word 2
  let _flags ← word 2
  let header ← readHeader
  let nameLength ← word 2
  let extraLength ← word 2
  let name ← take nameLength
  let _extra ← take extraLength
  return (header, name)

def readRecord : Reader (Header × Bytes × Nat) := do
  expect 4 0x02014b50
  let _made ← word 2
  let _version ← word 2
  let _flags ← word 2
  let header ← readHeader
  let nameLength ← word 2
  let extraLength ← word 2
  let commentLength ← word 2
  let _disk ← word 2
  let _internal ← word 2
  let _external ← word 4
  let offset ← word 4
  let name ← take nameLength
  let _extra ← take extraLength
  let _comment ← take commentLength
  return (header, name, offset)

structure EndRecord where
  count : Nat
  size : Nat
  start : Nat
  deriving DecidableEq

def readEnd (commentLength : Nat) : Reader EndRecord := do
  expect 4 0x06054b50
  expect 2 0
  expect 2 0
  let _onDisk ← word 2
  let count ← word 2
  let size ← word 4
  let start ← word 4
  expect 2 commentLength
  return { count, size, start }

def findEnd (archive : Bytes) : Option EndRecord :=
  (List.range 65536).findSome? fun commentLength =>
    if archive.length < 22 + commentLength then none
    else
      (readEnd commentLength (archive.drop (archive.length - (22 + commentLength)))).map (·.1)

/-- A file as it is read, with both of its headers. -/
structure ReadFile where
  localHeader : Header
  localName : Bytes
  header : Header
  name : Bytes
  data : Bytes
  deriving DecidableEq

namespace Zip

variable (zip : Zip)

def unpack (method : Nat) (payload : Bytes) : Option Bytes :=
  if method = 0 then some payload else if method = 8 then zip.inflate payload else none

def readFiles (archive : Bytes) : Nat → Bytes → Option (List ReadFile)
  | 0, directory => if directory = [] then some [] else none
  | count + 1, directory => do
      let ((header, name, offset), directory) ← readRecord directory
      let ((localHeader, localName), rest) ← readLocal (archive.drop offset)
      let (payload, _) ← take header.compSize rest
      let data ← zip.unpack header.method payload
      let files ← readFiles archive count directory
      return { localHeader, localName, header, name, data } :: files

def readZip (archive : Bytes) : Option (EndRecord × List ReadFile) := do
  let last ← findEnd archive
  let files ← zip.readFiles archive last.count ((archive.drop last.start).take last.size)
  return (last, files)

end Zip

/-! ## Reading what was written -/

lemma toNat_toUInt16 {n : Nat} (h : n < 2 ^ 16) : n.toUInt16.toNat = n :=
  UInt16.toNat_ofNat_of_lt' h

lemma toNat_toUInt32 {n : Nat} (h : n < 2 ^ 32) : n.toUInt32.toNat = n :=
  UInt32.toNat_ofNat_of_lt' h

lemma fromLe_writeLe16 (v : UInt16) : fromLe (writeLe16 v) = v.toNat := by
  have hlow : v.toUInt8.toNat = v.toNat % 2 ^ 8 := UInt16.toNat_toUInt8 v
  have hhigh : (v >>> 8).toUInt8.toNat = v.toNat / 2 ^ 8 % 2 ^ 8 := by
    rw [UInt16.toNat_toUInt8, UInt16.toNat_shiftRight, Nat.shiftRight_eq_div_pow]
    rfl
  have hbound := v.toNat_lt
  simp only [writeLe16, fromLe, hlow, hhigh]
  omega

lemma fromLe_writeLe32 (v : UInt32) : fromLe (writeLe32 v) = v.toNat := by
  have hbyte : ∀ k : UInt32, (v >>> k).toUInt8.toNat = v.toNat / 2 ^ (k.toNat % 32) % 2 ^ 8 := by
    intro k
    rw [UInt32.toNat_toUInt8, UInt32.toNat_shiftRight, Nat.shiftRight_eq_div_pow]
  have h8 : (8 : UInt32).toNat % 32 = 8 := rfl
  have h16 : (16 : UInt32).toNat % 32 = 16 := rfl
  have h24 : (24 : UInt32).toNat % 32 = 24 := rfl
  have hbound := v.toNat_lt
  simp only [writeLe32, fromLe, hbyte, UInt32.toNat_toUInt8, h8, h16, h24]
  omega

section

variable {α : Type} {read : Nat → Reader α} {rest : Bytes}

lemma take_append {bytes : Bytes} {n : Nat} (hlength : bytes.length = n) :
    take n (bytes ++ rest) = some (bytes, rest) := by
  subst hlength
  unfold take
  rw [if_neg (by simp), take_left, drop_left]

lemma take_bind {bytes : Bytes} {n : Nat} {read : Bytes → Reader α}
    (hlength : bytes.length = n) : (take n >>= read) (bytes ++ rest) = read bytes rest := by
  change (take n (bytes ++ rest) >>= fun found => read found.1 found.2) = read bytes rest
  rw [take_append hlength]
  rfl

lemma word_bind16 (v : UInt16) : (word 2 >>= read) (writeLe16 v ++ rest) = read v.toNat rest := by
  unfold word
  rw [bind_assoc, take_bind (show (writeLe16 v).length = 2 from rfl), pure_bind, fromLe_writeLe16]

lemma word_bind32 (v : UInt32) : (word 4 >>= read) (writeLe32 v ++ rest) = read v.toNat rest := by
  unfold word
  rw [bind_assoc, take_bind (show (writeLe32 v).length = 4 from rfl), pure_bind, fromLe_writeLe32]

lemma expect_bind16 {v : UInt16} {n : Nat} {read : Unit → Reader α} (h : v.toNat = n) :
    (expect 2 n >>= read) (writeLe16 v ++ rest) = read () rest := by
  unfold expect
  rw [bind_assoc, word_bind16, if_pos h, pure_bind]

lemma expect_bind32 {v : UInt32} {n : Nat} {read : Unit → Reader α} (h : v.toNat = n) :
    (expect 4 n >>= read) (writeLe32 v ++ rest) = read () rest := by
  unfold expect
  rw [bind_assoc, word_bind32, if_pos h, pure_bind]

end

def CdEnt.header (ent : CdEnt) : Header where
  method := ent.method.toNat
  dostime := ent.dostime.toNat
  dosdate := ent.dosdate.toNat
  crc := ent.crc.toNat
  compSize := ent.compSize.toNat
  uncompSize := ent.uncompSize.toNat

lemma header_bind {α : Type} (ent : CdEnt) {read : Header → Reader α} (rest : Bytes) :
    (readHeader >>= read) (writeLe16 ent.method ++ (writeLe16 ent.dostime ++ (writeLe16 ent.dosdate ++
      (writeLe32 ent.crc ++ (writeLe32 ent.compSize ++ (writeLe32 ent.uncompSize ++ rest)))))) =
      read ent.header rest := by
  unfold readHeader
  simp only [bind_assoc, pure_bind, word_bind16, word_bind32]
  rfl

lemma readLocal_localHeader {ent : CdEnt} (hname : ent.name.length < 65536) (rest : Bytes) :
    readLocal (Zip.localHeader ent ++ rest) = some ((ent.header, ent.name), rest) := by
  unfold readLocal Zip.localHeader
  simp only [append_assoc]
  rw [expect_bind32 (by rfl), word_bind16, word_bind16, header_bind, word_bind16, word_bind16,
    toNat_toUInt16 hname, take_bind rfl]
  exact take_bind (show ([] : Bytes).length = 0 from rfl)

lemma readRecord_record {ent : CdEnt} (hname : ent.name.length < 65536) (rest : Bytes) :
    readRecord (Zip.record ent ++ rest) = some ((ent.header, ent.name, ent.offset.toNat), rest) := by
  unfold readRecord Zip.record
  simp only [append_assoc]
  rw [expect_bind32 (by rfl), word_bind16, word_bind16, word_bind16, header_bind, word_bind16,
    word_bind16, word_bind16, word_bind16, word_bind16, word_bind32, word_bind32,
    toNat_toUInt16 hname, take_bind rfl]
  have hextra : ∀ {read : Bytes → Reader (Header × Bytes × Nat)},
      (take (0 : UInt16).toNat >>= read) rest = read [] rest :=
    take_bind (show ([] : Bytes).length = 0 from rfl)
  rw [hextra, hextra]
  rfl

lemma readEnd_endRecord (count : UInt16) (cdSize cdStart : UInt32) :
    readEnd 0 (Zip.endRecord count cdSize cdStart) =
      some (⟨count.toNat, cdSize.toNat, cdStart.toNat⟩, []) := by
  unfold readEnd Zip.endRecord
  simp only [append_assoc]
  rw [expect_bind32 (by rfl), expect_bind16 (by rfl), expect_bind16 (by rfl), word_bind16, word_bind16,
    word_bind32, word_bind32]
  have hlast := @expect_bind16 _ [] 0 0 (fun _ => pure (EndRecord.mk count.toNat cdSize.toNat
    cdStart.toNat)) rfl
  rw [append_nil] at hlast
  exact hlast

namespace Zip

variable {zip : Zip}

def body (zip : Zip) (e : ZipDataEntry) : Bytes :=
  localHeader (zip.describe 0 e) ++ (zip.packed e.data).2

def bodies (zip : Zip) (entries : List ZipDataEntry) : Bytes := entries.flatMap zip.body

def describeFrom (zip : Zip) : Nat → List ZipDataEntry → List CdEnt
  | _, [] => []
  | offset, e :: entries =>
    zip.describe offset e :: describeFrom zip (offset + (zip.body e).length) entries

def directory (zip : Zip) (entries : List ZipDataEntry) : Bytes :=
  (zip.describeFrom 0 entries).flatMap record

variable (entries : List ZipDataEntry)

lemma foldl_writeEntry (out : Bytes) (cd : List CdEnt) : entries.foldl zip.writeEntry (out, cd) =
      (out ++ zip.bodies entries, cd ++ zip.describeFrom out.length entries) := by
  induction entries generalizing out cd with
  | nil => simp [bodies, describeFrom]
  | cons e entries ih =>
    have hfirst : zip.writeEntry (out, cd) e = (out ++ zip.body e, cd ++ [zip.describe out.length e]) := by
      simp only [writeEntry, body, append_assoc]
      rfl
    rw [foldl_cons, hfirst, ih, describeFrom, length_append]
    simp only [bodies, flatMap_cons, append_assoc, singleton_append]

lemma foldl_writeRecord (cd : List CdEnt) (out : Bytes) (size : Nat) :
    cd.foldl writeRecord (out, size.toUInt32) =
      (out ++ cd.flatMap record, (size + (cd.flatMap record).length).toUInt32) := by
  induction cd generalizing out size with
  | nil => simp
  | cons e cd ih =>
    have hfirst : writeRecord (out, size.toUInt32) e =
        (out ++ record e, (size + (record e).length).toUInt32) :=
      Prod.ext rfl (UInt32.ofNat_add _ _).symm
    rw [foldl_cons, hfirst, ih, flatMap_cons, length_append, append_assoc, add_assoc]

lemma length_describeFrom (offset : Nat) (entries : List ZipDataEntry) :
    (zip.describeFrom offset entries).length = entries.length := by
  induction entries generalizing offset with
  | nil => rfl
  | cons e entries ih => rw [describeFrom, length_cons, ih, length_cons]

lemma buildZipFromEntries_eq : zip.buildZipFromEntries entries =
      zip.bodies entries ++ (zip.directory entries ++
        endRecord entries.length.toUInt16 (zip.directory entries).length.toUInt32
          (zip.bodies entries).length.toUInt32) := by
  have hrecs := foldl_writeRecord (zip.describeFrom 0 entries) (zip.bodies entries) 0
  rw [zero_add] at hrecs
  unfold buildZipFromEntries
  rw [foldl_writeEntry]
  dsimp only [nil_append, length_nil]
  rw [show (0 : UInt32) = (0 : Nat).toUInt32 from rfl, hrecs, length_describeFrom]
  exact append_assoc _ _ _

/-! ## The round trip -/

def fileHeader (zip : Zip) (e : ZipDataEntry) : Header where
  method := (zip.packed e.data).1.toNat
  dostime := (zip.dosDatetime e.writeTime).1.toNat
  dosdate := (zip.dosDatetime e.writeTime).2.toNat
  crc := (crc32 e.data).toNat
  compSize := (zip.packed e.data).2.length
  uncompSize := e.data.length % 2 ^ 32

def readFile (zip : Zip) (e : ZipDataEntry) : ReadFile where
  localHeader := zip.fileHeader e
  localName := e.name
  header := zip.fileHeader e
  name := e.name
  data := e.data

lemma uncompSize_readFile (e : ZipDataEntry) :
    (zip.readFile e).header.uncompSize = e.data.length % 2 ^ 32 := rfl

lemma header_describe {e : ZipDataEntry} (hpayload : (zip.packed e.data).2.length < 2 ^ 32)
    (offset : Nat) : (zip.describe offset e).header = zip.fileHeader e := by
  have hsize : e.data.length.toUInt32.toNat = e.data.length % 2 ^ 32 := UInt32.toNat_ofNat'
  have hcomp := toNat_toUInt32 hpayload
  simp only [CdEnt.header, describe, fileHeader, hsize, hcomp]

lemma unpack_packed (data : Bytes) :
    zip.unpack (zip.packed data).1.toNat (zip.packed data).2 = some data := by
  unfold packed
  split
  next compressed hdeflate =>
    split
    · exact zip.inflates data compressed hdeflate
    · rfl
  · rfl

lemma readFiles_describeFrom {entries : List ZipDataEntry} (before after : Bytes)
    (hnames : ∀ e ∈ entries, e.name.length < 65536)
    (hsize : (before ++ zip.bodies entries).length < 2 ^ 32) :
    zip.readFiles (before ++ (zip.bodies entries ++ after)) entries.length
      ((zip.describeFrom before.length entries).flatMap record) =
        some (entries.map zip.readFile) := by
  induction entries generalizing before with
  | nil => rfl
  | cons e entries ih =>
    obtain ⟨hname, hnames⟩ := forall_mem_cons.mp hnames
    have hbodies : zip.bodies (e :: entries) = zip.body e ++ zip.bodies entries :=
      flatMap_cons
    rw [hbodies] at hsize ⊢
    have hlength : before.length + (zip.body e).length < 2 ^ 32 := by
      rw [length_append, length_append] at hsize
      omega
    have hpayload : (zip.packed e.data).2.length < 2 ^ 32 := by
      rw [body, length_append] at hlength
      omega
    have hoffset : (zip.describe before.length e).offset.toNat = before.length :=
      toNat_toUInt32 (by omega)
    -- The offset of a record leads to the local header, with the payload behind it.
    have hlocal : (before ++ (zip.body e ++ zip.bodies entries ++ after)).drop before.length =
        localHeader (zip.describe 0 e) ++ ((zip.packed e.data).2 ++ (zip.bodies entries ++ after)) := by
      rw [drop_left, body]
      simp only [append_assoc]
    have hrest := ih (before ++ zip.body e) hnames (by rwa [append_assoc])
    rw [length_append, append_assoc] at hrest
    rw [describeFrom, flatMap_cons, length_cons, readFiles, readRecord_record hname]
    simp only [Option.bind_eq_bind, Option.bind_some, hoffset, hlocal]
    rw [readLocal_localHeader hname]
    have htake : take (zip.fileHeader e).compSize ((zip.packed e.data).2 ++
        (zip.bodies entries ++ after)) =
        some ((zip.packed e.data).2, zip.bodies entries ++ after) := take_append rfl
    simp only [Option.bind_some, header_describe hpayload]
    rw [htake]
    simp only [Option.bind_some]
    rw [show (zip.fileHeader e).method = (zip.packed e.data).1.toNat from rfl, unpack_packed]
    rw [Option.bind_some, append_assoc, hrest]
    rfl

lemma findEnd_append (before : Bytes) (count : UInt16) (cdSize cdStart : UInt32) :
    findEnd (before ++ endRecord count cdSize cdStart) =
      some ⟨count.toNat, cdSize.toNat, cdStart.toNat⟩ := by
  have hlength : (endRecord count cdSize cdStart).length = 22 := rfl
  unfold findEnd
  rw [show 65536 = 65535 + 1 from rfl, range_succ_eq_map, findSome?_cons,
    length_append, hlength, if_neg (by omega), Nat.add_sub_cancel, drop_left,
    readEnd_endRecord]
  rfl

lemma readZip_build {entries : List ZipDataEntry} (hcount : entries.length < 65536)
    (hnames : ∀ e ∈ entries, e.name.length < 65536)
    (harchive : (zip.buildZipFromEntries entries).length < 2 ^ 32) :
    zip.readZip (zip.buildZipFromEntries entries) =
      some (⟨entries.length, (zip.directory entries).length, (zip.bodies entries).length⟩,
        entries.map zip.readFile) := by
  rw [buildZipFromEntries_eq] at harchive ⊢
  simp only [length_append] at harchive
  have hstart : (zip.bodies entries).length < 2 ^ 32 := by omega
  have hsize : (zip.directory entries).length < 2 ^ 32 := by omega
  unfold readZip
  rw [← append_assoc, findEnd_append, toNat_toUInt16 hcount, toNat_toUInt32 hsize,
    toNat_toUInt32 hstart, append_assoc]
  simp only [Option.bind_eq_bind, Option.bind_some]
  rw [drop_left, take_left]
  have hfiles : ∀ after, zip.readFiles (zip.bodies entries ++ after) entries.length
      (zip.directory entries) = some (entries.map zip.readFile) :=
    fun after => readFiles_describeFrom [] after hnames hstart
  rw [hfiles]
  rfl

end Zip

/-- The files of an archive are read as they were given, and both of their headers, their
names and the record at the end say what they are. -/
theorem zip_round_trip (zip : Zip) {entries : List ZipDataEntry} (hcount : entries.length < 65536)
    (hnames : ∀ e ∈ entries, e.name.length < 65536)
    (harchive : (zip.buildZipFromEntries entries).length < 2 ^ 32) :
    zip.readZip (zip.buildZipFromEntries entries) =
      some (⟨entries.length, (zip.directory entries).length, (zip.bodies entries).length⟩,
        entries.map fun e =>
          let header : Header :=
            { method := (zip.packed e.data).1.toNat, dostime := (zip.dosDatetime e.writeTime).1.toNat
              dosdate := (zip.dosDatetime e.writeTime).2.toNat, crc := (crc32 e.data).toNat
              compSize := (zip.packed e.data).2.length, uncompSize := e.data.length % 2 ^ 32 }
          ⟨header, e.name, header, e.name, e.data⟩) :=
  Zip.readZip_build hcount hnames harchive

def letterZip : Zip where
  deflateBuffer data := if data = [97] then some [0x4b, 0x04, 0x00] else none
  inflate stream := if stream = [0x4b, 0x04, 0x00] then some [97] else none
  dosDatetime _ := (0x6000, 0x5a21)
  inflates data stream h := by
    split at h
    next hletter =>
      cases h
      rw [if_pos rfl, hletter]
    · cases h

theorem zip_round_trip_letter :
    letterZip.readZip (letterZip.buildZipFromEntries
        [⟨[108, 111, 103], [97], none⟩, ⟨[98], [98], none⟩]) =
      some (⟨2, 96, 66⟩, [⟨⟨0, 0x6000, 0x5a21, 0xe8b7be43, 1, 1⟩, [108, 111, 103],
        ⟨0, 0x6000, 0x5a21, 0xe8b7be43, 1, 1⟩, [108, 111, 103], [97]⟩,
        ⟨⟨0, 0x6000, 0x5a21, 0x71beeff9, 1, 1⟩, [98], ⟨0, 0x6000, 0x5a21, 0x71beeff9, 1, 1⟩, [98],
          [98]⟩]) :=
  (zip_round_trip letterZip (by decide) (by decide) (by decide +kernel)).trans (by decide +kernel)

lemma length_build_unnamed {zip : Zip} {data payload : Bytes} {method : UInt16}
    (h : zip.packed data = (method, payload)) :
    (zip.buildZipFromEntries [⟨[], data, none⟩]).length = 98 + payload.length := by
  rw [Zip.buildZipFromEntries_eq]
  simp only [Zip.bodies, Zip.body, Zip.directory, Zip.describeFrom, h, flatMap_cons,
    flatMap_nil, append_nil, length_append, Zip.localHeader, Zip.record,
    Zip.endRecord, Zip.describe, writeLe16, writeLe32, length_cons, length_nil]
  omega

def oneFileZip (only : Bytes) : Zip where
  deflateBuffer data := if data = only then some [0] else none
  inflate stream := if stream = [0] then some only else none
  dosDatetime _ := (0, 0)
  inflates data stream h := by
    split at h
    next honly =>
      cases h
      rw [if_pos rfl, honly]
    · cases h

lemma oneFileZip_packed {data : Bytes} (h : 1 < data.length) :
    (oneFileZip data).packed data = (8, [0]) := by
  unfold Zip.packed oneFileZip
  dsimp only
  rw [if_pos rfl]
  exact if_pos h

lemma size_wraps {data : Bytes} (hlength : data.length = 2 ^ 32) :
    ((oneFileZip data).buildZipFromEntries [⟨[], data, none⟩]).length < 2 ^ 32 ∧
      ∃ last file, (oneFileZip data).readZip
          ((oneFileZip data).buildZipFromEntries [⟨[], data, none⟩]) = some (last, [file]) ∧
        file.header.uncompSize = 0 ∧ file.data = data := by
  have hpacked := oneFileZip_packed (show 1 < data.length by omega)
  have hbuilt := length_build_unnamed hpacked
  have hsmall : ((oneFileZip data).buildZipFromEntries [⟨[], data, none⟩]).length < 2 ^ 32 := by
    rw [hbuilt]
    decide
  refine ⟨hsmall, _, (oneFileZip data).readFile ⟨[], data, none⟩,
    Zip.readZip_build (show 1 < 65536 by decide) (forall_mem_singleton.mpr (by simp)) hsmall,
    ?_, rfl⟩
  simp only [Zip.uncompSize_readFile, hlength, Nat.mod_self]

/-- The size of a file of so many zeros is not the one in its headers. -/
theorem size_of_zeros_wraps :
    ∃ (zip : Zip) (data : Bytes) (last : EndRecord) (file : ReadFile), data.length = 2 ^ 32 ∧
      (zip.buildZipFromEntries [⟨[], data, none⟩]).length < 2 ^ 32 ∧
      zip.readZip (zip.buildZipFromEntries [⟨[], data, none⟩]) = some (last, [file]) ∧
      file.header.uncompSize ≠ file.data.length := by
  have hlength : (List.replicate (2 ^ 32) (0 : UInt8)).length = 2 ^ 32 := length_replicate
  obtain ⟨hsmall, last, file, hread, hsize, hdata⟩ := size_wraps hlength
  refine ⟨_, _, last, file, hlength, hsmall, hread, ?_⟩
  rw [hsize, hdata, hlength]
  decide

end Vibeshine.LogExport
