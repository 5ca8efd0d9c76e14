import GreenRoom.Lib.Crc32
import Mathlib.Data.List.Sort

/-!
# Archives of persona packs

`greenroom_persona/archive.py`: reading a ZIP file without trusting it.  The end record says
where the central directory is, the central directory says where the local records are, and
nothing may lie between them.

## Main definitions

* `Zlib` — what is used of the decompressor.
* `decodeAndValidatePath` — the path of a member.
* `readCentral` — the loop over the central directory.
* `scanEntry` — one turn of the loop over the members.
* `readArchive` — the members of an archive.
-/

namespace GreenRoom.Persona

/-! ## Limits -/

def maxArchiveBytes : ℕ := 4 * 1024 * 1024

def maxEntries : ℕ := 64

def maxFileBytes : ℕ := 2 * 1024 * 1024

def maxTotalUncompressedBytes : ℕ := 8 * 1024 * 1024

def maxCompressionRatio : ℕ := 100

def maxPathBytes : ℕ := 255

def maxPathSegmentBytes : ℕ := 64

/-! ## Errors -/

structure ArchiveError where
  code : PyStr
  message : PyStr
  path : PyStr
  truncated : Bool
  deriving DecidableEq

def archiveError (code message : String) (path : PyStr) : ArchiveError where
  code := PyStr.ofString code
  message := PyStr.ofString message
  path
  truncated := false

structure ArchiveMember where
  path : PyStr
  data : Bytes
  isDir : Bool
  deriving DecidableEq

structure CentralEntry where
  versionMade : ℕ
  flags : ℕ
  method : ℕ
  crc : ℕ
  compressedSize : ℕ
  uncompressedSize : ℕ
  rawName : Bytes
  name : PyStr
  extra : Bytes
  externalAttr : ℕ
  localOffset : ℕ
  deriving DecidableEq

/-! ## Extra fields -/

def unicodePathExtra : ℕ := 0x7075

def unixLinkExtras : List ℕ := [0x000D, 0x5855, 0x756E, 0x7855, 0x7875]

/-- The loop over the fields.  A field that is accepted is the only one, so `fuel` is never
spent if it is greater than the length. -/
def extraFields (extra : Bytes) (name : PyStr) :
    ℕ → ℕ → List (ℕ × Bytes) → Except ArchiveError (List (ℕ × Bytes))
  | 0, _, fields => .ok fields
  | fuel + 1, cursor, fields =>
    if cursor < extra.length then do
      if extra.length < cursor + 4 then
        throw (archiveError "invalid_zip_extra_field" "truncated ZIP extra field" name)
      let fieldId := extra.u16 cursor
      let length := extra.u16 (cursor + 2)
      let cursor := cursor + 4
      if extra.length < cursor + length then
        throw (archiveError "invalid_zip_extra_field" "truncated ZIP extra value" name)
      if fieldId ∈ fields.map Prod.fst then
        throw (archiveError "invalid_zip_extra_field" "duplicate ZIP extra field" name)
      let value := extra.slice cursor (cursor + length)
      if fieldId ∈ unixLinkExtras then
        throw (archiveError "invalid_entry_type" "link-capable UNIX extra field" name)
      if fieldId ≠ unicodePathExtra then
        throw (archiveError "invalid_zip_extra_field" "unsupported ZIP extra field" name)
      extraFields extra name fuel (cursor + length) (fields ++ [(fieldId, value)])
    else .ok fields

def unicodePath (unicodeValue rawName : Bytes) (name : PyStr) (flags : ℕ) :
    Except ArchiveError Unit := do
  if flags &&& 0x800 = 0 then
    throw (archiveError "invalid_zip_extra_field" "Unicode Path extra requires the UTF-8 flag" name)
  if unicodeValue.length < 5 ∨ unicodeValue.byteAt 0 ≠ 1 then
    throw (archiveError "invalid_zip_extra_field" "invalid Unicode Path extra" name)
  if unicodeValue.u32 1 ≠ rawName.crc32 then
    throw (archiveError "invalid_zip_extra_field" "Unicode Path CRC mismatch" name)
  match PyStr.decode (unicodeValue.drop 5) with
  | none => throw (archiveError "invalid_zip_extra_field" "Unicode Path value is not UTF-8" name)
  | some unicodeName =>
    if unicodeName ≠ name then
      throw (archiveError "invalid_zip_extra_field" "conflicting Unicode Path value" name)

def parseExtra (extra rawName : Bytes) (name : PyStr) (flags : ℕ) :
    Except ArchiveError (List (ℕ × Bytes)) := do
  let fields ← extraFields extra name (extra.length + 1) 0 []
  match fields.lookup unicodePathExtra with
  | none => return fields
  | some unicodeValue =>
    unicodePath unicodeValue rawName name flags
    return fields

/-! ## Paths -/

/-- `[A-Za-z0-9][A-Za-z0-9._-]{0,63}`. -/
def isSegment : PyStr → Bool
  | [] => false
  | c :: rest => c.isAlphanumeric && rest.length ≤ 63 &&
      rest.all fun c => c.isAlphanumeric || c ∈ [PyStr.char '.', PyStr.char '_', PyStr.char '-']

def slash : CodePoint := PyStr.char '/'

/-- `name.endswith("/")`, of a member that is a directory. -/
def namesDirectory (name : PyStr) : Bool := name.getLast? = some slash

/-- A path without the slash at the end of a directory. -/
def identity (name : PyStr) : PyStr := if namesDirectory name then name.dropLast else name

def decodeAndValidatePath (rawName : Bytes) : Except ArchiveError (PyStr × Bool) := do
  if rawName = [] then throw (archiveError "unsafe_path" "empty archive member name" [])
  if maxPathBytes < rawName.length then
    throw (archiveError "unsafe_path" "archive member path exceeds 255 bytes" [])
  if 0x5C ∈ rawName then
    throw (archiveError "unsafe_path" "backslashes are forbidden in member paths" [])
  if rawName.any fun byte => 0x7F < byte then
    throw (archiveError "non_ascii_path" "draft 0.1 paths must be ASCII" [])
  let name := PyStr.ofAscii rawName
  let isDir := namesDirectory name
  let identity := identity name
  if identity.head? = some slash ∨ identity = [] then
    throw (archiveError "unsafe_path" "absolute or empty member path" name)
  let segments := identity.split slash
  if segments.any fun segment =>
      segment ∈ [[], PyStr.ofString ".", PyStr.ofString ".."] then
    throw (archiveError "unsafe_path" "empty, dot, or traversal path segment" name)
  if segments.any fun segment => maxPathSegmentBytes < segment.length || !isSegment segment then
    throw (archiveError "unsafe_path" "invalid archive path segment" name)
  if segments.length < 2 ∧ ¬ isDir then
    throw (archiveError "unsafe_path" "pack files require one archive root" name)
  return (name, isDir)

/-! ## Types of entries -/

def posixModeProducers : List ℕ := [3, 19]

def sIfmt (mode : ℕ) : ℕ := mode &&& 0o170000

def sIfdir : ℕ := 0o040000

def sIfreg : ℕ := 0o100000

def entryType (entry : CentralEntry) (isDir : Bool) : Except ArchiveError Unit := do
  let producerOs := entry.versionMade / 0x100
  let mode := entry.externalAttr / 0x10000
  let dosDirectory : Bool := entry.externalAttr &&& 0x10 ≠ 0
  if mode ≠ 0 then
    let expectedType := if isDir then sIfdir else sIfreg
    if sIfmt mode ≠ expectedType then
      throw (archiveError "invalid_entry_type" "links and special entries are forbidden" entry.name)
    if ¬ isDir ∧ mode &&& 0o111 ≠ 0 then
      throw (archiveError "invalid_entry_type" "executable mode bits are forbidden" entry.name)
    if mode &&& 0o7000 ≠ 0 then
      throw (archiveError "invalid_entry_type" "special permission bits are forbidden" entry.name)
  if producerOs ∈ posixModeProducers then
    if mode = 0 then
      throw (archiveError "invalid_entry_type"
        "POSIX producer omitted canonical file type metadata" entry.name)
    if dosDirectory ∧ ¬ isDir then
      throw (archiveError "invalid_entry_type" "DOS and POSIX type metadata conflict" entry.name)
  else
    if mode ≠ 0 then
      throw (archiveError "invalid_entry_type"
        "non-POSIX producer supplied ambiguous mode metadata" entry.name)
    if isDir ≠ dosDirectory then
      throw (archiveError "invalid_entry_type" "entry type disagrees with path" entry.name)

/-! ## Payloads -/

/-- What a decompressor says of itself. -/
structure InflaterState where
  eof : Bool
  unusedData : Bytes
  unconsumedTail : Bytes

/-- `zlib.decompressobj(-zlib.MAX_WBITS)`: `decompress` with a greatest length, and `flush`
after it.  Both may raise `zlib.error`. -/
structure Zlib where
  Inflater : Type
  decompress : Bytes → ℕ → Option (Bytes × Inflater)
  flush : Inflater → ℕ → Option (Bytes × Inflater)
  state : Inflater → InflaterState

variable (zlib : Zlib)

/-- The data, and the inflater after it. -/
def Zlib.inflate (compressed : Bytes) : Option (Bytes × zlib.Inflater) := do
  let (data, inflater) ← zlib.decompress compressed (maxFileBytes + 1)
  if data.length ≤ maxFileBytes then
    let (rest, inflater) ← zlib.flush inflater (maxFileBytes + 1 - data.length)
    return (data ++ rest, inflater)
  else return (data, inflater)

def payload (entry : CentralEntry) (compressed : Bytes) : Except ArchiveError Bytes :=
  if entry.method = 0 then .ok compressed
  else if entry.method = 8 then
    match zlib.inflate compressed with
    | none => .error (archiveError "payload_integrity_error" "invalid deflate stream" entry.name)
    | some (data, inflater) =>
      let state := zlib.state inflater
      if !state.eof || state.unusedData ≠ [] || state.unconsumedTail ≠ [] then
        .error (archiveError "payload_integrity_error" "ambiguous deflate payload" entry.name)
      else .ok data
  else .error (archiveError "unsupported_compression" "only stored and deflate are supported"
    entry.name)

def inflate (entry : CentralEntry) (compressed : Bytes) : Except ArchiveError Bytes := do
  let data ← payload zlib entry compressed
  if data.length ≠ entry.uncompressedSize then
    throw (archiveError "payload_integrity_error" "uncompressed size mismatch" entry.name)
  if data.crc32 ≠ entry.crc then
    throw (archiveError "payload_integrity_error" "payload CRC-32 mismatch" entry.name)
  return data

/-! ## The end record -/

/-- `_read_bounded`; a file that cannot be read has no contents. -/
def readBounded (file : Option Bytes) : Except ArchiveError Bytes :=
  match file with
  | none => .error (archiveError "archive_io_error" "cannot read archive" [])
  | some contents =>
    let archive := contents.take (maxArchiveBytes + 1)
    if maxArchiveBytes < archive.length then
      .error (archiveError "archive_too_large" "archive exceeds 4 MiB" [])
    else .ok archive

def eocdSize : ℕ := 22

def centralSize : ℕ := 46

def localSize : ℕ := 30

def descriptorSize : ℕ := 12

/-- What the end record says, and where it is. -/
structure EndRecord where
  offset : ℕ
  entryCount : ℕ
  centralOffset : ℕ
  deriving DecidableEq

def endRecord (archive : Bytes) : Except ArchiveError EndRecord := do
  if archive.length < eocdSize then throw (archiveError "invalid_zip" "missing ZIP end record" [])
  match archive.rfind [0x50, 0x4B, 0x05, 0x06] (archive.length - 65557) with
  | none => throw (archiveError "invalid_zip" "missing ZIP end record" [])
  | some offset =>
    if archive.length < offset + eocdSize then
      throw (archiveError "invalid_zip" "missing ZIP end record" [])
    let diskNumber := archive.u16 (offset + 4)
    let centralDisk := archive.u16 (offset + 6)
    let diskEntries := archive.u16 (offset + 8)
    let entryCount := archive.u16 (offset + 10)
    let size := archive.u32 (offset + 12)
    let centralOffset := archive.u32 (offset + 16)
    let commentLength := archive.u16 (offset + 20)
    if offset + eocdSize + commentLength ≠ archive.length ∨ commentLength ≠ 0 then
      throw (archiveError "hidden_archive_data"
        "archive comments or trailing bytes are forbidden" [])
    if diskNumber ≠ 0 ∨ centralDisk ≠ 0 ∨ diskEntries ≠ entryCount then
      throw (archiveError "unsupported_zip" "multi-disk ZIP archives are forbidden" [])
    if maxEntries < entryCount then
      throw { archiveError "too_many_entries" "archive exceeds 64 members" [] with
        truncated := true }
    if entryCount = 0xFFFF ∨ size = 0xFFFFFFFF ∨ centralOffset = 0xFFFFFFFF then
      throw (archiveError "unsupported_zip" "ZIP64 archives are not supported" [])
    if centralOffset + size ≠ offset then
      throw (archiveError "hidden_archive_data"
        "central directory boundaries are inconsistent" [])
    return { offset, entryCount, centralOffset }

/-! ## The central directory -/

/-- One turn of the loop over the central directory: the entry at `cursor`, and where the
next one is. -/
def centralEntry (archive : Bytes) (eocdOffset cursor total : ℕ) :
    Except ArchiveError (CentralEntry × ℕ) := do
  if eocdOffset < cursor + centralSize then
    throw (archiveError "invalid_zip" "truncated central directory" [])
  if archive.slice cursor (cursor + 4) ≠ [0x50, 0x4B, 0x01, 0x02] then
    throw (archiveError "invalid_zip" "invalid central directory signature" [])
  let versionMade := archive.u16 (cursor + 4)
  let flags := archive.u16 (cursor + 8)
  let method := archive.u16 (cursor + 10)
  let crc := archive.u32 (cursor + 16)
  let compressedSize := archive.u32 (cursor + 20)
  let uncompressedSize := archive.u32 (cursor + 24)
  let nameLength := archive.u16 (cursor + 28)
  let extraLength := archive.u16 (cursor + 30)
  let commentLength := archive.u16 (cursor + 32)
  let diskStart := archive.u16 (cursor + 34)
  let externalAttr := archive.u32 (cursor + 38)
  let localOffset := archive.u32 (cursor + 42)
  let recordEnd := cursor + centralSize + nameLength + extraLength + commentLength
  if eocdOffset < recordEnd then
    throw (archiveError "invalid_zip" "truncated central directory record" [])
  let rawName := archive.slice (cursor + centralSize) (cursor + centralSize + nameLength)
  let (name, _) ← decodeAndValidatePath rawName
  if commentLength ≠ 0 ∨ diskStart ≠ 0 then
    throw (archiveError "hidden_archive_data"
      "entry comments and split entries are forbidden" name)
  if flags &&& 1 ≠ 0 then
    throw (archiveError "encrypted_entry" "encrypted ZIP entries are forbidden" name)
  if flags &&& (0xFFFF - 0x808) ≠ 0 then
    throw (archiveError "unsupported_zip_flags" "unsupported ZIP flags" name)
  if method ∉ [0, 8] then
    throw (archiveError "unsupported_compression" "unsupported compression method" name)
  if maxFileBytes < uncompressedSize then
    throw (archiveError "file_too_large" "archive member exceeds 2 MiB" name)
  -- The quotient of the source is a float; with sizes like these it compares as the ratio does.
  if 65536 < uncompressedSize ∧ maxCompressionRatio * max compressedSize 1 < uncompressedSize then
    throw (archiveError "compression_ratio_exceeded" "compression ratio exceeds 100:1" name)
  if maxTotalUncompressedBytes < total + uncompressedSize then
    throw (archiveError "archive_uncompressed_too_large" "uncompressed archive exceeds 8 MiB" [])
  let extraStart := cursor + centralSize + nameLength
  let extra := archive.slice extraStart (extraStart + extraLength)
  let _ ← parseExtra extra rawName name flags
  let entry : CentralEntry := {
    versionMade, flags, method, crc, compressedSize, uncompressedSize, rawName, name, extra
    externalAttr, localOffset }
  return (entry, recordEnd)

/-- The loop over the central directory, with the uncompressed bytes before it. -/
def readCentral (archive : Bytes) (eocdOffset : ℕ) :
    ℕ → ℕ → ℕ → Except ArchiveError (List CentralEntry)
  | 0, cursor, _ =>
    if cursor ≠ eocdOffset then
      .error (archiveError "hidden_archive_data" "central directory contains hidden bytes" [])
    else .ok []
  | n + 1, cursor, total => do
    let (entry, next) ← centralEntry archive eocdOffset cursor total
    let entries ← readCentral archive eocdOffset n next (total + entry.uncompressedSize)
    return entry :: entries

def centralDirectory (archive : Bytes) : Except ArchiveError (EndRecord × List CentralEntry) := do
  let record ← endRecord archive
  let entries ← readCentral archive record.offset record.entryCount record.centralOffset 0
  return (record, entries)

/-! ## The local records -/

def invalidDirectoryEntry (name : PyStr) : ArchiveError :=
  archiveError "invalid_directory_entry"
    "directory entries must have zero sizes and CRC with no data descriptor" name

/-- What follows the data of an entry: nothing, or a descriptor.  The end of the record. -/
def dataDescriptor (archive : Bytes) (centralOffset : ℕ) (entry : CentralEntry) (name : PyStr)
    (dataEnd : ℕ) : Except ArchiveError ℕ :=
  if entry.flags &&& 0x08 = 0 then .ok dataEnd
  else do
    let localEnd :=
      if archive.slice dataEnd (dataEnd + 4) = [0x50, 0x4B, 0x07, 0x08] then dataEnd + 4
      else dataEnd
    if centralOffset < localEnd + descriptorSize then
      throw (archiveError "archive_header_mismatch" "truncated data descriptor" name)
    let descriptor := (archive.u32 localEnd, archive.u32 (localEnd + 4), archive.u32 (localEnd + 8))
    if descriptor ≠ (entry.crc, entry.compressedSize, entry.uncompressedSize) then
      throw (archiveError "archive_header_mismatch" "data descriptor mismatch" name)
    return localEnd + descriptorSize

structure LocalHeader where
  flags : ℕ
  method : ℕ
  crc : ℕ
  compressedSize : ℕ
  uncompressedSize : ℕ
  name : Bytes
  extra : Bytes
  dataStart : ℕ
  deriving DecidableEq

/-- The local header at `offset`, as far as the data. -/
def localHeader (archive : Bytes) (offset : ℕ) : LocalHeader :=
  let nameLength := archive.u16 (offset + 26)
  let extraLength := archive.u16 (offset + 28)
  let nameStart := offset + localSize
  let extraStart := nameStart + nameLength
  { flags := archive.u16 (offset + 6)
    method := archive.u16 (offset + 8)
    crc := archive.u32 (offset + 14)
    compressedSize := archive.u32 (offset + 18)
    uncompressedSize := archive.u32 (offset + 22)
    name := archive.slice nameStart (nameStart + nameLength)
    extra := archive.slice extraStart (extraStart + extraLength)
    dataStart := extraStart + extraLength }

/-- The checksum and the sizes of a local header. -/
def checkLocalValues (entry : CentralEntry) (header : LocalHeader) (name : PyStr) :
    Except ArchiveError Unit :=
  let localValues := (header.crc, header.compressedSize, header.uncompressedSize)
  let centralValues := (entry.crc, entry.compressedSize, entry.uncompressedSize)
  if entry.flags &&& 0x08 ≠ 0 then
    if localValues ∉ [(0, 0, 0), centralValues] then
      .error (archiveError "archive_header_mismatch" "invalid local descriptor placeholders" name)
    else .ok ()
  else if localValues ≠ centralValues then
    .error (archiveError "archive_header_mismatch" "central/local CRC or size mismatch" name)
  else .ok ()

/-- The local record of an entry: its data, and its end. -/
def localRecord (archive : Bytes) (centralOffset : ℕ) (entry : CentralEntry) (name : PyStr)
    (isDir : Bool) : Except ArchiveError (Bytes × ℕ) := do
  if centralOffset < entry.localOffset + localSize then
    throw (archiveError "archive_header_mismatch" "invalid local header offset" name)
  if archive.slice entry.localOffset (entry.localOffset + 4) ≠ [0x50, 0x4B, 0x03, 0x04] then
    throw (archiveError "archive_header_mismatch" "invalid local header signature" name)
  let header := localHeader archive entry.localOffset
  if isDir ∧ (header.method ≠ 0 ∨ header.crc ≠ 0 ∨ header.compressedSize ≠ 0 ∨
      header.uncompressedSize ≠ 0 ∨ header.flags &&& 0x08 ≠ 0) then
    throw (invalidDirectoryEntry name)
  if header.name ≠ entry.rawName then
    throw (archiveError "archive_header_mismatch" "central/local filename mismatch" name)
  let (localDecoded, localIsDir) ← decodeAndValidatePath header.name
  if localDecoded ≠ name ∨ localIsDir ≠ isDir then
    throw (archiveError "archive_header_mismatch" "central/local path mismatch" name)
  if header.flags ≠ entry.flags ∨ header.method ≠ entry.method then
    throw (archiveError "archive_header_mismatch" "central/local flags or method mismatch" name)
  let _ ← parseExtra header.extra header.name localDecoded header.flags
  if header.extra ≠ entry.extra then
    throw (archiveError "archive_header_mismatch" "central/local extra field mismatch" name)
  checkLocalValues entry header name
  let dataEnd := header.dataStart + entry.compressedSize
  if centralOffset < dataEnd then
    throw (archiveError "archive_header_mismatch" "compressed payload exceeds local area" name)
  let data ← inflate zlib entry (archive.slice header.dataStart dataEnd)
  let localEnd ← dataDescriptor archive centralOffset entry name dataEnd
  return (data, localEnd)

/-! ## The members -/

/-- What the loop over the members keeps; of `seen_folded` only the keys are looked at. -/
structure Scan where
  seen : List PyStr := []
  seenFolded : List PyStr := []
  roots : List PyStr := []
  members : List ArchiveMember := []
  spans : List (ℕ × ℕ) := []

/-- What precedes the first slash of a path, and what follows it. -/
def partition (identity : PyStr) : PyStr × PyStr :=
  (identity.takeWhile (· ≠ slash), (identity.dropWhile (· ≠ slash)).drop 1)

/-- One turn of the loop over the members. -/
def scanEntry (archive : Bytes) (centralOffset : ℕ) (scan : Scan) (entry : CentralEntry) :
    Except ArchiveError Scan := do
  let (name, isDir) ← decodeAndValidatePath entry.rawName
  entryType entry isDir
  if isDir ∧ (entry.method ≠ 0 ∨ entry.crc ≠ 0 ∨ entry.compressedSize ≠ 0 ∨
      entry.uncompressedSize ≠ 0 ∨ entry.flags &&& 0x08 ≠ 0) then
    throw (invalidDirectoryEntry name)
  let identity := identity name
  if identity ∈ scan.seen then
    throw (archiveError "duplicate_path" "duplicate archive member path" name)
  let folded := identity.lower
  if folded ∈ scan.seenFolded then
    throw (archiveError "case_collision" "ASCII case-colliding member paths" name)
  let (root, relative) := partition identity
  let roots := scan.roots.insert root
  if 1 < roots.length then
    throw (archiveError "unsafe_path" "archive must contain one pack root" name)
  let (data, localEnd) ← localRecord zlib archive centralOffset entry name isDir
  return {
    seen := identity :: scan.seen
    seenFolded := folded :: scan.seenFolded
    roots
    members := scan.members ++ [{ path := relative, data, isDir }]
    spans := scan.spans ++ [(entry.localOffset, localEnd)] }

/-- The order of pairs of numbers. -/
def spanLe (a b : ℕ × ℕ) : Prop := a.1 < b.1 ∨ (a.1 = b.1 ∧ a.2 ≤ b.2)

instance : DecidableRel spanLe := fun _ _ => inferInstanceAs (Decidable (_ ∨ _))

/-- The loop over the sorted spans; where they end. -/
def checkSpans : ℕ → List (ℕ × ℕ) → Except ArchiveError ℕ
  | expected, [] => .ok expected
  | expected, (start, stop) :: rest =>
    if start ≠ expected ∨ stop < start then
      .error (archiveError "hidden_archive_data" "local records contain gaps or overlaps" [])
    else checkSpans stop rest

/-- The paths above a path. -/
def parents (path : PyStr) : List PyStr :=
  let parts := path.split slash
  ((List.range' 1 (parts.length - 1)).map fun index => PyStr.join slash (parts.take index))

/-- `member.path.lower()` of the files. -/
def fileIdentities (members : List ArchiveMember) : List PyStr :=
  (members.filter fun member => !member.isDir).map fun member => member.path.lower

/-- The loop that looks for files that are directories of others. -/
def checkCollisions (members : List ArchiveMember) : Except ArchiveError Unit :=
  members.forM fun member =>
    if !member.isDir && (parents member.path.lower).any (· ∈ fileIdentities members) then
      .error (archiveError "case_collision" "file/directory path collision" member.path)
    else .ok ()

/-- `read_archive` of a file's contents; a file that cannot be read has none. -/
def readArchive (file : Option Bytes) : Except ArchiveError (List ArchiveMember) := do
  let archive ← readBounded file
  let (record, entries) ← centralDirectory archive
  let scan ← entries.foldlM (scanEntry zlib archive record.centralOffset) {}
  let localEnd ← checkSpans 0 (scan.spans.insertionSort spanLe)
  if localEnd ≠ record.centralOffset then
    throw (archiveError "hidden_archive_data" "hidden bytes precede the central directory" [])
  checkCollisions scan.members
  return scan.members

end GreenRoom.Persona
