import GreenRoom.Lib.ByteReader
import GreenRoom.Lib.Checks
import GreenRoom.Persona.Archive

/-!
# What an archive that is accepted has passed

Each function of the reader throws at the first check that fails, so what it returns has passed
all of them.

## Main definitions

* `ValidPath` — the name of a member.
* `Scanned` — an entry of the central directory, the member it gives and the bytes of its record.
* `Accepted` — all that the reader has found in an archive.
* `storedArchive` — an archive of members that are not compressed.

## Main results

* `readArchive_accepted` — an archive that is accepted has passed all checks.
-/

namespace GreenRoom.Persona

/-! ## Paths -/

/-- A raw name that is the path of a member. -/
structure ValidPath (rawName : Bytes) : Prop where
  length : rawName.length ≤ maxPathBytes
  noBackslash : 0x5C ∉ rawName
  ascii : ∀ byte ∈ rawName, byte ≤ 0x7F
  relative : (identity (PyStr.ofAscii rawName)).head? ≠ some slash
  nonempty : identity (PyStr.ofAscii rawName) ≠ []
  noDots : ∀ segment ∈ (identity (PyStr.ofAscii rawName)).split slash,
    segment ∉ [[], PyStr.ofString ".", PyStr.ofString ".."]
  segments : ∀ segment ∈ (identity (PyStr.ofAscii rawName)).split slash,
    segment.length ≤ maxPathSegmentBytes ∧ isSegment segment = true
  rooted : namesDirectory (PyStr.ofAscii rawName) = false →
    2 ≤ ((identity (PyStr.ofAscii rawName)).split slash).length

theorem decodeAndValidatePath_ok {rawName : Bytes} {name : PyStr} {isDir : Bool}
    (h : decodeAndValidatePath rawName = .ok (name, isDir)) :
    ValidPath rawName ∧ name = PyStr.ofAscii rawName ∧ isDir = namesDirectory name := by
  unfold decodeAndValidatePath at h
  simp only [Except.ite_throw_bind, pure, Except.pure, Except.ok.injEq] at h
  obtain ⟨-, hlength, hbackslash, hascii, hidentity, hdots, hsegments, hrooted, hname⟩ := h
  obtain ⟨rfl, rfl⟩ := Prod.mk.inj hname
  rw [not_or] at hidentity
  simp only [List.any_eq_true, decide_eq_true_eq, not_exists, not_and] at hascii hdots
  simp only [List.any_eq_true, Bool.or_eq_true, decide_eq_true_eq, Bool.not_eq_true',
    not_exists, not_and, not_or, not_lt, Bool.not_eq_false] at hsegments
  refine ⟨⟨not_lt.mp hlength, hbackslash, fun byte hbyte => ?_, hidentity.1, hidentity.2, hdots,
    hsegments, fun hfile => ?_⟩, rfl, rfl⟩
  · exact UInt8.not_lt.mp (hascii byte hbyte)
  · rw [hfile] at hrooted
    exact not_lt.mp fun hlt => hrooted ⟨hlt, nofun⟩

/-! ## Entries -/

/-- The entry has been read: its name, its type, and its local record, which is `span`. -/
structure Scanned (zlib : Zlib) (archive : Bytes) (centralOffset : ℕ) (entry : CentralEntry)
    (member : ArchiveMember) (span : ℕ × ℕ) : Prop where
  path : ValidPath entry.rawName
  memberPath : member.path = (partition (identity (PyStr.ofAscii entry.rawName))).2
  isDir : member.isDir = namesDirectory (PyStr.ofAscii entry.rawName)
  type : entryType entry member.isDir = .ok ()
  directory : member.isDir = true → entry.method = 0 ∧ entry.crc = 0 ∧ entry.compressedSize = 0 ∧
    entry.uncompressedSize = 0 ∧ entry.flags &&& 0x08 = 0
  start : span.1 = entry.localOffset
  record : localRecord zlib archive centralOffset entry (PyStr.ofAscii entry.rawName) member.isDir =
    .ok (member.data, span.2)

/-- The path of an entry, without the slash of a directory, in lower case. -/
def CentralEntry.folded (entry : CentralEntry) : PyStr :=
  (identity (PyStr.ofAscii entry.rawName)).lower

/-- The first segment of the path of an entry. -/
def CentralEntry.root (entry : CentralEntry) : PyStr :=
  (partition (identity (PyStr.ofAscii entry.rawName))).1

section

variable {zlib : Zlib} {archive : Bytes} {centralOffset : ℕ}

theorem scanEntry_ok {scan scan' : Scan} {entry : CentralEntry}
    (h : scanEntry zlib archive centralOffset scan entry = .ok scan') :
    ∃ member span, Scanned zlib archive centralOffset entry member span ∧
      entry.folded ∉ scan.seenFolded ∧ (List.insert entry.root scan.roots).length ≤ 1 ∧
      scan' = {
        seen := identity (PyStr.ofAscii entry.rawName) :: scan.seen
        seenFolded := entry.folded :: scan.seenFolded
        roots := List.insert entry.root scan.roots
        members := scan.members ++ [member]
        spans := scan.spans ++ [span] } := by
  unfold scanEntry at h
  simp only [Except.bind_eq_ok, Except.ite_throw_bind, pure, Except.pure, Except.ok.injEq] at h
  obtain ⟨⟨name, isDir⟩, hpath, _, htype, hdirectory, -, hfolded, hroots, ⟨data, localEnd⟩, hrecord,
    rfl⟩ := h
  obtain ⟨hvalid, rfl, rfl⟩ := decodeAndValidatePath_ok hpath
  refine ⟨{
      path := (partition (identity (PyStr.ofAscii entry.rawName))).2
      data, isDir := namesDirectory (PyStr.ofAscii entry.rawName) },
    (entry.localOffset, localEnd), ⟨hvalid, rfl, rfl, htype, fun hdir => ?_, rfl, hrecord⟩, hfolded,
    not_lt.mp hroots, rfl⟩
  simp only [not_and, not_or, not_not] at hdirectory
  exact hdirectory hdir

/-- The loop over the members has read each of the entries. -/
structure ScannedAll (zlib : Zlib) (archive : Bytes) (centralOffset : ℕ) (scan : Scan)
    (entries : List CentralEntry) (results : List (ArchiveMember × ℕ × ℕ)) (scan' : Scan) :
    Prop where
  scanned : List.Forall₂ (fun entry result =>
    Scanned zlib archive centralOffset entry result.1 result.2) entries results
  members : scan'.members = scan.members ++ results.map Prod.fst
  spans : scan'.spans = scan.spans ++ results.map Prod.snd
  folded : scan.seenFolded.Nodup →
    scan'.seenFolded = (entries.map CentralEntry.folded).reverse ++ scan.seenFolded ∧
      scan'.seenFolded.Nodup
  roots : scan.roots.length ≤ 1 → scan'.roots.length ≤ 1 ∧ scan.roots ⊆ scan'.roots ∧
    ∀ entry ∈ entries, entry.root ∈ scan'.roots

theorem scan_ok {entries : List CentralEntry} {scan scan' : Scan}
    (h : entries.foldlM (scanEntry zlib archive centralOffset) scan = .ok scan') :
    ∃ results, ScannedAll zlib archive centralOffset scan entries results scan' := by
  induction entries generalizing scan with
  | nil =>
      obtain rfl := Except.ok.inj h
      refine ⟨[], .nil, ?_, ?_, fun hnodup => ⟨rfl, hnodup⟩, fun hroots => ⟨hroots, ?_, ?_⟩⟩
      · rw [List.map_nil, List.append_nil]
      · rw [List.map_nil, List.append_nil]
      · exact List.Subset.refl _
      · rintro _ ⟨⟩
  | cons entry entries ih =>
      rw [List.foldlM_cons] at h
      obtain ⟨next, hnext, h⟩ := Except.bind_eq_ok.mp h
      obtain ⟨member, span, hscanned, hnew, hone, rfl⟩ := scanEntry_ok hnext
      obtain ⟨results, hall⟩ := ih h
      refine ⟨(member, span) :: results, .cons hscanned hall.scanned, ?_, ?_, fun hnodup => ?_,
        fun hroots => ?_⟩
      · rw [hall.members, List.map_cons, List.append_assoc, List.singleton_append]
      · rw [hall.spans, List.map_cons, List.append_assoc, List.singleton_append]
      · obtain ⟨hfolded, hnodup'⟩ := hall.folded (List.nodup_cons.mpr ⟨hnew, hnodup⟩)
        refine ⟨?_, hnodup'⟩
        rw [hfolded, List.map_cons, List.reverse_cons, List.append_assoc, List.singleton_append]
      · obtain ⟨hone', hsubset, hmem⟩ := hall.roots hone
        refine ⟨hone', fun root hroot => hsubset (List.mem_insert_of_mem hroot), ?_⟩
        intro e he
        rcases List.mem_cons.mp he with rfl | he
        · exact hsubset List.mem_insert_self
        · exact hmem e he

end

/-! ## The archive -/

/-- All that the reader has found in an archive that it accepts. -/
structure Accepted (zlib : Zlib) (archive : Bytes) (members : List ArchiveMember)
    (record : EndRecord) (entries : List CentralEntry) (results : List (ArchiveMember × ℕ × ℕ)) :
    Prop where
  length : archive.length ≤ maxArchiveBytes
  directory : centralDirectory archive = .ok (record, entries)
  scanned : List.Forall₂ (fun entry result =>
    Scanned zlib archive record.centralOffset entry result.1 result.2) entries results
  found : members = results.map Prod.fst
  folded : (entries.map CentralEntry.folded).Nodup
  oneRoot : ∀ entry ∈ entries, ∀ entry' ∈ entries, entry.root = entry'.root
  spans : checkSpans 0 ((results.map Prod.snd).insertionSort spanLe) = .ok record.centralOffset
  collisions : checkCollisions members = .ok ()

theorem readBounded_ok {file : Option Bytes} {archive : Bytes}
    (h : readBounded file = .ok archive) :
    file = some archive ∧ archive.length ≤ maxArchiveBytes := by
  cases file with
  | none => cases h
  | some contents =>
      simp only [readBounded] at h
      split at h
      · cases h
      · next hlength =>
          have htake : contents.take (maxArchiveBytes + 1) = contents := by
            rw [not_lt, List.length_take] at hlength
            exact List.take_of_length_le (by omega)
          rw [htake] at h hlength
          obtain rfl := Except.ok.inj h
          exact ⟨rfl, not_lt.mp hlength⟩

theorem readArchive_accepted {zlib : Zlib} {file : Option Bytes} {members : List ArchiveMember}
    (h : readArchive zlib file = .ok members) :
    ∃ archive record entries results, file = some archive ∧
      Accepted zlib archive members record entries results := by
  unfold readArchive at h
  simp only [Except.bind_eq_ok, Except.ite_throw_bind, pure, Except.pure, Except.ok.injEq] at h
  obtain ⟨archive, hbounded, ⟨record, entries⟩, hdirectory, scan, hscan, localEnd, hspans, hend,
    _, hcollisions, rfl⟩ := h
  obtain ⟨rfl, hlength⟩ := readBounded_ok hbounded
  obtain ⟨results, hall⟩ := scan_ok hscan
  obtain ⟨hfolded, hnodup⟩ := hall.folded List.nodup_nil
  obtain ⟨hone, -, hroots⟩ := hall.roots (Nat.zero_le _)
  refine ⟨archive, record, entries, results, rfl, hlength, hdirectory, hall.scanned,
    hall.members, ?_, fun entry hentry entry' hentry' => ?_, ?_, hcollisions⟩
  · rw [hfolded, List.append_nil, List.nodup_reverse] at hnodup
    exact hnodup
  · have hmem := hroots entry hentry
    have hmem' := hroots entry' hentry'
    match scan.roots, hone, hmem, hmem' with
    | [root], _, hmem, hmem' => rw [List.mem_singleton.mp hmem, List.mem_singleton.mp hmem']
  · have hspans' := hall.spans
    rw [List.nil_append] at hspans'
    rw [← hspans', hspans, not_not.mp hend]

/-! ## Stored archives -/

/-- A member that is stored as it is. -/
structure StoredMember where
  name : Bytes
  attributes : ℕ
  data : Bytes := []

/-- The bytes an entry of the central directory and a local record share. -/
def StoredMember.header (member : StoredMember) : Bytes :=
  Bytes.ofNat 2 20 ++ Bytes.ofNat 8 0 ++ Bytes.ofNat 4 member.data.crc32 ++
    Bytes.ofNat 4 member.data.length ++ Bytes.ofNat 4 member.data.length ++
    Bytes.ofNat 2 member.name.length

/-- An archive of members that are not compressed. -/
def storedArchive (members : List StoredMember) : Bytes :=
  let localRecords := members.map fun member =>
    [0x50, 0x4B, 0x03, 0x04] ++ member.header ++ Bytes.ofNat 2 0 ++ member.name ++ member.data
  let offsets := (localRecords.map List.length).scanl (· + ·) 0
  let centralRecords := (members.zip offsets).map fun (member, offset) =>
    [0x50, 0x4B, 0x01, 0x02] ++ Bytes.ofNat 2 0x0314 ++ member.header ++ Bytes.ofNat 8 0 ++
      Bytes.ofNat 4 member.attributes ++ Bytes.ofNat 4 offset ++ member.name
  localRecords.flatten ++ centralRecords.flatten ++ [0x50, 0x4B, 0x05, 0x06] ++ Bytes.ofNat 4 0 ++
    Bytes.ofNat 2 members.length ++ Bytes.ofNat 2 members.length ++
    Bytes.ofNat 4 centralRecords.flatten.length ++ Bytes.ofNat 4 localRecords.flatten.length ++
    Bytes.ofNat 2 0

def regularFile : ℕ := 0o100644 * 0x10000

def directory : ℕ := 0o040755 * 0x10000 + 0x10

/-- The bytes of a text in ASCII. -/
def ascii (text : String) : Bytes := text.toList.map fun c => UInt8.ofNat c.toNat

/-- No payload is compressed. -/
def stored : Zlib where
  Inflater := Unit
  decompress _ _ := none
  flush _ _ := none
  state _ := { eof := true, unusedData := [], unconsumedTail := [] }

def treeArchive : Bytes :=
  storedArchive [{ name := ascii "pack/assets/", attributes := directory },
    { name := ascii "pack/assets/a", attributes := regularFile, data := ascii "Hello" }]

theorem treeArchive_read : readArchive stored (some treeArchive) =
    .ok [⟨PyStr.ofString "assets", [], true⟩,
      ⟨PyStr.ofString "assets/a", ascii "Hello", false⟩] := by
  decide +kernel

end GreenRoom.Persona
