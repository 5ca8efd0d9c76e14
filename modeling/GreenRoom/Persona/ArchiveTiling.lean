import GreenRoom.Lib.Tiling
import GreenRoom.Persona.ArchiveScan

/-!
# Exactly tiled archives

The end record, the central directory and the local records of an archive that is accepted
lie end to end: every byte belongs to exactly one of them.

## Main definitions

* `CentralAt` — what lies between two offsets is the central record of an entry.
* `Agrees` — a local header says what the central record says.
* `LocalAt` — what lies between two offsets is the local record of an entry.
* `Tiled` — an archive of such records, and nothing besides.

## Main results

* `exactly_tiled` — every archive that is accepted is tiled.
-/

namespace GreenRoom.Persona

/-! ## The records -/

/-- The archive ends with the end record. -/
structure EndsWith (archive : Bytes) (record : EndRecord) : Prop where
  signature : archive.slice record.offset (record.offset + 4) = [0x50, 0x4B, 0x05, 0x06]
  last : record.offset + eocdSize = archive.length
  entryCount : archive.u16 (record.offset + 10) = record.entryCount
  centralSize : record.centralOffset + archive.u32 (record.offset + 12) = record.offset
  centralOffset : archive.u32 (record.offset + 16) = record.centralOffset
  noComment : archive.u16 (record.offset + 20) = 0

/-- The central record of an entry lies between two offsets. -/
structure CentralAt (archive : Bytes) (entry : CentralEntry) (span : ℕ × ℕ) : Prop where
  signature : archive.slice span.1 (span.1 + 4) = [0x50, 0x4B, 0x01, 0x02]
  fields : entry.versionMade = archive.u16 (span.1 + 4) ∧ entry.flags = archive.u16 (span.1 + 8) ∧
    entry.method = archive.u16 (span.1 + 10) ∧ entry.crc = archive.u32 (span.1 + 16) ∧
    entry.compressedSize = archive.u32 (span.1 + 20) ∧
    entry.uncompressedSize = archive.u32 (span.1 + 24) ∧
    entry.externalAttr = archive.u32 (span.1 + 38) ∧ entry.localOffset = archive.u32 (span.1 + 42)
  rawName : entry.rawName =
    archive.slice (span.1 + centralSize) (span.1 + centralSize + archive.u16 (span.1 + 28))
  extra : entry.extra = archive.slice (span.1 + centralSize + archive.u16 (span.1 + 28))
    (span.1 + centralSize + archive.u16 (span.1 + 28) + archive.u16 (span.1 + 30))
  stop : span.2 = span.1 + centralSize + archive.u16 (span.1 + 28) + archive.u16 (span.1 + 30)

/-- The sizes, the ratio and the path of an entry are within the limits. -/
structure Bounded (entry : CentralEntry) : Prop where
  uncompressedSize : entry.uncompressedSize ≤ maxFileBytes
  ratio : 65536 < entry.uncompressedSize →
    entry.uncompressedSize ≤ maxCompressionRatio * max entry.compressedSize 1
  path : ValidPath entry.rawName

/-- The local header says what the central record says; a checksum and sizes that follow the
data may be left out. -/
structure Agrees (entry : CentralEntry) (header : LocalHeader) : Prop where
  name : header.name = entry.rawName
  extra : header.extra = entry.extra
  flags : header.flags = entry.flags
  method : header.method = entry.method
  values : (header.crc, header.compressedSize, header.uncompressedSize) =
      (entry.crc, entry.compressedSize, entry.uncompressedSize) ∨
    (entry.flags &&& 0x08 ≠ 0 ∧
      (header.crc, header.compressedSize, header.uncompressedSize) = (0, 0, 0))

/-- Where the record of an entry ends, whose data ends at `dataEnd`. -/
inductive EndsAt (archive : Bytes) (entry : CentralEntry) (dataEnd : ℕ) : ℕ → Prop
  | data : entry.flags &&& 0x08 = 0 → EndsAt archive entry dataEnd dataEnd
  | descriptor (start : ℕ) : entry.flags &&& 0x08 ≠ 0 →
      (start = dataEnd ∨
        (start = dataEnd + 4 ∧ archive.slice dataEnd (dataEnd + 4) = [0x50, 0x4B, 0x07, 0x08])) →
      (archive.u32 start, archive.u32 (start + 4), archive.u32 (start + 8)) =
        (entry.crc, entry.compressedSize, entry.uncompressedSize) →
      EndsAt archive entry dataEnd (start + descriptorSize)

/-- The payload of an entry, taken out. -/
inductive Extracts (zlib : Zlib) (entry : CentralEntry) (compressed : Bytes) : Bytes → Prop
  | stored : entry.method = 0 → Extracts zlib entry compressed compressed
  | deflated (data : Bytes) (inflater : zlib.Inflater) : entry.method = 8 →
      zlib.inflate compressed = some (data, inflater) → (zlib.state inflater).eof = true →
      (zlib.state inflater).unusedData = [] → (zlib.state inflater).unconsumedTail = [] →
      Extracts zlib entry compressed data

/-- The local record of an entry lies between two offsets, and its payload is the data of the
member. -/
structure LocalAt (zlib : Zlib) (archive : Bytes) (entry : CentralEntry) (member : ArchiveMember)
    (span : ℕ × ℕ) : Prop where
  start : entry.localOffset = span.1
  signature : archive.slice span.1 (span.1 + 4) = [0x50, 0x4B, 0x03, 0x04]
  agrees : Agrees entry (localHeader archive span.1)
  stop : EndsAt archive entry ((localHeader archive span.1).dataStart + entry.compressedSize) span.2
  data : Extracts zlib entry (archive.slice (localHeader archive span.1).dataStart
    ((localHeader archive span.1).dataStart + entry.compressedSize)) member.data
  length : member.data.length = entry.uncompressedSize
  crc : member.data.crc32 = entry.crc
  path : member.path = (partition (identity (PyStr.ofAscii entry.rawName))).2
  isDir : member.isDir = namesDirectory (PyStr.ofAscii entry.rawName)

/-- The archive is an end record, a central directory and local records, which lie end to end. -/
structure Tiled (zlib : Zlib) (archive : Bytes) (record : EndRecord) (entries : List CentralEntry)
    (centralSpans : List (ℕ × ℕ)) (results : List (ArchiveMember × ℕ × ℕ)) : Prop where
  endRecord : EndsWith archive record
  entryCount : entries.length = record.entryCount
  central : Tiles record.centralOffset centralSpans record.offset
  centralRecords : List.Forall₂ (CentralAt archive) entries centralSpans
  locals : ∃ spans, spans.Perm (results.map Prod.snd) ∧ Tiles 0 spans record.centralOffset
  once : ∀ n, (results.map Prod.snd).countP (fun span => Covers span n) =
    if n < record.centralOffset then 1 else 0
  localRecords : List.Forall₂ (fun entry result => LocalAt zlib archive entry result.1 result.2)
    entries results
  length : archive.length ≤ maxArchiveBytes
  count : entries.length ≤ maxEntries
  bounded : ∀ entry ∈ entries, Bounded entry
  total : (entries.map CentralEntry.uncompressedSize).sum ≤ maxTotalUncompressedBytes
  oneRoot : ∀ entry ∈ entries, ∀ entry' ∈ entries, entry.root = entry'.root

/-! ## The end record -/

theorem rfind_some {bytes pattern : Bytes} {start i : ℕ} (h : bytes.rfind pattern start = some i) :
    start ≤ i ∧ bytes.slice i (i + pattern.length) = pattern := by
  have hfound := List.find?_some h
  simp only [Bool.and_eq_true, decide_eq_true_eq, List.isPrefixOf_iff_prefix] at hfound
  obtain ⟨⟨hstart, -⟩, hprefix⟩ := hfound
  refine ⟨hstart, ?_⟩
  rw [Bytes.slice, Nat.add_sub_cancel_left]
  exact (List.prefix_iff_eq_take.mp hprefix).symm

theorem endRecord_ok {archive : Bytes} {record : EndRecord} (h : endRecord archive = .ok record) :
    EndsWith archive record ∧ record.entryCount ≤ maxEntries := by
  unfold endRecord at h
  rw [Except.ite_throw_bind] at h
  obtain ⟨-, h⟩ := h
  split at h
  · cases h
  · next offset hfound =>
      simp only [Except.ite_throw_bind, pure, Except.pure, Except.ok.injEq] at h
      obtain ⟨-, hlast, -, hentries, -, hcentral, rfl⟩ := h
      rw [not_or, not_not, not_not] at hlast
      refine ⟨⟨(rfind_some hfound).2, ?_, rfl, not_not.mp hcentral, rfl, hlast.2⟩,
        not_lt.mp hentries⟩
      have hend := hlast.1
      rw [hlast.2] at hend
      exact hend

/-! ## The central directory -/

theorem centralEntry_ok {archive : Bytes} {eocdOffset cursor total next : ℕ} {entry : CentralEntry}
    (h : centralEntry archive eocdOffset cursor total = .ok (entry, next)) :
    CentralAt archive entry (cursor, next) ∧ Bounded entry ∧
      total + entry.uncompressedSize ≤ maxTotalUncompressedBytes := by
  unfold centralEntry at h
  simp only [Except.bind_eq_ok, Except.ite_throw_bind, pure, Except.pure, Except.ok.injEq,
    Prod.mk.injEq] at h
  obtain ⟨-, hsignature, -, ⟨name, isDir⟩, hpath, hcomment, -, -, -, hsize, hratio, htotal, -,
    -, rfl, rfl⟩ := h
  rw [not_or, not_not, not_not] at hcomment
  refine ⟨⟨not_not.mp hsignature, ⟨rfl, rfl, rfl, rfl, rfl, rfl, rfl, rfl⟩, rfl, rfl, ?_⟩,
    ⟨not_lt.mp hsize, fun hlarge => ?_, (decodeAndValidatePath_ok hpath).1⟩, not_lt.mp htotal⟩
  · show _ + archive.u16 (cursor + 32) = _
    rw [hcomment.1, Nat.add_zero]
  · exact not_lt.mp fun hlt => hratio ⟨hlarge, hlt⟩

theorem readCentral_ok {archive : Bytes} {eocdOffset n cursor total : ℕ}
    {entries : List CentralEntry}
    (h : readCentral archive eocdOffset n cursor total = .ok entries) :
    ∃ spans, Tiles cursor spans eocdOffset ∧ List.Forall₂ (CentralAt archive) entries spans ∧
      entries.length = n ∧ (∀ entry ∈ entries, Bounded entry) ∧
      (total ≤ maxTotalUncompressedBytes →
        total + (entries.map CentralEntry.uncompressedSize).sum ≤ maxTotalUncompressedBytes) := by
  induction n generalizing cursor total entries with
  | zero =>
      simp only [readCentral] at h
      split at h
      · cases h
      · next hcursor =>
          obtain rfl := not_not.mp hcursor
          obtain rfl := Except.ok.inj h
          exact ⟨[], .nil _, .nil, rfl, by rintro _ ⟨⟩, fun htotal => htotal⟩
  | succ n ih =>
      simp only [readCentral, Except.bind_eq_ok, pure, Except.pure, Except.ok.injEq] at h
      obtain ⟨⟨entry, next⟩, hentry, rest, hrest, rfl⟩ := h
      obtain ⟨hcentral, hbounded, htotal⟩ := centralEntry_ok hentry
      obtain ⟨spans, htiles, hrecords, hlength, hall, hsum⟩ := ih hrest
      have hle : cursor ≤ next := by
        have hstop := hcentral.stop
        change next = _ at hstop
        omega
      refine ⟨(cursor, next) :: spans, .cons hle htiles, .cons hcentral hrecords, ?_, ?_,
        fun _ => ?_⟩
      · rw [List.length_cons, hlength]
      · exact List.forall_mem_cons.mpr ⟨hbounded, hall⟩
      · rw [List.map_cons, List.sum_cons, ← Nat.add_assoc]
        exact hsum htotal

/-! ## The local records -/

theorem payload_ok {zlib : Zlib} {entry : CentralEntry} {compressed data : Bytes}
    (h : payload zlib entry compressed = .ok data) : Extracts zlib entry compressed data := by
  simp only [payload] at h
  split at h
  · next hstored =>
      obtain rfl := Except.ok.inj h
      exact .stored hstored
  · split at h
    · next hdeflated =>
        split at h
        · cases h
        · next inflated inflater hinflate =>
            split at h
            · cases h
            · next hstate =>
                obtain rfl := Except.ok.inj h
                simp only [Bool.or_eq_true, Bool.not_eq_true', decide_eq_true_eq, not_or, not_not,
                  Bool.not_eq_false] at hstate
                exact .deflated _ _ hdeflated hinflate hstate.1.1 hstate.1.2 hstate.2
    · cases h

theorem inflate_ok {zlib : Zlib} {entry : CentralEntry} {compressed data : Bytes}
    (h : inflate zlib entry compressed = .ok data) :
    Extracts zlib entry compressed data ∧ data.length = entry.uncompressedSize ∧
      data.crc32 = entry.crc := by
  unfold inflate at h
  simp only [Except.bind_eq_ok, Except.ite_throw_bind, pure, Except.pure, Except.ok.injEq] at h
  obtain ⟨_, hpayload, hlength, hcrc, rfl⟩ := h
  exact ⟨payload_ok hpayload, not_not.mp hlength, not_not.mp hcrc⟩

theorem checkLocalValues_ok {entry : CentralEntry} {header : LocalHeader} {name : PyStr}
    (h : checkLocalValues entry header name = .ok ()) :
    (header.crc, header.compressedSize, header.uncompressedSize) =
        (entry.crc, entry.compressedSize, entry.uncompressedSize) ∨
      (entry.flags &&& 0x08 ≠ 0 ∧
        (header.crc, header.compressedSize, header.uncompressedSize) = (0, 0, 0)) := by
  simp only [checkLocalValues] at h
  split at h
  · next hdescriptor =>
      split at h
      · cases h
      · next hmem =>
          rcases List.mem_cons.mp (not_not.mp hmem) with hzero | hcentral
          · exact .inr ⟨hdescriptor, hzero⟩
          · exact .inl (List.mem_singleton.mp hcentral)
  · split at h
    · cases h
    · next heq => exact .inl (not_not.mp heq)

theorem dataDescriptor_ok {archive : Bytes} {centralOffset : ℕ} {entry : CentralEntry}
    {name : PyStr} {dataEnd stop : ℕ}
    (h : dataDescriptor archive centralOffset entry name dataEnd = .ok stop) :
    EndsAt archive entry dataEnd stop := by
  unfold dataDescriptor at h
  split at h
  · next hnone =>
      obtain rfl := Except.ok.inj h
      exact .data hnone
  · next hsome =>
      simp only [Except.ite_throw_bind, pure, Except.pure, Except.ok.injEq] at h
      obtain ⟨-, hvalues, rfl⟩ := h
      refine .descriptor _ hsome ?_ (not_not.mp hvalues)
      split
      · next hsignature => exact .inr ⟨rfl, hsignature⟩
      · exact .inl rfl

theorem Scanned.localAt {zlib : Zlib} {archive : Bytes} {centralOffset : ℕ} {entry : CentralEntry}
    {member : ArchiveMember} {span : ℕ × ℕ}
    (h : Scanned zlib archive centralOffset entry member span) :
    LocalAt zlib archive entry member span := by
  have hrecord := h.record
  unfold localRecord at hrecord
  simp only [Except.bind_eq_ok, Except.ite_throw_bind, pure, Except.pure, Except.ok.injEq,
    Prod.mk.injEq] at hrecord
  rw [← h.start] at hrecord
  obtain ⟨-, hsignature, -, hname, -, -, -, hsame, -, -, hextra, _, hvalues, -, data, hdata, stop,
    hstop, rfl, rfl⟩ := hrecord
  rw [not_or, not_not, not_not] at hsame
  obtain ⟨hextracts, hlength, hcrc⟩ := inflate_ok hdata
  exact {
    start := h.start.symm
    signature := not_not.mp hsignature
    agrees := ⟨not_not.mp hname, not_not.mp hextra, hsame.1, hsame.2, checkLocalValues_ok hvalues⟩
    stop := dataDescriptor_ok hstop
    data := hextracts
    length := hlength
    crc := hcrc
    path := h.memberPath
    isDir := h.isDir }

theorem checkSpans_ok {spans : List (ℕ × ℕ)} {start stop : ℕ}
    (h : checkSpans start spans = .ok stop) : Tiles start spans stop := by
  induction spans generalizing start with
  | nil =>
      obtain rfl := Except.ok.inj h
      exact .nil _
  | cons span spans ih =>
      obtain ⟨first, last⟩ := span
      simp only [checkSpans] at h
      split at h
      · cases h
      · next hspan =>
          rw [not_or, not_not, not_lt] at hspan
          obtain ⟨rfl, hle⟩ := hspan
          exact .cons hle (ih h)

/-- **Accepted archives are exactly tiled.** -/
theorem exactly_tiled {zlib : Zlib} {archive : Bytes} {members : List ArchiveMember}
    (h : readArchive zlib (some archive) = .ok members) :
    ∃ record entries centralSpans results, members = results.map Prod.fst ∧
      Tiled zlib archive record entries centralSpans results := by
  obtain ⟨_, record, entries, results, heq, haccepted⟩ := readArchive_accepted h
  obtain rfl := Option.some.inj heq
  have hdirectory := haccepted.directory
  simp only [centralDirectory, Except.bind_eq_ok, pure, Except.pure, Except.ok.injEq,
    Prod.mk.injEq] at hdirectory
  obtain ⟨_, hrecord, _, hentries, rfl, rfl⟩ := hdirectory
  obtain ⟨hends, hcount⟩ := endRecord_ok hrecord
  obtain ⟨centralSpans, hcentral, hrecords, hlength, hbounded, htotal⟩ := readCentral_ok hentries
  have hperm := List.perm_insertionSort spanLe (results.map Prod.snd)
  have hlocals := checkSpans_ok haccepted.spans
  refine ⟨_, _, centralSpans, results, haccepted.found, {
    endRecord := hends
    entryCount := hlength
    central := hcentral
    centralRecords := hrecords
    locals := ⟨_, hperm, hlocals⟩
    once := fun n => ?_
    localRecords := haccepted.scanned.imp fun _ _ hscanned => hscanned.localAt
    length := haccepted.length
    count := hlength ▸ hcount
    bounded := hbounded
    total := ?_
    oneRoot := haccepted.oneRoot }⟩
  · rw [← hperm.countP_eq, hlocals.countP_covers]
    simp only [Nat.zero_le, true_and]
  · have hsum := htotal (Nat.zero_le _)
    rwa [Nat.zero_add] at hsum

theorem exactly_tiled_stored : ∃ record entries centralSpans results,
    [⟨PyStr.ofString "assets", [], true⟩, ⟨PyStr.ofString "assets/a", ascii "Hello", false⟩] =
        results.map Prod.fst ∧
      Tiled stored treeArchive record entries centralSpans results :=
  exactly_tiled treeArchive_read

end GreenRoom.Persona
