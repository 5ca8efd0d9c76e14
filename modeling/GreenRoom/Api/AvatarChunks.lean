import GreenRoom.Api.Avatar

/-!
# What is kept of an avatar

A picture that is accepted is a list of chunks, one of which is the picture.  What is stored
is a file of that chunk alone, and it is stored as it is when it is posted again.

## Main definitions

* `Chunk`, `riff` — a chunk, and a file of chunks.
* `IsPicture` — a frame of the size of an avatar.

## Main results

* `walk_ok` — the loop ends and reads only the buffer.
* `walk_some` — what the loop has walked over.
* `canonicalWebp_riff` — the file of one picture is stored as it is.
* `avatar_canonical`
-/

namespace GreenRoom.Api.Avatar

open JsString Bytes

/-! ## Files -/

/-- A chunk, with the byte after data of an odd length. -/
structure Chunk where
  kind : Bytes
  data : Bytes
  padding : Bytes
  length_kind : kind.length = 4
  length_data : data.length < 2 ^ 32
  length_padding : padding.length = data.length % 2

def Chunk.bytes (chunk : Chunk) : Bytes :=
  chunk.kind ++ (ofNat 4 chunk.data.length ++ (chunk.data ++ chunk.padding))

theorem Chunk.length_bytes (chunk : Chunk) :
    chunk.bytes.length = 8 + chunk.data.length + chunk.data.length % 2 := by
  simp only [Chunk.bytes, List.length_append, chunk.length_kind, length_ofNat,
    chunk.length_padding]
  omega

def Chunk.isFrame (chunk : Chunk) : Bool := asciiText chunk.kind = ofString "VP8 "

/-- The pictures among the chunks. -/
def frames (chunks : List Chunk) : List Bytes := (chunks.filter Chunk.isFrame).map Chunk.data

def riff (chunks : List Chunk) : Bytes :=
  asciiBytes "RIFF" ++ ofNat 4 (4 + (chunks.flatMap Chunk.bytes).length) ++ asciiBytes "WEBP" ++
    chunks.flatMap Chunk.bytes

/-- A key frame of 256 by 256 pixels. -/
structure IsPicture (payload : Bytes) : Prop where
  ten_le : 10 ≤ payload.length
  startCode : payload.slice 3 6 = [0x9d, 0x01, 0x2a]
  width : littleEndian (payload.slice 6 8) &&& 0x3fff = avatarEdge
  height : littleEndian (payload.slice 8 10) &&& 0x3fff = avatarEdge

instance (payload : Bytes) : Decidable (IsPicture payload) :=
  decidable_of_iff (10 ≤ payload.length ∧ payload.slice 3 6 = [0x9d, 0x01, 0x2a] ∧
      littleEndian (payload.slice 6 8) &&& 0x3fff = avatarEdge ∧
      littleEndian (payload.slice 8 10) &&& 0x3fff = avatarEdge)
    ⟨fun ⟨hten, hcode, hwidth, hheight⟩ => ⟨hten, hcode, hwidth, hheight⟩,
      fun h => ⟨h.ten_le, h.startCode, h.width, h.height⟩⟩

/-! ## Reads at a chunk -/

section Chunk

variable {bytes rest : Bytes} {offset : ℕ} {chunk : Chunk}

theorem length_of_drop (h : bytes.drop offset = chunk.bytes ++ rest) :
    bytes.length = offset + chunk.bytes.length + rest.length := by
  have hlength := congrArg List.length h
  have hchunk := chunk.length_bytes
  rw [List.length_drop, List.length_append] at hlength
  omega

theorem slice_kind (h : bytes.drop offset = chunk.bytes ++ rest) :
    bytes.slice offset (offset + 4) = chunk.kind := by
  have hslice := slice_append [] chunk.kind
    (ofNat 4 chunk.data.length ++ (chunk.data ++ chunk.padding) ++ rest)
  rw [chunk.length_kind] at hslice
  have hdrop := slice_drop bytes offset 0 4
  rw [h, Chunk.bytes, List.append_assoc] at hdrop
  exact hdrop.symm.trans hslice

theorem slice_length (h : bytes.drop offset = chunk.bytes ++ rest) :
    littleEndian (bytes.slice (offset + 4) (offset + 4 + 4)) = chunk.data.length := by
  have hslice := slice_append chunk.kind (ofNat 4 chunk.data.length)
    (chunk.data ++ chunk.padding ++ rest)
  rw [chunk.length_kind, length_ofNat] at hslice
  have hdrop := slice_drop bytes offset 4 (4 + 4)
  rw [h, Chunk.bytes, List.append_assoc, List.append_assoc] at hdrop
  rw [Nat.add_assoc, ← hdrop, hslice]
  exact littleEndian_ofNat chunk.length_data

theorem slice_data (h : bytes.drop offset = chunk.bytes ++ rest) :
    bytes.slice (offset + 8) (offset + 8 + chunk.data.length) = chunk.data := by
  have hslice := slice_append (chunk.kind ++ ofNat 4 chunk.data.length) chunk.data
    (chunk.padding ++ rest)
  rw [List.length_append, chunk.length_kind, length_ofNat] at hslice
  have hdrop := slice_drop bytes offset 8 (8 + chunk.data.length)
  rw [h, Chunk.bytes] at hdrop
  rw [Nat.add_assoc, ← hdrop]
  simpa only [List.append_assoc] using hslice

end Chunk

/-- The chunk that is read at an offset. -/
def chunkAt (bytes : Bytes) (offset length : ℕ)
    (hlength : littleEndian (bytes.slice (offset + 4) (offset + 4 + 4)) = length)
    (hnext : offset + 8 + length + length % 2 ≤ bytes.length) : Chunk where
  kind := bytes.slice offset (offset + 4)
  data := bytes.slice (offset + 8) (offset + 8 + length)
  padding := bytes.slice (offset + 8 + length) (offset + 8 + length + length % 2)
  length_kind := by
    rw [Bytes.length_slice (by omega)]
    omega
  length_data := by
    have hlt := littleEndian_lt (bytes.slice (offset + 4) (offset + 4 + 4))
    rw [Bytes.length_slice (by omega), hlength, Nat.add_sub_cancel_left] at hlt
    rw [Bytes.length_slice (by omega), Nat.add_sub_cancel_left]
    exact hlt
  length_padding := by
    rw [Bytes.length_slice hnext, Bytes.length_slice (by omega)]
    omega

theorem drop_chunkAt (bytes : Bytes) (offset length : ℕ)
    (hlength : littleEndian (bytes.slice (offset + 4) (offset + 4 + 4)) = length)
    (hnext : offset + 8 + length + length % 2 ≤ bytes.length) :
    bytes.drop offset = (chunkAt bytes offset length hlength hnext).bytes ++
      bytes.drop (offset + 8 + length + length % 2) := by
  have hwidth : (bytes.slice (offset + 4) (offset + 4 + 4)).length = 4 := by
    rw [Bytes.length_slice (by omega)]
    omega
  have hsize : (bytes.slice (offset + 8) (offset + 8 + length)).length = length := by
    rw [Bytes.length_slice (by omega)]
    omega
  have hnumber : ofNat 4 length = bytes.slice (offset + 4) (offset + 4 + 4) := by
    have hread := ofNat_littleEndian (bytes.slice (offset + 4) (offset + 4 + 4))
    rwa [hwidth, hlength] at hread
  rw [drop_eq_slice_append bytes (show offset ≤ offset + 4 by omega),
    drop_eq_slice_append bytes (show offset + 4 ≤ offset + 4 + 4 by omega),
    drop_eq_slice_append bytes (show offset + 4 + 4 ≤ offset + 8 + length by omega),
    drop_eq_slice_append bytes
      (show offset + 8 + length ≤ offset + 8 + length + length % 2 by omega)]
  simp only [Chunk.bytes, chunkAt, hsize, hnumber, List.append_assoc]

/-! ## The checks of a chunk -/

theorem extendedValid_ok {bytes : Bytes} {offset length : ℕ} (extended : Bool)
    (h : offset + 8 + length ≤ bytes.length) :
    ∃ valid, extendedValid bytes offset length extended = .ok valid := by
  rw [extendedValid]
  split
  · exact ⟨_, rfl⟩
  · next hguard =>
      have hlength : length = 10 := by
        by_contra hne
        exact hguard (.inr (.inl hne))
      rw [readUInt_ok (by omega), readUInt_ok (by omega), readUInt_ok (by omega)]
      simp only [Except.bind, Except.map]
      split
      · exact ⟨_, rfl⟩
      · split
        · exact ⟨_, rfl⟩
        · exact ⟨_, rfl⟩

theorem littleEndian_singleton (b : UInt8) : littleEndian [b] = b.toNat := by
  rw [littleEndian, littleEndian]
  omega

theorem startCode_iff {payload : Bytes} (h : 10 ≤ payload.length) :
    payload.slice 3 6 = [0x9d, 0x01, 0x2a] ↔
      littleEndian (payload.slice 3 (3 + 1)) = 0x9d ∧
        littleEndian (payload.slice 4 (4 + 1)) = 0x01 ∧
        littleEndian (payload.slice 5 (5 + 1)) = 0x2a := by
  match payload, h with
  | _ :: _ :: _ :: b :: b' :: b'' :: rest, _ =>
      show [b, b', b''] = _ ↔ littleEndian [b] = 0x9d ∧ littleEndian [b'] = 0x01 ∧
        littleEndian [b''] = 0x2a
      simp only [littleEndian_singleton, List.cons.injEq, and_true, ← UInt8.toNat_inj]
      rfl

theorem frameValid_ok {bytes : Bytes} {dataStart length : ℕ} (seen : Bool)
    (h : dataStart + length ≤ bytes.length) :
    ∃ valid, frameValid bytes dataStart length seen = .ok valid ∧
      (valid = true ↔ seen = false ∧ IsPicture (bytes.slice dataStart (dataStart + length))) := by
  have hsize : (bytes.slice dataStart (dataStart + length)).length = length := by
    rw [Bytes.length_slice h]
    omega
  rw [frameValid]
  split
  · next hguard =>
      refine ⟨false, rfl, iff_of_false Bool.false_ne_true fun ⟨hseen, hpicture⟩ => ?_⟩
      rcases hguard with hguard | hguard
      · cases hguard.symm.trans hseen
      · have := hpicture.ten_le
        omega
  · next hguard =>
      rw [not_or, not_lt, Bool.not_eq_true] at hguard
      obtain ⟨hseen, hten⟩ := hguard
      have hread : ∀ first last, last ≤ 10 → bytes.slice (dataStart + first) (dataStart + last) =
          slice (bytes.slice dataStart (dataStart + length)) first last :=
        fun first last hlast => (slice_slice bytes (by omega)).symm
      rw [readUInt_ok (by omega), readUInt_ok (by omega), readUInt_ok (by omega),
        readUInt_ok (by omega), readUInt_ok (by omega)]
      simp only [Nat.add_assoc, Except.bind, Except.map]
      rw [hread 3 (3 + 1) (by omega), hread 4 (4 + 1) (by omega), hread 5 (5 + 1) (by omega),
        hread 6 (6 + 2) (by omega), hread 8 (8 + 2) (by omega)]
      generalize bytes.slice dataStart (dataStart + length) = payload at hsize ⊢
      have hpicture : IsPicture payload ↔
          littleEndian (payload.slice 3 (3 + 1)) = 0x9d ∧
            littleEndian (payload.slice 4 (4 + 1)) = 0x01 ∧
            littleEndian (payload.slice 5 (5 + 1)) = 0x2a ∧
            littleEndian (payload.slice 6 (6 + 2)) &&& 0x3fff = avatarEdge ∧
            littleEndian (payload.slice 8 (8 + 2)) &&& 0x3fff = avatarEdge := by
        have hcode := startCode_iff (hten.trans_eq hsize.symm)
        constructor
        · intro h
          obtain ⟨hfirst, hsecond, hthird⟩ := hcode.mp h.startCode
          exact ⟨hfirst, hsecond, hthird, h.width, h.height⟩
        · rintro ⟨hfirst, hsecond, hthird, hwidth, hheight⟩
          exact ⟨by omega, hcode.mpr ⟨hfirst, hsecond, hthird⟩, hwidth, hheight⟩
      refine ⟨decide (IsPicture payload), ?_, by simp [hseen]⟩
      simp only [ne_eq, ite_not, hpicture]
      split_ifs with hfirst hsecond hthird hwidth <;> simp [*]

/-! ## The loop -/

variable {bytes : Bytes}

/-- **The loop ends and reads only the buffer.** -/
theorem walk_ok (fuel : ℕ) {offset : ℕ} (hoffset : offset ≤ bytes.length)
    (hfuel : bytes.length < offset + fuel) (extended : Bool) (payload : Option Bytes) :
    ∃ result, walk bytes fuel offset extended payload = .ok result := by
  induction fuel generalizing offset extended payload with
  | zero => omega
  | succ fuel ih =>
      rw [walk]
      split
      · next hchunk =>
          rw [read_ok (by omega), readUInt_ok (by omega)]
          simp only [Except.bind]
          generalize littleEndian (bytes.slice (offset + 4) (offset + 4 + 4)) = length
          split
          · exact ⟨_, rfl⟩
          · next hbounds =>
              rw [not_or, not_lt, not_lt] at hbounds
              obtain ⟨hdata, hnext⟩ := hbounds
              have hrest := fun extended payload =>
                ih hnext (by omega) extended payload
              split
              · obtain ⟨valid, hvalid⟩ := extendedValid_ok extended hdata
                rw [hvalid]
                dsimp only
                split
                · exact hrest _ _
                · exact ⟨_, rfl⟩
              · split
                · split
                  · exact ⟨_, rfl⟩
                  · exact hrest _ _
                · split
                  · obtain ⟨valid, hvalid, -⟩ := frameValid_ok payload.isSome hdata
                    rw [hvalid]
                    dsimp only
                    split
                    · exact hrest _ _
                    · exact ⟨_, rfl⟩
                  · exact ⟨_, rfl⟩
      · exact ⟨_, rfl⟩

theorem frames_cons_of_kind (chunk : Chunk) {kind : JsString}
    (h : asciiText chunk.kind = kind) (hkind : kind ≠ ofString "VP8 ") (chunks : List Chunk) :
    frames (chunk :: chunks) = frames chunks := by
  have hno : ¬ chunk.isFrame := by
    rw [Chunk.isFrame, decide_eq_true_eq, h]
    exact hkind
  rw [frames, List.filter_cons_of_neg hno]
  rfl

theorem frames_cons_of_isFrame (chunk : Chunk) (h : chunk.isFrame) (chunks : List Chunk) :
    frames (chunk :: chunks) = chunk.data :: frames chunks := by
  rw [frames, List.filter_cons_of_pos h]
  rfl

/-- **What the loop has walked over**: chunks, of which one is the picture. -/
theorem walk_some {fuel offset : ℕ} {extended : Bool} {payload : Option Bytes} {picture : Bytes}
    (h : walk bytes fuel offset extended payload = .ok (some picture)) :
    ∃ chunks : List Chunk, bytes.drop offset = chunks.flatMap Chunk.bytes ∧
      payload.toList ++ frames chunks = [picture] ∧ ∀ data ∈ frames chunks, IsPicture data := by
  induction fuel generalizing offset extended payload with
  | zero => cases h
  | succ fuel ih =>
      rw [walk] at h
      split at h
      · next hchunk =>
          rw [read_ok (by omega), readUInt_ok (by omega)] at h
          simp only [Except.bind] at h
          generalize hlength :
            littleEndian (bytes.slice (offset + 4) (offset + 4 + 4)) = length at h
          split at h
          · cases h
          · next hbounds =>
              rw [not_or, not_lt, not_lt] at hbounds
              obtain ⟨hdata, hnext⟩ := hbounds
              have hdrop := drop_chunkAt bytes offset length hlength hnext
              have hcons : ∀ {chunks : List Chunk},
                  bytes.drop (offset + 8 + length + length % 2) = chunks.flatMap Chunk.bytes →
                  bytes.drop offset =
                    (chunkAt bytes offset length hlength hnext :: chunks).flatMap Chunk.bytes := by
                intro chunks hchunks
                rw [hdrop, hchunks, List.flatMap_cons]
              -- A chunk that is no picture is walked over.
              have hskip : ∀ {extended kind},
                  walk bytes fuel (offset + 8 + length + length % 2) extended payload =
                    .ok (some picture) →
                  asciiText (bytes.slice offset (offset + 4)) = kind → kind ≠ ofString "VP8 " →
                  ∃ chunks : List Chunk, bytes.drop offset = chunks.flatMap Chunk.bytes ∧
                    payload.toList ++ frames chunks = [picture] ∧
                    ∀ data ∈ frames chunks, IsPicture data := by
                intro extended kind hwalk hkind hne
                obtain ⟨chunks, hchunks, hframes, hpictures⟩ := ih hwalk
                refine ⟨_, hcons hchunks, ?_⟩
                rw [frames_cons_of_kind (chunkAt bytes offset length hlength hnext) hkind hne]
                exact ⟨hframes, hpictures⟩
              split at h
              · next hkind =>
                  obtain ⟨valid, hvalid⟩ := extendedValid_ok extended hdata
                  rw [hvalid] at h
                  dsimp only at h
                  split at h
                  · exact hskip h hkind (by decide)
                  · cases h
              · split at h
                · next hkind =>
                    split at h
                    · cases h
                    · exact hskip h hkind (by decide)
                · split at h
                  · next hkind =>
                      obtain ⟨valid, hvalid, hiff⟩ := frameValid_ok payload.isSome hdata
                      rw [hvalid] at h
                      dsimp only at h
                      split at h
                      · next hpass =>
                          obtain ⟨hseen, hpicture⟩ := hiff.mp hpass
                          obtain ⟨chunks, hchunks, hframes, hpictures⟩ := ih h
                          refine ⟨_, hcons hchunks, ?_⟩
                          rw [frames_cons_of_isFrame
                            (chunkAt bytes offset length hlength hnext)
                            (decide_eq_true hkind)]
                          rw [Option.isSome_eq_false_iff, Option.isNone_iff_eq_none] at hseen
                          subst hseen
                          refine ⟨hframes, fun data hdata => ?_⟩
                          rcases List.mem_cons.mp hdata with rfl | hdata
                          · exact hpicture
                          · exact hpictures data hdata
                      · cases h
                  · cases h
      · split at h
        · cases h
        · next hend =>
            rw [not_not] at hend
            obtain rfl : payload = some picture := Except.ok.inj h
            exact ⟨[], by rw [hend, List.drop_length]; rfl, rfl, by simp [frames]⟩

/-- A picture where a chunk may stand. -/
theorem walk_frame {fuel offset : ℕ} {rest : Bytes} {chunk : Chunk} {extended : Bool}
    (h : bytes.drop offset = chunk.bytes ++ rest) (hframe : chunk.isFrame)
    (hpicture : IsPicture chunk.data) :
    walk bytes (fuel + 1) offset extended none =
      walk bytes fuel (offset + chunk.bytes.length) extended (some chunk.data) := by
  have hlength := length_of_drop h
  have hchunk := chunk.length_bytes
  have hkind : asciiText chunk.kind = ofString "VP8 " := of_decide_eq_true hframe
  have hbounds : ¬ (bytes.length < offset + 8 + chunk.data.length ∨
      bytes.length < offset + 8 + chunk.data.length + chunk.data.length % 2) := by
    omega
  have hdata : offset + 8 + chunk.data.length ≤ bytes.length := by omega
  obtain ⟨valid, hvalid, hiff⟩ := frameValid_ok false hdata
  rw [slice_data h] at hiff
  obtain rfl : valid = true := hiff.mpr ⟨rfl, hpicture⟩
  rw [walk, if_pos (by omega), read_ok (by omega), readUInt_ok (by omega), slice_kind h,
    slice_length h]
  simp only [Except.bind]
  rw [if_neg hbounds, hkind, if_neg (by decide), if_neg (by decide), if_pos rfl, Option.isSome_none,
    hvalid]
  dsimp only
  rw [if_pos rfl, slice_data h, hchunk]
  simp only [Nat.add_assoc]

theorem walk_end (fuel : ℕ) (extended : Bool) (payload : Option Bytes) :
    walk bytes (fuel + 1) bytes.length extended payload = .ok payload := by
  rw [walk, if_neg (by omega), if_neg (not_not.mpr rfl)]

/-! ## The stored picture -/

/-- The chunk of a picture. -/
def frameChunk (payload : Bytes) (h : payload.length < 2 ^ 32) : Chunk where
  kind := asciiBytes "VP8 "
  data := payload
  padding := List.replicate (payload.length % 2) 0
  length_kind := by decide
  length_data := h
  length_padding := List.length_replicate

theorem webp_eq (payload : Bytes) (h : payload.length < 2 ^ 32) :
    webp payload = riff [frameChunk payload h] := by
  have hlength := (frameChunk payload h).length_bytes
  have hsize : 12 + payload.length + payload.length % 2 =
      4 + ([frameChunk payload h].flatMap Chunk.bytes).length := by
    have hdata : (frameChunk payload h).data.length = payload.length := rfl
    rw [List.flatMap_singleton, hlength, hdata]
    omega
  have hform : asciiBytes "WEBPVP8 " = asciiBytes "WEBP" ++ asciiBytes "VP8 " := by decide
  rw [webp, riff, ← hsize, List.flatMap_singleton, hform]
  simp only [Chunk.bytes, frameChunk, List.append_assoc]

theorem length_riff (chunks : List Chunk) :
    (riff chunks).length = 12 + (chunks.flatMap Chunk.bytes).length := by
  have hriff : (asciiBytes "RIFF").length = 4 := by decide
  have hwebp : (asciiBytes "WEBP").length = 4 := by decide
  simp only [riff, List.length_append, length_ofNat, hriff, hwebp]

theorem drop_riff (chunks : List Chunk) : (riff chunks).drop 12 = chunks.flatMap Chunk.bytes := by
  have hhead : (asciiBytes "RIFF" ++ ofNat 4 (4 + (chunks.flatMap Chunk.bytes).length) ++
      asciiBytes "WEBP").length = 12 := by
    have hriff : (asciiBytes "RIFF").length = 4 := by decide
    have hwebp : (asciiBytes "WEBP").length = 4 := by decide
    simp only [List.length_append, length_ofNat, hriff, hwebp]
  rw [riff, ← hhead, List.drop_left]

/-- What the reads of a file's head find. -/
theorem slice_riff (chunks : List Chunk) :
    (riff chunks).slice 0 (0 + 4) = asciiBytes "RIFF" ∧
      (riff chunks).slice 4 (4 + 4) = ofNat 4 (4 + (chunks.flatMap Chunk.bytes).length) ∧
      (riff chunks).slice 8 (8 + 4) = asciiBytes "WEBP" := by
  have hriff : (asciiBytes "RIFF").length = 4 := by decide
  have hwebp : (asciiBytes "WEBP").length = 4 := by decide
  have hhead := slice_append [] (asciiBytes "RIFF")
    (ofNat 4 (4 + (chunks.flatMap Chunk.bytes).length) ++ (asciiBytes "WEBP" ++
      chunks.flatMap Chunk.bytes))
  have hsize := slice_append (asciiBytes "RIFF")
    (ofNat 4 (4 + (chunks.flatMap Chunk.bytes).length))
    (asciiBytes "WEBP" ++ chunks.flatMap Chunk.bytes)
  have hform := slice_append
    (asciiBytes "RIFF" ++ ofNat 4 (4 + (chunks.flatMap Chunk.bytes).length)) (asciiBytes "WEBP")
    (chunks.flatMap Chunk.bytes)
  rw [hriff] at hhead
  rw [hriff, length_ofNat] at hsize
  rw [List.length_append, hriff, length_ofNat, hwebp] at hform
  simp only [riff, List.append_assoc] at hform ⊢
  exact ⟨hhead, hsize, hform⟩

/-- The file of one picture is stored as it is. -/
theorem canonicalWebp_riff {payload : Bytes} (hpicture : IsPicture payload)
    (hsize : payload.length < 2 ^ 32)
    (hmax : (riff [frameChunk payload hsize]).length ≤ maxAvatarBytes) :
    canonicalWebp (riff [frameChunk payload hsize]) =
      .ok (some (riff [frameChunk payload hsize])) := by
  have hten := hpicture.ten_le
  have hchunk := (frameChunk payload hsize).length_bytes
  have hlength := length_riff [frameChunk payload hsize]
  have hdrop := drop_riff [frameChunk payload hsize]
  rw [List.flatMap_singleton] at hlength hdrop
  have hdata : (frameChunk payload hsize).data.length = payload.length := rfl
  have hwalk : walk (riff [frameChunk payload hsize]) (riff [frameChunk payload hsize]).length 12
      false none = .ok (some payload) := by
    obtain ⟨fuel, hfuel⟩ : ∃ fuel, (riff [frameChunk payload hsize]).length = fuel + 1 + 1 :=
      ⟨(riff [frameChunk payload hsize]).length - 2, by omega⟩
    rw [hfuel, walk_frame (hdrop.trans (List.append_nil _).symm) (by rfl) hpicture, ← hlength]
    exact walk_end fuel false (some payload)
  obtain ⟨hriff, hnumber, hform⟩ := slice_riff [frameChunk payload hsize]
  rw [List.flatMap_singleton] at hnumber
  have hread : littleEndian (ofNat 4 (4 + (frameChunk payload hsize).bytes.length)) =
      4 + (frameChunk payload hsize).bytes.length := by
    refine littleEndian_ofNat ?_
    rw [maxAvatarBytes] at hmax
    omega
  have hriffText : asciiText (asciiBytes "RIFF") = ofString "RIFF" := by decide
  have hformText : asciiText (asciiBytes "WEBP") = ofString "WEBP" := by decide
  rw [canonicalWebp, if_neg (by omega), read_ok (by omega), read_ok (by omega),
    readUInt_ok (by omega), hriff, hnumber, hform, hread, hwalk]
  simp only [Except.bind, Except.map]
  rw [if_neg (not_not.mpr hriffText), if_neg (not_not.mpr hformText), if_neg (by omega),
    Option.map_some, webp_eq payload hsize]

/-! ## Posting it again -/

/-- The body of a request that posts some bytes. -/
def dataUrlBody (bytes : Bytes) : Json ℤ :=
  .obj [(ofString "dataUrl", .str (dataUrlPrefix ++ Base64.encode bytes))]

theorem readDataUrl_dataUrlBody {bytes : Bytes} (hne : bytes ≠ [])
    (hmax : bytes.length ≤ maxAvatarBytes) : readDataUrl (dataUrlBody bytes) = some bytes := by
  have hlength := Base64.length_encode bytes
  have hfront : dataUrlPrefix.length = 23 := by decide
  have hpos := List.length_pos_iff.mpr hne
  rw [maxAvatarBytes] at hmax
  have hguard : ¬ (ofString "dataUrl" ≠ ofString "dataUrl" ∨
      ¬ dataUrlPrefix.isPrefixOf (dataUrlPrefix ++ Base64.encode bytes) ∨
      360000 < (dataUrlPrefix ++ Base64.encode bytes).length) := by
    rw [not_or, not_or, not_not, not_not, not_lt, List.length_append, hfront]
    refine ⟨rfl, List.isPrefixOf_iff_prefix.mpr (List.prefix_append _ _), ?_⟩
    omega
  have hencoded : ¬ ((Base64.encode bytes).length = 0 ∨ (Base64.encode bytes).length % 4 ≠ 0 ∨
      ¬ Base64.isText (Base64.encode bytes)) := by
    rw [not_or, not_or, not_not, not_not]
    refine ⟨by omega, by omega, Base64.isText_encode hne⟩
  unfold readDataUrl dataUrlBody
  dsimp only
  rw [if_neg hguard, List.drop_left, if_neg hencoded, Base64.decode_encode]

/-- **What is stored for the bytes of a file.** -/
theorem canonicalWebp_some {input stored : Bytes} (h : canonicalWebp input = .ok (some stored)) :
    ∃ (chunks : List Chunk) (payload : Bytes) (hsize : payload.length < 2 ^ 32),
      input.drop 12 = chunks.flatMap Chunk.bytes ∧ frames chunks = [payload] ∧
        IsPicture payload ∧ stored = riff [frameChunk payload hsize] ∧
        stored.length ≤ input.length ∧ input.length ≤ maxAvatarBytes := by
  rw [canonicalWebp] at h
  split at h
  · cases h
  · next hbounds =>
      rw [not_or, not_lt, not_lt] at hbounds
      obtain ⟨hmax, hmin⟩ := hbounds
      rw [read_ok (by omega), read_ok (by omega), readUInt_ok (by omega)] at h
      simp only [Except.bind] at h
      split at h
      · cases h
      · split at h
        · cases h
        · split at h
          · cases h
          · obtain ⟨result, hwalk⟩ := walk_ok input.length (show 12 ≤ input.length by omega)
              (by omega) false none
            rw [hwalk] at h
            obtain ⟨payload, rfl, rfl⟩ := Option.map_eq_some_iff.mp (Except.ok.inj h)
            obtain ⟨chunks, hchunks, hframes, hpictures⟩ := walk_some hwalk
            obtain hframes : frames chunks = [payload] := hframes
            have hmem : payload ∈ frames chunks := hframes ▸ List.mem_cons_self
            obtain ⟨chunk, hchunk, rfl⟩ := List.mem_map.mp hmem
            have hpart : chunk.bytes.length ≤ (chunks.flatMap Chunk.bytes).length := by
              obtain ⟨before, after, hsplit⟩ :=
                List.append_of_mem (List.mem_of_mem_filter hchunk)
              rw [hsplit, List.flatMap_append, List.flatMap_cons, List.length_append,
                List.length_append]
              omega
            have htotal := congrArg List.length hchunks
            rw [List.length_drop] at htotal
            refine ⟨chunks, chunk.data, chunk.length_data, hchunks, hframes,
              hpictures _ hmem, webp_eq _ chunk.length_data, ?_, hmax⟩
            rw [webp_eq _ chunk.length_data, length_riff, List.flatMap_singleton,
              Chunk.length_bytes]
            rw [Chunk.length_bytes] at hpart
            show 12 + (8 + chunk.data.length + chunk.data.length % 2) ≤ input.length
            omega

/-- The walk over the chunks of any bytes ends and reads only them.  What is stored for an
accepted avatar is a file of one chunk, a picture of 256 by 256 pixels whose payload is
that of the one picture among the chunks that were posted; it is no longer than what was
posted, and posted again it is stored as it is. -/
theorem avatar_canonical :
    (∀ bytes : Bytes, ∃ stored, canonicalWebp bytes = .ok stored) ∧
    ∀ value stored, parseAvatarDataUrl value = .ok (some stored) →
      ∃ (input : Bytes) (chunks : List Chunk) (frame : Chunk),
        readDataUrl value = some input ∧ input.drop 12 = chunks.flatMap Chunk.bytes ∧
        frames chunks = [frame.data] ∧ stored = riff [frame] ∧
        frame.kind = asciiBytes "VP8 " ∧ IsPicture frame.data ∧
        stored.length ≤ maxAvatarBytes ∧ stored.length ≤ input.length ∧
        parseAvatarDataUrl (dataUrlBody stored) = .ok (some stored) := by
  refine ⟨fun bytes => ?_, fun value stored h => ?_⟩
  · rw [canonicalWebp]
    split
    · exact ⟨_, rfl⟩
    · next hbounds =>
        rw [not_or, not_lt, not_lt] at hbounds
        rw [read_ok (by omega), read_ok (by omega), readUInt_ok (by omega)]
        simp only [Except.bind]
        split
        · exact ⟨_, rfl⟩
        · split
          · exact ⟨_, rfl⟩
          · split
            · exact ⟨_, rfl⟩
            · obtain ⟨result, hwalk⟩ := walk_ok bytes.length (show 12 ≤ bytes.length by omega)
                (by omega) false none
              rw [hwalk]
              exact ⟨_, rfl⟩
  · rw [parseAvatarDataUrl] at h
    split at h
    · cases h
    · next input hinput =>
        obtain ⟨chunks, payload, hsize, hchunks, hframes, hpicture, rfl, hshorter, hmax⟩ :=
          canonicalWebp_some h
        have hstored := hshorter.trans hmax
        refine ⟨input, chunks, frameChunk payload hsize, hinput, hchunks, hframes, rfl, rfl,
          hpicture, hstored, hshorter, ?_⟩
        have hne : riff [frameChunk payload hsize] ≠ [] := by
          intro hnil
          have hlength := length_riff [frameChunk payload hsize]
          rw [hnil, List.length_nil] at hlength
          omega
        rw [parseAvatarDataUrl, readDataUrl_dataUrlBody hne hstored]
        exact canonicalWebp_riff hpicture hsize hstored

namespace Extended

/-- The first bytes of a frame. -/
def picture : Bytes := [0, 0, 0, 0x9d, 0x01, 0x2a, 0x00, 0x01, 0x00, 0x01]

/-- A file with a colour profile of one byte. -/
def file : Bytes :=
  asciiBytes "RIFF" ++ ofNat 4 50 ++ asciiBytes "WEBP" ++
    asciiBytes "VP8X" ++ ofNat 4 10 ++ [0x20, 0, 0, 0, 0xff, 0, 0, 0xff, 0, 0] ++
    asciiBytes "ICCP" ++ ofNat 4 1 ++ [7, 0] ++ asciiBytes "VP8 " ++ ofNat 4 10 ++ picture

/-- The profile is dropped. -/
theorem parses : parseAvatarDataUrl (dataUrlBody file) = .ok (some (webp picture)) := by
  decide +kernel

end Extended

theorem avatar_canonical_extended :
    parseAvatarDataUrl (dataUrlBody (webp Extended.picture)) =
      .ok (some (webp Extended.picture)) := by
  obtain ⟨_, _, _, _, _, _, _, _, _, _, _, hagain⟩ := avatar_canonical.2 _ _ Extended.parses
  exact hagain

end GreenRoom.Api.Avatar
