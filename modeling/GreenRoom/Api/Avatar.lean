import GreenRoom.Lib.Base64
import GreenRoom.Lib.ByteReader
import GreenRoom.Lib.Json

/-!
# Avatars

`parseAvatarDataUrl` of `api/routes.ts`.  A picture is posted as a data URL.  Its chunks are
walked, and what is stored is a file that has the one chunk with the picture in it.

## Main definitions

* `readDataUrl` — the bytes of a request's body.
* `walk` — the loop over the chunks.
* `canonicalWebp`, `parseAvatarDataUrl`.
-/

namespace GreenRoom.Api.Avatar

open JsString Bytes

def maxAvatarBytes : ℕ := 256 * 1024

def avatarEdge : ℕ := 256

def maxProfileBytes : ℕ := 64 * 1024

/-- `bytes.toString("ascii")` drops the highest bit of every byte. -/
def asciiText (bytes : Bytes) : JsString := bytes.map fun b => (b &&& 0x7f).toUInt16

/-- `buffer.write(text, offset, "ascii")`. -/
def asciiBytes (text : String) : Bytes := (ofString text).map UInt16.toUInt8

/-! ## The data URL -/

def dataUrlPrefix : JsString := ofString "data:image/webp;base64,"

def readDataUrl (value : Json ℤ) : Option Bytes :=
  match value with
  | .obj [(key, .str url)] =>
    if key ≠ ofString "dataUrl" ∨ ¬ dataUrlPrefix.isPrefixOf url ∨ 360000 < url.length then none
    else
      let encoded := url.drop dataUrlPrefix.length
      if encoded.length = 0 ∨ encoded.length % 4 ≠ 0 ∨ ¬ Base64.isText encoded then none
      else some (Base64.decode encoded)
  | _ => none

/-! ## The chunks -/

/-- The checks of a chunk `VP8X`. -/
def extendedValid (bytes : Bytes) (offset length : ℕ) (extended : Bool) : Except ReadFault Bool :=
  let dataStart := offset + 8
  if offset ≠ 12 ∨ length ≠ 10 ∨ extended then .ok false
  else
    (bytes.readUInt dataStart 1).bind fun flags =>
    if flags &&& 0xdf ≠ 0 then .ok false
    else
      (bytes.readUInt (dataStart + 4) 3).bind fun width =>
      if width + 1 ≠ avatarEdge then .ok false
      else (bytes.readUInt (dataStart + 7) 3).map fun height => decide (height + 1 = avatarEdge)

/-- The checks of a chunk `VP8 `. -/
def frameValid (bytes : Bytes) (dataStart length : ℕ) (seen : Bool) : Except ReadFault Bool :=
  if seen ∨ length < 10 then .ok false
  else
    (bytes.readUInt (dataStart + 3) 1).bind fun first =>
    if first ≠ 0x9d then .ok false
    else
      (bytes.readUInt (dataStart + 4) 1).bind fun second =>
      if second ≠ 0x01 then .ok false
      else
        (bytes.readUInt (dataStart + 5) 1).bind fun third =>
        if third ≠ 0x2a then .ok false
        else
          (bytes.readUInt (dataStart + 6) 2).bind fun width =>
          if width &&& 0x3fff ≠ avatarEdge then .ok false
          else
            (bytes.readUInt (dataStart + 8) 2).map fun height =>
              decide (height &&& 0x3fff = avatarEdge)

/-- The loop over the chunks, with the payload of the picture if it was met. -/
def walk (bytes : Bytes) : ℕ → ℕ → Bool → Option Bytes → Except ReadFault (Option Bytes)
  | 0, _, _, _ => .error .unending
  | fuel + 1, offset, extended, payload =>
    if offset + 8 ≤ bytes.length then
      (bytes.read offset 4).bind fun type =>
      (bytes.readUInt (offset + 4) 4).bind fun length =>
        let dataStart := offset + 8
        let dataEnd := dataStart + length
        let next := dataEnd + length % 2
        if bytes.length < dataEnd ∨ bytes.length < next then .ok none
        else if asciiText type = ofString "VP8X" then
          (extendedValid bytes offset length extended).bind fun valid =>
            if valid then walk bytes fuel next true payload else .ok none
        else if asciiText type = ofString "ICCP" then
          if !extended || length < 1 || maxProfileBytes < length then .ok none
          else walk bytes fuel next extended payload
        else if asciiText type = ofString "VP8 " then
          (frameValid bytes dataStart length payload.isSome).bind fun valid =>
            if valid then walk bytes fuel next extended (some (bytes.slice dataStart dataEnd))
            else .ok none
        else .ok none
    else .ok (if offset ≠ bytes.length then none else payload)

/-! ## The stored picture -/

/-- A file with the one chunk. -/
def webp (payload : Bytes) : Bytes :=
  let padding := payload.length % 2
  asciiBytes "RIFF" ++ ofNat 4 (12 + payload.length + padding) ++ asciiBytes "WEBPVP8 " ++
    ofNat 4 payload.length ++ payload ++ List.replicate padding 0

def canonicalWebp (bytes : Bytes) : Except ReadFault (Option Bytes) :=
  if maxAvatarBytes < bytes.length ∨ bytes.length < 30 then .ok none
  else
    (bytes.read 0 4).bind fun riff =>
    if asciiText riff ≠ ofString "RIFF" then .ok none
    else
      (bytes.read 8 4).bind fun form =>
      if asciiText form ≠ ofString "WEBP" then .ok none
      else
        (bytes.readUInt 4 4).bind fun size =>
        if size + 8 ≠ bytes.length then .ok none
        else (walk bytes bytes.length 12 false none).map fun payload => payload.map webp

def parseAvatarDataUrl (value : Json ℤ) : Except ReadFault (Option Bytes) :=
  match readDataUrl value with
  | none => .ok none
  | some bytes => canonicalWebp bytes

end GreenRoom.Api.Avatar
