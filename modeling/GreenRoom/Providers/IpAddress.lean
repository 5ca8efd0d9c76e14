import GreenRoom.Lib.JsonRoundTrip

/-!
# Addresses

`parseIpv4`, `parseIpv6` and `classifyAddress` of `providers/secure-http-transport.ts`.  An
address is parsed to its number and to one text for it; an ordinary, globally routable one
is let through.

## Main definitions

* `parseIpv4`, `parseIpv6`, `classifyAddress`.
* `renderIpv4`, `renderIpv6` — the canonical text of an address.
-/

namespace GreenRoom.Providers.IpAddress

open JsString

inductive Family
  | v4 | v6
  deriving DecidableEq, Repr

structure CanonicalAddress where
  family : Family
  canonical : JsString
  numeric : ℕ
  deriving DecidableEq

/-! ## IPv4 -/

/-- `0|[1-9]\d{0,2}`. -/
def isDecimalPart (part : JsString) : Bool :=
  part = [unit '0'] ||
    (part.all isDigit && part.head? ≠ some (unit '0') && 1 ≤ part.length && part.length ≤ 3)

def renderIpv4 (parts : List ℕ) : JsString := join [unit '.'] (parts.map ofNat)

/-- The number of a sequence of digits of `bits` bits each. -/
def shiftIn (bits : ℕ) (digits : List ℕ) : ℕ :=
  digits.foldl (fun sum digit => sum <<< bits ||| digit) 0

def parseIpv4 (value : JsString) : Option CanonicalAddress :=
  let texts := value.splitOn (unit '.')
  if texts.length = 4 ∧ texts.all isDecimalPart then
    let parts := texts.map digitsValue
    if parts.any fun part => 255 < part then none
    else some ⟨.v4, renderIpv4 parts, shiftIn 8 parts⟩
  else none

/-! ## IPv6 -/

/-- `word.toString(16)`. -/
def hexText (n : ℕ) : JsString :=
  if n = 0 then [unit '0'] else ((Nat.digits 16 n).map Json.hexDigit).reverse

/-- `Number.parseInt(part, 16)`, for a part of one to four hexadecimal digits. -/
def parseWord (part : JsString) : Option ℕ :=
  if 1 ≤ part.length ∧ part.length ≤ 4 then
    (part.mapM Json.hexValue).map fun digits => Nat.ofDigits 16 digits.reverse
  else none

/-- `[0-9a-fA-F:.]`. -/
def isIpv6Unit (u : UInt16) : Bool := (Json.hexValue u).isSome || u = unit ':' || u = unit '.'

/-- A dotted quad at the end becomes two words. -/
def withoutQuad (value : JsString) : Option JsString :=
  if unit '.' ∈ value then
    if unit ':' ∈ value then
      let head := (value.reverse.dropWhile (· ≠ unit ':')).tail.reverse
      let quad := (value.reverse.takeWhile (· ≠ unit ':')).reverse
      (parseIpv4 quad).map fun v4 =>
        head ++ unit ':' :: hexText (v4.numeric >>> 16) ++
          unit ':' :: hexText (v4.numeric &&& 0xffff)
    else none
  else some value

/-- Put a text in front of the first of several. -/
def prepend (text : JsString) : List JsString → List JsString
  | [] => [text]
  | first :: rest => (text ++ first) :: rest

/-- `source.split("::")`. -/
def splitDouble : JsString → List JsString
  | [] => [[]]
  | [u] => [[u]]
  | u :: v :: rest =>
    if u = unit ':' ∧ v = unit ':' then [] :: splitDouble rest
    else prepend [u] (splitDouble (v :: rest))

/-- `half === "" ? [] : half.split(":")`. -/
def splitHalf (half : JsString) : List JsString :=
  if half = [] then [] else half.splitOn (unit ':')

/-- A run of zero words. -/
structure ZeroRun where
  start : ℕ
  length : ℕ
  deriving DecidableEq, Repr

/-- The loop that looks for the longest run, from `index` on. -/
def bestRun (words : List ℕ) : ℕ → ℕ → Option ZeroRun → Option ZeroRun
  | 0, _, best => best
  | fuel + 1, index, best =>
    if words.length ≤ index then best
    else if words[index]? ≠ some 0 then bestRun words fuel (index + 1) best
    else
      let length := ((words.drop index).takeWhile (· = 0)).length
      let best := if best.elim 0 ZeroRun.length < length ∧ 2 ≤ length then some ⟨index, length⟩
        else best
      bestRun words fuel (index + length) best

def renderIpv6 (words : List ℕ) : JsString :=
  let rendered := words.map hexText
  match bestRun words words.length 0 none with
  | none => join [unit ':'] rendered
  | some best =>
      join [unit ':'] (rendered.take best.start) ++ [unit ':', unit ':'] ++
        join [unit ':'] (rendered.drop (best.start + best.length))

/-- The eight words of an address. -/
def parseWords (value : JsString) : Option (List ℕ) :=
  if value.length < 2 ∨ unit '%' ∈ value ∨ ¬ value.all isIpv6Unit then none
  else
    (withoutQuad value).bind fun source =>
      match splitDouble source with
      | [half] =>
          let left := splitHalf half
          if left.length ≠ 8 then none else left.mapM parseWord
      | [half, half'] =>
          let left := splitHalf half
          let right := splitHalf half'
          if 8 ≤ left.length + right.length then none
          else
            (left.mapM parseWord).bind fun before =>
              (right.mapM parseWord).map fun after =>
                before ++ List.replicate (8 - left.length - right.length) 0 ++ after
      | _ => none

def parseIpv6 (value : JsString) : Option CanonicalAddress :=
  (parseWords value).map fun words => ⟨.v6, renderIpv6 words, shiftIn 16 words⟩

/-! ## Classes of addresses -/

/-- The addresses of `width` bits that begin with `bits` bits of a prefix. -/
def within (parse : JsString → Option CanonicalAddress) (width address : ℕ)
    (block : String × ℕ) : Bool :=
  match parse (ofString block.1) with
  | none => false
  | some parsed => address >>> (width - block.2) = parsed.numeric >>> (width - block.2)

def ipv4In (address : ℕ) (block : String × ℕ) : Bool := within parseIpv4 32 address block

def ipv6In (address : ℕ) (block : String × ℕ) : Bool := within parseIpv6 128 address block

def prohibitedIpv4 : List (String × ℕ) := [
  ("0.0.0.0", 8), ("10.0.0.0", 8), ("100.64.0.0", 10), ("127.0.0.0", 8),
  ("169.254.0.0", 16), ("172.16.0.0", 12), ("192.0.0.0", 24), ("192.0.2.0", 24),
  ("192.88.99.0", 24), ("192.168.0.0", 16), ("198.18.0.0", 15), ("198.51.100.0", 24),
  ("203.0.113.0", 24), ("224.0.0.0", 4), ("240.0.0.0", 4)]

def prohibitedIpv6 : List (String × ℕ) := [
  ("::", 8), ("100::", 64), ("2001::", 23),
  ("2001:db8::", 32), ("2002::", 16), ("3fff::", 20), ("5f00::", 16),
  ("fc00::", 7), ("fe80::", 10), ("ff00::", 8)]

def classifyAddress (value : JsString) : Option CanonicalAddress :=
  match parseIpv4 value with
  | some ipv4 => if prohibitedIpv4.any (ipv4In ipv4.numeric) then none else some ipv4
  | none =>
    match parseIpv6 value with
    | none => none
    | some ipv6 =>
      if !ipv6In ipv6.numeric ("2000::", 3) || prohibitedIpv6.any (ipv6In ipv6.numeric) then none
      else some ipv6

end GreenRoom.Providers.IpAddress
