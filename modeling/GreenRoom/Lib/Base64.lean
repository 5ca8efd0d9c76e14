import GreenRoom.Lib.JsString
import GreenRoom.Lib.PyStr

/-!
# Base64

Bytes as text, three bytes for four characters, and back.

## Main definitions

* `Base64.encode` — `bytes.toString("base64")`.
* `Base64.decode` — `Buffer.from(text, "base64")`.
* `Base64.isText` — the texts of `[A-Za-z0-9+/]+={0,2}`.

## Main results

* `Base64.decode_encode`
* `Base64.isText_encode`
* `Base64.length_encode`
-/

namespace Base64

open JsString

def alphabet : JsString :=
  ofString "ABCDEFGHIJKLMNOPQRSTUVWXYZabcdefghijklmnopqrstuvwxyz0123456789+/"

/-- The value of a character. -/
def sextet (u : UInt16) : Option ℕ := alphabet.findIdx? (· = u)

def sextetUnit (n : ℕ) : UInt16 := alphabet.getD n 0

theorem sextet_sextetUnit {n : ℕ} (h : n < 64) : sextet (sextetUnit n) = some n := by
  have hall : ∀ i : Fin 64, sextet (sextetUnit i) = some i.val := by decide +kernel
  exact hall ⟨n, h⟩

theorem sextet_pad : sextet (unit '=') = none := by decide

/-! ## Bytes and sextets -/

def sextets : Bytes → List ℕ
  | a :: b :: c :: rest =>
    a.toNat / 4 :: (a.toNat % 4 * 16 + b.toNat / 16) :: (b.toNat % 16 * 4 + c.toNat / 64) ::
      c.toNat % 64 :: sextets rest
  | [a, b] => [a.toNat / 4, a.toNat % 4 * 16 + b.toNat / 16, b.toNat % 16 * 4]
  | [a] => [a.toNat / 4, a.toNat % 4 * 16]
  | [] => []

/-- The bytes of a text; bits that are left over are dropped. -/
def bytesOf : List ℕ → Bytes
  | a :: b :: c :: d :: rest =>
    UInt8.ofNat (a * 4 + b / 16) :: UInt8.ofNat (b % 16 * 16 + c / 4) ::
      UInt8.ofNat (c % 4 * 64 + d) :: bytesOf rest
  | [a, b, c] => [UInt8.ofNat (a * 4 + b / 16), UInt8.ofNat (b % 16 * 16 + c / 4)]
  | [a, b] => [UInt8.ofNat (a * 4 + b / 16)]
  | _ => []

theorem bytesOf_sextets (bytes : Bytes) : bytesOf (sextets bytes) = bytes := by
  have hbyte : ∀ (a : UInt8) (n : ℕ), n = a.toNat → UInt8.ofNat n = a := by
    rintro a _ rfl
    exact UInt8.ofNat_toNat
  induction bytes using sextets.induct with
  | case1 a b c rest ih =>
      have ha := a.toNat_lt
      have hb := b.toNat_lt
      have hc := c.toNat_lt
      rw [sextets, bytesOf, ih, hbyte a _ (by omega), hbyte b _ (by omega), hbyte c _ (by omega)]
  | case2 a b =>
      have ha := a.toNat_lt
      have hb := b.toNat_lt
      rw [sextets, bytesOf, hbyte a _ (by omega), hbyte b _ (by omega)]
  | case3 a =>
      have ha := a.toNat_lt
      rw [sextets, bytesOf, hbyte a _ (by omega)]
  | case4 => rfl

theorem sextets_lt {bytes : Bytes} : ∀ n ∈ sextets bytes, n < 64 := by
  induction bytes using sextets.induct with
  | case1 a b c rest ih =>
      have ha := a.toNat_lt
      have hb := b.toNat_lt
      have hc := c.toNat_lt
      intro n hn
      simp only [sextets, List.mem_cons] at hn
      rcases hn with rfl | rfl | rfl | rfl | hn
      · omega
      · omega
      · omega
      · omega
      · exact ih n hn
  | case2 a b =>
      have ha := a.toNat_lt
      have hb := b.toNat_lt
      intro n hn
      simp only [sextets, List.mem_cons, List.not_mem_nil, or_false] at hn
      rcases hn with rfl | rfl | rfl <;> omega
  | case3 a =>
      have ha := a.toNat_lt
      intro n hn
      simp only [sextets, List.mem_cons, List.not_mem_nil, or_false] at hn
      rcases hn with rfl | rfl <;> omega
  | case4 => simp [sextets]

/-! ## Text -/

/-- The padding of a text. -/
def padding (bytes : Bytes) : ℕ := (3 - bytes.length % 3) % 3

def encode (bytes : Bytes) : JsString :=
  (sextets bytes).map sextetUnit ++ List.replicate (padding bytes) (unit '=')

/-- A text that ends in its padding; other characters are skipped. -/
def decode (text : JsString) : Bytes := bytesOf (text.filterMap sextet)

/-- `[A-Za-z0-9+/]+={0,2}`. -/
def isText (text : JsString) : Bool :=
  let body := (text.reverse.dropWhile (· = unit '=')).reverse
  body ≠ [] && body.all (fun u => (sextet u).isSome) && text.length ≤ body.length + 2

theorem filterMap_encode (bytes : Bytes) : (encode bytes).filterMap sextet = sextets bytes := by
  have hbody : ((sextets bytes).map sextetUnit).filterMap sextet = sextets bytes := by
    rw [List.filterMap_map]
    calc (sextets bytes).filterMap (sextet ∘ sextetUnit)
        = (sextets bytes).filterMap some :=
          List.filterMap_congr fun n hn => sextet_sextetUnit (sextets_lt n hn)
      _ = sextets bytes := List.filterMap_some
  have hpad : (List.replicate (padding bytes) (unit '=')).filterMap sextet = [] := by
    rw [List.filterMap_eq_nil_iff]
    intro u hu
    rw [List.eq_of_mem_replicate hu]
    exact sextet_pad
  rw [encode, List.filterMap_append, hbody, hpad, List.append_nil]

theorem decode_encode (bytes : Bytes) : decode (encode bytes) = bytes := by
  rw [decode, filterMap_encode, bytesOf_sextets]

theorem length_sextets (bytes : Bytes) :
    (sextets bytes).length + padding bytes = (bytes.length + 2) / 3 * 4 := by
  induction bytes using sextets.induct with
  | case1 a b c rest ih =>
      simp only [padding, sextets, List.length_cons] at ih ⊢
      omega
  | case2 | case3 | case4 => simp [padding, sextets]

theorem length_encode (bytes : Bytes) : (encode bytes).length = (bytes.length + 2) / 3 * 4 := by
  rw [encode, List.length_append, List.length_map, List.length_replicate, length_sextets]

theorem isText_encode {bytes : Bytes} (h : bytes ≠ []) : isText (encode bytes) := by
  have hunits : ∀ u ∈ (sextets bytes).map sextetUnit, (sextet u).isSome := by
    intro u hu
    obtain ⟨n, hn, rfl⟩ := List.mem_map.mp hu
    rw [sextet_sextetUnit (sextets_lt n hn)]
    rfl
  have hlength := length_sextets bytes
  have hpos := List.length_pos_iff.mpr h
  have hpadding : padding bytes ≤ 2 := by
    rw [padding]
    omega
  have hbody : ((encode bytes).reverse.dropWhile (· = unit '=')).reverse =
      (sextets bytes).map sextetUnit := by
    have hhead : (((sextets bytes).map sextetUnit).reverse).dropWhile (· = unit '=') =
        ((sextets bytes).map sextetUnit).reverse := by
      cases hreverse : ((sextets bytes).map sextetUnit).reverse with
      | nil => rfl
      | cons u units =>
          have hu := hunits u (List.mem_reverse.mp (hreverse ▸ List.mem_cons_self))
          refine List.dropWhile_cons_of_neg fun heq => ?_
          rw [of_decide_eq_true heq, sextet_pad] at hu
          cases hu
    rw [encode, List.reverse_append, List.reverse_replicate, List.dropWhile_append_of_pos,
      hhead, List.reverse_reverse]
    intro u hu
    exact decide_eq_true (List.eq_of_mem_replicate hu)
  have hne : (sextets bytes).map sextetUnit ≠ [] := by
    intro hnil
    rw [List.map_eq_nil_iff] at hnil
    rw [hnil] at hlength
    simp only [List.length_nil] at hlength
    omega
  rw [isText, hbody]
  simp only [Bool.and_eq_true, decide_eq_true_eq]
  refine ⟨⟨hne, List.all_eq_true.mpr hunits⟩, ?_⟩
  rw [encode, List.length_append, List.length_replicate]
  omega

end Base64
