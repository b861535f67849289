import Mathlib.Data.List.GetD

/-!
# Base64 and UTF-8 as the file handlers use them

* `Base64.encode` is `base64.StdEncoding.EncodeToString`, `Base64.decode` is
  `base64.StdEncoding.DecodeString`: the standard alphabet, `=` padding required, `\r` and `\n`
  skipped wherever they stand, and the bits a padded last quantum leaves over ignored (the encoding
  is not `Strict`).
* `Utf8.toJson` is what a Go `string` made of arbitrary bytes becomes in a JSON response:
  `encoding/json` writes each valid UTF-8 sequence as its character and each byte that starts none
  as U+FFFD.
* `Base64.decode_encode`: decoding undoes encoding, for every byte string.
-/

namespace VolumeManager

namespace Base64

/-- The standard alphabet. -/
def alphabet : List Char := "ABCDEFGHIJKLMNOPQRSTUVWXYZabcdefghijklmnopqrstuvwxyz0123456789+/".data

/-- The character of a 6-bit value. -/
def char (n : Nat) : Char := alphabet.getD n 'A'

/-- The 6-bit value of a character of the alphabet. -/
def index (c : Char) : Option Nat := alphabet.indexOf? c

/-- `EncodeToString`: each three bytes as four characters, one or two last bytes padded with `=`. -/
def encode : List UInt8 → List Char
  | [] => []
  | [a] => [char (a.toNat / 4), char (a.toNat % 4 * 16), '=', '=']
  | [a, b] =>
    [char (a.toNat / 4), char (a.toNat % 4 * 16 + b.toNat / 16), char (b.toNat % 16 * 4), '=']
  | a :: b :: c :: rest =>
    char (a.toNat / 4) :: char (a.toNat % 4 * 16 + b.toNat / 16) ::
      char (b.toNat % 16 * 4 + c.toNat / 64) :: char (c.toNat % 64) :: encode rest

/-- The quanta of the input, line breaks removed: four characters give three bytes, a last
quantum `xx==` one byte and `xxx=` two; anything else is a `CorruptInputError`. -/
def decodeQuanta : List Char → Option (List UInt8)
  | [] => some []
  | [a, b, '=', '='] => do
    let x ← index a
    let y ← index b
    pure [UInt8.ofNat (x * 4 + y / 16)]
  | [a, b, c, '='] => do
    let x ← index a
    let y ← index b
    let z ← index c
    pure [UInt8.ofNat (x * 4 + y / 16), UInt8.ofNat (y % 16 * 16 + z / 4)]
  | a :: b :: c :: d :: rest => do
    let x ← index a
    let y ← index b
    let z ← index c
    let w ← index d
    let more ← decodeQuanta rest
    pure (UInt8.ofNat (x * 4 + y / 16) :: UInt8.ofNat (y % 16 * 16 + z / 4) ::
      UInt8.ofNat (z % 4 * 64 + w) :: more)
  | _ => none

/-- `DecodeString`: the bytes, or `none` for a `CorruptInputError`. -/
def decode (s : String) : Option (List UInt8) :=
  decodeQuanta (s.data.filter fun c => c ≠ '\r' ∧ c ≠ '\n')

/-- Decoding reads each character of the alphabet back as its index. -/
theorem index_char : ∀ n, n < 64 → index (char n) = some n := by decide

/-- Every character encoding writes for a value is in the alphabet. -/
theorem char_mem (n : Nat) : char n ∈ alphabet := by
  unfold char
  rcases Nat.lt_or_ge n alphabet.length with h | h
  · rw [List.getD_eq_getElem _ _ h]; exact List.getElem_mem h
  · rw [List.getD_eq_default _ _ h]; decide

/-- No character of the alphabet is padding or a line break. -/
theorem char_ne (n : Nat) : char n ≠ '=' ∧ char n ≠ '\r' ∧ char n ≠ '\n' :=
  (by decide : ∀ c ∈ alphabet, c ≠ '=' ∧ c ≠ '\r' ∧ c ≠ '\n') _ (char_mem n)

/-- A byte is the one UInt8.ofNat makes of its number. -/
theorem ofNat_eq {a : UInt8} {n : Nat} (h : n = a.toNat) : UInt8.ofNat n = a :=
  UInt8.toNat.inj (by rw [UInt8.toNat_ofNat_of_lt (h ▸ a.toNat_lt_size), h])

/-- Encoding writes only characters of the alphabet and `=`: no line break. -/
theorem filter_encode (bs : List UInt8) :
    (encode bs).filter (fun c => c ≠ '\r' ∧ c ≠ '\n') = encode bs := by
  refine List.filter_eq_self.2 fun c hc => ?_
  induction bs using encode.induct with
  | case1 => simp [encode] at hc
  | case2 a =>
    simp only [encode, List.mem_cons, List.mem_singleton, List.not_mem_nil, or_false] at hc
    rcases hc with rfl | rfl | rfl | rfl <;> simp [char_ne]
  | case3 a b =>
    simp only [encode, List.mem_cons, List.mem_singleton, List.not_mem_nil, or_false] at hc
    rcases hc with rfl | rfl | rfl | rfl <;> simp [char_ne]
  | case4 a b c rest ih =>
    simp only [encode, List.mem_cons] at hc
    rcases hc with rfl | rfl | rfl | rfl | hc
    all_goals first | exact ih hc | simp [char_ne]

/-- Decoding undoes encoding. -/
theorem decode_encode (bs : List UInt8) : decode (String.mk (encode bs)) = some bs := by
  unfold decode
  simp only [filter_encode]
  induction bs using encode.induct with
  | case1 => rfl
  | case2 a =>
    have ha : a.toNat < 256 := a.toNat_lt_size
    simp only [encode, decodeQuanta, index_char _ (by omega : a.toNat / 4 < 64),
      index_char _ (by omega : a.toNat % 4 * 16 < 64), Option.pure_def, Option.bind_eq_bind,
      Option.some_bind, Option.some.injEq, List.cons.injEq, and_true]
    exact ofNat_eq (by omega)
  | case3 a b =>
    have ha : a.toNat < 256 := a.toNat_lt_size
    have hb : b.toNat < 256 := b.toNat_lt_size
    have h₃ := (char_ne (b.toNat % 16 * 4)).1
    rw [encode, decodeQuanta.eq_def]
    split
    · simp_all
    · simp_all
    · rename_i hm
      simp only [List.cons.injEq] at hm
      obtain ⟨rfl, rfl, rfl, -⟩ := hm
      simp only [index_char _ (by omega : a.toNat / 4 < 64),
        index_char _ (by omega : a.toNat % 4 * 16 + b.toNat / 16 < 64),
        index_char _ (by omega : b.toNat % 16 * 4 < 64), Option.pure_def, Option.bind_eq_bind,
        Option.some_bind, Option.some.injEq, List.cons.injEq, and_true]
      exact ⟨ofNat_eq (by omega), ofNat_eq (by omega)⟩
    · rename_i hd hm
      simp only [List.cons.injEq] at hm
      exact (hd hm.2.2.2.1.symm hm.2.2.2.2.symm).elim
    · simp_all
  | case4 a b c rest ih =>
    have ha : a.toNat < 256 := a.toNat_lt_size
    have hb : b.toNat < 256 := b.toNat_lt_size
    have hc : c.toNat < 256 := c.toNat_lt_size
    have h₃ := (char_ne (b.toNat % 16 * 4 + c.toNat / 64)).1
    have h₄ := (char_ne (c.toNat % 64)).1
    rw [encode, decodeQuanta.eq_def]
    split
    · simp_all
    · simp_all
    · simp_all
    · rename_i hm
      simp only [List.cons.injEq] at hm
      obtain ⟨rfl, rfl, rfl, rfl, rfl⟩ := hm
      simp only [index_char _ (by omega : a.toNat / 4 < 64),
        index_char _ (by omega : a.toNat % 4 * 16 + b.toNat / 16 < 64),
        index_char _ (by omega : b.toNat % 16 * 4 + c.toNat / 64 < 64),
        index_char _ (by omega : c.toNat % 64 < 64), ih, Option.pure_def, Option.bind_eq_bind,
        Option.some_bind, Option.some.injEq, List.cons.injEq, and_true]
      exact ⟨ofNat_eq (by omega), ofNat_eq (by omega), ofNat_eq (by omega)⟩
    · rename_i hne
      exact (hne _ _ _ _ _ rfl).elim

end Base64

namespace Utf8

/-- The characters of a byte string as `encoding/json` writes a Go `string` holding it: each valid
UTF-8 sequence as its character, each byte that starts none as U+FFFD (`fuel` bounds the steps;
each takes a byte at least). -/
def decodeLossy : Nat → List UInt8 → List Char
  | _, [] => []
  | 0, _ :: _ => []
  | fuel + 1, b :: bs =>
    match String.utf8DecodeChar? ⟨(b :: bs).toArray⟩ 0 with
    | some c => c :: decodeLossy fuel ((b :: bs).drop c.utf8Size)
    | none => '�' :: decodeLossy fuel bs

/-- `string(content)` as the JSON response carries it. -/
def toJson (bs : List UInt8) : String := String.mk (decodeLossy bs.length bs)

end Utf8

end VolumeManager
