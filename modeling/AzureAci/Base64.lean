import AzureAci.Go

/-!
# `encoding/base64`, standard encoding

Go's `base64.StdEncoding`, which `makeRegistryCredential` uses to read the `auth` field of a
docker config. The decoder is `decodeQuantum` run one input byte at a time: it skips `\r` and
`\n`, requires `=` padding, tolerates non-zero trailing bits, and fails with the offset Go's
`CorruptInputError` reports. The encoder is `EncodeToString`; the main result is that decoding
inverts it.
-/

namespace AzureAci
namespace Base64

/-- The standard alphabet: the byte that encodes a sextet. -/
def encodeSextet (sextet : Nat) : UInt8 :=
  (if sextet < 26 then 65 + sextet
   else if sextet < 52 then 71 + sextet
   else if sextet < 62 then sextet - 4
   else if sextet = 62 then 43 else 47).toUInt8

/-- The decode map of the standard alphabet: the sextet a byte encodes, if any. -/
def decodeMap (b : UInt8) : Option Nat :=
  let n := b.toNat
  if 65 ≤ n ∧ n ≤ 90 then some (n - 65)
  else if 97 ≤ n ∧ n ≤ 122 then some (n - 71)
  else if 48 ≤ n ∧ n ≤ 57 then some (n + 4)
  else if n = 43 then some 62
  else if n = 47 then some 63
  else none

/-- The padding byte `=`. -/
def padChar : UInt8 := 61

/-- The bytes the decoder skips, `\n` and `\r`. -/
def isNewline (b : UInt8) : Prop := b = 10 ∨ b = 13

instance : DecidablePred isNewline := fun b => inferInstanceAs (Decidable (b = 10 ∨ b = 13))

/-- The four sextets of a 24-bit group, most significant first. -/
def sextets (group : Nat) : List Nat :=
  [group / 262144 % 64, group / 4096 % 64, group / 64 % 64, group % 64]

/-- `StdEncoding.EncodeToString`: each group of three bytes becomes four, and a last group of
one or two bytes is padded with `=`. -/
def encode : Bytes → Bytes
  | b0 :: b1 :: b2 :: rest =>
      (sextets (b0.toNat * 65536 + b1.toNat * 256 + b2.toNat)).map encodeSextet ++ encode rest
  | [b0, b1] => ((sextets (b0.toNat * 65536 + b1.toNat * 256)).take 3).map encodeSextet ++ [padChar]
  | [b0] => ((sextets (b0.toNat * 65536)).take 2).map encodeSextet ++ [padChar, padChar]
  | [] => []

/-- The bytes of a decoded quantum: four sextets give three bytes, a quantum cut short by padding
after three or two sextets gives two or one; the missing sextets count as zero. -/
def quantumBytes : List Nat → Bytes
  | [s0, s1, s2, s3] =>
      let group := ((s0 * 64 + s1) * 64 + s2) * 64 + s3
      [(group / 65536).toUInt8, (group / 256 % 256).toUInt8, (group % 256).toUInt8]
  | [s0, s1, s2] =>
      let group := ((s0 * 64 + s1) * 64 + s2) * 64
      [(group / 65536).toUInt8, (group / 256 % 256).toUInt8]
  | [s0, s1] => [((s0 * 64 + s1) * 4096 / 65536).toUInt8]
  | _ => []

/-- Where `decodeQuantum` stands between two input bytes. -/
inductive DecodeState where
  /-- Inside a quantum, with its sextets so far and the bytes decoded before it. -/
  | quantum (sextets : List Nat) (decoded : Bytes)
  /-- After the first `=` of `==`, waiting for the second. -/
  | secondPad (sextets : List Nat) (decoded : Bytes)
  /-- After the padding, where only newlines may follow. -/
  | trailing (decoded : Bytes)
  deriving DecidableEq, Repr

/-- `decodeQuantum`, one byte at a time; `offset` is the index of the next input byte, and an
error is the offset `CorruptInputError` reports. -/
def decodeFrom (offset : Nat) : DecodeState → Bytes → Except Nat Bytes
  | .quantum sextets decoded, [] =>
      if sextets = [] then .ok decoded else .error (offset - sextets.length)
  | .secondPad _ _, [] => .error offset
  | .trailing decoded, [] => .ok decoded
  | .quantum sextets decoded, b :: rest =>
      match decodeMap b with
      | some sextet =>
          if sextets.length = 3 then
            decodeFrom (offset + 1)
              (.quantum [] (decoded ++ quantumBytes (sextets ++ [sextet]))) rest
          else decodeFrom (offset + 1) (.quantum (sextets ++ [sextet]) decoded) rest
      | none =>
          if isNewline b then decodeFrom (offset + 1) (.quantum sextets decoded) rest
          else if b ≠ padChar then .error offset
          else if sextets.length < 2 then .error offset
          else if sextets.length = 2 then decodeFrom (offset + 1) (.secondPad sextets decoded) rest
          else decodeFrom (offset + 1) (.trailing (decoded ++ quantumBytes sextets)) rest
  | .secondPad sextets decoded, b :: rest =>
      if isNewline b then decodeFrom (offset + 1) (.secondPad sextets decoded) rest
      else if b ≠ padChar then .error (offset - 1)
      else decodeFrom (offset + 1) (.trailing (decoded ++ quantumBytes sextets)) rest
  | .trailing decoded, b :: rest =>
      if isNewline b then decodeFrom (offset + 1) (.trailing decoded) rest
      else .error offset

/-- `StdEncoding.DecodeString`. -/
def decodeString (encoded : Bytes) : Except Nat Bytes := decodeFrom 0 (.quantum [] []) encoded

/-- A `=` that starts a quantum is refused at its own offset, after a newline is skipped. -/
example : decodeString [100, 84, 112, 10, 119, 61] = .error 5 := by decide

/-! ## Decoding inverts encoding -/

theorem decodeMap_encodeSextet : ∀ sextet < 64, decodeMap (encodeSextet sextet) = some sextet := by
  decide

@[simp] theorem decodeMap_encodeSextet_mod (n : Nat) :
    decodeMap (encodeSextet (n % 64)) = some (n % 64) :=
  decodeMap_encodeSextet _ (Nat.mod_lt _ (by decide))

private theorem toUInt8_eq {n : Nat} {b : UInt8} (value : n = b.toNat) : n.toUInt8 = b := by
  subst value
  apply UInt8.eq_of_toBitVec_eq
  simp [UInt8.ofNat, UInt8.toNat]

/-- Four sextets put back together give the 24-bit group they were cut from. -/
private theorem sextets_reassemble {group : Nat} (small : group < 16777216) :
    ((group / 262144 % 64 * 64 + group / 4096 % 64) * 64 + group / 64 % 64) * 64 + group % 64 =
      group := by
  omega

theorem quantumBytes_sextets (b0 b1 b2 : UInt8) :
    quantumBytes (sextets (b0.toNat * 65536 + b1.toNat * 256 + b2.toNat)) = [b0, b1, b2] := by
  have h0 := b0.toNat_lt_size
  have h1 := b1.toNat_lt_size
  have h2 := b2.toNat_lt_size
  simp only [UInt8.size] at h0 h1 h2
  have small : b0.toNat * 65536 + b1.toNat * 256 + b2.toNat < 16777216 := by omega
  simp only [sextets, quantumBytes, sextets_reassemble small, List.cons.injEq, and_true]
  exact ⟨toUInt8_eq (by omega), toUInt8_eq (by omega), toUInt8_eq (by omega)⟩

theorem quantumBytes_sextets_two (b0 b1 : UInt8) :
    quantumBytes ((sextets (b0.toNat * 65536 + b1.toNat * 256)).take 3) = [b0, b1] := by
  have h0 := b0.toNat_lt_size
  have h1 := b1.toNat_lt_size
  simp only [UInt8.size] at h0 h1
  have whole := sextets_reassemble (by omega : b0.toNat * 65536 + b1.toNat * 256 < 16777216)
  simp only [sextets, List.take, quantumBytes, List.cons.injEq, and_true]
  exact ⟨toUInt8_eq (by omega), toUInt8_eq (by omega)⟩

theorem quantumBytes_sextets_one (b0 : UInt8) :
    quantumBytes ((sextets (b0.toNat * 65536)).take 2) = [b0] := by
  have h0 := b0.toNat_lt_size
  simp only [UInt8.size] at h0
  have whole := sextets_reassemble (by omega : b0.toNat * 65536 < 16777216)
  simp only [sextets, List.take, quantumBytes, List.cons.injEq, and_true]
  exact toUInt8_eq (by omega)

@[simp] theorem decodeMap_padChar : decodeMap padChar = none := by decide

@[simp] theorem not_isNewline_padChar : ¬ isNewline padChar := by decide

theorem decodeFrom_sextet (n : Nat) (sextets : List Nat) (decoded rest : Bytes) (offset : Nat) :
    decodeFrom offset (.quantum sextets decoded) (encodeSextet (n % 64) :: rest) =
      if sextets.length = 3 then
        decodeFrom (offset + 1) (.quantum [] (decoded ++ quantumBytes (sextets ++ [n % 64]))) rest
      else decodeFrom (offset + 1) (.quantum (sextets ++ [n % 64]) decoded) rest := by
  simp [decodeFrom]

/-- Decoding inverts encoding, from any offset and after any bytes already decoded. -/
theorem decodeFrom_encode (bytes : Bytes) (offset : Nat) (decoded : Bytes) :
    decodeFrom offset (.quantum [] decoded) (encode bytes) = .ok (decoded ++ bytes) := by
  induction bytes using encode.induct generalizing offset decoded with
  | case1 b0 b1 b2 rest induction =>
      have group := quantumBytes_sextets b0 b1 b2
      simp only [sextets] at group
      simp [encode, sextets, decodeFrom_sextet, group, induction]
  | case2 b0 b1 =>
      have group := quantumBytes_sextets_two b0 b1
      simp only [sextets, List.take] at group
      simp [encode, sextets, decodeFrom_sextet, group, decodeFrom]
  | case3 b0 =>
      have group := quantumBytes_sextets_one b0
      simp only [sextets, List.take] at group
      simp [encode, sextets, decodeFrom_sextet, group, decodeFrom]
  | case4 => simp [encode, decodeFrom]

/-- `DecodeString` inverts `EncodeToString` on every byte string. -/
theorem decodeString_encode (bytes : Bytes) : decodeString (encode bytes) = .ok bytes := by
  simpa using decodeFrom_encode bytes 0 []

example : encode [117, 58, 112] = [100, 84, 112, 119] := by decide

@[simp] theorem encode_eq_nil (bytes : Bytes) : encode bytes = [] ↔ bytes = [] := by
  match bytes with
  | [] | [_] | [_, _] | _ :: _ :: _ :: _ => simp [encode, sextets]

/-! ## Line breaks -/

/-- The input without its `\r` and `\n` bytes. -/
def dropNewlines (bytes : Bytes) : Bytes := bytes.filter fun b => !decide (isNewline b)

theorem decodeMap_of_isNewline {b : UInt8} (newline : isNewline b) : decodeMap b = none := by
  rcases newline with rfl | rfl <;> decide

theorem decodeFrom_newline {b : UInt8} (newline : isNewline b) (offset : Nat)
    (state : DecodeState) (rest : Bytes) :
    decodeFrom offset state (b :: rest) = decodeFrom (offset + 1) state rest := by
  cases state <;> simp [decodeFrom, decodeMap_of_isNewline newline, newline]

theorem toOption_decodeFrom_nil (offset offset' : Nat) (state : DecodeState) :
    (decodeFrom offset state []).toOption = (decodeFrom offset' state []).toOption := by
  cases state with
  | quantum sextets decoded => simp only [decodeFrom]; split_ifs <;> rfl
  | secondPad | trailing => rfl

/-- The decoder accepts the input exactly when it accepts it without line breaks, and returns the
same bytes. -/
theorem toOption_decodeFrom_dropNewlines (bytes : Bytes) :
    ∀ (offset offset' : Nat) (state : DecodeState),
      (decodeFrom offset state bytes).toOption =
        (decodeFrom offset' state (dropNewlines bytes)).toOption := by
  induction bytes with
  | nil => exact toOption_decodeFrom_nil
  | cons b rest induction =>
      intro offset offset' state
      by_cases newline : isNewline b
      · rw [decodeFrom_newline newline, dropNewlines, List.filter_cons_of_neg (by simp [newline])]
        exact induction _ _ _
      · rw [dropNewlines, List.filter_cons_of_pos (by simp [newline]), ← dropNewlines]
        cases state with
        | quantum sextets decoded =>
            cases decoded : decodeMap b <;> simp only [decodeFrom, decoded, newline, if_false] <;>
              split_ifs <;> first | rfl | exact induction _ _ _
        | secondPad sextets decoded =>
            simp only [decodeFrom, newline, if_false]
            split_ifs <;> first | rfl | exact induction _ _ _
        | trailing decoded => simp [decodeFrom, newline, Except.toOption]

/-- `DecodeString` ignores `\r` and `\n`: it accepts an input exactly when it accepts the input
without them, and returns the same bytes. -/
theorem decodeString_dropNewlines (bytes : Bytes) :
    (decodeString (dropNewlines bytes)).toOption = (decodeString bytes).toOption :=
  (toOption_decodeFrom_dropNewlines bytes 0 0 _).symm

end Base64
end AzureAci
