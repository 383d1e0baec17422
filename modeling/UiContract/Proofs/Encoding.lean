import Mathlib.Data.Char
import UiContract.Text.Utf8

/-!
The bytes of a text tell its characters: no character begins with the bytes of another one, so a text
whose bytes begin with those of another text begins with that text. A reader of those bytes gets the text
back.
-/
namespace UiContract.Text

theorem encode_append (front back : List Char) :
    encode (front ++ back) = encode front ++ encode back :=
  List.flatMap_append

theorem encode_cons (character : Char) (rest : List Char) :
    encode (character :: rest) = encodeChar character ++ encode rest :=
  List.flatMap_cons

theorem byteSize_append (front back : List Char) :
    byteSize (front ++ back) = byteSize front + byteSize back := by
  induction front with
  | nil => exact (Nat.zero_add _).symm
  | cons character front ih =>
      show charSize character + byteSize (front ++ back) =
        charSize character + byteSize front + byteSize back
      rw [ih, Nat.add_assoc]

theorem toNat_toUInt8 (number : Nat) : number.toUInt8.toNat = number % 256 := by
  exact UInt8.toNat_ofNat'

theorem code_lt (character : Char) : character.toNat < 0x110000 := by
  have valid := character.valid
  show character.val.toNat < 0x110000
  unfold UInt32.isValidChar Nat.isValidChar at valid
  omega

theorem encodeChar_append_cancel (first second : Char) (rest others : List UInt8)
    (same : encodeChar first ++ rest = encodeChar second ++ others) :
    first = second ∧ rest = others := by
  have bound := code_lt first
  have bound' := code_lt second
  suffices first.toNat = second.toNat by
    obtain rfl := Char.toNat_inj.mp this
    exact ⟨rfl, List.append_cancel_left same⟩
  -- The lead byte tells how many bytes there are, and the bits of these bytes are those of the number.
  unfold encodeChar at same
  dsimp only at same
  split_ifs at same <;>
    simp only [List.cons_append, List.nil_append, List.cons.injEq, ← UInt8.toNat_inj,
      toNat_toUInt8] at same <;>
    omega

theorem encodeChar_ne_nil (character : Char) : encodeChar character ≠ [] := by
  unfold encodeChar
  dsimp only
  split_ifs <;> exact List.cons_ne_nil _ _

/-- Bytes that begin with those of a text are those of a text that begins with it. -/
theorem encode_prefix (front text : List Char) (rest : List UInt8)
    (same : encode text = encode front ++ rest) :
    ∃ back, text = front ++ back ∧ encode back = rest := by
  induction front generalizing text with
  | nil => exact ⟨text, rfl, same⟩
  | cons character front ih =>
      rw [encode_cons, List.append_assoc] at same
      cases text with
      | nil => exact absurd (List.append_eq_nil_iff.mp same.symm).1 (encodeChar_ne_nil character)
      | cons other text =>
          rw [encode_cons] at same
          obtain ⟨rfl, same'⟩ := encodeChar_append_cancel other character _ _ same
          obtain ⟨back, rfl, held⟩ := ih text same'
          exact ⟨back, rfl, held⟩

theorem encode_injective {first second : List Char} (same : encode first = encode second) :
    first = second := by
  obtain ⟨back, rfl, none⟩ := encode_prefix second first [] (by rw [same, List.append_nil])
  cases back with
  | nil => exact List.append_nil second
  | cons character back =>
      rw [encode_cons] at none
      exact absurd (List.append_eq_nil_iff.mp none).1 (encodeChar_ne_nil character)

theorem toNat_toUInt8_of_lt {number : Nat} (small : number < 256) : number.toUInt8.toNat = number := by
  rw [toNat_toUInt8, Nat.mod_eq_of_lt small]

theorem surrogate_free (character : Char) : character.toNat < 0xD800 ∨ 0xDFFF < character.toNat := by
  have valid := character.valid
  show character.val.toNat < 0xD800 ∨ 0xDFFF < character.val.toNat
  unfold UInt32.isValidChar Nat.isValidChar at valid
  omega

theorem next_inside {pending : Pending} (read : List (Option Char)) {byte : Nat} (small : byte < 256)
    (low : pending.least ≤ byte) (high : byte ≤ pending.greatest) (more : 1 < pending.owed) :
    Decoding.next ⟨some pending, read⟩ byte.toUInt8 =
      ⟨some ⟨pending.bits * 0x40 + (byte - 0x80), pending.owed - 1, 0x80, 0xBF⟩, read⟩ := by
  have owed : (pending.owed - 1 == 0) = false := by
    rw [beq_eq_false_iff_ne]
    omega
  simp [Decoding.next, Pending.take, toNat_toUInt8_of_lt small, low, high, owed]

theorem next_last {pending : Pending} (read : List (Option Char)) {byte : Nat} (small : byte < 256)
    (low : pending.least ≤ byte) (high : byte ≤ pending.greatest) (last : pending.owed = 1) :
    Decoding.next ⟨some pending, read⟩ byte.toUInt8 =
      ⟨none, some (Char.ofNat (pending.bits * 0x40 + (byte - 0x80))) :: read⟩ := by
  simp [Decoding.next, Pending.take, toNat_toUInt8_of_lt small, low, high, last]

theorem next_lead (read : List (Option Char)) {byte : Nat} (small : byte < 256) (lead : 0x80 ≤ byte)
    {pending : Pending} (asks : leadByte byte = some pending) :
    Decoding.next ⟨none, read⟩ byte.toUInt8 = ⟨some pending, read⟩ := by
  have wide : ¬ byte < 0x80 := Nat.not_lt_of_ge lead
  simp [Decoding.next, Decoding.begin, toNat_toUInt8_of_lt small, wide, asks]

theorem leadByte_two (byte : Nat) (low : 0xC2 ≤ byte) (high : byte ≤ 0xDF) :
    leadByte byte = some ⟨byte - 0xC0, 1, 0x80, 0xBF⟩ := by
  unfold leadByte
  rw [if_neg (Nat.not_lt_of_ge low), if_pos high]

/-- The second of three bytes has bounds that leave out what two bytes can say and what is no
character. -/
theorem leadByte_three (byte : Nat) (low : 0xE0 ≤ byte) (high : byte ≤ 0xEF) :
    leadByte byte = some ⟨byte - 0xE0, 2, if byte = 0xE0 then 0xA0 else 0x80,
      if byte = 0xED then 0x9F else 0xBF⟩ := by
  unfold leadByte
  rw [if_neg (by omega), if_neg (by omega)]
  by_cases first : byte = 0xE0
  · subst first
    rfl
  · by_cases last : byte = 0xED
    · subst last
      rfl
    · rw [if_neg (by simpa using first), if_neg (by simpa using last), if_pos high, if_neg first,
        if_neg last]

theorem leadByte_four (byte : Nat) (low : 0xF0 ≤ byte) (high : byte ≤ 0xF4) :
    leadByte byte = some ⟨byte - 0xF0, 3, if byte = 0xF0 then 0x90 else 0x80,
      if byte = 0xF4 then 0x8F else 0xBF⟩ := by
  obtain rfl | rfl | rfl | rfl | rfl : byte = 0xF0 ∨ byte = 0xF1 ∨ byte = 0xF2 ∨ byte = 0xF3 ∨
      byte = 0xF4 := by omega
  all_goals rfl

theorem foldl_encodeChar (character : Char) (read : List (Option Char)) :
    (encodeChar character).foldl Decoding.next ⟨none, read⟩ = ⟨none, some character :: read⟩ := by
  have bound := code_lt character
  have valid := surrogate_free character
  suffices ∀ code, code = character.toNat → (encodeChar character).foldl Decoding.next ⟨none, read⟩ =
      ⟨none, some (Char.ofNat code) :: read⟩ by
    rw [this _ rfl, Char.ofNat_toNat]
  intro code same
  unfold encodeChar
  rw [← same] at bound valid ⊢
  dsimp only
  split_ifs with one two three
  · simp [Decoding.next, Decoding.begin, toNat_toUInt8_of_lt (Nat.lt_trans one (by omega : 128 < 256)), one]
  · have lead := leadByte_two (0xC0 + code / 0x40) (by omega) (by omega)
    rw [List.foldl_cons, next_lead read (by omega) (by omega) lead, List.foldl_cons,
      next_last read (by omega) (by dsimp only; omega) (by dsimp only; omega) rfl, List.foldl_nil]
    refine congrArg (fun number => Decoding.mk none (some (Char.ofNat number) :: read)) ?_
    dsimp only
    omega
  · have lead := leadByte_three (0xE0 + code / 0x1000) (by omega) (by omega)
    rw [List.foldl_cons, next_lead read (by omega) (by omega) lead, List.foldl_cons,
      next_inside read (by omega) (by dsimp only; split_ifs <;> omega)
        (by dsimp only; split_ifs <;> omega) (by dsimp only; omega), List.foldl_cons,
      next_last read (by omega) (by dsimp only; omega) (by dsimp only; omega) rfl, List.foldl_nil]
    refine congrArg (fun number => Decoding.mk none (some (Char.ofNat number) :: read)) ?_
    dsimp only
    omega
  · have lead := leadByte_four (0xF0 + code / 0x40000) (by omega) (by omega)
    rw [List.foldl_cons, next_lead read (by omega) (by omega) lead, List.foldl_cons,
      next_inside read (by omega) (by dsimp only; split_ifs <;> omega)
        (by dsimp only; split_ifs <;> omega) (by dsimp only; omega), List.foldl_cons,
      next_inside read (by omega) (by dsimp only; omega) (by dsimp only; omega)
        (by dsimp only; omega), List.foldl_cons,
      next_last read (by omega) (by dsimp only; omega) (by dsimp only; omega) rfl, List.foldl_nil]
    refine congrArg (fun number => Decoding.mk none (some (Char.ofNat number) :: read)) ?_
    dsimp only
    omega

theorem foldl_encode (text : List Char) (read : List (Option Char)) :
    (encode text).foldl Decoding.next ⟨none, read⟩ = ⟨none, (text.map some).reverse ++ read⟩ := by
  induction text generalizing read with
  | nil => rfl
  | cons character rest ih =>
      rw [encode_cons, List.foldl_append, foldl_encodeChar, ih, List.map_cons, List.reverse_cons,
        List.append_assoc, List.singleton_append]

theorem decodeLossy_encode (text : List Char) : decodeLossy (encode text) = text := by
  unfold decodeLossy decodeEach
  rw [foldl_encode, Decoding.finish, List.append_nil, List.reverse_reverse, List.map_map]
  exact List.map_id text

end UiContract.Text
