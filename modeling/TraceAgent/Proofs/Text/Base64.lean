import TraceAgent.Text.Base64

/-! Reading base64 gives back what was written, and nothing else is read. -/

set_option autoImplicit false

namespace TraceAgent.Base64

/-- The alphabet has a digit for each value. The padding is not among them, nor are the characters
that divide the texts of a header. -/
theorem digit_sound :
    ∀ value : Fin 64, value? (digit value) = some value.val ∧
      digit value ≠ '=' ∧ digit value ∉ ['-', ',', ':'] := by decide

theorem value?_digit {value : Nat} (small : value < 64) : value? (digit value) = some value :=
  (digit_sound ⟨value, small⟩).1

theorem digit_ne_pad {value : Nat} (small : value < 64) : digit value ≠ '=' :=
  (digit_sound ⟨value, small⟩).2.1

theorem digit_not_divider (value : Nat) : digit value ∉ ['-', ',', ':'] := by
  by_cases small : value < 64
  · exact (digit_sound ⟨value, small⟩).2.2
  · -- past the alphabet every value has the last digit
    unfold digit
    repeat rw [if_neg (by omega)]
    decide

theorem ofNat_eq {byte : UInt8} {parts : Nat} (same : parts = byte.toNat) :
    UInt8.ofNat parts = byte := by
  rw [same, UInt8.ofNat_toNat]

theorem byteOfTwo?_digits (a : UInt8) :
    byteOfTwo? (digit (a.toNat / 4)) (digit (a.toNat % 4 * 16)) = some [a] := by
  have bound := a.toNat_lt
  have unused : a.toNat % 4 * 16 % 16 = 0 := by omega
  have whole : UInt8.ofNat (a.toNat / 4 * 4 + a.toNat % 4 * 16 / 16) = a := ofNat_eq (by omega)
  simp only [byteOfTwo?, value?_digit (show a.toNat / 4 < 64 by omega),
    value?_digit (show a.toNat % 4 * 16 < 64 by omega), Option.bind_eq_bind, Option.bind_some,
    unused, if_true, whole]

theorem bytesOfThree?_digits (a b : UInt8) :
    bytesOfThree? (digit (a.toNat / 4)) (digit (a.toNat % 4 * 16 + b.toNat / 16))
      (digit (b.toNat % 16 * 4)) = some [a, b] := by
  have bound := a.toNat_lt
  have otherBound := b.toNat_lt
  have unused : b.toNat % 16 * 4 % 4 = 0 := by omega
  have first : UInt8.ofNat (a.toNat / 4 * 4 + (a.toNat % 4 * 16 + b.toNat / 16) / 16) = a :=
    ofNat_eq (by omega)
  have second : UInt8.ofNat ((a.toNat % 4 * 16 + b.toNat / 16) % 16 * 16 + b.toNat % 16 * 4 / 4) = b :=
    ofNat_eq (by omega)
  simp only [bytesOfThree?, value?_digit (show a.toNat / 4 < 64 by omega),
    value?_digit (show a.toNat % 4 * 16 + b.toNat / 16 < 64 by omega),
    value?_digit (show b.toNat % 16 * 4 < 64 by omega), Option.bind_eq_bind, Option.bind_some,
    unused, if_true, first, second]

theorem bytesOfFour?_digits (a b c : UInt8) :
    bytesOfFour? (digit (a.toNat / 4)) (digit (a.toNat % 4 * 16 + b.toNat / 16))
      (digit (b.toNat % 16 * 4 + c.toNat / 64)) (digit (c.toNat % 64)) = some [a, b, c] := by
  have bound := a.toNat_lt
  have secondBound := b.toNat_lt
  have thirdBound := c.toNat_lt
  have first : UInt8.ofNat (a.toNat / 4 * 4 + (a.toNat % 4 * 16 + b.toNat / 16) / 16) = a :=
    ofNat_eq (by omega)
  have second : UInt8.ofNat ((a.toNat % 4 * 16 + b.toNat / 16) % 16 * 16 +
      (b.toNat % 16 * 4 + c.toNat / 64) / 4) = b := ofNat_eq (by omega)
  have third : UInt8.ofNat ((b.toNat % 16 * 4 + c.toNat / 64) % 4 * 64 + c.toNat % 64) = c :=
    ofNat_eq (by omega)
  simp only [bytesOfFour?, value?_digit (show a.toNat / 4 < 64 by omega),
    value?_digit (show a.toNat % 4 * 16 + b.toNat / 16 < 64 by omega),
    value?_digit (show b.toNat % 16 * 4 + c.toNat / 64 < 64 by omega),
    value?_digit (show c.toNat % 64 < 64 by omega), Option.bind_eq_bind, Option.bind_some,
    first, second, third]

theorem decode?_encode (bytes : List UInt8) : decode? (encode bytes) = some bytes := by
  induction bytes using encode.induct with
  | case1 => rfl
  | case2 a =>
    -- Two digits and two pads.
    rw [encode, decode?, if_pos rfl, if_pos List.isEmpty_nil, if_pos rfl]
    exact byteOfTwo?_digits a
  | case3 a b =>
    have unpadded := digit_ne_pad (show b.toNat % 16 * 4 < 64 by omega)
    -- Three digits and one pad.
    rw [encode, decode?, if_pos rfl, if_pos List.isEmpty_nil, if_neg unpadded]
    exact bytesOfThree?_digits a b
  | case4 a b c rest ih =>
    have unpadded := digit_ne_pad (show c.toNat % 64 < 64 by omega)
    rw [encode, decode?, if_neg unpadded, bytesOfFour?_digits, ih]
    rfl

theorem digit_of_value? {c : Char} {value : Nat} (reads : value? c = some value) :
    value < 64 ∧ digit value = c := by
  have ordered : ∀ {low high : Char}, low ≤ c ∧ c ≤ high → low.toNat ≤ c.toNat ∧ c.toNat ≤ high.toNat :=
    fun between => between
  have back : ∀ {code : Nat}, code = c.toNat → Char.ofNat code = c := by
    rintro _ rfl
    exact Char.ofNat_toNat c
  unfold value? at reads
  unfold digit
  split at reads
  next upper =>
    have range := ordered upper
    simp only [Option.some.injEq, Char.reduceToNat] at reads range
    refine ⟨by omega, ?_⟩
    rw [if_pos (by omega)]
    exact back (by omega)
  split at reads
  next lower =>
    have range := ordered lower
    simp only [Option.some.injEq, Char.reduceToNat] at reads range
    refine ⟨by omega, ?_⟩
    rw [if_neg (by omega), if_pos (by omega)]
    exact back (by omega)
  split at reads
  next decimal =>
    have range := ordered decimal
    simp only [Option.some.injEq, Char.reduceToNat] at reads range
    refine ⟨by omega, ?_⟩
    rw [if_neg (by omega), if_neg (by omega), if_pos (by omega)]
    exact back (by omega)
  split at reads
  next plus =>
    cases reads
    exact ⟨by decide, plus.symm⟩
  split at reads
  next slash =>
    cases reads
    exact ⟨by decide, slash.symm⟩
  next => cases reads

theorem encode_of_byteOfTwo? {p q : Char} {bytes : List UInt8}
    (reads : byteOfTwo? p q = some bytes) : encode bytes = [p, q, '=', '='] := by
  simp only [byteOfTwo?, Option.bind_eq_bind, Option.bind_eq_some_iff] at reads
  obtain ⟨high, first, low, second, reads⟩ := reads
  obtain ⟨highBound, rfl⟩ := digit_of_value? first
  obtain ⟨lowBound, rfl⟩ := digit_of_value? second
  split at reads
  next unused =>
    cases reads
    have byte : (UInt8.ofNat (high * 4 + low / 16)).toNat = high * 4 + low / 16 :=
      UInt8.toNat_ofNat_of_lt (show _ < 256 by omega)
    have upper : (high * 4 + low / 16) / 4 = high := by omega
    have rest : (high * 4 + low / 16) % 4 * 16 = low := by omega
    simp only [encode, byte, upper, rest]
  next => cases reads

theorem encode_of_bytesOfThree? {p q r : Char} {bytes : List UInt8}
    (reads : bytesOfThree? p q r = some bytes) : encode bytes = [p, q, r, '='] := by
  simp only [bytesOfThree?, Option.bind_eq_bind, Option.bind_eq_some_iff] at reads
  obtain ⟨high, first, middle, second, low, third, reads⟩ := reads
  obtain ⟨highBound, rfl⟩ := digit_of_value? first
  obtain ⟨middleBound, rfl⟩ := digit_of_value? second
  obtain ⟨lowBound, rfl⟩ := digit_of_value? third
  split at reads
  next unused =>
    cases reads
    have byte : (UInt8.ofNat (high * 4 + middle / 16)).toNat = high * 4 + middle / 16 :=
      UInt8.toNat_ofNat_of_lt (show _ < 256 by omega)
    have next : (UInt8.ofNat (middle % 16 * 16 + low / 4)).toNat = middle % 16 * 16 + low / 4 :=
      UInt8.toNat_ofNat_of_lt (show _ < 256 by omega)
    have upper : (high * 4 + middle / 16) / 4 = high := by omega
    have between : (high * 4 + middle / 16) % 4 * 16 + (middle % 16 * 16 + low / 4) / 16 = middle := by
      omega
    have rest : (middle % 16 * 16 + low / 4) % 16 * 4 = low := by omega
    simp only [encode, byte, next, upper, between, rest]
  next => cases reads

theorem encode_of_bytesOfFour? {p q r s : Char} {bytes : List UInt8}
    (reads : bytesOfFour? p q r s = some bytes) (rest : List UInt8) :
    encode (bytes ++ rest) = p :: q :: r :: s :: encode rest := by
  simp only [bytesOfFour?, Option.bind_eq_bind, Option.bind_eq_some_iff] at reads
  obtain ⟨high, first, upper, second, lower, third, low, fourth, reads⟩ := reads
  obtain ⟨highBound, rfl⟩ := digit_of_value? first
  obtain ⟨upperBound, rfl⟩ := digit_of_value? second
  obtain ⟨lowerBound, rfl⟩ := digit_of_value? third
  obtain ⟨lowBound, rfl⟩ := digit_of_value? fourth
  cases reads
  have byte : (UInt8.ofNat (high * 4 + upper / 16)).toNat = high * 4 + upper / 16 :=
    UInt8.toNat_ofNat_of_lt (show _ < 256 by omega)
  have second : (UInt8.ofNat (upper % 16 * 16 + lower / 4)).toNat = upper % 16 * 16 + lower / 4 :=
    UInt8.toNat_ofNat_of_lt (show _ < 256 by omega)
  have third : (UInt8.ofNat (lower % 4 * 64 + low)).toNat = lower % 4 * 64 + low :=
    UInt8.toNat_ofNat_of_lt (show _ < 256 by omega)
  have firstDigit : (high * 4 + upper / 16) / 4 = high := by omega
  have secondDigit :
      (high * 4 + upper / 16) % 4 * 16 + (upper % 16 * 16 + lower / 4) / 16 = upper := by omega
  have thirdDigit :
      (upper % 16 * 16 + lower / 4) % 16 * 4 + (lower % 4 * 64 + low) / 64 = lower := by omega
  have fourthDigit : (lower % 4 * 64 + low) % 64 = low := by omega
  simp only [List.cons_append, List.nil_append, encode, byte, second, third, firstDigit, secondDigit,
    thirdDigit, fourthDigit]

/-- Only what was written is read. -/
theorem encode_of_decode? {written : List Char} {bytes : List UInt8}
    (reads : decode? written = some bytes) : encode bytes = written := by
  induction written using decode?.induct generalizing bytes with
  | case1 =>
    cases reads
    rfl
  | case2 p q rest ended =>
    cases List.isEmpty_iff.mp ended
    exact encode_of_byteOfTwo? reads
  | case3 p q r rest ended unpadded =>
    cases List.isEmpty_iff.mp ended
    rw [decode?, if_pos rfl, if_pos ended, if_neg unpadded] at reads
    exact encode_of_bytesOfThree? reads
  | case4 p q r rest goesOn =>
    rw [decode?, if_pos rfl, if_neg goesOn] at reads
    cases reads
  | case5 p q r s rest unpadded ih =>
    rw [decode?, if_neg unpadded] at reads
    simp only [Option.bind_eq_bind, Option.bind_eq_some_iff] at reads
    obtain ⟨head, group, tail, others, same⟩ := reads
    cases same
    rw [encode_of_bytesOfFour? group, ih others]
  | case6 written blank short =>
    -- Fewer than four characters are no group.
    unfold decode? at reads
    split at reads
    · exact absurd rfl blank
    next p q r s rest => exact (short p q r s rest rfl).elim
    next => cases reads

theorem decode?_eq_some {written : List Char} {bytes : List UInt8} :
    decode? written = some bytes ↔ written = encode bytes := by
  constructor
  · exact fun reads => (encode_of_decode? reads).symm
  · rintro rfl
    exact decode?_encode bytes

theorem eq_of_mem_encode {bytes : List UInt8} {c : Char} (member : c ∈ encode bytes) :
    c = '=' ∨ ∃ value, c = digit value := by
  induction bytes using encode.induct with
  | case1 => cases member
  | case2 a =>
    simp only [encode, List.mem_cons, List.not_mem_nil, or_false] at member
    rcases member with digit | digit | pad | pad
    · exact .inr ⟨_, digit⟩
    · exact .inr ⟨_, digit⟩
    · exact .inl pad
    · exact .inl pad
  | case3 a b =>
    simp only [encode, List.mem_cons, List.not_mem_nil, or_false] at member
    rcases member with digit | digit | digit | pad
    · exact .inr ⟨_, digit⟩
    · exact .inr ⟨_, digit⟩
    · exact .inr ⟨_, digit⟩
    · exact .inl pad
  | case4 a b c rest ih =>
    simp only [encode, List.mem_cons] at member
    rcases member with digit | digit | digit | digit | later
    · exact .inr ⟨_, digit⟩
    · exact .inr ⟨_, digit⟩
    · exact .inr ⟨_, digit⟩
    · exact .inr ⟨_, digit⟩
    · exact ih later

theorem divider_not_mem_encode {divider : Char} (divides : divider ∈ ['-', ',', ':'])
    (bytes : List UInt8) : divider ∉ encode bytes := by
  intro member
  rcases eq_of_mem_encode member with rfl | ⟨value, rfl⟩
  · exact absurd divides (by decide)
  · exact digit_not_divider value divides

theorem decodeText?_encodeText (written : String) :
    decodeText? (encodeText written) = some written := by
  unfold decodeText? encodeText
  rw [decode?_encode, Option.bind_some]
  exact dif_pos written.isValidUTF8

theorem decodeText?_eq_some {written : List Char} {text : String} :
    decodeText? written = some text ↔ written = encodeText text := by
  constructor
  · intro reads
    unfold decodeText? at reads
    obtain ⟨bytes, decoded, valid⟩ := Option.bind_eq_some_iff.mp reads
    unfold String.fromUTF8? at valid
    split at valid
    · cases valid
      exact decode?_eq_some.mp decoded
    · cases valid
  · rintro rfl
    exact decodeText?_encodeText text

end TraceAgent.Base64
