import InstallerGateway.Bytes.Base64

/-!
# Base64 and back

Reading the base64 text of a byte string gives the byte string again.
-/

namespace InstallerGateway.Base64

/-- Every group of six bits has a character that stands for it, and that is no padding. -/
theorem sextet?_symbol : ∀ n < 64, symbol n ≠ '=' ∧ sextet? (symbol n) = some n := by decide

/-- What a reader makes of a group of six bits. -/
theorem decodeFrom_symbol {n : Nat} (h : n < 64) (r : Reader) (rest : List Char) :
    decodeFrom r (symbol n :: rest) =
      match r.position with
      | 0 => decodeFrom ⟨1, n, 0⟩ rest
      | 1 => (decodeFrom ⟨2, n % 16, 0⟩ rest).map (UInt8.ofNat (r.carry * 4 + n / 16) :: ·)
      | 2 => (decodeFrom ⟨3, n % 4, 0⟩ rest).map (UInt8.ofNat (r.carry * 16 + n / 4) :: ·)
      | _ => (decodeFrom ⟨0, 0, 0⟩ rest).map (UInt8.ofNat (r.carry * 64 + n) :: ·) := by
  obtain ⟨hpad, hsextet⟩ := sextet?_symbol n h
  have hstep := decodeFrom.eq_def r (symbol n :: rest)
  dsimp only at hstep
  rw [if_neg hpad, hsextet] at hstep
  exact hstep

/-- Two symbols hold a byte, and four bits of the next one. -/
theorem decodeFrom_first (a : UInt8) {m : Nat} (hm : m < 16) (rest : List Char) :
    decodeFrom ⟨0, 0, 0⟩ (symbol (a.toNat / 4) :: symbol (a.toNat % 4 * 16 + m) :: rest) =
      (decodeFrom ⟨2, m, 0⟩ rest).map (a :: ·) := by
  have ha : a.toNat < 256 := a.toNat_lt_size
  rw [decodeFrom_symbol (by omega), decodeFrom_symbol (by omega)]
  have hcarry : (a.toNat % 4 * 16 + m) % 16 = m := by omega
  have hbyte : a.toNat / 4 * 4 + (a.toNat % 4 * 16 + m) / 16 = a.toNat := by omega
  simp only [hcarry, hbyte, UInt8.ofNat_toNat]

/-- The third symbol completes a byte, and holds two bits of the next one. -/
theorem decodeFrom_second (b : UInt8) {k : Nat} (hk : k < 4) (rest : List Char) :
    decodeFrom ⟨2, b.toNat / 16, 0⟩ (symbol (b.toNat % 16 * 4 + k) :: rest) =
      (decodeFrom ⟨3, k, 0⟩ rest).map (b :: ·) := by
  have hb : b.toNat < 256 := b.toNat_lt_size
  rw [decodeFrom_symbol (by omega)]
  have hcarry : (b.toNat % 16 * 4 + k) % 4 = k := by omega
  have hbyte : b.toNat / 16 * 16 + (b.toNat % 16 * 4 + k) / 4 = b.toNat := by omega
  simp only [hcarry, hbyte, UInt8.ofNat_toNat]

theorem decodeFrom_third (c : UInt8) (rest : List Char) :
    decodeFrom ⟨3, c.toNat / 64, 0⟩ (symbol (c.toNat % 64) :: rest) =
      (decodeFrom ⟨0, 0, 0⟩ rest).map (c :: ·) := by
  have hc : c.toNat < 256 := c.toNat_lt_size
  rw [decodeFrom_symbol (by omega)]
  have hbyte : c.toNat / 64 * 64 + c.toNat % 64 = c.toNat := by omega
  simp only [hbyte, UInt8.ofNat_toNat]

/-- Decoding undoes encoding, three bytes at a time. -/
theorem decodeFrom_encodeBytes (bytes : List UInt8) :
    decodeFrom ⟨0, 0, 0⟩ (encodeBytes bytes) = some bytes := by
  fun_induction encodeBytes bytes with
  | case1 => rfl
  | case2 a n =>
    have hfirst := decodeFrom_first a (m := 0) (by decide) ['=', '=']
    exact hfirst
  | case3 a b n m =>
    have hb : b.toNat < 256 := b.toNat_lt_size
    rw [decodeFrom_first a (m := m / 16) (by omega)]
    have hsecond := decodeFrom_second b (k := 0) (by decide) ['=']
    rw [Nat.add_zero] at hsecond
    rw [hsecond]
    rfl
  | case4 a b c rest n m k ih =>
    have hb : b.toNat < 256 := b.toNat_lt_size
    have hc : c.toNat < 256 := c.toNat_lt_size
    rw [decodeFrom_first a (m := m / 16) (by omega), decodeFrom_second b (k := k / 64) (by omega),
      decodeFrom_third, ih]
    rfl

theorem decode?_encode (bytes : ByteArray) : decode? (encode bytes) = some bytes := by
  unfold decode? encode
  rw [String.toList_ofList, decodeFrom_encodeBytes]
  rfl

end InstallerGateway.Base64
