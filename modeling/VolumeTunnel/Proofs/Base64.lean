import VolumeTunnel.Base64

/-!
# Base64 loses nothing

The text of bytes is read back as these bytes (`Base64.decode?_encode`), so that no two lists of
bytes have the same text (`Base64.encode_injective`). A reader that skips what is no symbol reads
the same (`Base64.decodeAround?_encode`), since the text consists of symbols and of padding at its
end (`Base64.encode_eq_append`), four code points for every three bytes begun
(`Base64.length_encode`).

* `Base64.Carries` : a text that stands for bytes in this form.
-/

namespace VolumeTunnel.Base64

/-- A symbol has the number that it was chosen for. -/
theorem value?_symbol : ∀ n < 64, value? (symbol n) = some n := by
  decide

theorem symbol_ne_padding : ∀ n < 64, symbol n ≠ padding := by
  decide

/-! Three bytes are put together again from four numbers of six bits. -/

theorem ofNat_first (a b : UInt8) :
    UInt8.ofNat (a.toNat / 4 * 4 + (a.toNat % 4 * 16 + b.toNat / 16) / 16) = a := by
  have hb := b.toNat_lt
  rw [show a.toNat / 4 * 4 + (a.toNat % 4 * 16 + b.toNat / 16) / 16 = a.toNat by omega,
    UInt8.ofNat_toNat]

theorem ofNat_second (a b c : UInt8) :
    UInt8.ofNat ((a.toNat % 4 * 16 + b.toNat / 16) % 16 * 16 +
      (b.toNat % 16 * 4 + c.toNat / 64) / 4) = b := by
  have hb := b.toNat_lt
  have hc := c.toNat_lt
  rw [show (a.toNat % 4 * 16 + b.toNat / 16) % 16 * 16 +
    (b.toNat % 16 * 4 + c.toNat / 64) / 4 = b.toNat by omega, UInt8.ofNat_toNat]

theorem ofNat_third (b c : UInt8) :
    UInt8.ofNat ((b.toNat % 16 * 4 + c.toNat / 64) % 4 * 64 + c.toNat % 64) = c := by
  have hc := c.toNat_lt
  rw [show (b.toNat % 16 * 4 + c.toNat / 64) % 4 * 64 + c.toNat % 64 = c.toNat by omega,
    UInt8.ofNat_toNat]

/-- The text of bytes is read back as these bytes. -/
theorem decode?_encode (bs : List UInt8) : decode? (encode bs) = some bs := by
  induction bs using encode.induct with
  | case1 => rfl
  | case2 a =>
    have ha := a.toNat_lt
    have hw := value?_symbol (a.toNat / 4) (by omega)
    have hx := value?_symbol (a.toNat % 4 * 16) (by omega)
    have hrest : a.toNat % 4 * 16 % 16 = 0 := by omega
    have hfirst : UInt8.ofNat (a.toNat / 4 * 4 + a.toNat % 4 * 16 / 16) = a := ofNat_first a 0
    simp only [encode, decode?, if_true, ne_eq, not_true_eq_false, if_false, hw, hx, hrest,
      Option.bind_eq_bind, Option.bind_some, Option.pure_def, hfirst]
  | case3 a b =>
    have ha := a.toNat_lt
    have hb := b.toNat_lt
    have hw := value?_symbol (a.toNat / 4) (by omega)
    have hx := value?_symbol (a.toNat % 4 * 16 + b.toNat / 16) (by omega)
    have hy := value?_symbol (b.toNat % 16 * 4) (by omega)
    have hpad := symbol_ne_padding (b.toNat % 16 * 4) (by omega)
    have hrest : b.toNat % 16 * 4 % 4 = 0 := by omega
    have hsecond : UInt8.ofNat ((a.toNat % 4 * 16 + b.toNat / 16) % 16 * 16 +
        b.toNat % 16 * 4 / 4) = b := ofNat_second a b 0
    simp only [encode, decode?, if_true, ne_eq, not_true_eq_false, if_false, hpad, hw, hx, hy,
      hrest, Option.bind_eq_bind, Option.bind_some, Option.pure_def, ofNat_first, hsecond]
  | case4 a b c rest ih =>
    have ha := a.toNat_lt
    have hb := b.toNat_lt
    have hc := c.toNat_lt
    have hw := value?_symbol (a.toNat / 4) (by omega)
    have hx := value?_symbol (a.toNat % 4 * 16 + b.toNat / 16) (by omega)
    have hy := value?_symbol (b.toNat % 16 * 4 + c.toNat / 64) (by omega)
    have hz := value?_symbol (c.toNat % 64) (by omega)
    have hpad := symbol_ne_padding (c.toNat % 64) (by omega)
    simp only [encode, decode?, hpad, if_false, hw, hx, hy, hz, ih, Option.bind_eq_bind,
      Option.bind_some, Option.pure_def, ofNat_first, ofNat_second, ofNat_third]

/-- No two lists of bytes have the same text. -/
theorem encode_injective {bs cs : List UInt8} (h : encode bs = encode cs) : bs = cs := by
  have hbs := decode?_encode bs
  rw [h, decode?_encode cs] at hbs
  exact (Option.some.inj hbs).symm

/-! ## The form of a text -/

/-- The symbols, in the order of their numbers. -/
def alphabet : Text := "ABCDEFGHIJKLMNOPQRSTUVWXYZabcdefghijklmnopqrstuvwxyz0123456789+/"

theorem alphabet_eq : alphabet = (List.range 64).map symbol := by
  decide

theorem symbol_mem_alphabet {n : Nat} (h : n < 64) : symbol n ∈ alphabet := by
  rw [alphabet_eq]
  exact List.mem_map_of_mem (List.mem_range.2 h)

theorem val_lt_of_mem_alphabet : ∀ c ∈ alphabet, c.val < 128 := by
  decide

/-- How many paddings fill up the last group of a number of bytes. -/
def padCount (n : Nat) : Nat := (3 - n % 3) % 3

theorem length_encode (bs : List UInt8) : (encode bs).length = 4 * ((bs.length + 2) / 3) := by
  induction bs using encode.induct with
  | case1 => rfl
  | case2 a => simp [encode]
  | case3 a b => simp [encode]
  | case4 a b c rest ih =>
    simp only [encode, List.length_cons, ih]
    omega

/-- A text is made of symbols, and of the paddings that fill up its last group. -/
theorem encode_eq_append (bs : List UInt8) : ∃ body : Text, (∀ c ∈ body, c ∈ alphabet) ∧
    encode bs = body ++ List.replicate (padCount bs.length) padding := by
  induction bs using encode.induct with
  | case1 => exact ⟨[], fun _ hc => absurd hc List.not_mem_nil, rfl⟩
  | case2 a =>
    have ha := a.toNat_lt
    refine ⟨[symbol (a.toNat / 4), symbol (a.toNat % 4 * 16)], ?_, rfl⟩
    simp only [List.forall_mem_cons]
    exact ⟨symbol_mem_alphabet (by omega), symbol_mem_alphabet (by omega),
      fun _ hc => absurd hc List.not_mem_nil⟩
  | case3 a b =>
    have ha := a.toNat_lt
    have hb := b.toNat_lt
    refine ⟨[symbol (a.toNat / 4), symbol (a.toNat % 4 * 16 + b.toNat / 16),
      symbol (b.toNat % 16 * 4)], ?_, rfl⟩
    simp only [List.forall_mem_cons]
    exact ⟨symbol_mem_alphabet (by omega), symbol_mem_alphabet (by omega),
      symbol_mem_alphabet (by omega), fun _ hc => absurd hc List.not_mem_nil⟩
  | case4 a b c rest ih =>
    have ha := a.toNat_lt
    have hb := b.toNat_lt
    have hc := c.toNat_lt
    obtain ⟨body, hbody, hrest⟩ := ih
    have hpads : padCount (a :: b :: c :: rest).length = padCount rest.length := by
      simp only [padCount, List.length_cons]
      omega
    refine ⟨symbol (a.toNat / 4) :: symbol (a.toNat % 4 * 16 + b.toNat / 16) ::
      symbol (b.toNat % 16 * 4 + c.toNat / 64) :: symbol (c.toNat % 64) :: body, ?_, ?_⟩
    · simp only [List.forall_mem_cons]
      exact ⟨symbol_mem_alphabet (by omega), symbol_mem_alphabet (by omega),
        symbol_mem_alphabet (by omega), symbol_mem_alphabet (by omega), hbody⟩
    · rw [hpads, encode, hrest]
      rfl

/-! ## Reading around other code points -/

theorem decodeSkipping?_first {n : Nat} (h : n < 64) (t : Text) :
    decodeSkipping? [] 0 (symbol n :: t) = decodeSkipping? [n] 0 t := by
  simp only [decodeSkipping?, symbol_ne_padding n h, if_false, value?_symbol n h]

theorem decodeSkipping?_second {n : Nat} (h : n < 64) (a : Nat) (t : Text) :
    decodeSkipping? [a] 0 (symbol n :: t) =
      (decodeSkipping? [n, a] 0 t).map (UInt8.ofNat (a * 4 + n / 16) :: ·) := by
  simp only [decodeSkipping?, symbol_ne_padding n h, if_false, value?_symbol n h]

theorem decodeSkipping?_third {n : Nat} (h : n < 64) (a b : Nat) (t : Text) :
    decodeSkipping? [b, a] 0 (symbol n :: t) =
      (decodeSkipping? [n, b, a] 0 t).map (UInt8.ofNat (b % 16 * 16 + n / 4) :: ·) := by
  simp only [decodeSkipping?, symbol_ne_padding n h, if_false, value?_symbol n h]

theorem decodeSkipping?_fourth {n : Nat} (h : n < 64) (a b c : Nat) (t : Text) :
    decodeSkipping? [c, b, a] 0 (symbol n :: t) =
      (decodeSkipping? [] 0 t).map (UInt8.ofNat (c % 4 * 64 + n) :: ·) := by
  simp only [decodeSkipping?, symbol_ne_padding n h, if_false, value?_symbol n h]

/-- A reader that skips what is no symbol reads the text of bytes as these bytes as well. -/
theorem decodeAround?_encode (bs : List UInt8) : decodeAround? (encode bs) = some bs := by
  rw [decodeAround?]
  induction bs using encode.induct with
  | case1 => rfl
  | case2 a =>
    have ha := a.toNat_lt
    have hfirst : UInt8.ofNat (a.toNat / 4 * 4 + a.toNat % 4 * 16 / 16) = a := ofNat_first a 0
    rw [encode, decodeSkipping?_first (by omega), decodeSkipping?_second (by omega), hfirst]
    rfl
  | case3 a b =>
    have ha := a.toNat_lt
    have hb := b.toNat_lt
    have hsecond : UInt8.ofNat ((a.toNat % 4 * 16 + b.toNat / 16) % 16 * 16 +
        b.toNat % 16 * 4 / 4) = b := ofNat_second a b 0
    rw [encode, decodeSkipping?_first (by omega), decodeSkipping?_second (by omega),
      decodeSkipping?_third (by omega), ofNat_first, hsecond]
    rfl
  | case4 a b c rest ih =>
    have ha := a.toNat_lt
    have hb := b.toNat_lt
    have hc := c.toNat_lt
    rw [encode, decodeSkipping?_first (by omega), decodeSkipping?_second (by omega),
      decodeSkipping?_third (by omega), decodeSkipping?_fourth (by omega), ih, ofNat_first,
      ofNat_second, ofNat_third]
    rfl

/-! ## Texts that stand for bytes -/

/-- A text that stands for bytes : ASCII text, symbols and then padding, with four code points for
every three bytes begun. Both readers read these bytes in it. -/
structure Carries (t : Text) (bs : List UInt8) : Prop where
  ascii : ∀ c ∈ t, c.val < 128
  padded : ∃ body : Text, (∀ c ∈ body, c ∈ alphabet) ∧
    t = body ++ List.replicate (padCount bs.length) padding
  length : t.length = 4 * ((bs.length + 2) / 3)
  decoded : decode? t = some bs
  decodedAround : decodeAround? t = some bs

theorem carries_encode (bs : List UInt8) : Carries (encode bs) bs where
  ascii c hc := by
    obtain ⟨body, hbody, ht⟩ := encode_eq_append bs
    rw [ht] at hc
    rcases List.mem_append.1 hc with hc | hc
    · exact val_lt_of_mem_alphabet c (hbody c hc)
    · rw [List.eq_of_mem_replicate hc]
      decide
  padded := encode_eq_append bs
  length := length_encode bs
  decoded := decode?_encode bs
  decodedAround := decodeAround?_encode bs

end VolumeTunnel.Base64
