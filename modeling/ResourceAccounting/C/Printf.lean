import ResourceAccounting.Python.Number

/-!
# Printf — the conversions of `printf`

The conversions of `printf` that programs print tables and messages with, on integers of any size
(the caller brings them into the range of the argument type):

- `decimal` — `%d`, `%ld` and `%lld`;
- `zeroFilled w`, `precise p` — a minimum number of characters with the sign (`%06ld`) and of
  digits without it (`%.9ld`);
- `leftJustify w` — `%-20s`, and `%-20ld` on the text of a number;
- `snprintf size` — what a buffer of `size` bytes holds of the text.

The widths of the types that depend on the host are those of `wordBits`.
-/

namespace ResourceAccounting
namespace C

open Python

/-! ## The host -/

/-- The bits of a `long`, a `size_t`, a `time_t` and a pointer. -/
def wordBits : Nat := 64

/-- The bits of an `int`. -/
def intBits : Nat := 32

/-- `(int)n` -/
def toInt (n : Int) : Int :=
  n.bmod (2 ^ intBits)

/-- `(unsigned)n` -/
def toUnsigned (n : Int) : Nat :=
  (n % 2 ^ intBits).toNat

theorem toInt_of_range {n : Int} (hlow : -2 ^ 31 ≤ n) (hhigh : n < 2 ^ 31) : toInt n = n :=
  Int.bmod_eq_of_le (by simpa [intBits] using hlow) (by simpa [intBits] using hhigh)

/-! ## Numbers -/

/-- A sign, if there is one, before the digits of the absolute value. -/
def signed (digits : Nat → Text) (n : Int) : Text :=
  if n < 0 then '-' :: digits n.natAbs else digits n.natAbs

/-- `%ld` -/
def decimal (n : Int) : Text :=
  signed (Nat.toDigits 10) n

/-- `%.pld`: at least `p` digits. -/
def precise (p : Nat) (n : Int) : Text :=
  signed (zeroPad p) n

/-- `%0wld`: at least `w` characters, one of which the sign takes. -/
def zeroFilled (w : Nat) (n : Int) : Text :=
  if n < 0 then '-' :: zeroPad (w - 1) n.natAbs else zeroPad w n.natAbs

theorem signed_natCast (digits : Nat → Text) (n : Nat) : signed digits (n : Int) = digits n := by
  simp [signed]

theorem decimal_natCast (n : Nat) : decimal (n : Int) = Nat.toDigits 10 n :=
  signed_natCast _ n

theorem precise_natCast (p n : Nat) : precise p (n : Int) = zeroPad p n :=
  signed_natCast _ n

theorem mem_decimal {n : Int} {c : Char} (hc : c ∈ decimal n) : c = '-' ∨ c.isDigit = true := by
  unfold decimal signed at hc
  split at hc
  · rcases List.mem_cons.1 hc with rfl | hc
    · exact Or.inl rfl
    · exact Or.inr (isDigit_of_mem_toDigits hc)
  · exact Or.inr (isDigit_of_mem_toDigits hc)

theorem not_mem_decimal (n : Int) {c : Char} (hminus : c ≠ '-') (hdigit : c.isDigit = false) :
    c ∉ decimal n := by
  intro hc
  rcases mem_decimal hc with h | h
  · exact hminus h
  · rw [hdigit] at h
    cases h

theorem mem_zeroFilled {w : Nat} {n : Int} {c : Char} (hc : c ∈ zeroFilled w n) :
    c = '-' ∨ c.isDigit = true := by
  unfold zeroFilled at hc
  split at hc
  · rcases List.mem_cons.1 hc with rfl | hc
    · exact Or.inl rfl
    · exact Or.inr (isDigit_of_mem_zeroPad hc)
  · exact Or.inr (isDigit_of_mem_zeroPad hc)

theorem isSpace_of_mem_number {c : Char} (hc : c = '-' ∨ c.isDigit = true) : isSpace c = false := by
  rcases hc with rfl | hc
  · decide
  · exact isSpace_of_isDigit hc

theorem isWord_decimal (n : Int) : IsWord (decimal n) :=
  fun _ hc => isSpace_of_mem_number (mem_decimal hc)

theorem isWord_zeroFilled (w : Nat) (n : Int) : IsWord (zeroFilled w n) :=
  fun _ hc => isSpace_of_mem_number (mem_zeroFilled hc)

theorem decimal_ne_nil (n : Int) : decimal n ≠ [] := by
  unfold decimal signed
  split
  · exact List.cons_ne_nil _ _
  · exact Nat.toDigits_ne_nil

theorem toDigits_injective {m n : Nat} (h : Nat.toDigits 10 m = Nat.toDigits 10 n) : m = n := by
  rw [← Nat.ofDigitChars_ten_toDigits (n := m), h, Nat.ofDigitChars_ten_toDigits]

theorem minus_not_mem_toDigits (n : Nat) : '-' ∉ Nat.toDigits 10 n := by
  intro h
  exact absurd (isDigit_of_mem_toDigits h) (by decide)

/-- A negative number is printed with a sign, and no other is. -/
theorem minus_mem_decimal {n : Int} : '-' ∈ decimal n ↔ n < 0 := by
  unfold decimal signed
  split
  · simp [*]
  · simp [minus_not_mem_toDigits, *]

theorem decimal_injective {m n : Int} (h : decimal m = decimal n) : m = n := by
  have hsign : m < 0 ↔ n < 0 := by rw [← minus_mem_decimal, h, minus_mem_decimal]
  have habs : m.natAbs = n.natAbs := by
    unfold decimal signed at h
    by_cases hneg : m < 0
    · rw [if_pos hneg, if_pos (hsign.1 hneg)] at h
      exact toDigits_injective (List.cons.inj h).2
    · rw [if_neg hneg, if_neg (mt hsign.2 hneg)] at h
      exact toDigits_injective h
  omega

/-- The sign and at most `k` digits. -/
theorem length_decimal_le {k : Nat} {n : Int} (hk : 0 < k) (hn : n.natAbs < 10 ^ k) :
    (decimal n).length ≤ k + 1 := by
  have hdigits := (Nat.length_toDigits_le_iff (by decide) hk).2 hn
  unfold decimal signed
  split
  · rw [List.length_cons]
    omega
  · omega

/-! ## Texts -/

/-- `%-ws` -/
def leftJustify (w : Nat) (s : Text) : Text :=
  s ++ List.replicate (w - s.length) ' '

/-- `snprintf(buf, size, …)`: the last byte of the buffer is for the terminator. -/
def snprintf (size : Nat) (s : Text) : Text :=
  s.take (size - 1)

theorem snprintf_of_length_lt {size : Nat} {s : Text} (h : s.length < size) :
    snprintf size s = s :=
  List.take_of_length_le (by omega)

theorem length_snprintf_lt {size : Nat} (hsize : 0 < size) (s : Text) :
    (snprintf size s).length < size := by
  rw [snprintf, List.length_take]
  omega

theorem snprintf_eq_self_iff {size : Nat} (hsize : 0 < size) {s : Text} :
    snprintf size s = s ↔ s.length < size := by
  constructor
  · intro h
    rw [← h]
    exact length_snprintf_lt hsize s
  · exact snprintf_of_length_lt

end C
end ResourceAccounting
