import Mathlib.Tactic.Common

/-!
# Base64 for addresses

Three bytes are four signs, a shorter rest is one sign more than it has bytes, and nothing is padded. A reader takes a
text of signs and leaves out what is no byte at its end.
-/
namespace AlianStructure.Library.Base64Url

def alphabet : List Char :=
  "ABCDEFGHIJKLMNOPQRSTUVWXYZabcdefghijklmnopqrstuvwxyz0123456789-_".toList

def isSign (c : Char) : Bool := alphabet.contains c

def signOf (n : Nat) : Char := alphabet.getD n 'A'

def valueOf (c : Char) : Nat := alphabet.idxOf c

def write : List UInt8 → List Char
  | [] => []
  | [a] => [signOf (a.toNat / 4), signOf (a.toNat % 4 * 16)]
  | [a, b] => [signOf (a.toNat / 4), signOf (a.toNat % 4 * 16 + b.toNat / 16), signOf (b.toNat % 16 * 4)]
  | a :: b :: c :: rest => signOf (a.toNat / 4) :: signOf (a.toNat % 4 * 16 + b.toNat / 16) ::
      signOf (b.toNat % 16 * 4 + c.toNat / 64) :: signOf (c.toNat % 64) :: write rest

def readFirst (p q : Char) : UInt8 := UInt8.ofNat (valueOf p * 4 + valueOf q / 16)

def readSecond (q r : Char) : UInt8 := UInt8.ofNat (valueOf q % 16 * 16 + valueOf r / 4)

def readThird (r s : Char) : UInt8 := UInt8.ofNat (valueOf r % 4 * 64 + valueOf s)

def read : List Char → List UInt8
  | [] | [_] => []
  | [p, q] => [readFirst p q]
  | [p, q, r] => [readFirst p q, readSecond q r]
  | p :: q :: r :: s :: rest => readFirst p q :: readSecond q r :: readThird r s :: read rest

theorem valueOf_signOf : ∀ n < 64, valueOf (signOf n) = n := by
  decide

theorem isSign_signOf : ∀ n < 64, isSign (signOf n) = true := by
  decide

theorem first_bound (a : UInt8) : a.toNat / 4 < 64 := by
  have := a.toNat_lt
  omega

theorem second_bound (a b : UInt8) : a.toNat % 4 * 16 + b.toNat / 16 < 64 := by
  have := b.toNat_lt
  omega

theorem third_bound (b c : UInt8) : b.toNat % 16 * 4 + c.toNat / 64 < 64 := by
  have := c.toNat_lt
  omega

theorem fourth_bound (c : UInt8) : c.toNat % 64 < 64 := Nat.mod_lt _ (by decide)

theorem readFirst_write (a b : UInt8) :
    readFirst (signOf (a.toNat / 4)) (signOf (a.toNat % 4 * 16 + b.toNat / 16)) = a := by
  unfold readFirst
  rw [valueOf_signOf _ (first_bound a), valueOf_signOf _ (second_bound a b)]
  have bound := b.toNat_lt
  rw [show a.toNat / 4 * 4 + (a.toNat % 4 * 16 + b.toNat / 16) / 16 = a.toNat by omega, UInt8.ofNat_toNat]

theorem readSecond_write (a b c : UInt8) : readSecond (signOf (a.toNat % 4 * 16 + b.toNat / 16))
    (signOf (b.toNat % 16 * 4 + c.toNat / 64)) = b := by
  unfold readSecond
  rw [valueOf_signOf _ (second_bound a b), valueOf_signOf _ (third_bound b c)]
  have boundB := b.toNat_lt
  have boundC := c.toNat_lt
  rw [show (a.toNat % 4 * 16 + b.toNat / 16) % 16 * 16 + (b.toNat % 16 * 4 + c.toNat / 64) / 4 = b.toNat by omega,
    UInt8.ofNat_toNat]

theorem readThird_write (b c : UInt8) :
    readThird (signOf (b.toNat % 16 * 4 + c.toNat / 64)) (signOf (c.toNat % 64)) = c := by
  unfold readThird
  rw [valueOf_signOf _ (third_bound b c), valueOf_signOf _ (fourth_bound c)]
  have bound := c.toNat_lt
  rw [show (b.toNat % 16 * 4 + c.toNat / 64) % 4 * 64 + c.toNat % 64 = c.toNat by omega, UInt8.ofNat_toNat]

/-- What is written is read back. -/
theorem read_write (bytes : List UInt8) : read (write bytes) = bytes := by
  fun_induction write bytes with
  | case1 => rfl
  | case2 a =>
    have first := readFirst_write a 0
    exact congrArg ([·]) first
  | case3 a b =>
    have second := readSecond_write a b 0
    rw [read, readFirst_write]
    exact congrArg ([a, ·]) second
  | case4 a b c rest ih => rw [read, readFirst_write, readSecond_write, readThird_write, ih]

theorem write_injective : Function.Injective write :=
  Function.LeftInverse.injective read_write

theorem isSign_write (bytes : List UInt8) : ∀ c ∈ write bytes, isSign c = true := by
  fun_induction write bytes with
  | case1 => exact nofun
  | case2 a =>
    simp only [List.forall_mem_cons]
    exact ⟨isSign_signOf _ (first_bound a), isSign_signOf _ (second_bound a 0), nofun⟩
  | case3 a b =>
    simp only [List.forall_mem_cons]
    exact ⟨isSign_signOf _ (first_bound a), isSign_signOf _ (second_bound a b), isSign_signOf _ (third_bound b 0),
      nofun⟩
  | case4 a b c rest ih =>
    simp only [List.forall_mem_cons]
    exact ⟨isSign_signOf _ (first_bound a), isSign_signOf _ (second_bound a b), isSign_signOf _ (third_bound b c),
      isSign_signOf _ (fourth_bound c), ih⟩

theorem length_write_le (bytes : List UInt8) : 3 * (write bytes).length ≤ 4 * bytes.length + 2 := by
  fun_induction write bytes with
  | case1 => exact Nat.zero_le _
  | case2 a => simp
  | case3 a b => simp
  | case4 a b c rest ih =>
    simp only [List.length_cons]
    omega

end AlianStructure.Library.Base64Url
