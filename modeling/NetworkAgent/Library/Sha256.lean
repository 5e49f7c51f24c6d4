import Mathlib.Data.List.GetD

/-! SHA-256 over a list of bytes, as lower-case hexadecimal digits. Words are
natural numbers below `2 ^ 32`. -/
namespace Sha256

def isHexDigit (c : Char) : Bool := ('0' ≤ c && c ≤ '9') || ('a' ≤ c && c ≤ 'f')

/-- Sixty-four lower-case hexadecimal digits. -/
structure Digest where
  text : String
  length : text.length = 64
  hex : text.toList.all isHexDigit = true
  deriving DecidableEq

@[ext] theorem Digest.ext {a b : Digest} (h : a.text = b.text) : a = b := by
  cases a; cases b; cases h; rfl

def roundConstants : List Nat :=
  [0x428a2f98, 0x71374491, 0xb5c0fbcf, 0xe9b5dba5, 0x3956c25b, 0x59f111f1, 0x923f82a4, 0xab1c5ed5,
   0xd807aa98, 0x12835b01, 0x243185be, 0x550c7dc3, 0x72be5d74, 0x80deb1fe, 0x9bdc06a7, 0xc19bf174,
   0xe49b69c1, 0xefbe4786, 0x0fc19dc6, 0x240ca1cc, 0x2de92c6f, 0x4a7484aa, 0x5cb0a9dc, 0x76f988da,
   0x983e5152, 0xa831c66d, 0xb00327c8, 0xbf597fc7, 0xc6e00bf3, 0xd5a79147, 0x06ca6351, 0x14292967,
   0x27b70a85, 0x2e1b2138, 0x4d2c6dfc, 0x53380d13, 0x650a7354, 0x766a0abb, 0x81c2c92e, 0x92722c85,
   0xa2bfe8a1, 0xa81a664b, 0xc24b8b70, 0xc76c51a3, 0xd192e819, 0xd6990624, 0xf40e3585, 0x106aa070,
   0x19a4c116, 0x1e376c08, 0x2748774c, 0x34b0bcb5, 0x391c0cb3, 0x4ed8aa4a, 0x5b9cca4f, 0x682e6ff3,
   0x748f82ee, 0x78a5636f, 0x84c87814, 0x8cc70208, 0x90befffa, 0xa4506ceb, 0xbef9a3f7, 0xc67178f2]

structure State where
  a : Nat
  b : Nat
  c : Nat
  d : Nat
  e : Nat
  f : Nat
  g : Nat
  h : Nat

def initial : State :=
  ⟨0x6a09e667, 0xbb67ae85, 0x3c6ef372, 0xa54ff53a, 0x510e527f, 0x9b05688c, 0x1f83d9ab, 0x5be0cd19⟩

def word (n : Nat) : Nat := n % 0x100000000
def rotr (x n : Nat) : Nat := Nat.lor (Nat.shiftRight x n) (word (Nat.shiftLeft x (32 - n)))

def smallSigma0 (x : Nat) : Nat := Nat.xor (Nat.xor (rotr x 7) (rotr x 18)) (Nat.shiftRight x 3)
def smallSigma1 (x : Nat) : Nat := Nat.xor (Nat.xor (rotr x 17) (rotr x 19)) (Nat.shiftRight x 10)
def bigSigma0 (x : Nat) : Nat := Nat.xor (Nat.xor (rotr x 2) (rotr x 13)) (rotr x 22)
def bigSigma1 (x : Nat) : Nat := Nat.xor (Nat.xor (rotr x 6) (rotr x 11)) (rotr x 25)
def choose (x y z : Nat) : Nat := Nat.xor (Nat.land x y) (Nat.land (Nat.xor x 0xffffffff) z)
def majority (x y z : Nat) : Nat :=
  Nat.xor (Nat.xor (Nat.land x y) (Nat.land x z)) (Nat.land y z)

/-- Evaluate a word before it is used, so that the kernel does not carry a thunk. -/
def eager {α : Type} (n : Nat) (k : Nat → α) : α := match n with
  | .zero => k .zero
  | .succ m => k (.succ m)

def schedule : Nat → List Nat → List Nat
  | n + 1, [w0, w1, w2, w3, w4, w5, w6, w7, w8, w9, w10, w11, w12, w13, w14, w15] =>
    eager (word (smallSigma1 w14 + w9 + smallSigma0 w1 + w0)) fun w16 =>
    w0 :: schedule n [w1, w2, w3, w4, w5, w6, w7, w8, w9, w10, w11, w12, w13, w14, w15, w16]
  | _, w => w

def rounds : List Nat → List Nat → State → State
  | k :: ks, w :: ws, s =>
    eager (s.h + bigSigma1 s.e + choose s.e s.f s.g + k + w) fun t =>
    eager (word (s.d + t)) fun e =>
    eager (word (t + bigSigma0 s.a + majority s.a s.b s.c)) fun a =>
    rounds ks ws ⟨a, s.a, s.b, s.c, e, s.e, s.f, s.g⟩
  | _, _, s => s

def compress (s : State) (block : List Nat) : State :=
  let r := rounds roundConstants (schedule 48 block) s
  ⟨word (s.a + r.a), word (s.b + r.b), word (s.c + r.c), word (s.d + r.d),
    word (s.e + r.e), word (s.f + r.f), word (s.g + r.g), word (s.h + r.h)⟩

def bytes : Nat → Nat → List Nat
  | 0, _ => []
  | n + 1, x => Nat.shiftRight x (8 * n) % 256 :: bytes n x

def padded (message : List Nat) : List Nat :=
  message ++ 0x80 :: (List.replicate ((119 - message.length % 64) % 64) 0 ++
    bytes 8 (8 * message.length))

def words : List Nat → List Nat
  | a :: b :: c :: d :: rest => (((a * 256 + b) * 256 + c) * 256 + d) :: words rest
  | _ => []

def compressAll : Nat → List Nat → State → State
  | 0, _, s => s
  | n + 1, ws, s => compressAll n (ws.drop 16) (compress s (ws.take 16))

def hexChar (n : Nat) : Char := "0123456789abcdef".toList.getD n '0'

theorem isHexDigit_hexChar (n : Nat) : isHexDigit (hexChar n) = true := by
  rcases Nat.lt_or_ge n 16 with small | large
  · have every : ∀ k : Fin 16, isHexDigit (hexChar k) = true := by decide
    exact every ⟨n, small⟩
  · have outside : hexChar n = '0' := List.getD_eq_default _ _ large
    rw [outside]
    decide

def hexByte (b : Nat) : List Char := [hexChar (b / 16), hexChar (b % 16)]

def hexWord (x : Nat) : List Char := (bytes 4 x).flatMap hexByte

def hexState (s : State) : List Char :=
  [s.a, s.b, s.c, s.d, s.e, s.f, s.g, s.h].flatMap hexWord

theorem hexState_length (s : State) : (hexState s).length = 64 := by
  simp [hexState, hexWord, hexByte, bytes]

theorem hexState_hex (s : State) : (hexState s).all isHexDigit = true := by
  simp [hexState, hexWord, hexByte, bytes, isHexDigit_hexChar]

def digest (message : List Nat) : Digest :=
  let ws := words (padded message)
  let state := compressAll (ws.length / 16) ws initial
  ⟨String.ofList (hexState state), by simp [hexState_length], by simp [hexState_hex]⟩

example : (digest [97, 98, 99]).text =
    "ba7816bf8f01cfea414140de5dae2223b00361a396177a9cb410ff61f20015ad" := by decide

end Sha256
