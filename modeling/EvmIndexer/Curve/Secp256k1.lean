import EvmIndexer.Bytes.Basic

/-!
# The curve of the signatures

An envelope does not name its sender; the sender is recovered from the
signature. This module holds the curve `y ^ 2 = x ^ 3 + 7` over the prime field
of `2 ^ 256 - 2 ^ 32 - 977` and the recovery of the public key.

Points are kept in Jacobian form, `(X, Y, Z)` standing for
`(X / Z ^ 2, Y / Z ^ 3)` and `Z = 0` for the point at infinity, so that a
multiplication by a scalar needs one inversion at its end. All arithmetic is on
natural numbers below the prime.
-/

namespace EvmIndexer.Secp256k1

def prime : Nat :=
  0xfffffffffffffffffffffffffffffffffffffffffffffffffffffffefffffc2f

/-- The order of the group. -/
def order : Nat :=
  0xfffffffffffffffffffffffffffffffebaaedce6af48a03bbfd25e8cd0364141

/-- A power modulo `m`, by squaring once for every bit of the exponent. -/
def powMod (m base exponent : Nat) : Nat :=
  if h : exponent = 0 then 1 % m
  else
    let half := powMod m (base * base % m) (exponent / 2)
    if exponent % 2 = 1 then base * half % m else half
termination_by exponent
decreasing_by omega

/-- The inverse modulo a prime, by the little theorem. -/
def invMod (p a : Nat) : Nat := powMod p a (p - 2)

def sub (a b : Nat) : Nat := (a + (prime - b % prime)) % prime

structure Point where
  x : Nat
  y : Nat
  z : Nat
deriving DecidableEq, Repr

namespace Point

def infinity : Point := ⟨1, 1, 0⟩

def generator : Point :=
  ⟨0x79be667ef9dcbbac55a06295ce870b07029bfcdb2dce28d959f2815b16f81798,
    0x483ada7726a3c4655da4fbfc0e1108a8fd17b448a68554199c47d08ffb10d4b8, 1⟩

def double (p : Point) : Point :=
  if p.z = 0 ∨ p.y = 0 then infinity
  else
    let yy := p.y * p.y % prime
    let s := 4 * p.x * yy % prime
    let m := 3 * p.x * p.x % prime
    let x := sub (m * m) (2 * s)
    ⟨x, sub (m * sub s x) (8 * yy * yy), 2 * p.y * p.z % prime⟩

def add (p q : Point) : Point :=
  if p.z = 0 then q
  else if q.z = 0 then p
  else
    let pzz := p.z * p.z % prime
    let qzz := q.z * q.z % prime
    let u := p.x * qzz % prime
    let v := q.x * pzz % prime
    let s := p.y * qzz * q.z % prime
    let t := q.y * pzz * p.z % prime
    if u = v then
      if s = t then double p else infinity
    else
      let h := sub v u
      let r := sub t s
      let hh := h * h % prime
      let hhh := h * hh % prime
      let x := sub (r * r) (hhh + 2 * u * hh)
      ⟨x, sub (r * sub (u * hh % prime) x) (s * hhh), h * p.z * q.z % prime⟩

/-- A multiple of a point, by doubling once for every bit of the scalar. -/
def scale (k : Nat) (p : Point) : Point :=
  if h : k = 0 then infinity
  else
    let half := scale (k / 2) (double p)
    if k % 2 = 1 then add p half else half
termination_by k
decreasing_by omega

/-- The coordinates of a point that is not at infinity. -/
def affine? (p : Point) : Option (Nat × Nat) :=
  if p.z = 0 then none
  else
    let inv := invMod prime p.z
    some (p.x * inv % prime * inv % prime,
      p.y * inv % prime * inv % prime * inv % prime)

end Point

/-- The point over `x` whose second coordinate has the given parity, if `x` is
the first coordinate of a point. -/
def lift? (x parity : Nat) : Option Point :=
  let square := (x * x % prime * x + 7) % prime
  let root := powMod prime square ((prime + 1) / 4)
  if root * root % prime = square then
    some ⟨x % prime, if root % 2 = parity % 2 then root else prime - root, 1⟩
  else none

structure Signature where
  parity : Nat
  r : Nat
  s : Nat
deriving DecidableEq, Repr

/-- The public key that signed a digest, as its two coordinates. There is none
when `r` or `s` lies outside `1, …, order - 1`, when no point lies over `r`, or
when the key would be the point at infinity. -/
def Signature.publicKey? (digest : Bytes) (sig : Signature) :
    Option (Nat × Nat) := do
  if sig.r = 0 ∨ order ≤ sig.r ∨ sig.s = 0 ∨ order ≤ sig.s then none
  else
    let point ← lift? sig.r sig.parity
    let inv := invMod order sig.r
    let z := digest.toNat % order
    let negated := (order - z * inv % order) % order
    (Point.add (Point.scale negated Point.generator)
      (Point.scale (sig.s * inv % order) point)).affine?

end EvmIndexer.Secp256k1
