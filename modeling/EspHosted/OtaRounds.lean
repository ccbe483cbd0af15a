import Mathlib.Algebra.Group.Int.Defs
import Mathlib.Algebra.Group.Nat.Defs
import Mathlib.Data.List.Basic

/-!
What the two updates of the slave meet round by round: what a read brings and what becomes of
the write behind it. `esp_hosted_ota_local` reads a file, `esp_hosted_ota_http` a web session.
-/

namespace EspHosted.OtaUpdate

def blockSize : Nat := 1400
def espOk : Int := 0
def espFail : Int := -1

/-- `min` is a function of two `int`. -/
def cMin (x y : Int32) : Int32 := if x.toInt < y.toInt then x else y

/-- The `read_len` of the next block of a file. -/
def blockLen (fileSize writeTotal : UInt32) : UInt32 :=
  (cMin 1400 (fileSize - writeTotal).toInt32).toUInt32

/-- One round of the file loop: how much `fread` gets at most, and the result of the write. -/
structure FileRound where
  read : Nat
  write : Int

/-- A result of `webclient_read`: the next bytes of the image, none at the end of the stream,
or an error code. -/
inductive WebRead where
  | bytes (data : List UInt8) (fits : data.length ≤ blockSize)
  | failed (code : Int) (negative : code < 0) (int : -2 ^ 31 ≤ code)

/-- `read_len`: the `int` taken as a `size_t` of 32 bits. -/
def WebRead.readLen : WebRead → Nat
  | .bytes data _ => data.length
  | .failed code _ _ => (code + 2 ^ 32).toNat

def WebRead.data : WebRead → List UInt8
  | .bytes data _ => data
  | .failed _ _ _ => []

def WebRead.isFailed : WebRead → Bool
  | .bytes _ _ => false
  | .failed _ _ _ => true

structure WebRound where
  read : WebRead
  write : Int

def received (rounds : List WebRound) : List UInt8 := rounds.flatMap (·.read.data)

end EspHosted.OtaUpdate
