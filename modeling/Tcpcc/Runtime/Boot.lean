import Mathlib.Algebra.Order.Ring.Int
import Mathlib.Data.List.Basic

/-!
# Arguments of the hosted kernel

`tcpcc_host_memory_size` reads the memory size and the ceiling of `tcp_wmem` from the arguments
of the host process, and panics on a value that it does not admit. Other arguments are ignored.
-/

namespace Tcpcc.Runtime

def ulongMax : ℕ := 2 ^ 64 - 1
def memoryMibBytes : ℕ := 1024 * 1024
def minimumMemoryMib : ℕ := 32
def memoryArgument : String := "--memory-mib="
def tcpWmemArgument : String := "--tcp-wmem-max-kib="
def tcpWmemMinimumKib : ℕ := 64
def tcpWmemMaximumKib : ℕ := 2097151

/-- `kstrtoul` in base ten: one plus sign may stand before the digits and one line end behind. -/
def kstrtoul (text : List Char) : Option ℕ :=
  let text := if text.head? = some '+' then text.tail else text
  let digits := text.takeWhile Char.isDigit
  let value := Nat.ofDigitChars 10 digits 0
  let rest := text.dropWhile Char.isDigit
  if digits ≠ [] ∧ value ≤ ulongMax ∧ (rest = [] ∨ rest = [Char.ofNat 10]) then some value
  else none

structure BootArguments where
  memoryMib : ℕ := 128
  tcpWmemMaxKib : ℕ := 0
  deriving DecidableEq, Repr

def memoryInvalid (parsed : ℕ) : Bool :=
  parsed < minimumMemoryMib || ulongMax / memoryMibBytes < parsed

def tcpWmemInvalid (parsed : ℕ) : Bool :=
  parsed != 0 && (parsed < tcpWmemMinimumKib || tcpWmemMaximumKib < parsed)

/-- One argument; `none` is a panic. -/
def bootArgument (b : BootArguments) (argument : String) : Option BootArguments :=
  let text := argument.toList
  if memoryArgument.toList.isPrefixOf text then
    match kstrtoul (text.drop memoryArgument.length) with
    | some parsed => if memoryInvalid parsed then none else some { b with memoryMib := parsed }
    | none => none
  else if tcpWmemArgument.toList.isPrefixOf text then
    match kstrtoul (text.drop tcpWmemArgument.length) with
    | some parsed => if tcpWmemInvalid parsed then none else some { b with tcpWmemMaxKib := parsed }
    | none => none
  else some b

def hostMemorySize (argv : List String) : Option BootArguments :=
  if argv.length = 0 ∨ 4096 < argv.length then none else argv.tail.foldlM bootArgument {}

end Tcpcc.Runtime
