import Tcpcc.Kernel
import Tcpcc.Lib.Records

/-!
# Records of the control protocol

`struct tcpcc_control_request` and `struct tcpcc_control_response` as bytes. Both sides run on
little-endian hosts and copy the structures as they are, so a field is the bytes at its offset.
The response of the hosted side is filled in from zero bytes.
-/

namespace Tcpcc.Control
open Records

def controlMagic : ℕ := 0x32434354
def controlVersion : ℕ := 1
def maxPayload : ℕ := 256
def requestSize : ℕ := 280
def responseSize : ℕ := 276

/-! The operations that the two sides compare. -/

def opSetCc : ℕ := 9
def opGetCc : ℕ := 10
def opFinish : ℕ := 11
def opListen : ℕ := 3
def opShutdown : ℕ := 20
def opHello : ℕ := 22
def opServiceStart : ℕ := 23
def opServiceDrain : ℕ := 24
def opServiceStats : ℕ := 25
def opServiceStop : ℕ := 26
def opSocketIp : ℕ := 27
def opBindIp : ℕ := 28
def opL3AttachIp : ℕ := 29

def field (record : List UInt8) (offset width : ℕ) : ℕ :=
  decodeLittle ((record.drop offset).take width)

theorem field_append (before number after : List UInt8) :
    field (before ++ number ++ after) before.length number.length = decodeLittle number := by
  rw [field, List.append_assoc, List.drop_left, List.take_left]

theorem field_lt (record : List UInt8) (offset width : ℕ) :
    field record offset width < 256 ^ width := by
  refine lt_of_lt_of_le (decodeLittle_lt _) ?_
  exact Nat.pow_le_pow_right (by decide) (List.length_take_le _ _)

structure Request where
  magic : ℕ
  version : ℕ
  op : ℕ
  handle : ℕ
  arg0 : ℕ
  arg1 : ℕ
  length : ℕ
  data : List UInt8
  deriving DecidableEq, Repr

def Request.decode (record : List UInt8) : Request where
  magic := field record 0 4
  version := field record 4 2
  op := field record 6 2
  handle := field record 8 4
  arg0 := field record 12 4
  arg1 := field record 16 4
  length := field record 20 4
  data := record.drop 24

def payload (data : List UInt8) : List UInt8 :=
  (data ++ List.replicate maxPayload 0).take maxPayload

theorem length_payload (data : List UInt8) : (payload data).length = maxPayload := by
  simp [payload]

theorem slice_payload (before part after : List UInt8)
    (h : (before ++ part ++ after).length ≤ maxPayload) :
    ((payload (before ++ part ++ after)).drop before.length).take part.length = part := by
  have hlong : before.length + part.length ≤ maxPayload := by
    rw [List.length_append, List.length_append] at h
    omega
  rw [payload, List.drop_take, List.take_take, Nat.min_eq_left (by omega), List.append_assoc,
    List.append_assoc, List.drop_left, List.take_left]

theorem parts_payload (a b c d e : List UInt8) (h : (a ++ b ++ c ++ d ++ e).length ≤ maxPayload) :
    ((payload (a ++ b ++ c ++ d ++ e)).drop 0).take a.length = a ∧
    ((payload (a ++ b ++ c ++ d ++ e)).drop a.length).take b.length = b ∧
    ((payload (a ++ b ++ c ++ d ++ e)).drop (a.length + b.length)).take c.length = c ∧
    ((payload (a ++ b ++ c ++ d ++ e)).drop (a.length + b.length + c.length)).take d.length = d ∧
    ((payload (a ++ b ++ c ++ d ++ e)).drop (a.length + b.length + c.length + d.length)).take
      e.length = e := by
  have h₀ := slice_payload [] a (b ++ c ++ d ++ e) (by simpa [Nat.add_assoc] using h)
  have h₁ := slice_payload a b (c ++ d ++ e) (by simpa [Nat.add_assoc] using h)
  have h₂ := slice_payload (a ++ b) c (d ++ e) (by simpa [Nat.add_assoc] using h)
  have h₃ := slice_payload (a ++ b ++ c) d e h
  have h₄ := slice_payload (a ++ b ++ c ++ d) e [] (by simpa [Nat.add_assoc] using h)
  simp only [List.nil_append, List.append_nil, ← List.append_assoc, List.length_append,
    List.length_nil] at h₀ h₁ h₂ h₃ h₄
  exact ⟨h₀, h₁, h₂, h₃, h₄⟩

def Request.encode (q : Request) : List UInt8 :=
  encodeLittle 4 q.magic ++ encodeLittle 2 q.version ++ encodeLittle 2 q.op ++
    encodeLittle 4 q.handle ++ encodeLittle 4 q.arg0 ++ encodeLittle 4 q.arg1 ++
    encodeLittle 4 q.length ++ payload q.data

theorem Request.length_encode (q : Request) : q.encode.length = requestSize := by
  simp [Request.encode, length_payload, maxPayload, requestSize]

/-- A request as `tcpcc_control_transact` fills it in. -/
def request (op handle arg0 arg1 : ℕ) (data : List UInt8) : Request :=
  ⟨controlMagic, controlVersion, op, handle, arg0, arg1, data.length, data⟩

structure Response where
  magic : ℕ := controlMagic
  version : ℕ := controlVersion
  op : ℕ
  status : ℤ
  handle : ℕ := 0
  length : ℕ := 0
  data : List UInt8 := []
  deriving DecidableEq, Repr

def Response.encode (r : Response) : List UInt8 :=
  encodeLittle 4 r.magic ++ encodeLittle 2 r.version ++ encodeLittle 2 r.op ++
    encodeLittle 4 (r.status % 2 ^ 32).toNat ++ encodeLittle 4 r.handle ++
    encodeLittle 4 r.length ++ payload r.data

theorem Response.field_op_encode (r : Response) : field r.encode 6 2 = r.op % 256 ^ 2 := by
  have h := field_append (encodeLittle 4 r.magic ++ encodeLittle 2 r.version) (encodeLittle 2 r.op)
    (encodeLittle 4 (r.status % 2 ^ 32).toNat ++ encodeLittle 4 r.handle ++
      encodeLittle 4 r.length ++ payload r.data)
  simp only [List.length_append, length_encodeLittle, decode_encode, Nat.reduceAdd] at h
  simpa only [Response.encode, List.append_assoc] using h

theorem Response.length_encode (r : Response) : r.encode.length = responseSize := by
  simp [Response.encode, length_payload, maxPayload, responseSize]

end Tcpcc.Control
