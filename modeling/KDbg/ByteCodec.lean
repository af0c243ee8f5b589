import Mathlib.Tactic
set_option autoImplicit false
/-! Values that take a fixed number of bytes, and records of them. -/
namespace ByteCodec

/-- A way to write values of a type as so many bytes and to read them back. Every value is read
 as it was written, and only its own bytes are read as it. -/
structure Codec (α : Type) where
 size : ℕ
 encode : α→List UInt8
 decode : List UInt8 → α
 length_encode : ∀ a,(encode a).length=size
 decode_encode : ∀ a,decode (encode a)=a
 encode_decode : ∀ bytes,bytes.length=size → encode (decode bytes)=bytes

namespace Codec

def raw (size : ℕ) : Codec (Fin size→UInt8) where
 size := size
 encode value := List.ofFn value
 decode bytes i := bytes.getD i 0
 length_encode value := List.length_ofFn
 decode_encode value := by
  funext i
  simp
 encode_decode bytes length := by
  subst length
  refine List.ext_getElem (by simp) fun i inside inside' => ?_
  simp

variable {α β:Type}

def pair (first : Codec α) (second : Codec β) : Codec (α×β) where
 size := first.size+second.size
 encode value := first.encode value.1++second.encode value.2
 decode bytes := (first.decode (bytes.take first.size),second.decode (bytes.drop first.size))
 length_encode value := by
  rw [List.length_append,first.length_encode,second.length_encode]
 decode_encode value := by
  rw [List.take_left' (first.length_encode _),List.drop_left' (first.length_encode _),
   first.decode_encode,second.decode_encode]
 encode_decode bytes length := by
  have head : (bytes.take first.size).length=first.size := by
   rw [List.length_take]
   omega
  have tail : (bytes.drop first.size).length=second.size := by
   rw [List.length_drop]
   omega
  rw [first.encode_decode _ head,second.encode_decode _ tail,List.take_append_drop]

def record (codec : Codec α) (equiv : β ≃ α) : Codec β where
 size := codec.size
 encode value := codec.encode (equiv value)
 decode bytes := equiv.symm (codec.decode bytes)
 length_encode value := codec.length_encode (equiv value)
 decode_encode value := by rw [codec.decode_encode,Equiv.symm_apply_apply]
 encode_decode bytes length := by rw [Equiv.apply_symm_apply,codec.encode_decode bytes length]

end Codec
end ByteCodec
