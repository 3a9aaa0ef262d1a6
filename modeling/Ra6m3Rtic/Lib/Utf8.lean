import Mathlib.Data.List.Basic

namespace Utf8

-- A byte index into a text at which a character starts or the text ends.
def Boundary (text : String) (index : Nat) : Prop := (⟨index⟩ : String.Pos.Raw).IsValid text

instance (text : String) (index : Nat) : Decidable (Boundary text index) :=
  decidable_of_iff ((⟨index⟩ : String.Pos.Raw).isValid text = true) String.Pos.Raw.isValid_eq_true_iff

-- The characters before the index; there is no such text off a boundary.
def sliceTo (text : String) (index : Nat) : Option String :=
  if boundary : Boundary text index then
    some (.fromUTF8 (text.toByteArray.extract 0 index) boundary.isValidUTF8_extract_zero)
  else none

def Prefix (head text : String) : Prop := ∃ rest, text = head ++ rest

-- Among the prefixes of whole characters, the longest of at most `limit` bytes.
structure LongestWithin (limit : Nat) (text head : String) : Prop where
  prefixes : Prefix head text
  within : head.utf8ByteSize ≤ limit
  longest : ∀ other, Prefix other text → other.utf8ByteSize ≤ limit → other.utf8ByteSize ≤ head.utf8ByteSize

theorem boundary_iff : Boundary text index ↔ ∃ head, Prefix head text ∧ head.utf8ByteSize = index := by
  unfold Boundary
  rw [String.Pos.Raw.isValid_iff_exists_append]
  constructor
  · intro split
    obtain ⟨head,rest,equal,size⟩ := split
    exact ⟨head,⟨rest,equal⟩,(congrArg String.Pos.Raw.byteIdx size).symm⟩
  · intro split
    obtain ⟨head,⟨rest,equal⟩,size⟩ := split
    exact ⟨head,rest,equal,by rw [← size]; rfl⟩

theorem boundary_size (text : String) : Boundary text text.utf8ByteSize :=
  boundary_iff.mpr ⟨text,⟨"",by simp⟩,rfl⟩

theorem boundary_inside (inside : index < text.toByteArray.size) :
    Boundary text index ↔ (text.toByteArray[index]).IsUTF8FirstByte := by
  unfold Boundary
  rw [String.Pos.Raw.isValid_iff_isUTF8FirstByte]
  constructor
  · intro at_
    rcases at_ with final | ⟨_,first⟩
    · have same : index = text.utf8ByteSize := congrArg String.Pos.Raw.byteIdx final
      rw [String.size_toByteArray] at inside
      omega
    · exact first
  · intro first
    exact .inr ⟨inside,first⟩

theorem Boundary.le_size (boundary : Boundary text index) : index ≤ text.utf8ByteSize := by
  obtain ⟨head,⟨rest,equal⟩,size⟩ := boundary_iff.mp boundary
  rw [equal,String.utf8ByteSize_append]
  omega

-- No boundary lies within the last character.
theorem inside_push {text : String} {c : Char} (after : text.utf8ByteSize < index)
    (before : index < text.utf8ByteSize + c.utf8Size) :
    ¬ Boundary (text.push c) index := by
  intro boundary
  rcases String.Pos.Raw.isValid_push.mp boundary with earlier | final
  · have bound := Boundary.le_size earlier
    omega
  · have same : index = text.utf8ByteSize + c.utf8Size := congrArg String.Pos.Raw.byteIdx final
    omega

theorem sliceTo_spec (boundary : Boundary text index) :
    ∃ head, sliceTo text index = some head ∧ Prefix head text ∧ head.utf8ByteSize = index := by
  obtain ⟨head,⟨rest,equal⟩,size⟩ := boundary_iff.mp boundary
  refine ⟨head,?_,⟨rest,equal⟩,size⟩
  have bytes : text.toByteArray.extract 0 index = head.toByteArray := by
    rw [equal,String.toByteArray_append,← size]
    exact ByteArray.extract_append_eq_left rfl
  simp only [sliceTo,dif_pos boundary,Option.some.injEq]
  exact String.toByteArray_inj.mp bytes

theorem sliceTo_none (inside : ¬ Boundary text index) : sliceTo text index = none := by
  simp [sliceTo,inside]

theorem Prefix.size_le (before : Prefix head text) : head.utf8ByteSize ≤ text.utf8ByteSize := by
  obtain ⟨rest,equal⟩ := before
  rw [equal,String.utf8ByteSize_append]
  omega

theorem longestWithin_of_size (before : Prefix head text) (size : head.utf8ByteSize = min text.utf8ByteSize limit) :
    LongestWithin limit text head := by
  refine ⟨before,by omega,?_⟩
  intro other otherBefore within
  have := otherBefore.size_le
  omega

theorem prefix_eq (before : Prefix head text) (size : head.utf8ByteSize = text.utf8ByteSize) : head = text := by
  obtain ⟨rest,equal⟩ := before
  rw [equal,String.utf8ByteSize_append] at size
  have none : rest = "" := String.utf8ByteSize_eq_zero_iff.mp (by omega)
  rw [equal,none]
  simp

end Utf8
