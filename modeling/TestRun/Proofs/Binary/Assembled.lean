import TestRun.Proofs.Binary.Loading

/-! Documents put together from their objects: the header with the objects behind it, the table of their places and
the trailer. -/

set_option autoImplicit false

namespace TestRun.Plist.Binary

theorem placed_front (front back : List UInt8) (place : Nat) (written : List UInt8) (inside : place ≤ front.length)
    (placed : Placed front place written) : Placed (front ++ back) place written := by
  rw [Placed, List.drop_append_of_le_length inside]
  exact placed.trans (List.prefix_append _ _)

theorem placed_behind (front written back : List UInt8) (place : Nat) (behind : front.length = place) :
    Placed (front ++ (written ++ back)) place written := by
  rw [Placed, List.drop_left' behind]
  exact List.prefix_append _ _

namespace Image

def assembled (objects : List UInt8) (offsets : List Nat) (offsetWidth : Nat) : Image where
  lead := []
  bytes := objects ++ (offsets.flatMap (write offsetWidth) ++
    (List.replicate 6 0 ++ (write 1 offsetWidth ++ (write 1 1 ++
      (write 8 offsets.length ++ (write 8 0 ++ write 8 objects.length))))))
  offsets := offsets
  offsetWidth := offsetWidth
  refWidth := 1
  top := 0
  table := objects.length

theorem assembled_sound (objects : List UInt8) (offsets : List Nat) (offsetWidth : Nat) (headed : header <+: objects)
    (wide : 0 < offsetWidth ∧ offsetWidth < 256) (fit : ∀ o ∈ offsets, o < 256 ^ offsetWidth)
    (few : offsets.length < 256 ^ 8) (short : objects.length < 256 ^ 8) :
    (assembled objects offsets offsetWidth).Sound where
  lead := fun _ member => by cases member
  header := headed.trans (List.prefix_append _ _)
  offsetWide := wide
  refWide := (by decide : 0 < 1 ∧ 1 < 256)
  offsetsFit := fit
  tablePlaced := placed_behind objects _ _ objects.length rfl
  numbersFit := ⟨few, (by decide : 0 < 256 ^ 8), short⟩
  trailed := ⟨objects ++ offsets.flatMap (write offsetWidth), List.replicate 6 0, rfl, (List.append_assoc _ _ _).symm⟩

theorem assembled_stands (objects : List UInt8) (offsets : List Nat) (offsetWidth ref place : Nat) (written : List UInt8)
    (numbered : offsets[ref]? = some place) (inside : place ≤ objects.length) (placed : Placed objects place written) :
    (assembled objects offsets offsetWidth).Stands ref written :=
  ⟨place, numbered, placed_front objects _ place written inside placed⟩

end Image
end TestRun.Plist.Binary
