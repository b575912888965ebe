import SharedAudio.Sample

namespace SharedAudio

structure Stretch where
  start : Nat
  size : Nat
deriving DecidableEq, Repr

namespace Stretch

def stop (s : Stretch) : Nat := s.start + s.size

def read (s : Stretch) (cells : Array Sample) : Array Sample := cells.extract s.start s.stop

theorem size_read {s : Stretch} {cells : Array Sample} (h : s.stop ≤ cells.size) :
    (s.read cells).size = s.size := by
  simp only [stop] at h
  simp only [read, stop, Array.size_extract]
  omega

end Stretch

def overlay (cells : Array Sample) (start : Nat) : List Sample → Array Sample
  | [] => cells
  | x :: block => overlay (cells.setIfInBounds start x) (start + 1) block

@[simp] theorem size_overlay (cells : Array Sample) (start : Nat) (block : List Sample) :
    (overlay cells start block).size = cells.size := by
  induction block generalizing cells start with
  | nil => rfl
  | cons x block ih => simp [overlay, ih]

theorem getElem?_overlay_of_lt {cells : Array Sample} {block : List Sample} {start i : Nat}
    (before : i < start) : (overlay cells start block)[i]? = cells[i]? := by
  induction block generalizing cells start with
  | nil => rfl
  | cons x block ih =>
    rw [overlay, ih (by omega), Array.getElem?_setIfInBounds_ne (by omega)]

theorem getElem?_overlay_of_ge {cells : Array Sample} {block : List Sample} {start i : Nat}
    (after : start + block.length ≤ i) : (overlay cells start block)[i]? = cells[i]? := by
  induction block generalizing cells start with
  | nil => rfl
  | cons x block ih =>
    simp only [List.length_cons] at after
    rw [overlay, ih (by omega), Array.getElem?_setIfInBounds_ne (by omega)]

theorem getElem?_overlay {cells : Array Sample} {block : List Sample} {start i : Nat}
    (h : start + i < cells.size) (inside : i < block.length) :
    (overlay cells start block)[start + i]? = block[i]? := by
  induction block generalizing cells start i with
  | nil => simp at inside
  | cons x block ih =>
    cases i with
    | zero =>
      rw [overlay, getElem?_overlay_of_lt (by omega)]
      simp [Array.getElem?_setIfInBounds_self_of_lt (show start < cells.size by omega)]
    | succ i =>
      have shifted := @ih (cells.setIfInBounds start x) (start + 1) i (by simp; omega)
        (by simpa using inside)
      rw [overlay, show start + (i + 1) = start + 1 + i by omega, shifted]
      simp

end SharedAudio
