import SharedAudio.Ring.Attachment

namespace SharedAudio

def arc (cells : Array Sample) (size start count : Nat) : List Sample :=
  (List.range count).map fun i => cells.getD ((start + i) % size) 0

theorem length_arc (cells : Array Sample) (size start count : Nat) :
    (arc cells size start count).length = count := by simp [arc]

theorem arc_mod (cells : Array Sample) (size start count : Nat) :
    arc cells size (start % size) count = arc cells size start count := by
  simp only [arc, Nat.mod_add_mod]

theorem arc_add (cells : Array Sample) (size start first second : Nat) :
    arc cells size start (first + second) =
      arc cells size start first ++ arc cells size (start + first) second := by
  simp [arc, List.range_add, Nat.add_assoc]

theorem take_arc (cells : Array Sample) (size start : Nat) {count k : Nat} (h : k ≤ count) :
    (arc cells size start count).take k = arc cells size start k := by
  obtain ⟨rest, rfl⟩ := Nat.exists_eq_add_of_le h
  rw [arc_add, List.take_left' (length_arc ..)]

theorem drop_arc (cells : Array Sample) (size start : Nat) {count k : Nat} (h : k ≤ count) :
    (arc cells size start count).drop k = arc cells size (start + k) (count - k) := by
  obtain ⟨rest, rfl⟩ := Nat.exists_eq_add_of_le h
  rw [arc_add, List.drop_left' (length_arc ..), Nat.add_sub_cancel_left]

theorem arc_congr {cells others : Array Sample} {size start count : Nat}
    (h : ∀ i < count, cells.getD ((start + i) % size) 0 = others.getD ((start + i) % size) 0) :
    arc cells size start count = arc others size start count := by
  apply List.map_congr_left
  intro i hi
  exact h i (List.mem_range.mp hi)

theorem Stretch.toList_read {s : Stretch} {cells : Array Sample} {size : Nat}
    (within : s.stop ≤ size) (present : size ≤ cells.size) :
    (s.read cells).toList = arc cells size s.start s.size := by
  simp only [Stretch.stop] at within
  apply List.ext_getElem
  · rw [length_arc, Array.length_toList, size_read (by simp only [Stretch.stop]; omega)]
  · intro i hi hj
    rw [length_arc] at hj
    simp only [read, arc, Array.getElem_toList, Array.getElem_extract, List.getElem_map,
      List.getElem_range]
    rw [Nat.mod_eq_of_lt (by omega), Array.getD_eq_getD_getElem?,
      Array.getElem?_eq_getElem (by omega), Option.getD_some]

theorem getElem?_overlay_ite {cells : Array Sample} {start : Nat} {block : List Sample}
    (present : start + block.length ≤ cells.size) (i : Nat) :
    (overlay cells start block)[i]? =
      if start ≤ i ∧ i < start + block.length then block[i - start]? else cells[i]? := by
  split
  next inside =>
    obtain ⟨offset, rfl⟩ := Nat.exists_eq_add_of_le inside.1
    rw [getElem?_overlay (by omega) (by omega), Nat.add_sub_cancel_left]
  next outside =>
    by_cases before : i < start
    · rw [getElem?_overlay_of_lt before]
    · rw [getElem?_overlay_of_ge (by omega)]

theorem getD_overlay (cells : Array Sample) (start : Nat) (block : List Sample) (i : Nat)
    (present : start + block.length ≤ cells.size) :
    (overlay cells start block).getD i 0 =
      if start ≤ i ∧ i < start + block.length then block.getD (i - start) 0
      else cells.getD i 0 := by
  simp only [Array.getD_eq_getD_getElem?, List.getD_eq_getElem?_getD, getElem?_overlay_ite present]
  split <;> rfl

theorem mod_of_lt_twice {n size : Nat} (h : n < 2 * size) :
    n < size ∧ n % size = n ∨ size ≤ n ∧ n % size = n - size := by
  by_cases small : n < size
  · exact .inl ⟨small, Nat.mod_eq_of_lt small⟩
  · right
    rw [Nat.mod_eq_sub_mod (by omega), Nat.mod_eq_of_lt (by omega)]
    omega

structure Stretch.Cover (first second : Stretch) (size start count : Nat) : Prop where
  starts : first.start = start
  within : first.stop ≤ size
  resumes : second.start = 0
  total : first.size + second.size = count
  bounded : count ≤ size
  wraps : second.size = 0 ∨ first.stop = size

namespace Stretch.Cover

variable {first second : Stretch} {size start count : Nat} {cells : Array Sample}

theorem toList_read (h : first.Cover second size start count) (present : size ≤ cells.size) :
    (first.read cells).toList ++ (second.read cells).toList = arc cells size start count := by
  obtain ⟨starts, within, resumes, total, bounded, wraps⟩ := h
  simp only [stop] at within wraps
  rw [Stretch.toList_read within present,
    Stretch.toList_read (by simp only [stop]; omega) present, ← total, arc_add, starts, resumes]
  rcases wraps with none | full
  · simp [none, arc]
  · rw [← arc_mod cells size (start + first.size), ← starts, full, Nat.mod_self]

theorem size_read (h : first.Cover second size start count) (present : size ≤ cells.size) :
    (first.read cells).size = first.size ∧ (second.read cells).size = second.size := by
  obtain ⟨starts, within, resumes, total, bounded, wraps⟩ := h
  exact ⟨Stretch.size_read (by omega), Stretch.size_read (by simp only [stop]; omega)⟩

def write (first second : Stretch) (cells : Array Sample) (block : List Sample) : Array Sample :=
  overlay (overlay cells first.start (block.take first.size)) second.start (block.drop first.size)

theorem getD_write (h : first.Cover second size start count) (present : size ≤ cells.size)
    {block : List Sample} (length : block.length = count) (i : Nat) :
    (write first second cells block).getD i 0 =
      if i < second.size then block.getD (first.size + i) 0
      else if start ≤ i ∧ i < start + first.size then block.getD (i - start) 0
      else cells.getD i 0 := by
  obtain ⟨starts, within, resumes, total, bounded, wraps⟩ := h
  simp only [stop] at within wraps
  have head : (block.take first.size).length = first.size := by
    rw [List.length_take]
    omega
  have tail : (block.drop first.size).length = second.size := by
    rw [List.length_drop]
    omega
  rw [write, getD_overlay _ _ _ _ (by rw [tail, size_overlay]; omega), tail, resumes]
  simp only [Nat.zero_le, true_and, Nat.zero_add, Nat.sub_zero]
  split
  next =>
    rw [List.getD_eq_getElem?_getD, List.getElem?_drop, ← List.getD_eq_getElem?_getD]
  next =>
    rw [getD_overlay _ _ _ _ (by rw [head]; omega), head, starts]
    split
    next inside =>
      rw [List.getD_eq_getElem?_getD, List.getElem?_take_of_lt (by omega),
        ← List.getD_eq_getElem?_getD]
    next => rfl

theorem arc_write (h : first.Cover second size start count) (present : size ≤ cells.size)
    {block : List Sample} (length : block.length = count) :
    arc (write first second cells block) size start count = block := by
  apply List.ext_getElem (by rw [length_arc, length])
  intro i hi hj
  simp only [arc, List.getElem_map, List.getElem_range]
  rw [h.getD_write present length]
  obtain ⟨starts, within, resumes, total, bounded, wraps⟩ := h
  simp only [stop] at within wraps
  rcases mod_of_lt_twice (show start + i < 2 * size by omega) with ⟨small, eq⟩ | ⟨large, eq⟩
  · rw [eq, if_neg (by omega), if_pos (by omega), Nat.add_sub_cancel_left,
      List.getD_eq_getElem?_getD, List.getElem?_eq_getElem hj, Option.getD_some]
  · rw [eq, if_pos (by omega), show first.size + (start + i - size) = i by omega,
      List.getD_eq_getElem?_getD, List.getElem?_eq_getElem hj, Option.getD_some]

theorem arc_write_of_disjoint (h : first.Cover second size start count)
    (present : size ≤ cells.size) {block : List Sample} (length : block.length = count)
    {before : Nat} {queued : Nat} (meets : (before + queued) % size = start % size)
    (apart : queued + count ≤ size) :
    arc (write first second cells block) size before queued = arc cells size before queued := by
  apply arc_congr
  intro i hi
  rw [h.getD_write present length]
  obtain ⟨starts, within, resumes, total, bounded, wraps⟩ := h
  simp only [stop] at within wraps
  have place := mod_of_lt_twice (show before % size + i < 2 * size by
    have := Nat.mod_lt before (show 0 < size by omega)
    omega)
  have join := mod_of_lt_twice (show before % size + queued < 2 * size by
    have := Nat.mod_lt before (show 0 < size by omega)
    omega)
  have head := mod_of_lt_twice (show start < 2 * size by omega)
  rw [Nat.mod_add_mod] at place join
  rw [if_neg (by omega), if_neg (by omega)]

end Stretch.Cover

namespace Attachment

def span (a : Attachment) : Nat := a.capacity * a.channels

theorem cover_stretches (a : Attachment) {start frames : Nat} (inside : start < a.capacity)
    (within : frames ≤ a.capacity) :
    (a.stretches start frames).1.Cover (a.stretches start frames).2 a.span
      (start * a.channels) (frames * a.channels) := by
  have stops := a.stretches_stop_le start frames
  have total := a.stretches_size start frames
  rw [Nat.min_eq_left within] at total
  refine ⟨?_, stops.1, rfl, total, Nat.mul_le_mul_right _ within, ?_⟩
  · simp only [stretches, Nat.min_eq_left (Nat.le_of_lt inside)]
  · by_cases fits : start + frames ≤ a.capacity
    · left
      simp only [stretches, Nat.min_eq_left within, Nat.min_eq_left (Nat.le_of_lt inside),
        Nat.min_eq_right (show frames ≤ a.capacity - start by omega), Nat.sub_self, Nat.zero_mul]
    · right
      simp only [stretches, Stretch.stop, span, Nat.min_eq_left within,
        Nat.min_eq_left (Nat.le_of_lt inside),
        Nat.min_eq_left (show a.capacity - start ≤ frames by omega), ← Nat.add_mul]
      rw [Nat.add_sub_cancel' (Nat.le_of_lt inside)]

end Attachment

end SharedAudio
