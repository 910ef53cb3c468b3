import TufanAks.OfflineBuffer

/-!
# The offline buffer is a queue

`content` lists the buffered packets, oldest first.  On it `ob_push` appends, dropping the head if
the buffer is full, `ob_peek` reads the head and `ob_drop_front` drops it.
-/

namespace TufanAks.OfflineBuffer

/-- The buffered packets, oldest first. -/
def content (b : OfflineBuffer) : List TelemetryData :=
  Buffer.window OB_CAPACITY b.s_buf b.s_head b.s_count

@[simp] theorem length_content (b : OfflineBuffer) : b.content.length = b.s_count :=
  Buffer.length_window ..

theorem content_eq_nil {b : OfflineBuffer} (h : b.s_count = 0) : b.content = [] := by
  rw [← List.length_eq_zero_iff, length_content, h]

/-- A buffer with a packet, and the buffer without it. -/
theorem content_advance (b : OfflineBuffer) (h : b.s_count ≠ 0) :
    b.content = b.s_buf b.s_head :: (b.advance h).content := by
  obtain ⟨n, hn⟩ := Nat.exists_eq_succ_of_ne_zero h
  have hhead : b.s_head % OB_CAPACITY = b.s_head := Nat.mod_eq_of_lt b.head_lt
  show Buffer.window OB_CAPACITY b.s_buf b.s_head b.s_count =
    _ :: Buffer.window OB_CAPACITY b.s_buf ((b.s_head + 1) % OB_CAPACITY) (b.s_count - 1)
  rw [hn, Nat.succ_eq_add_one, Buffer.window_succ, hhead, Nat.add_sub_cancel]

theorem content_append (data : TelemetryData) (b : OfflineBuffer) (h : b.s_count < OB_CAPACITY) :
    (b.append data h).content = b.content ++ [data] := by
  show Buffer.window OB_CAPACITY (Function.update b.s_buf b.s_tail data) b.s_head
    (b.s_count + 1) = _
  rw [b.tail_eq, Buffer.window_update h]
  rfl

/-- **`ob_push`** appends the packet, and a full buffer loses its oldest one. -/
theorem content_obPush (data : TelemetryData) (b : OfflineBuffer) :
    (obPush data b).2.content =
      (if b.s_count = OB_CAPACITY then b.content.tail else b.content) ++ [data] := by
  unfold obPush
  split_ifs with h
  · show (append data (b.advance _) _).content = _
    rw [content_append, content_advance b (ne_zero_of_full h), List.tail_cons]
  · show (append data b _).content = _
    rw [content_append]

/-- What is in the buffer after a push ends with what was there and the new packet. -/
theorem content_obPush_suffix (data : TelemetryData) (b : OfflineBuffer) :
    (obPush data b).2.content <:+ b.content ++ [data] := by
  rw [content_obPush]
  split_ifs
  · obtain ⟨oldest, holdest⟩ := List.tail_suffix b.content
    exact ⟨oldest, by rw [← List.append_assoc, holdest]⟩
  · exact List.suffix_rfl

/-- **`ob_peek`** reads the oldest packet. -/
theorem obPeek_eq (b : OfflineBuffer) : obPeek b = b.content.head? := by
  unfold obPeek
  split_ifs with h
  · rw [content_eq_nil h]
    rfl
  · rw [content_advance b h]
    rfl

/-- **`ob_drop_front`** drops it. -/
theorem content_obDropFront (b : OfflineBuffer) :
    (obDropFront b).2.content = b.content.tail := by
  unfold obDropFront
  split_ifs with h
  · rw [content_eq_nil h]
    rfl
  · rw [content_advance b h]
    rfl

end TufanAks.OfflineBuffer
