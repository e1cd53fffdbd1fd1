import UblkAzblob.Foundation.Bytes

namespace Storage

/-- An update gives bytes to a range, and says whether it completed. -/
abbrev Update := Nat × List UInt8 × Bool

/-- A value that a byte can have after some updates, the newest first; an update that did not complete
may have missed the byte. -/
def Latest (content : Store) : List Update → Nat → UInt8 → Prop
  | [], x, value => value = content x
  | (offset, data, completed) :: older, x, value =>
      if offset ≤ x ∧ x < offset + data.length then
        value = byteAt data (x - offset) ∨ completed = false ∧ Latest content older x value
      else Latest content older x value

/-- A value that a byte can have after a log, which lists the oldest update first. -/
def After (content : Store) (log : List Update) (x : Nat) (value : UInt8) : Prop :=
  Latest content log.reverse x value

/-- A value that a byte can have after at least the first `floor` updates of a log. -/
def Recent (content : Store) (log : List Update) (floor x : Nat) (value : UInt8) : Prop :=
  ∃ count, floor ≤ count ∧ count ≤ log.length ∧ After content (log.take count) x value

variable {content : Store} {log : List Update} {floor x : Nat} {value : UInt8}

@[simp] theorem after_nil : After content [] x value ↔ value = content x := Iff.rfl

theorem after_append_one (offset : Nat) (data : List UInt8) (completed : Bool) :
    After content (log ++ [(offset, data, completed)]) x value ↔
      if offset ≤ x ∧ x < offset + data.length then
        value = byteAt data (x - offset) ∨ completed = false ∧ After content log x value
      else After content log x value := by
  simp only [After, List.reverse_append, List.reverse_singleton, List.singleton_append, Latest]

/-- An update of no bytes changes nothing. -/
theorem after_append_empty (offset : Nat) (completed : Bool) :
    After content (log ++ [(offset, [], completed)]) x value ↔ After content log x value := by
  rw [after_append_one, if_neg (by simp only [List.length_nil]; omega)]

theorem byteAt_take {data : List UInt8} {count index : Nat} (inside : index < count) :
    byteAt (data.take count) index = byteAt data index := by
  simp only [byteAt, List.getD_eq_getElem?_getD, List.getElem?_take_of_lt inside]

theorem byteAt_drop_take {data : List UInt8} {start len index : Nat} (inside : index < len) :
    byteAt ((data.drop start).take len) index = byteAt data (start + index) := by
  rw [byteAt_take inside]
  simp only [byteAt, List.getD_eq_getElem?_getD, List.getElem?_drop]

section Progress

variable {offset done len : Nat} {data : List UInt8}

/-- An update that is carried on overwrites the next bytes of its range. -/
theorem After.carryOn {store : Store} (fits : done + len ≤ data.length)
    (before : After content (log ++ [(offset, data.take done, true)]) x (store x)) :
    After content (log ++ [(offset, data.take (done + len), true)]) x
      (splice store (offset + done) ((data.drop done).take len) x) := by
  have early : (data.take done).length = done := by rw [List.length_take]; omega
  have late : (data.take (done + len)).length = done + len := by rw [List.length_take]; omega
  have piece : ((data.drop done).take len).length = len := by
    rw [List.length_take, List.length_drop]
    omega
  rw [after_append_one, early] at before
  rw [after_append_one, late]
  by_cases inside : offset ≤ x ∧ x < offset + (done + len)
  · rw [if_pos inside]
    left
    rw [byteAt_take (by omega)]
    by_cases fresh : offset + done ≤ x
    · rw [splice_inside fresh (by omega), byteAt_drop_take (by omega)]
      congr 1
      omega
    · rw [if_pos (by omega)] at before
      rw [splice_outside (by omega), before.resolve_right (by simp), byteAt_take (by omega)]
  · rw [if_neg inside, splice_outside (by omega)]
    rw [if_neg (by omega)] at before
    exact before

/-- An update that is given up has reached a part of its range. -/
theorem After.giveUp (before : After content (log ++ [(offset, data.take done, true)]) x value) :
    After content (log ++ [(offset, data, false)]) x value := by
  rw [after_append_one, List.length_take] at before
  rw [after_append_one]
  by_cases reached : offset ≤ x ∧ x < offset + min done data.length
  · rw [if_pos reached] at before
    rw [if_pos (by omega), ← byteAt_take (by omega : x - offset < done)]
    exact .inl (before.resolve_right (by simp))
  · rw [if_neg reached] at before
    split
    · exact .inr ⟨rfl, before⟩
    · exact before

end Progress

theorem Recent.of_after (after : After content log x value) (old : floor ≤ log.length) :
    Recent content log floor x value :=
  ⟨log.length, old, Nat.le_refl _, by rw [List.take_length]; exact after⟩

theorem Recent.append (recent : Recent content log floor x value) (more : List Update) :
    Recent content (log ++ more) floor x value := by
  obtain ⟨count, old, inside, after⟩ := recent
  refine ⟨count, old, by rw [List.length_append]; omega, ?_⟩
  rw [List.take_append_of_le_length inside]
  exact after

/-- A recent value stays recent when the last update is replaced by one that explains it as well. -/
theorem Recent.replace {first second : Update} (old : floor ≤ log.length)
    (recent : Recent content (log ++ [first]) floor x value)
    (explained : After content (log ++ [first]) x value →
      After content (log ++ [second]) x value ∨ After content log x value) :
    Recent content (log ++ [second]) floor x value := by
  obtain ⟨count, above, inside, after⟩ := recent
  rw [List.length_append, List.length_singleton] at inside
  by_cases early : count ≤ log.length
  · rw [List.take_append_of_le_length early] at after
    exact (show Recent content log floor x value from ⟨count, above, early, after⟩).append _
  · rw [List.take_of_length_le (by rw [List.length_append, List.length_singleton]; omega)] at after
    rcases explained after with kept | earlier
    · exact .of_after kept (by rw [List.length_append]; omega)
    · exact (Recent.of_after earlier old).append _

/-- A value of the part of an update that was done, or an older one, is recent while the update goes on. -/
theorem Recent.carryOn {offset done more : Nat} {data : List UInt8} (old : floor ≤ log.length)
    (later : done ≤ more)
    (recent : Recent content (log ++ [(offset, data.take done, true)]) floor x value) :
    Recent content (log ++ [(offset, data.take more, true)]) floor x value := by
  refine recent.replace old fun after => ?_
  rw [after_append_one, List.length_take] at after
  rw [after_append_one, List.length_take]
  by_cases reached : offset ≤ x ∧ x < offset + min done data.length
  · rw [if_pos reached] at after
    rw [if_pos (by omega), byteAt_take (by omega), ← byteAt_take (by omega : x - offset < done)]
    exact .inl (.inl (after.resolve_right (by simp)))
  · rw [if_neg reached] at after
    exact .inr after

theorem Recent.giveUp {offset done : Nat} {data : List UInt8} (old : floor ≤ log.length)
    (recent : Recent content (log ++ [(offset, data.take done, true)]) floor x value) :
    Recent content (log ++ [(offset, data, false)]) floor x value :=
  recent.replace old fun after => .inl after.giveUp

end Storage
