import MarkupQuery.Proofs.Stream.Selector

/-!
The bounds of what a streamer cuts out of its pending bytes. A capture holds the offset where its markup
starts, and this offset counts from the head of the bytes that were pending when it was opened. Main
statements: as long as no failed call leaves a capture open that starts among the pending bytes, every
slice lies within them (`Streamer.slices_in_bounds`); after a call that left such a capture open, the
next one can go out of bounds (`Streamer.next_outOfBounds_of_failed`).
-/
namespace MarkupQuery.Streamer

/-- The streamers to which calls lead, where a call of `next` that fails leaves no capture open but one
that starts at the head of the pending bytes. -/
inductive Reached (path source : Text) : Streamer → Prop
  | start : Reached path source (ofPath path source)
  | feed {s : Streamer} (reached : Reached path source s) (chunk : Bytes) :
      Reached path source (s.feed chunk)
  | finish {s : Streamer} (reached : Reached path source s) : Reached path source s.finish
  | next {s : Streamer} (reached : Reached path source s)
      (settled : s.next.1.isOk = true ∨ ∀ c, s.next.2.capture = some c → c.start = 0) :
      Reached path source s.next.2

variable {path source : Text} {s : Streamer}

theorem Within.next_of_isOk (within : s.Within 0) (sound : s.next.1.isOk = true) :
    s.next.2.Within 0 := by
  have agrees := next_agrees within
  generalize s.next = actual at agrees sound
  generalize (s.selector 0).next s.finished s.pending = expected at agrees
  cases agrees with
  | failed => cases sound
  | went settled _ _ => exact settled

/-- Induction on the calls. -/
theorem Reached.within (reached : Reached path source s) : s.Within 0 := by
  induction reached with
  | start => exact within_ofPath path source
  | feed _ chunk ih => exact ih.feed chunk
  | finish _ ih => exact ih.finish
  | next _ settled ih =>
    rcases settled with sound | headed
    · exact ih.next_of_isOk sound
    · constructor
      · exact Nat.zero_le _
      · intro c captured
        exact Nat.le_of_eq (headed c captured)

/-- What a run has passed over is pending, and a capture that is open after it starts no later. -/
theorem Within.run_bounds (within : s.Within 0) {found : Option Fragment} {count : Nat}
    {after : Streamer} (ran : s.run ⟨s.finished, 0, s.pending⟩ = (.ok found, count, after)) :
    count ≤ s.pending.length ∧ ∀ c, after.capture = some c → c.start ≤ count := by
  have agrees := run_agrees within
  rw [List.drop_zero, ran] at agrees
  generalize (s.selector 0).run s.finished s.pending = expected at agrees
  cases agrees with
  | went passed same =>
    rw [← same.pending]
    exact ⟨passed.le_length, passed.start_le⟩

/-- No slice of the pending bytes is taken out of bounds, neither where an element is closed nor where
bytes are used up. -/
theorem slices_in_bounds (reached : Reached path source s) :
    (∀ start stop, s.next.1 ≠ .error (.outOfBounds start stop)) ∧
      ∀ found count after, s.run ⟨s.finished, 0, s.pending⟩ = (.ok found, count, after) →
        count ≤ s.pending.length ∧ ∀ c, after.capture = some c → c.start ≤ count := by
  have within := reached.within
  constructor
  · intro start stop bad
    have agrees := next_agrees within
    generalize s.next = actual at agrees bad
    generalize (s.selector 0).next s.finished s.pending = expected at agrees
    cases agrees with
    | failed => cases bad
    | went => cases bad
  · intro found count after ran
    exact within.run_bounds ran

/-- The element at `a`, with its tag cut in two and a fragment asked for in between. -/
theorem slices_in_bounds_of_cut_tag :
    (((ofPath ['a'] []).feed [0x3c, 0x61]).next.1.isOk = true) ∧
      ∀ start stop, ((((ofPath ['a'] []).feed [0x3c, 0x61]).next.2).feed [0x2f, 0x3e]).next.1 ≠
        .error (.outOfBounds start stop) := by
  have sound : ((ofPath ['a'] []).feed [0x3c, 0x61]).next.1.isOk = true := by decide +kernel
  exact ⟨sound, (slices_in_bounds (.feed (.next (.feed .start _) (.inl sound)) _)).1⟩

/-- After the streamer for `r.y` has read `<r><a><y>`, the call on `</y></a><y><!x>` fails at the
declaration with the second `y` open since offset 8. Called again, it reads the same bytes from their head
and closes that `y` with the end tag that ends at offset 4. -/
theorem next_outOfBounds_of_failed :
    let s := ((ofPath "r.y".toList []).feed (Utf8.encode "<r><a><y>".toList)).next.2.feed
      (Utf8.encode "</y></a><y><!x>".toList)
    s.next.1.isOk = false ∧ s.next.2.capture.map (·.start) = some 8 ∧
      s.next.2.next.1 = .error (.outOfBounds 8 4) := by
  decide +kernel

end MarkupQuery.Streamer
