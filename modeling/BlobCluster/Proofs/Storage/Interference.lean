import BlobCluster.Proofs.Storage.Reading

/-!
# Reading a file that others change

A reader counts the bytes of its file when it is made and opens the file at its first look.  By
then, and between any two looks, the file may be cut short, grown, removed or replaced.  `Honest`
says what the next look can give, and `Progress.Of` what holds of a reading after any number of
looks: each chunk is what stood in the open file, a failure is the end, and there are never more
items than the size that was counted calls for.
-/

namespace BlobCluster

/-! ## The next look -/

namespace ChunkReader

variable {reader : ChunkReader} {volume : Volume}

/-- What the next look at the file gives. -/
structure Honest (reader : ChunkReader) (volume : Volume) : Prop where
  /-- A chunk is what stands at the offset in the open file, in the length that is due. -/
  chunk : ∀ {bytes : Bytes} {after : ChunkReader}, reader.next volume = (some (.ok bytes), after) →
    bytes.length = min reader.chunkSize (reader.size - reader.offset)
      ∧ after.offset = reader.offset + bytes.length
      ∧ ∃ number, reader.Opens volume number ∧ after.opened = some number
        ∧ bytes = ((volume.content number).toList.drop reader.offset).take bytes.length
  /-- A failure leaves the offset where it is. -/
  failure : ∀ {e : Failure} {after : ChunkReader}, reader.next volume = (some (.error e), after) →
    after.offset = reader.offset
  /-- A file that is too short for the chunk is a storage failure. -/
  short : ∀ {number : Nat}, reader.Live → reader.Opens volume number →
    (volume.content number).size
      < reader.offset + min reader.chunkSize (reader.size - reader.offset) →
    (reader.next volume).1 = some (.error
        (reader.shortRead ((volume.content number).size - reader.offset)))
      ∧ ∀ got, (reader.shortRead got).kind = .storage
  /-- A file that is long enough for the chunk gives it. -/
  enough : ∀ {number : Nat}, reader.Live → reader.Opens volume number →
    reader.offset + min reader.chunkSize (reader.size - reader.offset)
      ≤ (volume.content number).size →
    ∃ bytes, (reader.next volume).1 = some (.ok bytes)
  /-- A file that is missing when it is to be opened is not found. -/
  missing : reader.Live → reader.opened = none → volume.find reader.path = .error .noEntry →
    ∃ e, e.kind = .notFound ∧ (reader.next volume).1 = some (.error e)
  /-- At the end and after a failure there is nothing more. -/
  atEnd : ¬ reader.Live → (reader.next volume).1 = none

theorem next_of_short {number : Nat} (live : reader.Live) (opens : reader.Opens volume number)
    (short : (volume.content number).size < reader.offset + reader.want) :
    (reader.next volume).1
      = some (.error (reader.shortRead ((volume.content number).size - reader.offset))) := by
  have inside := live.2
  have length : (reader.ahead (volume.content number)).length
      = (volume.content number).size - reader.offset := by
    rw [length_ahead]
    omega
  have less : (reader.ahead (volume.content number)).length < reader.want := by
    have positive := reader.want_pos inside
    omega
  rw [next_of_live live, fetch_of_opens opens, if_pos less, length]

theorem next_of_enough {number : Nat} (live : reader.Live) (opens : reader.Opens volume number)
    (enough : reader.offset + reader.want ≤ (volume.content number).size) :
    (reader.next volume).1 = some (.ok (reader.ahead (volume.content number))) := by
  have whole : ¬ (reader.ahead (volume.content number)).length < reader.want := by
    rw [length_ahead]
    omega
  rw [next_of_live live, fetch_of_opens opens, if_neg whole]

theorem next_of_missing (live : reader.Live) (unopened : reader.opened = none)
    (missing : volume.find reader.path = .error .noEntry) :
    (reader.next volume).1 = some (.error (ChunkStore.noFile reader.label)) := by
  have refused : reader.source volume = .error (ChunkStore.noFile reader.label) := by
    unfold source
    rw [unopened]
    simp only [missing]
    rfl
  rw [next_of_live live, fetch_of_error refused]

/-- Every look is honest, whatever is on the volume. -/
theorem honest (reader : ChunkReader) (volume : Volume) : reader.Honest volume where
  chunk {bytes after} given := by
    obtain ⟨-, number, opens, chunk, length, rfl⟩ := next_eq_ok given
    refine ⟨length, rfl, number, opens, rfl, ?_⟩
    rw [length]
    exact chunk
  failure {e after} given := by
    rcases next_cases reader volume with ⟨-, same⟩ | ⟨-, e, -, same⟩ | ⟨-, number, -, -, same⟩ |
      ⟨-, number, -, -, same⟩ <;> rw [given] at same <;> cases same <;> rfl
  short live opens short := ⟨next_of_short live opens short, fun _ => rfl⟩
  enough live opens enough := ⟨_, next_of_enough live opens enough⟩
  missing live unopened missing := ⟨_, rfl, next_of_missing live unopened missing⟩
  atEnd ended := by rw [next_of_not_live ended]

/-- How many items a reader may still give. -/
def due (reader : ChunkReader) : Nat :=
  if reader.failed then 0 else (reader.size - reader.offset) ⌈/⌉ reader.chunkSize

theorem due_of_live (live : reader.Live) :
    reader.due = (reader.size - reader.offset - reader.chunkSize) ⌈/⌉ reader.chunkSize + 1 := by
  have inside := live.2
  rw [due, live.1]
  exact Bytes.ceilDiv_eq_add_one reader.chunkSize_pos (by omega)

theorem due_past (live : reader.Live) (number : Nat) {chunk : Bytes}
    (full : chunk.length = reader.want) : (reader.past number chunk).due + 1 = reader.due := by
  have left : reader.size - (reader.offset + chunk.length)
      = reader.size - reader.offset - reader.chunkSize := by
    rw [full, want]
    omega
  rw [due_of_live live, due]
  show (if reader.failed = true then _ else _) + 1 = _
  rw [live.1]
  simp only [past_offset, past_size, past_chunkSize, left, Bool.false_eq_true, if_false]

end ChunkReader

/-! ## Any number of looks -/

namespace Progress

variable {reading : Progress} {file : ChunkFile}

/-- What holds of a reading of a file at any time.  None of it mentions a volume, so it holds on
whichever one the next look finds. -/
structure Of (reading : Progress) (file : ChunkFile) : Prop where
  path : reading.reader.path = file.path
  size : reading.reader.size = file.size
  chunkSize : reading.reader.chunkSize = file.chunkSize
  within : reading.reader.offset ≤ file.size
  /-- The file is opened at the first look and stays open. -/
  once : reading.reader.Live → (reading.reader.opened = none ↔ reading.items = [])
  /-- Chunks were given, which the offset counts, and then perhaps a failure. -/
  stream : ∃ stream : ChunkStream, reading.items = stream.items
    ∧ reading.reader.failed = stream.failure.isSome
    ∧ stream.chunks.flatten.length = reading.reader.offset
  few : reading.items.length + reading.reader.due ≤ file.size ⌈/⌉ file.chunkSize

theorem of_start (file : ChunkFile) : file.reading.Of file where
  path := rfl
  size := rfl
  chunkSize := rfl
  within := Nat.zero_le _
  once _ := ⟨fun _ => rfl, fun _ => rfl⟩
  stream := ⟨⟨[], none⟩, rfl, rfl, rfl⟩
  few := by
    show 0 + (file.size - 0) ⌈/⌉ file.chunkSize ≤ _
    rw [Nat.zero_add, Nat.sub_zero]

theorem Of.chunks (of : reading.Of file) (live : reading.reader.Live) :
    ∃ chunks : List Bytes, reading.items = chunks.map .ok
      ∧ chunks.flatten.length = reading.reader.offset := by
  obtain ⟨⟨chunks, failure⟩, items, failed, offset⟩ := of.stream
  rw [live.1] at failed
  cases failure with
  | none => exact ⟨chunks, items.trans (ChunkStream.items_of_ok chunks), offset⟩
  | some e => cases failed

/-- A failure comes after the chunks and stands for all items that are still due.  The broken reader
has nothing due, so the bound on the items still holds. -/
theorem Of.broken (of : reading.Of file) (live : reading.reader.Live) (e : Failure) :
    (⟨reading.reader.broken, reading.items ++ [.error e]⟩ : Progress).Of file := by
  obtain ⟨chunks, items, offset⟩ := of.chunks live
  have due := ChunkReader.due_of_live live
  have few := of.few
  refine ⟨of.path, of.size, of.chunkSize, of.within, nofun, ⟨⟨chunks, some e⟩, ?_, rfl, offset⟩,
    ?_⟩
  · simp [items, ChunkStream.items]
  · show (reading.items ++ [Except.error e]).length + 0 ≤ _
    rw [List.length_append, List.length_singleton]
    omega

/-- A chunk moves the offset by its length, and one item less is due. -/
theorem Of.past (of : reading.Of file) (live : reading.reader.Live) (number : Nat) {chunk : Bytes}
    (full : chunk.length = reading.reader.want) :
    (⟨reading.reader.past number chunk, reading.items ++ [.ok chunk]⟩ : Progress).Of file := by
  obtain ⟨chunks, items, offset⟩ := of.chunks live
  have due := ChunkReader.due_past live number full
  have few := of.few
  have size := of.size
  have within := of.within
  have atMost := reading.reader.want_le
  refine ⟨of.path, of.size, of.chunkSize, ?_, fun _ => ⟨nofun, fun none_ => ?_⟩,
    ⟨⟨chunks ++ [chunk], none⟩, ?_, live.1, ?_⟩, ?_⟩
  · show reading.reader.offset + chunk.length ≤ _
    omega
  · simp at none_
  · simp [items, ChunkStream.items]
  · simp [offset]
  · show (reading.items ++ [Except.ok chunk]).length + (reading.reader.past number chunk).due ≤ _
    rw [List.length_append, List.length_singleton]
    omega

theorem Of.advance (of : reading.Of file) (volume : Volume) : (reading.advance volume).Of file := by
  rcases ChunkReader.next_cases reading.reader volume with ⟨atEnd, given⟩ | ⟨live, e, -, given⟩ |
    ⟨live, number, -, -, given⟩ | ⟨live, number, -, full, given⟩ <;> rw [advance_of_next given]
  · simp only [Option.toList_none, List.append_nil]
    exact ⟨of.path, of.size, of.chunkSize, of.within, fun live => absurd live atEnd, of.stream,
      of.few⟩
  · exact of.broken live e
  · exact of.broken live _
  · exact of.past live number full

theorem Of.through (of : reading.Of file) (volumes : List Volume) :
    (reading.through volumes).Of file := by
  induction volumes generalizing reading with
  | nil => exact of
  | cons volume volumes ih => exact ih (of.advance volume)

theorem through_of_failed (failed : reading.reader.failed = true) (volumes : List Volume) :
    (reading.through volumes).items = reading.items := by
  induction volumes generalizing reading with
  | nil => rfl
  | cons volume volumes ih =>
    have atEnd : ¬ reading.reader.Live := fun live => by simp [live.1] at failed
    have same := advance_of_next (ChunkReader.next_of_not_live atEnd volume)
    rw [through_cons, ih (by rw [same]; exact failed), same]
    simp

/-- Whatever was done to the file of a handle between the looks, a reading of it stays within the
size that the handle counted and gives no more items than that calls for; only its last item can be
a failure, after which it gives nothing; and the next look is honest on every volume.  A stream
takes the same items as a reading does, be it on a volume that changes or on one that stays as it
is.

Nothing is assumed of the volumes, not even that there is a file.  What has been given so far is an
invariant of single looks, each on its own volume, and the length of a chunk is decided by what the
handle has counted before the file is looked at. -/
theorem honest_under_interference (file : ChunkFile) (volumes : List Volume) :
    let reading := file.reading.through volumes
    (reading.reader.path = file.path ∧ reading.reader.size = file.size
        ∧ reading.reader.chunkSize = file.chunkSize)
      ∧ reading.reader.offset ≤ file.size
      ∧ reading.items.length ≤ file.size ⌈/⌉ file.chunkSize
      ∧ (∀ e, .error e ∈ reading.items →
          (∃ chunks : List Bytes, reading.items = chunks.map .ok ++ [.error e])
            ∧ ∀ more, (reading.through more).items = reading.items)
      ∧ (reading.reader.Live ↔ (∀ e, .error e ∉ reading.items) ∧ reading.reader.offset < file.size)
      ∧ (reading.reader.Live → (reading.reader.opened = none ↔ reading.items = []))
      ∧ (∀ volume, reading.reader.Honest volume)
      ∧ (ChunkStream.ofItems reading.items).items = reading.items
      ∧ ∀ volume, ∃ looks, let whole := file.reading.through (List.replicate looks volume)
          (file.stream volume).items = whole.items ∧ (whole.reader.next volume).1 = none := by
  intro reading
  have of : reading.Of file := (of_start file).through volumes
  obtain ⟨stream, items, failed, -⟩ := of.stream
  have few := of.few
  refine ⟨⟨of.path, of.size, of.chunkSize⟩, of.within, by omega, fun e mem => ?_, ?_, of.once,
    reading.reader.honest, by rw [items, ChunkStream.ofItems_items], fun volume => ?_⟩
  · obtain ⟨chunks, failure⟩ := stream
    have ended : failure = some e := by
      rw [items] at mem
      simpa [ChunkStream.items] using mem
    rw [ended] at items failed
    exact ⟨⟨chunks, items⟩, through_of_failed failed⟩
  · obtain ⟨chunks, failure⟩ := stream
    rw [ChunkReader.Live, of.size, failed, items]
    cases failure <;> simp [ChunkStream.items]
  · obtain ⟨looks, same, atEnd⟩ := drain_eq_through file.chunks volume
    have of := (of_start file).through (List.replicate looks volume)
    obtain ⟨stream, items, -⟩ := of.stream
    have streamed : file.stream volume = stream := by
      rw [ChunkFile.stream, same]
      exact (congrArg ChunkStream.ofItems items).trans (ChunkStream.ofItems_items stream)
    exact ⟨looks, by rw [streamed, ← items], atEnd⟩

end Progress

end BlobCluster
